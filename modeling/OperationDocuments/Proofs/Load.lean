import Mathlib
import OperationDocuments.Load.Session
import OperationDocuments.Proofs.Mentions
import OperationDocuments.Proofs.Separation

/-! # Loads, directives and merges

What a load that succeeds has done: it has read the directives of its text, resolved each of them
and merged the fragments. -/
namespace OperationDocuments

/-! ## Loaded documents

A load succeeds when its source parses, has the names it needs, can be expanded and can be split;
filters then take operations away. What is stored under an operation is therefore a separated
part of the whole document, wherever the imports came from. -/

theorem Assoc.find?_filter_keys {α : Type} (p : String → Bool) (entries : Assoc String α)
    (key : String) : Assoc.find? (entries.filter fun entry => p entry.1) key =
      if p key then Assoc.find? entries key else none := by
  induction entries with
  | nil => simp [Assoc.find?]
  | cons entry more ih =>
    obtain ⟨k, v⟩ := entry
    by_cases hk : k = key
    · subst hk
      cases hp : p k <;> simp [Assoc.find?, hp, ih]
    · cases hp : p k <;> simp [Assoc.find?, hp, ih, hk]

namespace OperationFilter

theorem value_keep (f : OperationFilter) (entries : Assoc String Document) :
    (f.keep entries).value = entries.filter fun entry => f.accepts entry.1 := by
  induction entries with
  | nil => rfl
  | cons entry more ih =>
    rw [keep, List.filter_cons]
    cases f.accepts entry.1 <;> simp [ih]

theorem value_apply (f : OperationFilter) (l : Loaded) :
    (f.apply l).value =
      { l with operations := l.operations.filter fun entry => f.accepts entry.1 } := by
  simp [apply, value_keep]

theorem value_applyAll (filters : List OperationFilter) (l : Loaded) :
    (applyAll filters l).value =
      { l with operations :=
          l.operations.filter fun entry => filters.all fun f => f.accepts entry.1 } := by
  induction filters generalizing l with
  | nil => simp [applyAll, List.filter_eq_self.mpr]
  | cons f more ih =>
    rw [applyAll, Logged.value_bind, ih, value_apply]
    simp [List.filter_filter, Bool.and_comm]

end OperationFilter

namespace Resolver

variable {resolve : Resolver} {text : String} {name : Option String} {loaded : Loaded}

theorem mapError_eq_ok_iff {ε ε' α : Type} {f : ε → ε'} {x : Except ε α} {a : α} :
    x.mapError f = .ok a ↔ x = .ok a := by
  cases x <;> simp [Except.mapError]

theorem returns_load : (resolve.load text name).Returns loaded ↔
    ∃ parsed parts, Modules.parse text name = .ok parsed ∧
      Modules.checkSeveral parsed (Document.sourceName name) = .ok () ∧
      (Import.expand text parsed fun reference => resolve reference name).Returns
        loaded.document ∧
      loaded.document.split (some (Document.sourceName name)) = .ok parts ∧
      Import.scan text = .ok loaded.imports ∧
      loaded.source = Document.sourceName name ∧ loaded.operations = parts.value := by
  unfold load
  simp only [Loading.returns_bind, Loading.returns_ofExcept, Loading.returns_lift,
    Loading.returns_report, Loading.returns_pure, mapError_eq_ok_iff]
  constructor
  · rintro ⟨parsed, hp, _, hc, document, he, parts, hs, _, rfl, imports, hi, _, -, rfl⟩
    exact ⟨parsed, parts, hp, hc, he, hs, hi, rfl, rfl⟩
  · rintro ⟨parsed, parts, hp, hc, he, hs, hi, hsource, hoperations⟩
    obtain ⟨source, document, operations, imports⟩ := loaded
    cases hsource
    cases hoperations
    exact ⟨parsed, hp, (), hc, document, he, parts, hs, _, rfl, imports, hi, (), trivial, rfl⟩

theorem returns_loadFiltered {filters : List OperationFilter} :
    (resolve.loadFiltered filters text name).Returns loaded ↔
      ∃ whole, (resolve.load text name).Returns whole ∧
        loaded = { whole with operations :=
          whole.operations.filter fun entry => filters.all fun f => f.accepts entry.1 } := by
  unfold loadFiltered
  simp only [Loading.returns_bind, Loading.returns_lift, OperationFilter.value_applyAll]
  constructor
  · rintro ⟨whole, h, rfl⟩
    exact ⟨whole, h, rfl⟩
  · rintro ⟨whole, h, rfl⟩
    exact ⟨whole, h, rfl⟩

theorem isSeparation_of_loaded {filters : List OperationFilter} {operation : String}
    {part : Document} (accepted : (resolve.loadFiltered filters text name).Returns loaded)
    (stored : Assoc.find? loaded.operations operation = some part) :
    loaded.document.IsSeparation operation part := by
  obtain ⟨whole, h, rfl⟩ := returns_loadFiltered.mp accepted
  obtain ⟨-, parts, -, -, -, split, -, -, operations⟩ := returns_load.mp h
  have kept : Assoc.find? parts.value operation = some part := by
    rw [Assoc.find?_filter_keys (fun key => filters.all fun f => f.accepts key)] at stored
    split at stored
    · rwa [operations] at stored
    · cases stored
  rcases Document.split_eq_ok_iff.mp split with ⟨-, rfl⟩ | ⟨-, -, rfl⟩
  · simp [Assoc.find?] at kept
  · exact Document.isSeparation_of_find? kept

/-- A fragment that is spread somewhere in the document of an operation has a definition there
exactly if the first definition of its name in the whole document, of whatever kind, is a
fragment. -/
theorem spread_fragment_present_iff (resolve : Resolver) (filters : List OperationFilter)
    (text : String) (name : Option String) (loaded : Loaded)
    (accepted : (resolve.loadFiltered filters text name).Returns loaded)
    (operation : String) (part : Document)
    (stored : Assoc.find? loaded.operations operation = some part)
    (x : Definition) (hx : x ∈ part.definitions) (fragment : String)
    (spread : x.Spreads fragment) :
    (∃ f ∈ part.fragments, f.name = fragment) ↔
      ∃ f, loaded.document.FirstNamed fragment (.fragment f) := by
  have sep := isSeparation_of_loaded accepted stored
  have mentioned : fragment ∈ x.references := Definition.mem_references.mpr (Or.inl spread)
  constructor
  · rintro ⟨f, hf, rfl⟩
    obtain ⟨a, ha, -⟩ := (sep.exact (.fragment f)).mp (Document.mem_fragments.mp hf)
    cases ha.name_eq
    exact ⟨f, ha⟩
  · rintro ⟨f, first⟩
    have present := sep.closed hx mentioned first
    exact ⟨f, Document.mem_fragments.mpr present, Option.some.inj first.name_eq⟩

end Resolver

namespace Sample

def load (table : Assoc String String) (text : String) : Loading LoadError Loaded :=
  Resolver.loadFiltered (Modules.ofTable table).resolve [] text none

def imported : Loaded where
  source := Document.defaultSource
  document := ⟨Document.defaultSource,
    [query "A" [.field none "a" [] [] [spread "F"]], query "B" [field "x"],
      fragment "F" [field "y"]]⟩
  operations :=
    [("A", ⟨Document.defaultSource,
        [query "A" [.field none "a" [] [] [spread "F"]], fragment "F" [field "y"]]⟩),
      ("B", ⟨Document.defaultSource, [query "B" [field "x"]]⟩)]
  imports := ["f"]

/-- The query "F" stands in front of the fragment "F". -/
def covered : Loaded where
  source := Document.defaultSource
  document := ⟨Document.defaultSource,
    [query "A" [spread "F"], query "F" [field "x"], fragment "F" [field "y"]]⟩
  operations :=
    [("A", ⟨Document.defaultSource, [query "A" [spread "F"], query "F" [field "x"]]⟩),
      ("F", ⟨Document.defaultSource, [query "F" [field "x"]]⟩)]
  imports := []

end Sample

namespace Resolver

theorem spread_fragment_present_imported :
    (Sample.load [("f", "fragment F on T { y }")]
        "#import f\nquery A { a { ...F } } query B { x }").Returns Sample.imported ∧
      ∃ part, Assoc.find? Sample.imported.operations "A" = some part ∧
        ∃ x ∈ part.definitions, x.Spreads "F" ∧ ∃ f ∈ part.fragments, f.name = "F" := by
  have accepted : (Sample.load [("f", "fragment F on T { y }")]
      "#import f\nquery A { a { ...F } } query B { x }").Returns Sample.imported := by cbv
  have nested : (Sample.query "A" [.field none "a" [] [] [Sample.spread "F"]]).Spreads "F" :=
    ⟨_, List.mem_singleton.mpr rfl, .field (List.mem_singleton.mpr rfl) (.here "F" [])⟩
  refine ⟨accepted, _, rfl, _, List.mem_cons_self, nested, ?_⟩
  refine (spread_fragment_present_iff _ [] _ none Sample.imported accepted "A" _ rfl _
    List.mem_cons_self "F" nested).mpr ?_
  exact ⟨_, Document.find?_eq_some_iff.mp rfl⟩

/-- An operation in front of the fragment of its name keeps it out of the documents that spread
it. -/
theorem covered_lacks_fragment :
    (Sample.load [] "query A { ...F } query F { x } fragment F on T { y }").Returns
        Sample.covered ∧
      ∃ part, Assoc.find? Sample.covered.operations "A" = some part ∧
        (∃ x ∈ part.definitions, x.Spreads "F") ∧
        (∃ f ∈ Sample.covered.document.fragments, f.name = "F") ∧
        ¬∃ f ∈ part.fragments, f.name = "F" := by
  refine ⟨by cbv, _, rfl, ⟨_, List.mem_cons_self, ?_⟩, ⟨_, List.mem_singleton.mpr rfl, rfl⟩, ?_⟩
  · exact ⟨_, List.mem_singleton.mpr rfl, .here "F" []⟩
  · rintro ⟨f, hf, -⟩
    cases hf

end Resolver

end OperationDocuments

namespace OperationDocuments.Import

/-! ## Reading import directives

A line of the leading block is a directive if the word behind its `#` is `import`. The word after
the next blank is its reference; a directive that ends before it, or has a second blank in its
place, has none, and the first such line is what a scan of the text reports. -/

/-- A line with the word `import` behind its `#`, and then its end or a blank that the end or
another blank follows. -/
def IsEmptyDirective (line : List Char) : Prop :=
  line = "#import".toList ∨
    ∃ after, line = "#import ".toList ++ after ∧ after.head?.all (· == ' ')

instance : DecidablePred IsEmptyDirective := fun line =>
  decidable_of_iff (line = "#import".toList ∨
      "#import ".toList <+: line ∧ (line.drop 8).head?.all (· == ' ')) <| by
    unfold IsEmptyDirective
    refine or_congr_right ⟨?_, ?_⟩
    · rintro ⟨⟨after, rfl⟩, blank⟩
      exact ⟨after, rfl, blank⟩
    · rintro ⟨after, rfl, blank⟩
      exact ⟨⟨after, rfl⟩, blank⟩

variable {rest : List Char} {e : LoadError} {text : String}

theorem directive?_cons (rest : List Char) : directive? ('#' :: rest) =
    if rest.takeWhile (· != ' ') = "import".toList then
      match ((rest.dropWhile (· != ' ')).drop 1).takeWhile (· != ' ') with
      | [] => .error (.emptyDirective (String.ofList ('#' :: rest)))
      | reference => .ok (some (String.ofList (unquote reference)))
    else .ok none := by
  unfold directive?
  rw [List.drop_one, List.tail_cons, Text.splitAt_eq]
  cases rest.dropWhile (· != ' ') with
  | nil => rfl
  | cons c after =>
    rw [List.drop_one, List.tail_cons]
    dsimp only
    rw [Text.splitAt_eq]
    rfl

private theorem takeWhile_blank_eq_nil_iff {after : List Char} :
    after.takeWhile (· != ' ') = [] ↔ after.head?.all (· == ' ') := by
  cases after with
  | nil => simp
  | cons c more => by_cases h : c = ' ' <;> simp [h]

theorem isEmptyDirective_cons_iff : IsEmptyDirective ('#' :: rest) ↔
    rest.takeWhile (· != ' ') = "import".toList ∧
      ((rest.dropWhile (· != ' ')).drop 1).takeWhile (· != ' ') = [] := by
  rw [takeWhile_blank_eq_nil_iff]
  constructor
  · rintro (h | ⟨after, h, blank⟩)
    · obtain rfl : rest = "import".toList := List.tail_eq_of_cons_eq h
      decide
    · obtain rfl : rest = "import ".toList ++ after := List.tail_eq_of_cons_eq h
      exact ⟨by simp, by simpa using blank⟩
  · rintro ⟨word, blank⟩
    have whole := List.takeWhile_append_dropWhile (p := (· != ' ')) (l := rest)
    rw [word] at whole
    cases tail : rest.dropWhile (· != ' ') with
    | nil =>
      rw [tail, List.append_nil] at whole
      exact Or.inl (by rw [← whole]; rfl)
    | cons c after =>
      have separator : c = ' ' := by
        have := List.head?_dropWhile_not (· != ' ') rest
        simpa [tail] using this
      rw [tail, List.drop_one, List.tail_cons] at blank
      rw [tail, separator] at whole
      exact Or.inr ⟨after, by rw [← whole]; rfl, blank⟩

theorem directive?_eq_error_iff : directive? ('#' :: rest) = .error e ↔
    IsEmptyDirective ('#' :: rest) ∧ e = .emptyDirective (String.ofList ('#' :: rest)) := by
  rw [directive?_cons, isEmptyDirective_cons_iff]
  split
  · next word =>
    split
    · next none =>
      constructor
      · intro h
        exact ⟨⟨word, none⟩, (Except.error.inj h).symm⟩
      · rintro ⟨-, rfl⟩
        rfl
    · next reference some =>
      constructor
      · intro h
        cases h
      · rintro ⟨⟨-, none⟩, -⟩
        exact absurd none some
  · next other =>
    constructor
    · intro h
      cases h
    · rintro ⟨⟨word, -⟩, -⟩
      exact absurd word other

private theorem mapM_directive?_eq_error_iff {block : List (List Char)}
    (comments : ∀ line ∈ block, line.head?.all (· == '#')) :
    (block.filter (!·.isEmpty)).mapM directive? = .error e ↔
      ∃ line, block.find? (IsEmptyDirective ·) = some line ∧
        e = .emptyDirective (String.ofList line) := by
  induction block with
  | nil => simp [pure, Except.pure]
  | cons line more ih =>
    have rest_comments := ih fun l hl => comments l (List.mem_cons_of_mem line hl)
    cases line with
    | nil =>
      have blank : ¬IsEmptyDirective [] := by decide
      simpa [blank] using rest_comments
    | cons c rest =>
      obtain rfl : c = '#' := by simpa using comments _ List.mem_cons_self
      rw [List.filter_cons_of_pos (by simp), List.mapM_cons, List.find?_cons]
      cases h : directive? ('#' :: rest) with
      | error e' =>
        obtain ⟨empty, rfl⟩ := directive?_eq_error_iff.mp h
        simp [empty, bind, Except.bind, eq_comm]
      | ok found =>
        have full : ¬IsEmptyDirective ('#' :: rest) := by
          intro empty
          rw [directive?_eq_error_iff.mpr ⟨empty, rfl⟩] at h
          cases h
        simp only [full, decide_false, bind, Except.bind]
        rw [← rest_comments]
        cases (more.filter (!·.isEmpty)).mapM directive? <;> simp [pure, Except.pure]

/-- A scan reports the first directive of the leading block that has no reference, and nothing
else. -/
theorem scan_eq_error_iff : scan text = .error e ↔
    ∃ line, (leadingBlock text.toList).find? (IsEmptyDirective ·) = some line ∧
      e = .emptyDirective (String.ofList line) := by
  have comments : ∀ line ∈ leadingBlock text.toList, line.head?.all (· == '#') := by
    intro line hl
    exact List.mem_takeWhile_imp (p := fun line : List Char => line.head?.all (· == '#')) hl
  rw [← mapM_directive?_eq_error_iff comments]
  unfold scan
  cases h : ((leadingBlock text.toList).filter (!·.isEmpty)).mapM directive? <;>
    simp [h, bind, Except.bind, pure, Except.pure]

theorem exists_scan_eq_ok_iff : (∃ references, scan text = .ok references) ↔
    ∀ line ∈ leadingBlock text.toList, ¬IsEmptyDirective line := by
  have none_iff : (leadingBlock text.toList).find? (IsEmptyDirective ·) = none ↔
      ∀ line ∈ leadingBlock text.toList, ¬IsEmptyDirective line := by simp
  rw [← none_iff]
  constructor
  · rintro ⟨references, h⟩
    by_contra found
    obtain ⟨line, found⟩ := Option.ne_none_iff_exists'.mp found
    rw [scan_eq_error_iff.mpr ⟨line, found, rfl⟩] at h
    cases h
  · intro none
    cases h : scan text with
    | ok references => exact ⟨references, rfl⟩
    | error e =>
      obtain ⟨line, found, -⟩ := scan_eq_error_iff.mp h
      rw [none] at found
      cases found

theorem scan_eq_nil {first : Char} {rest : List Char} (begins : text.toList = first :: rest)
    (plain : first ∉ ['#', '\r', '\n']) : scan text = .ok [] := by
  have notMark : first ≠ '#' := fun same => plain (same ▸ List.mem_cons_self)
  obtain ⟨line, more, cut⟩ := Text.lines_cons (fun ends => plain (List.mem_cons_of_mem _ ends)) rest
  have empty : leadingBlock text.toList = [] := by
    rw [leadingBlock, begins, cut, List.takeWhile_cons]
    simp [notMark]
  rw [scan, empty]
  rfl

end OperationDocuments.Import

namespace OperationDocuments

/-! ## Merged fragments

The fragments that references contribute are merged into those of the importing document. Which
of them are kept depends on the names alone: of all fragments with one name the first stays.
Hence it does not matter whether the documents were merged in the same way before. -/

namespace Import

/-- The first fragment of each name, in order. -/
def firsts (fragments : List Fragment) : List Fragment :=
  fragments.eraseDupsBy fun f g => f.name == g.name

variable {l r : List Fragment} {f : Fragment} {name : String}

private theorem firsts_cons_filter (f : Fragment) (more : List Fragment) :
    firsts (f :: more) = f :: firsts (more.filter fun g => g.name != f.name) := by
  unfold firsts
  rw [List.eraseDupsBy_cons]
  congr 2
  refine List.filter_congr fun g _ => ?_
  cases h : g.name == f.name <;> simp [bne, h]

theorem filter_firsts (p : String → Bool) (l : List Fragment) :
    (firsts l).filter (fun f => p f.name) = firsts (l.filter fun f => p f.name) := by
  -- on the length: choosing goes on in the filtered rest, which is no part of the list
  induction hn : l.length using Nat.strongRecOn generalizing l with
  | ind n ih =>
    cases l with
    | nil => rfl
    | cons f more =>
      have shorter : (more.filter fun g => g.name != f.name).length < n := by
        have := List.length_filter_le (fun g : Fragment => g.name != f.name) more
        simp only [List.length_cons] at hn
        omega
      have rest := ih _ shorter _ rfl
      rw [firsts_cons_filter, List.filter_cons, rest, List.filter_filter, List.filter_cons]
      cases hp : p f.name with
      | true => simp [firsts_cons_filter, List.filter_filter, Bool.and_comm]
      | false =>
        have implied : ∀ g : Fragment, (p g.name && g.name != f.name) = p g.name := by
          intro g
          by_cases hg : g.name = f.name <;> simp [hg, hp]
        simp [implied]

theorem firsts_cons (f : Fragment) (more : List Fragment) :
    firsts (f :: more) = f :: (firsts more).filter fun g => g.name != f.name := by
  rw [firsts_cons_filter, filter_firsts (fun n => n != f.name)]

theorem mem_names_firsts : name ∈ (firsts l).map Fragment.name ↔ name ∈ l.map Fragment.name := by
  induction l with
  | nil => rfl
  | cons f more ih =>
    simp only [List.mem_map] at ih
    by_cases h : f.name = name
    · simp [firsts_cons, h]
    · simp only [firsts_cons, List.map_cons, List.mem_cons, List.mem_map, List.mem_filter]
      grind

theorem firsts_sublist (l : List Fragment) : (firsts l).Sublist l := by
  induction l with
  | nil => exact List.Sublist.refl _
  | cons f more ih =>
    rw [firsts_cons]
    exact (List.filter_sublist.trans ih).cons_cons f

theorem mem_of_mem_firsts (h : f ∈ firsts l) : f ∈ l := (firsts_sublist l).subset h

theorem find?_of_mem_firsts (h : f ∈ firsts l) : l.find? (·.name == f.name) = some f := by
  induction l with
  | nil => cases h
  | cons g more ih =>
    rw [firsts_cons] at h
    rcases List.mem_cons.mp h with rfl | later
    · simp
    · obtain ⟨inside, other⟩ := List.mem_filter.mp later
      have other : ¬g.name = f.name := by
        intro same
        simp [same] at other
      rw [List.find?_cons_of_neg (by simpa using other)]
      exact ih inside

theorem contains_names_firsts (l : List Fragment) (name : String) :
    ((firsts l).map Fragment.name).contains name = (l.map Fragment.name).contains name := by
  rw [Bool.eq_iff_iff, List.contains_iff_mem, List.contains_iff_mem, mem_names_firsts]

theorem nodup_names_firsts (l : List Fragment) : ((firsts l).map Fragment.name).Nodup := by
  induction l with
  | nil => exact List.nodup_nil
  | cons f more ih =>
    rw [firsts_cons, List.map_cons, List.nodup_cons]
    constructor
    · intro h
      obtain ⟨g, hg, same⟩ := List.mem_map.mp h
      have other := (List.mem_filter.mp hg).2
      simp [same] at other
    · exact ih.sublist (List.filter_sublist.map Fragment.name)

theorem firsts_append (l r : List Fragment) : firsts (l ++ r) =
    firsts l ++ (firsts r).filter fun g => !(l.map Fragment.name).contains g.name := by
  induction l with
  | nil => simp [firsts, List.filter_eq_self.mpr]
  | cons f more ih =>
    rw [List.cons_append, firsts_cons, ih, firsts_cons, List.filter_append, List.filter_filter,
      List.cons_append]
    congr 2
    refine List.filter_congr fun g _ => ?_
    by_cases h : g.name = f.name <;> simp [h]

theorem firsts_firsts (l : List Fragment) : firsts (firsts l) = firsts l := by
  induction l with
  | nil => rfl
  | cons f more ih =>
    rw [firsts_cons, firsts_cons, ← filter_firsts (fun n => n != f.name), ih, List.filter_filter]
    simp

/-- Choosing the first fragments in a part of a list, before they are chosen in the whole, makes
no difference. -/
theorem firsts_nested {before inner after rest : List Fragment}
    (h : firsts after = firsts rest) :
    firsts (before ++ firsts inner ++ after) = firsts (before ++ inner ++ rest) := by
  have inner_once : firsts (before ++ firsts inner) = firsts (before ++ inner) := by
    rw [firsts_append, firsts_append, firsts_firsts]
  have same_names : ∀ name, ((before ++ firsts inner).map Fragment.name).contains name =
      ((before ++ inner).map Fragment.name).contains name := by
    intro name
    simp only [List.map_append, List.contains_append, contains_names_firsts]
  rw [firsts_append, inner_once, h, firsts_append (before ++ inner)]
  simp only [same_names]

theorem firsts_filter_append (seen : List String) (l r : List Fragment) :
    let kept := firsts (l.filter fun f => !seen.contains f.name)
    firsts ((l ++ r).filter fun f => !seen.contains f.name) =
      kept ++ firsts (r.filter fun f => !(seen ++ kept.map Fragment.name).contains f.name) := by
  intro kept
  -- the names that are kept are all that were there, so either may count as seen
  have known : ∀ name, (kept.map Fragment.name).contains name =
      ((l.filter fun f => !seen.contains f.name).map Fragment.name).contains name :=
    contains_names_firsts _
  rw [List.filter_append, firsts_append, filter_firsts (fun n =>
    !((l.filter fun f => !seen.contains f.name).map Fragment.name).contains n),
    List.filter_filter]
  congr 2
  refine List.filter_congr fun g _ => ?_
  rw [List.contains_append, known, Bool.not_or, Bool.and_comm]

theorem value_uniqueFragments (seen : List String) (definitions : List Definition) :
    (uniqueFragments seen definitions).value =
      let kept := firsts ((definitions.filterMap Definition.fragment?).filter
        fun f => !seen.contains f.name)
      (kept, seen ++ kept.map Fragment.name) := by
  fun_induction uniqueFragments seen definitions with
  | case1 seen => simp [firsts]
  | case2 seen f more known ih =>
    rw [Logged.value_bind, ih]
    have known : f.name ∈ seen := by simpa using known
    simp [Definition.fragment?, known]
  | case3 seen f more new ih =>
    have new : f.name ∉ seen := by simpa using new
    have filtered : (more.filterMap Definition.fragment?).filter
        (fun g => !(seen ++ [f.name]).contains g.name) =
          ((more.filterMap Definition.fragment?).filter fun g => !seen.contains g.name).filter
            fun g => g.name != f.name := by
      rw [List.filter_filter]
      refine List.filter_congr fun g _ => ?_
      by_cases h : g.name = f.name <;> simp [h]
    rw [Logged.value_bind, ih, filtered]
    simp [Definition.fragment?, new, firsts_cons_filter]
  | case4 seen x more other ih =>
    have none : x.fragment? = none := by
      cases x with
      | fragment f => exact absurd rfl (other f)
      | _ => rfl
    rw [ih]
    simp [none]

variable {resolve : String → Loading LoadError Document} {localNames seen : List String}

open Loading in
/-- The merged fragments are the first ones of all that the references lead to. -/
theorem returns_mergeFrom {references : List String} {merged : List Fragment} :
    (mergeFrom resolve localNames seen references).Returns merged ↔
      ∃ documents, List.Forall₂ (fun reference d => (resolve reference).Returns d)
          references documents ∧
        merged = firsts ((documents.flatMap Document.fragments).filter
          fun f => !seen.contains f.name) := by
  induction references generalizing seen merged with
  | nil =>
    simp [mergeFrom, returns_pure, List.forall₂_nil_left_iff, firsts, eq_comm]
  | cons reference more ih =>
    have later := firsts_filter_append seen
    rw [mergeFrom]
    simp only [returns_bind, returns_lift, returns_report, returns_pure, value_uniqueFragments]
    constructor
    · rintro ⟨imported, found, kept, rfl, _, -, _, -, rest, merged_rest, rfl⟩
      obtain ⟨documents, all, rfl⟩ := ih.mp merged_rest
      exact ⟨imported :: documents, .cons found all, (later _ _).symm⟩
    · rintro ⟨_ | ⟨imported, documents⟩, all, rfl⟩
      · cases all
      · obtain ⟨found, all⟩ := List.forall₂_cons.mp all
        exact ⟨imported, found, _, rfl, (), trivial, (), trivial, _,
          ih.mpr ⟨documents, all, rfl⟩, (later _ _).symm⟩

open Loading in
theorem error?_mergeFrom (references : List String) :
    (mergeFrom resolve localNames seen references).error? =
      references.findSome? fun reference => (resolve reference).error? := by
  induction references generalizing seen with
  | nil => rfl
  | cons reference more ih =>
    rw [mergeFrom, List.findSome?_cons]
    cases h : (resolve reference).error? with
    | some e => exact error?_bind_of_error h _
    | none =>
      obtain ⟨imported, found⟩ := error?_eq_none_iff.mp h
      rw [error?_bind_of_returns found, error?_bind_of_returns (returns_lift.mpr rfl),
        error?_bind_of_returns (returns_lift.mpr rfl),
        error?_bind_of_returns (a := ()) returns_report,
        error?_bind_of_total _ fun _ => error?_pure _]
      exact ih

variable {text : String} {d expanded : Document}

open Loading in
/-- Expansion leaves the definitions of the document in place and adds fragments behind them. -/
theorem returns_expand : (expand text d resolve).Returns expanded ↔
    ∃ references documents, scan text = .ok references ∧
      List.Forall₂ (fun reference d => (resolve reference).Returns d) references documents ∧
      expanded = { d with definitions := d.definitions ++
        (firsts (documents.flatMap Document.fragments)).map .fragment } := by
  unfold expand
  simp only [returns_bind, returns_ofExcept]
  constructor
  · rintro ⟨references, scanned, h⟩
    split at h
    · next none =>
      rw [List.isEmpty_iff] at none
      subst none
      exact ⟨[], [], scanned, .nil, by simp [← returns_pure.mp h, firsts]⟩
    · obtain ⟨merged, h, whole⟩ := returns_bind.mp h
      obtain ⟨documents, all, rfl⟩ := returns_mergeFrom.mp h
      refine ⟨references, documents, scanned, all, ?_⟩
      simpa using (returns_pure.mp whole).symm
  · rintro ⟨references, documents, scanned, all, rfl⟩
    refine ⟨references, scanned, ?_⟩
    split
    · next none =>
      rw [List.isEmpty_iff] at none
      subst none
      cases all
      exact returns_pure.mpr (by simp [firsts])
    · refine returns_bind.mpr ⟨_, returns_mergeFrom.mpr ⟨documents, all, rfl⟩, ?_⟩
      exact returns_pure.mpr (by simp)

open Loading in
theorem error?_expand : (expand text d resolve).error? =
    match scan text with
    | .error e => some e
    | .ok references => references.findSome? fun reference => (resolve reference).error? := by
  unfold expand
  cases scanned : scan text with
  | error e => exact error?_bind_of_error rfl _
  | ok references =>
    rw [error?_bind_of_returns (returns_ofExcept.mpr rfl)]
    split
    · next none =>
      rw [List.isEmpty_iff] at none
      subst none
      rfl
    · rw [error?_bind_of_total _ fun _ => error?_pure _]
      exact error?_mergeFrom references

end Import

end OperationDocuments
