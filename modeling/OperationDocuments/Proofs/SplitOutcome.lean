import Mathlib
import OperationDocuments.Proofs.Expansion
import OperationDocuments.Proofs.ParsedNames

/-! # Named operations

The names of the operations in a loaded document, and what splitting it by them comes to. -/
namespace OperationDocuments

/-! ## The names of loaded operations

Whatever a source imports, the operations are its own. Each is stored once, under a name that the
grammar has for it. -/

theorem Assoc.nodup_keys_insert {κ α : Type} [DecidableEq κ] {entries : Assoc κ α}
    (h : (keys entries).Nodup) (key : κ) (value : α) : (keys (insert entries key value)).Nodup := by
  rw [keys_insert]
  split
  · exact h
  · next new =>
    refine List.nodup_append.mpr ⟨h, List.nodup_singleton key, fun other among last => ?_⟩
    rw [List.mem_singleton]
    rintro rfl rfl
    exact new among

theorem Assoc.find?_of_mem {κ α : Type} [DecidableEq κ] {entries : Assoc κ α}
    (distinct : (keys entries).Nodup) {entry : κ × α} (mem : entry ∈ entries) :
    find? entries entry.1 = some entry.2 := by
  induction entries with
  | nil => cases mem
  | cons first more ih =>
    obtain ⟨new, distinct⟩ := List.nodup_cons.mp distinct
    rcases List.mem_cons.mp mem with rfl | mem
    · simp [find?]
    · have other : first.1 ≠ entry.1 := fun same => new (same ▸ List.mem_map_of_mem mem)
      simpa [find?, other] using ih distinct mem

namespace Document

variable {d : Document} {map : ReferenceMap} {done : Assoc String Document} {name : String}

theorem nodup_keys_separateInto (h : (Assoc.keys done).Nodup) (map : ReferenceMap)
    (name : String) : (Assoc.keys (d.separateInto map done name).value).Nodup := by
  unfold separateInto
  cases d.separate? map name with
  | none => simpa using h
  | some separated => simpa using Assoc.nodup_keys_insert h name separated

theorem nodup_keys_separateAll (d : Document) : (Assoc.keys d.separateAll.value).Nodup := by
  have run : ∀ (names : List String) (done : Assoc String Document), (Assoc.keys done).Nodup →
      (Assoc.keys (names.foldlM (d.separateInto d.referenceMap) done).value).Nodup := by
    intro names
    induction names with
    | nil => exact fun done h => h
    | cons name more ih =>
      intro done h
      rw [List.foldlM_cons, Logged.value_bind]
      exact ih _ (nodup_keys_separateInto h _ name)
  exact run _ [] List.nodup_nil

theorem mem_keys_separateAll : name ∈ Assoc.keys d.separateAll.value ↔ name ∈ d.operationNames := by
  rw [← exists_find?_separateAll, ← not_iff_not, ← Assoc.find?_eq_none_iff,
    Option.eq_none_iff_forall_ne_some, not_exists]

end Document

namespace Resolver

variable {resolve : Resolver} {filters : List OperationFilter} {text : String}
  {source : Option String} {loaded : Loaded}

theorem operationNames_sublist (ok : (resolve.loadFiltered filters text source).Returns loaded) :
    List.Sublist loaded.operationNames (Assoc.keys loaded.document.separateAll.value) := by
  obtain ⟨whole, loads, rfl⟩ := returns_loadFiltered.mp ok
  obtain ⟨-, parts, -, -, -, split, -, -, operations⟩ := returns_load.mp loads
  refine List.Sublist.map Prod.fst (List.filter_sublist.trans ?_)
  rw [operations]
  rcases Document.split_eq_ok_iff.mp split with ⟨-, rfl⟩ | ⟨-, -, rfl⟩
  · exact List.nil_sublist _
  · exact List.Sublist.refl _

theorem nodup_operationNames (ok : (resolve.loadFiltered filters text source).Returns loaded) :
    loaded.operationNames.Nodup :=
  (Document.nodup_keys_separateAll _).sublist (operationNames_sublist ok)

theorem isName_of_mem_operationNames
    (ok : (resolve.loadFiltered filters text source).Returns loaded) {name : String}
    (among : name ∈ loaded.operationNames) : IsName name := by
  obtain ⟨o, stands, named⟩ := Document.mem_operationNames.mp
    (Document.mem_keys_separateAll.mp ((operationNames_sublist ok).subset among))
  obtain ⟨whole, loads, rfl⟩ := returns_loadFiltered.mp ok
  obtain ⟨parsed, -, parses, -, expands, -⟩ := returns_load.mp loads
  obtain ⟨references, documents, -, -, document⟩ := Import.returns_expand.mp expands
  -- imports add fragments only, so the operation stands in the source itself
  rw [document, Document.operations_append_fragments] at stands
  exact Document.wellNamed_of_parse (mapError_eq_ok_iff.mp parses) _
    (Document.mem_operations.mp stands) name named

end Resolver

namespace Loader

variable {l : Loader} {w : Workspace} {path : String} {loaded : Loaded}

theorem returns_loadFile : (l.loadFile w path).Returns loaded ↔
    ∃ text, w.read path = .ok text ∧
      (Resolver.loadFiltered (l.resolve w) l.filters text (some path)).Returns loaded := by
  simp only [loadFile, Loading.returns_bind, Loading.returns_ofExcept,
    Resolver.mapError_eq_ok_iff]
  rfl

theorem nodup_operationNames_loadFile (ok : (l.loadFile w path).Returns loaded) :
    loaded.operationNames.Nodup :=
  have ⟨_, _, ok⟩ := returns_loadFile.mp ok
  Resolver.nodup_operationNames ok

theorem isName_operationNames_loadFile (ok : (l.loadFile w path).Returns loaded) :
    ∀ name ∈ loaded.operationNames, IsName name :=
  have ⟨_, _, ok⟩ := returns_loadFile.mp ok
  fun _ => Resolver.isName_of_mem_operationNames ok

end Loader

/-! ## How a split ends

Taken step by step, a split can go wrong in three places: an operation may lack the name that it
has to have beside others, its name may be asked for where it has none, and nothing may be found
under it. Once the names are checked, the other two places are out of reach, for the definition
whose name is looked up is there itself. Imported fragments leave the operations alone, and so they
change nothing about this. -/

theorem Loading.lift_bind {ε α β : Type} (x : Logged α) (f : α → Logged β) :
    (ExceptT.lift (x >>= f) : Loading ε β) = ExceptT.lift x >>= fun a => ExceptT.lift (f a) := by
  refine ExceptT.ext ?_
  simp

inductive SplitFault where
  | missingName (e : MissingOperationName)
  | unknownOperation (e : UnknownOperation)
  | nameless
  deriving Repr, DecidableEq

namespace Document

variable {d expanded : Document} {source : Option String} {done parts : Assoc String Document}
  {xs : List Definition}

/-- Stores the document of one more definition, provided that this is an operation. -/
def separateNext (d : Document) (map : ReferenceMap) (done : Assoc String Document) :
    Definition → Loading SplitFault (Assoc String Document)
  | .operation o =>
    match o.name with
    | none => throw .nameless
    | some name => do
      let separated ← Loading.ofExcept ((d.separate map name).mapError .unknownOperation)
      Loading.report (.separated name separated.definitions.length)
      return done.insert name separated
  | _ => return done

/-- Splits a document definition by definition, with every step that may fail. -/
def splitInTurn (d : Document) (source : Option String) :
    Loading SplitFault (Assoc String Document) :=
  if d.countOperations ≤ 1 then return []
  else if d.operations.any Operation.isAnonymous then throw (.missingName ⟨source⟩)
  else d.definitions.foldlM (d.separateNext d.referenceMap) []

/-! ### Steps that cannot fail -/

/-- The operations among some definitions have names under which something is found. -/
def Found (d : Document) (xs : List Definition) : Prop :=
  ∀ o, .operation o ∈ xs → ∃ name x, o.name = some name ∧ d.FirstNamed name x

def namesOf (xs : List Definition) : List String :=
  (xs.filterMap Definition.operation?).filterMap Operation.name

theorem exists_name_of_isAnonymous {o : Operation} (h : o.isAnonymous = false) :
    ∃ name, o.name = some name := by
  cases name : o.name with
  | none => simp [Operation.isAnonymous, name] at h
  | some text => exact ⟨text, rfl⟩

theorem found_definitions (named : ∀ o ∈ d.operations, o.isAnonymous = false) :
    d.Found d.definitions := by
  intro o among
  obtain ⟨name, hn⟩ := exists_name_of_isAnonymous (named o (mem_operations.mpr among))
  obtain ⟨x, first⟩ := exists_firstNamed ⟨.operation o, among, hn⟩
  exact ⟨name, x, hn, first⟩

theorem separateNext_eq {x : Definition} (found : d.Found [x]) (map : ReferenceMap)
    (done : Assoc String Document) : d.separateNext map done x =
      ExceptT.lift ((namesOf [x]).foldlM (d.separateInto map) done) := by
  cases x with
  | operation o =>
    obtain ⟨name, first, hn, stands⟩ := found o (List.mem_singleton.mpr rfl)
    have single : namesOf [.operation o] = [name] := by
      simp [namesOf, Definition.operation?, hn]
    rw [single, List.foldlM_cons]
    simp only [separateNext, hn, separate, separateInto, separate?_eq_some stands]
    rfl
  | _ => rfl

theorem foldlM_separateNext (found : d.Found xs) (map : ReferenceMap)
    (done : Assoc String Document) : xs.foldlM (d.separateNext map) done =
      ExceptT.lift ((namesOf xs).foldlM (d.separateInto map) done) := by
  -- over the definitions, with the documents stored so far left open
  induction xs generalizing done with
  | nil => rfl
  | cons x more ih =>
    have here : d.Found [x] := fun o among => found o (by simp_all)
    have later : d.Found more := fun o among => found o (List.mem_cons_of_mem x among)
    have names : namesOf (x :: more) = namesOf [x] ++ namesOf more := by
      simp [namesOf, ← List.filterMap_append]
    rw [List.foldlM_cons, separateNext_eq here, names, List.foldlM_append]
    simp only [ih later, Loading.lift_bind]

/-! ### Keys and definitions -/

theorem keys_separateInto {name : String} {x : Definition} (stands : d.FirstNamed name x)
    (map : ReferenceMap) (done : Assoc String Document) :
    Assoc.keys (d.separateInto map done name).value = Names.add (Assoc.keys done) name := by
  simp [separateInto, separate?_eq_some stands, Assoc.keys_insert, Names.add]

theorem keys_foldlM_separateInto {names : List String}
    (known : ∀ name ∈ names, ∃ x, d.FirstNamed name x) (map : ReferenceMap)
    (done : Assoc String Document) :
    Assoc.keys (names.foldlM (d.separateInto map) done).value =
      names.foldl Names.add (Assoc.keys done) := by
  induction names generalizing done with
  | nil => rfl
  | cons name more ih =>
    obtain ⟨x, stands⟩ := known name List.mem_cons_self
    have later := ih fun other among => known other (List.mem_cons_of_mem name among)
    rw [List.foldlM_cons, Logged.value_bind, later, keys_separateInto stands, List.foldl_cons]

/-- The documents stand in the order in which the names of their operations are first met. -/
theorem firstMentions_keys_separateAll (d : Document) :
    Names.FirstMentions [] d.operationNames (Assoc.keys d.separateAll.value) := by
  have known : ∀ name ∈ d.operationNames, ∃ x, d.FirstNamed name x := fun name among =>
    exists_firstNamed (exists_named_of_mem_operationNames among)
  have run := keys_foldlM_separateInto known d.referenceMap []
  have start : Assoc.keys ([] : Assoc String Document) = [] := rfl
  rw [start, Names.foldl_add_eq, List.nil_append] at run
  exact Names.firstMentions_iff.mpr run

theorem name?_ne_none_of_separateAll {entry : String × Document}
    (stored : entry ∈ d.separateAll.value) {x : Definition}
    (behind : x ∈ entry.2.definitions.tail) : x.name? ≠ none := by
  have found := Assoc.find?_of_mem (nodup_keys_separateAll d) stored
  obtain ⟨name, stands, -⟩ := (isSeparation_of_find? found).mem_tail.mp behind
  simp [stands.name_eq]

/-! ### The outcome -/

theorem split_eq_error (lacks : d.LacksName) : d.split source = .error ⟨source⟩ := by
  obtain ⟨several, o, among, anonymous⟩ := lacks
  have many : ¬d.countOperations ≤ 1 := by omega
  have unnamed : d.operations.any Operation.isAnonymous = true :=
    List.any_eq_true.mpr ⟨o, among, anonymous⟩
  simp [split, many, checkNames, unnamed, bind, Except.bind]

def NamesNonempty (d : Document) : Prop := ∀ o ∈ d.operations, o.name ≠ some ""

theorem exists_isAnonymous_iff (nonempty : d.NamesNonempty) :
    (∃ o ∈ d.operations, o.isAnonymous = true) ↔ ∃ o ∈ d.operations, o.name = none := by
  have same : ∀ o ∈ d.operations, o.isAnonymous = true ↔ o.name = none := by
    intro o among
    cases name : o.name with
    | none => simp [Operation.isAnonymous, name]
    | some text =>
      have : text ≠ "" := fun empty => nonempty o among (empty ▸ name)
      simp [Operation.isAnonymous, name, this]
  exact exists_congr fun o => and_congr_right fun among => same o among

theorem splitInTurn_of_few (few : d.countOperations ≤ 1) : d.splitInTurn source = pure [] := by
  simp [splitInTurn, few]

theorem splitInTurn_of_lacksName (lacks : d.LacksName) :
    d.splitInTurn source = throw (.missingName ⟨source⟩) := by
  have several : ¬d.countOperations ≤ 1 := by
    have := lacks.1
    omega
  rw [splitInTurn, if_neg several, if_pos (List.any_eq_true.mpr lacks.2)]

theorem splitInTurn_of_named (several : 1 < d.countOperations)
    (named : ∀ o ∈ d.operations, o.isAnonymous = false) :
    d.splitInTurn source = ExceptT.lift d.separateAll := by
  have many : ¬d.countOperations ≤ 1 := by omega
  have clear : ¬d.operations.any Operation.isAnonymous = true := by
    rw [List.any_eq_true]
    rintro ⟨o, among, anonymous⟩
    exact Bool.false_ne_true ((named o among).symm.trans anonymous)
  rw [splitInTurn, if_neg many, if_neg clear]
  exact foldlM_separateNext (found_definitions named) d.referenceMap []

/-- How a split ends that these operations decide. No step of it fails but the check of the names,
and so it is the split that leaves the other failures out. -/
structure SplitsAs (d : Document) (operations : List Operation) (source : Option String) :
    Prop where
  same : d.splitInTurn source = (do
    let parts ← Loading.ofExcept ((d.split source).mapError .missingName)
    ExceptT.lift parts)
  empty_iff : (d.splitInTurn source).Returns [] ↔ operations.length ≤ 1
  error_iff : ∀ e, (d.splitInTurn source).error? = some e ↔
    e = .missingName ⟨source⟩ ∧ 2 ≤ operations.length ∧ ∃ o ∈ operations, o.name = none
  keys : ∀ parts, (d.splitInTurn source).Returns parts → 2 ≤ operations.length →
    Names.FirstMentions [] (operations.filterMap Operation.name) (Assoc.keys parts)
  named : ∀ parts, (d.splitInTurn source).Returns parts →
    ∀ entry ∈ parts, ∀ x ∈ entry.2.definitions.tail, x.name? ≠ none

theorem splitsAs_of_few (few : d.countOperations ≤ 1) (source : Option String) :
    d.SplitsAs d.operations source := by
  have outcome : d.splitInTurn source = pure [] := splitInTurn_of_few few
  have returned : ∀ parts, (d.splitInTurn source).Returns parts → parts = [] := by
    intro parts returns
    rw [outcome] at returns
    exact (Loading.returns_pure.mp returns).symm
  have not_several : ¬2 ≤ d.operations.length := Nat.not_le.mpr (Nat.lt_succ_of_le few)
  refine ⟨?_, ?_, ?_, ?_, ?_⟩
  · have split : d.split source = .ok (pure []) := split_eq_ok_iff.mpr (Or.inl ⟨few, rfl⟩)
    rw [outcome, split]
    rfl
  · rw [outcome, Loading.returns_pure]
    exact iff_of_true rfl few
  · intro e
    rw [outcome, Loading.error?_pure]
    simp [not_several]
  · intro parts _ several
    exact absurd several not_several
  · intro parts returns entry stored
    rw [returned parts returns] at stored
    exact absurd stored List.not_mem_nil

theorem splitsAs_of_lacksName (nonempty : d.NamesNonempty) (lacks : d.LacksName)
    (source : Option String) : d.SplitsAs d.operations source := by
  have outcome : d.splitInTurn source = throw (.missingName ⟨source⟩) :=
    splitInTurn_of_lacksName lacks
  have nothing : ∀ parts, ¬(d.splitInTurn source).Returns parts := by
    intro parts returns
    rw [outcome] at returns
    cases returns
  refine ⟨?_, ?_, ?_, ?_, ?_⟩
  · rw [outcome, split_eq_error lacks]
    rfl
  · have several : ¬d.operations.length ≤ 1 := Nat.not_le.mpr lacks.1
    exact iff_of_false (nothing []) several
  · intro e
    have ends : (d.splitInTurn source).error? = some (.missingName ⟨source⟩) := by
      rw [outcome]
      rfl
    rw [ends, Option.some.injEq, eq_comm, ← exists_isAnonymous_iff nonempty]
    exact (and_iff_left lacks).symm
  · exact fun parts returns => absurd returns (nothing parts)
  · exact fun parts returns => absurd returns (nothing parts)

theorem splitsAs_of_named (several : 1 < d.countOperations)
    (named : ∀ o ∈ d.operations, o.isAnonymous = false) (source : Option String) :
    d.SplitsAs d.operations source := by
  have outcome : d.splitInTurn source = ExceptT.lift d.separateAll :=
    splitInTurn_of_named several named
  have returned : ∀ parts, (d.splitInTurn source).Returns parts → parts = d.separateAll.value := by
    intro parts returns
    rw [outcome] at returns
    exact (Loading.returns_lift.mp returns).symm
  refine ⟨?_, ?_, ?_, ?_, ?_⟩
  · rw [outcome, split_eq_ok_of_named source several named]
    rfl
  · refine iff_of_false (fun returns => ?_) (Nat.not_le.mpr several)
    obtain ⟨o, among⟩ := List.exists_mem_of_length_pos (Nat.zero_lt_of_lt several)
    obtain ⟨name, hn⟩ := exists_name_of_isAnonymous (named o among)
    have stored : name ∈ Assoc.keys d.separateAll.value :=
      mem_keys_separateAll.mpr (mem_operationNames.mpr ⟨o, among, hn⟩)
    rw [← returned [] returns] at stored
    exact absurd stored List.not_mem_nil
  · intro e
    rw [outcome, Loading.error?_lift]
    refine iff_of_false nofun ?_
    rintro ⟨-, -, o, among, anonymous⟩
    obtain ⟨name, hn⟩ := exists_name_of_isAnonymous (named o among)
    cases anonymous.symm.trans hn
  · intro parts returns _
    rw [returned parts returns]
    exact firstMentions_keys_separateAll d
  · intro parts returns entry stored x behind
    rw [returned parts returns] at stored
    exact name?_ne_none_of_separateAll stored behind

theorem splitsAs (nonempty : d.NamesNonempty) (source : Option String) :
    d.SplitsAs d.operations source := by
  by_cases few : d.countOperations ≤ 1
  · exact splitsAs_of_few few source
  by_cases lacks : d.LacksName
  · exact splitsAs_of_lacksName nonempty lacks source
  · have named := (not_lacksName_iff.mp lacks).resolve_left few
    exact splitsAs_of_named (Nat.lt_of_not_le few) named source

/-! ### Documents that were read -/

theorem namesNonempty_of_parse {text : String} {name : Option String}
    (parsed : Document.parse text name = .ok d) : d.NamesNonempty := by
  intro o among empty
  have wellNamed := wellNamed_of_parse parsed _ (mem_operations.mp among)
  exact (wellNamed "" empty).1 rfl

theorem lacksName_congr (same : expanded.operations = d.operations) :
    expanded.LacksName ↔ d.LacksName := by
  rw [LacksName, LacksName, countOperations, countOperations, same]

theorem operations_of_expand {imports : String} {resolve : String → Loading LoadError Document}
    (returned : (Import.expand imports d resolve).Returns expanded) :
    expanded.operations = d.operations := by
  obtain ⟨_, _, -, -, rfl⟩ := Import.returns_expand.mp returned
  exact operations_append_fragments d _

/-- The split of a document that was read ends as the operations in its text say, whatever fragments
are imported. Once their names have been checked, it cannot fail any more. -/
theorem splitsAs_of_parse (text : String) (name : Option String) (d : Document)
    (parsed : Document.parse text name = .ok d) (source : Option String) :
    d.SplitsAs d.operations source ∧
      ∀ (imports : String) (resolve : String → Loading LoadError Document) (expanded : Document),
        (Import.expand imports d resolve).Returns expanded →
          expanded.SplitsAs d.operations source ∧
          ∀ checked, Modules.checkSeveral d checked = .ok () →
            ∃ parts, expanded.split source = .ok parts ∧
              (expanded.splitInTurn source).Returns parts.value := by
  have nonempty := namesNonempty_of_parse parsed
  refine ⟨splitsAs nonempty source, fun imports resolve expanded returned => ?_⟩
  have same : expanded.operations = d.operations := operations_of_expand returned
  have ends : expanded.SplitsAs d.operations source := by
    rw [← same]
    refine splitsAs ?_ source
    unfold NamesNonempty
    rw [same]
    exact nonempty
  refine ⟨ends, fun checked passed => ?_⟩
  have whole : ¬expanded.LacksName := by
    intro lacks
    rw [Modules.checkSeveral_eq, if_pos ((lacksName_congr same).mp lacks)] at passed
    cases passed
  obtain ⟨parts, split⟩ := exists_split_eq_ok whole source
  refine ⟨parts, split, ?_⟩
  rw [ends.same, split]
  exact Loading.returns_lift.mpr rfl

end Document

namespace Sample

def repeatedText : String :=
  "#import f\nquery B { ...F } schema { query: Q } query A { x } query B { y }"

/-- A name that two operations share, and a definition that has none. -/
def repeated : Document := ⟨Document.defaultSource,
  [query "B" [spread "F"], .typeSystem none (.schema [] [⟨.query, "Q"⟩]), query "A" [field "x"],
    query "B" [field "y"]]⟩

def repeatedExpanded : Document :=
  { repeated with definitions := repeated.definitions ++ [fragment "F" [field "z"]] }

def repeatedImports (reference : String) : Loading LoadError Document :=
  (Modules.ofTable [("f", "fragment F on T { z }")]).resolve reference none

end Sample

namespace Document

theorem splitsAs_of_parse_repeated :
    Document.parse Sample.repeatedText none = .ok Sample.repeated ∧
      (Import.expand Sample.repeatedText Sample.repeated Sample.repeatedImports).Returns
        Sample.repeatedExpanded ∧
      Modules.checkSeveral Sample.repeated "<string>" = .ok () ∧
      ∃ parts, Sample.repeatedExpanded.split none = .ok parts ∧
        Assoc.keys parts.value = ["B", "A"] ∧
        ∀ entry ∈ parts.value, ∀ x ∈ entry.2.definitions.tail, x.name? ≠ none := by
  have parsed : Document.parse Sample.repeatedText none = .ok Sample.repeated := by cbv
  have expands : (Import.expand Sample.repeatedText Sample.repeated
      Sample.repeatedImports).Returns Sample.repeatedExpanded := by cbv
  have passed : Modules.checkSeveral Sample.repeated "<string>" = .ok () := by
    have whole : ¬Sample.repeated.LacksName := by decide
    rw [Modules.checkSeveral_eq, if_neg whole]
  obtain ⟨-, extended⟩ := splitsAs_of_parse Sample.repeatedText none Sample.repeated parsed none
  obtain ⟨ends, checked⟩ := extended Sample.repeatedText Sample.repeatedImports
    Sample.repeatedExpanded expands
  obtain ⟨parts, split, returned⟩ := checked "<string>" passed
  have several : 2 ≤ Sample.repeated.operations.length := by decide
  have keys := Names.firstMentions_iff.mp (ends.keys parts.value returned several)
  have order : Names.fresh [] (Sample.repeated.operations.filterMap Operation.name) =
    ["B", "A"] := by decide
  exact ⟨parsed, expands, passed, parts, split, keys.trans order,
    ends.named parts.value returned⟩

end Document

end OperationDocuments
