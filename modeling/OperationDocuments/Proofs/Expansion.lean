import Mathlib
import OperationDocuments.Proofs.Load

/-! # Expansions

What a text says before any import of it is followed, and what its imports then add. -/
namespace OperationDocuments

/-! ## What a text says by itself

Before any of its references is followed, a text is judged in three steps: it has to be a
document, its operations need names if there are several, and its import directives need
references. Only then does loading depend on what the references lead to, and after that nothing
can fail any more. -/

def Document.LacksName (d : Document) : Prop :=
  1 < d.countOperations ∧ ∃ o ∈ d.operations, o.isAnonymous = true

instance (d : Document) : Decidable d.LacksName := inferInstanceAs (Decidable (_ ∧ _))

namespace Document

variable {d : Document} {source : String}

theorem not_lacksName_iff :
    ¬d.LacksName ↔ d.countOperations ≤ 1 ∨ ∀ o ∈ d.operations, o.isAnonymous = false := by
  unfold LacksName
  by_cases several : 1 < d.countOperations
  · have many : ¬d.countOperations ≤ 1 := by omega
    simp [several, many]
  · have few : d.countOperations ≤ 1 := by omega
    simp [several, few]

theorem exists_split_eq_ok (h : ¬d.LacksName) (source : Option String) :
    ∃ parts, d.split source = .ok parts := by
  by_cases few : d.countOperations ≤ 1
  · exact ⟨pure [], split_eq_ok_iff.mpr (Or.inl ⟨few, rfl⟩)⟩
  · have named := (not_lacksName_iff.mp h).resolve_left few
    exact ⟨d.separateAll, split_eq_ok_of_named source (by omega) named⟩

theorem not_lacksName_of_split {source : Option String} {parts : Logged (Assoc String Document)}
    (split : d.split source = .ok parts) : ¬d.LacksName := by
  rw [not_lacksName_iff]
  rcases split_eq_ok_iff.mp split with ⟨few, -⟩ | ⟨-, named, -⟩
  · exact Or.inl few
  · exact Or.inr named

theorem operations_append_fragments (d : Document) (fragments : List Fragment) :
    operations { d with definitions := d.definitions ++ fragments.map .fragment } =
      d.operations := by
  have none : (fragments.map Definition.fragment).filterMap Definition.operation? = [] := by
    simp [List.filterMap_map, Function.comp_def, Definition.operation?]
  simp [operations, none]

theorem not_lacksName_append_fragments (fragments : List Fragment) (h : ¬d.LacksName) :
    ¬LacksName { d with definitions := d.definitions ++ fragments.map .fragment } := by
  unfold LacksName countOperations
  rw [operations_append_fragments]
  exact h

theorem parse_eq (text : String) (name : Option String) : Document.parse text name =
    (Document.parse text none).map fun d => { d with source := sourceName name } := by
  unfold Document.parse
  cases Parser.stepOnto (TokenStream.ofChars text.toList) with
  | error e => rfl
  | ok tokens =>
    simp only [bind, Except.bind]
    cases Parser.definitions.run tokens <;> rfl

end Document

theorem Modules.checkSeveral_eq (d : Document) (source : String) : checkSeveral d source =
    if d.LacksName then .error (.missingName ⟨some source⟩) else .ok () := by
  unfold checkSeveral
  by_cases several : d.countOperations > 1
  · cases named : d.checkNames (some source) with
    | ok u =>
      have all := Document.checkNames_eq_ok_iff.mp named
      have : ¬d.LacksName := Document.not_lacksName_iff.mpr (Or.inr all)
      simp [several, this, Except.mapError]
    | error e =>
      have lacks : d.LacksName := by
        by_contra h
        have all := (Document.not_lacksName_iff.mp h).resolve_left (by omega)
        rw [Document.checkNames_eq_ok_iff.mpr all] at named
        cases named
      have shape : e = ⟨some source⟩ := by
        unfold Document.checkNames at named
        split at named <;> simp_all
      simp [several, lacks, shape, Except.mapError]
  · have : ¬d.LacksName := fun h => several h.1
    simp [several, this]

/-- What a text says by itself: its document and its references, or the first of its faults. -/
def examine (text : String) (name : Option String) :
    Except LoadError (Document × List String) :=
  match Document.parse text name with
  | .error cause => .error (.unparsable (Document.sourceName name) cause)
  | .ok d =>
    if d.LacksName then .error (.missingName ⟨some (Document.sourceName name)⟩)
    else (Import.scan text).map fun references => (d, references)

theorem examine_eq_ok_iff {text : String} {name : Option String} {d : Document}
    {references : List String} : examine text name = .ok (d, references) ↔
      Document.parse text name = .ok d ∧ ¬d.LacksName ∧ Import.scan text = .ok references := by
  unfold examine
  cases Document.parse text name with
  | error cause => simp
  | ok parsed =>
    by_cases lacks : parsed.LacksName
    · simp only [lacks, if_true]
      constructor
      · intro h
        cases h
      · rintro ⟨h, whole, -⟩
        cases h
        exact absurd lacks whole
    · simp only [lacks, if_false]
      cases Import.scan text with
      | error e => simp [Except.map]
      | ok found =>
        simp only [Except.map, Except.ok.injEq, Prod.mk.injEq]
        constructor
        · rintro ⟨rfl, rfl⟩
          exact ⟨rfl, lacks, rfl⟩
        · rintro ⟨rfl, -, rfl⟩
          exact ⟨rfl, rfl⟩

theorem examine_eq_error_iff {text : String} {name : Option String} {e : LoadError} :
    examine text name = .error e ↔
      (∃ cause, Document.parse text name = .error cause ∧
        e = .unparsable (Document.sourceName name) cause) ∨
      ∃ d, Document.parse text name = .ok d ∧
        (d.LacksName ∧ e = .missingName ⟨some (Document.sourceName name)⟩ ∨
          ¬d.LacksName ∧ ∃ line,
            (Import.leadingBlock text.toList).find? (Import.IsEmptyDirective ·) = some line ∧
            e = .emptyDirective (String.ofList line)) := by
  unfold examine
  cases Document.parse text name with
  | error cause => simp [eq_comm]
  | ok d =>
    by_cases lacks : d.LacksName
    · simp [lacks, eq_comm]
    · have scanned : ((Import.scan text).map fun references => (d, references)) = .error e ↔
          Import.scan text = .error e := by
        cases Import.scan text <;> simp [Except.map]
      simp only [lacks, if_false, scanned, Import.scan_eq_error_iff]
      simp [lacks]

theorem kind_of_examine_error {text : String} {name : Option String} {e : LoadError}
    (h : examine text name = .error e) :
    (e.kind = .parse ∧ ∃ cause, Document.parse text name = .error cause) ∨ e.kind = .names ∨
      e.kind = .resolution := by
  rcases examine_eq_error_iff.mp h with ⟨cause, broken, rfl⟩ | ⟨d, -, ⟨-, rfl⟩ | ⟨-, line, -, rfl⟩⟩
  · exact Or.inl ⟨rfl, cause, broken⟩
  · exact Or.inr (Or.inl rfl)
  · exact Or.inr (Or.inr rfl)

namespace Resolver

open Loading

variable {text : String} {name : Option String} {d : Document} {references : List String}

/-- A text with a fault of its own ends the load at once, wherever its references lead. -/
theorem load_of_examine_error {e : LoadError} (resolve : Resolver)
    (h : examine text name = .error e) : resolve.load text name = throw e := by
  unfold load Modules.parse
  unfold examine at h
  cases parsed : Document.parse text name with
  | error cause =>
    rw [parsed] at h
    obtain rfl := Except.error.inj h
    rfl
  | ok d =>
    simp only [parsed] at h
    simp only [Except.mapError, ofExcept_ok_bind, Modules.checkSeveral_eq]
    split at h
    · next lacks =>
      obtain rfl := Except.error.inj h
      rw [if_pos lacks]
      rfl
    · next whole =>
      rw [if_neg whole, ofExcept_ok_bind]
      cases scanned : Import.scan text with
      | ok found => simp [scanned, Except.map] at h
      | error fault =>
        simp only [scanned, Except.map, Except.error.injEq] at h
        unfold Import.expand
        rw [scanned, h]
        rfl

theorem error?_load_of_examine_ok (resolve : Resolver)
    (h : examine text name = .ok (d, references)) : (resolve.load text name).error? =
      references.findSome? fun reference => (resolve reference name).error? := by
  obtain ⟨parsed, whole, scanned⟩ := examine_eq_ok_iff.mp h
  have read : Modules.parse text name = .ok d := mapError_eq_ok_iff.mpr parsed
  have expansion : (Import.expand text d fun reference => resolve reference name).error? =
      references.findSome? fun reference => (resolve reference name).error? := by
    rw [Import.error?_expand, scanned]
  rw [← expansion, load, read, ofExcept_ok_bind, Modules.checkSeveral_eq, if_neg whole,
    ofExcept_ok_bind]
  cases fault : (Import.expand text d fun reference => resolve reference name).error? with
  | some e => exact error?_bind_of_error fault _
  | none =>
    -- imports add fragments only, so the names that were there suffice for the split
    obtain ⟨expanded, returned⟩ := error?_eq_none_iff.mp fault
    obtain ⟨_, documents, -, -, rfl⟩ := Import.returns_expand.mp returned
    obtain ⟨parts, split⟩ := Document.exists_split_eq_ok
      (Document.not_lacksName_append_fragments _ whole) (some (Document.sourceName name))
    rw [error?_bind_of_returns returned, split, scanned, Except.mapError, ofExcept_ok_bind,
      error?_bind_of_returns (returns_lift.mpr rfl)]
    rfl

end Resolver

/-! ## What an expansion adds

An expansion leaves the definitions of a document where they are and puts fragments behind them,
of each name among the imported fragments the first. So what a name of the document stands for
stays the same, and a warning tells of each fragment that a local one hides. Whoever resolves the
references may answer each of them in a way of its own, the same reference too: an expansion is
taken as a sequence of turns, one for each reference. -/

namespace Loading

variable {ε α β : Type}

def warnings (x : Loading ε α) : List Event := x.outcome.1.filter Event.isWarning

theorem warnings_bind_of_returns {x : Loading ε α} {a : α} (h : x.Returns a)
    (f : α → Loading ε β) : (x >>= f).warnings = x.warnings ++ (f a).warnings := by
  unfold Returns at h
  rw [warnings, events_bind, h, List.filter_append]
  rfl

theorem warnings_lift (x : Logged α) :
    warnings (ExceptT.lift x : Loading ε α) = x.events.filter Event.isWarning := by
  rw [warnings, outcome, ← Logged.events_map Except.ok x]
  rfl

theorem warnings_pure (a : α) : (pure a : Loading ε α).warnings = [] := rfl

theorem warnings_report {e : Event} (h : e.isWarning = false) :
    (report e : Loading ε Unit).warnings = [] :=
  List.filter_cons_of_neg (by simp [h])

end Loading

namespace Import

open Loading

variable {localNames seen : List String}

theorem warnings_uniqueFragments (seen : List String) (definitions : List Definition) :
    (uniqueFragments seen definitions).events.filter Event.isWarning = [] := by
  fun_induction uniqueFragments seen definitions with
  | case1 seen => rfl
  | case2 seen f more known ih => exact ih
  | case3 seen f more new ih =>
    refine (List.filter_append _ _).trans ?_
    rw [ih]
    rfl
  | case4 seen x more other ih => exact ih

theorem events_reportCollisions (localNames : List String) (reference : String)
    (fragments : List Fragment) : (reportCollisions localNames reference fragments).events =
      (fragments.filter fun f => localNames.contains f.name).map
        fun f => .collision f.name reference := by
  induction fragments with
  | nil => rfl
  | cons f more ih =>
    rw [reportCollisions, List.filter_cons]
    split
    · rw [List.map_cons, ← ih]
      rfl
    · exact ih

def mergeInTurn (localNames seen : List String) :
    List (String × Loading LoadError Document) → Loading LoadError (List Fragment)
  | [] => pure []
  | (reference, call) :: more => do
    let imported ← call
    let (kept, seen) ← ExceptT.lift (uniqueFragments seen imported.definitions)
    ExceptT.lift (reportCollisions localNames reference kept)
    Loading.report (.merged kept.length reference)
    return kept ++ (← mergeInTurn localNames seen more)

/-- A document with the fragments of the modules that its text imports, where the answer to a
reference may depend on how many were answered before. -/
def expandInTurn (text : String) (d : Document)
    (answer : Nat → String → Loading LoadError Document) : Loading LoadError Document := do
  let references ← Loading.ofExcept (scan text)
  if references.isEmpty then return d
  let localNames := d.fragments.map Fragment.name
  let merged ← mergeInTurn localNames [] (references.mapIdx fun i r => (r, answer i r))
  return { d with definitions := d.definitions ++ merged.map Definition.fragment }

theorem mergeInTurn_map (resolve : String → Loading LoadError Document)
    (references : List String) : mergeInTurn localNames seen (references.map fun r => (r, resolve r)) =
      mergeFrom resolve localNames seen references := by
  induction references generalizing seen with
  | nil => rfl
  | cons reference more ih =>
    rw [List.map_cons, mergeInTurn, mergeFrom]
    simp only [ih]

theorem expandInTurn_const (text : String) (d : Document)
    (resolve : String → Loading LoadError Document) :
    expandInTurn text d (fun _ => resolve) = expand text d resolve := by
  unfold expandInTurn expand
  congr 1
  funext references
  have same : references.mapIdx (fun _ r => (r, resolve r)) =
      references.map fun r => (r, resolve r) :=
    List.ext_getElem (by simp) (by simp)
  simp only [same, mergeInTurn_map]

/-- A reference, how it was answered, and what came of it. -/
structure Turn where
  reference : String
  answer : Loading LoadError Document
  found : Document
  added : List Fragment

namespace Turn

def warnings (localNames : List String) (t : Turn) : List Event :=
  t.answer.warnings ++ (t.added.filter fun f => localNames.contains f.name).map
    fun f => .collision f.name t.reference

def allAdded (turns : List Turn) : List Fragment := turns.flatMap added

def allFound (turns : List Turn) : List Fragment := turns.flatMap fun t => t.found.fragments

end Turn

/-- The turns of a merge in which every reference leads to a document. -/
structure Merges (localNames seen : List String)
    (calls : List (String × Loading LoadError Document)) (turns : List Turn) : Prop where
  asked : turns.map (fun t => (t.reference, t.answer)) = calls
  found : ∀ t ∈ turns, t.answer.Returns t.found
  taken : ∀ t ∈ turns, t.added.Sublist t.found.fragments
  kept : Turn.allAdded turns =
    firsts ((Turn.allFound turns).filter fun f => !seen.contains f.name)
  returns : (mergeInTurn localNames seen calls).Returns (Turn.allAdded turns)
  warned : (mergeInTurn localNames seen calls).warnings =
    turns.flatMap (Turn.warnings localNames)

namespace Merges

theorem nil : Merges localNames seen [] [] where
  asked := rfl
  found _ h := absurd h List.not_mem_nil
  taken _ h := absurd h List.not_mem_nil
  kept := rfl
  returns := returns_pure.mpr rfl
  warned := rfl

theorem cons {reference : String} {answer : Loading LoadError Document} {found : Document}
    {calls : List (String × Loading LoadError Document)} {turns : List Turn}
    {kept : List Fragment} (answered : answer.Returns found)
    (keeps : kept = firsts (found.fragments.filter fun f => !seen.contains f.name))
    (later : Merges localNames (seen ++ kept.map Fragment.name) calls turns) :
    Merges localNames seen ((reference, answer) :: calls)
      (⟨reference, answer, found, kept⟩ :: turns) := by
  have value : (uniqueFragments seen found.definitions).value =
      (kept, seen ++ kept.map Fragment.name) := by
    rw [value_uniqueFragments, keeps]
    rfl
  refine ⟨?_, ?_, ?_, ?_, ?_, ?_⟩
  · rw [List.map_cons, later.asked]
  · exact List.forall_mem_cons.mpr ⟨answered, later.found⟩
  · refine List.forall_mem_cons.mpr ⟨?_, later.taken⟩
    rw [keeps]
    exact (firsts_sublist _).trans List.filter_sublist
  · have split : firsts ((found.fragments ++ Turn.allFound turns).filter
        fun f => !seen.contains f.name) = kept ++ firsts ((Turn.allFound turns).filter
          fun f => !(seen ++ kept.map Fragment.name).contains f.name) := by
      rw [keeps]
      exact firsts_filter_append seen _ _
    rw [← later.kept] at split
    exact split.symm
  · rw [mergeInTurn]
    simp only [returns_bind, returns_lift, returns_report, returns_pure]
    exact ⟨found, answered, _, value, (), trivial, (), trivial, _, later.returns, rfl⟩
  · have collisions : (reportCollisions localNames reference kept).events.filter Event.isWarning =
        (kept.filter fun f => localNames.contains f.name).map
          fun f => .collision f.name reference := by
      rw [events_reportCollisions, List.filter_eq_self]
      intro e he
      obtain ⟨f, -, rfl⟩ := List.mem_map.mp he
      rfl
    rw [mergeInTurn, warnings_bind_of_returns answered,
      warnings_bind_of_returns (returns_lift.mpr value),
      warnings_bind_of_returns (a := ()) (returns_lift.mpr rfl),
      warnings_bind_of_returns (a := ()) returns_report,
      warnings_bind_of_returns later.returns, warnings_lift, warnings_lift,
      warnings_uniqueFragments, collisions, later.warned, warnings_report rfl, warnings_pure]
    simp [Turn.warnings]

end Merges

theorem exists_merges (localNames seen : List String)
    (calls : List (String × Loading LoadError Document))
    (none_fails : ∀ call ∈ calls, call.2.error? = none) :
    ∃ turns, Merges localNames seen calls turns := by
  induction calls generalizing seen with
  | nil => exact ⟨[], .nil⟩
  | cons call more ih =>
    obtain ⟨found, answered⟩ := error?_eq_none_iff.mp (none_fails call List.mem_cons_self)
    obtain ⟨turns, later⟩ := ih _ fun other among => none_fails other (List.mem_cons_of_mem _ among)
    exact ⟨_, .cons answered rfl later⟩

/-- What is different in an expanded document, and what is not. -/
structure OnlyAdds (d expanded : Document) (turns : List Turn) : Prop where
  source : expanded.source = d.source
  extended : expanded.definitions = d.definitions ++ (Turn.allAdded turns).map .fragment
  distinct : ((Turn.allAdded turns).map Fragment.name).Nodup
  complete : ∀ name, name ∈ (Turn.allAdded turns).map Fragment.name ↔
    name ∈ (Turn.allFound turns).map Fragment.name
  first : ∀ f ∈ Turn.allAdded turns, (Turn.allFound turns).find? (·.name == f.name) = some f
  operations : expanded.countOperations = d.countOperations
  lookups : ∀ name x, d.find? name = some x → expanded.find? name = some x

variable {d : Document} {calls : List (String × Loading LoadError Document)} {turns : List Turn}

theorem Merges.onlyAdds (h : Merges localNames [] calls turns) (d : Document) : OnlyAdds d
    { d with definitions := d.definitions ++ (Turn.allAdded turns).map .fragment } turns := by
  have kept : Turn.allAdded turns = firsts (Turn.allFound turns) := by
    simpa using h.kept
  refine ⟨rfl, rfl, ?_, fun name => ?_, fun f hf => ?_, ?_, fun name x hx => ?_⟩
  · rw [kept]
    exact nodup_names_firsts _
  · rw [kept]
    exact mem_names_firsts
  · rw [kept] at hf
    exact find?_of_mem_firsts hf
  · rw [Document.countOperations, Document.operations_append_fragments, Document.countOperations]
  · rw [Document.find?, List.find?_append]
    exact Option.or_eq_some_iff.mpr (Or.inl hx)

theorem expandInTurn_of_scan {text : String} {references : List String}
    (scanned : scan text = .ok references) (d : Document)
    (answer : Nat → String → Loading LoadError Document) :
    expandInTurn text d answer = (do
      let merged ← mergeInTurn (d.fragments.map Fragment.name) []
        (references.mapIdx fun i r => (r, answer i r))
      return { d with definitions := d.definitions ++ merged.map Definition.fragment }) := by
  rw [expandInTurn, scanned, ofExcept_ok_bind]
  split
  · next none =>
    rw [List.isEmpty_iff] at none
    subst none
    rw [List.mapIdx_nil, mergeInTurn, pure_bind, List.map_nil, List.append_nil]
  · rfl

/-- Expansion only adds. If no reference fails, it succeeds; there is one turn for each reference,
in which fragments of the document that was found are added in their order, and the warnings are
those of the turns. -/
theorem expand_onlyAdds (text : String) (d : Document) :
    (∀ resolve, expandInTurn text d (fun _ => resolve) = expand text d resolve) ∧
      ∀ answer references, scan text = .ok references →
        (∀ call ∈ references.mapIdx answer, call.error? = none) →
        ∃ expanded turns, (expandInTurn text d answer).Returns expanded ∧
          OnlyAdds d expanded turns ∧
          turns.map Turn.reference = references ∧
          turns.map Turn.answer = references.mapIdx answer ∧
          (∀ t ∈ turns, t.answer.Returns t.found ∧ t.added.Sublist t.found.fragments) ∧
          (expandInTurn text d answer).warnings =
            turns.flatMap (Turn.warnings (d.fragments.map Fragment.name)) := by
  refine ⟨expandInTurn_const text d, fun answer references scanned none_fails => ?_⟩
  have asked : (references.mapIdx fun i r => (r, answer i r)).map Prod.fst =
      references := List.ext_getElem (by simp) (by simp)
  have answers : (references.mapIdx fun i r => (r, answer i r)).map Prod.snd =
      references.mapIdx answer := List.ext_getElem (by simp) (by simp)
  have calls_succeed : ∀ call ∈ references.mapIdx fun i r => (r, answer i r),
      call.2.error? = none := by
    intro call among
    refine none_fails call.2 ?_
    rw [← answers]
    exact List.mem_map_of_mem among
  obtain ⟨turns, merges⟩ := exists_merges (d.fragments.map Fragment.name) [] _ calls_succeed
  refine ⟨_, turns, ?_, merges.onlyAdds d, ?_, ?_, fun t ht => ?_, ?_⟩
  · rw [expandInTurn_of_scan scanned]
    exact returns_bind.mpr ⟨_, merges.returns, returns_pure.mpr rfl⟩
  · rw [← asked, ← merges.asked, List.map_map]
    rfl
  · rw [← answers, ← merges.asked, List.map_map]
    rfl
  · exact ⟨merges.found t ht, merges.taken t ht⟩
  · rw [expandInTurn_of_scan scanned, warnings_bind_of_returns merges.returns, merges.warned,
      warnings_pure, List.append_nil]

end Import

namespace Sample

def importing : Document := ⟨Document.defaultSource,
  [query "Q" [spread "F"], fragment "G" [field "z"]]⟩

/-- A reference leads to two fragments "F" at first, and to "G" and "F" when it is asked again. -/
def changing : Nat → String → Loading LoadError Document
  | 0, name => pure ⟨name, [fragment "F" [field "x"], fragment "F" [field "y"]]⟩
  | _ + 1, name => pure ⟨name, [fragment "G" [field "y"], query "A" [], fragment "F" []]⟩

end Sample

namespace Import

theorem expand_onlyAdds_changing :
    scan "#import f\n#import f\nquery Q { ...F }" = .ok ["f", "f"] ∧
      (∀ call ∈ ["f", "f"].mapIdx Sample.changing, call.error? = none) ∧
      ∃ expanded turns,
        (expandInTurn "#import f\n#import f\nquery Q { ...F }" Sample.importing
          Sample.changing).Returns expanded ∧
        OnlyAdds Sample.importing expanded turns ∧ turns.map Turn.reference = ["f", "f"] := by
  have scanned : scan "#import f\n#import f\nquery Q { ...F }" = .ok ["f", "f"] := by cbv
  have none_fails : ∀ call ∈ ["f", "f"].mapIdx Sample.changing, call.error? = none := by
    simp [Sample.changing, Loading.error?_pure]
  obtain ⟨expanded, turns, returns, adds, references, -⟩ :=
    (expand_onlyAdds _ Sample.importing).2 Sample.changing _ scanned none_fails
  exact ⟨scanned, none_fails, expanded, turns, returns, adds, references⟩

end Import

end OperationDocuments
