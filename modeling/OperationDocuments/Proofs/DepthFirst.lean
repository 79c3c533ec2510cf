import Mathlib
import OperationDocuments.Proofs.Expansion

/-! # The first fault of a load

The references of a text lead to modules, theirs to further modules, and so on in depth-first
order. Each module met on the way is judged for itself: it has to be in the table, must not be
open already, and its text must have no fault of its own. A load over a table ends as the first
module says that fails this judgement, and succeeds if none does. -/
namespace OperationDocuments

open Loading

namespace LoadError

theorem ofImport_ofImport (outer inner : String) (e : LoadError) :
    (e.ofImport inner).ofImport outer = e.ofImport inner := by
  cases e <;> rfl

theorem kind_ofImport (reference : String) (e : LoadError) :
    (e.ofImport reference).kind = if e.kind = .parse then .resolution else e.kind := by
  cases e <;> rfl

end LoadError

namespace Modules

variable {m : Modules} {table : Assoc String String} {stack : List String} {reference : String}
  {origin : Option String}

theorem result_whileOpen {α : Type} (key : String) (x : Loading LoadError α) :
    (whileOpen key x).outcome.2 = x.outcome.2 := rfl

theorem result_resolveWithin_ofTable :
    ((ofTable table).resolveWithin stack reference origin).outcome.2 =
      match Assoc.find? table reference with
      | none => .error (.unresolved reference none)
      | some text =>
        if reference ∈ stack then .error (.cycle (stack ++ [reference]))
        else (((ofTable table).loadWithin (stack ++ [reference]) text
          (some reference)).outcome.2.map Loaded.document).mapError (.ofImport reference) := by
  unfold resolveWithin resolveUsing
  cases found : Assoc.find? table reference with
  | none =>
    have nowhere : (ofTable table).locate reference origin =
        .error (.unresolved reference none) := dif_neg (Assoc.find?_eq_none_iff.mp found)
    rw [nowhere, ofExcept_error_bind]
    rfl
  | some text =>
    have known : reference ∈ (ofTable table).keys := Assoc.mem_keys_of_find? found
    have located : (ofTable table).locate reference origin = .ok ⟨reference, known⟩ :=
      dif_pos known
    have read : (ofTable table).text reference = .ok text := by
      simp [ofTable, found]
    rw [located, ofExcept_ok_bind]
    by_cases opened : reference ∈ stack
    · simp only [opened, dif_pos, if_true]
      rfl
    · simp only [opened, dif_neg, not_false_iff, if_false]
      -- a table announces nothing, and opening a module does not change how its load ends
      rw [result_bind]
      show (whileOpen reference _).outcome.2 = _
      rw [result_whileOpen, outcome_adapt, read, ofExcept_ok_bind, result_bind]
      cases ((ofTable table).loadWithin (stack ++ [reference]) text (some reference)).outcome.2 <;>
        rfl

theorem returns_resolveWithin_ofTable {d : Document} :
    ((ofTable table).resolveWithin stack reference origin).Returns d ↔
      ∃ text loaded, Assoc.find? table reference = some text ∧ reference ∉ stack ∧
        ((ofTable table).loadWithin (stack ++ [reference]) text (some reference)).Returns loaded ∧
        loaded.document = d := by
  unfold Returns
  rw [result_resolveWithin_ofTable]
  cases Assoc.find? table reference with
  | none => simp
  | some text =>
    by_cases opened : reference ∈ stack
    · simp [opened]
    · simp only [opened, if_false, Resolver.mapError_eq_ok_iff, Option.some.injEq,
        not_false_iff, true_and, exists_and_left, exists_eq_left']
      cases ((ofTable table).loadWithin (stack ++ [reference]) text (some reference)).outcome.2 <;>
        simp [Except.map]

theorem error?_resolveWithin_ofTable :
    ((ofTable table).resolveWithin stack reference origin).error? =
      match Assoc.find? table reference with
      | none => some (.unresolved reference none)
      | some text =>
        if reference ∈ stack then some (.cycle (stack ++ [reference]))
        else ((ofTable table).loadWithin (stack ++ [reference]) text
          (some reference)).error?.map (.ofImport reference) := by
  unfold error?
  rw [result_resolveWithin_ofTable]
  cases Assoc.find? table reference with
  | none => rfl
  | some text =>
    by_cases opened : reference ∈ stack
    · simp [opened]
    · simp only [opened, if_false]
      cases ((ofTable table).loadWithin (stack ++ [reference]) text (some reference)).outcome.2 <;>
        rfl

theorem ofImport_error?_resolveWithin (outer : String) :
    ((ofTable table).resolveWithin stack reference origin).error?.map (.ofImport outer) =
      ((ofTable table).resolveWithin stack reference origin).error? := by
  rw [error?_resolveWithin_ofTable]
  cases Assoc.find? table reference with
  | none => rfl
  | some text =>
    by_cases opened : reference ∈ stack
    · simp [opened, LoadError.ofImport]
    · simp [opened, Option.map_map, Function.comp_def, LoadError.ofImport_ofImport]

end Modules

/-- How a module is judged that is met while those in `stack` are open: the references of its
text, or the first of its faults. -/
def verdict (table : Assoc String String) (stack : List String) (reference : String) :
    Except LoadError (List String) :=
  match Assoc.find? table reference with
  | none => .error (.unresolved reference none)
  | some text =>
    if reference ∈ stack then .error (.cycle (stack ++ [reference]))
    else ((examine text (some reference)).map Prod.snd).mapError (.ofImport reference)

variable {table : Assoc String String} {stack references : List String} {reference : String}
  {e : LoadError}

theorem verdict_eq_ok_iff : verdict table stack reference = .ok references ↔
    ∃ text d, Assoc.find? table reference = some text ∧ reference ∉ stack ∧
      examine text (some reference) = .ok (d, references) := by
  unfold verdict
  cases Assoc.find? table reference with
  | none => simp
  | some text =>
    by_cases opened : reference ∈ stack
    · simp [opened]
    · simp only [opened, if_false, Resolver.mapError_eq_ok_iff, Option.some.injEq, not_false_iff,
        true_and, exists_eq_left', exists_and_left]
      cases examine text (some reference) with
      | error e => simp [Except.map]
      | ok found =>
        obtain ⟨d, found⟩ := found
        simp [Except.map]

theorem mem_keys_of_verdict (h : verdict table stack reference = .ok references) :
    reference ∈ Assoc.keys table := by
  obtain ⟨text, d, found, -, -⟩ := verdict_eq_ok_iff.mp h
  exact Assoc.mem_keys_of_find? found

theorem not_mem_of_verdict (h : verdict table stack reference = .ok references) :
    reference ∉ stack := by
  obtain ⟨text, d, -, closed, -⟩ := verdict_eq_ok_iff.mp h
  exact closed

theorem verdict_eq_error_iff : verdict table stack reference = .error e ↔
    (Assoc.find? table reference = none ∧ e = .unresolved reference none) ∨
    ∃ text, Assoc.find? table reference = some text ∧
      (reference ∈ stack ∧ e = .cycle (stack ++ [reference]) ∨
        reference ∉ stack ∧ ∃ fault, examine text (some reference) = .error fault ∧
          e = fault.ofImport reference) := by
  unfold verdict
  cases Assoc.find? table reference with
  | none => simp [eq_comm]
  | some text =>
    by_cases opened : reference ∈ stack
    · simp [opened, eq_comm]
    · simp only [opened, if_false, Option.some.injEq, exists_eq_left']
      cases examine text (some reference) <;> simp [Except.map, Except.mapError, eq_comm]

theorem kind_of_verdict_error (h : verdict table stack reference = .error e) :
    e.kind = .names ∨ e.kind = .resolution := by
  rcases verdict_eq_error_iff.mp h with ⟨-, rfl⟩ | ⟨text, -, ⟨-, rfl⟩ | ⟨-, fault, examined, rfl⟩⟩
  · exact Or.inr rfl
  · exact Or.inr rfl
  · rw [LoadError.kind_ofImport]
    rcases kind_of_examine_error examined with ⟨parse, -⟩ | names | resolution
    · exact Or.inr (if_pos parse)
    · simp [names]
    · simp [resolution]

theorem verdict_of_unparsable {module : String} {cause : SyntaxError}
    (found : Assoc.find? table reference = some module) (closed : reference ∉ stack)
    (broken : Document.parse module (some reference) = .error cause) :
    verdict table stack reference =
      .error (.unparsableImport reference (Document.sourceName (some reference)) cause) := by
  have examined := examine_eq_error_iff.mpr (Or.inl ⟨cause, broken, rfl⟩)
  exact verdict_eq_error_iff.mpr (Or.inr ⟨module, found, Or.inr ⟨closed, _, examined, rfl⟩⟩)

structure Visit where
  stack : List String
  reference : String

def Visit.fault (table : Assoc String String) (v : Visit) : Option LoadError :=
  match verdict table v.stack v.reference with
  | .error e => some e
  | .ok _ => none

theorem Visit.fault_eq_some_iff {v : Visit} :
    v.fault table = some e ↔ verdict table v.stack v.reference = .error e := by
  unfold Visit.fault
  cases verdict table v.stack v.reference <;> simp

theorem Visit.fault_eq_none_iff {v : Visit} :
    v.fault table = none ↔ ∃ below, verdict table v.stack v.reference = .ok below := by
  unfold Visit.fault
  cases verdict table v.stack v.reference <;> simp

/-- The modules that references lead to, in depth-first order, where those in `stack` are open.
Nothing is met behind a module that fails its judgement, but the search goes on after it. -/
def visits (table : Assoc String String) (stack : List String) : List String → List Visit
  | [] => []
  | reference :: more =>
    let behind := match _judged : verdict table stack reference with
      | .error _ => []
      | .ok below => visits table (stack ++ [reference]) below
    ⟨stack, reference⟩ :: (behind ++ visits table stack more)
termination_by references =>
  (((Assoc.keys table).filter (!stack.contains ·)).length, references.length)
decreasing_by
  · exact Prod.Lex.left _ _ (Modules.length_closed_lt (mem_keys_of_verdict _judged)
      (not_mem_of_verdict _judged))
  · exact Prod.Lex.right _ (Nat.lt_succ_self _)

theorem visits_cons (table : Assoc String String) (stack : List String) (reference : String)
    (more : List String) : visits table stack (reference :: more) =
      ⟨stack, reference⟩ :: ((match verdict table stack reference with
        | .error _ => []
        | .ok below => visits table (stack ++ [reference]) below) ++
          visits table stack more) := by
  rw [visits]
  congr 2
  split
  · next e judged => rw [judged]
  · next below judged => rw [judged]

/-- A reference fails with the verdict on its module, or else with the first failure among the
references of that module. -/
theorem error?_resolveWithin (stack : List String) (reference : String)
    (origin : Option String) :
    ((Modules.ofTable table).resolveWithin stack reference origin).error? =
      match verdict table stack reference with
      | .error e => some e
      | .ok below => below.findSome? fun next =>
        ((Modules.ofTable table).resolveWithin (stack ++ [reference]) next
          (some reference)).error? := by
  rw [Modules.error?_resolveWithin_ofTable, verdict]
  cases Assoc.find? table reference with
  | none => rfl
  | some text =>
    by_cases opened : reference ∈ stack
    · simp [opened]
    · simp only [opened, if_false]
      rw [Modules.loadWithin_eq]
      cases examined : examine text (some reference) with
      | error e =>
        rw [Resolver.load_of_examine_error _ examined]
        rfl
      | ok found =>
        obtain ⟨d, below⟩ := found
        rw [Resolver.error?_load_of_examine_ok _ examined, List.map_findSome?]
        simp only [Function.comp_def, Modules.ofImport_error?_resolveWithin]
        rfl

theorem findSome?_visits (table : Assoc String String) (stack references : List String)
    (origin : Option String) : (visits table stack references).findSome? (Visit.fault table) =
      references.findSome? fun reference =>
        ((Modules.ofTable table).resolveWithin stack reference origin).error? := by
  induction stack, references using visits.induct table generalizing origin with
  | case1 stack => rw [visits]; rfl
  | case2 stack reference more ihBelow ihMore =>
    -- both sides look at the module first, then behind it, and then at the other references
    rw [visits_cons, List.findSome?_cons, List.findSome?_append, ihMore origin,
      List.findSome?_cons, error?_resolveWithin, Visit.fault]
    cases judged : verdict table stack reference with
    | error e => rfl
    | ok below =>
      dsimp only
      -- the references of the module are followed with its own name as their origin
      rw [ihBelow below judged (some reference)]
      cases below.findSome? _ <;> rfl

theorem Resolver.error?_loadFiltered (resolve : Resolver) (filters : List OperationFilter)
    (text : String) (name : Option String) :
    (resolve.loadFiltered filters text name).error? = (resolve.load text name).error? :=
  error?_bind_of_total _ fun _ => error?_lift _

theorem Loader.error?_load_table (filters : List OperationFilter) (w : Workspace) (text : String)
    (name : Option String) :
    (Loader.load ⟨.table table, filters⟩ w text name).error? =
      match examine text name with
      | .error e => some e
      | .ok (_, references) => (visits table [] references).findSome? (Visit.fault table) := by
  have unfiltered : (Loader.load ⟨.table table, filters⟩ w text name).error? =
      (((Modules.ofTable table).resolveWithin []).load text name).error? :=
    Resolver.error?_loadFiltered _ filters text name
  rw [unfiltered]
  cases examined : examine text name with
  | error e => rw [Resolver.load_of_examine_error _ examined]; rfl
  | ok found =>
    rw [Resolver.error?_load_of_examine_ok _ examined]
    exact (findSome?_visits table [] found.2 name).symm

/-- Loading ends with an error before any reference is followed: it does so without a trace,
whatever the references would lead to. -/
def EndsUnresolved (text : String) (name : Option String) (e : LoadError) : Prop :=
  ∀ (resolve : Resolver) (filters : List OperationFilter),
    (resolve.loadFiltered filters text name).outcome = ([], .error e)

theorem endsUnresolved_of_examine_error {text : String} {name : Option String}
    (h : examine text name = .error e) : EndsUnresolved text name e := by
  intro resolve filters
  unfold Resolver.loadFiltered
  rw [Resolver.load_of_examine_error resolve h]
  rfl

/-- A load that ends as the first of these modules says that fails its judgement. Of a module that
does not parse, it tells the reference of that module and where its text goes wrong, whatever
stands between the module and the text that is loaded. -/
structure EndsAsVisited (table : Assoc String String) (modules : List Visit)
    (load : Loading LoadError Loaded) : Prop where
  succeeds : (∀ v ∈ modules, v.fault table = none) → ∃ loaded, load.Returns loaded
  fails : ∀ before v after e, modules = before ++ v :: after →
    (∀ u ∈ before, u.fault table = none) → v.fault table = some e → load.error? = some e
  surfaces : ∀ before v after module cause, modules = before ++ v :: after →
    (∀ u ∈ before, u.fault table = none) → Assoc.find? table v.reference = some module →
      v.reference ∉ v.stack → Document.parse module (some v.reference) = .error cause →
        load.error? = some (.unparsableImport v.reference
          (Document.sourceName (some v.reference)) cause)

/-- How loading a text over a table of modules ends: with the first thing that is wrong with the
text itself, or else with the first module, in depth-first order, that fails its judgement. -/
structure EndsWithFirstFault (table : Assoc String String) (text : String)
    (name : Option String) (load : Loading LoadError Loaded) : Prop where
  ends : (∃ loaded, load.Returns loaded) ∨ ∃ e, load.error? = some e ∧
    (e.kind = .parse ∨ e.kind = .names ∨ e.kind = .resolution)
  unparsable : (∃ e, load.error? = some e ∧ e.kind = .parse) ↔
    ∃ cause, Document.parse text name = .error cause
  unnamed : ∀ d, Document.parse text name = .ok d → d.LacksName →
    load.error? = some (.missingName ⟨some (Document.sourceName name)⟩) ∧
      EndsUnresolved text name (.missingName ⟨some (Document.sourceName name)⟩)
  undirected : ∀ d, Document.parse text name = .ok d → ¬d.LacksName →
    (∃ line ∈ Import.leadingBlock text.toList, Import.IsEmptyDirective line) →
      ∃ e, load.error? = some e ∧ e.kind = .resolution ∧ e.reference? = none ∧
        EndsUnresolved text name e
  visited : ∀ d, Document.parse text name = .ok d → ¬d.LacksName →
    (∀ line ∈ Import.leadingBlock text.toList, ¬Import.IsEmptyDirective line) →
      ∃ references, Import.scan text = .ok references ∧
        EndsAsVisited table (visits table [] references) load

namespace Loader

variable {filters : List OperationFilter} {w : Workspace} {text : String} {name : Option String}

theorem error?_load_eq_some_iff :
    (Loader.load ⟨.table table, filters⟩ w text name).error? = some e ↔
      examine text name = .error e ∨
        ∃ d references before v after, examine text name = .ok (d, references) ∧
          visits table [] references = before ++ v :: after ∧
          (∀ u ∈ before, u.fault table = none) ∧ v.fault table = some e := by
  rw [error?_load_table]
  cases examined : examine text name with
  | error fault => simp
  | ok found =>
    obtain ⟨d, references⟩ := found
    simp only [List.findSome?_eq_some_iff, reduceCtorEq, false_or, Except.ok.injEq,
      Prod.mk.injEq]
    constructor
    · rintro ⟨before, v, after, split, fault, clean⟩
      exact ⟨d, references, before, v, after, ⟨rfl, rfl⟩, split, clean, fault⟩
    · rintro ⟨_, _, before, v, after, ⟨rfl, rfl⟩, split, clean, fault⟩
      exact ⟨before, v, after, split, fault, clean⟩

theorem kind_of_error (h : (Loader.load ⟨.table table, filters⟩ w text name).error? = some e) :
    (e.kind = .parse ∧ ∃ cause, Document.parse text name = .error cause) ∨ e.kind = .names ∨
      e.kind = .resolution := by
  rcases error?_load_eq_some_iff.mp h with
    examined | ⟨d, references, before, v, after, -, -, -, fault⟩
  · exact kind_of_examine_error examined
  · -- an imported text that does not parse is an unresolved import
    exact Or.inr (kind_of_verdict_error (Visit.fault_eq_some_iff.mp fault))

theorem endsAsVisited_of_examine {d : Document}
    (examined : examine text name = .ok (d, references)) :
    EndsAsVisited table (visits table [] references)
      (Loader.load ⟨.table table, filters⟩ w text name) := by
  have fails : ∀ before v after e, visits table [] references = before ++ v :: after →
      (∀ u ∈ before, u.fault table = none) → v.fault table = some e →
        (Loader.load ⟨.table table, filters⟩ w text name).error? = some e := by
    intro before v after e split clean fault
    exact error?_load_eq_some_iff.mpr
      (Or.inr ⟨d, references, before, v, after, examined, split, clean, fault⟩)
  refine ⟨?succeeds, fails, ?surfaces⟩
  case succeeds =>
    intro clean
    rw [← error?_eq_none_iff, error?_load_table, examined]
    exact List.findSome?_eq_none_iff.mpr clean
  case surfaces =>
    intro before v after module cause split clean found closed broken
    have judged := verdict_of_unparsable found closed broken
    exact fails before v after _ split clean (Visit.fault_eq_some_iff.mpr judged)

theorem load_endsWithFirstFault (table : Assoc String String) (filters : List OperationFilter)
    (w : Workspace) (text : String) (name : Option String) :
    EndsWithFirstFault table text name (Loader.load ⟨.table table, filters⟩ w text name) := by
  refine ⟨?ends, ?unparsable, ?unnamed, ?undirected, ?visited⟩
  case ends =>
    cases ended : (Loader.load ⟨.table table, filters⟩ w text name).error? with
    | none => exact Or.inl (error?_eq_none_iff.mp ended)
    | some e => exact Or.inr ⟨e, rfl, (kind_of_error ended).imp_left And.left⟩
  case unparsable =>
    constructor
    · rintro ⟨e, ended, kind⟩
      rcases kind_of_error ended with ⟨-, broken⟩ | other | other
      · exact broken
      · cases kind.symm.trans other
      · cases kind.symm.trans other
    · rintro ⟨cause, broken⟩
      have examined := examine_eq_error_iff.mpr (Or.inl ⟨cause, broken, rfl⟩)
      exact ⟨_, error?_load_eq_some_iff.mpr (Or.inl examined), rfl⟩
  case unnamed =>
    intro d parsed lacks
    have examined := examine_eq_error_iff.mpr (Or.inr ⟨d, parsed, Or.inl ⟨lacks, rfl⟩⟩)
    exact ⟨error?_load_eq_some_iff.mpr (Or.inl examined), endsUnresolved_of_examine_error examined⟩
  case undirected =>
    rintro d parsed whole ⟨line, mem, empty⟩
    have found : ∃ first,
        (Import.leadingBlock text.toList).find? (Import.IsEmptyDirective ·) = some first := by
      rw [← Option.isSome_iff_exists, List.find?_isSome]
      exact ⟨line, mem, decide_eq_true empty⟩
    obtain ⟨first, found⟩ := found
    have examined := examine_eq_error_iff.mpr
      (Or.inr ⟨d, parsed, Or.inr ⟨whole, first, found, rfl⟩⟩)
    exact ⟨_, error?_load_eq_some_iff.mpr (Or.inl examined), rfl, rfl,
      endsUnresolved_of_examine_error examined⟩
  case visited =>
    intro d parsed whole directed
    obtain ⟨references, scanned⟩ := Import.exists_scan_eq_ok_iff.mpr directed
    have examined := examine_eq_ok_iff.mpr ⟨parsed, whole, scanned⟩
    exact ⟨references, scanned, endsAsVisited_of_examine examined⟩

end Loader

end OperationDocuments
