import Mathlib
import OperationDocuments.Proofs.DepthFirst

/-! # The graph of imports

Imports lead from module to module. A load fails on a cycle of them, and where there is none it
is one flat merge of all that can be reached. -/
namespace OperationDocuments

/-! ## Cycles

A module of a table imports the modules that the references of its text name. If nothing else is
wrong with the texts, loading fails exactly where this graph has a cycle within reach, and the
chain that is reported then is a path of the graph that ends on itself. The modules that are open
when a module is met are such a path: depth-first search visits every edge of what it may enter,
and enters everything but the modules of the path it stands on. -/

open Loading

def Imports (table : Assoc String String) (a b : String) : Prop :=
  ∃ module references, Assoc.find? table a = some module ∧
    Import.scan module = .ok references ∧ b ∈ references

def RefersTo (text reference : String) : Prop :=
  ∃ references, Import.scan text = .ok references ∧ reference ∈ references

/-- The text has a reference to the module, or to one that leads there through imports. -/
def Reaches (table : Assoc String String) (text reference : String) : Prop :=
  ∃ first, RefersTo text first ∧ Relation.ReflTransGen (Imports table) first reference

/-- A path of imports that leads from a text to modules that are different, and then back to one
of them. -/
structure ClosesCycle (table : Assoc String String) (text : String) (chain : List String) :
    Prop where
  begins : ∃ first, chain.head? = some first ∧ RefersTo text first
  linked : chain.IsChain (Imports table)
  distinct : chain.dropLast.Nodup
  closed : ∃ last, chain.getLast? = some last ∧ last ∈ chain.dropLast

structure Flawless (text : String) : Prop where
  named : ∃ d, Document.parse text none = .ok d ∧ ¬d.LacksName
  directed : ∀ line ∈ Import.leadingBlock text.toList, ¬Import.IsEmptyDirective line

structure FlawlessThroughout (table : Assoc String String) (text : String) : Prop where
  own : Flawless text
  within : ∀ reference, Reaches table text reference → ∃ module,
    Assoc.find? table reference = some module ∧ Flawless module

variable {table : Assoc String String} {stack references : List String}
  {text reference : String} {v : Visit}

theorem flawless_iff_examine (name : Option String) :
    Flawless text ↔ ∃ d references, examine text name = .ok (d, references) := by
  -- the name of a text is kept in its document, and decides nothing
  have renamed : (∃ d, Document.parse text none = .ok d ∧ ¬d.LacksName) ↔
      ∃ d, Document.parse text name = .ok d ∧ ¬d.LacksName := by
    rw [Document.parse_eq text name]
    cases Document.parse text none with
    | error e => simp [Except.map]
    | ok d =>
      have same : d.LacksName ↔ { d with source := Document.sourceName name }.LacksName := Iff.rfl
      simp [Except.map, same]
  constructor
  · rintro ⟨named, directed⟩
    obtain ⟨d, parsed, whole⟩ := renamed.mp named
    obtain ⟨references, scanned⟩ := Import.exists_scan_eq_ok_iff.mpr directed
    exact ⟨d, references, examine_eq_ok_iff.mpr ⟨parsed, whole, scanned⟩⟩
  · rintro ⟨d, references, examined⟩
    obtain ⟨parsed, whole, scanned⟩ := examine_eq_ok_iff.mp examined
    exact ⟨renamed.mpr ⟨d, parsed, whole⟩, Import.exists_scan_eq_ok_iff.mp ⟨references, scanned⟩⟩

instance (text : String) : Decidable (Flawless text) :=
  decidable_of_iff ((examine text none).isOk = true) <| by
    rw [flawless_iff_examine none]
    cases examine text none with
    | error e => simp [Except.isOk, Except.toBool]
    | ok found => exact ⟨fun _ => ⟨found.1, found.2, rfl⟩, fun _ => rfl⟩

theorem refersTo_iff (scanned : Import.scan text = .ok references) :
    RefersTo text reference ↔ reference ∈ references := by
  simp [RefersTo, scanned]

theorem imports_iff {a b module : String} (found : Assoc.find? table a = some module)
    (scanned : Import.scan module = .ok references) :
    Imports table a b ↔ b ∈ references := by
  simp [Imports, found, scanned]

theorem imports_of_verdict {below : List String} (h : verdict table stack reference = .ok below)
    {next : String} : Imports table reference next ↔ next ∈ below := by
  obtain ⟨module, d, found, -, examined⟩ := verdict_eq_ok_iff.mp h
  exact imports_iff found (examine_eq_ok_iff.mp examined).2.2

/-- What holds of the references that a search begins with, and of the imports of each module
that it enters, holds of everything it meets. -/
theorem visits_invariant {P : List String → String → Prop}
    (step : ∀ stack reference next, reference ∉ stack → P stack reference →
      Imports table reference next → P (stack ++ [reference]) next)
    (start : ∀ reference ∈ references, P stack reference)
    (h : v ∈ visits table stack references) : P v.stack v.reference := by
  induction stack, references using visits.induct table with
  | case1 stack =>
    rw [visits] at h
    cases h
  | case2 stack reference more ihBelow ihMore =>
    rw [visits_cons, List.mem_cons, List.mem_append] at h
    rcases h with rfl | h | h
    · exact start reference List.mem_cons_self
    · cases judged : verdict table stack reference with
      | error e => simp [judged] at h
      | ok below =>
        refine ihBelow below judged (fun next mem => ?_) (by simpa [judged] using h)
        exact step stack reference next (not_mem_of_verdict judged)
          (start reference List.mem_cons_self) ((imports_of_verdict judged).mpr mem)
    · exact ihMore (fun next mem => start next (List.mem_cons_of_mem reference mem)) h

theorem mem_visits_of_mem (h : reference ∈ references) :
    ⟨stack, reference⟩ ∈ visits table stack references := by
  induction references with
  | nil => cases h
  | cons first more ih =>
    rw [visits_cons]
    rcases List.mem_cons.mp h with rfl | h
    · exact List.mem_cons_self
    · exact List.mem_cons_of_mem _ (List.mem_append_right _ (ih h))

theorem mem_visits_of_imports (h : v ∈ visits table stack references)
    (clean : v.fault table = none) {next : String} (edge : Imports table v.reference next) :
    ⟨v.stack ++ [v.reference], next⟩ ∈ visits table stack references := by
  induction stack, references using visits.induct table with
  | case1 stack =>
    rw [visits] at h
    cases h
  | case2 stack reference more ihBelow ihMore =>
    rw [visits_cons, List.mem_cons, List.mem_append] at h ⊢
    rcases h with rfl | h | h
    · obtain ⟨below, judged⟩ := Visit.fault_eq_none_iff.mp clean
      refine Or.inr (Or.inl ?_)
      rw [judged]
      exact mem_visits_of_mem ((imports_of_verdict judged).mp edge)
    · cases judged : verdict table stack reference with
      | error e => simp [judged] at h
      | ok below =>
        refine Or.inr (Or.inl ?_)
        exact ihBelow below judged (by simpa [judged] using h)
    · exact Or.inr (Or.inr (ihMore h))

theorem exists_visit_of_reaches (scanned : Import.scan text = .ok references)
    (clean : ∀ v ∈ visits table [] references, v.fault table = none)
    (h : Reaches table text reference) :
    ∃ stack, ⟨stack, reference⟩ ∈ visits table [] references := by
  obtain ⟨first, refers, path⟩ := h
  induction path with
  | refl => exact ⟨[], mem_visits_of_mem ((refersTo_iff scanned).mp refers)⟩
  | tail _ edge ih =>
    obtain ⟨stack, met⟩ := ih
    exact ⟨_, mem_visits_of_imports met (clean _ met) edge⟩

/-- If nothing that is met has a fault, what is within reach does not reach itself: it would be
met with itself open. -/
theorem acyclic_of_clean (scanned : Import.scan text = .ok references)
    (clean : ∀ v ∈ visits table [] references, v.fault table = none)
    (h : Reaches table text reference) :
    ¬Relation.TransGen (Imports table) reference reference := by
  intro cycle
  obtain ⟨stack, met⟩ := exists_visit_of_reaches scanned clean h
  -- behind the visit, along any way, the module stays open
  have behind : ∀ next, Relation.TransGen (Imports table) reference next →
      ∃ open_, ⟨open_, next⟩ ∈ visits table [] references ∧ reference ∈ open_ := by
    intro next path
    induction path with
    | single edge => exact ⟨_, mem_visits_of_imports met (clean _ met) edge, by simp⟩
    | tail _ edge ih =>
      obtain ⟨between, met', inside⟩ := ih
      exact ⟨_, mem_visits_of_imports met' (clean _ met') edge, List.mem_append_left _ inside⟩
  obtain ⟨between, again, inside⟩ := behind reference cycle
  obtain ⟨below, judged⟩ := Visit.fault_eq_none_iff.mp (clean _ again)
  exact not_mem_of_verdict judged inside

structure OnPath (table : Assoc String String) (text : String) (stack : List String)
    (reference : String) : Prop where
  begins : ∃ first, (stack ++ [reference]).head? = some first ∧ RefersTo text first
  linked : (stack ++ [reference]).IsChain (Imports table)
  distinct : stack.Nodup

theorem onPath_visit (scanned : Import.scan text = .ok references)
    (h : v ∈ visits table [] references) : OnPath table text v.stack v.reference := by
  refine visits_invariant (P := OnPath table text) ?step ?start h
  case start =>
    intro reference mem
    exact ⟨⟨reference, rfl, (refersTo_iff scanned).mpr mem⟩, List.isChain_singleton reference,
      List.nodup_nil⟩
  case step =>
    rintro stack reference next new ⟨⟨first, head, refers⟩, linked, distinct⟩ edge
    refine ⟨⟨first, ?_, refers⟩, ?_, ?_⟩
    · rw [List.head?_append, head]
      rfl
    · refine List.isChain_append.mpr ⟨linked, List.isChain_singleton next, ?_⟩
      simpa using edge
    · exact List.nodup_append.mpr ⟨distinct, List.nodup_singleton reference, by
        rintro a ha b hb rfl
        exact new (List.mem_singleton.mp hb ▸ ha)⟩

theorem OnPath.reaches (h : OnPath table text stack reference) :
    Reaches table text reference := by
  obtain ⟨⟨first, head, refers⟩, linked, -⟩ := h
  refine ⟨first, refers, ?_⟩
  have path := List.relationReflTransGen_of_exists_isChain _ linked (by simp)
  rwa [List.getLast_concat, (List.head_eq_iff_head?_eq_some _).mpr head] at path

theorem OnPath.cycle (h : OnPath table text stack reference) (again : reference ∈ stack) :
    Relation.TransGen (Imports table) reference reference := by
  obtain ⟨before, after, rfl⟩ := List.append_of_mem again
  -- the cycle is the part of the path from the module on
  have linked := h.linked
  rw [List.append_assoc, List.cons_append] at linked
  have around := List.IsChain.right_of_append linked
  obtain ⟨next, back, split⟩ : ∃ next back, after ++ [reference] = next :: back :=
    List.exists_cons_of_ne_nil (by simp)
  rw [split] at around
  obtain ⟨edge, linked⟩ := List.isChain_cons_cons.mp around
  refine .head' edge (List.relationReflTransGen_of_exists_isChain_cons back linked ?_)
  simp only [← split, List.getLast_concat]

theorem OnPath.closesCycle (h : OnPath table text stack reference) (again : reference ∈ stack) :
    ClosesCycle table text (stack ++ [reference]) where
  begins := h.begins
  linked := h.linked
  distinct := by simpa using h.distinct
  closed := ⟨reference, List.getLast?_concat, by simpa using again⟩

theorem FlawlessThroughout.cycle_of_fault {e : LoadError} (h : FlawlessThroughout table text)
    (path : OnPath table text v.stack v.reference) (fault : v.fault table = some e) :
    v.reference ∈ v.stack ∧ e = .cycle (v.stack ++ [v.reference]) := by
  obtain ⟨module, found, good⟩ := h.within v.reference path.reaches
  obtain ⟨d, below, examined⟩ := (flawless_iff_examine (some v.reference)).mp good
  rcases verdict_eq_error_iff.mp (Visit.fault_eq_some_iff.mp fault) with
    ⟨missing, -⟩ | ⟨text', found', again | ⟨-, fault', broken, -⟩⟩
  · rw [missing] at found
    cases found
  · exact again
  · obtain rfl := Option.some.inj (found.symm.trans found')
    rw [examined] at broken
    cases broken

namespace Loader

variable {filters : List OperationFilter} {w : Workspace} {name : Option String}

theorem cycle_of_error {e : LoadError} (h : FlawlessThroughout table text)
    (failed : (Loader.load ⟨.table table, filters⟩ w text name).error? = some e) :
    ∃ stack reference, OnPath table text stack reference ∧ reference ∈ stack ∧
      e = .cycle (stack ++ [reference]) := by
  obtain ⟨d, references, examined⟩ := (flawless_iff_examine name).mp h.own
  rcases error?_load_eq_some_iff.mp failed with
    broken | ⟨d', references', before, v, after, examined', split, -, fault⟩
  · rw [examined] at broken
    cases broken
  · have scanned := (examine_eq_ok_iff.mp examined').2.2
    have met : v ∈ visits table [] references' := by
      rw [split]
      exact List.mem_append_right before List.mem_cons_self
    have path := onPath_visit scanned met
    exact ⟨v.stack, v.reference, path, h.cycle_of_fault path fault⟩

theorem acyclic_of_returns {loaded : Loaded}
    (returned : (Loader.load ⟨.table table, filters⟩ w text name).Returns loaded)
    (reach : Reaches table text reference) :
    ¬Relation.TransGen (Imports table) reference reference := by
  have ended := error?_eq_none_iff.mpr ⟨loaded, returned⟩
  rw [error?_load_table] at ended
  cases examined : examine text name with
  | error e => simp [examined] at ended
  | ok found =>
    rw [examined] at ended
    have scanned := (examine_eq_ok_iff.mp examined).2.2
    exact acyclic_of_clean scanned (List.findSome?_eq_none_iff.mp ended) reach

/-- Over flawless texts, a load fails exactly if a module within reach can reach itself through
imports, and then with a chain of imports that closes a cycle; otherwise it succeeds. -/
theorem load_cycle_iff (table : Assoc String String) (filters : List OperationFilter)
    (w : Workspace) (text : String) (name : Option String)
    (flawless : FlawlessThroughout table text) :
    let load := Loader.load ⟨.table table, filters⟩ w text name
    ((∃ chain, load.error? = some (.cycle chain)) ↔
      ∃ r, Reaches table text r ∧ Relation.TransGen (Imports table) r r) ∧
    ((¬∃ r, Reaches table text r ∧ Relation.TransGen (Imports table) r r) →
      ∃ loaded, load.Returns loaded) ∧
    ∀ chain, load.error? = some (.cycle chain) → ClosesCycle table text chain := by
  intro load
  have cyclic : ∀ e, load.error? = some e →
      ∃ r, Reaches table text r ∧ Relation.TransGen (Imports table) r r := by
    intro e failed
    obtain ⟨stack, r, path, again, -⟩ := cycle_of_error flawless failed
    exact ⟨r, path.reaches, path.cycle again⟩
  refine ⟨⟨?raised, ?raises⟩, ?succeeds, ?chain⟩
  case raised =>
    rintro ⟨chain, failed⟩
    exact cyclic _ failed
  case raises =>
    rintro ⟨r, reach, cycle⟩
    cases ended : load.error? with
    | none =>
      obtain ⟨loaded, returned⟩ := error?_eq_none_iff.mp ended
      exact absurd cycle (acyclic_of_returns returned reach)
    | some e =>
      obtain ⟨stack, r, -, -, rfl⟩ := cycle_of_error flawless ended
      exact ⟨_, rfl⟩
  case succeeds =>
    intro acyclic
    refine error?_eq_none_iff.mp ?_
    by_contra failed
    obtain ⟨e, failed⟩ := Option.ne_none_iff_exists'.mp failed
    exact acyclic (cyclic e failed)
  case chain =>
    intro chain failed
    obtain ⟨stack, r, path, again, same⟩ := cycle_of_error flawless failed
    obtain rfl := LoadError.cycle.inj same
    exact path.closesCycle again

end Loader

namespace Sample

/-- From "a" a way leads to "b", which imports itself. -/
def lasso : Assoc String String :=
  [("a", "#import b\nfragment A on T { ...B }"), ("b", "#import b\nfragment B on T { x }")]

def lassoQuery : String := "#import a\nquery Q { ...A }"

theorem refersTo_lassoQuery {r : String} : RefersTo lassoQuery r ↔ r = "a" := by
  have scanned : Import.scan lassoQuery = .ok ["a"] := by rfl
  rw [refersTo_iff scanned, List.mem_singleton]

theorem imports_lasso {a r : String} (h : a = "a" ∨ a = "b") : Imports lasso a r ↔ r = "b" := by
  obtain ⟨module, found, scanned⟩ : ∃ module, Assoc.find? lasso a = some module ∧
      Import.scan module = .ok ["b"] := by
    rcases h with rfl | rfl <;> exact ⟨_, rfl, by rfl⟩
  rw [imports_iff found scanned, List.mem_singleton]

theorem reaches_lassoQuery {r : String} (h : Reaches lasso lassoQuery r) : r = "a" ∨ r = "b" := by
  obtain ⟨first, refers, path⟩ := h
  induction path with
  | refl => exact Or.inl (refersTo_lassoQuery.mp refers)
  | tail _ edge ih => exact Or.inr ((imports_lasso ih).mp edge)

end Sample

theorem Loader.load_cycle_iff_lasso :
    FlawlessThroughout Sample.lasso Sample.lassoQuery ∧
      ∃ chain, (Loader.load ⟨.table Sample.lasso, []⟩ ⟨.empty, []⟩ Sample.lassoQuery none).error? =
          some (.cycle chain) ∧
        ClosesCycle Sample.lasso Sample.lassoQuery chain := by
  have flawless : FlawlessThroughout Sample.lasso Sample.lassoQuery := by
    refine ⟨by decide +kernel, fun r reach => ?_⟩
    rcases Sample.reaches_lassoQuery reach with rfl | rfl <;> exact ⟨_, rfl, by decide +kernel⟩
  have edge : Imports Sample.lasso "a" "b" := (Sample.imports_lasso (Or.inl rfl)).mpr rfl
  have loop : Imports Sample.lasso "b" "b" := (Sample.imports_lasso (Or.inr rfl)).mpr rfl
  have reach : Reaches Sample.lasso Sample.lassoQuery "b" :=
    ⟨"a", Sample.refersTo_lassoQuery.mpr rfl, .single edge⟩
  obtain ⟨fails, -, true_chain⟩ := Loader.load_cycle_iff Sample.lasso [] ⟨.empty, []⟩
    Sample.lassoQuery none flawless
  obtain ⟨chain, failed⟩ := fails.mpr ⟨"b", reach, .single loop⟩
  exact ⟨flawless, chain, failed, true_chain chain failed⟩

end OperationDocuments

namespace OperationDocuments

/-! ## Imports as one flat merge

A module contributes its own fragments and those that its imports have contributed to it, of each
name the first. Written out without any choice, what the references of a text lead to is one list
of fragments, in which a module stands as often as there are ways to it. The fragments that a
load adds to the definitions of its text are the first ones of this list. -/

open Loading

/-- The fragments that references lead to, in order: for each the fragments of its module, and
then those that the references of this module lead to. -/
inductive Flattens (table : Assoc String String) : List String → List Fragment → Prop where
  | nil : Flattens table [] []
  | cons {reference module d below more inner rest} :
      Assoc.find? table reference = some module →
      Document.parse module (some reference) = .ok d → Import.scan module = .ok below →
      Flattens table below inner → Flattens table more rest →
      Flattens table (reference :: more) (d.fragments ++ inner ++ rest)

variable {table : Assoc String String} {references : List String} {flat : List Fragment}
  {reference : String}

theorem Flattens.unique {other : List Fragment} (h : Flattens table references flat)
    (k : Flattens table references other) : flat = other := by
  induction h generalizing other with
  | nil =>
    cases k
    rfl
  | cons found parsed scanned _ _ ihInner ihRest =>
    cases k with
    | cons found' parsed' scanned' inner' rest' =>
      obtain rfl := Option.some.inj (found.symm.trans found')
      obtain rfl := Except.ok.inj (parsed.symm.trans parsed')
      obtain rfl := Except.ok.inj (scanned.symm.trans scanned')
      rw [ihInner inner', ihRest rest']

theorem Flattens.exists_module (h : Flattens table references flat)
    (mem : reference ∈ references) : ∃ module d below inner,
      Assoc.find? table reference = some module ∧
        Document.parse module (some reference) = .ok d ∧ Import.scan module = .ok below ∧
        Flattens table below inner ∧ d.fragments ⊆ flat ∧ inner ⊆ flat := by
  induction h with
  | nil => cases mem
  | @cons first module d below more inner rest found parsed scanned nested _ _ ih =>
    rcases List.mem_cons.mp mem with rfl | mem
    · refine ⟨module, d, below, inner, found, parsed, scanned, nested, ?_, ?_⟩
      · intro f hf
        simp [hf]
      · intro f hf
        simp [hf]
    · obtain ⟨module', d', below', inner', found', parsed', scanned', nested', own, deeper⟩ :=
        ih mem
      exact ⟨module', d', below', inner', found', parsed', scanned', nested',
        List.Subset.trans own (List.subset_append_right _ _),
        List.Subset.trans deeper (List.subset_append_right _ _)⟩

theorem Flattens.complete {first : String} (h : Flattens table references flat)
    (mem : first ∈ references) (path : Relation.ReflTransGen (Imports table) first reference) :
    ∃ module d, Assoc.find? table reference = some module ∧
      Document.parse module (some reference) = .ok d ∧ d.fragments ⊆ flat := by
  -- along the way from its start, as the list of a module is part of that of its importer
  induction path using Relation.ReflTransGen.head_induction_on generalizing references flat with
  | refl =>
    obtain ⟨module, d, -, -, found, parsed, -, -, own, -⟩ := h.exists_module mem
    exact ⟨module, d, found, parsed, own⟩
  | head edge _ ih =>
    obtain ⟨module, d, below, inner, found, -, scanned, nested, -, deeper⟩ := h.exists_module mem
    obtain ⟨module', d', found', parsed', own⟩ := ih nested ((imports_iff found scanned).mp edge)
    exact ⟨module', d', found', parsed', List.Subset.trans own deeper⟩

def Document.withFirsts (d : Document) (flat : List Fragment) : Document :=
  { d with definitions := d.definitions ++ (Import.firsts flat).map .fragment }

@[simp] theorem Document.fragments_withFirsts (d : Document) (flat : List Fragment) :
    (d.withFirsts flat).fragments = d.fragments ++ Import.firsts flat := by
  have all : ((Import.firsts flat).map Definition.fragment).filterMap Definition.fragment? =
      Import.firsts flat := by
    simp [List.filterMap_map, Function.comp_def, Definition.fragment?]
  rw [fragments, withFirsts, List.filterMap_append, all]
  rfl

def LoadsFlat (table : Assoc String String) (text : String) (name : Option String)
    (document : Document) : Prop :=
  ∃ parsed references flat, Document.parse text name = .ok parsed ∧
    Import.scan text = .ok references ∧ Flattens table references flat ∧
    document = parsed.withFirsts flat

/-- If the documents of references are flat merges, choosing among their fragments comes to the
same as choosing among those that are written out. -/
theorem exists_flat_of_documents {documents : List Document}
    (h : List.Forall₂ (fun reference d => ∃ module, Assoc.find? table reference = some module ∧
      LoadsFlat table module (some reference) d) references documents) :
    ∃ flat, Flattens table references flat ∧
      Import.firsts (documents.flatMap Document.fragments) = Import.firsts flat := by
  induction h with
  | nil => exact ⟨[], .nil, rfl⟩
  | cons first _ ih =>
    obtain ⟨module, found, parsed, below, inner, own, scanned, nested, rfl⟩ := first
    obtain ⟨rest, flattened, same⟩ := ih
    refine ⟨_, .cons found own scanned nested flattened, ?_⟩
    -- the fragments of the module itself are not chosen among, those behind it are
    rw [List.flatMap_cons, Document.fragments_withFirsts]
    exact Import.firsts_nested same

theorem Resolver.loadsFlat_of_returns {resolve : Resolver} {text : String} {name : Option String}
    {loaded : Loaded} (returned : (resolve.load text name).Returns loaded)
    (h : ∀ reference d, (resolve reference name).Returns d → ∃ module,
      Assoc.find? table reference = some module ∧ LoadsFlat table module (some reference) d) :
    LoadsFlat table text name loaded.document := by
  obtain ⟨parsed, -, own, -, expanded, -, -, -, -⟩ := returns_load.mp returned
  obtain ⟨references, documents, scanned, all, merged⟩ := Import.returns_expand.mp expanded
  obtain ⟨flat, flattened, same⟩ := exists_flat_of_documents (all.imp h)
  refine ⟨parsed, references, flat, mapError_eq_ok_iff.mp own, scanned, flattened, ?_⟩
  rw [merged, same]
  rfl

theorem Modules.loadsFlat_of_returns (stack : List String) (text : String) (name : Option String)
    {loaded : Loaded} (returned : ((ofTable table).loadWithin stack text name).Returns loaded) :
    LoadsFlat table text name loaded.document := by
  induction stack, text, name using loadWithin.induct (ofTable table) generalizing loaded with
  | case1 stack text name ih =>
    rw [loadWithin_eq] at returned
    -- what a reference resolves to was loaded with one more module open
    refine Resolver.loadsFlat_of_returns returned fun reference d resolved => ?_
    obtain ⟨module, inner, found, closed, below, rfl⟩ :=
      returns_resolveWithin_ofTable.mp resolved
    exact ⟨module, found, ih reference (Assoc.mem_keys_of_find? found) closed module below⟩

/-- What a successful load makes of a text over a table of modules. The list of the fragments that
are not chosen among yet exists once; each name within reach is kept, and kept once. -/
structure MergesFlat (table : Assoc String String) (text : String) (parsed : Document)
    (flat : List Fragment) (merged : Document) : Prop where
  flattened : ∃ references, Import.scan text = .ok references ∧
    ∀ other, Flattens table references other ↔ other = flat
  definitions : merged.definitions =
    parsed.definitions ++ (Import.firsts flat).map .fragment
  once : ((Import.firsts flat).map Fragment.name).Nodup
  complete : ∀ reference, Reaches table text reference → ∃ module d,
    Assoc.find? table reference = some module ∧ Document.parse module (some reference) = .ok d ∧
      ∀ f ∈ d.fragments, f.name ∈ (Import.firsts flat).map Fragment.name

/-- The definitions of a loaded document are those of its text, in order, and then the first
fragment of each name among all that its references lead to. -/
theorem Loader.load_mergesFlat (table : Assoc String String) (filters : List OperationFilter)
    (w : Workspace) (text : String) (name : Option String) (loaded : Loaded)
    (returned : (Loader.load ⟨.table table, filters⟩ w text name).Returns loaded) :
    ∃ parsed flat, Document.parse text name = .ok parsed ∧
      MergesFlat table text parsed flat loaded.document := by
  obtain ⟨whole, accepted, rfl⟩ := Resolver.returns_loadFiltered.mp returned
  have within : ((Modules.ofTable table).loadWithin [] text name).Returns whole := by
    rw [Modules.loadWithin_eq]
    exact accepted
  obtain ⟨parsed, references, flat, own, scanned, flattened, merged⟩ :=
    Modules.loadsFlat_of_returns [] text name within
  refine ⟨parsed, flat, own, ⟨references, scanned, fun other => ?_⟩, ?_, ?_, ?_⟩
  · exact ⟨fun h => h.unique flattened, fun h => h ▸ flattened⟩
  · show whole.document.definitions = _
    rw [merged]
    rfl
  · exact Import.nodup_names_firsts flat
  · rintro reference ⟨first, refers, path⟩
    obtain ⟨module, d, found, parsed', own'⟩ :=
      flattened.complete ((refersTo_iff scanned).mp refers) path
    refine ⟨module, d, found, parsed', fun f hf => ?_⟩
    exact Import.mem_names_firsts.mpr (List.mem_map_of_mem (own' hf))

namespace Sample

def diamond : Assoc String String :=
  [("left", "#import base\nfragment Left on T { l } fragment Side on T { l }"),
    ("right", "#import base\nfragment Side on T { r } fragment Right on T { r }"),
    ("base", "fragment Base on T { b }")]

def diamondQuery : String := "#import left\n#import right\nquery Q { q }"

def acrossDiamond : Loaded where
  source := Document.defaultSource
  document := ⟨Document.defaultSource,
    [query "Q" [field "q"], fragment "Left" [field "l"], fragment "Side" [field "l"],
      fragment "Base" [field "b"], fragment "Right" [field "r"]]⟩
  operations := []
  imports := ["left", "right"]

end Sample

theorem Loader.load_mergesFlat_diamond :
    (Loader.load ⟨.table Sample.diamond, []⟩ ⟨.empty, []⟩ Sample.diamondQuery none).Returns
        Sample.acrossDiamond ∧
      ∃ parsed flat, Document.parse Sample.diamondQuery none = .ok parsed ∧
        MergesFlat Sample.diamond Sample.diamondQuery parsed flat
          Sample.acrossDiamond.document := by
  have returned : (Loader.load ⟨.table Sample.diamond, []⟩ ⟨.empty, []⟩ Sample.diamondQuery
      none).Returns Sample.acrossDiamond := by cbv
  exact ⟨returned, Loader.load_mergesFlat Sample.diamond [] ⟨.empty, []⟩ Sample.diamondQuery none
    Sample.acrossDiamond returned⟩

end OperationDocuments
