import Mathlib
import OperationDocuments.Proofs.ImportGraph
import OperationDocuments.Proofs.SplitOutcome

/-! # Documents handed out

The documents that a loaded source gives for its operations, also where filters have taken some of
them away. -/
namespace OperationDocuments

/-! ## The document of an operation

The document of an operation is a separated one if its source holds several operations, and the
whole document if it holds no other. Separated documents have one definition of each name. The
whole document keeps a local fragment beside an imported one of its name, so that it defines each
fragment once only where nothing imported bears the name of a local fragment. -/

open Loading Relation

variable {table : Assoc String String} {text : String} {name : Option String}
  {loaded : Loaded} {part parsed merged : Document} {operation : String}
  {references : List String} {flat : List Fragment} {f : Fragment}

namespace Document

def fragmentNames (d : Document) : List String := d.fragments.map Fragment.name

def DefinesOnce (d : Document) : Prop := d.fragmentNames.Nodup

instance (d : Document) : Decidable d.DefinesOnce := inferInstanceAs (Decidable (List.Nodup _))

theorem IsSeparation.definesOnce {d : Document} (h : d.IsSeparation operation part) :
    part.DefinesOnce := by
  unfold DefinesOnce fragmentNames fragments
  rw [List.Nodup, List.pairwise_map, List.pairwise_filterMap]
  refine h.distinct.imp fun {x y} different f hf g hg same => different ?_
  rw [Definition.fragment?_eq_some_iff.mp hf, Definition.fragment?_eq_some_iff.mp hg]
  exact congrArg some same

end Document

/-- A module within reach of the imports of a text has a fragment of this name. -/
def Imported (table : Assoc String String) (text fragment : String) : Prop :=
  ∃ reference module d, Reaches table text reference ∧
    Assoc.find? table reference = some module ∧
    Document.parse module (some reference) = .ok d ∧ fragment ∈ d.fragmentNames

theorem Flattens.sound (h : Flattens table references flat) (hf : f ∈ flat) :
    ∃ first ∈ references, ∃ reference module d,
      ReflTransGen (Imports table) first reference ∧
      Assoc.find? table reference = some module ∧
      Document.parse module (some reference) = .ok d ∧ f ∈ d.fragments := by
  induction h with
  | nil => cases hf
  | cons found own scanned _ _ ihInner ihRest =>
    rcases List.mem_append.mp hf with hf | hf
    · rcases List.mem_append.mp hf with hf | hf
      · exact ⟨_, List.mem_cons_self, _, _, _, .refl, found, own, hf⟩
      · obtain ⟨next, mem, reference, module, d, path, rest⟩ := ihInner hf
        have edge := (imports_iff found scanned).mpr mem
        exact ⟨_, List.mem_cons_self, reference, module, d, .head edge path, rest⟩
    · obtain ⟨first, mem, further⟩ := ihRest hf
      exact ⟨first, List.mem_cons_of_mem _ mem, further⟩

namespace MergesFlat

theorem fragments_eq (h : MergesFlat table text parsed flat merged) :
    merged.fragments = parsed.fragments ++ Import.firsts flat := by
  rw [← Document.fragments_withFirsts]
  exact congrArg (List.filterMap Definition.fragment?) h.definitions

/-- What a load adds are the names of the modules within reach. -/
theorem mem_added_iff {fragment : String} (h : MergesFlat table text parsed flat merged) :
    fragment ∈ (Import.firsts flat).map Fragment.name ↔ Imported table text fragment := by
  obtain ⟨references, scanned, unique⟩ := h.flattened
  constructor
  · intro mem
    obtain ⟨f, hf, rfl⟩ := List.mem_map.mp (Import.mem_names_firsts.mp mem)
    obtain ⟨first, begins, reference, module, d, path, found, own, hd⟩ :=
      ((unique flat).mpr rfl).sound hf
    exact ⟨reference, module, d, ⟨first, (refersTo_iff scanned).mpr begins, path⟩, found, own,
      List.mem_map_of_mem hd⟩
  · rintro ⟨reference, module, d, reaches, found, own, mem⟩
    obtain ⟨module', d', found', own', kept⟩ := h.complete reference reaches
    obtain rfl := Option.some.inj (found.symm.trans found')
    obtain rfl := Except.ok.inj (own.symm.trans own')
    obtain ⟨f, hf, rfl⟩ := List.mem_map.mp mem
    exact kept f hf

theorem definesOnce_iff (h : MergesFlat table text parsed flat merged)
    (once : parsed.DefinesOnce) :
    merged.DefinesOnce ↔ ∀ fragment ∈ parsed.fragmentNames, ¬Imported table text fragment := by
  unfold Document.DefinesOnce Document.fragmentNames
  rw [h.fragments_eq, List.map_append, List.nodup_append]
  constructor
  · rintro ⟨-, -, apart⟩ fragment isLocal imported
    exact apart fragment isLocal fragment (h.mem_added_iff.mpr imported) rfl
  · intro apart
    refine ⟨once, h.once, ?_⟩
    rintro a ha b hb rfl
    exact apart a ha (h.mem_added_iff.mp hb)

end MergesFlat

theorem Loaded.documentFor_eq_ok (handed : loaded.documentFor (some operation) = .ok part) :
    Assoc.find? loaded.operations operation = some part ∨
      (loaded.singleOperationName? = some operation ∧ part = loaded.document) := by
  unfold Loaded.documentFor at handed
  cases found : Assoc.find? loaded.operations operation with
  | some d =>
    simp only [found, Except.ok.injEq] at handed
    exact Or.inl (congrArg some handed)
  | none =>
    simp only [found] at handed
    split at handed
    · next single => exact Or.inr ⟨single.2, (Except.ok.inj handed).symm⟩
    · cases handed

theorem Loaded.countOperations_of_single (h : loaded.singleOperationName? = some operation) :
    loaded.document.countOperations = 1 := by
  unfold Loaded.singleOperationName? at h
  unfold Document.countOperations
  split at h
  · next o alone => rw [alone, List.length_singleton]
  · cases h

theorem Resolver.several_of_stored {resolve : Resolver} {filters : List OperationFilter}
    (accepted : (resolve.loadFiltered filters text name).Returns loaded)
    (stored : Assoc.find? loaded.operations operation = some part) :
    1 < loaded.document.countOperations := by
  obtain ⟨whole, h, rfl⟩ := returns_loadFiltered.mp accepted
  obtain ⟨-, parts, -, -, -, split, -, -, operations⟩ := returns_load.mp h
  rcases Document.split_eq_ok_iff.mp split with ⟨-, rfl⟩ | ⟨several, -, -⟩
  · rw [Assoc.find?_filter_keys (fun key => filters.all fun f => f.accepts key), operations]
      at stored
    simp [Assoc.find?] at stored
  · exact several

/-- An operation that is alone in its source is handed out with the whole document. What is handed
out defines each fragment once, unless the operation is alone and a module within reach has a
fragment with the name of a local one. -/
theorem Loader.documentFor_definesOnce_iff (table : Assoc String String)
    (filters : List OperationFilter) (w : Workspace) (text : String) (name : Option String)
    (loaded : Loaded) (returned : (Loader.load ⟨.table table, filters⟩ w text name).Returns loaded)
    (once : ∀ d, Document.parse text name = .ok d → d.DefinesOnce)
    (operation : String) (part : Document)
    (handed : loaded.documentFor (some operation) = .ok part) :
    (loaded.document.countOperations ≤ 1 → part = loaded.document) ∧
      (part.DefinesOnce ↔
        (1 < loaded.document.countOperations ∨
          ∀ d, Document.parse text name = .ok d →
            ∀ fragment ∈ d.fragmentNames, ¬Imported table text fragment)) := by
  rcases Loaded.documentFor_eq_ok handed with stored | ⟨single, rfl⟩
  · have several := Resolver.several_of_stored returned stored
    have separated := Resolver.isSeparation_of_loaded returned stored
    exact ⟨fun alone => absurd several (Nat.not_lt.mpr alone),
      fun _ => Or.inl several, fun _ => separated.definesOnce⟩
  · have alone := Loaded.countOperations_of_single single
    refine ⟨fun _ => rfl, ?_⟩
    obtain ⟨parsed, flat, own, merges⟩ :=
      Loader.load_mergesFlat table filters w text name loaded returned
    rw [merges.definesOnce_iff (once parsed own)]
    constructor
    · intro apart
      refine Or.inr fun d hd => ?_
      obtain rfl := Except.ok.inj (own.symm.trans hd)
      exact apart
    · rintro (several | apart)
      · omega
      · exact apart parsed own

namespace Sample

def rival : Assoc String String := [("f", "fragment F on T { y }")]

def rivalledPair : String :=
  "#import f\nquery A { ...F } query B { x } fragment F on T { x }"

def rivalledSingle : String := "#import f\nquery Q { ...F } fragment F on T { x }"

def loadedPair : Loaded where
  source := Document.defaultSource
  document := ⟨Document.defaultSource,
    [query "A" [spread "F"], query "B" [field "x"], fragment "F" [field "x"],
      fragment "F" [field "y"]]⟩
  operations :=
    [("A", ⟨Document.defaultSource, [query "A" [spread "F"], fragment "F" [field "x"]]⟩),
      ("B", ⟨Document.defaultSource, [query "B" [field "x"]]⟩)]
  imports := ["f"]

def loadedSingle : Loaded where
  source := Document.defaultSource
  document := ⟨Document.defaultSource,
    [query "Q" [spread "F"], fragment "F" [field "x"], fragment "F" [field "y"]]⟩
  operations := []
  imports := ["f"]

end Sample

set_option maxRecDepth 1000 in
theorem Loader.documentFor_definesOnce_rivalledPair :
    (Loader.load ⟨.table Sample.rival, []⟩ ⟨.empty, []⟩ Sample.rivalledPair none).Returns
        Sample.loadedPair ∧
      (∀ d, Document.parse Sample.rivalledPair none = .ok d → d.DefinesOnce) ∧
      ∃ part, Sample.loadedPair.documentFor (some "A") = .ok part ∧ part.DefinesOnce := by
  have returned : (Loader.load ⟨.table Sample.rival, []⟩ ⟨.empty, []⟩ Sample.rivalledPair
      none).Returns Sample.loadedPair := by cbv
  have own : Document.parse Sample.rivalledPair none = .ok ⟨Document.defaultSource,
      [Sample.query "A" [Sample.spread "F"], Sample.query "B" [Sample.field "x"],
        Sample.fragment "F" [Sample.field "x"]]⟩ := by cbv
  have once : ∀ d, Document.parse Sample.rivalledPair none = .ok d → d.DefinesOnce := by
    intro d parsed
    obtain rfl := Except.ok.inj (own.symm.trans parsed)
    decide
  refine ⟨returned, once, _, rfl, ?_⟩
  exact (Loader.documentFor_definesOnce_iff Sample.rival [] ⟨.empty, []⟩ Sample.rivalledPair none
    Sample.loadedPair returned once "A" _ rfl).2.mpr (Or.inl (by decide))

theorem Loader.rivalledSingle_handed_out_with_both :
    (∀ d, Document.parse Sample.rivalledSingle none = .ok d → d.DefinesOnce) ∧
      (∀ key module, Assoc.find? Sample.rival key = some module →
        ∀ d, Document.parse module (some key) = .ok d → d.DefinesOnce) ∧
      (Loader.load ⟨.table Sample.rival, []⟩ ⟨.empty, []⟩ Sample.rivalledSingle none).Returns
        Sample.loadedSingle ∧
      ∃ part, Sample.loadedSingle.documentFor (some "Q") = .ok part ∧ ¬part.DefinesOnce := by
  have own : Document.parse Sample.rivalledSingle none = .ok ⟨Document.defaultSource,
      [Sample.query "Q" [Sample.spread "F"], Sample.fragment "F" [Sample.field "x"]]⟩ := by cbv
  have rival : Document.parse "fragment F on T { y }" (some "f") = .ok ⟨"f",
      [Sample.fragment "F" [Sample.field "y"]]⟩ := by cbv
  refine ⟨fun d parsed => ?_, fun key module found d parsed => ?_, by cbv, _, rfl, by decide⟩
  · obtain rfl := Except.ok.inj (own.symm.trans parsed)
    decide
  · have mem := Assoc.mem_keys_of_find? found
    obtain rfl : key = "f" := by simpa [Sample.rival, Assoc.keys] using mem
    obtain rfl := Option.some.inj found
    obtain rfl := Except.ok.inj (rival.symm.trans parsed)
    decide

end OperationDocuments

namespace OperationDocuments

/-! ## Access under filters

Filters may be given to a loader, or be applied to what it returns; only which filters there are
counts. They take entries away from the operations and leave everything else alone. A source with
a single operation has no entries, and its operation stays within reach whatever the filters
refuse; a source of several operations does not turn into one by losing all its entries. -/

open Loading

/-- A source to be loaded, and what its imports are resolved with. -/
inductive LoadCall where
  | load (imports : ImportSource) (w : Workspace) (text : String) (name : Option String)
  | loadFile (imports : ImportSource) (w : Workspace) (path : String)
  | resolving (resolve : Resolver) (text : String) (name : Option String)

namespace LoadCall

def run (hooks : List OperationFilter) : LoadCall → Loading LoadError Loaded
  | load imports w text name => (Loader.mk imports hooks).load w text name
  | loadFile imports w path => (Loader.mk imports hooks).loadFile w path
  | resolving resolve text name => resolve.loadFiltered hooks text name

def resolver : LoadCall → Resolver
  | load imports w _ _ | loadFile imports w _ => (Loader.mk imports []).resolve w
  | resolving resolve _ _ => resolve

def text : LoadCall → Except LoadError String
  | load _ _ text _ | resolving _ text _ => .ok text
  | loadFile _ w path => (w.read path).mapError .unreadable

def name : LoadCall → Option String
  | load _ _ _ name | resolving _ _ name => name
  | loadFile _ _ path => some path

def parse (c : LoadCall) : Except LoadError Document := do
  Modules.parse (← c.text) c.name

variable {c : LoadCall} {whole : Loaded}

/-- Whichever way a source is loaded, its text is loaded with a resolver that knows nothing of the
hooks. -/
theorem returns_run {hooks : List OperationFilter} {loaded : Loaded} :
    (c.run hooks).Returns loaded ↔
      ∃ text, c.text = .ok text ∧ (c.resolver.loadFiltered hooks text c.name).Returns loaded := by
  cases c with
  | load imports w text name => exact ⟨fun ok => ⟨text, rfl, ok⟩, fun ⟨_, rfl, ok⟩ => ok⟩
  | loadFile imports w path =>
    rw [run, Loader.returns_loadFile]
    exact exists_congr fun text => and_congr_left fun _ => Resolver.mapError_eq_ok_iff.symm
  | resolving resolve text name => exact ⟨fun ok => ⟨text, rfl, ok⟩, fun ⟨_, rfl, ok⟩ => ok⟩

theorem returns_run_nil : (c.run []).Returns whole ↔
    ∃ text, c.text = .ok text ∧ (c.resolver.load text c.name).Returns whole := by
  simp only [returns_run, Resolver.returns_loadFiltered, List.all_nil, List.filter_true,
    exists_eq_right']

end LoadCall

namespace Loaded

def restrict (l : Loaded) (filters : List OperationFilter) : Loaded :=
  { l with operations := l.operations.filter fun entry => filters.all fun f => f.accepts entry.1 }

theorem restrict_restrict (l : Loaded) (first later : List OperationFilter) :
    (l.restrict first).restrict later = l.restrict (first ++ later) := by
  simp only [restrict, List.filter_filter, List.all_append, Bool.and_comm]

theorem restrict_congr {filters others : List OperationFilter}
    (h : ∀ f, f ∈ filters ↔ f ∈ others) (l : Loaded) : l.restrict filters = l.restrict others := by
  have same : ∀ name, (filters.all fun f => f.accepts name) = others.all fun f => f.accepts name :=
    fun name => Bool.eq_iff_iff.mpr (by simp only [List.all_eq_true, h])
  simp only [restrict, same]

theorem documentFor_of_find? {l : Loaded} {name : String} {part : Document}
    (h : Assoc.find? l.operations name = some part) : l.documentFor (some name) = .ok part := by
  simp only [documentFor, h]

theorem documentFor_of_single {l : Loaded} {name : String} (unsplit : l.operations = [])
    (h : l.singleOperationName? = some name) : l.documentFor (some name) = .ok l.document := by
  simp [documentFor, unsplit, h, Assoc.find?]

theorem documentFor_eq_error {l : Loaded} {name : String}
    (missing : Assoc.find? l.operations name = none) (other : l.singleOperationName? ≠ some name) :
    l.documentFor (some name) = .error ⟨name⟩ := by
  simp [documentFor, missing, other]

theorem find?_restrict (l : Loaded) (filters : List OperationFilter) (name : String) :
    Assoc.find? (l.restrict filters).operations name =
      if filters.all fun f => f.accepts name then Assoc.find? l.operations name else none :=
  Assoc.find?_filter_keys (fun name => filters.all fun f => f.accepts name) l.operations name

/-- What `handed` has of the `whole` of a source under some filters, where `parsed` is the document
of the source itself. -/
structure Filtered (filters : List OperationFilter) (parsed : Document) (whole handed : Loaded) :
    Prop where
  source : handed.source = whole.source
  document : handed.document = whole.document
  imports : handed.imports = whole.imports
  operations : 1 < parsed.countOperations →
    (∃ parts, whole.document.split (some whole.source) = .ok parts ∧
      whole.operations = parts.value) ∧
    handed.operations =
      whole.operations.filter fun entry => filters.all fun f => f.accepts entry.1
  accepted : 1 < parsed.countOperations → ∀ name ∈ parsed.operationNames,
    (∀ f ∈ filters, f.accepts name = true) → ∃ part,
      Assoc.find? whole.operations name = some part ∧ handed.documentFor (some name) = .ok part
  refused : 1 < parsed.countOperations → ∀ name,
    ¬(name ∈ parsed.operationNames ∧ ∀ f ∈ filters, f.accepts name = true) →
      handed.documentFor (some name) = .error ⟨name⟩
  single : ∀ o, parsed.operations = [o] → ∀ name, handed.documentFor (some name) =
    if o.name = some name then .ok whole.document else .error ⟨name⟩
  empty : parsed.operations = [] → ∀ name, handed.documentFor (some name) = .error ⟨name⟩

/-- The operations of a loaded source are those of its own text, split if there are several. -/
structure SplitFrom (parsed : Document) (whole : Loaded) : Prop where
  own : whole.document.operations = parsed.operations
  split : ∃ parts, whole.document.split (some whole.source) = .ok parts ∧
    whole.operations = parts.value

namespace SplitFrom

variable {parsed : Document} {whole : Loaded} {filters : List OperationFilter} {name : String}

theorem countOperations_eq (h : SplitFrom parsed whole) :
    whole.document.countOperations = parsed.countOperations :=
  congrArg List.length h.own

theorem operations_eq_nil (h : SplitFrom parsed whole) (few : parsed.countOperations ≤ 1) :
    whole.operations = [] := by
  obtain ⟨parts, split, operations⟩ := h.split
  rcases Document.split_eq_ok_iff.mp split with ⟨-, rfl⟩ | ⟨many, -, -⟩
  · rw [operations, Logged.value_pure]
  · rw [h.countOperations_eq] at many
    omega

theorem operations_eq_separateAll (h : SplitFrom parsed whole)
    (several : 1 < parsed.countOperations) :
    whole.operations = whole.document.separateAll.value := by
  obtain ⟨parts, split, operations⟩ := h.split
  rcases Document.split_eq_ok_iff.mp split with ⟨few, -⟩ | ⟨-, -, rfl⟩
  · rw [h.countOperations_eq] at few
    omega
  · exact operations

theorem exists_find?_iff (h : SplitFrom parsed whole) (several : 1 < parsed.countOperations) :
    (∃ part, Assoc.find? whole.operations name = some part) ↔ name ∈ parsed.operationNames := by
  rw [h.operations_eq_separateAll several, Document.exists_find?_separateAll,
    Document.operationNames, h.own, Document.operationNames]

theorem documentFor_accepted (h : SplitFrom parsed whole) (several : 1 < parsed.countOperations)
    (among : name ∈ parsed.operationNames) (accepted : ∀ f ∈ filters, f.accepts name = true) :
    ∃ part, Assoc.find? whole.operations name = some part ∧
      (whole.restrict filters).documentFor (some name) = .ok part := by
  obtain ⟨part, stored⟩ := (h.exists_find?_iff several).mpr among
  refine ⟨part, stored, documentFor_of_find? ?_⟩
  rw [find?_restrict, if_pos (List.all_eq_true.mpr accepted)]
  exact stored

theorem documentFor_refused (h : SplitFrom parsed whole) (several : 1 < parsed.countOperations)
    (refused : ¬(name ∈ parsed.operationNames ∧ ∀ f ∈ filters, f.accepts name = true)) :
    (whole.restrict filters).documentFor (some name) = .error ⟨name⟩ := by
  have missing : Assoc.find? (whole.restrict filters).operations name = none := by
    rw [find?_restrict]
    refine ite_eq_right_iff.mpr fun all => Option.eq_none_iff_forall_ne_some.mpr fun part stored => ?_
    exact refused ⟨(h.exists_find?_iff several).mp ⟨part, stored⟩, List.all_eq_true.mp all⟩
  -- with its operations all gone the source looks unsplit, but it still has several of them
  have other : (whole.restrict filters).singleOperationName? ≠ some name := by
    intro single
    have alone : whole.document.countOperations = 1 := countOperations_of_single single
    rw [h.countOperations_eq] at alone
    omega
  exact documentFor_eq_error missing other

theorem documentFor_single (h : SplitFrom parsed whole) {o : Operation}
    (alone : parsed.operations = [o]) (filters : List OperationFilter) (name : String) :
    (whole.restrict filters).documentFor (some name) =
      if o.name = some name then .ok whole.document else .error ⟨name⟩ := by
  have unsplit : (whole.restrict filters).operations = [] := by
    have few : parsed.countOperations ≤ 1 := by
      rw [Document.countOperations, alone, List.length_singleton]
    rw [restrict, h.operations_eq_nil few, List.filter_nil]
  have only : (whole.restrict filters).singleOperationName? = o.name := by
    simp only [singleOperationName?, restrict, h.own, alone]
  split
  · next named => exact documentFor_of_single unsplit (only.trans named)
  · next other =>
    refine documentFor_eq_error (by rw [unsplit, Assoc.find?]) ?_
    rw [only]
    exact other

theorem documentFor_empty (h : SplitFrom parsed whole) (empty : parsed.operations = [])
    (filters : List OperationFilter) (name : String) :
    (whole.restrict filters).documentFor (some name) = .error ⟨name⟩ := by
  have few : parsed.countOperations ≤ 1 := by
    rw [Document.countOperations, empty, List.length_nil]
    omega
  refine documentFor_eq_error ?_ ?_
  · rw [restrict, h.operations_eq_nil few, List.filter_nil, Assoc.find?]
  · simp [singleOperationName?, restrict, h.own, empty]

theorem filtered (h : SplitFrom parsed whole) (filters : List OperationFilter) :
    Filtered filters parsed whole (whole.restrict filters) where
  source := rfl
  document := rfl
  imports := rfl
  operations _ := ⟨h.split, rfl⟩
  accepted several _ among accepted := h.documentFor_accepted several among accepted
  refused several _ refused := h.documentFor_refused several refused
  single _ alone := h.documentFor_single alone filters
  empty empty := h.documentFor_empty empty filters

end SplitFrom

end Loaded

theorem Resolver.splitFrom_of_load {resolve : Resolver} {text : String} {name : Option String}
    {whole : Loaded} (ok : (resolve.load text name).Returns whole) :
    ∃ parsed, Modules.parse text name = .ok parsed ∧ Loaded.SplitFrom parsed whole := by
  obtain ⟨parsed, parts, own, -, expands, split, -, source, operations⟩ := returns_load.mp ok
  obtain ⟨references, documents, -, -, document⟩ := Import.returns_expand.mp expands
  refine ⟨parsed, own, ?_, parts, ?_, operations⟩
  · rw [document, Document.operations_append_fragments]
  · rw [source]
    exact split

/-- A source that loads without filters loads with any, as hooks or on the result, in any order
and any number: what is handed out depends on which filters there are. They restrict the documents
of several operations to those that all of them accept, and nothing else. -/
theorem LoadCall.filtered_of_run (c : LoadCall) (whole : Loaded) (ok : (c.run []).Returns whole)
    (filters : List OperationFilter) :
    ∃ parsed handed, c.parse = .ok parsed ∧
      (∀ hooks later, (∀ f, f ∈ hooks ∨ f ∈ later ↔ f ∈ filters) →
        ∃ loaded, (c.run hooks).Returns loaded ∧
          (OperationFilter.applyAll later loaded).value = handed) ∧
      Loaded.Filtered filters parsed whole handed := by
  obtain ⟨text, read, loads⟩ := returns_run_nil.mp ok
  obtain ⟨parsed, own, split⟩ := Resolver.splitFrom_of_load loads
  have parse : c.parse = .ok parsed := by
    rw [parse, read]
    exact own
  refine ⟨parsed, whole.restrict filters, parse, fun hooks later same => ?_,
    split.filtered filters⟩
  refine ⟨whole.restrict hooks, ?_, ?_⟩
  · exact returns_run.mpr ⟨text, read, Resolver.returns_loadFiltered.mpr ⟨whole, loads, rfl⟩⟩
  · rw [OperationFilter.value_applyAll, ← Loaded.restrict, Loaded.restrict_restrict]
    exact Loaded.restrict_congr (fun f => List.mem_append.trans (same f)) whole

namespace Sample

def withoutDebug : OperationFilter := { excludedStart := some "Debug" }

/-- The imported text has an operation of its own, which a filter for the importing one would
refuse. -/
def screened : LoadCall :=
  .load (.table [("f", "query DebugZ { z } fragment F on T { y }")]) ⟨.empty, []⟩
    "#import f\nquery A { ...F } query DebugB { x }" none

def screenedSource : Document :=
  ⟨Document.defaultSource, [query "A" [spread "F"], query "DebugB" [field "x"]]⟩

def screenedWhole : Loaded where
  source := Document.defaultSource
  document := ⟨Document.defaultSource,
    [query "A" [spread "F"], query "DebugB" [field "x"], fragment "F" [field "y"]]⟩
  operations :=
    [("A", ⟨Document.defaultSource, [query "A" [spread "F"], fragment "F" [field "y"]]⟩),
      ("DebugB", ⟨Document.defaultSource, [query "DebugB" [field "x"]]⟩)]
  imports := ["f"]

end Sample

set_option maxRecDepth 1000 in
theorem LoadCall.filtered_of_run_screened :
    (Sample.screened.run []).Returns Sample.screenedWhole ∧
      ∃ loaded, (Sample.screened.run [Sample.withoutDebug]).Returns loaded ∧
        loaded.document = Sample.screenedWhole.document ∧
        loaded.documentFor (some "A") =
          .ok ⟨Document.defaultSource,
            [Sample.query "A" [Sample.spread "F"], Sample.fragment "F" [Sample.field "y"]]⟩ ∧
        loaded.documentFor (some "DebugB") = .error ⟨"DebugB"⟩ := by
  have whole : (Sample.screened.run []).Returns Sample.screenedWhole := by cbv
  have own : Sample.screened.parse = .ok Sample.screenedSource := by cbv
  obtain ⟨parsed, handed, parse, orders, filtered⟩ :=
    LoadCall.filtered_of_run Sample.screened Sample.screenedWhole whole [Sample.withoutDebug]
  obtain rfl := Except.ok.inj (own.symm.trans parse)
  obtain ⟨loaded, returned, rfl⟩ := orders [Sample.withoutDebug] [] (by simp)
  obtain ⟨part, stored, handedOut⟩ := filtered.accepted (by decide) "A" (by decide) (by decide)
  obtain rfl := Option.some.inj stored
  exact ⟨whole, loaded, returned, filtered.document, handedOut,
    filtered.refused (by decide) "DebugB" (by decide)⟩

end OperationDocuments
