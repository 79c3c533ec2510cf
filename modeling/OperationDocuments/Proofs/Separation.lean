import Mathlib
import OperationDocuments.Document.Parser
import OperationDocuments.Proofs.Closure

/-! # Separated documents

What the document of one operation holds, which definition stands at its head, and on which parts
of the whole document it depends. -/
namespace OperationDocuments

/-! ## What the document of an operation holds

A name stands for its first definition, of whatever kind. Three look-ups follow this rule, each
in its own way: the reference map keeps the first entry of a name, `Document.find?` stops at the
first definition, and the closure walks from entry to entry. They agree on every document, so
that a separated document holds what its name stands for and what that reaches, and nothing
else. -/

open Relation

namespace Document

variable {d part : Document} {name a b : String} {x y : Definition}

def FirstNamed (d : Document) (name : String) (x : Definition) : Prop :=
  ∃ before after, d.definitions = before ++ x :: after ∧ x.name? = some name ∧
    ∀ y ∈ before, y.name? ≠ some name

def Refers (d : Document) (a b : String) : Prop := ∃ x, d.FirstNamed a x ∧ b ∈ x.references

theorem find?_eq_some_iff : d.find? name = some x ↔ d.FirstNamed name x := by
  unfold Document.find? FirstNamed
  rw [List.find?_eq_some_iff_append]
  constructor
  · rintro ⟨hx, before, after, hd, hb⟩
    exact ⟨before, after, hd, by simpa using hx, fun y hy => by simpa using hb y hy⟩
  · rintro ⟨before, after, hd, hx, hb⟩
    exact ⟨by simpa using hx, before, after, hd, fun y hy => by simpa using hb y hy⟩

namespace FirstNamed

theorem name_eq (h : d.FirstNamed name x) : x.name? = some name := by
  obtain ⟨_, _, _, hx, _⟩ := h
  exact hx

theorem unique (h : d.FirstNamed name x) (k : d.FirstNamed name y) : x = y :=
  Option.some.inj ((find?_eq_some_iff.mpr h).symm.trans (find?_eq_some_iff.mpr k))

end FirstNamed

theorem exists_firstNamed (h : ∃ x ∈ d.definitions, x.name? = some name) :
    ∃ x, d.FirstNamed name x := by
  obtain ⟨x, hx, hn⟩ := h
  have found : (d.find? name).isSome :=
    List.find?_isSome.mpr ⟨x, hx, by simpa using hn⟩
  obtain ⟨y, hy⟩ := Option.isSome_iff_exists.mp found
  exact ⟨y, find?_eq_some_iff.mp hy⟩

theorem find?_enter (map : ReferenceMap) (x : Definition) (name : String) :
    Assoc.find? (map.enter x) name =
      (Assoc.find? map name).or (if x.name? = some name then some x.references else none) := by
  unfold ReferenceMap.enter
  cases hx : x.name? with
  | none => simp
  | some key =>
    by_cases hk : key = name
    · subst hk
      cases hm : Assoc.find? map key <;>
        simp [Assoc.contains, Assoc.find?_append, Assoc.find?, hm]
    · simp only [Option.some.injEq, hk, if_false, Option.or_none]
      split
      · rfl
      · simp [Assoc.find?_append, Assoc.find?, hk]

private theorem find?_foldl_enter (definitions : List Definition) (map : ReferenceMap)
    (name : String) : Assoc.find? (definitions.foldl ReferenceMap.enter map) name =
      (Assoc.find? map name).or
        ((definitions.find? (·.name? == some name)).map Definition.references) := by
  induction definitions generalizing map with
  | nil => simp
  | cons x more ih =>
    rw [List.foldl_cons, ih, find?_enter, List.find?_cons]
    by_cases hx : x.name? = some name
    · cases Assoc.find? map name <;> simp [hx]
    · have hb : (x.name? == some name) = false := by simpa using hx
      simp [hx, hb]

theorem references_referenceMap (d : Document) (name : String) :
    d.referenceMap.references name = ((d.find? name).map Definition.references).getD [] := by
  unfold ReferenceMap.references Document.referenceMap
  rw [find?_foldl_enter]
  simp [Assoc.find?, Document.find?]

theorem refers_referenceMap : d.referenceMap.Refers a b ↔ d.Refers a b := by
  unfold ReferenceMap.Refers Document.Refers
  rw [references_referenceMap]
  cases h : d.find? a with
  | none =>
    simp only [Option.map_none, Option.getD_none, List.not_mem_nil, false_iff]
    rintro ⟨x, hx, -⟩
    rw [find?_eq_some_iff.mpr hx] at h
    cases h
  | some x =>
    have hx := find?_eq_some_iff.mp h
    constructor
    · intro hb
      exact ⟨x, hx, hb⟩
    · rintro ⟨y, hy, hb⟩
      rw [hx.unique hy]
      exact hb

theorem mem_closure_referenceMap :
    b ∈ d.referenceMap.closure a ↔ TransGen d.Refers a b := by
  have same : d.referenceMap.Refers = d.Refers := by
    funext a b
    exact propext refers_referenceMap
  rw [ReferenceMap.mem_closure, same]

/-- A part of a document that holds what one name stands for, in front, and the first definition
of each name that can be reached from it, once. -/
structure IsSeparation (d : Document) (name : String) (part : Document) : Prop where
  source : part.source = d.source
  headed : ∃ first more, part.definitions = first :: more ∧ d.FirstNamed name first
  distinct : part.definitions.Pairwise fun x y => x.name? ≠ y.name?
  exact : ∀ x, x ∈ part.definitions ↔
    ∃ a, d.FirstNamed a x ∧ (a = name ∨ TransGen d.Refers name a)

theorem separate?_eq_some {map : ReferenceMap} (h : d.FirstNamed name x) :
    d.separate? map name = some { d with
      definitions := x :: ((map.closure name).filter (· != name)).filterMap d.find? } := by
  simp [separate?, find?_eq_some_iff.mpr h]

private theorem mem_reached : x ∈ ((d.referenceMap.closure name).filter (· != name)).filterMap
    d.find? ↔ ∃ a, d.FirstNamed a x ∧ a ≠ name ∧ TransGen d.Refers name a := by
  simp only [List.mem_filterMap, List.mem_filter, bne_iff_ne, mem_closure_referenceMap,
    find?_eq_some_iff]
  constructor
  · rintro ⟨a, ⟨path, hne⟩, ha⟩
    exact ⟨a, ha, hne, path⟩
  · rintro ⟨a, ha, hne, path⟩
    exact ⟨a, ⟨path, hne⟩, ha⟩

private theorem distinct_reached (d : Document) (names : List String) (h : names.Nodup) :
    (names.filterMap d.find?).Pairwise fun x y => x.name? ≠ y.name? := by
  refine List.Pairwise.filterMap d.find? ?_ h
  intro a b hne x hx y hy
  rw [(find?_eq_some_iff.mp hx).name_eq, (find?_eq_some_iff.mp hy).name_eq]
  simpa using hne

theorem isSeparation_of_firstNamed (h : d.FirstNamed name x) :
    d.IsSeparation name { d with definitions :=
      x :: ((d.referenceMap.closure name).filter (· != name)).filterMap d.find? } where
  source := rfl
  headed := ⟨x, _, rfl, h⟩
  distinct := by
    refine List.pairwise_cons.mpr ⟨?_, distinct_reached d _ ?_⟩
    · intro y hy
      obtain ⟨a, ha, hne, -⟩ := mem_reached.mp hy
      rw [h.name_eq, ha.name_eq]
      simpa using hne.symm
    · exact (ReferenceMap.nodup_closure d.referenceMap name).filter _
  exact := by
    intro y
    rw [List.mem_cons, mem_reached]
    constructor
    · rintro (rfl | ⟨a, ha, -, path⟩)
      · exact ⟨name, h, Or.inl rfl⟩
      · exact ⟨a, ha, Or.inr path⟩
    · rintro ⟨a, ha, hr⟩
      by_cases hn : a = name
      · subst hn
        exact Or.inl (ha.unique h)
      · exact Or.inr ⟨a, ha, hn, hr.resolve_left hn⟩

theorem isSeparation_of_separate? (h : d.separate? d.referenceMap name = some part) :
    d.IsSeparation name part := by
  cases hf : d.find? name with
  | none => simp [separate?, hf] at h
  | some x =>
    have first := find?_eq_some_iff.mp hf
    rw [separate?_eq_some first, Option.some.injEq] at h
    exact h ▸ isSeparation_of_firstNamed first

theorem IsSeparation.closed (h : d.IsSeparation name part) (hx : x ∈ part.definitions)
    (hb : b ∈ x.references) (hy : d.FirstNamed b y) : y ∈ part.definitions := by
  obtain ⟨a, ha, hr⟩ := (h.exact x).mp hx
  have edge : d.Refers a b := ⟨x, ha, hb⟩
  refine (h.exact y).mpr ⟨b, hy, Or.inr ?_⟩
  rcases hr with rfl | path
  · exact .single edge
  · exact path.tail edge

theorem IsSeparation.mem_tail (h : d.IsSeparation name part) :
    x ∈ part.definitions.tail ↔
      ∃ a, d.FirstNamed a x ∧ a ≠ name ∧ TransGen d.Refers name a := by
  obtain ⟨first, more, hd, hf⟩ := h.headed
  have apart := h.distinct
  rw [hd] at apart ⊢
  constructor
  · intro hx
    obtain ⟨a, ha, hr⟩ := (h.exact x).mp (by rw [hd]; exact List.mem_cons_of_mem first hx)
    have hne : a ≠ name := by
      rintro rfl
      exact (List.pairwise_cons.mp apart).1 x hx (hf.name_eq.trans ha.name_eq.symm)
    exact ⟨a, ha, hne, hr.resolve_left hne⟩
  · rintro ⟨a, ha, hne, path⟩
    have hx := (h.exact x).mpr ⟨a, ha, Or.inr path⟩
    rw [hd] at hx
    rcases List.mem_cons.mp hx with rfl | hx
    · exact absurd (Option.some.inj (ha.name_eq.symm.trans hf.name_eq)) hne
    · exact hx

/-- Separating a name that some definition has always succeeds. Every name that is referred to
in the result and has a definition has one in the result; the other names are passed over. -/
theorem separate_reachable (d : Document) (name : String)
    (h : ∃ x ∈ d.definitions, x.name? = some name) :
    ∃ part, d.separate d.referenceMap name = .ok part ∧ d.IsSeparation name part ∧
      ∀ x ∈ part.definitions, ∀ b ∈ x.references, (∃ y ∈ d.definitions, y.name? = some b) →
        ∃ y ∈ part.definitions, y.name? = some b := by
  obtain ⟨first, hf⟩ := exists_firstNamed h
  have sep := isSeparation_of_firstNamed hf
  refine ⟨_, by rw [separate, separate?_eq_some hf], sep, ?_⟩
  intro x hx b hb hy
  obtain ⟨y, hy⟩ := exists_firstNamed hy
  exact ⟨y, sep.closed hx hb hy, hy.name_eq⟩

end Document

namespace Sample

def field (name : String) : Selection := .field none name [] [] []
def spread (fragment : String) : Selection := .spread fragment []

def query (name : String) (selections : List Selection) : Definition :=
  .operation ⟨none, .query, some name, [], [], selections⟩

def fragment (name : String) (selections : List Selection) : Definition :=
  .fragment ⟨none, name, "T", [], selections⟩

/-- A cycle, a reference of a query to itself, one that leads nowhere, and a repeated name. -/
def tangled : Document := ⟨Document.defaultSource,
  [fragment "F" [spread "G", spread "N"], query "Q" [spread "F", spread "Q"],
    fragment "G" [spread "F"], fragment "F" [spread "H"], fragment "H" [field "x"]]⟩

end Sample

namespace Document

theorem separate_reachable_tangled :
    (∃ x ∈ Sample.tangled.definitions, x.name? = some "Q") ∧
    ∃ part, Sample.tangled.separate Sample.tangled.referenceMap "Q" = .ok part ∧
      Sample.tangled.IsSeparation "Q" part ∧
      ∀ x ∈ part.definitions, ∀ b ∈ x.references,
        (∃ y ∈ Sample.tangled.definitions, y.name? = some b) →
          ∃ y ∈ part.definitions, y.name? = some b := by
  have named : ∃ x ∈ Sample.tangled.definitions, x.name? = some "Q" :=
    ⟨Sample.query "Q" [Sample.spread "F", Sample.spread "Q"], by simp [Sample.tangled], rfl⟩
  exact ⟨named, separate_reachable Sample.tangled "Q" named⟩

end Document

/-! ## Split documents

A document of several named operations is split into one document per operation name. Each is
the separated document of that name, and a name is looked up among definitions of every kind.
Hence the operation heads its document only if no fragment or type of its name stands before it,
and a reference pulls in an operation whenever the first definition of its name is one. -/

namespace Document

variable {d part : Document} {name other : String} {map : ReferenceMap}

theorem find?_separateInto (done : Assoc String Document) :
    Assoc.find? (d.separateInto map done name).value other =
      if name = other then (d.separate? map other).or (Assoc.find? done other)
      else Assoc.find? done other := by
  unfold separateInto
  by_cases hn : name = other
  · subst hn
    cases d.separate? map name with
    | none => simp
    | some separated => simp [Assoc.find?_insert]
  · cases d.separate? map name with
    | none => simp [hn]
    | some separated => simp [Assoc.find?_insert, hn]

private theorem find?_foldlM_separateInto (names : List String) (done : Assoc String Document) :
    Assoc.find? (names.foldlM (d.separateInto map) done).value name =
      if name ∈ names then (d.separate? map name).or (Assoc.find? done name)
      else Assoc.find? done name := by
  induction names generalizing done with
  | nil => simp
  | cons first more ih =>
    rw [List.foldlM_cons, Logged.value_bind, ih, find?_separateInto]
    by_cases hf : first = name
    · subst hf
      cases d.separate? map first <;> simp
    · simp [hf, Ne.symm hf]

theorem find?_separateAll (d : Document) (name : String) :
    Assoc.find? d.separateAll.value name =
      if name ∈ d.operationNames then d.separate? d.referenceMap name else none := by
  simp [separateAll, find?_foldlM_separateInto, Assoc.find?]

theorem mem_operationNames : name ∈ d.operationNames ↔ ∃ o ∈ d.operations, o.name = some name :=
  List.mem_filterMap

theorem exists_named_of_mem_operationNames (h : name ∈ d.operationNames) :
    ∃ x ∈ d.definitions, x.name? = some name := by
  obtain ⟨o, ho, hn⟩ := mem_operationNames.mp h
  exact ⟨.operation o, mem_operations.mp ho, hn⟩

theorem find?_separateAll_eq_some :
    Assoc.find? d.separateAll.value name = some part ↔
      name ∈ d.operationNames ∧ d.separate? d.referenceMap name = some part := by
  rw [find?_separateAll]
  split <;> simp_all

theorem exists_find?_separateAll :
    (∃ part, Assoc.find? d.separateAll.value name = some part) ↔ name ∈ d.operationNames := by
  constructor
  · rintro ⟨part, h⟩
    exact (find?_separateAll_eq_some.mp h).1
  · intro h
    obtain ⟨x, hx⟩ := exists_firstNamed (exists_named_of_mem_operationNames h)
    exact ⟨_, find?_separateAll_eq_some.mpr ⟨h, separate?_eq_some hx⟩⟩

theorem isSeparation_of_find? (h : Assoc.find? d.separateAll.value name = some part) :
    d.IsSeparation name part :=
  isSeparation_of_separate? (find?_separateAll_eq_some.mp h).2

theorem checkNames_eq_ok_iff {source : Option String} :
    d.checkNames source = .ok () ↔ ∀ o ∈ d.operations, o.isAnonymous = false := by
  have clear : d.operations.any Operation.isAnonymous = false ↔
      ∀ o ∈ d.operations, o.isAnonymous = false := by simp
  rw [← clear, checkNames]
  cases d.operations.any Operation.isAnonymous <;> simp

/-- A split succeeds on a document of at most one operation and on one whose operations all have
names. -/
theorem split_eq_ok_iff {source : Option String} {parts : Logged (Assoc String Document)} :
    d.split source = .ok parts ↔
      (d.countOperations ≤ 1 ∧ parts = pure []) ∨
        (1 < d.countOperations ∧ (∀ o ∈ d.operations, o.isAnonymous = false) ∧
          parts = d.separateAll) := by
  unfold split
  rw [← @checkNames_eq_ok_iff d source]
  by_cases few : d.countOperations ≤ 1
  · have not_several : ¬1 < d.countOperations := by omega
    simp [few, not_several, pure, Except.pure, eq_comm]
  · have several : 1 < d.countOperations := by omega
    cases h : d.checkNames source <;>
      simp [few, several, pure, Except.pure, bind, Except.bind, eq_comm]

theorem split_eq_ok_of_named (source : Option String) (several : 1 < d.countOperations)
    (named : ∀ o ∈ d.operations, o.isAnonymous = false) : d.split source = .ok d.separateAll :=
  split_eq_ok_iff.mpr (Or.inr ⟨several, named, rfl⟩)

/-- The document of an operation is headed by that operation exactly if the first definition of
its name, of whatever kind, is an operation. -/
theorem headed_by_operation_iff (d : Document) (source : Option String)
    (several : 1 < d.countOperations) (named : ∀ o ∈ d.operations, o.isAnonymous = false) :
    ∃ parts, d.split source = .ok parts ∧
      (∀ name, (∃ part, Assoc.find? parts.value name = some part) ↔
        ∃ o ∈ d.operations, o.name = some name) ∧
      ∀ name part, Assoc.find? parts.value name = some part →
        ((∃ o more, part.definitions = .operation o :: more ∧ o.name = some name) ↔
          ∃ o, d.FirstNamed name (.operation o)) := by
  refine ⟨d.separateAll, split_eq_ok_of_named source several named,
    fun name => exists_find?_separateAll.trans mem_operationNames, ?_⟩
  intro name part stored
  obtain ⟨first, more, hd, hf⟩ := (isSeparation_of_find? stored).headed
  constructor
  · rintro ⟨o, _, ho, -⟩
    rw [hd] at ho
    cases ho
    exact ⟨o, hf⟩
  · rintro ⟨o, ho⟩
    exact ⟨o, more, by rw [hd, hf.unique ho], ho.name_eq⟩

/-- An operation stands behind the head of the document of a name exactly if another name stands
for it that can be reached from there. -/
theorem foreign_operation_iff (d : Document) (source : Option String)
    (several : 1 < d.countOperations) (named : ∀ o ∈ d.operations, o.isAnonymous = false) :
    ∃ parts, d.split source = .ok parts ∧
      (∀ name, (∃ part, Assoc.find? parts.value name = some part) ↔
        ∃ o ∈ d.operations, o.name = some name) ∧
      ∀ name part, Assoc.find? parts.value name = some part →
        ∀ o, .operation o ∈ part.definitions.tail ↔
          ∃ other, other ≠ name ∧ TransGen d.Refers name other ∧
            d.FirstNamed other (.operation o) := by
  refine ⟨d.separateAll, split_eq_ok_of_named source several named,
    fun name => exists_find?_separateAll.trans mem_operationNames, ?_⟩
  intro name part stored o
  rw [(isSeparation_of_find? stored).mem_tail]
  constructor
  · rintro ⟨other, first, hne, path⟩
    exact ⟨other, hne, path, first⟩
  · rintro ⟨other, hne, path, first⟩
    exact ⟨other, first, hne, path⟩

end Document

namespace Sample

def shadowed : Document := ⟨Document.defaultSource,
  [fragment "A" [field "x"], query "A" [field "y"], query "B" [field "z"]]⟩

def crossing : Document := ⟨Document.defaultSource,
  [query "A" [spread "F"], fragment "F" [spread "B"], query "B" [field "x"]]⟩

end Sample

namespace Document

theorem headed_by_operation_iff_shadowed :
    1 < Sample.shadowed.countOperations ∧
    (∀ o ∈ Sample.shadowed.operations, o.isAnonymous = false) ∧
    ∃ parts, Sample.shadowed.split none = .ok parts ∧
      ∀ part, Assoc.find? parts.value "B" = some part →
        ∃ o more, part.definitions = .operation o :: more ∧ o.name = some "B" := by
  have several : 1 < Sample.shadowed.countOperations := by decide
  have named : ∀ o ∈ Sample.shadowed.operations, o.isAnonymous = false := by decide
  obtain ⟨parts, split, -, headed⟩ := headed_by_operation_iff Sample.shadowed none several named
  refine ⟨several, named, parts, split, fun part stored => (headed "B" part stored).mpr ?_⟩
  exact ⟨_, find?_eq_some_iff.mp rfl⟩

/-- A fragment in front of the operation of its name takes the head of its document. -/
theorem shadowed_headed_by_fragment :
    Document.parse "fragment A on T { x } query A { y } query B { z }" none =
        .ok Sample.shadowed ∧
      1 < Sample.shadowed.countOperations ∧
      (∀ o ∈ Sample.shadowed.operations, o.isAnonymous = false) ∧
      ∃ parts part, Sample.shadowed.split none = .ok parts ∧
        Assoc.find? parts.value "A" = some part ∧
        ¬∃ o more, part.definitions = .operation o :: more ∧ o.name = some "A" := by
  refine ⟨by cbv, by decide, by decide, Sample.shadowed.separateAll,
    ⟨Document.defaultSource, [Sample.fragment "A" [Sample.field "x"]]⟩,
    split_eq_ok_of_named none (by decide) (by decide), by cbv, ?_⟩
  rintro ⟨o, more, head, -⟩
  cases head

theorem foreign_operation_iff_crossing :
    1 < Sample.crossing.countOperations ∧
    (∀ o ∈ Sample.crossing.operations, o.isAnonymous = false) ∧
    ∃ parts, Sample.crossing.split none = .ok parts ∧
      ∀ part, Assoc.find? parts.value "B" = some part →
        ∀ o, .operation o ∉ part.definitions.tail := by
  have several : 1 < Sample.crossing.countOperations := by decide
  have named : ∀ o ∈ Sample.crossing.operations, o.isAnonymous = false := by decide
  obtain ⟨parts, split, -, foreign⟩ := foreign_operation_iff Sample.crossing none several named
  refine ⟨several, named, parts, split, fun part stored o ho => ?_⟩
  obtain ⟨other, -, path, -⟩ := (foreign "B" part stored o).mp ho
  -- what stands for "B" refers to nothing, so no path leaves it
  obtain ⟨next, ⟨x, hx, hn⟩, -⟩ := TransGen.head'_iff.mp path
  cases hx.unique (find?_eq_some_iff.mp rfl)
  cases hn

/-- A spread may bear the name of another operation, which then stands in the document. -/
theorem crossing_holds_foreign_operation :
    Document.parse "query A { ...F } fragment F on T { ...B } query B { x }" none =
        .ok Sample.crossing ∧
      1 < Sample.crossing.countOperations ∧
      (∀ o ∈ Sample.crossing.operations, o.isAnonymous = false) ∧
      ∃ parts part, Sample.crossing.split none = .ok parts ∧
        Assoc.find? parts.value "A" = some part ∧
        ∃ o, .operation o ∈ part.definitions.tail := by
  refine ⟨by cbv, by decide, by decide, Sample.crossing.separateAll,
    ⟨Document.defaultSource, [Sample.query "A" [Sample.spread "F"],
      Sample.fragment "F" [Sample.spread "B"], Sample.query "B" [Sample.field "x"]]⟩,
    split_eq_ok_of_named none (by decide) (by decide), by cbv, ?_⟩
  exact ⟨_, List.mem_cons_of_mem _ (List.mem_singleton.mpr rfl)⟩

end Document

/-! ## What a separated document depends on

A separated document is found by looking up the name it starts from and the names that can be
reached from there. Two documents that answer these look-ups alike separate alike, definition for
definition and in the same order, whatever else they hold and wherever it stands. -/

namespace ReferenceMap

variable {map other : ReferenceMap} {reached frontier : List String} {name : String}

theorem closeFrom_congr
    (agree : ∀ a ∈ frontier, ∀ b, ReflTransGen map.Refers a b →
      other.references b = map.references b) :
    other.closeFrom reached frontier = map.closeFrom reached frontier := by
  fun_induction closeFrom map reached frontier with
  | case1 reached frontier level next done =>
    have same : level.flatMap other.references = next :=
      List.flatMap_congr fun a ha => agree a (Names.mem_fresh.mp ha).1 a .refl
    rw [closeFrom]
    exact dif_pos (same.trans done)
  | case2 reached frontier level next more ih =>
    have same : level.flatMap other.references = next :=
      List.flatMap_congr fun a ha => agree a (Names.mem_fresh.mp ha).1 a .refl
    rw [closeFrom, dif_neg (by rw [same]; exact more), same]
    -- what the next round starts from lies one step behind this frontier
    refine ih fun b hb c path => ?_
    obtain ⟨a, ha, edge⟩ := List.mem_flatMap.mp hb
    exact agree a (Names.mem_fresh.mp ha).1 c (.head edge path)

theorem closure_congr (agree : ∀ b, ReflTransGen map.Refers name b →
    other.references b = map.references b) : other.closure name = map.closure name := by
  unfold closure
  rw [agree name .refl]
  exact closeFrom_congr fun a edge b path => agree b (.head edge path)

end ReferenceMap

namespace Document

variable {d e other part : Document} {name a : String} {x : Definition}
  {before after : List Definition}

def Within (d : Document) (name a : String) : Prop := ReflTransGen d.referenceMap.Refers name a

/-- Every name within reach stands for the same in another document; one that stands for nothing
stands for nothing there. -/
def AgreesFrom (d : Document) (name : String) (other : Document) : Prop :=
  ∀ a, d.Within name a → other.find? a = d.find? a

namespace AgreesFrom

theorem references_eq (h : d.AgreesFrom name other) (ha : d.Within name a) :
    other.referenceMap.references a = d.referenceMap.references a := by
  rw [references_referenceMap, references_referenceMap, h a ha]

theorem within (h : d.AgreesFrom name other) (ha : d.Within name a) : other.Within name a := by
  induction ha with
  | refl => exact .refl
  | @tail b c path edge ih =>
    have edge' : other.referenceMap.Refers b c := by
      unfold ReferenceMap.Refers
      rw [h.references_eq path]
      exact edge
    exact ih.tail edge'

theorem trans (h : d.AgreesFrom name e) (k : e.AgreesFrom name other) :
    d.AgreesFrom name other :=
  fun a ha => (k a (h.within ha)).trans (h a ha)

theorem separate?_eq (h : d.AgreesFrom name other)
    (hp : d.separate? d.referenceMap name = some part) :
    other.separate? other.referenceMap name =
      some { other with definitions := part.definitions } := by
  have closures : other.referenceMap.closure name = d.referenceMap.closure name :=
    ReferenceMap.closure_congr fun a ha => h.references_eq ha
  cases hx : d.find? name with
  | none => simp [separate?, hx] at hp
  | some x =>
    have first : other.FirstNamed name x := find?_eq_some_iff.mp ((h name .refl).trans hx)
    rw [separate?_eq_some (find?_eq_some_iff.mp hx), Option.some.injEq] at hp
    subst hp
    rw [separate?_eq_some first, closures]
    have rest : ((d.referenceMap.closure name).filter (· != name)).filterMap other.find? =
        ((d.referenceMap.closure name).filter (· != name)).filterMap d.find? := by
      refine List.filterMap_congr fun a ha => h a ?_
      exact (ReferenceMap.mem_closure.mp (List.mem_filter.mp ha).1).to_reflTransGen
    rw [rest]

end AgreesFrom

/-- A separated document holds all that was looked up to find it. -/
theorem IsSeparation.agreesFrom (h : d.IsSeparation name part) : d.AgreesFrom name part := by
  have reached : ∀ a, d.Within name a → a = name ∨ TransGen d.Refers name a := by
    intro a ha
    rcases reflTransGen_iff_eq_or_transGen.mp ha with rfl | path
    · exact Or.inl rfl
    · exact Or.inr (mem_closure_referenceMap.mp (ReferenceMap.mem_closure.mpr path))
  -- whatever has a name in the part is what the name stands for in the whole
  have stands : ∀ a y, part.FirstNamed a y → d.FirstNamed a y := by
    intro a y hy
    obtain ⟨before, after, hd, named, -⟩ := hy
    obtain ⟨b, hb, -⟩ := (h.exact y).mp (by simp [hd])
    obtain rfl : b = a := Option.some.inj (hb.name_eq.symm.trans named)
    exact hb
  intro a ha
  cases hx : d.find? a with
  | some x =>
    have first := find?_eq_some_iff.mp hx
    have inPart := (h.exact x).mpr ⟨a, first, reached a ha⟩
    obtain ⟨y, hy⟩ := exists_firstNamed ⟨x, inPart, first.name_eq⟩
    rw [find?_eq_some_iff.mpr hy, (stands a y hy).unique first]
  | none =>
    cases hy : part.find? a with
    | none => rfl
    | some y =>
      have first := stands a y (find?_eq_some_iff.mp hy)
      rw [find?_eq_some_iff.mpr first] at hx
      cases hx

/-- The definitions in another order, in which those of one name follow each other as before. -/
structure Reordered (d other : Document) : Prop where
  perm : other.definitions.Perm d.definitions
  order : ∀ a, other.definitions.filter (·.name? == some a) =
    d.definitions.filter (·.name? == some a)

theorem Reordered.agreesFrom (h : d.Reordered other) (name : String) :
    d.AgreesFrom name other := by
  intro a _
  unfold find?
  rw [← List.head?_filter, h.order, List.head?_filter]

/-- A definition that plays no part in separating a name: one of its name stands before it, or
its name is out of reach. -/
def Spare (d : Document) (name : String) (before : List Definition) (x : Definition) : Prop :=
  (∃ a, x.name? = some a ∧ ∃ y ∈ before, y.name? = some a) ∨
    ∀ a, x.name? = some a → ¬d.Within name a

inductive SpareEdit (name : String) (d : Document) : Document → Prop where
  | add {before after : List Definition} {x : Definition} :
      d.definitions = before ++ after → d.Spare name before x →
      SpareEdit name d { d with definitions := before ++ x :: after }
  | remove {before after : List Definition} {x : Definition} :
      d.definitions = before ++ x :: after → d.Spare name before x →
      SpareEdit name d { d with definitions := before ++ after }

theorem Spare.find?_eq (h : d.Spare name before x) (ha : d.Within name a) :
    (before ++ x :: after).find? (·.name? == some a) =
      (before ++ after).find? (·.name? == some a) := by
  rw [List.find?_append, List.find?_append, List.find?_cons]
  by_cases hx : x.name? = some a
  · rcases h with ⟨b, hb, y, hy, named⟩ | unreached
    · obtain rfl : b = a := Option.some.inj (hb.symm.trans hx)
      have found : (before.find? (·.name? == some b)).isSome :=
        List.find?_isSome.mpr ⟨y, hy, by simpa using named⟩
      obtain ⟨z, hz⟩ := Option.isSome_iff_exists.mp found
      simp [hz]
    · exact absurd ha (unreached a hx)
  · have skipped : (x.name? == some a) = false := by simpa using hx
    rw [skipped]

theorem SpareEdit.agreesFrom (h : SpareEdit name d other) : d.AgreesFrom name other := by
  intro a ha
  unfold find?
  cases h with
  | add hd spare => rw [hd, spare.find?_eq ha]
  | remove hd spare => rw [hd, spare.find?_eq ha]

theorem agreesFrom_of_edits (h : ReflTransGen (SpareEdit name) d other) :
    d.AgreesFrom name other := by
  induction h with
  | refl => exact fun _ _ => rfl
  | tail _ edit ih => exact ih.trans edit.agreesFrom

/-- Separating a name comes to the same definitions, in the same order, in every document that
agrees on all names within reach. Hence it comes to the same in the separated document itself,
after reordering definitions of different names, and however many spare definitions come and
go. -/
theorem separate_depends_on_reached (d : Document) (name : String)
    (named : ∃ x ∈ d.definitions, x.name? = some name) :
    ∃ part, d.separate d.referenceMap name = .ok part ∧
      (∀ other, d.AgreesFrom name other →
        other.separate other.referenceMap name =
          .ok { other with definitions := part.definitions }) ∧
      part.separate part.referenceMap name = .ok part ∧
      (∀ other, d.Reordered other →
        other.separate other.referenceMap name =
          .ok { other with definitions := part.definitions }) ∧
      (∀ other, ReflTransGen (SpareEdit name) d other →
        other.separate other.referenceMap name =
          .ok { other with definitions := part.definitions }) := by
  obtain ⟨x, first⟩ := exists_firstNamed named
  have found : d.separate? d.referenceMap name = _ := separate?_eq_some first
  have alike : ∀ other, d.AgreesFrom name other →
      other.separate other.referenceMap name = .ok { other with definitions :=
        x :: ((d.referenceMap.closure name).filter (· != name)).filterMap d.find? } := by
    intro other agree
    rw [separate, agree.separate?_eq found]
  refine ⟨_, by rw [separate, found], alike, ?_, ?_, ?_⟩
  · exact alike _ (isSeparation_of_firstNamed first).agreesFrom
  · exact fun other reordered => alike other (reordered.agreesFrom name)
  · exact fun other edits => alike other (agreesFrom_of_edits edits)

end Document

namespace Sample

def trimmed : Document := ⟨Document.defaultSource,
  [fragment "F" [spread "G", spread "N"], query "Q" [spread "F", spread "Q"],
    fragment "G" [spread "F"], fragment "F" [spread "H"]]⟩

def untangled : Document := ⟨Document.defaultSource,
  [fragment "F" [spread "G", spread "N"], query "Q" [spread "F", spread "Q"],
    fragment "G" [spread "F"]]⟩

end Sample

namespace Document

theorem separate_depends_on_reached_tangled :
    (∃ x ∈ Sample.tangled.definitions, x.name? = some "Q") ∧
    ReflTransGen (SpareEdit "Q") Sample.tangled Sample.untangled ∧
    ∃ part, Sample.tangled.separate Sample.tangled.referenceMap "Q" = .ok part ∧
      part.separate part.referenceMap "Q" = .ok part ∧
      Sample.untangled.separate Sample.untangled.referenceMap "Q" =
        .ok { Sample.untangled with definitions := part.definitions } := by
  have named : ∃ x ∈ Sample.tangled.definitions, x.name? = some "Q" :=
    ⟨Sample.query "Q" [Sample.spread "F", Sample.spread "Q"], by simp [Sample.tangled], rfl⟩
  have unreached : ¬Sample.tangled.Within "Q" "H" := by
    intro path
    have closure : Sample.tangled.referenceMap.closure "Q" = ["F", "Q", "G", "N"] := by cbv
    rcases reflTransGen_iff_eq_or_transGen.mp path with same | path
    · exact absurd same (by decide)
    · have mem := ReferenceMap.mem_closure.mpr path
      rw [closure] at mem
      exact absurd mem (by decide)
  have withoutH : SpareEdit "Q" Sample.tangled Sample.trimmed := by
    refine @SpareEdit.remove _ _ Sample.trimmed.definitions []
      (Sample.fragment "H" [Sample.field "x"]) rfl (Or.inr fun a ha => ?_)
    cases ha
    exact unreached
  have withoutF : SpareEdit "Q" Sample.trimmed Sample.untangled :=
    @SpareEdit.remove _ _ Sample.untangled.definitions []
      (Sample.fragment "F" [Sample.spread "H"]) rfl
      (Or.inl ⟨"F", rfl, _, List.mem_cons_self, rfl⟩)
  have edits := (ReflTransGen.single withoutH).tail withoutF
  obtain ⟨part, separated, -, again, -, edited⟩ :=
    separate_depends_on_reached Sample.tangled "Q" named
  exact ⟨named, edits, part, separated, again, edited Sample.untangled edits⟩

end Document

end OperationDocuments
