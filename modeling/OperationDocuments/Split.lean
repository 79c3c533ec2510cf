import OperationDocuments.Basic
import OperationDocuments.Document.Basic

/-! # Documents of single operations

What the definitions of a document refer to, the closure of these references, and the documents of
its operations, each with what it reaches. -/
namespace OperationDocuments.Names

/-! ## Names in order of mention -/

def add (names : List String) (name : String) : List String :=
  if names.contains name then names else names ++ [name]

/-- The names of a list that are not among those `known`, each at its first mention. -/
def fresh (known names : List String) : List String :=
  (names.filter (!known.contains ·)).foldl add []

theorem mem_add {names : List String} {name other : String} :
    other ∈ add names name ↔ other ∈ names ∨ other = name := by
  unfold add
  split
  · next h =>
    have : name ∈ names := by simpa using h
    grind
  · simp

theorem mem_foldl_add {names more : List String} {name : String} :
    name ∈ more.foldl add names ↔ name ∈ names ∨ name ∈ more := by
  induction more generalizing names with
  | nil => simp
  | cons n more ih => simp [ih, mem_add, or_assoc]

theorem nodup_add {names : List String} {name : String} (h : names.Nodup) :
    (add names name).Nodup := by
  unfold add
  split
  · exact h
  · next hn =>
    refine List.nodup_append.mpr ⟨h, by simp, ?_⟩
    intro a ha b hb hab
    simp only [List.mem_singleton] at hb
    subst hb hab
    exact hn (by simpa using ha)

theorem nodup_foldl_add {names more : List String} (h : names.Nodup) :
    (more.foldl add names).Nodup := by
  induction more generalizing names with
  | nil => exact h
  | cons n more ih => exact ih (nodup_add h)

theorem nodup_fresh (known names : List String) : (fresh known names).Nodup :=
  nodup_foldl_add List.nodup_nil

theorem mem_fresh {known names : List String} {name : String} :
    name ∈ fresh known names ↔ name ∈ names ∧ name ∉ known := by
  simp [fresh, mem_foldl_add]

end OperationDocuments.Names

namespace OperationDocuments

/-! ## References

What a definition refers to: the fragments it spreads, at any depth of its selections, and then
the types of its variables that are bare names, neither lists nor marked as required. Each name
counts once, at its first mention. -/

mutual

def Selection.collect : Selection → List String → List String
  | .field _ _ _ _ selections, refs => Selection.collectAll selections refs
  | .spread fragment _, refs => Names.add refs fragment
  | .inline _ _ selections, refs => Selection.collectAll selections refs

def Selection.collectAll : List Selection → List String → List String
  | [], refs => refs
  | s :: more, refs => Selection.collectAll more (s.collect refs)

end

def VariableDefinition.collect (v : VariableDefinition) (refs : List String) : List String :=
  match v.type with
  | .named name => Names.add refs name
  | _ => refs

def Definition.collect (d : Definition) (refs : List String) : List String :=
  match d with
  | .operation o =>
    o.variableDefinitions.foldl (fun refs v => v.collect refs)
      (Selection.collectAll o.selections refs)
  | .fragment f => Selection.collectAll f.selections refs
  | _ => refs

def Definition.references (d : Definition) : List String := d.collect []

def Document.collect (d : Document) (refs : List String) : List String :=
  d.definitions.foldl (fun refs definition => definition.collect refs) refs

/-! ## Reference maps and their closure

A reference map gives each name the names it refers to. The closure of a name is found level by
level: a level holds the names that the one before refers to and that no earlier level holds. -/

abbrev ReferenceMap := Assoc String (List String)

namespace ReferenceMap

/-- The names that a name refers to; a name without an entry refers to none. -/
def references (map : ReferenceMap) (name : String) : List String :=
  (Assoc.find? map name).getD []

private theorem mem_keys_of_references {map : ReferenceMap} {name : String}
    (h : map.references name ≠ []) : name ∈ Assoc.keys map := by
  unfold references at h
  induction map with
  | nil => simp [Assoc.find?] at h
  | cons entry more ih =>
    obtain ⟨k, v⟩ := entry
    by_cases hk : k = name
    · simp [Assoc.keys, hk]
    · simp only [Assoc.find?, hk, if_false] at h
      simpa [Assoc.keys] using Or.inr (by simpa [Assoc.keys] using ih h)

private def unreached (map : ReferenceMap) (reached : List String) : List String :=
  (Assoc.keys map).filter (!reached.contains ·)

private theorem length_unreached_lt {map : ReferenceMap} {reached level : List String}
    {name : String} (hn : name ∈ Assoc.keys map) (hl : name ∈ level) (hr : name ∉ reached) :
    (unreached map (reached ++ level)).length < (unreached map reached).length := by
  have hsub : unreached map (reached ++ level) =
      (unreached map reached).filter (!level.contains ·) := by
    simp [unreached, List.filter_filter, Bool.and_comm]
  rw [hsub]
  refine List.length_filter_lt_length_iff_exists.mpr ⟨name, ?_, by simpa using hl⟩
  simp [unreached, hn, hr]

def closeFrom (map : ReferenceMap) (reached frontier : List String) : List String :=
  let level := Names.fresh reached frontier
  let next := level.flatMap map.references
  if _h : next = [] then reached ++ level
  else closeFrom map (reached ++ level) next
termination_by (unreached map reached).length
decreasing_by
  obtain ⟨ref, hr⟩ := List.exists_mem_of_ne_nil _ _h
  obtain ⟨name, hn, hm⟩ := List.mem_flatMap.mp hr
  exact length_unreached_lt (mem_keys_of_references (List.ne_nil_of_mem hm)) hn
    (Names.mem_fresh.mp hn).2

/-- Every name that can be reached from a name in one or more steps, nearer ones first. -/
def closure (map : ReferenceMap) (name : String) : List String :=
  map.closeFrom [] (map.references name)

/-- Enters a definition under its name. Of several definitions of one name the first counts. -/
def enter (map : ReferenceMap) (definition : Definition) : ReferenceMap :=
  match definition.name? with
  | none => map
  | some name =>
    if Assoc.contains map name then map else map ++ [(name, definition.references)]

end ReferenceMap

def Document.referenceMap (d : Document) : ReferenceMap :=
  d.definitions.foldl ReferenceMap.enter []

/-! ## Splitting documents

A document of several named operations falls apart into one document per operation: the operation
and every definition it reaches. A name stands for its first definition, of whatever kind. -/

structure MissingOperationName where
  source : Option String
  deriving Repr, DecidableEq

def MissingOperationName.message (e : MissingOperationName) : String :=
  let text := "Query/mutation names are required for a document with multiple definitions"
  match e.source with
  | none => text
  | some source => if source = "" then text else s!"{text} ({source})"

structure UnknownOperation where
  name : String
  deriving Repr, DecidableEq

def UnknownOperation.message (e : UnknownOperation) : String := s!"Unknown operation: {e.name}"

/-- No name is given, or an empty one. -/
def Operation.isAnonymous (o : Operation) : Bool := o.name.all (·.isEmpty)

namespace Document

def countOperations (d : Document) : Nat := d.operations.length

def checkNames (d : Document) (source : Option String) : Except MissingOperationName Unit :=
  if d.operations.any Operation.isAnonymous then .error ⟨source⟩ else .ok ()

def operationNames (d : Document) : List String := d.operations.filterMap Operation.name

/-- What a name stands for and, in the order of the closure, the definitions it reaches. Names
without a definition are passed over, and the first definition is not repeated. -/
def separate? (d : Document) (map : ReferenceMap) (name : String) : Option Document := do
  let first ← d.find? name
  let reached := (map.closure name).filter (· != name)
  return { d with definitions := first :: reached.filterMap d.find? }

def separate (d : Document) (map : ReferenceMap) (name : String) :
    Except UnknownOperation Document :=
  match d.separate? map name with
  | some separated => .ok separated
  | none => .error ⟨name⟩

def separateInto (d : Document) (map : ReferenceMap) (done : Assoc String Document)
    (name : String) : Logged (Assoc String Document) :=
  match d.separate? map name with
  | none => pure done
  | some separated => do
    Logged.report (.separated name separated.definitions.length)
    return done.insert name separated

/-- One document for each operation of a document with several, under the operation's name. -/
def separateAll (d : Document) : Logged (Assoc String Document) :=
  d.operationNames.foldlM (d.separateInto d.referenceMap) []

/-- A document of at most one operation is not split. -/
def split (d : Document) (source : Option String) :
    Except MissingOperationName (Logged (Assoc String Document)) := do
  if d.countOperations ≤ 1 then return pure []
  d.checkNames source
  return d.separateAll

end Document

/-! ## Loaded sources

A source that was loaded: its whole document with the imports merged in, and one document per
operation if it has several. -/

structure Loaded where
  source : String
  document : Document
  operations : Assoc String Document
  imports : List String
  deriving Repr

namespace Loaded

def operationNames (l : Loaded) : List String := Assoc.keys l.operations

def isSplit (l : Loaded) : Bool := !l.operations.isEmpty

def singleOperationName? (l : Loaded) : Option String :=
  match l.document.operations with
  | [o] => o.name
  | _ => none

/-- The document of an operation: the whole one when no operation is named, or when the named one
is alone in it. -/
def documentFor (l : Loaded) (name : Option String) : Except UnknownOperation Document :=
  match name with
  | none => .ok l.document
  | some name =>
    match Assoc.find? l.operations name with
    | some d => .ok d
    | none =>
      if l.operations.isEmpty ∧ l.singleOperationName? = some name then .ok l.document
      else .error ⟨name⟩

end Loaded

/-- Rules on the names of operations. A rule that is absent or empty admits every name. -/
structure OperationFilter where
  excludedStart : Option String := none
  excludedEnd : Option String := none
  requiredStart : Option String := none
  requiredEnd : Option String := none
  deriving Repr

namespace OperationFilter

private def rule (admits : List Char → Bool) (affix : Option String) : Bool :=
  match affix with
  | none => true
  | some affix => affix.isEmpty || admits affix.toList

def accepts (f : OperationFilter) (name : String) : Bool :=
  rule (fun affix => !affix.isPrefixOf name.toList) f.excludedStart
    && rule (fun affix => !affix.isSuffixOf name.toList) f.excludedEnd
    && rule (·.isPrefixOf name.toList) f.requiredStart
    && rule (·.isSuffixOf name.toList) f.requiredEnd

def keep (f : OperationFilter) : Assoc String Document → Logged (Assoc String Document)
  | [] => pure []
  | entry :: more => do
    if f.accepts entry.1 then return entry :: (← f.keep more)
    Logged.report (.filteredOut entry.1)
    f.keep more

/-- A filter takes operations away; the whole document stays as it is. -/
def apply (f : OperationFilter) (l : Loaded) : Logged Loaded := do
  return { l with operations := ← f.keep l.operations }

def applyAll : List OperationFilter → Loaded → Logged Loaded
  | [], l => pure l
  | f :: more, l => do applyAll more (← f.apply l)

end OperationFilter

end OperationDocuments
