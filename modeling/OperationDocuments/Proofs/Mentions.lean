import Mathlib
import OperationDocuments.Proofs.Closure

/-! # Names that a definition mentions

What is collected from a definition: the names that its text mentions where a reference can stand,
and nothing else. -/
namespace OperationDocuments

/-! ## What a definition refers to

The references of a definition are the fragments that it spreads somewhere in its selections and
the types of its variables that are bare names, and nothing else. -/

inductive Selection.Spreads : Selection → String → Prop where
  | here (fragment directives) : Spreads (.spread fragment directives) fragment
  | field {label name arguments directives selections s fragment} :
      s ∈ selections → Spreads s fragment →
      Spreads (.field label name arguments directives selections) fragment
  | inline {condition directives selections s fragment} :
      s ∈ selections → Spreads s fragment →
      Spreads (.inline condition directives selections) fragment

namespace Definition

def selections : Definition → List Selection
  | .operation o => o.selections
  | .fragment f => f.selections
  | _ => []

def variableDefinitions : Definition → List VariableDefinition
  | .operation o => o.variableDefinitions
  | _ => []

def Spreads (x : Definition) (fragment : String) : Prop :=
  ∃ s ∈ x.selections, s.Spreads fragment

def TakesType (x : Definition) (type : String) : Prop :=
  ∃ v ∈ x.variableDefinitions, v.type = .named type

end Definition

namespace Selection

variable {fragment : String}

theorem spreads_spread {other : String} {directives : List Directive} :
    (Selection.spread other directives).Spreads fragment ↔ fragment = other := by
  constructor
  · intro h
    cases h
    rfl
  · rintro rfl
    exact .here _ _

theorem spreads_field {label name arguments directives selections} :
    (Selection.field label name arguments directives selections).Spreads fragment ↔
      ∃ s ∈ selections, s.Spreads fragment := by
  constructor
  · intro h
    cases h with
    | field hs h => exact ⟨_, hs, h⟩
  · rintro ⟨s, hs, h⟩
    exact .field hs h

theorem spreads_inline {condition directives selections} :
    (Selection.inline condition directives selections).Spreads fragment ↔
      ∃ s ∈ selections, s.Spreads fragment := by
  constructor
  · intro h
    cases h with
    | inline hs h => exact ⟨_, hs, h⟩
  · rintro ⟨s, hs, h⟩
    exact .inline hs h

mutual

theorem mem_collect (s : Selection) (refs : List String) :
    fragment ∈ s.collect refs ↔ fragment ∈ refs ∨ s.Spreads fragment := by
  cases s with
  | field label name arguments directives selections =>
    rw [collect, mem_collectAll, spreads_field]
  | spread other directives => rw [collect, Names.mem_add, spreads_spread]
  | inline condition directives selections => rw [collect, mem_collectAll, spreads_inline]

theorem mem_collectAll (selections : List Selection) (refs : List String) :
    fragment ∈ collectAll selections refs ↔
      fragment ∈ refs ∨ ∃ s ∈ selections, s.Spreads fragment := by
  cases selections with
  | nil => simp [collectAll]
  | cons s more =>
    rw [collectAll, mem_collectAll more, mem_collect s]
    simp [or_assoc]

end

end Selection

theorem VariableDefinition.mem_collect {v : VariableDefinition} {refs : List String}
    {name : String} : name ∈ v.collect refs ↔ name ∈ refs ∨ v.type = .named name := by
  unfold VariableDefinition.collect
  split
  · next other h => rw [Names.mem_add, h, TypeRef.named.injEq, eq_comm]
  · next h => exact ⟨Or.inl, fun hn => hn.resolve_right (h name)⟩

private theorem mem_foldl_collect {parameters : List VariableDefinition} {refs : List String}
    {name : String} : name ∈ parameters.foldl (fun refs v => v.collect refs) refs ↔
      name ∈ refs ∨ ∃ v ∈ parameters, v.type = .named name := by
  induction parameters generalizing refs with
  | nil => simp
  | cons v more ih => simp [ih, VariableDefinition.mem_collect, or_assoc]

namespace Definition

theorem mem_references {x : Definition} {name : String} :
    name ∈ x.references ↔ x.Spreads name ∨ x.TakesType name := by
  cases x with
  | operation o =>
    simp only [references, collect, mem_foldl_collect, Selection.mem_collectAll]
    simp [Spreads, TakesType, selections, variableDefinitions]
  | fragment f =>
    simp only [references, collect, Selection.mem_collectAll]
    simp [Spreads, TakesType, selections, variableDefinitions]
  | _ => simp [references, collect, Spreads, TakesType, selections, variableDefinitions]

end Definition

/-! ## Collected mentions

References are collected from a whole document in the same way as from a single selection. A part
may mention a name itself; then come its selections, its variables, and the definitions in it, each
searched to the end before the next. The list that is handed on from part to part also says which
names are known already. So every name is taken once, at its first mention, and what no part
mentions decides nothing. -/

namespace Names

/-- The names of a list of mentions that are not known before, each once, in the order of their
first mentions. -/
structure FirstMentions (known mentions names : List String) : Prop where
  distinct : names.Nodup
  mentioned : ∀ name, name ∈ names ↔ name ∈ mentions ∧ name ∉ known
  inOrder : names.Pairwise fun b c => mentions.idxOf b < mentions.idxOf c

variable {known mentions names other : List String}

theorem firstMentions_fresh (known mentions : List String) :
    FirstMentions known mentions (fresh known mentions) where
  distinct := nodup_fresh known mentions
  mentioned _ := mem_fresh
  inOrder := fresh_pairwise known mentions

theorem FirstMentions.unique (h : FirstMentions known mentions names)
    (k : FirstMentions known mentions other) : names = other := by
  have members : names.Perm other :=
    (List.perm_ext_iff_of_nodup h.distinct k.distinct).mpr fun name => by
      rw [h.mentioned, k.mentioned]
  refine members.eq_of_pairwise ?_ h.inOrder k.inOrder
  intro b c _ _ before after
  exact absurd after (Nat.lt_asymm before)

theorem firstMentions_iff : FirstMentions known mentions names ↔ names = fresh known mentions := by
  constructor
  · intro h
    exact h.unique (firstMentions_fresh known mentions)
  · rintro rfl
    exact firstMentions_fresh known mentions

theorem foldl_add_eq (known mentions : List String) :
    mentions.foldl add known = known ++ fresh known mentions := by
  -- on the end of the list, where both sides add one name or none
  induction mentions using List.reverseRecOn with
  | nil => simp [fresh]
  | append_singleton mentions last ih =>
    rw [List.foldl_append, ih, fresh_concat]
    by_cases h : last ∈ known
    · simp [add, h]
    · by_cases k : last ∈ fresh known mentions <;> simp [add, h, k]

end Names

/-- A document, or a part of one that is searched for references. -/
inductive Node where
  | document (d : Document)
  | definition (x : Definition)
  | variableDefinition (v : VariableDefinition)
  | selection (s : Selection)

namespace Node

def collect : Node → List String → List String
  | document d => d.collect
  | definition x => x.collect
  | variableDefinition v => v.collect
  | selection s => s.collect

/-- The name that a node mentions by itself: that of a spread fragment, or the type of a variable,
unless it is a list or marked as required. -/
def own? : Node → Option String
  | variableDefinition ⟨_, _, .named type, _, _⟩ => some type
  | selection (.spread fragment _) => some fragment
  | _ => none

def selections : Node → List Selection
  | definition x => x.selections
  | selection (.field _ _ _ _ selections) => selections
  | selection (.inline _ _ selections) => selections
  | _ => []

def variableDefinitions : Node → List VariableDefinition
  | definition x => x.variableDefinitions
  | _ => []

def definitions : Node → List Definition
  | document d => d.definitions
  | _ => []

def parts (n : Node) : List Node :=
  n.selections.map selection ++ n.variableDefinitions.map variableDefinition
    ++ n.definitions.map definition

-- an empty list has size 1
private theorem sizeOf_nil_lt (n : Node) : 1 < sizeOf n := by
  rcases n with ⟨⟨⟩⟩ | ⟨⟨⟩⟩ | ⟨⟨⟩⟩ | ⟨⟨⟩⟩ <;> simp

private theorem sizeOf_selections_lt (n : Node) : sizeOf n.selections < sizeOf n := by
  fun_cases selections n with
  | case1 x =>
    rcases x with ⟨⟨⟩⟩ | ⟨⟨⟩⟩ | _ | _ | _ <;> simp [Definition.selections] <;> omega
  | case2 => simp; omega
  | case3 => simp; omega
  | case4 => exact n.sizeOf_nil_lt

private theorem sizeOf_variableDefinitions_lt (n : Node) :
    sizeOf n.variableDefinitions < sizeOf n := by
  fun_cases variableDefinitions n with
  | case1 x =>
    rcases x with ⟨⟨⟩⟩ | _ | _ | _ | _ <;> simp [Definition.variableDefinitions]
    omega
  | case2 => exact n.sizeOf_nil_lt

private theorem sizeOf_definitions_lt (n : Node) : sizeOf n.definitions < sizeOf n := by
  fun_cases definitions n with
  | case1 d =>
    cases d
    simp
    omega
  | case2 => exact n.sizeOf_nil_lt

theorem sizeOf_lt_of_mem_parts {n part : Node} (h : part ∈ n.parts) : sizeOf part < sizeOf n := by
  simp only [parts, List.mem_append, List.mem_map] at h
  rcases h with (⟨s, among, rfl⟩ | ⟨v, among, rfl⟩) | ⟨x, among, rfl⟩
  · have inside := List.sizeOf_lt_of_mem among
    have := n.sizeOf_selections_lt
    simp only [selection.sizeOf_spec]
    omega
  · have inside := List.sizeOf_lt_of_mem among
    have := n.sizeOf_variableDefinitions_lt
    simp only [variableDefinition.sizeOf_spec]
    omega
  · have inside := List.sizeOf_lt_of_mem among
    have := n.sizeOf_definitions_lt
    simp only [definition.sizeOf_spec]
    omega

/-- All names that are mentioned in a node, as often as they are: its own first, then those in its
parts. -/
def mentions (n : Node) : List String :=
  n.own?.toList ++ n.parts.attach.flatMap fun ⟨part, _⟩ => part.mentions
termination_by n
decreasing_by exact sizeOf_lt_of_mem_parts (by assumption)

theorem mentions_eq (n : Node) :
    n.mentions = n.own?.toList ++ n.parts.flatMap mentions := by
  rw [mentions]
  simp

theorem collectAll_eq_foldl (selections : List Selection) (refs : List String) :
    Selection.collectAll selections refs =
      selections.foldl (fun refs s => s.collect refs) refs := by
  induction selections generalizing refs with
  | nil => rfl
  | cons s more ih => exact ih (s.collect refs)

theorem collect_eq (n : Node) (refs : List String) : n.collect refs =
    n.parts.foldl (fun refs part => part.collect refs) (n.own?.toList.foldl Names.add refs) := by
  unfold parts
  rw [List.foldl_append, List.foldl_append, List.foldl_map, List.foldl_map, List.foldl_map]
  cases n with
  | document d => rfl
  | definition x =>
    cases x with
    | operation o =>
      exact congrArg (o.variableDefinitions.foldl fun refs v => v.collect refs)
        (collectAll_eq_foldl o.selections refs)
    | fragment f => exact collectAll_eq_foldl f.selections refs
    | _ => rfl
  | variableDefinition v =>
    obtain ⟨_, _, type, _, _⟩ := v
    cases type <;> rfl
  | selection s =>
    cases s with
    | field _ _ _ _ selections => exact collectAll_eq_foldl selections refs
    | spread fragment directives => rfl
    | inline _ _ selections => exact collectAll_eq_foldl selections refs

private theorem foldl_collect_eq {parts : List Node}
    (h : ∀ part ∈ parts, ∀ refs, part.collect refs = part.mentions.foldl Names.add refs)
    (refs : List String) : parts.foldl (fun refs part => part.collect refs) refs =
      (parts.flatMap mentions).foldl Names.add refs := by
  induction parts generalizing refs with
  | nil => rfl
  | cons part more ih =>
    have first := h part List.mem_cons_self refs
    have later := ih fun other among => h other (List.mem_cons_of_mem part among)
    rw [List.foldl_cons, first, later, List.flatMap_cons, List.foldl_append]

/-- Collecting from a node is adding what is mentioned in it, name by name. -/
theorem collect_eq_foldl (n : Node) (refs : List String) :
    n.collect refs = n.mentions.foldl Names.add refs := by
  induction n using mentions.induct generalizing refs with
  | case1 n ih => rw [collect_eq, mentions_eq, List.foldl_append, foldl_collect_eq ih]

end Node

/-! ### What is not mentioned -/

mutual

/-- A selection without all that refers to nothing. -/
def Selection.outline : Selection → Selection
  | .field _ _ _ _ selections => .field none "" [] [] (Selection.outlineAll selections)
  | .spread fragment _ => .spread fragment []
  | .inline _ _ selections => .inline none [] (Selection.outlineAll selections)

def Selection.outlineAll : List Selection → List Selection
  | [] => []
  | s :: more => s.outline :: Selection.outlineAll more

end

def VariableDefinition.outline (v : VariableDefinition) : VariableDefinition :=
  ⟨none, "", v.type, none, []⟩

def Definition.outline : Definition → Definition
  | .operation o => .operation ⟨none, .query, none,
      o.variableDefinitions.map VariableDefinition.outline, [], Selection.outlineAll o.selections⟩
  | .fragment f => .fragment ⟨none, "", "", [], Selection.outlineAll f.selections⟩
  | .typeSystem .. | .directive _ | .extension _ => .typeSystem none (.schema [] [])

namespace Node

/-- A node as it would be without arguments, directives, default values, conditions on types, the
content of type systems, and every name but those of spread fragments and of types. -/
def outline : Node → Node
  | document d => document ⟨"", d.definitions.map Definition.outline⟩
  | definition x => definition x.outline
  | variableDefinition v => variableDefinition v.outline
  | selection s => selection s.outline

theorem outlineAll_eq_map (selections : List Selection) :
    Selection.outlineAll selections = selections.map Selection.outline := by
  induction selections with
  | nil => rfl
  | cons s more ih => exact congrArg (s.outline :: ·) ih

theorem own?_outline (n : Node) : n.outline.own? = n.own? := by
  cases n with
  | document d => rfl
  | definition x => rfl
  | variableDefinition v =>
    obtain ⟨_, _, type, _, _⟩ := v
    cases type <;> rfl
  | selection s => cases s <;> rfl

theorem parts_outline (n : Node) : n.outline.parts = n.parts.map outline := by
  have selections : n.outline.selections = n.selections.map Selection.outline := by
    cases n with
    | definition x =>
      cases x with
      | operation o => exact outlineAll_eq_map o.selections
      | fragment f => exact outlineAll_eq_map f.selections
      | _ => rfl
    | selection s =>
      cases s with
      | field _ _ _ _ selections => exact outlineAll_eq_map selections
      | spread => rfl
      | inline _ _ selections => exact outlineAll_eq_map selections
    | _ => rfl
  have variables' : n.outline.variableDefinitions =
      n.variableDefinitions.map VariableDefinition.outline := by
    rcases n with _ | x | _ | _
    · rfl
    · cases x <;> rfl
    · rfl
    · rfl
  have definitions : n.outline.definitions = n.definitions.map Definition.outline := by
    cases n <;> rfl
  simp only [parts, selections, variables', definitions, List.map_append, List.map_map]
  rfl

theorem mentions_outline (n : Node) : n.outline.mentions = n.mentions := by
  induction n using mentions.induct with
  | case1 n ih =>
    have inParts : (n.parts.map outline).flatMap mentions = n.parts.flatMap mentions := by
      rw [List.flatMap_map]
      exact List.flatMap_congr ih
    rw [mentions_eq, mentions_eq, own?_outline, parts_outline, inParts]

/-- Collecting leaves the names that are known in front and puts the others behind them that are
mentioned somewhere in the node, each once and in the order of the first mentions; and nothing that
the outline leaves out has a part in it. -/
theorem collect_firstMentions (n : Node) (refs : List String) :
    (∀ result, n.collect refs = result ↔
      ∃ names, Names.FirstMentions refs n.mentions names ∧ result = refs ++ names) ∧
    ∀ other : Node, other.outline = n.outline → other.collect refs = n.collect refs := by
  constructor
  · intro result
    rw [collect_eq_foldl, Names.foldl_add_eq]
    constructor
    · rintro rfl
      exact ⟨_, Names.firstMentions_fresh refs n.mentions, rfl⟩
    · rintro ⟨names, first, rfl⟩
      rw [Names.firstMentions_iff.mp first]
  · intro other same
    have alike : other.mentions = n.mentions := by
      rw [← mentions_outline other, same, mentions_outline]
    rw [collect_eq_foldl, collect_eq_foldl, alike]

example : collect (.definition (.operation ⟨none, .query, some "Q",
      [⟨none, "v", .named "T", none, []⟩, ⟨none, "w", .list (.named "U"), none, []⟩], [],
      [.field none "x" [] [] [.spread "F" []], .spread "X" []]⟩)) ["X"] = ["X", "F", "T"] := by
  decide

end Node

end OperationDocuments
