import Mathlib
import OperationDocuments.Document.Parser

/-! # The names in a parsed document

Only letters, digits and underscores can be in a token that is a name. Whatever a parser reads, it
leaves a rest of the stream it was given, so the names it meets later are made of such characters
too, and with them the names of operations. -/
namespace OperationDocuments

/-- A text of the characters that a name may have, at least one of them. -/
def IsName (text : String) : Prop :=
  text ≠ "" ∧ ∀ c ∈ text.toList, Lexeme.isNamePart c = true

def Token.WellNamed : Token → Prop
  | .name text => IsName text
  | _ => True

/-- The name of an operation, if it has one, is a name. -/
def Definition.WellNamed : Definition → Prop
  | .operation o => ∀ name ∈ o.name, IsName name
  | _ => True

def TokenStream.WellNamed : TokenStream → Prop
  | .next t rest => t.WellNamed ∧ rest.WellNamed
  | _ => True

/-! ## Tokens -/

namespace Lexeme

variable {s rest : List Char} {c : Char} {l : Lexeme}

theorem wellNamed_number (h : number s = .ok l) : l.token.WellNamed := by
  simp only [number, bind, Except.bind] at h
  split at h <;> try contradiction
  split at h <;> try contradiction
  split at h <;> try contradiction
  split at h <;> try contradiction
  split at h <;> cases h <;> trivial

theorem wellNamed_string {value : List Char} {extra : Nat} (h : string value extra s = .ok l) :
    l.token.WellNamed := by
  fun_induction string value extra s with
  | case2 => cases h; trivial
  | case4 value extra c rest _ d width _ ih => exact ih h
  | case6 value extra c rest _ _ _ ih => exact ih h
  | _ => cases h

theorem wellNamed_blockString {raw : List Char} {extra : Nat}
    (h : blockString raw extra s = .ok l) : l.token.WellNamed := by
  fun_induction blockString raw extra s with
  | case1 => cases h; trivial
  | case2 raw extra rest ih => exact ih h
  | case3 raw extra c rest _ _ ih => exact ih h
  | case4 => cases h

theorem wellNamed_read (h : read c rest = .ok l) : l.token.WellNamed := by
  unfold read at h
  split at h
  · cases h; trivial
  split_ifs at h with start digit
  · cases h
    refine ⟨by simp [← String.toList_inj], fun d among => ?_⟩
    rw [String.toList_ofList] at among
    rcases List.mem_cons.mp among with rfl | among
    · simp [isNamePart, start]
    · exact List.mem_takeWhile_imp among
  · exact wellNamed_number h
  · split at h
    · cases h; trivial
    · exact wellNamed_blockString h
    · exact wellNamed_string h
    · cases h
    · cases h

end Lexeme

theorem TokenStream.wellNamed_ofChars (s : List Char) : (TokenStream.ofChars s).WellNamed := by
  fun_induction TokenStream.ofChars s with
  | case1 => trivial
  | case2 => trivial
  | case3 s c rest _ lexeme read ih => exact ⟨Lexeme.wellNamed_read read, ih⟩

/-! ## Parsers -/

namespace Parser

variable {α β : Type} {P : α → Prop} {Q : β → Prop} {constant : Bool} {depth : Nat}

/-- From a well-named stream this parser reads what has the property, and it leaves a well-named
rest. -/
def Gives (x : Parser α) (P : α → Prop) : Prop :=
  ∀ ⦃tokens a rest⦄, x.run tokens = .ok (a, rest) → tokens.WellNamed → P a ∧ rest.WellNamed

/-- This parser leaves a well-named rest. -/
abbrev Keeps (x : Parser α) : Prop := Gives x fun _ => True

theorem gives_pure {a : α} (h : P a) : Gives (pure a) P := by
  rintro tokens _ rest ⟨⟩ named
  exact ⟨h, named⟩

theorem keeps_pure (a : α) : Keeps (pure a : Parser α) := gives_pure trivial

theorem gives_throw (e : SyntaxError) : Gives (throw e) P := nofun

theorem gives_map {f : α → β} {x : Parser α} (hx : Gives x P) (hf : ∀ a, P a → Q (f a)) :
    Gives (f <$> x) Q := by
  intro tokens b rest h named
  rw [StateT.run_map] at h
  cases hr : x.run tokens with
  | error e => simp [hr, Functor.map, Except.map] at h
  | ok read =>
    simp only [hr, Functor.map, Except.map, Except.ok.injEq, Prod.mk.injEq] at h
    obtain ⟨rfl, rfl⟩ := h
    exact ⟨hf _ (hx hr named).1, (hx hr named).2⟩

theorem keeps_map {f : α → β} {x : Parser α} (hx : Gives x P) : Keeps (f <$> x) :=
  gives_map hx fun _ _ => trivial

theorem Gives.bind {x : Parser α} {f : α → Parser β} (hx : Gives x P)
    (hf : ∀ a, P a → Gives (f a) Q) : Gives (x >>= f) Q := by
  intro tokens b rest h named
  rw [StateT.run_bind] at h
  cases hr : x.run tokens with
  | error e => simp [hr, Bind.bind, Except.bind] at h
  | ok read =>
    obtain ⟨has, still⟩ := hx hr named
    simp only [hr, Bind.bind, Except.bind] at h
    exact hf _ has h still

theorem Gives.keeps {x : Parser α} (h : Gives x P) : Keeps x :=
  fun _ _ _ read named => ⟨trivial, (h read named).2⟩

theorem Keeps.then {x : Parser α} {f : α → Parser β} (hx : Keeps x) (hf : ∀ a, Gives (f a) Q) :
    Gives (x >>= f) Q :=
  hx.bind fun a _ => hf a

theorem gives_throw_bind (e : SyntaxError) (f : α → Parser β) : Gives (throw e >>= f) Q :=
  Gives.bind (P := fun _ => False) (gives_throw e) fun _ none => none.elim

theorem eq_of_stepOnto {tokens rest : TokenStream} (h : stepOnto tokens = .ok rest) :
    rest = tokens := by
  unfold stepOnto at h
  split at h <;> cases h
  rfl

theorem gives_current : Gives current Token.WellNamed := by
  intro tokens t rest h named
  unfold current at h
  cases tokens with
  | next token more =>
    cases h
    exact ⟨named.1, named⟩
  | ending =>
    cases h
    exact ⟨trivial, named⟩
  | broken e => cases h

theorem keeps_advance : Keeps advance := by
  intro tokens _ rest h named
  unfold advance at h
  cases tokens with
  | next token more =>
    cases hs : stepOnto more with
    | error e => simp [StateT.run, hs, Bind.bind, Except.bind] at h
    | ok after =>
      obtain rfl := eq_of_stepOnto hs
      simp only [StateT.run, hs, Bind.bind, Except.bind, Pure.pure, Except.pure, Except.ok.injEq,
        Prod.mk.injEq] at h
      obtain ⟨-, rfl⟩ := h
      exact ⟨trivial, named.2⟩
  | ending =>
    cases h
    exact ⟨trivial, named⟩
  | broken e => cases h

theorem keeps_lookahead : Keeps lookahead := by
  intro tokens t rest h named
  unfold lookahead at h
  simp only [StateT.run] at h
  split at h <;> cases h
  · exact ⟨trivial, named⟩
  · exact ⟨trivial, named⟩
  · exact ⟨trivial, named⟩

theorem gives_unexpected : Gives (unexpected : Parser α) P :=
  gives_current.bind fun _ _ => gives_throw _

theorem keeps_unexpected : Keeps (unexpected : Parser α) := gives_unexpected

theorem gives_expected (wanted : Expectation) : Gives (expected wanted : Parser α) P :=
  gives_current.bind fun _ _ => gives_throw _

theorem keeps_get : Keeps (get : Parser TokenStream) := by
  rintro tokens _ _ ⟨⟩ named
  exact ⟨trivial, named⟩

theorem keeps_peekPunctuator (p : Punctuator) : Keeps (peekPunctuator p) :=
  gives_current.bind fun _ _ => keeps_pure _

theorem keeps_peekName : Keeps peekName := by
  refine gives_current.bind fun t _ => ?_
  split
  · exact keeps_pure _
  · exact keeps_pure _

theorem keeps_skipPunctuator (p : Punctuator) : Keeps (skipPunctuator p) := by
  refine (keeps_peekPunctuator p).then fun there => ?_
  split
  · exact keeps_advance.then fun _ => keeps_pure _
  · exact keeps_pure _

theorem keeps_punctuator (p : Punctuator) : Keeps (punctuator p) := by
  refine (keeps_skipPunctuator p).then fun there => ?_
  split
  · exact keeps_pure _
  · exact gives_expected _

theorem keeps_skipKeyword (word : String) : Keeps (skipKeyword word) := by
  refine gives_current.bind fun t _ => ?_
  split
  · exact keeps_advance.then fun _ => keeps_pure _
  · exact keeps_pure _

theorem keeps_keyword (word : String) : Keeps (keyword word) := by
  refine (keeps_skipKeyword word).then fun there => ?_
  split
  · exact keeps_pure _
  · exact gives_expected _

theorem gives_name : Gives name IsName := by
  refine gives_current.bind fun t named => ?_
  split
  · exact keeps_advance.then fun _ => gives_pure named
  · exact gives_expected _

theorem gives_name? : Gives name? fun label => ∀ text ∈ label, IsName text := by
  refine keeps_peekName.then fun there => ?_
  split
  · exact gives_name.bind fun text named => gives_pure (by simpa using named)
  · exact gives_pure nofun

theorem keeps_name : Keeps name := gives_name.keeps

/-! ### Repetitions -/

section Repetition

variable {item : Parser α} {opening close delimiter start : Punctuator}

theorem keeps_itemsUntil (h : Keeps item) (left : Nat) : Keeps (itemsUntil close item left) := by
  induction left with
  | zero => exact gives_unexpected
  | succ left ih =>
    refine (keeps_skipPunctuator close).then fun closed => ?_
    split
    · exact keeps_pure _
    · exact h.then fun _ => ih.then fun _ => keeps_pure _

theorem keeps_any (h : Keeps item) : Keeps (any opening close item) :=
  (keeps_punctuator opening).then fun _ => keeps_get.then fun _ => keeps_itemsUntil h _

theorem keeps_many (h : Keeps item) : Keeps (many opening close item) :=
  (keeps_punctuator opening).then fun _ => h.then fun _ => keeps_get.then fun _ =>
    (keeps_itemsUntil h _).then fun _ => keeps_pure _

theorem keeps_optionalMany (h : Keeps item) : Keeps (optionalMany opening close item) := by
  refine (keeps_peekPunctuator opening).then fun there => ?_
  split
  · exact keeps_many h
  · exact keeps_pure _

theorem keeps_itemsBetween (h : Keeps item) (left : Nat) :
    Keeps (itemsBetween delimiter item left) := by
  induction left with
  | zero => exact gives_unexpected
  | succ left ih =>
    refine h.then fun _ => (keeps_skipPunctuator delimiter).then fun there => ?_
    split
    · exact ih.then fun _ => keeps_pure _
    · exact keeps_pure _

theorem keeps_delimited (h : Keeps item) : Keeps (delimited delimiter item) :=
  (keeps_skipPunctuator delimiter).then fun _ => keeps_get.then fun _ => keeps_itemsBetween h _

theorem keeps_itemsWhile (h : Keeps item) (left : Nat) : Keeps (itemsWhile start item left) := by
  induction left with
  | zero => exact keeps_pure _
  | succ left ih =>
    refine (keeps_peekPunctuator start).then fun there => ?_
    split
    · exact h.then fun _ => ih.then fun _ => keeps_pure _
    · exact keeps_pure _

theorem keeps_manyFrom (h : Keeps item) : Keeps (manyFrom start item) :=
  keeps_get.then fun _ => keeps_itemsWhile h _

theorem gives_itemsToEnd (h : Gives item P) (left : Nat) :
    Gives (itemsToEnd item left) fun items => ∀ a ∈ items, P a := by
  induction left with
  | zero => exact gives_unexpected
  | succ left ih =>
    refine gives_current.bind fun t _ => ?_
    split
    · exact gives_pure nofun
    · exact h.bind fun a ha => ih.bind fun items hi =>
        gives_pure (List.forall_mem_cons.mpr ⟨ha, hi⟩)

theorem gives_manyToEnd (h : Gives item P) :
    Gives (manyToEnd item) fun items => ∀ a ∈ items, P a :=
  h.bind fun _ ha => keeps_get.then fun _ => (gives_itemsToEnd h _).bind fun _ hi =>
    gives_pure (List.forall_mem_cons.mpr ⟨ha, hi⟩)

theorem gives_manyToEnd_ne_nil (h : Keeps item) : Gives (manyToEnd item) (· ≠ []) :=
  h.then fun first => keeps_get.then fun _ => (gives_itemsToEnd h _).keeps.then fun more =>
    gives_pure (List.cons_ne_nil first more)

end Repetition

/-! ### Operations and fragments -/

theorem keeps_quoted? : Keeps quoted? := by
  refine gives_current.bind fun t _ => ?_
  split
  · exact keeps_advance.then fun _ => keeps_pure _
  · exact keeps_advance.then fun _ => keeps_pure _
  · exact keeps_pure _

theorem keeps_variableInConstant : Keeps variableInConstant := by
  refine gives_current.bind fun dollar _ => keeps_advance.then fun _ =>
    gives_current.bind fun t _ => ?_
  split
  · exact gives_throw _
  · exact gives_throw _

theorem keeps_leafValue (constant : Bool) : Keeps (leafValue constant) := by
  refine gives_current.bind fun t _ => ?_
  split
  case h_6 =>
    split
    · exact keeps_variableInConstant
    · exact keeps_advance.then fun _ => keeps_name.then fun _ => keeps_pure _
  case h_7 => exact gives_unexpected
  all_goals exact keeps_advance.then fun _ => keeps_pure _

theorem keeps_value (constant : Bool) (depth : Nat) : Keeps (value constant depth) := by
  induction depth with
  | zero =>
    refine gives_current.bind fun t _ => ?_
    split
    · exact gives_throw _
    · exact gives_throw _
    · exact keeps_leafValue constant
  | succ depth ih =>
    refine gives_current.bind fun t _ => ?_
    split
    · exact (keeps_any ih).then fun _ => keeps_pure _
    · refine (keeps_any ?_).then fun _ => keeps_pure _
      exact keeps_name.then fun _ => (keeps_punctuator _).then fun _ => ih.then fun _ =>
        keeps_pure _
    · exact keeps_leafValue constant

theorem keeps_argument (constant : Bool) (depth : Nat) : Keeps (argument constant depth) :=
  keeps_name.then fun _ => (keeps_punctuator _).then fun _ => (keeps_value constant depth).then
    fun _ => keeps_pure _

theorem keeps_arguments (constant : Bool) (depth : Nat) : Keeps (arguments constant depth) :=
  keeps_optionalMany (keeps_argument constant depth)

theorem keeps_directive (constant : Bool) (depth : Nat) : Keeps (directive constant depth) :=
  (keeps_punctuator _).then fun _ => keeps_name.then fun _ =>
    (keeps_arguments constant depth).then fun _ => keeps_pure _

theorem keeps_directives (constant : Bool) (depth : Nat) : Keeps (directives constant depth) :=
  keeps_manyFrom (keeps_directive constant depth)

theorem keeps_marked (inner : TypeRef) : Keeps (marked inner) := by
  refine (keeps_skipPunctuator .bang).then fun there => ?_
  split
  · exact keeps_pure _
  · exact keeps_pure _

theorem keeps_typeRef (depth : Nat) : Keeps (typeRef depth) := by
  induction depth with
  | zero =>
    refine gives_current.bind fun t _ => ?_
    split
    · exact keeps_advance.then fun _ => gives_throw _
    · exact keeps_name.then fun _ => keeps_marked _
  | succ depth ih =>
    refine gives_current.bind fun t _ => ?_
    split
    · exact keeps_advance.then fun _ => ih.then fun _ => (keeps_punctuator _).then fun _ =>
        keeps_marked _
    · exact keeps_name.then fun _ => keeps_marked _

theorem keeps_field {nested : Parser (List Selection)} (h : Keeps nested) :
    Keeps (field depth nested) := by
  refine keeps_name.then fun first => (keeps_skipPunctuator _).then fun aliased => ?_
  extract_lets rest
  have keeps_rest : ∀ names, Keeps (rest names) := by
    rintro ⟨label, target⟩
    refine (keeps_arguments false depth).then fun args => (keeps_directives false depth).then
      fun dirs => (keeps_peekPunctuator _).then fun there => ?_
    split
    · exact h.then fun _ => keeps_pure _
    · exact (keeps_pure _).then fun _ => keeps_pure _
  split
  · exact keeps_name.then fun _ => (keeps_pure _).then keeps_rest
  · exact (keeps_pure _).then keeps_rest

theorem keeps_spreadOrInline {nested : Parser (List Selection)} (h : Keeps nested) :
    Keeps (spreadOrInline depth nested) := by
  refine (keeps_punctuator _).then fun _ => (keeps_skipKeyword _).then fun conditional => ?_
  extract_lets inline
  have keeps_inline : ∀ condition, Keeps (inline condition) := fun _ =>
    (keeps_directives false depth).then fun _ => h.then fun _ => keeps_pure _
  refine keeps_peekName.then fun there => ?_
  split
  · exact keeps_name.then fun _ => (keeps_directives false depth).then fun _ => keeps_pure _
  split
  · exact (keeps_map gives_name).then keeps_inline
  · exact (keeps_pure _).then keeps_inline

theorem keeps_selectionSet (depth : Nat) : Keeps (selectionSet depth) := by
  induction depth with
  | zero => exact gives_throw _
  | succ depth ih =>
    refine keeps_many ((keeps_peekPunctuator _).then fun there => ?_)
    split
    · exact keeps_spreadOrInline ih
    · exact keeps_field ih

theorem keeps_operationKind : Keeps operationKind := by
  refine gives_current.bind fun t _ => keeps_name.then fun word => ?_
  split
  · exact keeps_pure _
  · exact keeps_pure _
  · exact keeps_pure _
  · exact gives_throw _

theorem keeps_variableDefinition : Keeps variableDefinition := by
  refine keeps_quoted?.then fun _ => (keeps_punctuator _).then fun _ => keeps_name.then fun _ =>
    (keeps_punctuator _).then fun _ => (keeps_typeRef _).then fun _ =>
      (keeps_skipPunctuator _).then fun there => ?_
  extract_lets rest
  have keeps_rest : ∀ default, Keeps (rest default) := fun _ =>
    (keeps_directives true depthLimit).then fun _ => keeps_pure _
  split
  · exact (keeps_map (keeps_value true depthLimit)).then keeps_rest
  · exact (keeps_pure _).then keeps_rest

theorem gives_operation : Gives operation fun o => ∀ name ∈ o.name, IsName name := by
  refine (keeps_peekPunctuator _).then fun there => ?_
  split
  · exact (keeps_selectionSet _).then fun _ => gives_pure nofun
  · refine keeps_quoted?.then fun _ => keeps_operationKind.then fun _ =>
      gives_name?.bind fun label named => ?_
    exact (keeps_optionalMany keeps_variableDefinition).then fun _ =>
      (keeps_directives _ _).then fun _ => (keeps_selectionSet _).then fun _ => gives_pure named

theorem keeps_fragment : Keeps fragment := by
  refine keeps_quoted?.then fun _ => (keeps_keyword _).then fun _ =>
    gives_current.bind fun t _ => ?_
  extract_lets rest
  have keeps_rest : ∀ u, Keeps (rest u) := fun _ =>
    keeps_name.then fun _ => (keeps_keyword _).then fun _ => keeps_name.then fun _ =>
      (keeps_directives _ _).then fun _ => (keeps_selectionSet _).then fun _ => keeps_pure _
  split
  · exact keeps_unexpected.then keeps_rest
  · exact keeps_rest ()

/-! ### Type system definitions -/

theorem keeps_constDirectives : Keeps constDirectives := keeps_directives true depthLimit

theorem keeps_inputDefinition : Keeps inputDefinition := by
  refine keeps_quoted?.then fun _ => keeps_name.then fun _ => (keeps_punctuator _).then fun _ =>
    (keeps_typeRef _).then fun _ => (keeps_skipPunctuator _).then fun there => ?_
  extract_lets rest
  have keeps_rest : ∀ default, Keeps (rest default) := fun _ =>
    keeps_constDirectives.then fun _ => keeps_pure _
  split
  · exact (keeps_map (keeps_value true depthLimit)).then keeps_rest
  · exact (keeps_pure _).then keeps_rest

theorem keeps_argumentDefinitions : Keeps argumentDefinitions :=
  keeps_optionalMany keeps_inputDefinition

theorem keeps_fieldDefinition : Keeps fieldDefinition :=
  keeps_quoted?.then fun _ => keeps_name.then fun _ => keeps_argumentDefinitions.then fun _ =>
    (keeps_punctuator _).then fun _ => (keeps_typeRef _).then fun _ =>
      keeps_constDirectives.then fun _ => keeps_pure _

theorem keeps_enumValue : Keeps enumValue := by
  refine keeps_quoted?.then fun _ => gives_current.bind fun t _ => ?_
  extract_lets rest
  have keeps_rest : ∀ u, Keeps (rest u) := fun _ =>
    keeps_name.then fun _ => keeps_constDirectives.then fun _ => keeps_pure _
  split
  · exact Keeps.then (gives_throw _) keeps_rest
  · exact keeps_rest ()

theorem keeps_interfaces : Keeps interfaces := by
  refine (keeps_skipKeyword _).then fun there => ?_
  split
  · exact keeps_delimited keeps_name
  · exact keeps_pure _

theorem keeps_rootType : Keeps rootType :=
  keeps_operationKind.then fun _ => (keeps_punctuator _).then fun _ => keeps_name.then fun _ =>
    keeps_pure _

theorem keeps_fields : Keeps fields := keeps_optionalMany keeps_fieldDefinition

theorem keeps_typeBody (extending : Bool) : Keeps (typeBody extending) := by
  refine gives_current.bind fun t _ => keeps_name.then fun word => ?_
  split
  case h_1 =>
    refine keeps_constDirectives.then fun dirs => ?_
    split
    · exact (keeps_optionalMany keeps_rootType).then fun _ => keeps_pure _
    · exact (keeps_many keeps_rootType).then fun _ => keeps_pure _
  case h_2 => exact keeps_name.then fun _ => keeps_constDirectives.then fun _ => keeps_pure _
  case h_3 | h_4 =>
    exact keeps_name.then fun _ => keeps_interfaces.then fun _ => keeps_constDirectives.then
      fun _ => keeps_fields.then fun _ => keeps_pure _
  case h_5 =>
    refine keeps_name.then fun _ => keeps_constDirectives.then fun dirs =>
      (keeps_skipPunctuator _).then fun there => ?_
    split
    · exact (keeps_delimited keeps_name).then fun _ => keeps_pure _
    · exact (keeps_pure _).then fun _ => keeps_pure _
  case h_6 =>
    exact keeps_name.then fun _ => keeps_constDirectives.then fun _ =>
      (keeps_optionalMany keeps_enumValue).then fun _ => keeps_pure _
  case h_7 =>
    exact keeps_name.then fun _ => keeps_constDirectives.then fun _ =>
      (keeps_optionalMany keeps_inputDefinition).then fun _ => keeps_pure _
  case h_8 => exact gives_throw _

theorem keeps_directiveLocation : Keeps directiveLocation := by
  refine gives_current.bind fun t _ => keeps_name.then fun location => ?_
  split
  · exact keeps_pure _
  · exact Keeps.then (gives_throw _) fun _ => keeps_pure _

theorem keeps_directiveDefinition : Keeps directiveDefinition :=
  keeps_quoted?.then fun _ => (keeps_keyword _).then fun _ => (keeps_punctuator _).then fun _ =>
    keeps_name.then fun _ => keeps_argumentDefinitions.then fun _ => (keeps_skipKeyword _).then
      fun _ => (keeps_keyword _).then fun _ => (keeps_delimited keeps_directiveLocation).then
        fun _ => keeps_pure _

theorem keeps_extension : Keeps extension := by
  refine keeps_lookahead.then fun t => ?_
  split
  · split
    · refine (keeps_keyword _).then fun _ => (keeps_typeBody true).then fun body => ?_
      split
      · exact keeps_unexpected.then fun _ => keeps_pure _
      · exact keeps_pure _
    · exact gives_throw _
  · exact gives_throw _

/-! ### Documents -/

theorem gives_definitionAt {word : String} {body : Parser Definition}
    (h : definitionAt word = some body) : Gives body Definition.WellNamed := by
  unfold definitionAt at h
  split at h
  · cases h
    exact keeps_quoted?.then fun _ => (keeps_typeBody false).then fun _ => gives_pure trivial
  split at h <;> cases h
  · exact gives_map keeps_directiveDefinition fun _ _ => trivial
  · exact gives_map gives_operation fun _ named => named
  · exact gives_map gives_operation fun _ named => named
  · exact gives_map gives_operation fun _ named => named
  · exact gives_map keeps_fragment fun _ _ => trivial

theorem gives_definitionFrom (described : Bool) (token : Token) :
    Gives (definitionFrom described token) Definition.WellNamed := by
  unfold definitionFrom
  split
  · split
    · exact gives_throw_bind _ _
    · exact gives_operation.bind fun _ named => gives_pure named
  · split
    · exact gives_definitionAt ‹_›
    · extract_lets rest
      have gives_rest : ∀ u, Gives (rest u) Definition.WellNamed := by
        intro u
        dsimp only [rest]
        split
        · exact keeps_extension.then fun _ => gives_pure trivial
        · exact gives_throw _
      split
      · exact gives_throw_bind _ _
      · exact gives_rest ()
  · exact gives_throw _

theorem gives_definition : Gives definition Definition.WellNamed := by
  refine gives_current.bind fun t _ => ?_
  split
  · exact keeps_lookahead.then fun _ => gives_definitionFrom _ _
  · exact keeps_lookahead.then fun _ => gives_definitionFrom _ _
  · exact gives_definitionFrom _ _

theorem gives_definitions : Gives definitions fun ds => ∀ x ∈ ds, x.WellNamed :=
  gives_manyToEnd gives_definition

end Parser

/-- What holds of any definitions that are read holds of those of a document. -/
theorem Document.definitions_of_parse {text : String} {source : Option String} {d : Document}
    {P : List Definition → Prop} (gives : Parser.Gives Parser.definitions P)
    (h : Document.parse text source = .ok d) : P d.definitions := by
  unfold Document.parse at h
  cases begun : Parser.stepOnto (TokenStream.ofChars text.toList) with
  | error e => simp [begun, bind, Except.bind] at h
  | ok tokens =>
    cases read : Parser.definitions.run tokens with
    | error e => simp [begun, read, bind, Except.bind] at h
    | ok found =>
      simp only [begun, read, bind, Except.bind, pure, Except.pure, Except.ok.injEq] at h
      subst h
      rw [Parser.eq_of_stepOnto begun] at read
      exact (gives read (TokenStream.wellNamed_ofChars _)).1

/-- Operations of a parsed document are named as the grammar has it. -/
theorem Document.wellNamed_of_parse {text : String} {source : Option String} {d : Document}
    (h : Document.parse text source = .ok d) : ∀ x ∈ d.definitions, x.WellNamed :=
  definitions_of_parse Parser.gives_definitions h

theorem Document.definitions_ne_nil_of_parse {text : String} {source : Option String}
    {d : Document} (h : Document.parse text source = .ok d) : d.definitions ≠ [] :=
  definitions_of_parse (Parser.gives_manyToEnd_ne_nil Parser.gives_definition.keeps) h

end OperationDocuments
