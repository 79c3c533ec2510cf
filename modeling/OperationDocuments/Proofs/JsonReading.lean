import Mathlib
import OperationDocuments.Proofs.JsonTokens

/-! # Reading JSON

The reader and the grammar agree. What is read is JSON of that value, by induction on the calls that
are left; and JSON is read as its value, by recursion on its derivation, unless it has too long an
integer or too many containers within each other. -/
namespace OperationDocuments.Json

namespace Parser

variable {t b s rest after : WideText} {n : Numeral} {j : Json} {c : CodePoint} {left depth : Nat}

/-! ## Words and numbers -/

theorem scalar_of_word (h : (t, j) ∈ wordsOfJson) : scalar (t ++ rest) = .ok (j, rest) := by
  simp only [wordsOfJson, List.mem_cons, List.not_mem_nil, or_false, Prod.mk.injEq] at h
  rcases h with ⟨rfl, rfl⟩ | ⟨rfl, rfl⟩ | ⟨rfl, rfl⟩ | ⟨rfl, rfl⟩ | ⟨rfl, rfl⟩ | ⟨rfl, rfl⟩ <;> rfl

theorem exists_word_start {entry : WideText × Json} (h : entry ∈ wordsOfJson) :
    ∃ c d more, entry.1 = .char c :: .char d :: more ∧ isDecimal c = false ∧
      (c = '-' → isDecimal d = false) := by
  simp only [wordsOfJson, List.mem_cons, List.not_mem_nil, or_false] at h
  rcases h with rfl | rfl | rfl | rfl | rfl | rfl <;>
    exact ⟨_, _, _, rfl, by decide, by decide⟩

theorem not_word_of_isSound (sound : n.IsSound) {entry : WideText × Json}
    (word : entry ∈ wordsOfJson) : ¬entry.1 <+: n.text.map CodePoint.char ++ rest := by
  intro front
  obtain ⟨c, d, more, starts, letter, behind⟩ := exists_word_start word
  obtain ⟨first, whole, eq⟩ := List.exists_cons_of_ne_nil sound.whole_ne_nil
  have digit : isDecimal first = true := sound.whole first (eq ▸ List.mem_cons_self)
  rw [starts] at front
  unfold Numeral.text Numeral.signText at front
  cases negative : n.negative with
  | true =>
    simp only [negative, if_true, eq, List.cons_append, List.nil_append, List.map_cons,
      List.cons_prefix_cons, CodePoint.char.injEq] at front
    obtain ⟨minus, rfl, -⟩ := front
    exact Bool.false_ne_true ((behind minus).symm.trans digit)
  | false =>
    simp only [negative, Bool.false_eq_true, if_false, eq, List.cons_append, List.nil_append,
      List.map_cons, List.cons_prefix_cons, CodePoint.char.injEq] at front
    obtain ⟨rfl, -⟩ := front
    exact Bool.false_ne_true (letter.symm.trans digit)

theorem scalar_of_isSound (sound : n.IsSound) :
    scalar (n.text.map .char ++ rest) = number (n.text.map .char ++ rest) := by
  have none : wordsOfJson.find? (fun entry => entry.1.isPrefixOf (n.text.map .char ++ rest)) =
      none := by
    rw [List.find?_eq_none]
    intro entry among
    rw [List.isPrefixOf_iff_prefix]
    exact not_word_of_isSound sound among
  rw [scalar, none]

theorem scalar_cases (h : scalar s = .ok (j, rest)) :
    (∃ t, (t, j) ∈ wordsOfJson ∧ s = t ++ rest) ∨ number s = .ok (j, rest) := by
  unfold scalar at h
  split at h
  next word value found =>
    cases h
    have front : word <+: s := 
      List.isPrefixOf_iff_prefix.mp (by simpa using List.find?_some found)
    exact .inl ⟨word, List.mem_of_find?_eq_some found, (List.prefix_iff_eq_append.mp front).symm⟩
  · exact .inr h

/-! ## Values -/

/-- Why a text that may be JSON is not read: there is too much of it. -/
inductive Fault.IsLimit : Fault → Prop where
  | tooManyDigits (count : Nat) : IsLimit (.tooManyDigits count)
  | tooDeep (container : Container) : IsLimit (.tooDeep container)

/-- A text is read as this value, or there is too much of it. -/
def ReadsAs (read : Except Fault (Read Json)) (j : Json) (rest : WideText) : Prop :=
  read = .ok (j, rest) ∨ ∃ e : Fault, e.IsLimit ∧ read = .error e

theorem ok_bind {α β : Type} (a : α) (f : α → Except Fault β) : (Except.ok a >>= f) = f a := rfl

theorem ReadsAs.bind {read : Except Fault (Read Json)} {f : Read Json → Except Fault (Read Json)}
    {k : Json} (h : ReadsAs read j rest) (then' : ReadsAs (f (j, rest)) k after) :
    ReadsAs (read >>= f) k after := by
  obtain rfl | ⟨e, limit, rfl⟩ := h
  · exact then'
  · exact .inr ⟨e, limit, rfl⟩

def Starts (c : CodePoint) : Prop :=
  isSpace c = false ∧ c ≠ .char ']' ∧ c ≠ .char '\uFEFF'

instance (c : CodePoint) : Decidable (Starts c) := inferInstanceAs (Decidable (_ ∧ _ ∧ _))

theorem starts_of_isDecimal {c : Char} (h : isDecimal c = true) : Starts (.char c) := by
  refine ⟨?_, ?_, ?_⟩
  · rw [← Bool.not_eq_true]
    intro space
    simp only [isSpace, Bool.or_eq_true, beq_iff_eq, CodePoint.char.injEq] at space
    rcases space with ((rfl | rfl) | rfl) | rfl <;> exact absurd h (by decide)
  · rintro ⟨⟩
    exact absurd h (by decide)
  · rintro ⟨⟩
    exact absurd h (by decide)

theorem exists_start (h : Spells t j) : ∃ c u, t = c :: u ∧ Starts c := by
  cases h with
  | word word =>
    simp only [wordsOfJson, List.mem_cons, List.not_mem_nil, or_false, Prod.mk.injEq] at word
    rcases word with ⟨rfl, -⟩ | ⟨rfl, -⟩ | ⟨rfl, -⟩ | ⟨rfl, -⟩ | ⟨rfl, -⟩ | ⟨rfl, -⟩ <;>
      exact ⟨_, _, rfl, by decide⟩
  | number n sound =>
    obtain ⟨first, whole, eq⟩ := List.exists_cons_of_ne_nil sound.whole_ne_nil
    have digit := starts_of_isDecimal (sound.whole first (eq ▸ List.mem_cons_self))
    unfold Numeral.text Numeral.signText
    cases n.negative with
    | true => exact ⟨_, _, rfl, by decide⟩
    | false =>
      rw [eq]
      exact ⟨_, _, rfl, digit⟩
  | _ => exact ⟨_, _, rfl, by decide⟩

theorem value_scalar (h : ∀ c ∈ s.head?, c ≠ .char '"' ∧ c ≠ .char '[' ∧ c ≠ .char '{') :
    value (left + 1) depth s = scalar s := by
  unfold value
  split <;> simp_all

theorem skipSpace_start (isBlank : IsBlank b) (starts : Starts c) :
    skipSpace (b ++ c :: rest) = c :: rest :=
  skipSpace_append isBlank (by rintro _ ⟨⟩; exact starts.1)

theorem isSpace_of_mem (isBlank : IsBlank b) {d : Char} (h : b.head? = some (.char d)) :
    isSpace (.char d) = true := by
  cases b with
  | nil => cases h
  | cons c b =>
    cases h
    exact isBlank _ List.mem_cons_self

theorem not_inNumbers_of_isSpace {d : Char} (h : isSpace (.char d) = true) : ¬InNumbers d := by
  simp only [isSpace, Bool.or_eq_true, beq_iff_eq, CodePoint.char.injEq] at h
  rcases h with ((rfl | rfl) | rfl) | rfl <;> decide

theorem endsNumber_blank (isBlank : IsBlank b) : EndsNumber b :=
  fun _ first => not_inNumbers_of_isSpace (isSpace_of_mem isBlank first)

/-- A number ends before blanks with a mark behind them that it cannot have. -/
theorem endsNumber_mark (isBlank : IsBlank b) {mark : Char} (h : ¬InNumbers mark) :
    EndsNumber (b ++ .char mark :: rest) := by
  intro d first
  cases b with
  | nil =>
    cases first
    exact h
  | cons c b => exact endsNumber_blank isBlank d first

def membersBehind (left depth : Nat) (done : Assoc WideText Json) (s : WideText) :
    Except Fault (Read Json) :=
  match skipSpace s with
  | .char '}' :: rest => .ok (.object done, rest)
  | .char ',' :: rest => members left depth done (skipSpace rest)
  | rest => fail .expectedComma rest

theorem value_string {text value' : WideText} (contents : Contents text value') :
    value (left + 1) depth (.char '"' :: (text ++ .char '"' :: rest)) = .ok (.text value', rest) := by
  have read : string (.char '"' :: (text ++ .char '"' :: rest)) []
      ((text ++ .char '"' :: rest).length + 1) (text ++ .char '"' :: rest) = .ok (value', rest) :=
    string_of_contents contents (by rw [List.length_append]; omega)
  unfold value
  simp only [read]
  rfl

theorem value_noItems (isBlank : IsBlank b) :
    value (left + 1) (depth + 1) (.char '[' :: (b ++ .char ']' :: rest)) = .ok (.array [], rest) := by
  have skipped : skipSpace (b ++ .char ']' :: rest) = .char ']' :: rest :=
    skipSpace_append isBlank (by rintro _ ⟨⟩; rfl)
  unfold value
  simp only [skipped]

theorem value_items (isBlank : IsBlank b) (starts : Starts c) :
    value (left + 1) (depth + 1) (.char '[' :: (b ++ c :: s)) = items left depth [] (c :: s) := by
  conv_lhs => unfold value
  simp only [skipSpace_start isBlank starts]
  split
  next same => exact absurd (List.cons.inj same).1 starts.2.1
  · rfl

theorem value_noMembers (isBlank : IsBlank b) :
    value (left + 1) (depth + 1) (.char '{' :: (b ++ .char '}' :: rest)) =
      .ok (.object [], rest) := by
  have skipped : skipSpace (b ++ .char '}' :: rest) = .char '}' :: rest :=
    skipSpace_append isBlank (by rintro _ ⟨⟩; rfl)
  unfold value
  simp only [skipped]

theorem value_members (isBlank : IsBlank b) :
    value (left + 1) (depth + 1) (.char '{' :: (b ++ .char '"' :: s)) =
      members left depth [] (.char '"' :: s) := by
  conv_lhs => unfold value
  simp only [skipSpace_start isBlank (by decide : Starts (.char '"'))]
  rfl

theorem value_tooDeep : value (left + 1) 0 (.char '[' :: s) = .error (.tooDeep .array) ∧
    value (left + 1) 0 (.char '{' :: s) = .error (.tooDeep .object) := by
  constructor <;> unfold value <;> rfl

theorem items_last {done : List Json} (item : ReadsAs (value left depth s) j (b ++ .char ']' :: rest))
    (isBlank : IsBlank b) :
    ReadsAs (items (left + 1) depth done s) (.array (done.reverse ++ [j])) rest := by
  have skipped : skipSpace (b ++ .char ']' :: rest) = .char ']' :: rest :=
    skipSpace_append isBlank (by rintro _ ⟨⟩; rfl)
  unfold items
  refine item.bind (.inl ?_)
  simp only [skipped, List.reverse_cons]
  rfl

theorem items_cons {done : List Json} {k : Json} {blank : WideText}
    (item : ReadsAs (value left depth s) j (b ++ .char ',' :: (blank ++ c :: t)))
    (isBlank : IsBlank b) (isBlank' : IsBlank blank) (starts : Starts c)
    (others : ReadsAs (items left depth (j :: done) (c :: t)) k rest) :
    ReadsAs (items (left + 1) depth done s) k rest := by
  have skipped : skipSpace (b ++ .char ',' :: (blank ++ c :: t)) =
      .char ',' :: (blank ++ c :: t) := skipSpace_append isBlank (by rintro _ ⟨⟩; rfl)
  unfold items
  refine item.bind ?_
  simp only [skipped, skipSpace_start isBlank' starts]
  exact others

theorem members_member {done : Assoc WideText Json} {k : Json} {key name blank behind : WideText}
    (named : Contents key name) (isBlank : IsBlank b) (isBlank' : IsBlank blank) (starts : Starts c)
    (item : ReadsAs (value left depth (c :: t)) j behind)
    (others : ReadsAs (membersBehind left depth (done.insert name j) behind) k rest) :
    ReadsAs (members (left + 1) depth done
      (.char '"' :: (key ++ .char '"' :: (b ++ .char ':' :: (blank ++ c :: t))))) k rest := by
  have read : string (.char '"' :: (key ++ .char '"' :: (b ++ .char ':' :: (blank ++ c :: t)))) []
      ((key ++ .char '"' :: (b ++ .char ':' :: (blank ++ c :: t))).length + 1)
      (key ++ .char '"' :: (b ++ .char ':' :: (blank ++ c :: t))) =
        .ok (name, b ++ .char ':' :: (blank ++ c :: t)) :=
    string_of_contents named (by rw [List.length_append]; omega)
  have skipped : skipSpace (b ++ .char ':' :: (blank ++ c :: t)) =
      .char ':' :: (blank ++ c :: t) := skipSpace_append isBlank (by rintro _ ⟨⟩; rfl)
  unfold members
  simp only [read, ok_bind, skipped, skipSpace_start isBlank' starts]
  exact item.bind others

theorem membersBehind_last {done : Assoc WideText Json} (isBlank : IsBlank b) :
    membersBehind left depth done (b ++ .char '}' :: rest) = .ok (.object done, rest) := by
  have skipped : skipSpace (b ++ .char '}' :: rest) = .char '}' :: rest :=
    skipSpace_append isBlank (by rintro _ ⟨⟩; rfl)
  unfold membersBehind
  simp only [skipped]

theorem membersBehind_cons {done : Assoc WideText Json} {blank : WideText} (isBlank : IsBlank b)
    (isBlank' : IsBlank blank) (starts : Starts c) :
    membersBehind left depth done (b ++ .char ',' :: (blank ++ c :: t)) =
      members left depth done (c :: t) := by
  have skipped : skipSpace (b ++ .char ',' :: (blank ++ c :: t)) =
      .char ',' :: (blank ++ c :: t) := skipSpace_append isBlank (by rintro _ ⟨⟩; rfl)
  unfold membersBehind
  simp only [skipped, skipSpace_start isBlank' starts]

theorem exists_start_items {js : List Json} (h : SpellsItems t js) :
    ∃ c u, t = c :: u ∧ Starts c := by
  cases h with
  | last item =>
    obtain ⟨c, u, rfl, starts⟩ := exists_start item
    exact ⟨c, _, rfl, starts⟩
  | cons item =>
    obtain ⟨c, u, rfl, starts⟩ := exists_start item
    exact ⟨c, _, rfl, starts⟩

theorem exists_start_members {entries : List (WideText × Json)} (h : SpellsMembers t entries) :
    ∃ u, t = .char '"' :: u := by
  cases h with
  | last member =>
    cases member
    exact ⟨_, rfl⟩
  | cons member =>
    cases member
    exact ⟨_, rfl⟩

theorem value_of_word (h : (t, j) ∈ wordsOfJson) :
    value (left + 1) depth (t ++ rest) = .ok (j, rest) := by
  rw [← scalar_of_word h]
  refine value_scalar ?_
  simp only [wordsOfJson, List.mem_cons, List.not_mem_nil, or_false, Prod.mk.injEq] at h
  rcases h with ⟨rfl, rfl⟩ | ⟨rfl, rfl⟩ | ⟨rfl, rfl⟩ | ⟨rfl, rfl⟩ | ⟨rfl, rfl⟩ | ⟨rfl, rfl⟩ <;>
    · rintro _ ⟨⟩
      decide

theorem value_of_isSound (sound : n.IsSound) (ends : EndsNumber rest) :
    ReadsAs (value (left + 1) depth (n.text.map .char ++ rest)) n.value rest := by
  have opened : ∀ c ∈ (n.text.map CodePoint.char ++ rest).head?,
      c ≠ .char '"' ∧ c ≠ .char '[' ∧ c ≠ .char '{' := by
    obtain ⟨first, whole, eq⟩ := List.exists_cons_of_ne_nil sound.whole_ne_nil
    have digit : isDecimal first = true := sound.whole first (eq ▸ List.mem_cons_self)
    unfold Numeral.text Numeral.signText
    cases n.negative with
    | true =>
      rintro _ ⟨⟩
      decide
    | false =>
      rw [eq]
      rintro _ ⟨⟩
      refine ⟨?_, ?_, ?_⟩ <;>
        · rintro ⟨⟩
          exact absurd digit (by decide)
  rw [value_scalar opened, scalar_of_isSound sound]
  obtain read | ⟨count, refused⟩ := number_of_isSound sound ends
  · exact .inl read
  · exact .inr ⟨_, .tooManyDigits count, refused⟩

mutual

/-- JSON is read as what it stands for, if it is not too much. -/
theorem value_of_spells : ∀ {t : WideText} {j : Json} (_ : Spells t j) {left depth : Nat}
    {rest : WideText}, 2 * t.length ≤ left → EndsNumber rest →
      ReadsAs (value left depth (t ++ rest)) j rest
  | t, _, .word word, left, depth, rest, enough, ends => by
    obtain ⟨c, u, eq, -⟩ := exists_start (.word word)
    rw [eq, List.length_cons] at enough
    obtain ⟨left, rfl⟩ := Nat.exists_eq_add_one_of_ne_zero (by omega : left ≠ 0)
    exact .inl (value_of_word word)
  | _, _, .number n sound, left, depth, rest, enough, ends => by
    obtain ⟨c, u, eq, -⟩ := exists_start (.number n sound)
    rw [eq, List.length_cons] at enough
    obtain ⟨left, rfl⟩ := Nat.exists_eq_add_one_of_ne_zero (by omega : left ≠ 0)
    exact value_of_isSound sound ends
  | _, _, .string contents, left, depth, rest, enough, ends => by
    rw [List.length_cons] at enough
    obtain ⟨left, rfl⟩ := Nat.exists_eq_add_one_of_ne_zero (by omega : left ≠ 0)
    rw [List.cons_append, List.append_assoc]
    exact .inl (value_string contents)
  | _, _, .noItems isBlank, left, depth, rest, enough, ends => by
    rw [List.length_cons] at enough
    obtain ⟨left, rfl⟩ := Nat.exists_eq_add_one_of_ne_zero (by omega : left ≠ 0)
    cases depth with
    | zero => exact .inr ⟨_, .tooDeep .array, value_tooDeep.1⟩
    | succ depth =>
      rw [List.cons_append, List.append_assoc]
      exact .inl (value_noItems isBlank)
  | _, _, .array isBlank body, left, depth, rest, enough, ends => by
    simp only [List.length_cons, List.length_append] at enough
    obtain ⟨left, rfl⟩ := Nat.exists_eq_add_one_of_ne_zero (by omega : left ≠ 0)
    cases depth with
    | zero => exact .inr ⟨_, .tooDeep .array, value_tooDeep.1⟩
    | succ depth =>
      have read : ReadsAs (items left depth [] (_ ++ .char ']' :: rest)) _ rest :=
        items_of_spells body (by omega)
      obtain ⟨c, u, rfl, starts⟩ := exists_start_items body
      simp only [List.cons_append, List.append_assoc, List.nil_append]
      rw [value_items isBlank starts]
      exact read
  | _, _, .noMembers isBlank, left, depth, rest, enough, ends => by
    rw [List.length_cons] at enough
    obtain ⟨left, rfl⟩ := Nat.exists_eq_add_one_of_ne_zero (by omega : left ≠ 0)
    cases depth with
    | zero => exact .inr ⟨_, .tooDeep .object, value_tooDeep.2⟩
    | succ depth =>
      rw [List.cons_append, List.append_assoc]
      exact .inl (value_noMembers isBlank)
  | _, _, .object isBlank body, left, depth, rest, enough, ends => by
    simp only [List.length_cons, List.length_append] at enough
    obtain ⟨left, rfl⟩ := Nat.exists_eq_add_one_of_ne_zero (by omega : left ≠ 0)
    cases depth with
    | zero => exact .inr ⟨_, .tooDeep .object, value_tooDeep.2⟩
    | succ depth =>
      have read : ReadsAs (members left depth [] (_ ++ .char '}' :: rest)) _ rest :=
        members_of_spells body (by omega)
      obtain ⟨u, rfl⟩ := exists_start_members body
      simp only [List.cons_append, List.append_assoc, List.nil_append]
      rw [value_members isBlank]
      exact read

theorem items_of_spells : ∀ {t : WideText} {js : List Json} (_ : SpellsItems t js) {left depth : Nat}
    {done : List Json} {rest : WideText}, 2 * t.length < left →
      ReadsAs (items left depth done (t ++ .char ']' :: rest)) (.array (done.reverse ++ js)) rest
  | _, _, .last item isBlank, left, depth, done, rest, enough => by
    obtain ⟨left, rfl⟩ := Nat.exists_eq_add_one_of_ne_zero (by omega : left ≠ 0)
    rw [List.length_append] at enough
    rw [List.append_assoc]
    exact items_last (value_of_spells item (by omega) (endsNumber_mark isBlank (by decide))) isBlank
  | _, j :: js, .cons item isBlank isBlank' others, left, depth, done, rest, enough => by
    obtain ⟨left, rfl⟩ := Nat.exists_eq_add_one_of_ne_zero (by omega : left ≠ 0)
    simp only [List.length_cons, List.length_append] at enough
    have read : ReadsAs (items left depth (j :: done) (_ ++ .char ']' :: rest)) _ rest :=
      items_of_spells others (by omega)
    obtain ⟨c, u, rfl, starts⟩ := exists_start_items others
    rw [List.reverse_cons, List.append_assoc] at read
    simp only [List.cons_append, List.append_assoc]
    exact items_cons (value_of_spells item (by omega) (endsNumber_mark isBlank (by decide)))
      isBlank isBlank' starts read

theorem member_of_spells : ∀ {t : WideText} {entry : WideText × Json} (_ : SpellsMember t entry)
    {left depth : Nat} {done : Assoc WideText Json} {k : Json} {behind rest : WideText},
    2 * t.length ≤ left → EndsNumber behind →
      ReadsAs (membersBehind left depth (Assoc.insert done entry.1 entry.2) behind) k rest →
      ReadsAs (members (left + 1) depth done (t ++ behind)) k rest
  | _, _, .mk named before after item, left, depth, done, k, behind, rest, enough, ends, others => by
    simp only [List.length_cons, List.length_append] at enough
    have read : ReadsAs (value left depth (_ ++ behind)) _ behind :=
      value_of_spells item (by omega) ends
    obtain ⟨c, u, rfl, starts⟩ := exists_start item
    simp only [List.cons_append, List.append_assoc]
    exact members_member named before after starts read others

theorem members_of_spells : ∀ {t : WideText} {entries : List (WideText × Json)}
    (_ : SpellsMembers t entries) {left depth : Nat} {done : Assoc WideText Json} {rest : WideText},
    2 * t.length < left → ReadsAs (members left depth done (t ++ .char '}' :: rest))
      (.object (entries.foldl (fun done entry => Assoc.insert done entry.1 entry.2) done)) rest
  | _, _, .last member isBlank, left, depth, done, rest, enough => by
    obtain ⟨left, rfl⟩ := Nat.exists_eq_add_one_of_ne_zero (by omega : left ≠ 0)
    rw [List.length_append] at enough
    rw [List.append_assoc]
    exact member_of_spells member (by omega) (endsNumber_mark isBlank (by decide))
      (.inl (membersBehind_last isBlank))
  | _, entry :: entries, .cons member isBlank isBlank' others, left, depth, done, rest, enough => by
    obtain ⟨left, rfl⟩ := Nat.exists_eq_add_one_of_ne_zero (by omega : left ≠ 0)
    simp only [List.length_cons, List.length_append] at enough
    have read : ReadsAs (members left depth (Assoc.insert done entry.1 entry.2)
      (_ ++ .char '}' :: rest)) _ rest := members_of_spells others (by omega)
    obtain ⟨u, rfl⟩ := exists_start_members others
    rw [List.append_assoc, List.append_assoc, List.cons_append, List.append_assoc]
    refine member_of_spells member (by omega) (endsNumber_mark isBlank (by decide)) ?_
    rw [List.cons_append, membersBehind_cons isBlank isBlank' (by decide)]
    exact read

end

/-! ## Soundness -/

def ValueIsSound (left : Nat) : Prop :=
  ∀ depth s j rest, value left depth s = .ok (j, rest) → ∃ t, s = t ++ rest ∧ Spells t j

def ItemsAreSound (left : Nat) : Prop :=
  ∀ depth done s j rest, items left depth done s = .ok (j, rest) →
    ∃ t js, s = t ++ .char ']' :: rest ∧ j = .array (done.reverse ++ js) ∧ SpellsItems t js

def MembersAreSound (left : Nat) : Prop :=
  ∀ depth done s j rest, members left depth done s = .ok (j, rest) →
    ∃ t entries, s = t ++ .char '}' :: rest ∧
      j = .object (entries.foldl (fun done entry => Assoc.insert done entry.1 entry.2) done) ∧
      SpellsMembers t entries

theorem exists_of_skipSpace {u : WideText} (h : skipSpace s = u) :
    ∃ b, IsBlank b ∧ s = b ++ u := by
  subst h
  exact exists_blank s

theorem exists_of_bind_eq_ok {α β : Type} {x : Except Fault α} {f : α → Except Fault β} {v : β}
    (h : x >>= f = .ok v) : ∃ a, x = .ok a ∧ f a = .ok v := by
  cases x with
  | error e => cases h
  | ok a => exact ⟨a, rfl, h⟩

theorem valueIsSound_succ (soundItems : ItemsAreSound left) (soundMembers : MembersAreSound left) :
    ValueIsSound (left + 1) := by
  intro depth s j rest h
  unfold value at h
  split at h
  next opened _ =>
    obtain ⟨⟨content, behind⟩, read, last⟩ := exists_of_bind_eq_ok h
    cases last
    obtain ⟨text, own, rfl, rfl, contents⟩ := contents_of_string read
    exact ⟨.char '"' :: (text ++ [.char '"']), by simp, .string contents⟩
  · cases h
  · cases h
  next opened depth =>
    split at h
    next behind closed =>
      cases h
      obtain ⟨b, isBlank, rfl⟩ := exists_of_skipSpace closed
      exact ⟨.char '[' :: (b ++ [.char ']']), by simp, .noItems isBlank⟩
    · obtain ⟨t, js, eq, rfl, body⟩ := soundItems _ _ _ _ _ h
      obtain ⟨b, isBlank, rfl⟩ := exists_of_skipSpace eq
      exact ⟨.char '[' :: (b ++ (t ++ [.char ']'])), by simp, .array isBlank body⟩
  next opened depth =>
    split at h
    next behind closed =>
      cases h
      obtain ⟨b, isBlank, rfl⟩ := exists_of_skipSpace closed
      exact ⟨.char '{' :: (b ++ [.char '}']), by simp, .noMembers isBlank⟩
    · obtain ⟨t, entries, eq, rfl, body⟩ := soundMembers _ _ _ _ _ h
      obtain ⟨b, isBlank, rfl⟩ := exists_of_skipSpace eq
      exact ⟨.char '{' :: (b ++ (t ++ [.char '}'])), by simp, .object isBlank body⟩
  · obtain ⟨t, word, rfl⟩ | read := scalar_cases h
    · exact ⟨t, rfl, .word word⟩
    · obtain ⟨n, sound, rfl, rfl⟩ := isSound_of_number read
      exact ⟨_, rfl, .number n sound⟩

theorem itemsAreSound_succ (soundValue : ValueIsSound left) (soundItems : ItemsAreSound left) :
    ItemsAreSound (left + 1) := by
  intro depth done s j rest h
  unfold items at h
  obtain ⟨⟨item, behind⟩, read, later⟩ := exists_of_bind_eq_ok h
  obtain ⟨t, rfl, spells⟩ := soundValue _ _ _ _ read
  dsimp only at later
  split at later
  next closed =>
    cases later
    obtain ⟨b, isBlank, rfl⟩ := exists_of_skipSpace closed
    exact ⟨t ++ b, [item], by simp, by simp, .last spells isBlank⟩
  next more comma =>
    obtain ⟨u, js, eq, rfl, others⟩ := soundItems _ _ _ _ _ later
    obtain ⟨b, isBlank, rfl⟩ := exists_of_skipSpace comma
    obtain ⟨blank, isBlank', rfl⟩ := exists_of_skipSpace eq
    exact ⟨t ++ (b ++ .char ',' :: (blank ++ u)), item :: js, by simp, by simp,
      .cons spells isBlank isBlank' others⟩
  · cases later

theorem membersAreSound_succ (soundValue : ValueIsSound left)
    (soundMembers : MembersAreSound left) : MembersAreSound (left + 1) := by
  intro depth done s j rest h
  unfold members at h
  split at h
  next opened =>
    obtain ⟨⟨key, behind⟩, read, later⟩ := exists_of_bind_eq_ok h
    obtain ⟨text, own, rfl, rfl, named⟩ := contents_of_string read
    dsimp only at later
    split at later
    next valued colon =>
      obtain ⟨⟨item, behind⟩, read, last⟩ := exists_of_bind_eq_ok later
      obtain ⟨t, start, spells⟩ := soundValue _ _ _ _ read
      obtain ⟨before, isBefore, rfl⟩ := exists_of_skipSpace colon
      obtain ⟨after, isAfter, rfl⟩ := exists_of_skipSpace start
      have member := SpellsMember.mk named isBefore isAfter spells
      dsimp only at last
      split at last
      next closed =>
        cases last
        obtain ⟨b, isBlank, rfl⟩ := exists_of_skipSpace closed
        exact ⟨_ ++ b, [(_, item)], by simp, rfl, .last member isBlank⟩
      next more comma =>
        obtain ⟨u, entries, eq, rfl, others⟩ := soundMembers _ _ _ _ _ last
        obtain ⟨b, isBlank, rfl⟩ := exists_of_skipSpace comma
        obtain ⟨blank, isBlank', rfl⟩ := exists_of_skipSpace eq
        exact ⟨_ ++ (b ++ .char ',' :: (blank ++ u)), (_, item) :: entries, by simp, rfl,
          .cons member isBlank isBlank' others⟩
      · cases last
    · cases later
  · cases h

theorem sound (left : Nat) : ValueIsSound left ∧ ItemsAreSound left ∧ MembersAreSound left := by
  induction left with
  | zero =>
    refine ⟨fun _ _ _ _ h => ?_, fun _ _ _ _ _ h => ?_, fun _ _ _ _ _ h => ?_⟩
    · cases h
    · cases h
    · cases h
  | succ left ih =>
    obtain ⟨soundValue, soundItems, soundMembers⟩ := ih
    exact ⟨valueIsSound_succ soundItems soundMembers, itemsAreSound_succ soundValue soundItems,
      membersAreSound_succ soundValue soundMembers⟩

/-! ## Documents -/

theorem denotes_of_document (h : document s = .ok j) : Denotes s j := by
  obtain ⟨⟨item, behind⟩, read, last⟩ := exists_of_bind_eq_ok h
  obtain ⟨t, start, spells⟩ := (sound _).1 _ _ _ _ read
  obtain ⟨before, isBefore, rfl⟩ := exists_of_skipSpace start
  dsimp only at last
  split at last
  next ended =>
    cases last
    obtain ⟨after, isAfter, eq⟩ := exists_of_skipSpace ended
    rw [List.append_nil] at eq
    subst eq
    exact .mk isBefore spells isAfter
  · cases last

theorem document_of_denotes (h : Denotes s j) :
    document s = .ok j ∨ ∃ e : Fault, e.IsLimit ∧ document s = .error e := by
  obtain ⟨isBefore, spells, isAfter⟩ := h
  rename_i before t after
  obtain ⟨c, u, rfl, starts⟩ := exists_start spells
  have skipped : skipSpace (before ++ (c :: u ++ after)) = c :: u ++ after :=
    skipSpace_start isBefore starts
  have behind : skipSpace after = [] := by
    have none : ∀ c ∈ ([] : WideText).head?, isSpace c = false := by rintro _ ⟨⟩
    rw [← skipSpace_append isAfter none, List.append_nil]
  have read : ReadsAs (value (2 * (before ++ (c :: u ++ after)).length + 2) maxDepth
      (c :: u ++ after)) j after :=
    value_of_spells spells (by simp only [List.length_append]; omega) (endsNumber_blank isAfter)
  unfold document
  rw [skipped]
  obtain read | ⟨e, limit, read⟩ := read
  · rw [read, ok_bind]
    simp only [behind]
    exact .inl rfl
  · rw [read]
    exact .inr ⟨e, limit, rfl⟩

end Parser

variable {text : WideText} {j : Json}

inductive ReadError.IsLimit : ReadError → Prop where
  | tooManyDigits (count : Nat) : IsLimit (.tooManyDigits count)
  | tooDeep (container : Container) : IsLimit (.tooDeep container)

/-- What is read from a text is the value that it denotes. -/
theorem denotes_of_parse (h : parse text = .ok j) : Denotes text j := by
  unfold parse at h
  split at h
  · cases h
  · unfold read at h
    cases read : Parser.document text with
    | error e =>
      rw [read] at h
      cases h
    | ok k =>
      rw [read] at h
      cases h
      exact Parser.denotes_of_document read

theorem Denotes.head? (h : Denotes text j) : text.head? ≠ some (.char '\uFEFF') := by
  obtain ⟨isBefore, spells, -⟩ := h
  rename_i before t after
  obtain ⟨c, u, rfl, starts⟩ := Parser.exists_start spells
  cases before with
  | nil =>
    rw [List.nil_append, List.cons_append, List.head?_cons]
    exact fun mark => starts.2.2 (Option.some.inj mark)
  | cons b before =>
    rw [List.cons_append, List.head?_cons]
    intro mark
    have blank := isBefore b List.mem_cons_self
    rw [Option.some.inj mark] at blank
    exact absurd blank (by decide)

/-- All JSON is read as what it denotes, if it is not too much. -/
theorem parse_of_denotes (h : Denotes text j) :
    parse text = .ok j ∨ ∃ e : ReadError, e.IsLimit ∧ parse text = .error e := by
  have unmarked : (text.head? == some (.char '\uFEFF')) = false := beq_false_of_ne h.head?
  have whole : parse text = read text := by
    rw [parse, unmarked]
    rfl
  rw [whole, read]
  obtain document | ⟨e, limit, document⟩ := Parser.document_of_denotes h
  · rw [document]
    exact .inl rfl
  · rw [document]
    cases limit with
    | tooManyDigits count => exact .inr ⟨_, .tooManyDigits count, rfl⟩
    | tooDeep container => exact .inr ⟨_, .tooDeep container, rfl⟩

theorem Denotes.eq_of_parse {k : Json} (h : Denotes text j) (read : parse text = .ok k) :
    j = k := by
  obtain same | ⟨e, -, refused⟩ := parse_of_denotes h
  · exact Except.ok.inj (same.symm.trans read)
  · rw [read] at refused
    cases refused

/-- A malformed text is no JSON. -/
theorem not_denotes_of_malformed {cause : Cause} {offset : Nat} {whole : WideText}
    (h : parse text = .error (.malformed cause offset whole)) (j : Json) : ¬Denotes text j := by
  intro denotes
  obtain read | ⟨e, limit, refused⟩ := parse_of_denotes denotes
  · rw [h] at read
    cases read
  · rw [h] at refused
    cases refused
    cases limit

end OperationDocuments.Json
