import Mathlib
import OperationDocuments.Json.Parser

/-! # Numbers and strings of JSON

The two kinds of JSON values that are read character by character. -/
namespace OperationDocuments.Json.Parser

/-! ## Reading numbers

A number is taken as long as it can be: whole part, fraction and exponent each end at the first
character that cannot continue them, and what stands behind is left. -/

variable {chars more rest : List Char} {s after : WideText} {n : Numeral} {j : Json}

def InNumbers (c : Char) : Prop :=
  (isDecimal c || ['-', '+', '.', 'e', 'E'].contains c) = true

instance (c : Char) : Decidable (InNumbers c) := inferInstanceAs (Decidable (_ = true))

theorem inNumbers_of_isDecimal {c : Char} (h : isDecimal c = true) : InNumbers c := by
  unfold InNumbers
  rw [h, Bool.true_or]

/-- The text does not go on with a character that a number could have. -/
def EndsNumber (after : WideText) : Prop := ∀ c : Char, after.head? = some (.char c) → ¬InNumbers c

theorem numeral_append (h : ∀ c ∈ chars, InNumbers c) (ends : EndsNumber after) :
    numeral (chars.map .char ++ after) = chars := by
  induction chars with
  | nil =>
    match after with
    | [] => rfl
    | .surrogate k :: after => rfl
    | .char c :: after =>
      have other : ¬InNumbers c := ends c rfl
      unfold InNumbers at other
      rw [List.map_nil, List.nil_append, numeral, if_neg other]
  | cons c chars ih =>
    have own : InNumbers c := h c List.mem_cons_self
    unfold InNumbers at own
    rw [List.map_cons, List.cons_append, numeral, if_pos own,
      ih fun d among => h d (List.mem_cons_of_mem c among)]

theorem exists_numeral (s : WideText) : ∃ after, s = (numeral s).map .char ++ after := by
  induction s with
  | nil => exact ⟨[], rfl⟩
  | cons c s ih =>
    cases c with
    | surrogate k => exact ⟨_, rfl⟩
    | char c =>
      obtain ⟨after, same⟩ := ih
      by_cases own : (isDecimal c || ['-', '+', '.', 'e', 'E'].contains c) = true
      · refine ⟨after, ?_⟩
        rw [numeral, if_pos own, List.map_cons, List.cons_append, ← same]
      · exact ⟨.char c :: s, by rw [numeral, if_neg own]; rfl⟩

/-! ### Parts -/

def EndsDigits (chars : List Char) : Prop := ∀ c ∈ chars.head?, isDecimal c = false

theorem takeWhile_digits (h : ∀ c ∈ chars, isDecimal c = true) (ends : EndsDigits more) :
    (chars ++ more).takeWhile isDecimal = chars := by
  have none : more.takeWhile isDecimal = [] := by
    cases more with
    | nil => rfl
    | cons c more =>
      have other : isDecimal c = false := ends c rfl
      simp [other]
  rw [List.takeWhile_append_of_pos h, none, List.append_nil]

theorem dropWhile_digits (h : ∀ c ∈ chars, isDecimal c = true) (ends : EndsDigits more) :
    (chars ++ more).dropWhile isDecimal = more := by
  rw [List.dropWhile_append_of_pos h]
  cases more with
  | nil => rfl
  | cons c more =>
    have other : isDecimal c = false := ends c rfl
    simp [other]

theorem endsDigits_nil : EndsDigits [] := nofun

theorem endsDigits_exponentText (h : ∀ exponent ∈ n.exponent, Numeral.ExponentIsSound exponent) :
    EndsDigits n.exponentText := by
  unfold Numeral.exponentText
  cases parts : n.exponent with
  | none => exact endsDigits_nil
  | some exponent =>
    obtain ⟨mark, sign, digits⟩ := exponent
    rintro _ ⟨⟩
    obtain ⟨rfl | rfl, -⟩ := h _ parts <;> rfl

theorem endsDigits_fractionText (h : ∀ exponent ∈ n.exponent, Numeral.ExponentIsSound exponent) :
    EndsDigits (n.fractionText ++ n.exponentText) := by
  unfold Numeral.fractionText
  split
  · exact endsDigits_exponentText h
  · rintro _ ⟨⟩
    rfl

theorem wholePart_eq (sound : n.IsSound) (ends : EndsDigits more) :
    wholePart (n.whole ++ more) = n.whole := by
  obtain ⟨c, whole, eq⟩ := List.exists_cons_of_ne_nil sound.whole_ne_nil
  by_cases zero : c = '0'
  · have alone := sound.leading (by rw [eq, zero]; rfl)
    rw [alone]
    rfl
  · have taken := takeWhile_digits sound.whole ends
    rw [eq] at taken ⊢
    unfold wholePart
    split
    next same => exact absurd (List.cons.inj same).1 zero
    · exact taken

theorem fractionPart_eq (sound : n.IsSound) :
    fractionPart (n.fractionText ++ n.exponentText) = n.fraction := by
  unfold Numeral.fractionText
  by_cases h : n.fraction = []
  · rw [if_pos h, List.nil_append, h]
    unfold Numeral.exponentText
    cases parts : n.exponent with
    | none => rfl
    | some exponent =>
      obtain ⟨mark, sign, digits⟩ := exponent
      obtain ⟨rfl | rfl, -⟩ := sound.exponent _ parts <;> rfl
  · rw [if_neg h]
    exact takeWhile_digits sound.fraction (endsDigits_exponentText sound.exponent)

theorem ne_sign_of_isDecimal {c : Char} (h : isDecimal c = true) : c ≠ '+' ∧ c ≠ '-' := by
  constructor
  · rintro rfl
    exact absurd h (by decide)
  · rintro rfl
    exact absurd h (by decide)

theorem exponentPart_eq (sound : n.IsSound) :
    exponentPart n.exponentText = (n.exponent.map fun _ => n.scale, []) := by
  unfold Numeral.exponentText Numeral.scale
  cases parts : n.exponent with
  | none => rfl
  | some exponent =>
    obtain ⟨mark, sign, digits⟩ := exponent
    obtain ⟨isMark, isSign, nonempty, isDecimal⟩ := sound.exponent _ parts
    have taken := takeWhile_digits isDecimal endsDigits_nil
    have dropped := dropWhile_digits isDecimal endsDigits_nil
    rw [List.append_nil] at taken dropped
    have filtered : ((sign ++ digits).take 1).filter (fun c => c == '+' || c == '-') = sign := by
      obtain ⟨d, digits, rfl⟩ := List.exists_cons_of_ne_nil nonempty
      rcases isSign with rfl | rfl | rfl
      · have other := ne_sign_of_isDecimal (isDecimal d List.mem_cons_self)
        simp [other]
      · rfl
      · rfl
    simp only [exponentPart, filtered, List.drop_left, taken, dropped, isMark, nonempty,
      ne_eq, not_false_eq_true, and_self, if_true, Option.map_some]

theorem exponentPart_cases (chars : List Char) :
    (∃ mark sign digits rest, Numeral.ExponentIsSound (mark, sign, digits) ∧
      chars = mark :: (sign ++ digits) ++ rest ∧ exponentPart chars =
        (some (if sign = ['-'] then -(naturalOf digits : Int) else naturalOf digits), rest)) ∨
    exponentPart chars = (none, chars) := by
  cases chars with
  | nil => exact .inr rfl
  | cons mark more =>
    let sign := (more.take 1).filter fun c => c == '+' || c == '-'
    let behind := more.drop sign.length
    by_cases h : (mark = 'e' ∨ mark = 'E') ∧ behind.takeWhile isDecimal ≠ []
    · have isSign : sign = [] ∨ sign = ['+'] ∨ sign = ['-'] := by
        cases more with
        | nil => exact .inl rfl
        | cons c more =>
          by_cases plus : c = '+'
          · exact .inr (.inl (by simp [sign, plus]))
          by_cases minus : c = '-'
          · exact .inr (.inr (by simp [sign, minus]))
          · exact .inl (by simp [sign, plus, minus])
      have front : more = sign ++ behind := by
        cases more with
        | nil => rfl
        | cons c more => by_cases h : (c == '+' || c == '-') = true <;> simp [sign, behind, h]
      refine .inl ⟨mark, sign, behind.takeWhile isDecimal, behind.dropWhile isDecimal,
        ⟨h.1, isSign, h.2, fun c => List.mem_takeWhile_imp⟩, ?_, ?_⟩
      · rw [List.cons_append, List.append_assoc, List.takeWhile_append_dropWhile, ← front]
      · exact if_pos h
    · exact .inr (if_neg h)

/-! ### Whole numbers -/

theorem inNumbers_fractionText (sound : n.IsSound) : ∀ c ∈ n.fractionText, InNumbers c := by
  unfold Numeral.fractionText
  split
  · exact nofun
  · intro c among
    rcases List.mem_cons.mp among with rfl | digit
    · decide
    · exact inNumbers_of_isDecimal (sound.fraction c digit)

theorem inNumbers_exponentText (sound : n.IsSound) : ∀ c ∈ n.exponentText, InNumbers c := by
  unfold Numeral.exponentText
  cases parts : n.exponent with
  | none => exact nofun
  | some exponent =>
    obtain ⟨mark, sign, digits⟩ := exponent
    obtain ⟨isMark, isSign, -, isDecimal⟩ := sound.exponent _ parts
    intro c among
    rcases List.mem_cons.mp among with rfl | among
    · rcases isMark with rfl | rfl <;> decide
    rcases List.mem_append.mp among with inSign | digit
    · rcases isSign with rfl | rfl | rfl
      · cases inSign
      · rw [List.mem_singleton.mp inSign]
        decide
      · rw [List.mem_singleton.mp inSign]
        decide
    · exact inNumbers_of_isDecimal (isDecimal c digit)

theorem inNumbers_text (sound : n.IsSound) : ∀ c ∈ n.text, InNumbers c := by
  intro c among
  unfold Numeral.text Numeral.signText at among
  rcases List.mem_append.mp among with sign | among
  · split at sign
    · rw [List.mem_singleton.mp sign]
      decide
    · cases sign
  rcases List.mem_append.mp among with whole | among
  · exact inNumbers_of_isDecimal (sound.whole c whole)
  rcases List.mem_append.mp among with fraction | exponent
  · exact inNumbers_fractionText sound c fraction
  · exact inNumbers_exponentText sound c exponent

theorem head?_text (sound : n.IsSound) : (n.text.head? == some '-') = n.negative := by
  obtain ⟨c, whole, eq⟩ := List.exists_cons_of_ne_nil sound.whole_ne_nil
  have other := ne_sign_of_isDecimal (sound.whole c (eq ▸ List.mem_cons_self))
  unfold Numeral.text Numeral.signText
  cases n.negative with
  | true => rfl
  | false => simp [eq, other.2]

theorem getD_scale (n : Numeral) : (n.exponent.map fun _ => n.scale).getD 0 = n.scale := by
  unfold Numeral.scale
  cases n.exponent <;> rfl

/-- A number is read to its end, unless it is an integer with too many digits. -/
theorem number_of_isSound (sound : n.IsSound) (ends : EndsNumber after) :
    number (n.text.map .char ++ after) = .ok (n.value, after) ∨
      ∃ count, number (n.text.map .char ++ after) = .error (.tooManyDigits count) := by
  have spelled := numeral_append (inNumbers_text sound) ends
  have body : (if n.negative = true then n.text.drop 1 else n.text) =
      n.whole ++ (n.fractionText ++ n.exponentText) := by
    unfold Numeral.text Numeral.signText
    cases n.negative <;> rfl
  have whole := wholePart_eq sound (endsDigits_fractionText sound.exponent)
  have behind : (if n.fraction = [] then n.fractionText ++ n.exponentText
      else (n.fractionText ++ n.exponentText).drop (n.fraction.length + 1)) = n.exponentText := by
    unfold Numeral.fractionText
    split
    · rfl
    · simp
  have left : (n.text.map CodePoint.char ++ after).drop (n.text.length - 0) = after := by
    rw [Nat.sub_zero, List.drop_left' (List.length_map _)]
  unfold number
  simp only [spelled, head?_text sound, body, whole, sound.whole_ne_nil, if_false,
    List.drop_left, fractionPart_eq sound, behind, exponentPart_eq sound, List.length_nil, left]
  have same : (n.exponent.map fun _ => n.scale) = none ↔ n.exponent = none :=
    Option.map_eq_none_iff
  unfold Numeral.value
  by_cases integer : n.fraction = [] ∧ n.exponent = none
  · rw [if_pos integer, if_pos ⟨integer.1, same.mpr integer.2⟩]
    split
    · exact .inr ⟨_, rfl⟩
    · exact .inl rfl
  · rw [if_neg integer, if_neg fun h => integer ⟨h.1, same.mp h.2⟩, getD_scale]
    exact .inl rfl

theorem wholePart_spec (chars : List Char) : (∀ c ∈ wholePart chars, isDecimal c = true) ∧
    ((wholePart chars).head? = some '0' → wholePart chars = ['0']) ∧
    chars = wholePart chars ++ chars.drop (wholePart chars).length := by
  unfold wholePart
  split
  · refine ⟨fun c among => ?_, fun _ => rfl, rfl⟩
    rw [List.mem_singleton.mp among]
    rfl
  next other =>
    refine ⟨fun c => List.mem_takeWhile_imp, fun zero => ?_, ?_⟩
    · cases chars with
      | nil => cases zero
      | cons c more =>
        by_cases digit : isDecimal c = true
        · rw [List.takeWhile_cons_of_pos digit] at zero
          exact absurd rfl (other more ∘ (Option.some.inj zero ▸ ·))
        · rw [List.takeWhile_cons_of_neg digit] at zero
          cases zero
    · exact (List.prefix_iff_eq_append.mp (List.takeWhile_prefix _)).symm

theorem fractionPart_spec (chars : List Char) : (∀ c ∈ fractionPart chars, isDecimal c = true) ∧
    chars = (if fractionPart chars = [] then [] else '.' :: fractionPart chars) ++
      (if fractionPart chars = [] then chars
        else chars.drop ((fractionPart chars).length + 1)) := by
  unfold fractionPart
  split
  next more =>
    refine ⟨fun c => List.mem_takeWhile_imp, ?_⟩
    split
    · rfl
    · rw [List.cons_append, List.drop_succ_cons,
        List.prefix_iff_eq_append.mp (List.takeWhile_prefix _)]
  · exact ⟨nofun, rfl⟩

/-- The parts that a text is taken apart into are those of a number, if it begins with a digit. -/
theorem exists_parts {chars : List Char} (negative : Bool) (digit : wholePart chars ≠ []) :
    let behindWhole := chars.drop (wholePart chars).length
    let behind := if fractionPart behindWhole = [] then behindWhole
      else behindWhole.drop ((fractionPart behindWhole).length + 1)
    ∃ n : Numeral, n.IsSound ∧ n.negative = negative ∧ n.whole = wholePart chars ∧
      n.fraction = fractionPart behindWhole ∧
      (exponentPart behind).1 = (n.exponent.map fun _ => n.scale) ∧
      (if negative then ['-'] else []) ++ chars = n.text ++ (exponentPart behind).2 := by
  intro behindWhole behind
  obtain ⟨digits, leading, wholeFront⟩ := wholePart_spec chars
  obtain ⟨fractionDigits, fractionFront⟩ := fractionPart_spec behindWhole
  have front : chars = wholePart chars ++
      ((if fractionPart behindWhole = [] then [] else '.' :: fractionPart behindWhole) ++ behind) := by
    rw [← fractionFront]
    exact wholeFront
  obtain ⟨mark, sign, exponentDigits, rest, isSound, eq, read⟩ | read := exponentPart_cases behind
  · refine ⟨⟨negative, wholePart chars, fractionPart behindWhole,
      some (mark, sign, exponentDigits)⟩, ⟨digit, digits, leading, fractionDigits, ?_⟩, rfl, rfl,
      rfl, by rw [read]; rfl, ?_⟩
    · rintro _ ⟨⟩
      exact isSound
    · rw [read]
      conv_lhs => rw [front, eq]
      simp [Numeral.text, Numeral.signText, Numeral.fractionText, Numeral.exponentText]
  · refine ⟨⟨negative, wholePart chars, fractionPart behindWhole, none⟩,
      ⟨digit, digits, leading, fractionDigits, nofun⟩, rfl, rfl, rfl, by rw [read]; rfl, ?_⟩
    rw [read]
    conv_lhs => rw [front]
    simp [Numeral.text, Numeral.signText, Numeral.fractionText, Numeral.exponentText]

/-- What is read as a number is one. -/
theorem isSound_of_number (h : number s = .ok (j, after)) :
    ∃ n : Numeral, n.IsSound ∧ s = n.text.map .char ++ after ∧ j = n.value := by
  obtain ⟨tail, split⟩ := exists_numeral s
  let negative : Bool := (numeral s).head? == some '-'
  let chars := if negative then (numeral s).drop 1 else numeral s
  have signed : numeral s = (if negative then ['-'] else []) ++ chars := by
    cases spelled : numeral s with
    | nil => simp [negative, chars, spelled]
    | cons c more => by_cases minus : c = '-' <;> simp [negative, chars, spelled, minus]
  unfold number at h
  extract_lets spelled negative' body whole behindWhole fraction behind size at h
  split at h
  · cases h
  next digit =>
    have digit : wholePart chars ≠ [] := digit
    obtain ⟨n, sound, isNegative, isWhole, isFraction, scale, text⟩ := exists_parts negative digit
    rw [← signed] at text
    have isWhole : n.whole = whole := isWhole
    have isFraction : n.fraction = fraction := isFraction
    have isNegative : n.negative = negative' := isNegative
    have scale : (exponentPart behind).1 = _ := scale
    have text : spelled = n.text ++ (exponentPart behind).2 := text
    rcases parts : exponentPart behind with ⟨exponent, rest⟩
    rw [parts] at h scale text
    have whole_s : s = n.text.map .char ++ (rest.map .char ++ tail) := by
      rw [split, ← List.append_assoc, ← List.map_append, ← text]
    have left : s.drop (spelled.length - rest.length) = rest.map .char ++ tail := by
      rw [text, List.length_append, Nat.add_sub_cancel, whole_s,
        List.drop_left' (List.length_map _)]
    have absent : exponent = none ↔ n.exponent = none := by
      rw [show exponent = _ from scale]
      exact Option.map_eq_none_iff
    have scaled : exponent.getD 0 = n.scale := by
      rw [show exponent = _ from scale]
      exact getD_scale n
    refine ⟨n, sound, ?_⟩
    unfold Numeral.value
    simp only [left, ← isWhole, ← isFraction, ← isNegative, absent, scaled] at h
    split at h
    next integer =>
      rw [if_pos integer, isWhole]
      split at h <;> cases h
      exact ⟨whole_s, rfl⟩
    next other =>
      rw [if_neg other]
      cases h
      exact ⟨whole_s, rfl⟩

end OperationDocuments.Json.Parser

namespace OperationDocuments.Json.Parser

/-! ## Reading strings

A string is read up to its closing quote, whatever stands behind it. An escape for a surrogate is read
together with the next one if they form a pair, so what stands behind it decides how it is read. -/

variable {s b u back opening rest text value digits low : WideText} {c d : CodePoint}

theorem skipSpace_append (isBlank : IsBlank b) (h : ∀ c ∈ u.head?, isSpace c = false) :
    skipSpace (b ++ u) = u := by
  induction b with
  | nil =>
    cases u with
    | nil => rfl
    | cons c u =>
      have other : isSpace c = false := h c rfl
      simp [skipSpace, other]
  | cons c b ih =>
    have space : isSpace c = true := isBlank c List.mem_cons_self
    have more := ih fun d among => isBlank d (List.mem_cons_of_mem c among)
    unfold skipSpace at more ⊢
    rw [List.cons_append, List.dropWhile_cons_of_pos space, more]

theorem exists_blank (s : WideText) : ∃ b, IsBlank b ∧ s = b ++ skipSpace s :=
  ⟨s.takeWhile isSpace, fun _ => List.mem_takeWhile_imp, List.takeWhile_append_dropWhile.symm⟩

theorem hexFour_eq_ok_iff : hexFour back s = .ok (c, rest) ↔
    ∃ digits, s = digits ++ rest ∧ FourDigits digits c ∧ rest ≠ [] := by
  unfold hexFour
  constructor
  · intro h
    split at h
    · cases h
    next long =>
      cases values : (s.take 4).mapM hexDigit? with
      | none =>
        rw [values] at h
        cases h
      | some ds =>
        rw [values] at h
        cases h
        refine ⟨s.take 4, (List.take_append_drop 4 s).symm, ⟨?_, values⟩, ?_⟩
        · rw [List.length_take]
          omega
        · rw [ne_eq, List.drop_eq_nil_iff]
          omega
  · rintro ⟨digits, rfl, ⟨four, values⟩, nonempty⟩
    have long : 0 < rest.length := List.length_pos_iff.mpr nonempty
    rw [if_neg (by rw [List.length_append]; omega), List.take_left' four, List.drop_left' four,
      values]

theorem hexFour_append (four : FourDigits digits c) (nonempty : rest ≠ []) :
    hexFour back (digits ++ rest) = .ok (c, rest) :=
  hexFour_eq_ok_iff.mpr ⟨digits, rfl, four, nonempty⟩

theorem fourDigits_unique (h : FourDigits digits c) (k : FourDigits digits d) : c = d := by
  obtain ⟨-, values⟩ := h
  obtain ⟨-, values'⟩ := k
  cases values.symm.trans values'
  rfl

theorem fourDigits_append_inj {after after' : WideText} (h : FourDigits digits c)
    (k : FourDigits low d) (same : digits ++ after = low ++ after') :
    digits = low ∧ after = after' := by
  obtain ⟨four, -⟩ := h
  obtain ⟨four', -⟩ := k
  exact List.append_inj same (four.trans four'.symm)

theorem isHigh_of_joined {joined : CodePoint} (h : c.joined? d = some joined) :
    c.isHigh = true := by
  unfold CodePoint.joined? at h
  split at h
  next both =>
    rw [Bool.and_eq_true] at both
    exact both.1
  · cases h

theorem unicodeEscape_pair {high : WideText} {joined : CodePoint} (first : FourDigits high c)
    (second : FourDigits low d) (joins : c.joined? d = some joined) (nonempty : rest ≠ []) :
    unicodeEscape back (high ++ .char '\\' :: .char 'u' :: (low ++ rest)) = .ok (joined, rest) := by
  have one : hexFour back (high ++ .char '\\' :: .char 'u' :: (low ++ rest)) =
      .ok (c, .char '\\' :: .char 'u' :: (low ++ rest)) := hexFour_append first (List.cons_ne_nil _ _)
  have two : hexFour (.char 'u' :: (low ++ rest)) (low ++ rest) = .ok (d, rest) :=
    hexFour_append second nonempty
  have long : ¬low.length + rest.length < 5 := by
    obtain ⟨four, -⟩ := second
    have := List.length_pos_iff.mpr nonempty
    omega
  simp [unicodeEscape, one, two, isHigh_of_joined joins, long, joins, bind, Except.bind, pure,
    Except.pure]

/-- What stands behind an escape that is read alone: no escape, or one that forms no pair with it. -/
def StandsAlone (c : CodePoint) (rest : WideText) : Prop :=
  ∀ more, rest = .char '\\' :: .char 'u' :: more →
    ∃ low after d, more = low ++ after ∧ FourDigits low d ∧ after ≠ [] ∧ c.joined? d = none

theorem unicodeEscape_alone (four : FourDigits digits c) (nonempty : rest ≠ [])
    (alone : StandsAlone c rest) : unicodeEscape back (digits ++ rest) = .ok (c, rest) := by
  unfold unicodeEscape
  rw [hexFour_append four nonempty]
  simp only [bind, Except.bind]
  split
  next more =>
    obtain ⟨low, after, d, rfl, second, behind, single⟩ := alone more rfl
    have two : hexFour (.char 'u' :: (low ++ after)) (low ++ after) = .ok (d, after) :=
      hexFour_append second behind
    simp only [List.drop_succ_cons, List.drop_zero, two, single]
    split <;> rfl
  · rfl

theorem unicodeEscape_cases (h : unicodeEscape back s = .ok (c, rest)) : rest ≠ [] ∧
    ((∃ digits, s = digits ++ rest ∧ FourDigits digits c ∧
        ∀ low after d, rest = .char '\\' :: .char 'u' :: (low ++ after) → FourDigits low d →
          after ≠ [] → c.joined? d = none) ∨
      ∃ high low first second, s = high ++ .char '\\' :: .char 'u' :: (low ++ rest) ∧
        FourDigits high first ∧ FourDigits low second ∧ first.joined? second = some c) := by
  unfold unicodeEscape at h
  cases one : hexFour back s with
  | error e =>
    rw [one] at h
    cases h
  | ok read =>
    obtain ⟨first, behind⟩ := read
    obtain ⟨digits, rfl, four, nonempty⟩ := hexFour_eq_ok_iff.mp one
    rw [one] at h
    simp only [bind, Except.bind] at h
    split at h
    next more =>
      split at h
      · cases two : hexFour (List.drop 1 (.char '\\' :: .char 'u' :: more)) more with
        | error e =>
          rw [two] at h
          cases h
        | ok read =>
          obtain ⟨second, after⟩ := read
          obtain ⟨low, rfl, fourMore, behind⟩ := hexFour_eq_ok_iff.mp two
          rw [two] at h
          cases joins : first.joined? second with
          | some joined =>
            simp only [joins] at h
            cases h
            exact ⟨behind, .inr ⟨digits, low, first, second, rfl, four, fourMore, joins⟩⟩
          | none =>
            simp only [joins] at h
            cases h
            refine ⟨nonempty, .inl ⟨digits, rfl, four, fun other later d same fourOther _ => ?_⟩⟩
            obtain ⟨rfl, -⟩ := fourDigits_append_inj fourMore fourOther (by simpa using same)
            rwa [← fourDigits_unique fourMore fourOther]
      next short =>
        cases h
        refine ⟨nonempty, .inl ⟨digits, rfl, four, fun low after d same fourLow after_ne => ?_⟩⟩
        obtain rfl : more = low ++ after := by simpa using same
        have long : 5 ≤ (low ++ after).length := by
          obtain ⟨length, -⟩ := fourLow
          have := List.length_pos_iff.mpr after_ne
          rw [List.length_append]
          omega
        cases joins : c.joined? d with
        | none => rfl
        | some joined =>
          simp only [isHigh_of_joined joins, long, decide_true, Bool.and_self,
            not_true_eq_false] at short
    next other =>
      cases h
      exact ⟨nonempty, .inl ⟨digits, rfl, four, fun low after _ same => absurd same (other _)⟩⟩

theorem string_plain {read : WideText} {left : Nat} (quote : c ≠ .char '"')
    (escape : c ≠ .char '\\') (control : 0x20 ≤ c.toNat) :
    string opening read (left + 1) (c :: s) = string opening (c :: read) left s := by
  conv_lhs => rw [string.eq_def]
  simp only [if_neg quote, if_neg escape, if_neg (Nat.not_lt.mpr control)]

theorem string_simple {read : WideText} {left : Nat} {letter : CodePoint} {e : Char}
    (stands : simpleEscape? letter = some e) :
    string opening read (left + 1) (.char '\\' :: letter :: s) =
      string opening (.char e :: read) left s := by
  have other : letter ≠ .char 'u' := by
    rintro rfl
    exact absurd stands nofun
  conv_lhs => rw [string.eq_def]
  simp [stands]

theorem string_unicode {read : WideText} {left : Nat} (escaped : unicodeEscape (.char 'u' :: s) s =
    .ok (c, rest)) : string opening read (left + 1) (.char '\\' :: .char 'u' :: s) =
      string opening (c :: read) left rest := by
  conv_lhs => rw [string.eq_def]
  simp [escaped]

theorem standsAlone_of_contents (h : Contents text value)
    (alone : ∀ low after d, text = .char '\\' :: .char 'u' :: (low ++ after) →
      FourDigits low d → c.joined? d = none) : StandsAlone c (text ++ .char '"' :: rest) := by
  intro more same
  cases h with
  | nil => cases same
  | plain quote escape control more => exact absurd (List.cons.inj same).1 escape
  | simple stands more =>
    rw [(List.cons.inj (List.cons.inj same).2).1] at stands
    exact absurd stands nofun
  | unicode four _ others =>
    cases same
    exact ⟨_, _, _, List.append_assoc _ _ _, four, by simp, alone _ _ _ rfl four⟩
  | pair first second joins others =>
    cases same
    exact ⟨_, _, _, List.append_assoc _ _ _, first, by simp, alone _ _ _ rfl first⟩

/-- A string is read up to its closing quote. -/
theorem string_of_contents (h : Contents text value) : ∀ {left : Nat} {read : WideText},
    text.length < left → string opening read left (text ++ .char '"' :: rest) =
      .ok (read.reverse ++ value, rest) := by
  induction h with
  | nil =>
    intro left read enough
    obtain ⟨left, rfl⟩ := Nat.exists_eq_add_one_of_ne_zero (by omega : left ≠ 0)
    simp [string]
  | plain quote escape control more ih =>
    intro left read enough
    obtain ⟨left, rfl⟩ := Nat.exists_eq_add_one_of_ne_zero (by omega : left ≠ 0)
    rw [List.length_cons] at enough
    rw [List.cons_append, string_plain quote escape control, ih (by omega)]
    simp
  | simple stands more ih =>
    intro left read enough
    obtain ⟨left, rfl⟩ := Nat.exists_eq_add_one_of_ne_zero (by omega : left ≠ 0)
    rw [List.length_cons, List.length_cons] at enough
    rw [List.cons_append, List.cons_append, string_simple stands, ih (by omega)]
    simp
  | unicode four alone more ih =>
    intro left read enough
    obtain ⟨left, rfl⟩ := Nat.exists_eq_add_one_of_ne_zero (by omega : left ≠ 0)
    rw [List.length_cons, List.length_cons, List.length_append] at enough
    rw [List.cons_append, List.cons_append, List.append_assoc,
      string_unicode (unicodeEscape_alone four (by simp)
        (standsAlone_of_contents more alone)), ih (by omega)]
    simp
  | pair first second joins more ih =>
    intro left read enough
    obtain ⟨left, rfl⟩ := Nat.exists_eq_add_one_of_ne_zero (by omega : left ≠ 0)
    simp only [List.length_cons, List.length_append] at enough
    simp only [List.cons_append, List.append_assoc]
    rw [string_unicode (unicodeEscape_pair first second joins (by simp)), ih (by omega)]
    simp

/-- What was read up to a closing quote is what stands between the quotes. -/
theorem contents_of_string {left : Nat} : ∀ {read s value : WideText},
    string opening read left s = .ok (value, rest) → ∃ text own,
      s = text ++ .char '"' :: rest ∧ value = read.reverse ++ own ∧ Contents text own := by
  induction left with
  | zero =>
    intro read s value h
    cases h
  | succ left ih =>
    intro read s value h
    cases s with
    | nil => cases h
    | cons c s =>
      by_cases quote : c = .char '"'
      · subst quote
        rw [string.eq_def] at h
        cases h
        exact ⟨[], [], rfl, by simp, .nil⟩
      by_cases escape : c = .char '\\'
      · subst escape
        rw [string.eq_def] at h
        simp only [quote, if_false, if_true] at h
        split at h
        · cases h
        next digits =>
          cases escaped : unicodeEscape (.char 'u' :: digits) digits with
          | error e =>
            rw [escaped] at h
            cases h
          | ok read' =>
            obtain ⟨d, after⟩ := read'
            rw [escaped] at h
            obtain ⟨text, own, rfl, rfl, contents⟩ := ih h
            obtain ⟨-, ⟨four, rfl, isFour, alone⟩ | ⟨high, low, first, second, rfl, isFirst,
              isSecond, joins⟩⟩ := unicodeEscape_cases escaped
            · refine ⟨_, d :: own, ?_, by simp, .unicode isFour ?_ contents⟩
              · simp
              · intro low after e same fourLow
                exact alone low (after ++ .char '"' :: rest) e (by rw [same]; simp) fourLow (by simp)
            · exact ⟨_, d :: own, by simp, by simp, .pair isFirst isSecond joins contents⟩
        next letter after _ =>
          cases stands : simpleEscape? letter with
          | none =>
            rw [stands] at h
            cases h
          | some d =>
            rw [stands] at h
            obtain ⟨text, own, rfl, rfl, contents⟩ := ih h
            exact ⟨.char '\\' :: letter :: text, .char d :: own, rfl, by simp,
              .simple stands contents⟩
      · rw [string.eq_def] at h
        simp only [quote, escape, if_false] at h
        split at h
        · cases h
        next control =>
          obtain ⟨text, own, rfl, rfl, contents⟩ := ih h
          exact ⟨c :: text, c :: own, rfl, by simp, .plain quote escape (by omega) contents⟩

end OperationDocuments.Json.Parser
