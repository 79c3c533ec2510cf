/-! # Lines, words and letters

How a text falls into lines and words, which characters count as digits, and how letters become
small. -/
namespace OperationDocuments.Text

/-! ## Lines

A line ends at a line feed, at a carriage return, or at a carriage return followed by a line
feed, which together count as one end. `lines` cuts a text there, `unifyNewlines` writes every
end as a line feed. Neither looks at any other character, so the wider line separators of
Unicode belong to the line they stand in. -/

/-- The lines of a text, without their ends. The text after the last end is a line too, so
there is always at least one. -/
def lines : List Char → List (List Char)
  | [] => [[]]
  | '\r' :: '\n' :: rest => [] :: lines rest
  | c :: rest =>
    if c = '\n' ∨ c = '\r' then [] :: lines rest
    else match lines rest with
      | [] => [[c]]
      | line :: more => (c :: line) :: more

def unifyNewlines : List Char → List Char
  | [] => []
  | '\r' :: '\n' :: rest => '\n' :: unifyNewlines rest
  | c :: rest => (if c = '\r' then '\n' else c) :: unifyNewlines rest

theorem lines_ne_nil (s : List Char) : lines s ≠ [] := by
  fun_cases lines s <;> simp_all

theorem lines_cons {c : Char} (plain : c ∉ ['\r', '\n']) (rest : List Char) :
    ∃ line more, lines (c :: rest) = (c :: line) :: more := by
  simp only [List.mem_cons, List.not_mem_nil, or_false, not_or] at plain
  obtain ⟨notReturn, notFeed⟩ := plain
  rw [lines.eq_3 c rest fun _ same => absurd same notReturn, if_neg (by simp [notReturn, notFeed])]
  cases lines rest with
  | nil => exact ⟨[], [], rfl⟩
  | cons line more => exact ⟨line, more, rfl⟩

def splitWhere (separates : Char → Bool) : List Char → List (List Char)
  | [] => [[]]
  | c :: rest =>
    if separates c then [] :: splitWhere separates rest
    else match splitWhere separates rest with
      | [] => [[c]]
      | part :: more => (c :: part) :: more

def splitAt (separator : Char) (s : List Char) : List (List Char) :=
  splitWhere (· == separator) s

theorem splitWhere_ne_nil (separates : Char → Bool) (s : List Char) :
    splitWhere separates s ≠ [] := by
  fun_cases splitWhere separates s <;> simp_all

theorem length_le_of_mem_splitWhere {separates : Char → Bool} {s part : List Char}
    (h : part ∈ splitWhere separates s) : part.length ≤ s.length := by
  induction s generalizing part with
  | nil => simp_all [splitWhere]
  | cons d s ih =>
    unfold splitWhere at h
    split at h
    · rcases List.mem_cons.mp h with rfl | h
      · exact Nat.zero_le _
      · exact Nat.le_succ_of_le (ih h)
    · split at h
      · obtain rfl := List.mem_singleton.mp h
        exact Nat.succ_le_succ (Nat.zero_le _)
      · next first more parts =>
        rcases List.mem_cons.mp h with rfl | h
        · exact Nat.succ_le_succ (ih (by simp [parts]))
        · exact Nat.le_succ_of_le (ih (by simp [parts, h]))

theorem mem_of_mem_splitWhere {separates : Char → Bool} {s part : List Char} {c : Char}
    (h : part ∈ splitWhere separates s) (hc : c ∈ part) : c ∈ s ∧ separates c = false := by
  induction s generalizing part with
  | nil => simp_all [splitWhere]
  | cons d s ih =>
    have later : ∀ {part : List Char}, part ∈ splitWhere separates s → c ∈ part →
        c ∈ d :: s ∧ separates c = false :=
      fun among inside => ⟨List.mem_cons_of_mem _ (ih among inside).1, (ih among inside).2⟩
    unfold splitWhere at h
    split at h
    · rcases List.mem_cons.mp h with rfl | h
      · cases hc
      · exact later h hc
    · next plain =>
      have plain : separates d = false := by simpa using plain
      split at h
      · obtain rfl := List.mem_singleton.mp h
        obtain rfl := List.mem_singleton.mp hc
        exact ⟨by simp, plain⟩
      · next first more parts =>
        rcases List.mem_cons.mp h with rfl | h
        · rcases List.mem_cons.mp hc with rfl | hc
          · exact ⟨by simp, plain⟩
          · exact later (by simp [parts]) hc
        · exact later (by simp [parts, h]) hc

theorem splitWhere_append {separates : Char → Bool} {c : Char} (h : separates c = true)
    (front behind : List Char) : splitWhere separates (front ++ c :: behind) =
      splitWhere separates front ++ splitWhere separates behind := by
  induction front with
  | nil => simp [splitWhere, h]
  | cons d front ih =>
    by_cases apart : separates d = true
    · simp [splitWhere, apart, ih]
    · obtain ⟨part, more, split⟩ :=
        List.exists_cons_of_ne_nil (splitWhere_ne_nil separates front)
      simp [splitWhere, apart, ih, split]

theorem splitWhere_of_plain {separates : Char → Bool} {part : List Char}
    (plain : ∀ c ∈ part, separates c = false) : splitWhere separates part = [part] := by
  induction part with
  | nil => rfl
  | cons c part ih =>
    have later := ih fun d among => plain d (List.mem_cons_of_mem c among)
    simp [splitWhere, plain c List.mem_cons_self, later]

theorem splitAt_append (separator : Char) (front behind : List Char) :
    splitAt separator (front ++ separator :: behind) =
      splitAt separator front ++ splitAt separator behind := by
  unfold splitAt
  refine splitWhere_append ?_ front behind
  exact beq_self_eq_true separator

theorem splitAt_eq (separator : Char) (s : List Char) :
    splitAt separator s = s.takeWhile (· != separator) ::
      match s.dropWhile (· != separator) with
      | [] => []
      | _ :: rest => splitAt separator rest := by
  unfold splitAt
  induction s with
  | nil => rfl
  | cons c rest ih =>
    rw [splitWhere]
    by_cases h : c = separator
    · simp [h]
    · rw [ih]
      simp [h]

def joinWith (separator : List Char) : List (List Char) → List Char
  | [] => []
  | [part] => part
  | part :: more => part ++ separator ++ joinWith separator more

/-- Parts without the separator are what their joined text is split into. -/
theorem splitAt_joinWith {separator : Char} {parts : List (List Char)} (some_part : parts ≠ [])
    (plain : ∀ part ∈ parts, separator ∉ part) :
    splitAt separator (joinWith [separator] parts) = parts := by
  induction parts with
  | nil => exact absurd rfl some_part
  | cons part more ih =>
    have whole : splitAt separator part = [part] := by
      refine splitWhere_of_plain fun c among => ?_
      have other : c ≠ separator := fun same => plain part List.mem_cons_self (same ▸ among)
      simpa using other
    cases more with
    | nil => exact whole
    | cons next more =>
      have later := ih (List.cons_ne_nil next more) fun other among =>
        plain other (List.mem_cons_of_mem part among)
      rw [joinWith, List.append_assoc, List.singleton_append, splitAt_append, whole, later]
      · rfl
      · exact nofun

/-! ## Blanks

The white space of Unicode as text processing counts it: the information separators
U+001C to U+001F are blanks, zero width spaces and the byte order mark are not. -/

def blankRanges : List (Nat × Nat) :=
  [(0x09, 0x0D), (0x1C, 0x20), (0x85, 0x85), (0xA0, 0xA0), (0x1680, 0x1680), (0x2000, 0x200A),
   (0x2028, 0x2029), (0x202F, 0x202F), (0x205F, 0x205F), (0x3000, 0x3000)]

def isBlank (c : Char) : Bool :=
  blankRanges.any fun range => range.1 ≤ c.toNat && c.toNat ≤ range.2

def words (s : List Char) : List (List Char) :=
  (splitWhere isBlank s).filter (!·.isEmpty)

/-- The words of a text with one space between each two: runs of blanks shrink to a space and
vanish at both ends. -/
def squeeze (s : List Char) : List Char := joinWith [' '] (words s)

def trim (s : List Char) : List Char :=
  ((s.dropWhile isBlank).reverse.dropWhile isBlank).reverse

/-! ## Decimal digits

The decimal digits of all scripts, as of Unicode 14. Each script has ten in a row, beginning with
its zero. -/

def digitZeros : List Nat :=
  [0x0030, 0x0660, 0x06F0, 0x07C0, 0x0966, 0x09E6, 0x0A66, 0x0AE6, 0x0B66, 0x0BE6, 0x0C66, 0x0CE6,
   0x0D66, 0x0DE6, 0x0E50, 0x0ED0, 0x0F20, 0x1040, 0x1090, 0x17E0, 0x1810, 0x1946, 0x19D0, 0x1A80,
   0x1A90, 0x1B50, 0x1BB0, 0x1C40, 0x1C50, 0xA620, 0xA8D0, 0xA900, 0xA9D0, 0xA9F0, 0xAA50, 0xABF0,
   0xFF10, 0x104A0, 0x10D30, 0x11066, 0x110F0, 0x11136, 0x111D0, 0x112F0, 0x11450, 0x114D0,
   0x11650, 0x116C0, 0x11730, 0x118E0, 0x11950, 0x11C50, 0x11D50, 0x11DA0, 0x16A60, 0x16AC0,
   0x16B50, 0x1D7CE, 0x1D7D8, 0x1D7E2, 0x1D7EC, 0x1D7F6, 0x1E140, 0x1E2F0, 0x1E950, 0x1FBF0]

def decimalValue? (c : Char) : Option Nat :=
  (digitZeros.find? fun first => first ≤ c.toNat && c.toNat < first + 10).map (c.toNat - ·)

def isDecimalDigit (c : Char) : Bool := (decimalValue? c).isSome

def isDigitRun : List Char → Bool
  | [c] => isDecimalDigit c
  | c :: '_' :: rest => isDecimalDigit c && isDigitRun rest
  | c :: rest => isDecimalDigit c && isDigitRun rest
  | [] => false

/-- Blanks that may stand around a number: the information separators do not count. -/
def isNumberBlank (c : Char) : Bool := isBlank c && !(0x1C ≤ c.toNat && c.toNat < 0x20)

def unsigned (s : List Char) : Bool × List Char :=
  let s := ((s.dropWhile isNumberBlank).reverse.dropWhile isNumberBlank).reverse
  match s with
  | '-' :: rest => (true, rest)
  | '+' :: rest => (false, rest)
  | s => (false, s)

def readInteger? (s : List Char) : Option Int :=
  let (negative, digits) := unsigned s
  if isDigitRun digits then
    let n : Nat := (digits.filterMap decimalValue?).foldl (fun n d => 10 * n + d) 0
    some (if negative then -(n : Int) else n)
  else none

private def isExponent (s : List Char) : Bool :=
  match s with
  | '+' :: ds | '-' :: ds => isDigitRun ds
  | ds => isDigitRun ds

/-- Whether a text spells a number: decimal, perhaps with an exponent, or one of the words for what
is no finite number; in any case and with blanks around it. -/
def isNumber (s : List Char) : Bool :=
  let body := (unsigned s).2.map Char.toLower
  let mantissa := body.takeWhile (· != 'e')
  let exponent := body.drop (mantissa.length + 1)
  let whole := mantissa.takeWhile (· != '.')
  let fraction := mantissa.drop (whole.length + 1)
  ["inf".toList, "infinity".toList, "nan".toList].contains body ||
    ((isDigitRun whole || (whole.isEmpty && !fraction.isEmpty))
      && (fraction.isEmpty || isDigitRun fraction)
      && (!body.contains 'e' || isExponent exponent))

/-! ## Small letters

The small letters that belong to the capital letters of all scripts, as of Unicode 14. -/

/-- Capital letters from the first to the last in steps, and how far on their small letters are. -/
def capitalRanges : List (Nat × Nat × Nat × Int) :=
  [(0xC0, 0xD6, 1, 32), (0xD8, 0xDE, 1, 32), (0x100, 0x12E, 2, 1), (0x132, 0x136, 2, 1),
   (0x139, 0x147, 2, 1), (0x14A, 0x176, 2, 1), (0x178, 0x178, 1, -121), (0x179, 0x17D, 2, 1),
   (0x181, 0x181, 1, 210), (0x182, 0x184, 2, 1), (0x186, 0x186, 1, 206), (0x187, 0x187, 1, 1),
   (0x189, 0x18A, 1, 205), (0x18B, 0x18B, 1, 1), (0x18E, 0x18E, 1, 79), (0x18F, 0x18F, 1, 202),
   (0x190, 0x190, 1, 203), (0x191, 0x191, 1, 1), (0x193, 0x193, 1, 205), (0x194, 0x194, 1, 207),
   (0x196, 0x196, 1, 211), (0x197, 0x197, 1, 209), (0x198, 0x198, 1, 1), (0x19C, 0x19C, 1, 211),
   (0x19D, 0x19D, 1, 213), (0x19F, 0x19F, 1, 214), (0x1A0, 0x1A4, 2, 1), (0x1A6, 0x1A6, 1, 218),
   (0x1A7, 0x1A7, 1, 1), (0x1A9, 0x1A9, 1, 218), (0x1AC, 0x1AC, 1, 1), (0x1AE, 0x1AE, 1, 218),
   (0x1AF, 0x1AF, 1, 1), (0x1B1, 0x1B2, 1, 217), (0x1B3, 0x1B5, 2, 1), (0x1B7, 0x1B7, 1, 219),
   (0x1B8, 0x1B8, 1, 1), (0x1BC, 0x1BC, 1, 1), (0x1C4, 0x1C4, 1, 2), (0x1C5, 0x1C5, 1, 1),
   (0x1C7, 0x1C7, 1, 2), (0x1C8, 0x1C8, 1, 1), (0x1CA, 0x1CA, 1, 2), (0x1CB, 0x1DB, 2, 1),
   (0x1DE, 0x1EE, 2, 1), (0x1F1, 0x1F1, 1, 2), (0x1F2, 0x1F4, 2, 1), (0x1F6, 0x1F6, 1, -97),
   (0x1F7, 0x1F7, 1, -56), (0x1F8, 0x21E, 2, 1), (0x220, 0x220, 1, -130), (0x222, 0x232, 2, 1),
   (0x23A, 0x23A, 1, 10795), (0x23B, 0x23B, 1, 1), (0x23D, 0x23D, 1, -163),
   (0x23E, 0x23E, 1, 10792), (0x241, 0x241, 1, 1), (0x243, 0x243, 1, -195),
   (0x244, 0x244, 1, 69), (0x245, 0x245, 1, 71), (0x246, 0x24E, 2, 1), (0x370, 0x372, 2, 1),
   (0x376, 0x376, 1, 1), (0x37F, 0x37F, 1, 116), (0x386, 0x386, 1, 38), (0x388, 0x38A, 1, 37),
   (0x38C, 0x38C, 1, 64), (0x38E, 0x38F, 1, 63), (0x391, 0x3A1, 1, 32), (0x3A3, 0x3AB, 1, 32),
   (0x3CF, 0x3CF, 1, 8), (0x3D8, 0x3EE, 2, 1), (0x3F4, 0x3F4, 1, -60), (0x3F7, 0x3F7, 1, 1),
   (0x3F9, 0x3F9, 1, -7), (0x3FA, 0x3FA, 1, 1), (0x3FD, 0x3FF, 1, -130), (0x400, 0x40F, 1, 80),
   (0x410, 0x42F, 1, 32), (0x460, 0x480, 2, 1), (0x48A, 0x4BE, 2, 1), (0x4C0, 0x4C0, 1, 15),
   (0x4C1, 0x4CD, 2, 1), (0x4D0, 0x52E, 2, 1), (0x531, 0x556, 1, 48), (0x10A0, 0x10C5, 1, 7264),
   (0x10C7, 0x10C7, 1, 7264), (0x10CD, 0x10CD, 1, 7264), (0x13A0, 0x13EF, 1, 38864),
   (0x13F0, 0x13F5, 1, 8), (0x1C90, 0x1CBA, 1, -3008), (0x1CBD, 0x1CBF, 1, -3008),
   (0x1E00, 0x1E94, 2, 1), (0x1E9E, 0x1E9E, 1, -7615), (0x1EA0, 0x1EFE, 2, 1),
   (0x1F08, 0x1F0F, 1, -8), (0x1F18, 0x1F1D, 1, -8), (0x1F28, 0x1F2F, 1, -8),
   (0x1F38, 0x1F3F, 1, -8), (0x1F48, 0x1F4D, 1, -8), (0x1F59, 0x1F5F, 2, -8),
   (0x1F68, 0x1F6F, 1, -8), (0x1F88, 0x1F8F, 1, -8), (0x1F98, 0x1F9F, 1, -8),
   (0x1FA8, 0x1FAF, 1, -8), (0x1FB8, 0x1FB9, 1, -8), (0x1FBA, 0x1FBB, 1, -74),
   (0x1FBC, 0x1FBC, 1, -9), (0x1FC8, 0x1FCB, 1, -86), (0x1FCC, 0x1FCC, 1, -9),
   (0x1FD8, 0x1FD9, 1, -8), (0x1FDA, 0x1FDB, 1, -100), (0x1FE8, 0x1FE9, 1, -8),
   (0x1FEA, 0x1FEB, 1, -112), (0x1FEC, 0x1FEC, 1, -7), (0x1FF8, 0x1FF9, 1, -128),
   (0x1FFA, 0x1FFB, 1, -126), (0x1FFC, 0x1FFC, 1, -9), (0x2126, 0x2126, 1, -7517),
   (0x212A, 0x212A, 1, -8383), (0x212B, 0x212B, 1, -8262), (0x2132, 0x2132, 1, 28),
   (0x2160, 0x216F, 1, 16), (0x2183, 0x2183, 1, 1), (0x24B6, 0x24CF, 1, 26),
   (0x2C00, 0x2C2F, 1, 48), (0x2C60, 0x2C60, 1, 1), (0x2C62, 0x2C62, 1, -10743),
   (0x2C63, 0x2C63, 1, -3814), (0x2C64, 0x2C64, 1, -10727), (0x2C67, 0x2C6B, 2, 1),
   (0x2C6D, 0x2C6D, 1, -10780), (0x2C6E, 0x2C6E, 1, -10749), (0x2C6F, 0x2C6F, 1, -10783),
   (0x2C70, 0x2C70, 1, -10782), (0x2C72, 0x2C72, 1, 1), (0x2C75, 0x2C75, 1, 1),
   (0x2C7E, 0x2C7F, 1, -10815), (0x2C80, 0x2CE2, 2, 1), (0x2CEB, 0x2CED, 2, 1),
   (0x2CF2, 0x2CF2, 1, 1), (0xA640, 0xA66C, 2, 1), (0xA680, 0xA69A, 2, 1),
   (0xA722, 0xA72E, 2, 1), (0xA732, 0xA76E, 2, 1), (0xA779, 0xA77B, 2, 1),
   (0xA77D, 0xA77D, 1, -35332), (0xA77E, 0xA786, 2, 1), (0xA78B, 0xA78B, 1, 1),
   (0xA78D, 0xA78D, 1, -42280), (0xA790, 0xA792, 2, 1), (0xA796, 0xA7A8, 2, 1),
   (0xA7AA, 0xA7AA, 1, -42308), (0xA7AB, 0xA7AB, 1, -42319), (0xA7AC, 0xA7AC, 1, -42315),
   (0xA7AD, 0xA7AD, 1, -42305), (0xA7AE, 0xA7AE, 1, -42308), (0xA7B0, 0xA7B0, 1, -42258),
   (0xA7B1, 0xA7B1, 1, -42282), (0xA7B2, 0xA7B2, 1, -42261), (0xA7B3, 0xA7B3, 1, 928),
   (0xA7B4, 0xA7C2, 2, 1), (0xA7C4, 0xA7C4, 1, -48), (0xA7C5, 0xA7C5, 1, -42307),
   (0xA7C6, 0xA7C6, 1, -35384), (0xA7C7, 0xA7C9, 2, 1), (0xA7D0, 0xA7D0, 1, 1),
   (0xA7D6, 0xA7D8, 2, 1), (0xA7F5, 0xA7F5, 1, 1), (0xFF21, 0xFF3A, 1, 32),
   (0x10400, 0x10427, 1, 40), (0x104B0, 0x104D3, 1, 40), (0x10570, 0x1057A, 1, 39),
   (0x1057C, 0x1058A, 1, 39), (0x1058C, 0x10592, 1, 39), (0x10594, 0x10595, 1, 39),
   (0x10C80, 0x10CB2, 1, 64), (0x118A0, 0x118BF, 1, 32), (0x16E40, 0x16E5F, 1, 32),
   (0x1E900, 0x1E921, 1, 34)]

private def capitalRange? (n : Nat) : Option (Nat × Nat × Nat × Int) :=
  capitalRanges.find? fun r => r.1 ≤ n && n ≤ r.2.1 && (n - r.1) % r.2.2.1 == 0

def smallLetter (c : Char) : Char :=
  match capitalRange? c.toNat with
  | some r => Char.ofNat ((c.toNat : Int) + r.2.2.2).toNat
  | none => c.toLower

private def isCased (c : Char) : Bool :=
  c.isAlpha || (capitalRange? c.toNat).isSome ||
    capitalRanges.any fun r =>
      let n := (c.toNat : Int) - r.2.2.2
      r.1 ≤ n && n ≤ r.2.1 && (n - r.1) % r.2.2.1 == 0

private def isInsideWords (c : Char) : Bool :=
  ['.', ':', '\'', '\u00B7', '\u2019', '\u00AD', '\u0387'].contains c || ('\u0300' ≤ c && c ≤ '\u036F')

/-- A text in small letters, with those before it, latest first. A capital sigma at the end of a
word has a small letter of its own. -/
private def lowerCaseFrom (before : List Char) : List Char → List Char
  | [] => []
  | c :: rest =>
    let small :=
      if c = '\u0130' then ['i', '\u0307']
      else if c = '\u03A3' then
        let previous := before.find? (!isInsideWords ·)
        let next := rest.find? (!isInsideWords ·)
        if previous.any isCased && !next.any isCased then ['\u03C2'] else ['\u03C3']
      else [smallLetter c]
    small ++ lowerCaseFrom (c :: before) rest

def lowerCase (s : List Char) : List Char := lowerCaseFrom [] s

end OperationDocuments.Text
