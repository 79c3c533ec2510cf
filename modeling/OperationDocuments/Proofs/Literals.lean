import Mathlib
import OperationDocuments.Generated.Template

/-! # Written literals

What a literal of a module is read as, and which characters it consists of. -/
namespace OperationDocuments.Generated

/-! ## Literals read back

A text is put into a module as a literal in one of three ways: with escapes between two quotes,
as it stands between six, or as a part of a docstring. Each way is undone by reading, which goes
character by character; what has to be seen is that no quote of the text is taken for a closing
one. -/

open Text

variable {quote c : Char} {isTriple : Bool} {s rest value behind : List Char}

namespace Escape

theorem isHexDigit_hexDigit : ∀ d, d < 16 → isHexDigit (hexDigit d) = true := by decide

theorem digitValue_hexDigit : ∀ d, d < 16 → digitValue (hexDigit d) = d := by decide

theorem length_hexDigits (width n : Nat) : (hexDigits width n).length = width := by
  induction width generalizing n with
  | zero => rfl
  | succ width ih => simp [hexDigits, ih]

theorem all_isHexDigit_hexDigits (width n : Nat) :
    (hexDigits width n).all isHexDigit = true := by
  induction width generalizing n with
  | zero => rfl
  | succ width ih =>
    simp [hexDigits, ih, isHexDigit_hexDigit _ (Nat.mod_lt n (by decide))]

theorem hexValue_hexDigits {width n : Nat} (h : n < 16 ^ width) :
    hexValue (hexDigits width n) = n := by
  induction width generalizing n with
  | zero =>
    obtain rfl : n = 0 := by simpa using h
    rfl
  | succ width ih =>
    have front := ih (Nat.div_lt_of_lt_mul (by rwa [Nat.pow_succ, Nat.mul_comm] at h))
    unfold hexValue at front ⊢
    rw [hexDigits, List.foldl_append, front, List.foldl_cons, List.foldl_nil,
      digitValue_hexDigit _ (Nat.mod_lt n (by decide))]
    omega

theorem charOf?_toNat (c : Char) : charOf? c.toNat = some c := by
  have valid : c.toNat.isValidChar := c.valid
  rw [charOf?, if_pos valid, Char.ofNat_toNat]

theorem read_hexDigits {letter : Char} {width : Nat} (hl : letter ≠ '\n')
    (plain : letterValue? letter = none) (digits : digitsOf letter = some width) (c : Char)
    (fits : c.toNat < 16 ^ width) (rest : List Char) :
    read (letter :: hexDigits width c.toNat ++ rest) = some ([c], rest) := by
  have taken : (hexDigits width c.toNat ++ rest).take width = hexDigits width c.toNat := by
    rw [List.take_append_of_le_length (length_hexDigits _ _).ge, List.take_of_length_le
      (length_hexDigits _ _).le]
  have dropped : (hexDigits width c.toNat ++ rest).drop width = rest := by
    rw [List.drop_append_of_le_length (length_hexDigits _ _).ge, List.drop_of_length_le
      (length_hexDigits _ _).le, List.nil_append]
  simp only [read, List.cons_append, hl, if_false, plain, digits, taken, dropped,
    length_hexDigits, all_isHexDigit_hexDigits, true_and, if_true, hexValue_hexDigits fits,
    charOf?_toNat, Option.map_some]

end Escape

theorem readBody_escape (h : Escape.read rest = some (value, behind)) :
    readBody quote isTriple ('\\' :: rest) =
      (readBody quote isTriple behind).map fun (more, behind) => (value ++ more, behind) := by
  rw [readBody]
  simp only [if_true]
  split
  · next e => simp [h] at e
  · next e =>
    rw [h] at e
    cases e
    rfl

theorem readBody_cons (notEscape : c ≠ '\\')
    (notClosing : c = quote → isTriple = true ∧ ¬[quote, quote] <+: rest)
    (inLine : isTriple = true ∨ c ≠ '\n') :
    readBody quote isTriple (c :: rest) =
      (readBody quote isTriple rest).map fun (more, behind) => (c :: more, behind) := by
  rw [readBody, if_neg notEscape, if_neg, if_neg]
  · rintro ⟨rfl, single⟩
    rcases inLine with triple | other
    · simp [triple] at single
    · exact other rfl
  · rintro ⟨rfl, closes⟩
    obtain ⟨triple, open'⟩ := notClosing rfl
    simp [triple, List.isPrefixOf_iff_prefix, open'] at closes

theorem readBody_closing (hq : quote ≠ '\\') :
    readBody quote isTriple (List.replicate (if isTriple then 3 else 1) quote ++ rest) =
      some ([], rest) := by
  cases isTriple with
  | false => simp [readBody, hq]
  | true => simp [readBody, hq, List.replicate_succ, List.isPrefixOf]

/-- A text that, whatever plain text follows, is read as a literal of this value. -/
def Spells (text value : List Char) : Prop :=
  ∃ quote tail, (quote = '"' ∨ quote = '\'') ∧ text = quote :: tail ∧
    ∀ rest : List Char, rest.head? ≠ some quote →
      readLiteral quote (tail ++ rest) = some (value, rest)

theorem read_of_letterValue? {letter d : Char} (hl : letter ≠ '\n')
    (h : Escape.letterValue? letter = some d) (rest : List Char) :
    Escape.read (letter :: rest) = some ([d], rest) := by
  simp [Escape.read, hl, h]

theorem readBody_literalEscape (hq : quote = '"' ∨ quote = '\'') (c : Char) (rest : List Char) :
    readBody quote isTriple (literalEscape quote c ++ rest) =
      (readBody quote isTriple rest).map fun (more, behind) => (c :: more, behind) := by
  have numbered : ∀ (letter : Char) (width : Nat), letter ≠ '\n' →
      Escape.letterValue? letter = none → Escape.digitsOf letter = some width →
      c.toNat < 16 ^ width →
      readBody quote isTriple (('\\' :: letter :: hexDigits width c.toNat) ++ rest) =
        (readBody quote isTriple rest).map fun (more, behind) => (c :: more, behind) := by
    intro letter width hl plain digits fits
    exact readBody_escape (Escape.read_hexDigits hl plain digits c fits rest)
  simp only [literalEscape]
  split_ifs with escaped newline return' tab printable small medium
  · refine readBody_escape (read_of_letterValue? ?_ ?_ rest)
    · rintro rfl
      rcases hq with rfl | rfl <;> simp at escaped
    · rcases escaped with rfl | rfl
      · rcases hq with rfl | rfl <;> rfl
      · rfl
  · subst newline
    exact readBody_escape (read_of_letterValue? (by decide) rfl rest)
  · subst return'
    exact readBody_escape (read_of_letterValue? (by decide) rfl rest)
  · subst tab
    exact readBody_escape (read_of_letterValue? (by decide) rfl rest)
  · exact readBody_cons (fun h => escaped (Or.inr h)) (fun h => absurd (Or.inl h) escaped)
      (Or.inr newline)
  · exact numbered 'x' 2 (by decide) rfl rfl small
  · exact numbered 'u' 4 (by decide) rfl rfl medium
  · refine numbered 'U' 8 (by decide) rfl rfl ?_
    have valid := c.valid
    simp only [UInt32.isValidChar, Nat.isValidChar] at valid
    simp only [Char.toNat]
    omega

theorem readBody_flatMap_literalEscape (hq : quote = '"' ∨ quote = '\'') (s rest : List Char) :
    readBody quote isTriple (s.flatMap (literalEscape quote) ++ rest) =
      (readBody quote isTriple rest).map fun (more, behind) => (s ++ more, behind) := by
  induction s with
  | nil => simp
  | cons c s ih =>
    rw [List.flatMap_cons, List.append_assoc, readBody_literalEscape hq, ih]
    simp [Function.comp_def]

theorem literalQuote_eq (s : List Char) : literalQuote s = '"' ∨ literalQuote s = '\'' := by
  unfold literalQuote
  split
  · exact Or.inl rfl
  · exact Or.inr rfl

theorem literalEscape_eq_cons (quote c : Char) (hq : quote ≠ '\\') :
    ∃ first more, literalEscape quote c = first :: more ∧ first ≠ quote := by
  simp only [literalEscape]
  split_ifs with escaped
  all_goals first
    | exact ⟨_, _, rfl, fun h => escaped (Or.inl h)⟩
    | exact ⟨_, _, rfl, hq.symm⟩

theorem spells_literal (s : List Char) : Spells (literal s) s := by
  have isQuote := literalQuote_eq s
  have hq : literalQuote s ≠ '\\' := by rcases isQuote with h | h <;> simp [h]
  refine ⟨literalQuote s, s.flatMap (literalEscape (literalQuote s)) ++ [literalQuote s],
    isQuote, rfl, fun rest apart => ?_⟩
  have single : ¬[literalQuote s, literalQuote s] <+:
      s.flatMap (literalEscape (literalQuote s)) ++ [literalQuote s] ++ rest := by
    cases s with
    | nil =>
      cases rest with
      | nil => simp
      | cons c rest =>
        intro both
        simp only [List.flatMap_nil, List.nil_append, List.cons_append,
          List.cons_prefix_cons, true_and] at both
        exact apart (by simp [both.1])
    | cons c s =>
      obtain ⟨first, more, he, hne⟩ := literalEscape_eq_cons (literalQuote (c :: s)) c hq
      intro both
      simp only [List.flatMap_cons, he, List.cons_append, List.cons_prefix_cons] at both
      exact hne both.1.symm
  rw [readLiteral, if_neg (by simpa [List.isPrefixOf_iff_prefix] using single),
    List.append_assoc, readBody_flatMap_literalEscape isQuote]
  have closing : readBody (literalQuote s) false ([literalQuote s] ++ rest) = some ([], rest) :=
    readBody_closing hq
  rw [closing]
  simp

theorem readBody_unescaped (noEscape : '\\' ∉ s) (noTriple : hasTriple s = false)
    (open' : s.getLast? ≠ some '"') (rest : List Char) :
    readBody '"' true (s ++ '"' :: '"' :: '"' :: rest) = some (s, rest) := by
  induction s with
  | nil => exact @readBody_closing '"' true rest (by decide)
  | cons c s ih =>
    obtain ⟨plain, noEscape⟩ := not_or.mp (mt List.mem_cons.mpr noEscape)
    have shorter : hasTriple s = false ∧ s.getLast? ≠ some '"' := by
      constructor
      · unfold hasTriple at noTriple
        split at noTriple <;> simp_all
      · cases s with
        | nil => simp
        | cons d s => simpa using open'
    have apart : c = '"' → true = true ∧ ¬['"', '"'] <+: s ++ '"' :: '"' :: '"' :: rest := by
      rintro rfl
      refine ⟨rfl, fun both => ?_⟩
      match s, open', noTriple, both with
      | [], open', _, _ => exact open' rfl
      | [d], open', _, both =>
        simp only [List.cons_append, List.cons_prefix_cons] at both
        obtain ⟨rfl, -⟩ := both
        exact open' rfl
      | d :: e :: s, _, noTriple, both =>
        simp only [List.cons_append, List.cons_prefix_cons] at both
        obtain ⟨rfl, rfl, -⟩ := both
        simp [hasTriple] at noTriple
    rw [List.cons_append, readBody_cons (Ne.symm plain) apart (Or.inl rfl),
      ih noEscape shorter.1 shorter.2, Option.map_some]

theorem spells_stringLiteral (s : List Char) : Spells (stringLiteral s) s := by
  unfold stringLiteral
  split
  · next plain =>
    simp only [Bool.and_eq_true, Bool.not_eq_true', List.contains_eq_mem, decide_eq_true_eq,
      decide_eq_false_iff_not, bne_iff_ne] at plain
    obtain ⟨⟨⟨-, noTriple⟩, noEscape⟩, open'⟩ := plain
    refine ⟨'"', _, Or.inl rfl, rfl, fun rest _ => ?_⟩
    have body := readBody_unescaped noEscape noTriple open' rest
    have continued : Escape.read ('\n' :: (s ++ '"' :: '"' :: '"' :: rest)) =
        some ([], s ++ '"' :: '"' :: '"' :: rest) := rfl
    simp [readLiteral, List.isPrefixOf, readBody_escape continued, body]
  · exact spells_literal s

/-- A docstring but for the blank at its end: runs of three quotes and backslashes are escaped. -/
def escapeRuns : List Char → List Char
  | '"' :: '"' :: '"' :: rest => '\\' :: '"' :: '\\' :: '"' :: '\\' :: '"' :: escapeRuns rest
  | '\\' :: rest => '\\' :: '\\' :: escapeRuns rest
  | c :: rest => c :: escapeRuns rest
  | [] => []

/-- What is read of a docstring. -/
def docstringValue (s : List Char) : List Char :=
  if s.getLast? = some '"' then s ++ [' '] else s

theorem getLast?_ne_of_cons {d : Char} (h : (c :: s).getLast? ≠ some d) : s.getLast? ≠ some d := by
  intro e
  rw [List.getLast?_cons, e, Option.getD_some] at h
  exact h rfl

theorem replaceTriples_cons {replacement : List Char} (h : c = '"' → ¬['"', '"'] <+: rest) :
    BlockString.replaceTriples replacement (c :: rest) =
      c :: BlockString.replaceTriples replacement rest := by
  unfold BlockString.replaceTriples
  split
  · next e =>
    obtain ⟨rfl, rfl⟩ := List.cons.inj e
    exact absurd (by simp) (h rfl)
  · next e =>
    obtain ⟨rfl, rfl⟩ := List.cons.inj e
    rw [BlockString.replaceTriples.eq_def]
  · next e => cases e

theorem replaceTriples_doubled (s : List Char) :
    BlockString.replaceTriples ['\\', '"', '\\', '"', '\\', '"']
      (s.flatMap fun c => if c = '\\' then ['\\', '\\'] else [c]) = escapeRuns s := by
  fun_induction escapeRuns s with
  | case1 rest ih => simp [BlockString.replaceTriples, ih]
  | case2 rest ih => simp [replaceTriples_cons, ih]
  | case3 c rest notTriple notEscape ih =>
    have plain : c ≠ '\\' := fun h => notEscape h
    rw [List.flatMap_cons, if_neg plain, List.singleton_append, replaceTriples_cons, ih]
    rintro rfl both
    match rest, notTriple, both with
    | [], _, both => simp at both
    | [d], _, both => by_cases h : d = '\\' <;> simp [h] at both
    | d :: e :: rest, notTriple, both =>
      by_cases hd : d = '\\'
      · simp [hd] at both
      · by_cases he : e = '\\'
        · simp [hd, he] at both
        · simp only [List.flatMap_cons, hd, he, if_false, List.cons_append, List.nil_append,
            List.cons_prefix_cons] at both
          obtain ⟨rfl, rfl, -⟩ := both
          exact notTriple rest rfl rfl
  | case4 => rfl

theorem escapeRuns_eq_cons (h : c ≠ '"') :
    ∃ first more, escapeRuns (c :: s) = first :: more ∧ first ≠ '"' := by
  by_cases escape : c = '\\'
  · subst escape
    exact ⟨_, _, escapeRuns.eq_2 s, by decide⟩
  · refine ⟨c, escapeRuns s, ?_, h⟩
    rw [escapeRuns.eq_3 c s (fun _ e _ => h e) escape]

theorem getLast?_escapeRuns (s : List Char) : (escapeRuns s).getLast? = s.getLast? := by
  fun_induction escapeRuns s with
  | case1 rest ih => simp [List.getLast?_cons, ih]
  | case2 rest ih => simp [List.getLast?_cons, ih]
  | case3 c rest notTriple notEscape ih => simp [List.getLast?_cons, ih]
  | case4 => rfl

theorem docstring_eq (s : List Char) : docstring s =
    if s.getLast? = some '"' then escapeRuns s ++ [' '] else escapeRuns s := by
  simp only [docstring, replaceTriples_doubled, getLast?_escapeRuns, beq_iff_eq]

/-- Two quotes at the front of escaped text would have been a run with the quote before them. -/
private theorem not_prefix_escapeRuns {more : List Char}
    (notTriple : ∀ rest, more ≠ '"' :: '"' :: rest)
    (h : ('"' :: more).getLast? ≠ some '"' ∨ rest.head? ≠ some '"') :
    ¬['"', '"'] <+: escapeRuns more ++ rest := by
  have apart : rest.head? ≠ some '"' → ¬['"'] <+: rest := by
    rintro other ⟨tail, rfl⟩
    exact other rfl
  intro both
  match more, notTriple, h, both with
  | [], _, h, both =>
    have single : ['"'] <+: rest := List.IsPrefix.trans ⟨['"'], rfl⟩ both
    exact apart (h.resolve_left (by simp)) single
  | d :: more, notTriple, h, both =>
    by_cases hd : d = '"'
    · subst hd
      match more, notTriple, h, both with
      | [], _, h, both =>
        have single : ['"'] <+: rest := by simpa [escapeRuns] using both
        exact apart (h.resolve_left (by simp)) single
      | e :: more, notTriple, _, both =>
        have he : e ≠ '"' := by
          rintro rfl
          exact notTriple more rfl
        obtain ⟨first, tail, eq, plain⟩ := escapeRuns_eq_cons (s := more) he
        have single : escapeRuns ('"' :: e :: more) = '"' :: escapeRuns (e :: more) :=
          escapeRuns.eq_3 '"' (e :: more) (fun _ _ k => he (List.cons.inj k).1) (by decide)
        rw [single, eq] at both
        simp only [List.cons_append, List.cons_prefix_cons, true_and] at both
        exact plain both.1.symm
    · obtain ⟨first, tail, eq, plain⟩ := escapeRuns_eq_cons (s := more) hd
      rw [eq] at both
      simp only [List.cons_append, List.cons_prefix_cons] at both
      exact plain both.1.symm

/-- Escaped text is read back, unless its last quote touches another behind it. -/
theorem readBody_escapeRuns (h : s.getLast? ≠ some '"' ∨ rest.head? ≠ some '"') :
    readBody '"' true (escapeRuns s ++ rest) =
      (readBody '"' true rest).map fun (more, behind) => (s ++ more, behind) := by
  have later : ∀ {c : Char} {s : List Char},
      (c :: s).getLast? ≠ some '"' ∨ rest.head? ≠ some '"' →
        s.getLast? ≠ some '"' ∨ rest.head? ≠ some '"' :=
    fun h => h.imp_left getLast?_ne_of_cons
  have escaped : ∀ (d : Char) (more : List Char), Escape.letterValue? d = some d → d ≠ '\n' →
      readBody '"' true ('\\' :: d :: more) =
        (readBody '"' true more).map fun (more, behind) => (d :: more, behind) :=
    fun d more value plain => readBody_escape (read_of_letterValue? plain value more)
  fun_induction escapeRuns s with
  | case1 more ih =>
    simp only [List.cons_append]
    rw [escaped '"' _ rfl (by decide), escaped '"' _ rfl (by decide),
      escaped '"' _ rfl (by decide), ih (later (later (later h)))]
    simp [Function.comp_def]
  | case2 more ih =>
    simp only [List.cons_append]
    rw [escaped '\\' _ rfl (by decide), ih (later h)]
    simp [Function.comp_def]
  | case3 c more notTriple notEscape ih =>
    have closing : c = '"' → true = true ∧ ¬['"', '"'] <+: escapeRuns more ++ rest := by
      rintro rfl
      exact ⟨rfl, not_prefix_escapeRuns (fun rest => notTriple rest rfl) h⟩
    rw [List.cons_append, readBody_cons notEscape closing (Or.inl rfl), ih (later h)]
    simp [Function.comp_def]
  | case4 => simp

theorem readBody_docstring (s rest : List Char) :
    readBody '"' true (docstring s ++ rest) =
      (readBody '"' true rest).map fun (more, behind) => (docstringValue s ++ more, behind) := by
  rw [docstring_eq, docstringValue]
  by_cases h : s.getLast? = some '"'
  · rw [if_pos h, if_pos h, List.append_assoc, readBody_escapeRuns (Or.inr (by simp)),
      List.singleton_append, readBody_cons (by decide) (fun h => absurd h (by decide))
        (Or.inl rfl)]
    simp [Function.comp_def]
  · rw [if_neg h, if_neg h, readBody_escapeRuns (Or.inl h)]

end OperationDocuments.Generated

namespace OperationDocuments.Generated

/-! ## Characters of written texts

What becomes of the line ends of a text when the module that holds it is read, and which characters
stand in a literal, a docstring or a comment at all. A literal has none that is not printable,
unless it goes over several lines. -/

open Text

variable {c : Char} {s t : List Char}

/-! ### Line ends -/

theorem unifyNewlines_cons (h : c = '\r' → s.head? ≠ some '\n') :
    unifyNewlines (c :: s) = (if c = '\r' then '\n' else c) :: unifyNewlines s := by
  refine unifyNewlines.eq_3 c s fun rest hc hs => ?_
  subst hs
  exact h hc rfl

theorem unifyNewlines_append (h : s.getLast? ≠ some '\r' ∨ t.head? ≠ some '\n') :
    unifyNewlines (s ++ t) = unifyNewlines s ++ unifyNewlines t := by
  fun_induction unifyNewlines s with
  | case1 => rfl
  | case2 rest ih =>
    have shorter := (h.imp_left getLast?_ne_of_cons).imp_left getLast?_ne_of_cons
    simp [unifyNewlines, ih shorter]
  | case3 c rest notPair ih =>
    rw [List.cons_append, List.cons_append, ← ih (h.imp_left getLast?_ne_of_cons),
      unifyNewlines_cons]
    rintro rfl
    cases rest with
    | nil => exact h.resolve_left fun k => k rfl
    | cons d rest => exact fun k => notPair rest rfl (by rw [Option.some.inj k])

theorem unifyNewlines_of_not_mem (h : '\r' ∉ s) : unifyNewlines s = s := by
  fun_induction unifyNewlines s with
  | case1 => rfl
  | case2 rest ih => simp at h
  | case3 c rest notPair ih =>
    obtain ⟨hc, hr⟩ := not_or.mp (mt List.mem_cons.mpr h)
    rw [if_neg (Ne.symm hc), ih hr]

theorem unifyNewlines_append_of_not_mem (h : '\r' ∉ s) (t : List Char) :
    unifyNewlines (s ++ t) = s ++ unifyNewlines t := by
  have last : s.getLast? ≠ some '\r' := fun k => h (List.mem_of_getLast? k)
  rw [unifyNewlines_append (Or.inl last), unifyNewlines_of_not_mem h]

theorem getLast?_unifyNewlines (s : List Char) : (unifyNewlines s).getLast? =
    s.getLast?.map fun c => if c = '\r' then '\n' else c := by
  fun_induction unifyNewlines s with
  | case1 => rfl
  | case2 rest ih =>
    rw [List.getLast?_cons, List.getLast?_cons, List.getLast?_cons, ih]
    cases rest.getLast? <;> rfl
  | case3 c rest notPair ih =>
    rw [List.getLast?_cons, List.getLast?_cons, ih]
    cases rest.getLast? <;> rfl

theorem exists_of_unifyNewlines_eq_quote (h : unifyNewlines s = '"' :: t) :
    ∃ rest, s = '"' :: rest ∧ unifyNewlines rest = t := by
  fun_cases unifyNewlines s with
  | case1 => cases h
  | case2 rest => simp [unifyNewlines] at h
  | case3 c rest notPair =>
    rw [unifyNewlines.eq_3 c rest notPair] at h
    obtain ⟨hc, ht⟩ := List.cons.inj h
    split at hc
    · cases hc
    · exact ⟨rest, by rw [hc], ht⟩

theorem getLast?_unifyNewlines_eq_quote :
    (unifyNewlines s).getLast? = some '"' ↔ s.getLast? = some '"' := by
  rw [getLast?_unifyNewlines, Option.map_eq_some_iff]
  constructor
  · rintro ⟨c, last, same⟩
    split at same
    · cases same
    · rw [last, same]
  · exact fun last => ⟨'"', last, rfl⟩

theorem unifyNewlines_escapeRuns (s : List Char) :
    unifyNewlines (escapeRuns s) = escapeRuns (unifyNewlines s) := by
  fun_induction escapeRuns s with
  | case1 rest ih => simp [unifyNewlines, escapeRuns, ih]
  | case2 rest ih => simp [unifyNewlines, escapeRuns, ih]
  | case3 c rest notTriple notEscape ih =>
    by_cases pair : c = '\r' ∧ rest.head? = some '\n'
    · obtain ⟨rfl, front⟩ := pair
      obtain ⟨more, rfl⟩ := List.head?_eq_some_iff.mp front
      simpa [unifyNewlines, escapeRuns] using ih
    · have front : c = '\r' → (escapeRuns rest).head? ≠ some '\n' := by
        rintro rfl front
        refine pair ⟨rfl, ?_⟩
        fun_cases escapeRuns rest <;> simp_all [escapeRuns]
      rw [unifyNewlines_cons front, unifyNewlines_cons fun hc k => pair ⟨hc, k⟩, ih]
      refine (escapeRuns.eq_3 _ _ ?_ ?_).symm
      · intro behind hc quotes
        obtain ⟨more, rfl, after⟩ := exists_of_unifyNewlines_eq_quote quotes
        obtain ⟨more, rfl, -⟩ := exists_of_unifyNewlines_eq_quote after
        refine notTriple more ?_ rfl
        split at hc
        · cases hc
        · exact hc
      · split
        · decide
        · exact notEscape
  | case4 => rfl

theorem unifyNewlines_docstring (s : List Char) :
    unifyNewlines (docstring s) = docstring (unifyNewlines s) := by
  simp only [docstring_eq, getLast?_unifyNewlines_eq_quote]
  split
  · rw [unifyNewlines_append (Or.inr (by decide)), unifyNewlines_escapeRuns]
    rfl
  · exact unifyNewlines_escapeRuns s

/-! ### Characters -/

theorem isPrintable_hexDigit : ∀ d, d < 16 → isPrintable (hexDigit d) = true := by decide

theorem isPrintable_of_mem_hexDigits {width n : Nat} (h : c ∈ hexDigits width n) :
    isPrintable c = true := by
  induction width generalizing n with
  | zero => cases h
  | succ width ih =>
    rcases List.mem_append.mp h with front | last
    · exact ih front
    · rw [List.mem_singleton.mp last]
      exact isPrintable_hexDigit _ (Nat.mod_lt n (by decide))

theorem isPrintable_of_mem_literalEscape {quote d : Char} (hq : quote = '"' ∨ quote = '\'')
    (h : c ∈ literalEscape quote d) : isPrintable c = true := by
  have numbered : ∀ (letter : Char) (width : Nat), isPrintable letter = true →
      c ∈ '\\' :: letter :: hexDigits width d.toNat → isPrintable c = true := by
    intro letter width plain h
    rcases List.mem_cons.mp h with rfl | h
    · decide
    · rcases List.mem_cons.mp h with rfl | h
      · exact plain
      · exact isPrintable_of_mem_hexDigits h
  simp only [literalEscape] at h
  split_ifs at h with escaped newline return' tab printable small medium
  · rcases List.mem_cons.mp h with rfl | h
    · decide
    · rw [List.mem_singleton.mp h]
      rcases escaped with rfl | rfl
      · rcases hq with rfl | rfl <;> decide
      · decide
  · exact numbered 'n' 0 (by decide) h
  · exact numbered 'r' 0 (by decide) h
  · exact numbered 't' 0 (by decide) h
  · rwa [List.mem_singleton.mp h]
  · exact numbered 'x' 2 (by decide) h
  · exact numbered 'u' 4 (by decide) h
  · exact numbered 'U' 8 (by decide) h

theorem isPrintable_of_mem_literal (h : c ∈ literal s) : isPrintable c = true := by
  have hq := literalQuote_eq s
  have quote : isPrintable (literalQuote s) = true := by rcases hq with e | e <;> rw [e] <;> decide
  simp only [literal, List.cons_append, List.mem_cons, List.mem_append, List.mem_flatMap,
    List.not_mem_nil, or_false] at h
  obtain rfl | ⟨d, -, h⟩ | rfl := h
  · exact quote
  · exact isPrintable_of_mem_literalEscape hq h
  · exact quote

/-- Of the characters that are not printable a literal has line feeds at most, and those of its
text. -/
theorem not_mem_stringLiteral (unprintable : isPrintable c = false) (hc : c ≠ '\n') (h : c ∉ s) :
    c ∉ stringLiteral s := by
  unfold stringLiteral
  split
  · have quote : c ≠ '"' := by rintro rfl; revert unprintable; decide
    have escape : c ≠ '\\' := by rintro rfl; revert unprintable; decide
    simp [quote, escape, hc, h]
  · intro k
    simp [isPrintable_of_mem_literal k] at unprintable

theorem not_mem_docstring (unprintable : isPrintable c = false) (h : c ∉ s) : c ∉ docstring s := by
  have quote : c ≠ '"' := by rintro rfl; revert unprintable; decide
  have escape : c ≠ '\\' := by rintro rfl; revert unprintable; decide
  have blank : c ≠ ' ' := by rintro rfl; revert unprintable; decide
  have runs : c ∉ escapeRuns s := by
    fun_induction escapeRuns s <;> simp_all
  rw [docstring_eq]
  split <;> simp [runs, blank]

theorem mem_of_mem_joinWith {separator : List Char} {parts : List (List Char)}
    (h : c ∈ joinWith separator parts) : c ∈ separator ∨ ∃ part ∈ parts, c ∈ part := by
  fun_induction joinWith separator parts with
  | case1 => cases h
  | case2 part => exact Or.inr ⟨part, by simp, h⟩
  | case3 part more _ ih =>
    rcases List.mem_append.mp h with front | later
    · rcases List.mem_append.mp front with first | between
      · exact Or.inr ⟨part, by simp, first⟩
      · exact Or.inl between
    · obtain between | ⟨other, among, inside⟩ := ih later
      · exact Or.inl between
      · exact Or.inr ⟨other, List.mem_cons_of_mem _ among, inside⟩

theorem mem_of_mem_comment (h : c ∈ comment s) : c = ' ' ∨ c ∈ s ∧ isBlank c = false := by
  obtain between | ⟨word, among, inside⟩ := mem_of_mem_joinWith h
  · exact Or.inl (List.mem_singleton.mp between)
  · exact Or.inr (mem_of_mem_splitWhere (List.mem_of_mem_filter among) inside)

end OperationDocuments.Generated
