import Mathlib
import OperationDocuments.Proofs.ModuleReading

/-! # Values of literals

A text that is written between three quotes stands there as it is. Whoever reads it makes line ends
alike inside of it too, and takes no null character there, so that only a text without carriage
returns and null characters is safe in this place. With escapes every text is, but for the line ends
and null characters of one that is put between the quotes of a docstring. -/
namespace OperationDocuments.Generated

open Text

variable {c : Char} {s text value : List Char}

def literalValue? (source : String) : Option String :=
  match withoutNull source with
  | .error _ => none
  | .ok source =>
    match modulePieces source with
    | some [.literal value] => some (String.ofList value)
    | _ => none

/-- A text of several lines in which nothing begins an escape or ends a literal between three
quotes. -/
structure WrittenAsIs (s : List Char) : Prop where
  severalLines : '\n' ∈ s
  noTriple : ¬['"', '"', '"'] <:+: s
  noBackslash : '\\' ∉ s
  noLastQuote : s.getLast? ≠ some '"'

theorem hasTriple_iff : hasTriple s = true ↔ ['"', '"', '"'] <:+: s := by
  fun_induction hasTriple s with
  | case1 rest => simpa using List.infix_append [] ['"', '"', '"'] rest
  | case2 c rest apart ih =>
    have front : ¬['"', '"', '"'] <+: c :: rest := by
      rintro ⟨more, same⟩
      obtain ⟨rfl, rfl⟩ := List.cons.inj same
      exact apart more rfl rfl
    rw [ih, List.infix_cons_iff, or_iff_right front]
  | case3 => simp

theorem writtenAsIs_iff : (s.contains '\n' && !hasTriple s && !s.contains '\\' &&
    s.getLast? != some '"') = true ↔ WrittenAsIs s := by
  simp only [Bool.and_eq_true, Bool.not_eq_true', List.contains_eq_mem, decide_eq_true_eq,
    bne_iff_ne, ← Bool.not_eq_true, hasTriple_iff]
  exact ⟨fun ⟨⟨⟨lines, apart⟩, plain⟩, last⟩ => ⟨lines, apart, plain, last⟩,
    fun ⟨lines, apart, plain, last⟩ => ⟨⟨⟨lines, apart⟩, plain⟩, last⟩⟩

instance : DecidablePred WrittenAsIs := fun _ => decidable_of_iff _ writtenAsIs_iff

theorem stringLiteral_of_writtenAsIs (h : WrittenAsIs s) :
    stringLiteral s = ['"', '"', '"', '\\', '\n'] ++ s ++ ['"', '"', '"'] := by
  rw [stringLiteral, if_pos (writtenAsIs_iff.mpr h)]

theorem stringLiteral_of_not (h : ¬WrittenAsIs s) : stringLiteral s = literal s := by
  rw [stringLiteral, if_neg (mt writtenAsIs_iff.mp h)]

/-! ## Line ends made alike -/

theorem not_mem_unifyNewlines (s : List Char) : '\r' ∉ unifyNewlines s := by
  fun_induction unifyNewlines s with
  | case1 => exact List.not_mem_nil
  | case2 rest ih => simpa using ih
  | case3 c rest _ ih =>
    rw [List.mem_cons, not_or]
    refine ⟨?_, ih⟩
    split
    · decide
    · next other => exact Ne.symm other

theorem unifyNewlines_eq_self_iff : unifyNewlines s = s ↔ '\r' ∉ s := by
  constructor
  · intro same
    rw [← same]
    exact not_mem_unifyNewlines s
  · exact unifyNewlines_of_not_mem

theorem mem_of_mem_unifyNewlines (h : c ∈ unifyNewlines s) : c = '\n' ∨ c ∈ s := by
  fun_induction unifyNewlines s with
  | case1 => cases h
  | case2 rest ih => grind
  | case3 d rest _ ih => grind

theorem mem_unifyNewlines_of_mem (h : '\n' ∈ s) : '\n' ∈ unifyNewlines s := by
  fun_induction unifyNewlines s with
  | case1 => cases h
  | case2 rest ih => exact List.mem_cons_self
  | case3 d rest _ ih => grind

theorem triple_of_unifyNewlines (h : ['"', '"', '"'] <:+: unifyNewlines s) :
    ['"', '"', '"'] <:+: s := by
  have front : ∀ {s}, ['"', '"', '"'] <+: unifyNewlines s → ['"', '"', '"'] <:+: s := by
    rintro s ⟨more, first⟩
    obtain ⟨rest, rfl, second⟩ := exists_of_unifyNewlines_eq_quote first.symm
    obtain ⟨rest, rfl, third⟩ := exists_of_unifyNewlines_eq_quote second
    obtain ⟨rest, rfl, -⟩ := exists_of_unifyNewlines_eq_quote third
    exact ⟨[], rest, rfl⟩
  fun_induction unifyNewlines s with
  | case1 => simp at h
  | case2 rest ih =>
    rcases List.infix_cons_iff.mp h with first | later
    · simp at first
    · exact List.infix_cons (List.infix_cons (ih later))
  | case3 c rest notPair ih =>
    rcases List.infix_cons_iff.mp h with first | later
    · rw [← unifyNewlines.eq_3 c rest notPair] at first
      exact front first
    · exact List.infix_cons (ih later)

theorem WrittenAsIs.unifyNewlines (h : WrittenAsIs s) : WrittenAsIs (unifyNewlines s) where
  severalLines := mem_unifyNewlines_of_mem h.severalLines
  noTriple := mt triple_of_unifyNewlines h.noTriple
  noBackslash inside := by
    rcases mem_of_mem_unifyNewlines inside with same | inside
    · cases same
    · exact h.noBackslash inside
  noLastQuote := mt getLast?_unifyNewlines_eq_quote.mp h.noLastQuote

/-- A text between three quotes is written as if its line ends had been made alike before. -/
theorem unifyNewlines_stringLiteral (h : WrittenAsIs s) :
    Text.unifyNewlines (stringLiteral s) = stringLiteral (Text.unifyNewlines s) := by
  rw [stringLiteral_of_writtenAsIs h, stringLiteral_of_writtenAsIs h.unifyNewlines,
    unifyNewlines_append (Or.inr (by decide)), unifyNewlines_append_of_not_mem (by decide)]
  rfl

/-! ## Reading -/

theorem Spells.pieces_eq (h : Spells text value) : pieces false text = some [.literal value] := by
  have whole := h.pieces_append (fun _ _ => by simp : ∀ quote, _ → [].head? ≠ some quote)
  rw [List.append_nil] at whole
  rw [whole, pieces]
  rfl

theorem literalValue?_of_spells {source : String} (noNull : Lacks '\x00' source)
    (h : Spells (Text.unifyNewlines source.toList) value) :
    literalValue? source = some (String.ofList value) := by
  have absent : source.toList.contains '\x00' = false := by simpa [Lacks] using noNull
  rw [literalValue?, withoutNull, absent]
  simp [modulePieces, h.pieces_eq]

theorem literalValue?_literalOf (text : String) : literalValue? (literalOf text) =
    if WrittenAsIs text.toList then
      if Lacks '\x00' text then some (String.ofList (Text.unifyNewlines text.toList)) else none
    else some text := by
  have content : (literalOf text).toList = stringLiteral text.toList := String.toList_ofList
  split
  · next asIs =>
    split
    · next noNull =>
      refine literalValue?_of_spells ?_ ?_
      · rw [Lacks, content]
        exact not_mem_stringLiteral (by decide) (by decide) noNull
      · rw [content, unifyNewlines_stringLiteral asIs]
        exact spells_stringLiteral _
    · next null =>
      have inside : (literalOf text).toList.contains '\x00' = true := by
        rw [content, stringLiteral_of_writtenAsIs asIs]
        simpa [Lacks] using null
      rw [literalValue?, withoutNull, inside]
      rfl
  · next escaped =>
    have printable : ∀ c ∈ (literalOf text).toList, isPrintable c = true := by
      rw [content, stringLiteral_of_not escaped]
      exact fun _ => isPrintable_of_mem_literal
    have noReturn : '\r' ∉ (literalOf text).toList := fun inside =>
      absurd (printable _ inside) (by decide)
    have noNull : Lacks '\x00' (literalOf text) := fun inside =>
      absurd (printable _ inside) (by decide)
    have spelled : Spells (Text.unifyNewlines (literalOf text).toList) text.toList := by
      rw [unifyNewlines_of_not_mem noReturn, content]
      exact spells_stringLiteral _
    rw [literalValue?_of_spells noNull spelled, String.ofList_toList]

/-- A literal is evaluated to its text, but for carriage returns and null characters between three
quotes. -/
theorem literalValue?_literalOf_iff (text : String) :
    literalValue? (literalOf text) = some text ↔
      (WrittenAsIs text.toList → Lacks '\r' text ∧ Lacks '\x00' text) := by
  have alike : some (String.ofList (Text.unifyNewlines text.toList)) = some text ↔
      Lacks '\r' text := by
    rw [Option.some.injEq, ← String.toList_inj, String.toList_ofList, unifyNewlines_eq_self_iff,
      Lacks]
  rw [literalValue?_literalOf]
  by_cases asIs : WrittenAsIs text.toList
  · by_cases noNull : Lacks '\x00' text
    · simp only [asIs, noNull, if_true, alike, and_true, forall_const]
    · simp [asIs, noNull]
  · simp [asIs]

theorem literalValue?_literalOf_return :
    literalValue? (literalOf "a\r\nb") = some "a\nb" ∧ some "a\nb" ≠ some "a\r\nb" := by
  constructor
  · rw [literalValue?_literalOf]
    decide
  · decide

/-! ## Docstrings -/

def enclosed (text : String) : String := "\"\"\"" ++ docstringOf text ++ "\"\"\""

theorem toList_enclosed (text : String) : (enclosed text).toList =
    ['"', '"', '"'] ++ docstring text.toList ++ ['"', '"', '"'] := by
  have quotes : "\"\"\"".toList = ['"', '"', '"'] := rfl
  rw [enclosed, String.toList_append, String.toList_append, quotes, docstringOf,
    String.toList_ofList]

theorem mem_docstring_of_mem (h : c ∈ s) : c ∈ docstring s := by
  have inside : c ∈ escapeRuns s := by
    fun_induction escapeRuns s with
    | case1 rest ih => grind
    | case2 rest ih => grind
    | case3 d rest _ _ ih => grind
    | case4 => exact h
  rw [docstring_eq]
  split
  · exact List.mem_append_left _ inside
  · exact inside

theorem lacks_enclosed_iff {text : String} : Lacks '\x00' (enclosed text) ↔ Lacks '\x00' text := by
  have quotes : '\x00' ∉ ['"', '"', '"'] := by decide
  rw [Lacks, Lacks, toList_enclosed, List.mem_append, List.mem_append]
  constructor
  · intro absent inside
    exact absent (Or.inl (Or.inr (mem_docstring_of_mem inside)))
  · rintro absent ((among | inside) | among)
    · exact quotes among
    · exact not_mem_docstring (by decide) absent inside
    · exact quotes among

theorem unifyNewlines_enclosed (text behind : String) :
    unifyNewlines (enclosed text ++ behind).toList =
      ['"', '"', '"'] ++ docstring (unifyNewlines text.toList) ++ ['"', '"', '"']
        ++ unifyNewlines behind.toList := by
  have closed : (['"', '"', '"'] ++ docstring text.toList ++ ['"', '"', '"']).getLast? ≠
      some '\r' := by
    have last : ['"', '"', '"'].getLast? = some '"' := rfl
    rw [List.getLast?_append, last, Option.some_or]
    decide
  rw [String.toList_append, toList_enclosed, unifyNewlines_append (Or.inl closed),
    unifyNewlines_append (Or.inr (by decide)), unifyNewlines_append_of_not_mem (by decide),
    unifyNewlines_docstring]
  rfl

theorem docstringValue_unifyNewlines (s : List Char) : docstringValue (unifyNewlines s) =
    unifyNewlines s ++ if s.getLast? = some '"' then [' '] else [] := by
  simp only [docstringValue, getLast?_unifyNewlines_eq_quote]
  split
  · rfl
  · rw [List.append_nil]

/-- The literal ends at the last of the quotes, and what is behind it is read on its own. -/
theorem modulePieces_enclosed (text behind : String) : modulePieces (enclosed text ++ behind) =
    (modulePieces behind).map (.literal (docstringValue (unifyNewlines text.toList)) :: ·) := by
  have inside : ReadsInside (docstring (unifyNewlines text.toList))
      (docstringValue (unifyNewlines text.toList)) := readBody_docstring _
  rw [modulePieces, unifyNewlines_enclosed, inside.reads]
  rfl

/-- A text between the quotes of a docstring is one literal that goes on to the last of them,
whatever is behind it. Its value is the text with its line ends made alike, and a blank more if the
text ends with a quote. Only a null character in the text takes this value away. -/
theorem enclosed_isLiteral (text behind : String) :
    let value := unifyNewlines text.toList ++ if text.toList.getLast? = some '"' then [' '] else []
    literalValue? (enclosed text) =
        (if Lacks '\x00' text then some (String.ofList value) else none) ∧
      modulePieces (enclosed text ++ behind) =
        (modulePieces behind).map (.literal value :: ·) := by
  intro value
  have sameValue : docstringValue (unifyNewlines text.toList) = value :=
    docstringValue_unifyNewlines text.toList
  have alone : modulePieces (enclosed text) = some [.literal value] := by
    have whole := modulePieces_enclosed text ""
    have nothing : modulePieces "" = some [] := by
      rw [modulePieces, String.toList_empty, unifyNewlines, pieces]
    rw [String.append_empty, nothing, sameValue] at whole
    exact whole
  have followed := modulePieces_enclosed text behind
  rw [sameValue] at followed
  refine ⟨?_, followed⟩
  rw [literalValue?, withoutNull]
  by_cases noNull : Lacks '\x00' text
  · have absent : (enclosed text).toList.contains '\x00' = false := by
      simpa [Lacks] using lacks_enclosed_iff.mpr noNull
    rw [absent, if_pos noNull]
    simp [alone]
  · have present : (enclosed text).toList.contains '\x00' = true := by
      simpa [Lacks] using mt lacks_enclosed_iff.mp noNull
    rw [present, if_neg noNull]
    rfl

/-- Of four quotes the last one is kept away from the closing ones. -/
example : enclosed "\"\"\"\"" = "\"\"\"" ++ "\\\"\\\"\\\"\" " ++ "\"\"\"" := by decide

end OperationDocuments.Generated
