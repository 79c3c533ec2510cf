import Mathlib
import OperationDocuments.Generated.Render
import OperationDocuments.Proofs.Literals

/-! # Modules read back

A rendered module falls into the same pieces whatever it is rendered from: every text of the
source stands in the literal or the comment that the layout has for it, and all between these is
the layout's own. Each part of a module is read by itself, since none leaves a literal open. -/
namespace OperationDocuments.Generated

open Text

variable {c : Char} {s t rest text value : List Char} {found more : List Piece}

/-- A text that is read to these pieces, whatever stands behind it. -/
def Reads (text : List Char) (found : List Piece) : Prop :=
  ∀ rest, pieces false (text ++ rest) = (pieces false rest).map (found ++ ·)

namespace Reads

theorem nil : Reads [] [] := fun rest => by simp

theorem append {later : List Char} (h : Reads text found) (k : Reads later more) :
    Reads (text ++ later) (found ++ more) := by
  intro rest
  rw [List.append_assoc, h, k, Option.map_map]
  simp [Function.comp_def]

theorem flatMap {α : Type} {write : α → List Char} {read : α → List Piece} {items : List α}
    (h : ∀ item ∈ items, Reads (write item) (read item)) :
    Reads (items.flatMap write) (items.flatMap read) := by
  induction items with
  | nil => exact nil
  | cons item items ih =>
    exact (h item (by simp)).append (ih fun other among => h other (List.mem_cons_of_mem _ among))

theorem pieces_eq (h : Reads text found) : pieces false text = some found := by
  have whole := h []
  rw [List.append_nil] at whole
  simpa [pieces] using whole

end Reads

/-- Text outside of literals and comments. A name at its end could change what is behind it. -/
def isCode (text : List Char) : Bool :=
  text.all (fun c => c != '"' && c != '\'' && c != '#') && !text.getLast?.any Number.isNameLike

theorem isCode_append {front later : String} (h : isCode front.toList = true)
    (k : isCode later.toList = true) : isCode (front ++ later).toList = true := by
  simp only [isCode, Bool.and_eq_true] at h k ⊢
  rw [String.toList_append, List.all_append, List.getLast?_append, h.1, k.1]
  refine ⟨rfl, ?_⟩
  cases last : later.toList.getLast? with
  | none => simpa using h.2
  | some c => simpa [last] using k.2

theorem reads_code (h : isCode text = true) : Reads text (text.map .code) := by
  have behindName : ∀ (text : List Char) (isBehindName : Bool), text ≠ [] → isCode text = true →
      ∀ rest, pieces isBehindName (text ++ rest) =
        (pieces false rest).map (text.map .code ++ ·) := by
    intro text
    induction text with
    | nil => exact fun _ h => absurd rfl h
    | cons c text ih =>
      intro isBehindName _ h rest
      have plain : (c ≠ '"' ∧ c ≠ '\'') ∧ c ≠ '#' := by
        simp_all [isCode]
      rw [List.cons_append, pieces, if_neg (by simp [plain.1]), if_neg plain.2]
      cases text with
      | nil =>
        have last : Number.isNameLike c = false := by simp_all [isCode]
        simp [last]
      | cons d text =>
        rw [ih _ (by simp) (by simp_all [isCode]), Option.map_map]
        simp [Function.comp_def]
  cases text with
  | nil => exact Reads.nil
  | cons c text => exact behindName _ false (by simp) h

theorem Spells.pieces_append (h : Spells text value)
    (apart : ∀ quote, quote = '"' ∨ quote = '\'' → rest.head? ≠ some quote) :
    pieces false (text ++ rest) = (pieces false rest).map (.literal value :: ·) := by
  obtain ⟨quote, tail, isQuote, rfl, spelled⟩ := h
  have whole := spelled rest (apart quote isQuote)
  rw [List.cons_append, pieces, if_pos isQuote]
  simp only [Bool.false_eq_true, if_false]
  split
  · next missing => cases missing.symm.trans whole
  · next found =>
    cases found.symm.trans whole
    rfl

theorem reads_literal (h : Spells text value) (hc : isCode s = true) (ht : s ≠ []) :
    Reads (text ++ s) (.literal value :: s.map .code) := by
  intro rest
  obtain ⟨first, s, rfl⟩ := List.exists_cons_of_ne_nil ht
  have apart : ∀ quote, quote = '"' ∨ quote = '\'' →
      (first :: s ++ rest).head? ≠ some quote := by
    have plain : first ≠ '"' ∧ first ≠ '\'' := by simp_all [isCode]
    rintro quote isQuote ⟨⟩
    exact isQuote.elim plain.1 plain.2
  rw [List.append_assoc, h.pieces_append apart, reads_code hc, Option.map_map]
  simp [Function.comp_def]

theorem reads_comment (h : '\n' ∉ text) :
    Reads ('#' :: text ++ ['\n']) [.comment text, .code '\n'] := by
  intro rest
  have inside : ∀ c ∈ text, (c != '\n') = true := by
    intro c hc
    simp only [bne_iff_ne]
    rintro rfl
    exact h hc
  have taken : (text ++ '\n' :: rest).takeWhile (· != '\n') = text := by
    rw [List.takeWhile_append_of_pos inside]
    simp
  have left : (text ++ '\n' :: rest).dropWhile (· != '\n') = '\n' :: rest := by
    rw [List.dropWhile_append_of_pos inside]
    simp
  have newline : pieces false ('\n' :: rest) = (pieces false rest).map ([.code '\n'] ++ ·) :=
    @reads_code ['\n'] (by decide) rest
  rw [List.append_assoc, List.cons_append, pieces, if_neg (by decide), if_pos rfl]
  simp only [List.singleton_append, taken, left]
  rw [newline, Option.map_map]
  simp [Function.comp_def]

/-! ## Docstrings -/

/-- Text between the quotes of a docstring that is read to this value. -/
def ReadsInside (text value : List Char) : Prop :=
  ∀ rest, readBody '"' true (text ++ rest) =
    (readBody '"' true rest).map fun (more, behind) => (value ++ more, behind)

namespace ReadsInside

theorem append {later moreValue : List Char} (h : ReadsInside text value)
    (k : ReadsInside later moreValue) : ReadsInside (text ++ later) (value ++ moreValue) := by
  intro rest
  rw [List.append_assoc, h, k, Option.map_map]
  simp [Function.comp_def]

theorem plain (h : '"' ∉ text ∧ '\\' ∉ text) : ReadsInside text text := by
  intro rest
  obtain ⟨noQuote, noEscape⟩ := h
  induction text with
  | nil => simp
  | cons c text ih =>
    simp only [List.mem_cons, not_or] at noQuote noEscape
    rw [List.cons_append, readBody_cons (Ne.symm noEscape.1)
      (fun h => absurd h.symm noQuote.1) (Or.inl rfl), ih noQuote.2 noEscape.2]
    simp [Function.comp_def]

theorem readLiteral_eq (h : ReadsInside text value) (rest : List Char) :
    readLiteral '"' (['"', '"'] ++ text ++ ['"', '"', '"'] ++ rest) = some (value, rest) := by
  have closing : readBody '"' true ('"' :: '"' :: '"' :: rest) = some ([], rest) :=
    @readBody_closing '"' true rest (by decide)
  rw [readLiteral, if_pos (by simp [List.isPrefixOf])]
  simp [h _, closing]

theorem spells (h : ReadsInside text value) :
    Spells (['"', '"', '"'] ++ text ++ ['"', '"', '"']) value :=
  ⟨'"', ['"', '"'] ++ text ++ ['"', '"', '"'], Or.inl rfl, rfl, fun rest _ => h.readLiteral_eq rest⟩

/-- Another quote behind the last ones belongs to the next piece. -/
theorem reads (h : ReadsInside text value) :
    Reads (['"', '"', '"'] ++ text ++ ['"', '"', '"']) [.literal value] := by
  intro rest
  have whole := h.readLiteral_eq rest
  have front : ['"', '"', '"'] ++ text ++ ['"', '"', '"'] ++ rest =
      '"' :: (['"', '"'] ++ text ++ ['"', '"', '"'] ++ rest) := rfl
  rw [front, pieces, if_pos (Or.inl rfl)]
  simp only [Bool.false_eq_true, if_false]
  split
  · next missing => cases missing.symm.trans whole
  · next found =>
    cases found.symm.trans whole
    rfl

end ReadsInside

/-! ## Texts put together -/

def codeOf (text : String) : List Piece := text.toList.map .code

namespace Reads

variable {front later : String}

theorem code (h : isCode later.toList = true) : Reads later.toList (codeOf later) := reads_code h

theorem followedBy (h : Reads front.toList found) (k : Reads later.toList more) :
    Reads (front ++ later).toList (found ++ more) := by
  rw [String.toList_append]
  exact h.append k

theorem followedByLiteral {quoted : String} (h : Reads front.toList found)
    (k : Spells quoted.toList value) (hc : isCode later.toList = true)
    (ht : later.toList ≠ []) :
    Reads (front ++ quoted ++ later).toList (found ++ .literal value :: codeOf later) := by
  rw [String.toList_append, String.toList_append, List.append_assoc]
  exact h.append (reads_literal k hc ht)

theorem join {α : Type} {write : α → String} {read : α → List Piece} {items : List α}
    (h : ∀ item ∈ items, Reads (write item).toList (read item)) :
    Reads (String.join (items.map write)).toList (items.flatMap read) := by
  rw [String.toList_join, List.flatMap_map]
  exact flatMap h

end Reads

theorem spells_literalOf (text : String) : Spells (literalOf text).toList text.toList := by
  rw [literalOf, String.toList_ofList]
  exact spells_stringLiteral _

theorem spells_quotedOf (text : String) : Spells (quotedOf text).toList text.toList := by
  rw [quotedOf, String.toList_ofList]
  exact spells_literal _

theorem reads_commentLine {line : String} (h : '\n' ∉ line.toList) :
    Reads ("#" ++ line ++ "\n").toList [.comment line.toList, .code '\n'] := by
  rw [String.toList_append, String.toList_append]
  exact reads_comment h

/-! ## Characters of the layout -/

def Lacks (c : Char) (text : String) : Prop := c ∉ text.toList

instance (c : Char) (text : String) : Decidable (Lacks c text) :=
  inferInstanceAs (Decidable (c ∉ text.toList))

theorem Lacks.append {front later : String} (h : Lacks c front) (k : Lacks c later) :
    Lacks c (front ++ later) := by
  intro both
  rw [String.toList_append] at both
  exact (List.mem_append.mp both).elim h k

theorem Lacks.join {α : Type} {write : α → String} {items : List α}
    (h : ∀ item ∈ items, Lacks c (write item)) : Lacks c (String.join (items.map write)) := by
  intro inside
  rw [String.toList_join, List.flatMap_map, List.mem_flatMap] at inside
  obtain ⟨item, among, inside⟩ := inside
  exact h item among inside

theorem lacks_commentOf {reference : String} (hc : c ≠ ' ')
    (h : isBlank c = true ∨ Lacks c reference) : Lacks c (commentOf reference) := by
  unfold Lacks
  rw [commentOf, String.toList_ofList]
  intro inside
  obtain ⟨among, plain⟩ := (mem_of_mem_comment inside).resolve_left hc
  exact h.elim (fun blank => by simp [blank] at plain) fun absent => absent among

theorem lacks_docstringOf {text : String} (unprintable : isPrintable c = false)
    (h : Lacks c text) : Lacks c (docstringOf text) := by
  unfold Lacks
  rw [docstringOf, String.toList_ofList]
  exact not_mem_docstring unprintable h

theorem lacks_literalOf {text : String} (unprintable : isPrintable c = false) (hc : c ≠ '\n')
    (h : Lacks c text) : Lacks c (literalOf text) := by
  unfold Lacks
  rw [literalOf, String.toList_ofList]
  exact not_mem_stringLiteral unprintable hc h

theorem lacks_quotedOf {text : String} (unprintable : isPrintable c = false) :
    Lacks c (quotedOf text) := by
  unfold Lacks
  rw [quotedOf, String.toList_ofList]
  intro inside
  simp [isPrintable_of_mem_literal inside] at unprintable

/-! ## Words of a comment -/

theorem words_append_blank {c : Char} (h : isBlank c = true) (front behind : List Char) :
    words (front ++ c :: behind) = words front ++ words behind := by
  rw [words, splitWhere_append h, List.filter_append]
  rfl

/-- The words of a text, as they stand in it with blanks between them. -/
inductive HasWords : List Char → List (List Char) → Prop where
  | nil : HasWords [] []
  | blank {c : Char} {text : List Char} {parts : List (List Char)} (isBlank : isBlank c = true)
      (more : HasWords text parts) : HasWords (c :: text) parts
  | word {part text : List Char} {parts : List (List Char)} (nonempty : part ≠ [])
      (plain : ∀ c ∈ part, Text.isBlank c = false)
      (ends : ∀ c ∈ text.head?, Text.isBlank c = true) (more : HasWords text parts) :
      HasWords (part ++ text) (part :: parts)

theorem exists_hasWords (text : List Char) : ∃ parts, HasWords text parts := by
  induction text with
  | nil => exact ⟨[], .nil⟩
  | cons c text ih =>
    obtain ⟨parts, h⟩ := ih
    by_cases blank : isBlank c = true
    · exact ⟨parts, .blank blank h⟩
    have plain : ∀ d ∈ [c], isBlank d = false := by
      intro d among
      rw [List.mem_singleton.mp among]
      exact Bool.not_eq_true _ ▸ blank
    cases h with
    | nil => exact ⟨[[c]], .word (List.cons_ne_nil c []) plain nofun .nil⟩
    | blank isBlank more =>
      refine ⟨[c] :: parts, .word (List.cons_ne_nil c []) plain ?_ (.blank isBlank more)⟩
      rintro _ ⟨⟩
      exact isBlank
    | word nonempty others ends more =>
      rename_i part text parts
      refine ⟨(c :: part) :: parts, .word (List.cons_ne_nil c part) ?_ ends more⟩
      exact List.forall_mem_cons.mpr ⟨plain c List.mem_cons_self, others⟩

theorem words_of_hasWords {text : List Char} {parts : List (List Char)} (h : HasWords text parts) :
    words text = parts := by
  induction h with
  | nil => rfl
  | blank isBlank more ih =>
    rw [← ih]
    exact words_append_blank isBlank [] _
  | word nonempty plain ends more ih =>
    rename_i part text parts
    have single : words part = [part] := by
      rw [words, splitWhere_of_plain plain]
      simp [nonempty]
    cases text with
    | nil =>
      rw [List.append_nil, single, ← ih]
      rfl
    | cons c text =>
      have blank : isBlank c = true := ends c rfl
      have behind : words (c :: text) = words text := words_append_blank blank [] text
      rw [words_append_blank blank, single, ← ih, behind]
      rfl

/-- The comment for a text is its words with one space between each two, and no other blank, so
that it stays on one line. -/
theorem commentOf_hasWords (reference : String) : ∃ parts, HasWords reference.toList parts ∧
    (commentOf reference).toList = joinWith [' '] parts ∧
    (∀ c ∈ (commentOf reference).toList, isBlank c = true → c = ' ') ∧
    '\n' ∉ (commentOf reference).toList ∧ '\r' ∉ (commentOf reference).toList := by
  obtain ⟨parts, h⟩ := exists_hasWords reference.toList
  have written : (commentOf reference).toList = comment reference.toList := String.toList_ofList
  have spaces : ∀ c ∈ (commentOf reference).toList, isBlank c = true → c = ' ' := by
    intro c inside blank
    rw [written] at inside
    obtain space | ⟨-, plain⟩ := mem_of_mem_comment inside
    · exact space
    · rw [plain] at blank
      cases blank
  refine ⟨parts, h, ?_, spaces, fun inside => ?_, fun inside => ?_⟩
  · rw [written, comment, squeeze, words_of_hasWords h]
  · exact absurd (spaces '\n' inside (by decide)) (by decide)
  · exact absurd (spaces '\r' inside (by decide)) (by decide)

/-! ## The layout -/

def headingPieces (source : String) : List Piece :=
  .literal ("GraphQL documents loaded from ".toList
      ++ docstringValue (unifyNewlines source.toList)
      ++ ".\n\nGenerated by gql-docsplit. Do not edit.\n".toList)
    :: codeOf "\n\n"

def sourcePieces (document : Document) : List Piece :=
  codeOf "from graphql import DocumentNode, parse\n\nSOURCE = "
    ++ .literal document.print.toList :: codeOf "\n"

def importPieces (imports : List String) : List Piece :=
  if imports.isEmpty then []
  else [.comment " Expanded from:".toList, .code '\n']
    ++ imports.flatMap fun reference =>
      [.comment ("   " ++ commentOf reference).toList, .code '\n']

def entryPieces (entry : String × Document) : List Piece :=
  codeOf "    " ++ .literal entry.1.toList :: codeOf ": "
    ++ .literal entry.2.print.toList :: codeOf ",\n"

def operationPieces (operations : Assoc String Document) : List Piece :=
  codeOf "\nOPERATIONS: dict[str, str] = \x7b\n" ++ operations.flatMap entryPieces
    ++ codeOf "\x7d\n\n"

def bodyPieces (l : Loaded) : List Piece :=
  sourcePieces l.document ++ importPieces l.imports ++ operationPieces l.operations
    ++ codeOf parseLines ++ .literal accessDocstring.toList :: codeOf accessLines

def layoutPieces (l : Loaded) : List Piece := headingPieces l.source ++ bodyPieces l

theorem reads_sourceLines (document : Document) :
    Reads (sourceLines document).toList (sourcePieces document) :=
  (Reads.code (by decide)).followedByLiteral (spells_literalOf _) (by decide) (by decide)

theorem reads_entryLine (entry : String × Document) :
    Reads (entryLine entry).toList (entryPieces entry) := by
  have key : Reads ("    " ++ quotedOf entry.1 ++ ": ").toList
      (codeOf "    " ++ .literal entry.1.toList :: codeOf ": ") :=
    (Reads.code (by decide)).followedByLiteral (spells_quotedOf _) (by decide) (by decide)
  exact key.followedByLiteral (spells_literalOf _) (by decide) (by decide)

theorem reads_operationLines (operations : Assoc String Document) :
    Reads (operationLines operations).toList (operationPieces operations) := by
  have entries : Reads (String.join (operations.map entryLine)).toList
      (operations.flatMap entryPieces) :=
    Reads.join fun entry _ => reads_entryLine entry
  exact ((Reads.code (by decide)).followedBy entries).followedBy (Reads.code (by decide))

theorem reads_importComment (reference : String) :
    Reads (importComment reference).toList
      [.comment ("   " ++ commentOf reference).toList, .code '\n'] := by
  have inside : Lacks '\n' (commentOf reference) :=
    lacks_commentOf (by decide) (Or.inl (by decide))
  have before : Lacks '\n' "   " := by decide
  unfold importComment
  exact @reads_commentLine ("   " ++ commentOf reference) (before.append inside)

theorem reads_importLines (imports : List String) :
    Reads (importLines imports).toList (importPieces imports) := by
  have first : Reads ("#" ++ " Expanded from:" ++ "\n").toList
      [.comment " Expanded from:".toList, .code '\n'] :=
    @reads_commentLine " Expanded from:" (by decide)
  have others : Reads (String.join (imports.map importComment)).toList
      (imports.flatMap fun reference =>
        [.comment ("   " ++ commentOf reference).toList, .code '\n']) :=
    Reads.join fun reference _ => reads_importComment reference
  unfold importLines importPieces
  by_cases none : imports.isEmpty = true
  · simp only [none, if_true]
    exact Reads.nil
  · simp only [none]
    exact first.followedBy others

theorem isCode_parseLines : isCode parseLines.toList = true :=
  isCode_append (isCode_append (isCode_append (by decide) (by decide)) (by decide)) (by decide)

theorem isCode_accessLines : isCode accessLines.toList = true :=
  isCode_append (isCode_append (by decide) (by decide)) (by decide)

theorem spells_accessDocstring :
    Spells ("\"\"\"" ++ accessDocstring ++ "\"\"\"").toList accessDocstring.toList := by
  have plain : '"' ∉ accessDocstring.toList ∧ '\\' ∉ accessDocstring.toList := by decide
  rw [String.toList_append, String.toList_append]
  exact (ReadsInside.plain plain).spells

/-- A literal that has a source name inside, read by itself: the line ends of the name become line
feeds, and those around it stay. -/
theorem reads_heading_of {before after later : String} (source : String)
    (inside : ∀ text ∈ [before, after], '"' ∉ text.toList ∧ '\\' ∉ text.toList)
    (lacking : ∀ text ∈ [before, after, later], Lacks '\r' text)
    (apart : ∃ c more, after.toList = c :: more ∧ c ≠ '\n')
    (code : isCode later.toList = true) (ht : later.toList ≠ []) :
    Reads (unifyNewlines
        ("\"\"\"" ++ before ++ docstringOf source ++ after ++ "\"\"\"" ++ later).toList)
      (.literal (before.toList ++ docstringValue (unifyNewlines source.toList) ++ after.toList)
        :: codeOf later) := by
  obtain ⟨c, more, front, plain⟩ := apart
  have quotes : "\"\"\"".toList = ['"', '"', '"'] := by decide
  have unified : unifyNewlines
      ("\"\"\"" ++ before ++ docstringOf source ++ after ++ "\"\"\"" ++ later).toList =
        ['"', '"', '"'] ++ (before.toList ++ docstring (unifyNewlines source.toList)
          ++ after.toList) ++ ['"', '"', '"'] ++ later.toList := by
    have behind : '\r' ∉ after.toList ++ (['"', '"', '"'] ++ later.toList) := by
      simp only [List.mem_append, not_or]
      exact ⟨lacking after (by simp), by decide, lacking later (by simp)⟩
    have around : '\r' ∉ ['"', '"', '"'] ++ before.toList := by
      simp only [List.mem_append, not_or]
      exact ⟨by decide, lacking before (by simp)⟩
    simp only [String.toList_append, quotes, docstringOf, String.toList_ofList, List.append_assoc]
    rw [← List.append_assoc, unifyNewlines_append_of_not_mem around,
      unifyNewlines_append (Or.inr (by simp [front, plain])), unifyNewlines_docstring,
      unifyNewlines_of_not_mem behind, List.append_assoc]
  have value : ReadsInside
      (before.toList ++ docstring (unifyNewlines source.toList) ++ after.toList)
      (before.toList ++ docstringValue (unifyNewlines source.toList) ++ after.toList) :=
    ((ReadsInside.plain (inside before (by simp))).append (readBody_docstring _)).append
      (ReadsInside.plain (inside after (by simp)))
  rw [unified]
  exact reads_literal value.spells code ht

theorem reads_heading (source : String) :
    Reads (unifyNewlines (heading source).toList) (headingPieces source) := by
  refine @reads_heading_of "GraphQL documents loaded from "
    ".\n\nGenerated by gql-docsplit. Do not edit.\n" "\n\n" source ?_ ?_ ?_ ?_ ?_
  · decide
  · decide
  · exact ⟨'.', _, rfl, by decide⟩
  · decide
  · decide

theorem reads_body (l : Loaded) : Reads (body l).toList (bodyPieces l) := by
  have texts : Reads (sourceLines l.document ++ importLines l.imports
      ++ operationLines l.operations).toList
      (sourcePieces l.document ++ importPieces l.imports ++ operationPieces l.operations) :=
    ((reads_sourceLines _).followedBy (reads_importLines _)).followedBy (reads_operationLines _)
  exact (texts.followedBy (Reads.code isCode_parseLines)).followedByLiteral
    spells_accessDocstring isCode_accessLines (by decide)

/-! ## What the layout lacks -/

/-- A text of printable characters and line feeds, as all texts of the layout's own are. -/
def isOrdinary (text : String) : Bool := text.toList.all fun c => isPrintable c || c == '\n'

section Lacking

variable (unprintable : isPrintable c = false) (hc : c ≠ '\n')

include unprintable hc

theorem lacks_of_isOrdinary {text : String} (h : isOrdinary text = true) : Lacks c text := by
  intro inside
  have := List.all_eq_true.mp h c inside
  simp [unprintable, hc] at this

theorem lacks_heading {source : String} (h : Lacks c source) : Lacks c (heading source) := by
  have own {text : String} (h : isOrdinary text = true) : Lacks c text :=
    lacks_of_isOrdinary unprintable hc h
  exact (((((own (by decide)).append (own (by decide))).append
    (lacks_docstringOf unprintable h)).append (own (by decide))).append
      (own (by decide))).append (own (by decide))

theorem lacks_sourceLines {document : Document} (h : Lacks c document.print) :
    Lacks c (sourceLines document) := by
  have own {text : String} (h : isOrdinary text = true) : Lacks c text :=
    lacks_of_isOrdinary unprintable hc h
  exact ((own (by decide)).append (lacks_literalOf unprintable hc h)).append (own (by decide))

theorem lacks_importLines {imports : List String}
    (h : isBlank c = true ∨ ∀ reference ∈ imports, Lacks c reference) :
    Lacks c (importLines imports) := by
  have own {text : String} (h : isOrdinary text = true) : Lacks c text :=
    lacks_of_isOrdinary unprintable hc h
  have notSpace : c ≠ ' ' := by
    rintro rfl
    exact absurd unprintable (by decide)
  have line : ∀ reference ∈ imports, Lacks c (importComment reference) := by
    intro reference among
    have inside : Lacks c (commentOf reference) :=
      lacks_commentOf notSpace (h.imp_right fun absent => absent reference among)
    exact ((own (by decide)).append ((own (by decide)).append inside)).append (own (by decide))
  unfold importLines
  split
  · exact own (by decide)
  · exact (((own (by decide)).append (own (by decide))).append (own (by decide))).append
      (Lacks.join line)

theorem lacks_operationLines {operations : Assoc String Document}
    (h : ∀ entry ∈ operations, Lacks c entry.2.print) : Lacks c (operationLines operations) := by
  have own {text : String} (h : isOrdinary text = true) : Lacks c text :=
    lacks_of_isOrdinary unprintable hc h
  have line : ∀ entry ∈ operations, Lacks c (entryLine entry) := by
    intro entry among
    exact ((((own (by decide)).append (lacks_quotedOf unprintable)).append
      (own (by decide))).append (lacks_literalOf unprintable hc (h entry among))).append
        (own (by decide))
  exact ((own (by decide)).append (Lacks.join line)).append (own (by decide))

theorem lacks_parseLines : Lacks c parseLines := by
  have own {text : String} (h : isOrdinary text = true) : Lacks c text :=
    lacks_of_isOrdinary unprintable hc h
  exact (((own (by decide)).append (own (by decide))).append (own (by decide))).append
    (own (by decide))

theorem lacks_accessLines : Lacks c accessLines := by
  have own {text : String} (h : isOrdinary text = true) : Lacks c text :=
    lacks_of_isOrdinary unprintable hc h
  exact ((own (by decide)).append (own (by decide))).append (own (by decide))

theorem lacks_body {l : Loaded} (document : Lacks c l.document.print)
    (operations : ∀ entry ∈ l.operations, Lacks c entry.2.print)
    (imports : isBlank c = true ∨ ∀ reference ∈ l.imports, Lacks c reference) :
    Lacks c (body l) := by
  have own {text : String} (h : isOrdinary text = true) : Lacks c text :=
    lacks_of_isOrdinary unprintable hc h
  exact (((((lacks_sourceLines unprintable hc document).append
    (lacks_importLines unprintable hc imports)).append
    (lacks_operationLines unprintable hc operations)).append
    (lacks_parseLines unprintable hc)).append
    (((own (by decide)).append (own (by decide))).append (own (by decide)))).append
    (lacks_accessLines unprintable hc)

end Lacking

/-- A rendered module is read piece by piece as the layout has it: the docstring with the source
name, the whole document, one comment for each import, one entry for each operation in their order,
each key and each text as it is, and else the characters of the layout alone. -/
theorem render_modulePieces (l : Loaded)
    (document : Lacks '\r' l.document.print ∧ Lacks '\x00' l.document.print)
    (operations : ∀ entry ∈ l.operations,
      Lacks '\r' entry.2.print ∧ Lacks '\x00' entry.2.print)
    (source : Lacks '\x00' l.source) (imports : ∀ reference ∈ l.imports, Lacks '\x00' reference) :
    ∃ text, render l none = .ok text ∧ modulePieces text = some (layoutPieces l) := by
  have noReturn : Lacks '\r' (body l) := lacks_body (by decide) (by decide) document.1
    (fun entry among => (operations entry among).1) (Or.inl (by decide))
  have noNull : Lacks '\x00' (layout l) := (lacks_heading (by decide) (by decide) source).append
    (lacks_body (by decide) (by decide) document.2
      (fun entry among => (operations entry among).2) (Or.inr imports))
  have apart : (heading l.source).toList.getLast? ≠ some '\r' := by
    have last : "\n\n".toList.getLast? = some '\n' := by decide
    rw [heading, String.toList_append, List.getLast?_append, last, Option.some_or]
    decide
  refine ⟨layout l, ?_, ?_⟩
  · have absent : (layout l).toList.contains '\x00' = false := by simpa [Lacks] using noNull
    rw [render, withoutNull, absent]
    rfl
  · rw [modulePieces, layout, String.toList_append, unifyNewlines_append (Or.inl apart),
      unifyNewlines_of_not_mem noReturn]
    exact ((reads_heading l.source).append (reads_body l)).pieces_eq

namespace Sample

def escaping (name : String) : Document where
  source := name
  definitions := [.operation ⟨none, .query, some name, [], [],
    [.field none "x" [⟨"text", .text ⟨"\"\\\n", false⟩⟩] [] []]⟩]

/-- Quotes, backslashes and line ends wherever a text is free. -/
def awkward : Loaded where
  source := "\"\"\"\"\\\r\n\""
  document := escaping "A"
  operations := [("A'\"", escaping "A"), ("B\n", escaping "B")]
  imports := ["a\nb = 1 # \"\"\"", "\r\r"]

end Sample

theorem render_modulePieces_awkward : ∃ text, render Sample.awkward none = .ok text ∧
    modulePieces text = some (layoutPieces Sample.awkward) :=
  render_modulePieces Sample.awkward (by decide +kernel) (by decide +kernel) (by decide)
    (by decide)

end OperationDocuments.Generated
