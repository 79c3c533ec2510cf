import Mathlib
import OperationDocuments.Proofs.SplitOutcome

/-! # Line ends and import directives

A text is given as its lines and the ends between them, which may be of any kind and mixed. Lines
cannot be told from the text alone, since a carriage return, an empty line and a line feed make one
end; but only empty lines are lost in this way, and empty lines say nothing in a leading block. So
a scan can be described line by line, and it does not matter for it whether the ends were made
alike before. -/
namespace OperationDocuments

namespace Text

inductive LineEnd where
  | lineFeed
  | carriageReturn
  | both
  deriving Repr, DecidableEq

def LineEnd.text : LineEnd → List Char
  | lineFeed => ['\n']
  | carriageReturn => ['\r']
  | both => ['\r', '\n']

/-- Lines with an end between each two neighbours, which `ends` tells for the line in front. -/
def joinLines (ends : Nat → LineEnd) : List (List Char) → List Char
  | [] => []
  | [line] => line
  | line :: more => line ++ (ends 0).text ++ joinLines (fun i => ends (i + 1)) more

def InLine (line : List Char) : Prop := '\r' ∉ line ∧ '\n' ∉ line

instance : DecidablePred InLine := fun _ => inferInstanceAs (Decidable (_ ∧ _))

def writtenLines (s : List Char) : List (List Char) := (lines s).filter (!·.isEmpty)

variable {line s : List Char} {c : Char}

/-- An end in front of a text adds at most an empty line to it: two ends may make one. -/
theorem lines_end (h : c = '\r' ∨ c = '\n') (s : List Char) :
    ∃ more, lines (c :: s) = [] :: more ∧ more.filter (!·.isEmpty) = writtenLines s := by
  rcases h with rfl | rfl
  · by_cases pair : s.head? = some '\n'
    · obtain ⟨rest, rfl⟩ := List.head?_eq_some_iff.mp pair
      exact ⟨lines rest, rfl, by simp [writtenLines, lines]⟩
    · refine ⟨lines s, ?_, rfl⟩
      rw [lines.eq_3 '\r' s fun rest _ same => pair (by rw [same]; rfl)]
      simp
  · refine ⟨lines s, ?_, rfl⟩
    rw [lines.eq_3 '\n' s fun _ same => absurd same (by decide)]
    simp

theorem writtenLines_end (h : c = '\r' ∨ c = '\n') (s : List Char) :
    writtenLines (c :: s) = writtenLines s := by
  obtain ⟨more, cut, later⟩ := lines_end h s
  rw [writtenLines, cut, ← later]
  rfl

theorem lines_append (plain : InLine line) (s : List Char) :
    ∃ first more, lines s = first :: more ∧ lines (line ++ s) = (line ++ first) :: more := by
  induction line with
  | nil =>
    obtain ⟨first, more, cut⟩ := List.exists_cons_of_ne_nil (lines_ne_nil s)
    exact ⟨first, more, cut, cut⟩
  | cons c line ih =>
    obtain ⟨noReturn, noFeed⟩ := plain
    simp only [List.mem_cons, not_or] at noReturn noFeed
    obtain ⟨first, more, cut, joined⟩ := ih ⟨noReturn.2, noFeed.2⟩
    refine ⟨first, more, cut, ?_⟩
    rw [List.cons_append, lines.eq_3 c _ fun _ same => absurd same.symm noReturn.1,
      if_neg (by simp [Ne.symm noReturn.1, Ne.symm noFeed.1]), joined]
    rfl

theorem writtenLines_line (plain : InLine line) :
    writtenLines line = [line].filter (!·.isEmpty) := by
  obtain ⟨first, more, cut, joined⟩ := lines_append plain []
  rw [List.append_nil] at joined
  cases cut
  rw [writtenLines, joined, List.append_nil]

theorem writtenLines_line_end (plain : InLine line) (h : c = '\r' ∨ c = '\n') (s : List Char) :
    writtenLines (line ++ c :: s) = [line].filter (!·.isEmpty) ++ writtenLines s := by
  obtain ⟨first, more, cut, joined⟩ := lines_append plain (c :: s)
  obtain ⟨rest, cut', later⟩ := lines_end h s
  obtain ⟨rfl, rfl⟩ := List.cons.inj (cut.symm.trans cut')
  rw [writtenLines, joined, List.append_nil, ← later, ← List.filter_append]
  rfl

/-- No line that is not empty is lost when lines are joined. -/
theorem writtenLines_joinLines {ls : List (List Char)} (plain : ∀ line ∈ ls, InLine line)
    (ends : Nat → LineEnd) :
    writtenLines (joinLines ends ls) = ls.filter (!·.isEmpty) := by
  fun_induction joinLines ends ls with
  | case1 ends => rfl
  | case2 ends line => exact writtenLines_line (plain line (by simp))
  | case3 ends line more _ ih =>
    have later := ih fun other among => plain other (List.mem_cons_of_mem line among)
    have here : ∀ {c : Char}, c = '\r' ∨ c = '\n' → ∀ s, writtenLines (line ++ c :: s) =
        [line].filter (!·.isEmpty) ++ writtenLines s :=
      writtenLines_line_end (plain line List.mem_cons_self)
    rw [List.append_assoc, ← List.singleton_append (l := more), List.filter_append, ← later]
    cases ends 0 with
    | lineFeed => exact here (Or.inr rfl) _
    | carriageReturn => exact here (Or.inl rfl) _
    | both =>
      rw [← writtenLines_end (Or.inr rfl) (joinLines _ more)]
      exact here (Or.inl rfl) _

theorem lines_unifyNewlines (s : List Char) : lines (unifyNewlines s) = lines s := by
  fun_induction unifyNewlines s with
  | case1 => rfl
  | case2 rest ih =>
    rw [lines.eq_2, lines.eq_3 '\n' _ fun _ same => absurd same (by decide), if_pos (Or.inl rfl), ih]
  | case3 c rest notPair ih =>
    rw [lines.eq_3 c rest notPair, lines.eq_3, ih]
    · by_cases h : c = '\r' <;> simp [h]
    · intro _ same
      split at same
      · exact absurd same (by decide)
      · next other => exact absurd same other

end Text

namespace Import

open Text

/-- A word without the quote at its begin and the same at its end, if there are two such. -/
inductive Unquotes : List Char → List Char → Prop where
  | quoted {quote : Char} (isQuote : quote = '"' ∨ quote = '\'') (inner : List Char) :
      Unquotes (quote :: inner ++ [quote]) inner
  | bare {word : List Char} (plain : ∀ quote inner, quote = '"' ∨ quote = '\'' →
      word ≠ quote :: inner ++ [quote]) : Unquotes word word

/-- A line with `#import` and a blank in front, and then the word that gives the reference, up to
the next blank or the end. -/
def Names (line : List Char) (reference : String) : Prop :=
  ∃ word after, line = "#import ".toList ++ (word ++ after) ∧ ' ' ∉ word ∧
    after.head?.all (· == ' ') ∧ Unquotes word reference.toList

def leadingLines (ls : List (List Char)) : List (List Char) :=
  ls.takeWhile fun line => line = [] ∨ line.head? = some '#'

/-- What a scan of some lines comes to: it is refused for the first leading line that has no
reference where one has to be, and otherwise finds one reference for each leading line that begins
a directive. -/
inductive Scans (ls : List (List Char)) : Except LoadError (List String) → Prop where
  | refused {line : List Char}
      (first : (leadingLines ls).find? (IsEmptyDirective ·) = some line) :
      Scans ls (.error (.emptyDirective (String.ofList line)))
  | found {references : List String} (full : ∀ line ∈ leadingLines ls, ¬IsEmptyDirective line)
      (named : List.Forall₂ Names
        ((leadingLines ls).filter ("#import ".toList.isPrefixOf ·)) references) :
      Scans ls (.ok references)

variable {rest line : List Char} {ls : List (List Char)} {text : String} {e : LoadError}

theorem unquotes_unquote (word : List Char) : Unquotes word (unquote word) := by
  have bare : (∀ quote inner, quote = '"' ∨ quote = '\'' → word ≠ quote :: inner ++ [quote]) →
      unquote word = word → Unquotes word (unquote word) := by
    intro plain same
    rw [same]
    exact .bare plain
  cases word with
  | nil => exact bare (by simp) rfl
  | cons quote rest =>
    by_cases h : (quote = '"' ∨ quote = '\'') ∧ rest.getLast? = some quote
    · obtain ⟨inner, rfl⟩ := List.getLast?_eq_some_iff.mp h.2
      have taken : unquote (quote :: (inner ++ [quote])) = inner := by
        rw [unquote, if_pos h, List.dropLast_concat]
      rw [taken]
      exact .quoted h.1 inner
    · refine bare ?_ (by rw [unquote, if_neg h])
      rintro d inner isQuote same
      obtain ⟨rfl, rfl⟩ := List.cons.inj same
      exact h ⟨isQuote, by simp⟩

theorem names_takeWhile (after : List Char) : Names ("#import ".toList ++ after)
    (String.ofList (unquote (after.takeWhile (· != ' ')))) := by
  refine ⟨after.takeWhile (· != ' '), after.dropWhile (· != ' '), ?_, ?_, ?_, ?_⟩
  · rw [List.takeWhile_append_dropWhile]
  · intro inside
    have := List.mem_takeWhile_imp inside
    simp at this
  · have := List.head?_dropWhile_not (· != ' ') after
    cases head : (after.dropWhile (· != ' ')).head? with
    | none => rfl
    | some c => simpa [head] using this
  · rw [String.toList_ofList]
    exact unquotes_unquote _

theorem exists_reference_of_full (full : ¬IsEmptyDirective ('#' :: rest))
    (keyword : rest.takeWhile (· != ' ') = "import".toList) :
    ∃ after, rest = "import ".toList ++ after ∧ rest.dropWhile (· != ' ') = ' ' :: after ∧
      after.takeWhile (· != ' ') ≠ [] := by
  rw [isEmptyDirective_cons_iff] at full
  have whole := List.takeWhile_append_dropWhile (p := (· != ' ')) (l := rest)
  have begins := List.head?_dropWhile_not (· != ' ') rest
  rw [keyword] at whole
  cases behind : rest.dropWhile (· != ' ') with
  | nil => exact absurd ⟨keyword, by simp [behind]⟩ full
  | cons blank after =>
    obtain rfl : blank = ' ' := by simpa [behind] using begins
    rw [behind] at whole
    refine ⟨after, whole.symm, rfl, fun none => ?_⟩
    exact full ⟨keyword, by rw [behind, List.drop_one, List.tail_cons, none]⟩

theorem directive?_of_full (full : ¬IsEmptyDirective ('#' :: rest)) :
    (∃ reference, directive? ('#' :: rest) = .ok (some reference) ∧
        "#import ".toList <+: '#' :: rest ∧ Names ('#' :: rest) reference) ∨
      directive? ('#' :: rest) = .ok none ∧ ¬"#import ".toList <+: '#' :: rest := by
  rw [directive?_cons]
  split
  · next keyword =>
    left
    obtain ⟨after, line, behind, some_word⟩ := exists_reference_of_full full keyword
    rw [behind, List.drop_one, List.tail_cons, line]
    split
    · next none => exact absurd none some_word
    · exact ⟨_, rfl, ⟨after, rfl⟩, names_takeWhile after⟩
  · next other =>
    refine Or.inr ⟨rfl, ?_⟩
    rintro ⟨after, line⟩
    obtain rfl : "import ".toList ++ after = rest := List.tail_eq_of_cons_eq line
    exact other (by simp)

theorem exists_mapM_directive? {block : List (List Char)}
    (comments : ∀ line ∈ block, line.head? = some '#')
    (full : ∀ line ∈ block, ¬IsEmptyDirective line) :
    ∃ found, block.mapM directive? = .ok found ∧
      List.Forall₂ Names (block.filter ("#import ".toList.isPrefixOf ·)) (found.filterMap id) := by
  induction block with
  | nil => exact ⟨[], rfl, .nil⟩
  | cons line more ih =>
    obtain ⟨rest, rfl⟩ := List.head?_eq_some_iff.mp (comments line List.mem_cons_self)
    obtain ⟨found, later, named⟩ := ih (fun other among => comments other (.tail _ among))
      fun other among => full other (.tail _ among)
    rw [List.mapM_cons, later]
    rcases directive?_of_full (full _ List.mem_cons_self) with
      ⟨reference, here, begins, names⟩ | ⟨here, other⟩
    · refine ⟨some reference :: found, by rw [here]; rfl, ?_⟩
      rw [List.filter_cons_of_pos (List.isPrefixOf_iff_prefix.mpr begins)]
      exact .cons names named
    · refine ⟨none :: found, by rw [here]; rfl, ?_⟩
      rw [List.filter_cons_of_neg (by rwa [List.isPrefixOf_iff_prefix])]
      exact named

def comments (ls : List (List Char)) : List (List Char) :=
  (leadingLines ls).filter (!·.isEmpty)

theorem comments_eq (ls : List (List Char)) : comments ls =
    (ls.filter (!·.isEmpty)).takeWhile fun line => line.head? = some '#' := by
  induction ls with
  | nil => rfl
  | cons line more ih =>
    unfold comments leadingLines at ih ⊢
    cases line with
    | nil => simpa using ih
    | cons c rest =>
      by_cases h : c = '#'
      · simpa [h] using ih
      · simp [h]

theorem leadingBlock_eq (text : List Char) : leadingBlock text = leadingLines (lines text) := by
  unfold leadingBlock leadingLines
  congr 1
  funext line
  cases line <;> simp [beq_eq_decide]

theorem scan_eq (text : String) : scan text =
    ((comments (lines text.toList)).mapM directive?).map fun found => found.filterMap id := by
  rw [scan, leadingBlock_eq, comments]
  cases ((leadingLines (lines text.toList)).filter (!·.isEmpty)).mapM directive? <;> rfl

theorem scan_unifyNewlines (text : String) :
    scan (String.ofList (unifyNewlines text.toList)) = scan text := by
  rw [scan_eq, scan_eq, String.toList_ofList, lines_unifyNewlines]

theorem kind_of_scan (h : scan text = .error e) : e.kind = .resolution ∧ e.reference? = none := by
  obtain ⟨line, -, rfl⟩ := scan_eq_error_iff.mp h
  exact ⟨rfl, rfl⟩

theorem find?_comments (ls : List (List Char)) :
    (comments ls).find? (IsEmptyDirective ·) = (leadingLines ls).find? (IsEmptyDirective ·) := by
  have blank : ¬IsEmptyDirective [] := by decide
  rw [comments, List.find?_filter]
  congr 1
  funext line
  cases line <;> simp [blank]

theorem filter_comments (ls : List (List Char)) :
    (comments ls).filter ("#import ".toList.isPrefixOf ·) =
      (leadingLines ls).filter ("#import ".toList.isPrefixOf ·) := by
  rw [comments, List.filter_filter]
  congr 1
  funext line
  cases line <;> simp

theorem head?_of_mem_comments (h : line ∈ comments ls) : line.head? = some '#' := by
  rw [comments_eq] at h
  simpa using List.mem_takeWhile_imp h

/-- What a scan comes to depends on the lines that are not empty alone. -/
theorem scans_of_writtenLines (h : writtenLines text.toList = ls.filter (!·.isEmpty)) :
    Scans ls (scan text) := by
  have same : comments (lines text.toList) = comments ls := by
    rw [comments_eq, comments_eq, ← h]
    rfl
  cases first : (leadingLines ls).find? (IsEmptyDirective ·) with
  | some line =>
    have found : (leadingBlock text.toList).find? (IsEmptyDirective ·) = some line := by
      rw [leadingBlock_eq, ← find?_comments, same, find?_comments, first]
    rw [scan_eq_error_iff.mpr ⟨line, found, rfl⟩]
    exact .refused first
  | none =>
    have full : ∀ line ∈ leadingLines ls, ¬IsEmptyDirective line := by
      simpa using first
    obtain ⟨found, read, named⟩ := exists_mapM_directive?
      (fun line (among : line ∈ comments ls) => head?_of_mem_comments among)
      fun line among => full line (List.mem_of_mem_filter among)
    have scanned : scan text = .ok (found.filterMap id) := by
      rw [scan_eq, same, read]
      rfl
    rw [scanned]
    rw [filter_comments] at named
    exact .found full named

end Import

namespace Loader

variable {l : Loader} {w : Workspace} {path text : String} {name : Option String} {a : Loaded}

theorem scan_of_load (h : (l.load w text name).Returns a) : Import.scan text = .ok a.imports := by
  obtain ⟨whole, loaded, rfl⟩ := Resolver.returns_loadFiltered.mp h
  obtain ⟨-, -, -, -, -, -, scanned, -⟩ := Resolver.returns_load.mp loaded
  exact scanned

theorem scan_of_read (h : w.tree.read w.directory path = .ok text) :
    ∃ read, w.read path = .ok read ∧ Import.scan read = Import.scan text := by
  refine ⟨String.ofList (Text.unifyNewlines text.toList), ?_, Import.scan_unifyNewlines text⟩
  rw [Workspace.read, FileTree.readLines, h]
  rfl

theorem scan_of_loadFile (held : w.tree.read w.directory path = .ok text)
    (h : (l.loadFile w path).Returns a) : Import.scan text = .ok a.imports := by
  obtain ⟨read, reads, same⟩ := scan_of_read held
  obtain ⟨found, here, loaded⟩ := returns_loadFile.mp h
  rw [reads] at here
  cases here
  rw [← same]
  exact scan_of_load loaded

end Loader

namespace Import

open Text

/-- A scan of lines, whatever ends are between them, is told by the lines. So it is the same for a
file as it stands and for the text that it is read as. -/
theorem scan_lineEnds :
    (∀ (ends : Nat → LineEnd) (ls : List (List Char)), (∀ line ∈ ls, InLine line) →
      Scans ls (scan (String.ofList (joinLines ends ls)))) ∧
    (∀ text e, scan text = .error e → e.kind = .resolution ∧ e.reference? = none) ∧
    (∀ text, scan (String.ofList (unifyNewlines text.toList)) = scan text) ∧
    ∀ (w : Workspace) (path text : String), w.tree.read w.directory path = .ok text →
      (∃ read, w.read path = .ok read ∧ scan read = scan text) ∧
      ∀ (l : Loader) (name : Option String) (fromFile direct : Loaded),
        (l.loadFile w path).Returns fromFile → (l.load w text name).Returns direct →
          fromFile.imports = direct.imports := by
  refine ⟨fun ends ls plain => ?_, fun _ _ => kind_of_scan, scan_unifyNewlines,
    fun w path text held => ⟨Loader.scan_of_read held, ?_⟩⟩
  · apply scans_of_writtenLines
    rw [String.toList_ofList]
    exact writtenLines_joinLines plain ends
  · intro l name fromFile direct ofFile ofText
    have here := Loader.scan_of_loadFile held ofFile
    rw [Loader.scan_of_load ofText] at here
    exact (Except.ok.inj here).symm

end Import

namespace Sample

/-- The empty line stands between a carriage return and a line feed. -/
def commented : List (List Char) :=
  ["#import 'f' c", "", "#import f", "query Q { x }", "#import c"].map String.toList

def mixedEnds (line : Nat) : Text.LineEnd :=
  if line % 3 = 0 then .carriageReturn else if line % 3 = 1 then .lineFeed else .both

def commentedText : String :=
  "#import 'f' c\r\n#import f\r\nquery Q { x }\r#import c"

def commentedFile : Workspace := ⟨⟨[(["q"], .text commentedText)], []⟩, []⟩

def tableLoader : Loader := ⟨.table [("f", "fragment F on T { x }")], []⟩

def commentedLoad (source : String) : Loaded :=
  ⟨source, ⟨source, [query "Q" [field "x"], fragment "F" [field "x"]]⟩, [], ["f", "f"]⟩

theorem returns_load_commented : (tableLoader.load commentedFile commentedText none).Returns
    (commentedLoad Document.defaultSource) := by
  cbv

theorem returns_loadFile_commented :
    (tableLoader.loadFile commentedFile "q").Returns (commentedLoad "q") := by
  cbv

end Sample

namespace Import

open Text Sample

theorem scan_lineEnds_commented :
    (∀ line ∈ commented, InLine line) ∧ Scans commented (scan commentedText) ∧
      (scan "#import" = .error (.emptyDirective "#import") ∧
        (LoadError.emptyDirective "#import").kind = .resolution ∧
        (LoadError.emptyDirective "#import").reference? = none) ∧
      commentedFile.tree.read commentedFile.directory "q" = .ok commentedText ∧
      (tableLoader.loadFile commentedFile "q").Returns (commentedLoad "q") ∧
      (tableLoader.load commentedFile commentedText none).Returns
        (commentedLoad Document.defaultSource) ∧
      (commentedLoad "q").imports = (commentedLoad Document.defaultSource).imports := by
  have joined : String.ofList (joinLines mixedEnds commented) = commentedText := by decide +kernel
  have plain : ∀ line ∈ commented, InLine line := by decide
  have refused : scan "#import" = .error (.emptyDirective "#import") := by cbv
  have held : commentedFile.tree.read commentedFile.directory "q" = .ok commentedText := by
    cbv
  obtain ⟨told, kind, -, files⟩ := scan_lineEnds
  exact ⟨plain, joined ▸ told mixedEnds commented plain, ⟨refused, kind _ _ refused⟩, held,
    returns_loadFile_commented, returns_load_commented,
    (files _ _ _ held).2 _ _ _ _ returns_loadFile_commented returns_load_commented⟩

end Import

end OperationDocuments
