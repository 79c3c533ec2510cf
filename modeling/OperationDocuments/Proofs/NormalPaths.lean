import Mathlib
import OperationDocuments.Load.Session
import OperationDocuments.Proofs.FileTree

/-! # Normal paths

An absolute path is normal if it has no part that leads nowhere and no step up; a relative one may
begin with steps up. Normalizing makes a path normal, and without links it leads to the same place.
So every way to write the path of a file comes down to one of finitely many texts: two for each file
of the tree, and those seen from the working directory. -/
namespace OperationDocuments

open Text

namespace Path

variable {path base reference part : String} {names done : List String} {absolute : Bool}

theorem isAbsolute_iff : isAbsolute path = true ↔ ∃ rest, path.toList = '/' :: rest := by
  unfold isAbsolute
  cases path.toList <;> simp

theorem isAbsolute_slash (text : String) : isAbsolute ("/" ++ text) = true :=
  isAbsolute_iff.mpr ⟨text.toList, by simp⟩

/-! ## Parts -/

theorem slash_not_mem_of_mem_parts (h : part ∈ parts path) : '/' ∉ part.toList := by
  obtain ⟨chars, among, rfl⟩ := List.mem_map.mp h
  intro inside
  have := (mem_of_mem_splitWhere among (by simpa using inside)).2
  simp at this

theorem parts_slash (text : String) : parts ("/" ++ text) = "" :: parts text := by
  have front : ("/" ++ text).toList = '/' :: text.toList := by simp
  rw [parts, front, splitAt, splitWhere]
  simp [parts, splitAt]

def IsPart (name : String) : Prop := name ≠ "" ∧ '/' ∉ name.toList

/-- A name that no path loses when it is normalized. -/
def Plain (name : String) : Prop := name ≠ "" ∧ name ≠ "." ∧ name ≠ ".." ∧ '/' ∉ name.toList

theorem Plain.isPart {name : String} (h : Plain name) : IsPart name := ⟨h.1, h.2.2.2⟩

theorem toList_joined (names : List String) :
    ("/".intercalate names).toList = joinWith ['/'] (names.map String.toList) := by
  induction names with
  | nil => rfl
  | cons name more ih =>
    cases more with
    | nil => simp [joinWith]
    | cons next more =>
      rw [String.intercalate_cons_cons, String.toList_append, String.toList_append, ih]
      simp [joinWith]

theorem parts_joined (names_are_parts : ∀ name ∈ names, IsPart name) :
    parts ("/".intercalate names) = if names = [] then [""] else names := by
  rw [parts, toList_joined]
  split
  · next none =>
    subst none
    rfl
  · next some_name =>
    rw [splitAt_joinWith (by simpa using some_name)]
    · simp [List.map_map, Function.comp_def]
    · intro chars among
      obtain ⟨name, mem, rfl⟩ := List.mem_map.mp among
      exact (names_are_parts name mem).2

theorem joined_eq_empty_iff (names_are_parts : ∀ name ∈ names, IsPart name) :
    "/".intercalate names = "" ↔ names = [] := by
  refine ⟨fun none => ?_, fun none => by rw [none]; rfl⟩
  by_contra some_name
  have split := parts_joined names_are_parts
  rw [none, if_neg some_name] at split
  have empty : "" ∈ names := split ▸ List.mem_singleton_self ""
  exact (names_are_parts "" empty).1 rfl

theorem head?_joined (names_are_parts : ∀ name ∈ names, IsPart name) :
    ("/".intercalate names).toList.head? ≠ some '/' := by
  cases names with
  | nil => simp
  | cons name more =>
    obtain ⟨nonempty, noSlash⟩ := names_are_parts name (by simp)
    have first : ∃ c rest, name.toList = c :: rest := by
      refine List.exists_cons_of_ne_nil fun none => nonempty ?_
      rwa [← String.toList_inj]
    obtain ⟨c, rest, spelled⟩ := first
    have notSlash : c ≠ '/' := by
      rintro rfl
      exact noSlash (by simp [spelled])
    rw [toList_joined]
    cases more <;> simp [joinWith, spelled, notSlash]

theorem size_steps_le (up : Nat) (below : List String) :
    3 * up ≤ ("/".intercalate (List.replicate up ".." ++ below)).utf8ByteSize + 1 := by
  induction up with
  | zero => simp
  | succ up ih =>
    rw [List.replicate_succ, List.cons_append]
    cases rest : List.replicate up ".." ++ below with
    | nil =>
      obtain ⟨none, -⟩ := List.append_eq_nil_iff.mp rest
      obtain rfl : up = 0 := by simpa using none
      decide
    | cons name more =>
      rw [rest] at ih
      rw [String.intercalate_cons_cons, String.utf8ByteSize_append, String.utf8ByteSize_append]
      have step : "..".utf8ByteSize = 2 := by decide
      have slash : "/".utf8ByteSize = 1 := by decide
      omega

/-! ## Pushing parts -/

theorem push_plain (h : Plain part) (done : List String) :
    push absolute done part = done ++ [part] := by
  simp [push, h.1, h.2.1, h.2.2.1]

theorem foldl_push_plain (plain : ∀ name ∈ names, Plain name) (done : List String) :
    names.foldl (push absolute) done = done ++ names := by
  induction names generalizing done with
  | nil => simp
  | cons name more ih =>
    rw [List.foldl_cons, push_plain (plain name (by simp)),
      ih fun other among => plain other (by simp [among])]
    simp

theorem plain_push (plain : ∀ name ∈ done, Plain name) (noSlash : '/' ∉ part.toList) :
    ∀ name ∈ push true done part, Plain name := by
  unfold push
  split
  · exact plain
  · next somewhere =>
    split
    · next down =>
      intro name among
      rcases List.mem_append.mp among with among | new
      · exact plain name among
      · obtain rfl := List.mem_singleton.mp new
        exact ⟨fun h => somewhere (Or.inl h), fun h => somewhere (Or.inr h), down, noSlash⟩
    · split
      · simp
      · next last found =>
        have isPlain := plain last (List.mem_of_getLast? found)
        rw [if_neg isPlain.2.2.1]
        exact fun name among => plain name (List.mem_of_mem_dropLast among)

theorem plain_plainParts (h : isAbsolute path = true) :
    ∀ name ∈ plainParts path, Plain name := by
  rw [plainParts, h]
  refine List.foldlRecOn (motive := fun done => ∀ name ∈ done, Plain name) (parts path) (push true)
    (by simp) ?_
  exact fun done plain part among => plain_push plain (slash_not_mem_of_mem_parts among)

/-- Steps up, and plain names behind them. -/
def Climbs (names : List String) : Prop :=
  ∃ up below, names = List.replicate up ".." ++ below ∧ ∀ name ∈ below, Plain name

theorem Climbs.isPart (h : Climbs names) : ∀ name ∈ names, IsPart name := by
  obtain ⟨up, below, rfl, plain⟩ := h
  intro name among
  rcases List.mem_append.mp among with step | name_below
  · rw [List.eq_of_mem_replicate step]
    exact ⟨by decide, by decide⟩
  · exact (plain name name_below).isPart

theorem climbs_push (h : Climbs done) (noSlash : '/' ∉ part.toList) :
    Climbs (push false done part) := by
  obtain ⟨up, below, rfl, plain⟩ := h
  unfold push
  split
  · exact ⟨up, below, rfl, plain⟩
  next somewhere =>
  split
  next down =>
    refine ⟨up, below ++ [part], List.append_assoc _ _ _, fun name among => ?_⟩
    rcases List.mem_append.mp among with among | new
    · exact plain name among
    · rw [List.mem_singleton.mp new]
      exact ⟨fun h => somewhere (.inl h), fun h => somewhere (.inr h), down, noSlash⟩
  next back =>
  obtain rfl : part = ".." := not_not.mp back
  rcases List.eq_nil_or_concat below with rfl | ⟨front, last, rfl⟩
  · -- only steps up so far, so that this is one more of them
    rw [List.append_nil]
    refine ⟨up + 1, [], ?_, nofun⟩
    cases up with
    | zero => rfl
    | succ up =>
      have last : (List.replicate (up + 1) "..").getLast? = some ".." := by
        rw [List.replicate_succ', List.getLast?_concat]
      rw [last, List.append_nil, List.replicate_succ' (n := up + 1)]
      rfl
  · have isPlain := plain last (by simp)
    refine ⟨up, front, ?_, fun name among => plain name (by simp [among])⟩
    rw [List.concat_eq_append, ← List.append_assoc, List.getLast?_concat]
    simp [isPlain.2.2.1]

/-- Normalizing leaves no step up in a relative path but those that lead above where it begins. -/
theorem climbs_plainParts (h : isAbsolute path = false) : Climbs (plainParts path) := by
  rw [plainParts, h]
  refine List.foldlRecOn (motive := Climbs) (parts path) (push false) ⟨0, [], rfl, nofun⟩ ?_
  exact fun done climbs part among => climbs_push climbs (slash_not_mem_of_mem_parts among)

/-! ## Normalizing -/

theorem root_of_isAbsolute (h : isAbsolute path = true) :
    root path = "/" ∨ root path = "/" ++ "/" := by
  obtain ⟨rest, spelled⟩ := isAbsolute_iff.mp h
  unfold root
  rw [spelled]
  split
  · exact Or.inl rfl
  · exact Or.inr (by decide)
  · exact Or.inl rfl
  · next other => exact absurd rfl (other rest)

theorem normalize_of_isAbsolute (h : isAbsolute path = true) :
    normalize path = root path ++ "/".intercalate (plainParts path) := by
  have nonempty : root path ++ "/".intercalate (plainParts path) ≠ "" := by
    rcases root_of_isAbsolute h with root | root <;> simp [root]
  rw [normalize, if_neg nonempty]

theorem normalize_of_not_isAbsolute (h : isAbsolute path = false) :
    normalize path = if plainParts path = [] then "." else "/".intercalate (plainParts path) := by
  have unrooted : root path = "" := by
    unfold root
    unfold isAbsolute at h
    split <;> simp_all
  rw [normalize, unrooted, String.empty_append]
  exact if_congr (joined_eq_empty_iff (climbs_plainParts h).isPart) rfl rfl

theorem isAbsolute_normalize (h : isAbsolute path = true) :
    isAbsolute (normalize path) = true := by
  rw [normalize_of_isAbsolute h]
  rcases root_of_isAbsolute h with root | root
  · rw [root]
    exact isAbsolute_slash _
  · rw [root, String.append_assoc]
    exact isAbsolute_slash _

theorem root_append {text : String} (unslashed : text.toList.head? ≠ some '/') :
    root ("/" ++ text) = "/" ∧ root ("/" ++ ("/" ++ text)) = "/" ++ "/" := by
  unfold root
  cases spelled : text.toList with
  | nil => simp [spelled]
  | cons c rest =>
    have other : c ≠ '/' := by simpa [spelled] using unslashed
    constructor
    · simp [spelled, other]
    · simp [spelled, other]

theorem normalize_normalize (h : isAbsolute path = true) :
    normalize (normalize path) = normalize path := by
  have plain := plain_plainParts h
  have names_are_parts : ∀ name ∈ plainParts path, IsPart name := fun name among =>
    (plain name among).isPart
  have unslashed := head?_joined names_are_parts
  have names : ∀ done, (parts ("/".intercalate (plainParts path))).foldl (push true) done =
      done ++ plainParts path := by
    intro done
    rw [parts_joined names_are_parts]
    split
    · next none => simp [none, push]
    · exact foldl_push_plain plain done
  have same_names : plainParts (normalize path) = plainParts path := by
    rw [plainParts, isAbsolute_normalize h, normalize_of_isAbsolute h]
    rcases root_of_isAbsolute h with root | root
    · rw [root, parts_slash, List.foldl_cons, names]
      simp [push]
    · rw [root, String.append_assoc, parts_slash, parts_slash, List.foldl_cons, List.foldl_cons,
        names]
      simp [push]
  have same_root : Path.root (normalize path) = Path.root path := by
    rw [normalize_of_isAbsolute h]
    rcases root_of_isAbsolute h with root | root
    · rw [root, (root_append unslashed).1]
    · rw [root, String.append_assoc, (root_append unslashed).2]
  rw [normalize_of_isAbsolute (isAbsolute_normalize h), same_root, same_names,
    normalize_of_isAbsolute h]

theorem isAbsolute_join (h : isAbsolute base = true) (reference : String) :
    isAbsolute (join base reference) = true := by
  obtain ⟨rest, spelled⟩ := isAbsolute_iff.mp h
  unfold join
  split_ifs with itself
  · exact itself
  · exact isAbsolute_iff.mpr ⟨rest ++ reference.toList, by simp [spelled]⟩
  · exact isAbsolute_iff.mpr ⟨rest ++ '/' :: reference.toList, by simp [spelled]⟩

theorem length_fileName_lt (h : isAbsolute path = true) :
    (fileName path).length < path.length := by
  obtain ⟨rest, spelled⟩ := isAbsolute_iff.mp h
  have length : path.length = rest.length + 1 := by
    rw [← String.length_toList, spelled, List.length_cons]
  have split : parts path = "" :: (splitAt '/' rest).map String.ofList := by
    rw [parts, spelled, splitAt, splitWhere]
    simp [splitAt]
  rw [fileName, split, length]
  cases last : (splitAt '/' rest).map String.ofList with
  | nil => exact absurd (List.map_eq_nil_iff.mp last) (splitWhere_ne_nil _ rest)
  | cons first more =>
    rw [List.getLast?_cons_cons]
    obtain ⟨name, found⟩ : ∃ name, (first :: more).getLast? = some name :=
      ⟨_, List.getLast?_eq_some_getLast (by simp)⟩
    rw [found, Option.getD_some]
    have among := List.mem_of_getLast? found
    rw [← last] at among
    obtain ⟨chars, mem, rfl⟩ := List.mem_map.mp among
    have := length_le_of_mem_splitWhere mem
    simp only [String.length_ofList]
    omega

theorem isAbsolute_parent (h : isAbsolute path = true) : isAbsolute (parent path) = true := by
  obtain ⟨rest, spelled⟩ := isAbsolute_iff.mp h
  have shorter := length_fileName_lt h
  obtain ⟨n, hn⟩ : ∃ n, path.length - (fileName path).length = n + 1 :=
    Nat.exists_eq_succ_of_ne_zero (by omega)
  unfold parent
  simp only [hn, spelled, List.take_succ_cons]
  split
  · exact isAbsolute_iff.mpr ⟨_, String.toList_ofList⟩
  · next some_char =>
    -- what is cut off at the end leaves the first character, unless it leaves none
    have front : (('/' :: rest.take n).reverse.dropWhile (· == '/')).reverse <+:
        '/' :: rest.take n := by
      have := List.dropWhile_suffix (l := ('/' :: rest.take n).reverse) (· == '/')
      simpa using List.reverse_prefix.mpr this
    obtain ⟨c, more, kept⟩ := List.exists_cons_of_ne_nil
      (l := (('/' :: rest.take n).reverse.dropWhile (· == '/')).reverse) (by simpa using some_char)
    rw [kept] at front ⊢
    obtain ⟨rfl, -⟩ := List.cons_prefix_cons.mp front
    exact isAbsolute_iff.mpr ⟨more, String.toList_ofList⟩

theorem isAbsolute_path (place : Location) : isAbsolute place.path = true := isAbsolute_slash _

theorem absolute_of_isAbsolute (directory : String) (h : isAbsolute path = true) :
    Path.absolute directory path = normalize path := by
  rw [Path.absolute, join, if_pos h]

end Path

/-! ## Places of paths -/

namespace Location

variable {here : Location} {names : List String}

/-- Where one part of a path leads from a place, if it leads anywhere. -/
def after (here : Location) (part : String) : Location :=
  if part = "" ∨ part = "." then here
  else if part = ".." then here.dropLast else here ++ [part]

theorem after_eq_push (part : String) (down : ".." ∉ here) :
    here.after part = Path.push true here part ∧ ".." ∉ here.after part := by
  unfold after Path.push
  by_cases stays : part = "" ∨ part = "."
  · rw [if_pos stays, if_pos stays]
    exact ⟨rfl, down⟩
  rw [if_neg stays, if_neg stays]
  by_cases back : part = ".."
  · rw [if_pos back]
    have above : ".." ∉ here.dropLast := fun among => down (List.mem_of_mem_dropLast among)
    refine ⟨?_, above⟩
    cases last : here.getLast? with
    | none => simp [back, List.getLast?_eq_none_iff.mp last]
    | some name =>
      have other : name ≠ ".." := fun same => down (same ▸ List.mem_of_getLast? last)
      simp [back, other]
  · rw [if_neg back, if_pos back]
    exact ⟨rfl, by simp [down, Ne.symm back]⟩

theorem foldl_after_eq_push (parts : List String) (down : ".." ∉ here) :
    parts.foldl after here = parts.foldl (Path.push true) here := by
  induction parts generalizing here with
  | nil => rfl
  | cons part more ih =>
    obtain ⟨pushed, down⟩ := after_eq_push part down
    rw [List.foldl_cons, List.foldl_cons, ih down, pushed]

theorem foldl_after_up (up : Nat) (here : Location) :
    (List.replicate up "..").foldl after here = here.take (here.length - up) := by
  induction up generalizing here with
  | zero => simp
  | succ up ih =>
    have above : here.after ".." = here.dropLast := rfl
    rw [List.replicate_succ, List.foldl_cons, above, ih, List.length_dropLast,
      List.dropLast_eq_take, List.take_take]
    congr 1
    omega

theorem foldl_after_plain (plain : ∀ name ∈ names, Path.Plain name) (here : Location) :
    names.foldl after here = here ++ names := by
  induction names generalizing here with
  | nil => simp
  | cons name more ih =>
    obtain ⟨some_char, notSelf, notUp, -⟩ := plain name List.mem_cons_self
    have below : here.after name = here ++ [name] := by
      simp [after, some_char, notSelf, notUp]
    rw [List.foldl_cons, below, ih fun other among => plain other (List.mem_cons_of_mem name among)]
    simp

end Location

namespace FileTree

variable {t : FileTree} {start other place here : Location} {path : String}

theorem follow_of_isAbsolute (h : Path.isAbsolute path = true) (start other : Location) :
    t.follow start path = t.follow other path := by
  unfold follow
  simp only [h, if_true]

theorem isFile_of_isAbsolute (h : Path.isAbsolute path = true) (start other : Location) :
    t.isFile start path = t.isFile other path := by
  unfold isFile find?
  rw [follow_of_isAbsolute h start other]

theorem read_of_isAbsolute (h : Path.isAbsolute path = true) (start other : Location) :
    t.read start path = t.read other path := by
  unfold read
  rw [follow_of_isAbsolute h start other]

theorem step_eq_after {part : String} (ok : t.step path here part = .ok place) :
    place = here.after part := by
  unfold step at ok
  unfold Location.after
  split at ok
  · cases ok
  · cases ok
  · split_ifs at ok ⊢ <;> cases ok <;> rfl

theorem foldlM_step_eq {parts : List String} (ok : parts.foldlM (t.step path) here = .ok place) :
    place = parts.foldl Location.after here := by
  induction parts generalizing here with
  | nil =>
    cases ok
    rfl
  | cons part more ih =>
    rw [List.foldlM_cons] at ok
    cases first : t.step path here part with
    | error e => simp [first, bind, Except.bind] at ok
    | ok next =>
      rw [first] at ok
      rw [List.foldl_cons, ← step_eq_after first]
      exact ih ok

/-- Where a path leads can be told from its text alone. -/
theorem follow_eq (ok : t.follow start path = .ok place) :
    place = (Path.parts path).foldl Location.after (if Path.isAbsolute path then [] else start) ∧
      path.utf8ByteSize ≤ Path.longest := by
  unfold follow at ok
  split at ok
  · cases ok
  split at ok
  · cases ok
  split at ok
  · cases ok
  next short => exact ⟨foldlM_step_eq ok, not_lt.mp short⟩

theorem exists_follow_of_isFile (file : t.isFile start path = true) :
    ∃ place ∈ t.fileLocations, t.follow start path = .ok place := by
  rw [isFile, beq_iff_eq, find?] at file
  cases followed : t.follow start path with
  | error e => simp [followed] at file
  | ok place =>
    rw [followed] at file
    exact ⟨place, mem_fileLocations_of_kindAt? file, rfl⟩

/-- Without links an absolute path leads where its text says. -/
theorem mem_fileLocations_of_isFile (h : Path.isAbsolute path = true)
    (file : t.isFile start path = true) : Path.plainParts path ∈ t.fileLocations := by
  obtain ⟨place, there, followed⟩ := exists_follow_of_isFile file
  obtain ⟨leads, -⟩ := follow_eq followed
  rw [if_pos h, Location.foldl_after_eq_push _ List.not_mem_nil] at leads
  rwa [Path.plainParts, h, ← leads]

/-- Steps up are taken from the directory where the path is seen from, and no more of them than
there is room for in a path. -/
theorem mem_fileLocations_of_climbs {up : Nat} {below : List String}
    (spelled : path = "/".intercalate (List.replicate up ".." ++ below))
    (plain : ∀ name ∈ below, Path.Plain name) (some_name : List.replicate up ".." ++ below ≠ [])
    (file : t.isFile start path = true) :
    start.take (start.length - up) ++ below ∈ t.fileLocations ∧ up ≤ Path.longest / 3 := by
  have names_are_parts : ∀ name ∈ List.replicate up ".." ++ below, Path.IsPart name :=
    Path.Climbs.isPart ⟨up, below, rfl, plain⟩
  have relative : Path.isAbsolute path = false := by
    simpa [Path.isAbsolute, spelled] using Path.head?_joined names_are_parts
  have split : Path.parts path = List.replicate up ".." ++ below := by
    rw [spelled, Path.parts_joined names_are_parts, if_neg some_name]
  obtain ⟨place, there, followed⟩ := exists_follow_of_isFile file
  obtain ⟨leads, short⟩ := follow_eq followed
  rw [relative, if_neg Bool.false_ne_true, split, List.foldl_append, Location.foldl_after_up,
    Location.foldl_after_plain plain] at leads
  refine ⟨leads ▸ there, ?_⟩
  have room := Path.size_steps_le up below
  rw [← spelled] at room
  simp only [Path.longest] at short ⊢
  omega

theorem not_isFile_self (t : FileTree) (start : Location) : t.isFile start "." = false := by
  have alone : Path.parts "." = ["."] := by decide
  unfold isFile find? follow
  rw [if_neg (by decide), if_neg (by decide), if_neg (by decide), alone, if_neg (by decide),
    List.foldlM_cons]
  unfold step
  cases kind : t.kindAt? start with
  | none => rfl
  | some kind' =>
    cases kind' with
    | file => rfl
    | directory => simp [bind, Except.bind, pure, Except.pure, kind]

end FileTree

namespace Workspace

variable {w : Workspace} {root path reference : String} {origin : Option String}

theorem mem_filePaths : path ∈ w.filePaths ↔
    ∃ place ∈ w.tree.fileLocations, path = place.path ∨ path = "/" ++ place.path := by
  simp only [filePaths, FileTree.fileLocations, List.mem_flatMap, List.mem_map, List.mem_cons,
    List.not_mem_nil, or_false]
  constructor
  · rintro ⟨entry, there, spelled⟩
    exact ⟨entry.1, ⟨entry, there, rfl⟩, spelled⟩
  · rintro ⟨_, ⟨entry, there, rfl⟩, spelled⟩
    exact ⟨entry, there, spelled⟩

theorem isAbsolute_of_mem_filePaths (h : path ∈ w.filePaths) : Path.isAbsolute path = true := by
  obtain ⟨place, -, rfl | rfl⟩ := mem_filePaths.mp h
  · exact Path.isAbsolute_path place
  · exact Path.isAbsolute_slash _

/-- However the path of a file is written, normalizing makes it one of finitely many. -/
theorem normalize_mem_filePaths (h : Path.isAbsolute path = true)
    (file : w.isFile path = true) : Path.normalize path ∈ w.filePaths := by
  have place := FileTree.mem_fileLocations_of_isFile h file
  refine mem_filePaths.mpr ⟨_, place, ?_⟩
  rw [Path.normalize_of_isAbsolute h, Location.path]
  rcases Path.root_of_isAbsolute h with root | root
  · exact Or.inl (by rw [root])
  · exact Or.inr (by rw [root, String.append_assoc])

theorem exists_importPath_eq (w : Workspace) (root reference : String) (origin : Option String) :
    ∃ path, w.importPath root reference origin = Path.normalize path ∧
      (Path.isAbsolute root = true → Path.isAbsolute path = true) := by
  unfold importPath
  split
  · next itself => exact ⟨reference, rfl, fun _ => itself⟩
  · refine ⟨_, rfl, fun rooted => Path.isAbsolute_join ?_ reference⟩
    cases origin with
    | none => exact rooted
    | some file =>
      dsimp only
      split
      · refine Path.isAbsolute_parent (Path.isAbsolute_normalize ?_)
        exact Path.isAbsolute_join (Path.isAbsolute_path w.directory) file
      · exact rooted

theorem isAbsolute_importPath (w : Workspace) (reference : String) (origin : Option String)
    (rooted : Path.isAbsolute root = true) :
    Path.isAbsolute (w.importPath root reference origin) = true := by
  obtain ⟨path, same, absolute⟩ := exists_importPath_eq w root reference origin
  rw [same]
  exact Path.isAbsolute_normalize (absolute rooted)

theorem normalize_importPath (w : Workspace) (reference : String) (origin : Option String)
    (rooted : Path.isAbsolute root = true) :
    Path.normalize (w.importPath root reference origin) = w.importPath root reference origin := by
  obtain ⟨path, same, absolute⟩ := exists_importPath_eq w root reference origin
  rw [same]
  exact Path.normalize_normalize (absolute rooted)

theorem normalize_mem_relativePaths (h : Path.isAbsolute path = false)
    (file : w.isFile (Path.normalize path) = true) : Path.normalize path ∈ w.relativePaths := by
  rw [Path.normalize_of_not_isAbsolute h] at file ⊢
  split at file
  · rw [isFile, FileTree.not_isFile_self] at file
    cases file
  next some_name =>
  rw [if_neg some_name]
  obtain ⟨up, below, names, plain⟩ := Path.climbs_plainParts h
  rw [names] at file some_name ⊢
  obtain ⟨there, room⟩ := FileTree.mem_fileLocations_of_climbs rfl plain some_name file
  obtain ⟨entry, among, place⟩ := List.mem_map.mp there
  refine List.mem_flatMap.mpr ⟨up, List.mem_range.mpr (Nat.lt_succ_of_le room), ?_⟩
  refine List.mem_map.mpr ⟨entry, List.mem_filter.mpr ⟨among, ?_⟩, ?_⟩
  · simp [place]
  · simp [place]

/-- A reference leads to a file only by a path that is known. -/
theorem importPath_mem_paths (file : w.isFile (w.importPath root reference origin) = true) :
    w.importPath root reference origin ∈ w.paths root := by
  obtain ⟨path, spelled, rooted⟩ := exists_importPath_eq w root reference origin
  rw [spelled] at file ⊢
  have known : Path.isAbsolute path = true → Path.normalize path ∈ w.filePaths := by
    intro absolute
    have among := normalize_mem_filePaths (Path.isAbsolute_normalize absolute) file
    rwa [Path.normalize_normalize absolute] at among
  unfold paths
  split
  next absolute => exact known (rooted absolute)
  by_cases absolute : Path.isAbsolute path = true
  · exact List.mem_append_left _ (known absolute)
  · exact List.mem_append_right _ (normalize_mem_relativePaths (by simpa using absolute) file)

end Workspace

end OperationDocuments
