import OperationDocuments.Text.Encoding
import OperationDocuments.Text.Lines

/-! # Paths and file trees

Paths as texts, and the files and directories that they lead to. -/
namespace OperationDocuments.Path

/-! ## Paths

The text of a path, taken apart at its slashes without looking at any file. -/

open Text

def isAbsolute (path : String) : Bool := path.toList.head? == some '/'

def parts (path : String) : List String := (splitAt '/' path.toList).map String.ofList

/-- Slashes at the front: two stay two, any other number counts as one. -/
def root (path : String) : String :=
  match path.toList with
  | '/' :: '/' :: '/' :: _ => "/"
  | '/' :: '/' :: _ => "//"
  | '/' :: _ => "/"
  | _ => ""

/-- One part more on a path of plain parts: a step up cancels the last part, and is kept in front
of a relative path, where there is nothing to cancel. -/
def push (absolute : Bool) (done : List String) (part : String) : List String :=
  if part = "" ∨ part = "." then done
  else if part ≠ ".." then done ++ [part]
  else match done.getLast? with
    | none => if absolute then [] else [part]
    | some last => if last = ".." then done ++ [part] else done.dropLast

def plainParts (path : String) : List String :=
  (parts path).foldl (push (isAbsolute path)) []

def normalize (path : String) : String :=
  let text := root path ++ "/".intercalate (plainParts path)
  if text = "" then "." else text

/-- A path without the parts that lead nowhere. Steps up stay as they are. -/
def tidy (path : String) : String :=
  let text := root path ++ "/".intercalate ((parts path).filter fun part => part ≠ "" ∧ part ≠ ".")
  if text = "" then "." else text

def longestName : Nat := 255

def longest : Nat := 4095

def join (base path : String) : String :=
  if isAbsolute path then path
  else if base = "" ∨ base.toList.getLast? = some '/' then base ++ path
  else base ++ "/" ++ path

def absolute (directory path : String) : String := normalize (join directory path)

def fileName (path : String) : String := (parts path).getLast?.getD ""

/-- What precedes the last slash. Slashes at its end go with it, unless it has nothing else. -/
def parent (path : String) : String :=
  let chars := path.toList.take (path.length - (fileName path).length)
  let kept := (chars.reverse.dropWhile (· == '/')).reverse
  String.ofList (if kept.isEmpty then chars else kept)

/-- A file name without its last suffix. A point at either end makes no suffix. -/
def stem (name : String) : String :=
  let reversed := name.toList.reverse
  let suffix := reversed.takeWhile (· != '.')
  let rest := reversed.drop (suffix.length + 1)
  String.ofList (if suffix.isEmpty || rest.isEmpty then name.toList else rest.reverse)

end OperationDocuments.Path

namespace OperationDocuments

/-! ## File trees

A tree without links is a list of files and a list of directories, each with the names that lead
to it from the root. A path is followed part by part: every part but the last has to be a
directory that is there, also one that a later step up leaves again. -/

/-- The names from the root down to a file or directory. -/
abbrev Location := List String

namespace Location

def path (place : Location) : String := "/" ++ "/".intercalate place

def le : Location → Location → Bool
  | [], _ => true
  | _ :: _, [] => false
  | a :: as, b :: bs => if a = b then le as bs else a < b

def insertSorted (place : Location) : List Location → List Location
  | [] => [place]
  | other :: more =>
    if le place other then place :: other :: more else other :: insertSorted place more

def sort (places : List Location) : List Location := places.foldr insertSorted []

theorem insertSorted_perm (place : Location) (places : List Location) :
    (insertSorted place places).Perm (place :: places) := by
  induction places with
  | nil => exact List.Perm.refl _
  | cons other more ih =>
    by_cases h : le place other
    · simp [insertSorted, h]
    · simp only [insertSorted, h]
      exact (ih.cons other).trans (.swap place other more)

theorem sort_perm (places : List Location) : (sort places).Perm places := by
  induction places with
  | nil => exact List.Perm.refl _
  | cons place more ih => exact (insertSorted_perm place (sort more)).trans (ih.cons place)

def ancestors (place : Location) : List Location :=
  (List.range place.length).map fun n => place.take (n + 1)

end Location

inductive FileError where
  | notFound (path : String)
  | alreadyExists (path : String)
  | notDirectory (path : String)
  | isDirectory (path : String)
  | nameTooLong (path : String)
  | nullByte
  | notText (fault : Utf8.Fault)
  deriving Repr, DecidableEq

namespace FileError

private def about (reason path : String) : String :=
  reason ++ ": " ++ String.ofList (Text.literal path.toList)

def message : FileError → String
  | notFound path => about "[Errno 2] No such file or directory" path
  | alreadyExists path => about "[Errno 17] File exists" path
  | notDirectory path => about "[Errno 20] Not a directory" path
  | isDirectory path => about "[Errno 21] Is a directory" path
  | nameTooLong path => about "[Errno 36] File name too long" path
  | nullByte => "embedded null byte"
  | notText fault => fault.message

end FileError

inductive Content where
  | text (s : String)
  | undecodable (fault : Utf8.Fault)
  deriving Repr, DecidableEq

def Content.ofBytes (bytes : List UInt8) : Content :=
  match Utf8.decode bytes with
  | .ok s => .text s
  | .error fault => .undecodable fault

inductive EntryKind where
  | file
  | directory
  deriving Repr, DecidableEq

structure FileTree where
  files : List (Location × Content)
  directories : List Location
  deriving Repr, DecidableEq

namespace FileTree

def empty : FileTree := ⟨[], []⟩

def contentAt? (t : FileTree) (place : Location) : Option Content :=
  (t.files.find? fun entry => entry.1 == place).map Prod.snd

def kindAt? (t : FileTree) (place : Location) : Option EntryKind :=
  if place.isEmpty || t.directories.contains place then some .directory
  else if (t.contentAt? place).isSome then some .file
  else none

def step (t : FileTree) (path : String) (place : Location) (part : String) :
    Except FileError Location :=
  match t.kindAt? place with
  | none => .error (.notFound path)
  | some .file => .error (.notDirectory path)
  | some .directory =>
    if part = "" ∨ part = "." then .ok place
    else if part = ".." then .ok place.dropLast
    else if part.utf8ByteSize > Path.longestName then .error (.nameTooLong path)
    else .ok (place ++ [part])

/-- The place a path leads to, which need not be there. -/
def follow (t : FileTree) (start : Location) (path : String) : Except FileError Location :=
  if path.toList.contains '\x00' then .error .nullByte
  else if path = "" then .error (.notFound path)
  else if path.utf8ByteSize > Path.longest then .error (.nameTooLong path)
  else (Path.parts path).foldlM (step t path) (if Path.isAbsolute path then [] else start)

def find? (t : FileTree) (start : Location) (path : String) : Option EntryKind :=
  match t.follow start path with
  | .ok place => t.kindAt? place
  | .error _ => none

def isFile (t : FileTree) (start : Location) (path : String) : Bool :=
  t.find? start path == some .file

def isDirectory (t : FileTree) (start : Location) (path : String) : Bool :=
  t.find? start path == some .directory

def holds (t : FileTree) (start : Location) (path : String) : Bool :=
  (t.find? start path).isSome

def read (t : FileTree) (start : Location) (path : String) : Except FileError String := do
  let place ← t.follow start path
  match t.kindAt? place, t.contentAt? place with
  | some .directory, _ => throw (.isDirectory path)
  | some .file, some (.text s) => return s
  | some .file, some (.undecodable fault) => throw (.notText fault)
  | _, _ => throw (.notFound path)

def readLines (t : FileTree) (start : Location) (path : String) : Except FileError String := do
  return String.ofList (Text.unifyNewlines (← t.read start path).toList)

def put (t : FileTree) (place : Location) (text : String) : FileTree :=
  if t.files.any fun entry => entry.1 == place then
    { t with files := t.files.map fun entry =>
        if entry.1 == place then (place, .text text) else entry }
  else { t with files := t.files ++ [(place, .text text)] }

/-- Writes the file at a place, over the one that may be there; `path` is what an error calls it. -/
def writeAt (t : FileTree) (place : Location) (path text : String) : Except FileError FileTree :=
  if path.utf8ByteSize > Path.longest ∨ place.any (·.utf8ByteSize > Path.longestName) then
    .error (.nameTooLong path)
  else if t.kindAt? place == some .directory then .error (.isDirectory path)
  else .ok (t.put place text)

def write (t : FileTree) (start : Location) (path text : String) :
    Except FileError FileTree := do
  t.writeAt (← t.follow start path) path text

def remove (t : FileTree) (start : Location) (path : String) : Except FileError FileTree := do
  let place ← t.follow start path
  match t.kindAt? place with
  | some .file => return { t with files := t.files.filter fun entry => entry.1 != place }
  | some .directory => throw (.isDirectory path)
  | none => throw (.notFound path)

def makeDirectory (t : FileTree) (start : Location) (path : String) :
    Except FileError FileTree := do
  let place ← t.follow start path
  if (t.kindAt? place).isSome then throw (.alreadyExists path)
  return { t with directories := t.directories ++ [place] }

/-- What a change in several steps came to: the tree as far as it got, and why it went no
further. -/
structure Changed where
  tree : FileTree
  failure? : Option FileError := none
  deriving Repr

def Changed.andThen (c : Changed) (step : FileTree → Except FileError FileTree) : Changed :=
  match c.failure? with
  | some _ => c
  | none =>
    match step c.tree with
    | .ok t => ⟨t, none⟩
    | .error e => ⟨c.tree, some e⟩

/-- Makes a directory after those above it that are missing. A directory that is already there is
left alone. Every step up shortens the path, so `left` outlasts it. -/
private def makeDirectoriesIn (start : Location) : (left : Nat) → String → FileTree → Changed
  | 0, path, t => make start path t
  | left + 1, path, t =>
    let shortened := if Path.fileName path = "" then Path.parent path else path
    let above := Path.parent shortened
    let last := Path.fileName shortened
    if above ≠ "" ∧ last ≠ "" ∧ !t.holds start above then
      match makeDirectoriesIn start left above t with
      | ⟨t, none⟩ | ⟨t, some (.alreadyExists _)⟩ =>
        if last = "." then ⟨t, none⟩ else make start path t
      | ended => ended
    else make start path t
where
  make (start : Location) (path : String) (t : FileTree) : Changed :=
    match t.makeDirectory start path with
    | .ok t => ⟨t, none⟩
    | .error e => ⟨t, if t.isDirectory start path then none else some e⟩

def makeDirectories (t : FileTree) (start : Location) (path : String) : Changed :=
  makeDirectoriesIn start path.length path t

def addDirectories (t : FileTree) (place : Location) : FileTree :=
  { t with directories := t.directories ++
      place.ancestors.filter fun above => !t.directories.contains above }

/-- Makes the directory at a place after those above it that are missing, down to the first name
that is too long. -/
def makePlace (t : FileTree) (place : Location) : Changed :=
  match t.kindAt? place with
  | some .directory => ⟨t, none⟩
  | some .file => ⟨t, some (.alreadyExists place.path)⟩
  | none =>
    let possible := place.takeWhile (·.utf8ByteSize ≤ Path.longestName)
    if place.path.utf8ByteSize > Path.longest then ⟨t, some (.nameTooLong place.path)⟩
    else if place.ancestors.any fun above => t.kindAt? above == some .file then
      ⟨t, some (.notDirectory place.path)⟩
    else if possible = place then ⟨t.addDirectories place, none⟩
    else if (t.kindAt? possible).isSome then ⟨t, some (.nameTooLong place.path)⟩
    else
      let refused : Location := place.take (possible.length + 1)
      ⟨t.addDirectories possible, some (.nameTooLong refused.path)⟩

def filesBelow (t : FileTree) (place : Location) : List Location :=
  Location.sort ((t.files.map Prod.fst).filter (place.isPrefixOf ·))

end FileTree

structure Workspace where
  tree : FileTree
  directory : Location
  deriving Repr

namespace Workspace

def read (w : Workspace) (path : String) : Except FileError String :=
  w.tree.readLines w.directory path

def isFile (w : Workspace) (path : String) : Bool := w.tree.isFile w.directory path

/-- The place that a path names when its steps up are taken in the text alone. -/
def resolve (w : Workspace) (path : String) : Location :=
  Path.plainParts (Path.join w.directory.path path)

end Workspace

end OperationDocuments
