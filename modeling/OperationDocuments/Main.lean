import OperationDocuments.Command.Program

/-! # The program on a disk

The commands work on a value that holds the files they may need: everything that the words of the
command line name, and what the sources among it import. Here that value is read from the disk,
and what a command changed is written back. Requests are not passed on to any network. -/
open OperationDocuments

namespace OperationDocuments.Disk

def addEntry (t : FileTree) (place : Location) : IO FileTree := do
  if (t.kindAt? place).isSome then return t
  let path := (← IO.currentDir) / place.path
  if ← path.isDir then return { t with directories := t.directories ++ [place] }
  if ← path.pathExists then
    let bytes ← IO.FS.readBinFile path
    return { t with files := t.files ++ [(place, Content.ofBytes bytes.toList)] }
  return t

def addPlace (t : FileTree) (place : Location) : IO FileTree := place.ancestors.foldlM addEntry t

partial def addBelow (t : FileTree) (place : Location) : IO FileTree := do
  let t ← addPlace t place
  if t.kindAt? place == some .directory then
    let entries ← ((← IO.currentDir) / place.path).readDir
    entries.foldlM (fun t entry => addBelow t (place ++ [entry.fileName])) t
  else return t

/-- The texts in a word of the command line that may be paths: the word, and what follows the name
of an option in it. -/
def pathsIn (word : String) : List String :=
  let chars := word.toList
  [word, String.ofList (chars.drop 2), String.ofList ((chars.dropWhile (· != '=')).drop 1)]

/-- Adds what a path leads to and, where the path steps up again, what it passes by. -/
def addPath (directory : Location) (t : FileTree) (path : String) : IO FileTree := do
  if path.isEmpty || path.toList.contains '\x00' then return t
  let w : Workspace := ⟨t, directory⟩
  let parts := Path.parts path
  let passed := (List.range parts.length).map fun n => "/".intercalate (parts.take (n + 1))
  let t ← passed.foldlM (fun t part => addPlace t (w.resolve part)) t
  addBelow t (w.resolve path)

partial def addImports (directory : Location) (t : FileTree) : List (Location × Content) →
    IO FileTree
  | [] => return t
  | (place, .text s) :: more => do
    let references := (Import.scan s).toOption.getD []
    let w : Workspace := ⟨t, directory⟩
    let targets := references.map fun reference =>
      w.resolve (w.importPath directory.path reference (some place.path))
    let grown ← targets.foldlM addPlace t
    addImports directory grown (grown.files.drop t.files.length ++ more)
  | _ :: more => addImports directory t more

/-- The files that a command line may need. -/
def read (directory : Location) (words : List String) : IO FileTree := do
  let t ← addPlace FileTree.empty directory
  let t ← (words.flatMap pathsIn).foldlM (addPath directory) t
  addImports directory t t.files

def writeBack (before after : FileTree) : IO Unit := do
  for place in after.directories do
    unless before.directories.contains place do IO.FS.createDir place.path
  for (place, content) in after.files do
    match content with
    | .text s => unless before.contentAt? place == some content do IO.FS.writeFile place.path s
    | .undecodable _ => pure ()

end OperationDocuments.Disk

def main (words : List String) : IO UInt32 := do
  let directory := Path.plainParts (← IO.currentDir).toString
  let tree ← Disk.read directory words
  let endpoint ← IO.getEnv "GQL_DOCSPLIT_URL"
  let outcome := Command.run { tree, directory, endpoint } words
  Disk.writeBack tree outcome.tree
  IO.print outcome.output
  IO.eprint outcome.errors
  outcome.crash.forM fun crash => IO.eprintln crash.message
  return outcome.exitCode.toUInt32
