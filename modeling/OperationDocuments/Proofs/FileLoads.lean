import Mathlib
import OperationDocuments.Proofs.DepthFirst
import OperationDocuments.Proofs.NormalPaths

/-! # Loads from files

When loads of one file come to the same: in a tree that has grown, and from different
directories. -/
namespace OperationDocuments

/-! ## Loads in a tree that grows

A load that succeeds comes to the same in every tree that has grown from its own: each of its
imports was found, and what was found stays. -/

open Loading

namespace FileTree.Grows

variable {t u : FileTree} {start place : Location} {path : String}

theorem step {next : Location} {part : String} (h : Grows t u)
    (ok : t.step path place part = .ok next) : u.step path place part = .ok next := by
  unfold FileTree.step at ok ⊢
  cases kind : t.kindAt? place with
  | none => simp [kind] at ok
  | some kind' =>
    rw [h.kinds place kind' kind]
    rwa [kind] at ok

theorem follow (h : Grows t u) (ok : t.follow start path = .ok place) :
    u.follow start path = .ok place := by
  have parts : ∀ (parts : List String) (here : Location),
      parts.foldlM (t.step path) here = .ok place →
        parts.foldlM (u.step path) here = .ok place := by
    intro parts
    induction parts with
    | nil => exact fun _ ok => ok
    | cons part more ih =>
      intro here ok
      rw [List.foldlM_cons] at ok ⊢
      cases first : t.step path here part with
      | error e => simp [first, bind, Except.bind] at ok
      | ok next =>
        rw [h.step first]
        rw [first] at ok
        exact ih next ok
  unfold FileTree.follow at ok ⊢
  split_ifs at ok ⊢
  all_goals exact parts _ _ ok

theorem find? {kind : EntryKind} (h : Grows t u) (ok : t.find? start path = some kind) :
    u.find? start path = some kind := by
  unfold FileTree.find? at ok ⊢
  cases followed : t.follow start path with
  | error e => simp [followed] at ok
  | ok place =>
    rw [followed] at ok
    rw [h.follow followed]
    exact h.kinds place kind ok

theorem isFile (h : Grows t u) (ok : t.isFile start path = true) :
    u.isFile start path = true := by
  simp only [FileTree.isFile, beq_iff_eq] at ok ⊢
  exact h.find? ok

end FileTree.Grows

namespace FileTree

variable {t u : FileTree} {start place : Location} {path text : String}

theorem read_eq_ok_iff : t.read start path = .ok text ↔
    ∃ place, t.follow start path = .ok place ∧ t.kindAt? place = some .file ∧
      t.contentAt? place = some (.text text) := by
  unfold read
  cases t.follow start path with
  | error e => simp [bind, Except.bind]
  | ok place =>
    simp only [bind, Except.bind, Except.ok.injEq, exists_eq_left']
    split <;> simp_all [pure, Except.pure]

theorem Grows.read (h : Grows t u) (ok : t.read start path = .ok text) :
    u.read start path = .ok text := by
  obtain ⟨place, followed, kind, content⟩ := read_eq_ok_iff.mp ok
  exact read_eq_ok_iff.mpr ⟨place, h.follow followed, h.kinds place _ kind,
    h.contents place _ content⟩

theorem isFile_of_read (ok : t.read start path = .ok text) : t.isFile start path = true := by
  obtain ⟨place, followed, kind, -⟩ := read_eq_ok_iff.mp ok
  simp [isFile, find?, followed, kind]

end FileTree

namespace Resolver

variable {resolve other : Resolver} {text : String} {name : Option String} {loaded : Loaded}

theorem returns_load_of_resolves
    (h : ∀ reference d, (resolve reference name).Returns d → (other reference name).Returns d)
    (ok : (resolve.load text name).Returns loaded) : (other.load text name).Returns loaded := by
  obtain ⟨parsed, parts, hp, hc, expanded, rest⟩ := returns_load.mp ok
  obtain ⟨references, documents, scanned, all, whole⟩ := Import.returns_expand.mp expanded
  refine returns_load.mpr ⟨parsed, parts, hp, hc, Import.returns_expand.mpr ?_, rest⟩
  exact ⟨references, documents, scanned, all.imp h, whole⟩

end Resolver

namespace Modules

variable {m : Modules} {stack : List String} {reference : String} {origin : Option String}

theorem returns_whileOpen {α : Type} {key : String} {x : Loading LoadError α} {a : α} :
    (whileOpen key x).Returns a ↔ x.Returns a := by
  rw [Returns, result_whileOpen, Returns]

theorem returns_adapt {α ε ε' : Type} {f : ε → ε'} {x : Loading ε α} {a : α} :
    Returns (ExceptT.adapt f x : Loading ε' α) a ↔ x.Returns a := by
  rw [Returns, outcome_adapt, Resolver.mapError_eq_ok_iff, Returns]

theorem returns_resolveWithin {d : Document} : (m.resolveWithin stack reference origin).Returns d ↔
    ∃ key, m.locate reference origin = .ok key ∧ key.1 ∉ stack ∧
      ∃ text loaded, m.text key.1 = .ok text ∧
        (m.loadWithin (stack ++ [key.1]) text (some key.1)).Returns loaded ∧
        loaded.document = d := by
  unfold resolveWithin resolveUsing
  rw [returns_bind]
  refine exists_congr fun key => and_congr returns_ofExcept ?_
  by_cases closed : key.1 ∈ stack
  · simp only [closed, dif_pos, not_true, false_and, iff_false]
    exact nofun
  · simp only [closed, dif_neg, not_false_iff, true_and, returns_bind, returns_lift,
      returns_whileOpen, returns_adapt, returns_ofExcept, returns_pure]
    simp

end Modules

namespace Workspace

variable {t u : FileTree} {directory : Location} {root path file text : String}

theorem read_eq_ok_iff {w : Workspace} : w.read path = .ok text ↔
    ∃ raw, w.tree.read w.directory path = .ok raw ∧
      String.ofList (Text.unifyNewlines raw.toList) = text := by
  unfold read FileTree.readLines
  cases w.tree.read w.directory path <;>
    simp [bind, Except.bind, pure, Except.pure, eq_comm]

theorem read_of_grows (h : FileTree.Grows t u) (ok : read ⟨t, directory⟩ path = .ok text) :
    read ⟨u, directory⟩ path = .ok text := by
  obtain ⟨raw, there, same⟩ := read_eq_ok_iff.mp ok
  exact read_eq_ok_iff.mpr ⟨raw, h.read there, same⟩

theorem isFile_of_read (ok : read ⟨t, directory⟩ path = .ok text) :
    isFile ⟨t, directory⟩ path = true := by
  obtain ⟨raw, there, -⟩ := read_eq_ok_iff.mp ok
  exact FileTree.isFile_of_read there

/-- The path of a reference in a file depends on nothing but that file being there. -/
theorem importPath_of_grows (h : FileTree.Grows t u) (origin : isFile ⟨t, directory⟩ file = true)
    (reference : String) : importPath ⟨u, directory⟩ root reference (some file) =
      importPath ⟨t, directory⟩ root reference (some file) := by
  have still : isFile ⟨u, directory⟩ file = true := h.isFile origin
  simp only [importPath, origin, still]

end Workspace

namespace Modules

variable {w : Workspace} {t u : FileTree} {directory : Location}
  {root reference : String} {origin : Option String}

theorem locate_ofFiles_eq_ok_iff {key : { key : String // key ∈ (ofFiles w root).keys }} :
    (ofFiles w root).locate reference origin = .ok key ↔
      w.importPath root reference origin = key.1 ∧ w.isFile key.1 = true := by
  simp only [ofFiles]
  constructor
  · intro h
    split at h
    · next there =>
      cases h
      exact ⟨rfl, there.1⟩
    · cases h
  · rintro ⟨same, file⟩
    have known : w.isFile (w.importPath root reference origin) = true ∧
        w.importPath root reference origin ∈ w.paths root := by
      rw [same]
      exact ⟨file, key.2⟩
    rw [dif_pos known]
    exact congrArg Except.ok (Subtype.ext same)

/-- What a load comes to, while some modules are open, it comes to in a tree that has grown. -/
theorem returns_loadWithin_of_grows {stack : List String} {text file : String} {loaded : Loaded}
    (h : FileTree.Grows t u)
    (origin : Workspace.isFile ⟨t, directory⟩ file = true)
    (ok : ((ofFiles ⟨t, directory⟩ root).loadWithin stack text (some file)).Returns loaded) :
    ((ofFiles ⟨u, directory⟩ root).loadWithin stack text (some file)).Returns loaded := by
  rw [loadWithin_eq] at ok ⊢
  refine Resolver.returns_load_of_resolves (fun reference d found => ?_) ok
  obtain ⟨key, located, opened, inner, below, read, deeper, same⟩ :=
    returns_resolveWithin.mp found
  have there : Workspace.read ⟨t, directory⟩ key.1 = .ok inner :=
    Resolver.mapError_eq_ok_iff.mp read
  obtain ⟨path, file⟩ := locate_ofFiles_eq_ok_iff.mp located
  have located' := (Workspace.importPath_of_grows h origin reference).trans path
  have still : ((ofFiles ⟨u, directory⟩ root).text key.1) = .ok inner :=
    Resolver.mapError_eq_ok_iff.mpr (Workspace.read_of_grows h there)
  have below' := returns_loadWithin_of_grows h (Workspace.isFile_of_read there) deeper
  have file' : Workspace.isFile ⟨u, directory⟩ key.1 = true := h.isFile file
  have known : key.1 ∈ Workspace.paths ⟨u, directory⟩ root :=
    located' ▸ Workspace.importPath_mem_paths (located'.symm ▸ file')
  refine returns_resolveWithin.mpr ⟨⟨key.1, known⟩,
    locate_ofFiles_eq_ok_iff.mpr ⟨located', file'⟩, opened, inner, below, still, below', same⟩
termination_by ((ofFiles ⟨t, directory⟩ root).keys.filter (!stack.contains ·)).length
decreasing_by exact length_closed_lt key.2 opened

end Modules

theorem Loader.returns_loadFile_of_grows {t u : FileTree} {directory : Location} {path : String}
    {loaded : Loaded} (h : FileTree.Grows t u)
    (ok : ((ofWorkspace ⟨t, directory⟩).loadFile ⟨t, directory⟩ path).Returns loaded) :
    ((ofWorkspace ⟨u, directory⟩).loadFile ⟨u, directory⟩ path).Returns loaded := by
  simp only [loadFile, returns_bind, returns_ofExcept, Resolver.mapError_eq_ok_iff] at ok ⊢
  obtain ⟨text, read, ok⟩ := ok
  refine ⟨text, Workspace.read_of_grows h read, ?_⟩
  obtain ⟨whole, ok, same⟩ := Resolver.returns_loadFiltered.mp ok
  refine Resolver.returns_loadFiltered.mpr ⟨whole, ?_, same⟩
  have within : ((Modules.ofFiles ⟨t, directory⟩ directory.path).loadWithin [] text
      (some path)).Returns whole := by
    rw [Modules.loadWithin_eq]
    exact ok
  have grown := Modules.returns_loadWithin_of_grows h (Workspace.isFile_of_read read) within
  rw [Modules.loadWithin_eq] at grown
  exact grown

/-! ## Loads from absolute paths

A reference in a file is seen from the directory of that file. Whoever loads a file by an absolute
path therefore gets the same, with the same events and the same error, from every directory and
with every place to look for files: each file that an import leads to has an absolute path too, so
that the question where the loader stands never comes up. -/

def Path.beside (file reference : String) : String :=
  normalize (join (parent (normalize file)) reference)

theorem Path.normalize_beside {file : String} (h : isAbsolute file = true) (reference : String) :
    isAbsolute (beside file reference) = true ∧
      normalize (beside file reference) = beside file reference := by
  have joined : isAbsolute (join (parent (normalize file)) reference) = true :=
    isAbsolute_join (isAbsolute_parent (isAbsolute_normalize h)) reference
  exact ⟨isAbsolute_normalize joined, normalize_normalize joined⟩

/-- The modules of a tree as its files see them. A reference that stands in no file leads
nowhere. -/
def FileTree.modules (t : FileTree) : Modules where
  keys := Workspace.filePaths ⟨t, []⟩
  locate reference origin :=
    match origin with
    | none => .error (.unresolved reference none)
    | some file =>
      let path := Path.beside file reference
      if h : t.isFile [] path ∧ path ∈ Workspace.filePaths ⟨t, []⟩ then .ok ⟨path, h.2⟩
      else .error (.unresolved reference (some file))
  text key := (t.readLines [] key).mapError .unreadable
  announce reference key := Logged.report (.resolving reference key)

def FileTree.load (t : FileTree) (filters : List OperationFilter) (path : String) :
    Loading LoadError Loaded := do
  let text ← Loading.ofExcept ((t.readLines [] path).mapError LoadError.unreadable)
  t.modules.resolve.loadFiltered filters text (some path)

variable {t : FileTree} {directory : Location} {root file path text key reference : String}
  {stack : List String}

theorem Resolver.load_congr {resolve other : Resolver} {name : Option String}
    (h : ∀ reference, resolve reference name = other reference name) (text : String) :
    resolve.load text name = other.load text name := by
  have same : (fun reference => resolve reference name) = fun reference => other reference name :=
    funext h
  rw [load, load, same]

theorem Workspace.read_of_isAbsolute (h : Path.isAbsolute path = true) :
    Workspace.read ⟨t, directory⟩ path = t.readLines [] path := by
  rw [Workspace.read, FileTree.readLines, FileTree.readLines,
    FileTree.read_of_isAbsolute h directory []]

/-- For a file that is there, neither the working directory nor the root counts. -/
theorem Workspace.importPath_eq_beside (absolute : Path.isAbsolute file = true)
    (there : t.isFile [] file = true) :
    importPath ⟨t, directory⟩ root reference (some file) = Path.beside file reference := by
  have seen : isFile ⟨t, directory⟩ file = true := by
    rw [isFile, FileTree.isFile_of_isAbsolute absolute directory []]
    exact there
  rw [importPath, Path.beside, Path.join]
  by_cases itself : Path.isAbsolute reference = true
  · simp only [itself, if_true]
  · simp [itself, seen, Path.absolute_of_isAbsolute _ absolute, Path.join]

namespace Modules

theorem locate_ofFiles_eq (absolute : Path.isAbsolute file = true)
    (there : t.isFile [] file = true) (reference : String) :
    ((ofFiles ⟨t, directory⟩ root).locate reference (some file)).map Subtype.val =
      (t.modules.locate reference (some file)).map Subtype.val := by
  have path : Workspace.importPath ⟨t, directory⟩ root reference (some file) =
      Path.beside file reference := Workspace.importPath_eq_beside absolute there
  have named : file ≠ "" := by
    rintro rfl
    cases absolute
  have normal := Path.normalize_beside absolute reference
  have seen : Workspace.isFile ⟨t, directory⟩ (Path.beside file reference) =
      t.isFile [] (Path.beside file reference) :=
    FileTree.isFile_of_isAbsolute normal.1 directory []
  by_cases found : t.isFile [] (Path.beside file reference) = true
  · have known : Path.beside file reference ∈ Workspace.paths ⟨t, directory⟩ root := by
      rw [← path]
      exact Workspace.importPath_mem_paths (by rw [path, seen, found])
    have known' : Path.beside file reference ∈ Workspace.filePaths ⟨t, []⟩ := by
      rw [← normal.2]
      exact Workspace.normalize_mem_filePaths normal.1 found
    simp [ofFiles, FileTree.modules, path, seen, found, known, known', Except.map]
  · simp [ofFiles, FileTree.modules, path, seen, found, named, Except.map]

theorem isFile_of_locate {known : key ∈ t.modules.keys}
    (h : t.modules.locate reference (some file) = .ok ⟨key, known⟩) : t.isFile [] key = true := by
  simp only [FileTree.modules] at h
  split at h
  · next found =>
    cases h
    exact found.1
  · cases h

theorem loadWithin_ofFiles_eq {file : String} (absolute : Path.isAbsolute file = true)
    (there : t.isFile [] file = true) (stack : List String) (text : String) :
    (ofFiles ⟨t, directory⟩ root).loadWithin stack text (some file) =
      t.modules.loadWithin stack text (some file) := by
  rw [loadWithin_eq, loadWithin_eq]
  refine Resolver.load_congr (fun reference => ?_) text
  rw [resolveWithin_eq, resolveWithin_eq, locate_ofFiles_eq absolute there]
  cases located : t.modules.locate reference (some file) with
  | error e => rw [Except.map, ofExcept_error_bind, ofExcept_error_bind]
  | ok found =>
    obtain ⟨key, known⟩ := found
    rw [Except.map, ofExcept_ok_bind, ofExcept_ok_bind]
    by_cases opened : key ∈ stack
    · rw [if_pos opened, if_pos opened]
    · have absolute' := Workspace.isAbsolute_of_mem_filePaths known
      have there' := isFile_of_locate located
      have read : (ofFiles ⟨t, directory⟩ root).text key = t.modules.text key :=
        congrArg (Except.mapError LoadError.unreadable) (Workspace.read_of_isAbsolute absolute')
      have below : ∀ text, (ofFiles ⟨t, directory⟩ root).loadWithin (stack ++ [key]) text (some key) =
          t.modules.loadWithin (stack ++ [key]) text (some key) :=
        fun text => loadWithin_ofFiles_eq absolute' there' (stack ++ [key]) text
      rw [if_neg opened, if_neg opened, read]
      simp only [below]
      rfl
termination_by (t.modules.keys.filter (!stack.contains ·)).length
decreasing_by exact length_closed_lt known opened

end Modules

namespace Loader

theorem loadFile_eq_load (t : FileTree) (absolute : Path.isAbsolute path = true) (root : String)
    (filters : List OperationFilter) (directory : Location) :
    (Loader.mk (.files root) filters).loadFile ⟨t, directory⟩ path = t.load filters path := by
  rw [loadFile, FileTree.load, Workspace.read_of_isAbsolute absolute]
  cases read : t.readLines [] path with
  | error e => rw [Except.mapError, ofExcept_error_bind, ofExcept_error_bind]
  | ok text =>
    have seen : Workspace.read ⟨t, []⟩ path = .ok text := read
    have there : t.isFile [] path = true := Workspace.isFile_of_read seen
    have within : (Modules.ofFiles ⟨t, directory⟩ root).loadWithin [] text (some path) =
        t.modules.loadWithin [] text (some path) :=
      Modules.loadWithin_ofFiles_eq absolute there [] text
    rw [Modules.loadWithin_eq, Modules.loadWithin_eq] at within
    rw [Except.mapError, ofExcept_ok_bind, ofExcept_ok_bind, load, Resolver.loadFiltered,
      Resolver.loadFiltered]
    exact congrArg (· >>= _) within

/-- A file with an absolute path loads the same, or fails the same, wherever its loader stands and
wherever that looks for files: it loads as its tree alone says. -/
theorem loadFile_of_isAbsolute (t : FileTree) (path : String)
    (absolute : Path.isAbsolute path = true) :
    (∀ root filters directory,
      (Loader.mk (.files root) filters).loadFile ⟨t, directory⟩ path = t.load filters path) ∧
    ∀ here there : Location,
      ((ofWorkspace ⟨t, here⟩).loadFile ⟨t, here⟩ path).outcome =
        ((ofWorkspace ⟨t, there⟩).loadFile ⟨t, there⟩ path).outcome := by
  refine ⟨loadFile_eq_load t absolute, fun here there => ?_⟩
  have fromHere := loadFile_eq_load t absolute here.path [] here
  have fromThere := loadFile_eq_load t absolute there.path [] there
  rw [ofWorkspace, ofWorkspace, fromHere, fromThere]

end Loader

namespace Sample

/-- The file "g" of the directory "p" is imported, and the one of the directory "q" is not. -/
def twoDirectories : FileTree :=
  ⟨[(["p", "d", "a"], .text "#import ../f
query Q { x }"),
    (["p", "f"], .text "#import g
fragment F on T { x }"),
    (["p", "g"], .text "fragment G on T { x }"),
    (["q", "g"], .text "fragment H on T { x }")], [["p"], ["p", "d"], ["q"]]⟩

def loadedFragments (w : Workspace) (path : String) : Option (List String) :=
  ((Loader.ofWorkspace w).loadFile w path).outcome.2.toOption.map fun l =>
    l.document.fragments.map Fragment.name

end Sample

theorem Loader.loadFile_of_isAbsolute_twoDirectories :
    Path.isAbsolute "/p/d/a" = true ∧
      Sample.loadedFragments ⟨Sample.twoDirectories, ["p"]⟩ "/p/d/a" = some ["F", "G"] ∧
      Sample.loadedFragments ⟨Sample.twoDirectories, ["q"]⟩ "/p/d/a" = some ["F", "G"] := by
  have absolute : Path.isAbsolute "/p/d/a" = true := by decide
  obtain ⟨-, same⟩ := Loader.loadFile_of_isAbsolute Sample.twoDirectories "/p/d/a" absolute
  have fromP : Sample.loadedFragments ⟨Sample.twoDirectories, ["p"]⟩ "/p/d/a" =
      some ["F", "G"] := by decide +kernel
  refine ⟨absolute, fromP, ?_⟩
  unfold Sample.loadedFragments at fromP ⊢
  rw [same ["q"] ["p"]]
  exact fromP

end OperationDocuments
