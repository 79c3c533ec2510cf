import Mathlib
import OperationDocuments.Files

/-! # Trees that grow

What is in a tree after directories were made and files written, one or many of them. -/
namespace OperationDocuments

/-! ## Writing files and making directories

What is at a place after a directory was made or a file written. In a sound tree every place lies
in directories and no place is both a file and a directory; making directories and writing files
into them keeps a tree sound, and takes nothing away that was there. -/

namespace Location

def Fits (place : Location) : Prop :=
  place.path.utf8ByteSize ≤ Path.longest ∧
    ∀ name ∈ place, name.utf8ByteSize ≤ Path.longestName

instance (place : Location) : Decidable place.Fits := inferInstanceAs (Decidable (_ ∧ _))

/-- Neither place is on the way to the other. -/
def Apart (place other : Location) : Prop := ¬place <+: other ∧ ¬other <+: place

theorem path_dropLast_le (place : Location) :
    (path place.dropLast).utf8ByteSize ≤ (path place).utf8ByteSize := by
  have longer : ∀ (names : List String) (name : String),
      ("/".intercalate names).utf8ByteSize ≤ ("/".intercalate (names ++ [name])).utf8ByteSize := by
    intro names name
    induction names with
    | nil => exact Nat.zero_le _
    | cons first more ih =>
      cases more with
      | nil =>
        rw [List.singleton_append, String.intercalate_cons_cons, String.utf8ByteSize_append,
          String.utf8ByteSize_append, String.intercalate_singleton]
        omega
      | cons second more =>
        rw [List.cons_append] at ih
        rw [List.cons_append, List.cons_append, String.intercalate_cons_cons,
          String.intercalate_cons_cons, String.utf8ByteSize_append,
          String.utf8ByteSize_append (s := first ++ "/")]
        omega
  rcases List.eq_nil_or_concat place with rfl | ⟨names, name, rfl⟩
  · exact le_refl _
  · rw [List.concat_eq_append, List.dropLast_concat]
    simp only [path, String.utf8ByteSize_append]
    exact Nat.add_le_add_left (longer names name) _

theorem Fits.dropLast {place : Location} (h : place.Fits) : Fits place.dropLast :=
  ⟨(path_dropLast_le place).trans h.1,
    fun name among => h.2 name (List.mem_of_mem_dropLast among)⟩

theorem prefix_dropLast {place above : Location} (h : above <+: place) (apart : above ≠ place) :
    above <+: place.dropLast := by
  obtain ⟨rest, rfl⟩ := h
  have more : rest ≠ [] := fun none => apart (by simp [none])
  rw [List.dropLast_append_of_ne_nil more]
  exact List.prefix_append _ _

theorem mem_ancestors {place above : Location} :
    above ∈ place.ancestors ↔ above ≠ [] ∧ above <+: place := by
  simp only [ancestors, List.mem_map, List.mem_range]
  constructor
  · rintro ⟨n, hn, rfl⟩
    refine ⟨fun h => ?_, List.take_prefix _ _⟩
    rcases List.take_eq_nil_iff.mp h with h | rfl
    · cases h
    · cases hn
  · rintro ⟨nonempty, h⟩
    have positive := List.length_pos_iff.mpr nonempty
    have short := h.length_le
    refine ⟨above.length - 1, by omega, ?_⟩
    rw [Nat.sub_add_cancel positive]
    exact (List.prefix_iff_eq_take.mp h).symm

end Location

namespace FileTree

variable {t u v : FileTree} {place other above : Location} {text : String}

/-! ### What is at a place -/

def fileLocations (t : FileTree) : List Location := t.files.map Prod.fst

theorem isSome_contentAt?_iff : (t.contentAt? place).isSome ↔ place ∈ t.fileLocations := by
  simp [contentAt?, fileLocations, List.find?_isSome]

theorem kindAt?_eq_directory_iff :
    t.kindAt? place = some .directory ↔ place = [] ∨ place ∈ t.directories := by
  unfold kindAt?
  by_cases h : (place.isEmpty || t.directories.contains place) = true
  · rw [if_pos h]
    simpa using h
  · rw [if_neg h]
    constructor
    · split <;> simp
    · intro k
      exact absurd (by simpa using k) h

theorem kindAt?_eq_file_iff : t.kindAt? place = some .file ↔
    t.kindAt? place ≠ some .directory ∧ place ∈ t.fileLocations := by
  rw [ne_eq, kindAt?_eq_directory_iff, ← isSome_contentAt?_iff]
  unfold kindAt?
  by_cases h : (place.isEmpty || t.directories.contains place) = true
  · rw [if_pos h]
    have there : place = [] ∨ place ∈ t.directories := by simpa using h
    simp [there]
  · rw [if_neg h]
    have absent : ¬(place = [] ∨ place ∈ t.directories) := by simpa using h
    simp [absent, ← Option.isSome_iff_ne_none]

theorem mem_fileLocations_of_kindAt? (h : t.kindAt? place = some .file) :
    place ∈ t.fileLocations := (kindAt?_eq_file_iff.mp h).2

theorem isSome_kindAt?_iff : (t.kindAt? place).isSome ↔
    t.kindAt? place = some .directory ∨ place ∈ t.fileLocations := by
  cases kind : t.kindAt? place with
  | none =>
    have absent : place ∉ t.fileLocations := fun among =>
      absurd (kindAt?_eq_file_iff.mpr ⟨by simp [kind], among⟩) (by simp [kind])
    simp [absent]
  | some kind' =>
    cases kind' with
    | directory => simp
    | file => simp [mem_fileLocations_of_kindAt? kind]

/-! ### Writing a file -/

private theorem find?_replaced (files : List (Location × Content)) (h : other ≠ place) :
    ((files.map fun entry => if entry.1 == place then (place, .text text) else entry).find?
      fun entry => entry.1 == other) = files.find? fun entry => entry.1 == other := by
  induction files with
  | nil => rfl
  | cons entry more ih =>
    rw [List.map_cons, List.find?_cons, List.find?_cons, ih]
    by_cases same : entry.1 = place
    · have apart : (place == other) = false := by simpa using Ne.symm h
      simp [same, apart]
    · simp [same]

private theorem find?_replaced_self (files : List (Location × Content))
    (h : place ∈ files.map Prod.fst) :
    ((files.map fun entry => if entry.1 == place then (place, .text text) else entry).find?
      fun entry => entry.1 == place) = some (place, .text text) := by
  induction files with
  | nil => cases h
  | cons entry more ih =>
    rw [List.map_cons, List.find?_cons]
    by_cases same : entry.1 = place
    · simp [same]
    · have later : place ∈ more.map Prod.fst :=
        (List.mem_cons.mp h).resolve_left (Ne.symm same)
      have apart : (entry.1 == place) = false := by simpa using same
      simp only [apart, Bool.false_eq_true, if_false]
      exact ih later

theorem put_of_mem (h : place ∈ t.fileLocations) (text : String) : t.put place text =
    { t with files := t.files.map fun entry =>
        if entry.1 == place then (place, .text text) else entry } := by
  rw [put, if_pos]
  obtain ⟨entry, among, rfl⟩ := List.mem_map.mp h
  exact List.any_eq_true.mpr ⟨entry, among, by simp⟩

theorem put_of_not_mem (h : place ∉ t.fileLocations) (text : String) :
    t.put place text = { t with files := t.files ++ [(place, .text text)] } := by
  rw [put, if_neg]
  intro found
  obtain ⟨entry, among, same⟩ := List.any_eq_true.mp found
  rw [beq_iff_eq] at same
  exact h (List.mem_map.mpr ⟨entry, among, same⟩)

theorem directories_put (t : FileTree) (place : Location) (text : String) :
    (t.put place text).directories = t.directories := by
  unfold put
  split <;> rfl

theorem contentAt?_put (t : FileTree) (place other : Location) (text : String) :
    (t.put place text).contentAt? other =
      if other = place then some (.text text) else t.contentAt? other := by
  by_cases mem : place ∈ t.fileLocations
  · rw [put_of_mem mem]
    by_cases same : other = place
    · subst same
      simp only [contentAt?, if_true, find?_replaced_self t.files mem, Option.map_some]
    · simp only [contentAt?, same, if_false, find?_replaced t.files same]
  · rw [put_of_not_mem mem]
    simp only [contentAt?, List.find?_append, List.find?_singleton]
    by_cases same : other = place
    · subst same
      have none : t.files.find? (fun entry => entry.1 == other) = none := by
        rw [List.find?_eq_none]
        intro entry among k
        exact mem (List.mem_map.mpr ⟨entry, among, by simpa using k⟩)
      simp [none]
    · simp [same, Ne.symm same]

theorem mem_fileLocations_put :
    other ∈ (t.put place text).fileLocations ↔ other = place ∨ other ∈ t.fileLocations := by
  rw [← isSome_contentAt?_iff, contentAt?_put, ← isSome_contentAt?_iff]
  by_cases h : other = place <;> simp [h]

theorem isDirectory_put : (t.put place text).kindAt? other = some .directory ↔
    t.kindAt? other = some .directory := by
  rw [kindAt?_eq_directory_iff, kindAt?_eq_directory_iff, directories_put]

theorem nodup_fileLocations_put (h : t.fileLocations.Nodup) (text : String) :
    (t.put place text).fileLocations.Nodup := by
  by_cases mem : place ∈ t.fileLocations
  · have same : (t.put place text).fileLocations = t.fileLocations := by
      rw [put_of_mem mem, fileLocations, fileLocations, List.map_map]
      refine List.map_congr_left fun entry _ => ?_
      by_cases k : entry.1 = place <;> simp [k]
    rwa [same]
  · rw [put_of_not_mem mem, fileLocations, List.map_append]
    refine List.nodup_append.mpr ⟨h, List.nodup_singleton _, ?_⟩
    rintro other among new last rfl
    rw [List.map_singleton, List.mem_singleton] at last
    subst last
    exact mem among

/-! ### Making directories -/

theorem isDirectory_addDirectories : (t.addDirectories place).kindAt? other = some .directory ↔
    other <+: place ∨ t.kindAt? other = some .directory := by
  rw [kindAt?_eq_directory_iff, kindAt?_eq_directory_iff]
  simp only [addDirectories, List.mem_append, List.mem_filter, Location.mem_ancestors]
  constructor
  · rintro (rfl | there | ⟨⟨-, above⟩, -⟩)
    · exact Or.inl List.nil_prefix
    · exact Or.inr (Or.inr there)
    · exact Or.inl above
  · rintro (above | root | there)
    · by_cases there : other ∈ t.directories
      · exact Or.inr (Or.inl there)
      · by_cases root : other = []
        · exact Or.inl root
        · exact Or.inr (Or.inr ⟨⟨root, above⟩, by simpa using there⟩)
    · exact Or.inl root
    · exact Or.inr (Or.inl there)

/-- All that making a directory can do: directories are added down to one on the way to the place,
past no file. It is the place itself unless that was there or making it failed. -/
theorem makePlace_cases (t : FileTree) (place : Location) :
    ∃ made, (t.makePlace place).tree = t.addDirectories made ∧ made <+: place ∧
      (∀ above, above <+: made → t.kindAt? above ≠ some .file) ∧
      ((t.makePlace place).failure? = none →
        made = place ∨ t.kindAt? place = some .directory) := by
  have unchanged : t.addDirectories [] = t := by
    simp [addDirectories, Location.ancestors]
  have root : ∀ above, above <+: [] → t.kindAt? above ≠ some .file := by
    intro above h
    rw [List.prefix_nil.mp h, kindAt?_eq_directory_iff.mpr (Or.inl rfl)]
    simp
  have noFile : place.ancestors.any (fun above => t.kindAt? above == some .file) ≠ true →
      ∀ above, above <+: place → t.kindAt? above ≠ some .file := by
    intro none above h k
    refine none (List.any_eq_true.mpr ⟨above, Location.mem_ancestors.mpr ⟨?_, h⟩, by simp [k]⟩)
    rintro rfl
    exact root [] (List.prefix_refl _) k
  unfold makePlace
  split
  · next there => exact ⟨[], unchanged.symm, List.nil_prefix, root, fun _ => Or.inr there⟩
  · exact ⟨[], unchanged.symm, List.nil_prefix, root, nofun⟩
  · dsimp only
    split_ifs with long blocked
    · exact ⟨[], unchanged.symm, List.nil_prefix, root, nofun⟩
    · exact ⟨[], unchanged.symm, List.nil_prefix, root, nofun⟩
    · exact ⟨place, rfl, List.prefix_refl _, noFile blocked, fun _ => Or.inl rfl⟩
    · exact ⟨[], unchanged.symm, List.nil_prefix, root, nofun⟩
    · have onTheWay := List.takeWhile_prefix (l := place)
        (fun name : String => decide (name.utf8ByteSize ≤ Path.longestName))
      exact ⟨_, rfl, onTheWay, fun above h => noFile blocked above (h.trans onTheWay), nofun⟩

theorem makePlace_of_clear (fits : Location.Fits place)
    (clear : ∀ above, above <+: place → t.kindAt? above ≠ some .file) :
    (t.makePlace place).failure? = none := by
  have noFile : ¬place.ancestors.any (fun above => t.kindAt? above == some .file) = true := by
    intro found
    obtain ⟨above, among, file⟩ := List.any_eq_true.mp found
    exact clear above (Location.mem_ancestors.mp among).2 (by simpa using file)
  have possible : place.takeWhile (fun name => decide (name.utf8ByteSize ≤ Path.longestName)) =
      place := by
    rw [List.takeWhile_eq_self_iff]
    simpa using fits.2
  unfold makePlace
  split
  · rfl
  · next file => exact absurd file (clear place (List.prefix_refl _))
  · simp [Nat.not_lt.mpr fits.1, noFile, possible]

theorem isDirectory_makePlace (h : (t.makePlace place).failure? = none) :
    (t.makePlace place).tree.kindAt? place = some .directory := by
  obtain ⟨made, tree, -, -, success⟩ := t.makePlace_cases place
  rw [tree, isDirectory_addDirectories]
  rcases success h with rfl | there
  · exact Or.inl (List.prefix_refl _)
  · exact Or.inr there

/-! ### Sound trees -/

structure IsSound (t : FileTree) : Prop where
  distinct : t.fileLocations.Nodup
  apart : ∀ place ∈ t.fileLocations, t.kindAt? place = some .file
  closed : ∀ place, (t.kindAt? place).isSome → ∀ above, above <+: place → above ≠ place →
    t.kindAt? above = some .directory

theorem isSound_iff : t.IsSound ↔ t.fileLocations.Nodup ∧
    (∀ place ∈ t.fileLocations, t.kindAt? place = some .file) ∧
    ∀ place ∈ t.fileLocations ++ t.directories, ∀ above ∈ place.ancestors, above ≠ place →
      t.kindAt? above = some .directory := by
  have there : ∀ place, (t.kindAt? place).isSome ↔
      place = [] ∨ place ∈ t.fileLocations ++ t.directories := by
    intro place
    rw [isSome_kindAt?_iff, kindAt?_eq_directory_iff, List.mem_append]
    tauto
  constructor
  · intro h
    refine ⟨h.distinct, h.apart, fun place among above onTheWay differ => ?_⟩
    exact h.closed place ((there place).mpr (Or.inr among)) above
      (Location.mem_ancestors.mp onTheWay).2 differ
  · rintro ⟨distinct, apart, closed⟩
    refine ⟨distinct, apart, fun place isThere above onTheWay differ => ?_⟩
    by_cases root : above = []
    · exact kindAt?_eq_directory_iff.mpr (Or.inl root)
    rcases (there place).mp isThere with rfl | among
    · exact absurd (List.prefix_nil.mp onTheWay) root
    · exact closed place among above (Location.mem_ancestors.mpr ⟨root, onTheWay⟩) differ

instance (t : FileTree) : Decidable t.IsSound := decidable_of_iff _ isSound_iff.symm

theorem IsSound.addDirectories (h : t.IsSound)
    (clear : ∀ above, above <+: place → t.kindAt? above ≠ some .file) :
    (t.addDirectories place).IsSound where
  distinct := h.distinct
  apart file among := by
    have kind := h.apart file among
    refine kindAt?_eq_file_iff.mpr ⟨fun there => ?_, among⟩
    rcases isDirectory_addDirectories.mp there with above | there
    · exact clear file above kind
    · simp [kind] at there
  closed other there above below apart := by
    rw [isDirectory_addDirectories]
    rcases isSome_kindAt?_iff.mp there with directory | file
    · rcases isDirectory_addDirectories.mp directory with made | before
      · exact Or.inl (below.trans made)
      · exact Or.inr (h.closed other (isSome_kindAt?_iff.mpr (Or.inl before)) above below apart)
    · exact Or.inr (h.closed other (isSome_kindAt?_iff.mpr (Or.inr file)) above below apart)

theorem IsSound.put (h : t.IsSound) (new : t.kindAt? place ≠ some .directory)
    (parent : t.kindAt? place.dropLast = some .directory) : (t.put place text).IsSound where
  distinct := nodup_fileLocations_put h.distinct text
  apart file among := by
    refine kindAt?_eq_file_iff.mpr ⟨fun there => ?_, among⟩
    rw [isDirectory_put] at there
    rcases mem_fileLocations_put.mp among with rfl | before
    · exact new there
    · simp [h.apart file before] at there
  closed other there above below apart := by
    rw [isDirectory_put]
    rcases isSome_kindAt?_iff.mp there with directory | file
    · exact h.closed other (isSome_kindAt?_iff.mpr (Or.inl (isDirectory_put.mp directory)))
        above below apart
    · rcases mem_fileLocations_put.mp file with rfl | before
      · have above' := Location.prefix_dropLast below apart
        by_cases same : above = other.dropLast
        · rwa [same]
        · exact h.closed other.dropLast (by simp [parent]) above above' same
      · exact h.closed other (isSome_kindAt?_iff.mpr (Or.inr before)) above below apart

theorem IsSound.makePlace (h : t.IsSound) (place : Location) :
    (t.makePlace place).tree.IsSound := by
  obtain ⟨made, tree, -, clear, -⟩ := t.makePlace_cases place
  rw [tree]
  exact h.addDirectories clear

/-! ### Growth -/

/-- Whatever was there still is, and files hold what they held. -/
structure Grows (t u : FileTree) : Prop where
  kinds : ∀ place kind, t.kindAt? place = some kind → u.kindAt? place = some kind
  contents : ∀ place content, t.contentAt? place = some content →
    u.contentAt? place = some content

theorem Grows.refl (t : FileTree) : Grows t t := ⟨fun _ _ h => h, fun _ _ h => h⟩

theorem Grows.addDirectories (h : Grows t u)
    (clear : ∀ above, above <+: place → u.kindAt? above ≠ some .file) :
    Grows t (u.addDirectories place) where
  kinds other kind there := by
    have before := h.kinds other kind there
    cases kind with
    | directory => exact isDirectory_addDirectories.mpr (Or.inr before)
    | file =>
      have file : other ∈ u.fileLocations := mem_fileLocations_of_kindAt? before
      refine kindAt?_eq_file_iff.mpr ⟨fun made => ?_, file⟩
      rcases isDirectory_addDirectories.mp made with above | directory
      · exact clear other above before
      · simp [before] at directory
  contents := h.contents

theorem Grows.makePlace (h : Grows t u) (place : Location) :
    Grows t (u.makePlace place).tree := by
  obtain ⟨made, tree, -, clear, -⟩ := u.makePlace_cases place
  rw [tree]
  exact h.addDirectories clear

theorem Grows.put (h : Grows t u) (new : place ∉ t.fileLocations) (text : String) :
    Grows t (u.put place text) where
  kinds other kind there := by
    have before := h.kinds other kind there
    cases kind with
    | directory => exact isDirectory_put.mpr before
    | file =>
      refine kindAt?_eq_file_iff.mpr ⟨fun made => ?_, ?_⟩
      · simp [isDirectory_put.mp made] at before
      · exact mem_fileLocations_put.mpr (Or.inr (mem_fileLocations_of_kindAt? before))
  contents other content there := by
    rw [contentAt?_put, if_neg]
    · exact h.contents other content there
    · rintro rfl
      exact new (isSome_contentAt?_iff.mp (by simp [there]))

end FileTree

end OperationDocuments

namespace OperationDocuments.FileTree

/-! ## Files delivered one after the other

Texts are written in order, each into a directory that is made for it. Below a directory with
nothing in it, every text gets a place of its own exactly if no place is, or is on the way to, the
place of another text. -/

variable {t u v : FileTree} {place other output : Location} {text : String}
  {x : Location × String} {xs done : List (Location × String)}

/-- Writes a text to a place, in a directory that is made if it is not there. -/
def deliver (t : FileTree) (x : Location × String) : Except FileError FileTree :=
  match (t.makePlace x.1.dropLast).failure? with
  | some e => .error e
  | none => (t.makePlace x.1.dropLast).tree.writeAt x.1 (Location.path x.1) x.2

def deliverAll (t : FileTree) (xs : List (Location × String)) : Except FileError FileTree :=
  xs.foldlM deliver t

theorem writeAt_eq_ok_iff : t.writeAt place place.path text = .ok u ↔
    place.Fits ∧ t.kindAt? place ≠ some .directory ∧ u = t.put place text := by
  have fits : (Path.longest < place.path.utf8ByteSize ∨
      place.any (fun name => decide (Path.longestName < name.utf8ByteSize)) = true) ↔
        ¬place.Fits := by
    simp only [Location.Fits, List.any_eq_true, decide_eq_true_eq, not_and_or, not_forall,
      not_le, exists_prop]
  unfold writeAt
  simp only [beq_iff_eq]
  split_ifs with long directory
  · exact ⟨nofun, fun h => absurd h.1 (fits.mp long)⟩
  · exact ⟨nofun, fun h => absurd directory h.2.1⟩
  · have short : place.Fits := not_not.mp (mt fits.mpr long)
    constructor
    · rintro ⟨⟩
      exact ⟨short, directory, rfl⟩
    · rintro ⟨-, -, rfl⟩
      rfl

theorem deliver_eq_ok_iff : t.deliver x = .ok u ↔
    (t.makePlace x.1.dropLast).failure? = none ∧ x.1.Fits ∧
      (t.makePlace x.1.dropLast).tree.kindAt? x.1 ≠ some .directory ∧
      u = (t.makePlace x.1.dropLast).tree.put x.1 x.2 := by
  unfold deliver
  cases (t.makePlace x.1.dropLast).failure? with
  | some e => simp
  | none => simp [writeAt_eq_ok_iff]

theorem deliverAll_cons : t.deliverAll (x :: xs) = .ok v ↔
    ∃ u, t.deliver x = .ok u ∧ u.deliverAll xs = .ok v := by
  unfold deliverAll
  rw [List.foldlM_cons]
  cases t.deliver x <;> simp [bind, Except.bind]

/-! ### What is there afterwards -/

/-- What the tree `u` has become of the tree `t` by the delivery of some texts. -/
structure Delivered (t : FileTree) (done : List (Location × String)) (u : FileTree) : Prop where
  sound : u.IsSound
  grows : Grows t u
  files : ∀ file, file ∈ u.fileLocations ↔ file ∈ t.fileLocations ∨ file ∈ done.map Prod.fst
  directories : ∀ directory, u.kindAt? directory = some .directory →
    t.kindAt? directory = some .directory ∨ ∃ x ∈ done, directory <+: x.1.dropLast

theorem IsSound.delivered (h : t.IsSound) : Delivered t [] t where
  sound := h
  grows := Grows.refl t
  files := by simp
  directories _ there := Or.inl there

theorem Delivered.step (h : Delivered t done u) (new : x.1 ∉ t.fileLocations)
    (ok : u.deliver x = .ok v) : Delivered t (done ++ [x]) v := by
  obtain ⟨made, -, notDirectory, rfl⟩ := deliver_eq_ok_iff.mp ok
  have parent := isDirectory_makePlace made
  obtain ⟨reached, tree, below, -, -⟩ := u.makePlace_cases x.1.dropLast
  have sameFiles : (u.makePlace x.1.dropLast).tree.fileLocations = u.fileLocations := by
    rw [tree]
    rfl
  refine ⟨(h.sound.makePlace _).put notDirectory parent, (h.grows.makePlace _).put new _, ?_, ?_⟩
  · intro file
    rw [mem_fileLocations_put, sameFiles, h.files, List.map_append, List.mem_append,
      List.map_singleton, List.mem_singleton]
    tauto
  · intro directory there
    rw [isDirectory_put, tree, isDirectory_addDirectories] at there
    rcases there with made | before
    · exact Or.inr ⟨x, by simp, made.trans below⟩
    · refine (h.directories directory before).imp_right ?_
      rintro ⟨y, among, inside⟩
      exact ⟨y, List.mem_append_left _ among, inside⟩

theorem Delivered.run (h : Delivered t done u) (new : ∀ x ∈ xs, x.1 ∉ t.fileLocations)
    (ok : u.deliverAll xs = .ok v) : Delivered t (done ++ xs) v := by
  induction xs generalizing done u with
  | nil =>
    cases ok
    simpa using h
  | cons x xs ih =>
    obtain ⟨next, first, later⟩ := deliverAll_cons.mp ok
    have stepped := h.step (new x (by simp)) first
    simpa using ih stepped (fun y among => new y (List.mem_cons_of_mem x among)) later

theorem contentAt?_deliver (ok : t.deliver x = .ok u) (place : Location) :
    u.contentAt? place = if place = x.1 then some (.text x.2) else t.contentAt? place := by
  obtain ⟨-, -, -, rfl⟩ := deliver_eq_ok_iff.mp ok
  obtain ⟨reached, tree, -, -, -⟩ := t.makePlace_cases x.1.dropLast
  rw [contentAt?_put, tree]
  rfl

theorem contentAt?_deliverAll (ok : t.deliverAll xs = .ok u)
    (other : place ∉ xs.map Prod.fst) : u.contentAt? place = t.contentAt? place := by
  induction xs generalizing t with
  | nil =>
    cases ok
    rfl
  | cons x xs ih =>
    obtain ⟨next, first, later⟩ := deliverAll_cons.mp ok
    rw [List.map_cons, List.mem_cons, not_or] at other
    rw [ih later other.2, contentAt?_deliver first, if_neg other.1]

/-- A text whose place no other text has is still there at the end. -/
theorem contentAt?_of_mem (ok : t.deliverAll xs = .ok u) (distinct : (xs.map Prod.fst).Nodup)
    (among : x ∈ xs) : u.contentAt? x.1 = some (.text x.2) := by
  induction xs generalizing t with
  | nil => cases among
  | cons y xs ih =>
    obtain ⟨next, first, later⟩ := deliverAll_cons.mp ok
    rw [List.map_cons, List.nodup_cons] at distinct
    rcases List.mem_cons.mp among with rfl | among
    · rw [contentAt?_deliverAll later distinct.1, contentAt?_deliver first, if_pos rfl]
    · exact ih later distinct.2 among

/-! ### Places apart -/

structure Vacant (t : FileTree) (place : Location) : Prop where
  there : t.kindAt? place = some .directory
  empty : ∀ below, place <+: below → below ≠ place → t.kindAt? below = none

theorem Vacant.clear (sound : t.IsSound) (h : t.Vacant output) (inside : output <+: place)
    {above : Location} (onTheWay : above <+: place) : t.kindAt? above ≠ some .file := by
  rcases List.prefix_or_prefix_of_prefix onTheWay inside with before | behind
  · by_cases same : above = output
    · simp [same, h.there]
    · simp [sound.closed output (by simp [h.there]) above before same]
  · by_cases same : above = output
    · simp [same, h.there]
    · simp [h.empty above behind same]

theorem Delivered.exists_deliver (sound : t.IsSound) (vacant : t.Vacant output)
    (h : Delivered t done u) (inside : output <+: x.1) (strict : x.1 ≠ output) (fits : x.1.Fits)
    (apart : ∀ y ∈ done, Location.Apart y.1 x.1) : ∃ v, u.deliver x = .ok v := by
  have short : x.1.dropLast <+: x.1 := List.dropLast_prefix _
  have nonempty : x.1 ≠ [] := by
    intro none
    rw [none] at inside strict
    exact strict (List.prefix_nil.mp inside).symm
  have clear : ∀ above, above <+: x.1.dropLast → u.kindAt? above ≠ some .file := by
    intro above onTheWay file
    rcases (h.files above).mp (mem_fileLocations_of_kindAt? file) with before | delivered
    · exact vacant.clear sound inside (onTheWay.trans short) (sound.apart above before)
    · obtain ⟨y, among, rfl⟩ := List.mem_map.mp delivered
      exact (apart y among).1 (onTheWay.trans short)
  have made := makePlace_of_clear fits.dropLast clear
  have notDirectory : (u.makePlace x.1.dropLast).tree.kindAt? x.1 ≠ some .directory := by
    intro directory
    obtain ⟨reached, tree, below, -, -⟩ := u.makePlace_cases x.1.dropLast
    rw [tree, isDirectory_addDirectories] at directory
    rcases directory with onTheWay | before
    · have longer := (onTheWay.trans below).length_le
      have positive := List.length_pos_iff.mpr nonempty
      rw [List.length_dropLast] at longer
      omega
    · rcases h.directories x.1 before with first | ⟨y, among, onTheWay⟩
      · simp [vacant.empty x.1 inside strict] at first
      · exact (apart y among).2 (onTheWay.trans (List.dropLast_prefix _))
  exact ⟨_, deliver_eq_ok_iff.mpr ⟨made, fits, notDirectory, rfl⟩⟩

theorem Delivered.exists_deliverAll (sound : t.IsSound) (vacant : t.Vacant output)
    (h : Delivered t done u) (inside : ∀ x ∈ xs, output <+: x.1 ∧ x.1 ≠ output ∧ x.1.Fits)
    (others : ∀ y ∈ done, ∀ x ∈ xs, Location.Apart y.1 x.1)
    (apart : xs.Pairwise fun x y => Location.Apart x.1 y.1) : ∃ v, u.deliverAll xs = .ok v := by
  induction xs generalizing done u with
  | nil => exact ⟨u, rfl⟩
  | cons x xs ih =>
    rw [List.pairwise_cons] at apart
    obtain ⟨below, strict, fits⟩ := inside x (by simp)
    obtain ⟨next, first⟩ := h.exists_deliver sound vacant below strict fits
      fun y among => others y among x (by simp)
    have new : x.1 ∉ t.fileLocations := by
      intro before
      have file := sound.apart x.1 before
      simp [vacant.empty x.1 below strict] at file
    have later : ∀ y ∈ done ++ [x], ∀ z ∈ xs, Location.Apart y.1 z.1 := by
      intro y among z behind
      rcases List.mem_append.mp among with before | last
      · exact others y before z (List.mem_cons_of_mem x behind)
      · rw [List.mem_singleton.mp last]
        exact apart.1 z behind
    obtain ⟨v, ok⟩ := ih (h.step new first) (fun y among => inside y (List.mem_cons_of_mem x among))
      later apart.2
    exact ⟨v, deliverAll_cons.mpr ⟨next, first, ok⟩⟩

/-- The files below a directory that was vacant are the ones delivered there. -/
theorem Delivered.length_filesBelow (sound : t.IsSound) (vacant : t.Vacant output)
    (h : Delivered t xs u) (inside : ∀ x ∈ xs, output <+: x.1) :
    (u.filesBelow output).length = (xs.map Prod.fst).dedup.length := by
  have members : ∀ file, file ∈ u.fileLocations.filter (output.isPrefixOf ·) ↔
      file ∈ (xs.map Prod.fst).dedup := by
    intro file
    rw [List.mem_filter, h.files, List.mem_dedup, List.isPrefixOf_iff_prefix]
    constructor
    · rintro ⟨before | delivered, below⟩
      · exact absurd (sound.apart file before) (vacant.clear sound below (List.prefix_refl _))
      · exact delivered
    · intro delivered
      obtain ⟨x, among, rfl⟩ := List.mem_map.mp delivered
      exact ⟨Or.inr delivered, inside x among⟩
  have same := (List.perm_ext_iff_of_nodup (h.sound.distinct.filter _)
    (List.nodup_dedup _)).mpr members
  exact (Location.sort_perm _).length_eq.trans same.length_eq

theorem fits_of_deliverAll (ok : t.deliverAll xs = .ok u) : ∀ x ∈ xs, x.1.Fits := by
  induction xs generalizing t with
  | nil => simp
  | cons x xs ih =>
    obtain ⟨next, first, later⟩ := deliverAll_cons.mp ok
    exact List.forall_mem_cons.mpr ⟨(deliver_eq_ok_iff.mp first).2.1, ih later⟩

/-- Texts are delivered below a vacant directory, one file for each, and every file holds its own
text, exactly if their places are apart from each other and none has too long a name. -/
theorem deliverAll_apart_iff (sound : t.IsSound) (vacant : t.Vacant output)
    (inside : ∀ x ∈ xs, output <+: x.1 ∧ x.1 ≠ output) :
    (∃ u, t.deliverAll xs = .ok u ∧ (u.filesBelow output).length = xs.length ∧
        ∀ x ∈ xs, u.contentAt? x.1 = some (.text x.2)) ↔
      (∀ x ∈ xs, x.1.Fits) ∧ xs.Pairwise fun x y => Location.Apart x.1 y.1 := by
  have new : ∀ x ∈ xs, x.1 ∉ t.fileLocations := by
    intro x among before
    obtain ⟨below, strict⟩ := inside x among
    have file := sound.apart x.1 before
    simp [vacant.empty x.1 below strict] at file
  constructor
  · rintro ⟨u, ok, count, -⟩
    have h := sound.delivered.run new ok
    rw [List.nil_append] at h
    rw [h.length_filesBelow sound vacant fun x among => (inside x among).1] at count
    have distinct : (xs.map Prod.fst).Nodup := by
      rw [← List.dedup_eq_self]
      exact (List.dedup_sublist _).eq_of_length (by rw [count, List.length_map])
    have apart : ∀ x ∈ xs, ∀ y ∈ xs, x.1 ≠ y.1 → ¬x.1 <+: y.1 := by
      intro x hx y hy differ onTheWay
      have fileX := h.sound.apart x.1 ((h.files x.1).mpr (Or.inr (List.mem_map_of_mem hx)))
      have fileY := h.sound.apart y.1 ((h.files y.1).mpr (Or.inr (List.mem_map_of_mem hy)))
      have directory := h.sound.closed y.1 (by simp [fileY]) x.1 onTheWay differ
      simp [fileX] at directory
    rw [List.Nodup, List.pairwise_map] at distinct
    refine ⟨fits_of_deliverAll ok, distinct.imp_of_mem fun {x y} hx hy differ => ?_⟩
    exact ⟨apart x hx y hy differ, apart y hy x hx (Ne.symm differ)⟩
  · rintro ⟨fits, apart⟩
    obtain ⟨u, ok⟩ := sound.delivered.exists_deliverAll sound vacant
      (fun x among => ⟨(inside x among).1, (inside x among).2, fits x among⟩) (by simp) apart
    have h := sound.delivered.run new ok
    rw [List.nil_append] at h
    have distinct : (xs.map Prod.fst).Nodup := by
      rw [List.Nodup, List.pairwise_map]
      refine apart.imp fun {x y} h same => h.1 ?_
      rw [same]
    refine ⟨u, ok, ?_, fun x among => contentAt?_of_mem ok distinct among⟩
    rw [h.length_filesBelow sound vacant fun x among => (inside x among).1,
      List.dedup_eq_self.mpr distinct, List.length_map]

end OperationDocuments.FileTree
