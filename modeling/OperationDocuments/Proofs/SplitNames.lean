import Mathlib
import OperationDocuments.Proofs.SplitOutcome
import OperationDocuments.Proofs.SplitRun

/-! # Names of split documents

The documents of a source are named for its stem and its operations. Since no operation has a point
in its name, two sources beside each other have a name in common only if their stems are equal, or
one stem is the other with an operation behind a point. -/
namespace OperationDocuments

theorem IsName.not_mem_point {text : String} (h : IsName text) : '.' ∉ text.toList :=
  fun among => absurd (h.2 '.' among) (by decide)

theorem point_cons_eq_append {more a b : List Char} (ha : '.' ∉ a)
    (same : '.' :: a = more ++ '.' :: b) : more = [] ∧ a = b := by
  cases more with
  | nil => simpa using same
  | cons c more =>
    rw [List.cons_append, List.cons.injEq] at same
    exact absurd (by simp [same.2]) ha

/-- What stands behind the last point, and what before it, can be told from the whole. -/
theorem append_point_inj {s t a b : List Char} (ha : '.' ∉ a) (hb : '.' ∉ b) :
    s ++ '.' :: a = t ++ '.' :: b ↔ s = t ∧ a = b := by
  refine ⟨fun same => ?_, by rintro ⟨rfl, rfl⟩; rfl⟩
  rcases List.append_eq_append_iff.mp same with ⟨more, rfl, behind⟩ | ⟨more, rfl, behind⟩
  · obtain ⟨rfl, rfl⟩ := point_cons_eq_append ha behind
    exact ⟨(List.append_nil s).symm, rfl⟩
  · obtain ⟨rfl, rfl⟩ := point_cons_eq_append hb behind
    exact ⟨List.append_nil t, rfl⟩

namespace Command

variable {stem other : String} {names more : List String}

def outputNames (stem : String) (names : List String) : List String :=
  wholeName stem :: names.map (partName stem)

theorem map_fst_outputFiles (stem : String) (l : Loaded) :
    (outputFiles stem l).map Prod.fst = outputNames stem l.operationNames := by
  simp [outputFiles, outputNames, Loaded.operationNames, Assoc.keys]

theorem wholeName_inj : wholeName stem = wholeName other ↔ stem = other := by
  rw [wholeName, wholeName, String.append_left_inj]

theorem wholeName_eq_partName {name : String} :
    wholeName stem = partName other name ↔ stem = other ++ "." ++ name := by
  rw [wholeName, partName, String.append_left_inj]

theorem partName_inj {first second : String} (hf : IsName first) (hs : IsName second) :
    partName stem first = partName other second ↔ stem = other ∧ first = second := by
  have point : ∀ text name : String, (text ++ "." ++ name).toList =
      text.toList ++ '.' :: name.toList := by
    intro text name
    simp only [String.toList_append]
    simp
  rw [partName, partName, String.append_left_inj, ← String.toList_inj, point, point,
    append_point_inj hf.not_mem_point hs.not_mem_point, String.toList_inj, String.toList_inj]

theorem wholeName_mem (stem : String) (names : List String) :
    wholeName stem ∈ outputNames stem names := List.mem_cons_self

theorem nodup_outputNames (stem : String) (distinct : names.Nodup)
    (named : ∀ name ∈ names, IsName name) : (outputNames stem names).Nodup := by
  refine List.nodup_cons.mpr ⟨fun among => ?_, ?_⟩
  · obtain ⟨name, -, same⟩ := List.mem_map.mp among
    have shorter := congrArg String.length (wholeName_eq_partName.mp same.symm)
    simp only [String.length_append] at shorter
    have point : ".".length = 1 := by decide
    omega
  · refine (List.nodup_map_iff_inj_on distinct).mpr fun first hf second hs same => ?_
    exact ((partName_inj (named first hf) (named second hs)).mp same).2

/-- The sources of two stems have a name in common in these three cases. -/
theorem exists_common_name_iff (stem other : String) (named : ∀ name ∈ names, IsName name)
    (named' : ∀ name ∈ more, IsName name) :
    (∃ written, written ∈ outputNames stem names ∧ written ∈ outputNames other more) ↔
      stem = other ∨ (∃ name ∈ names, other = stem ++ "." ++ name) ∨
        ∃ name ∈ more, stem = other ++ "." ++ name := by
  simp only [outputNames, List.mem_cons, List.mem_map]
  constructor
  · rintro ⟨_, rfl | ⟨first, hf, rfl⟩, same | ⟨second, hs, same⟩⟩
    · exact Or.inl (wholeName_inj.mp same)
    · exact Or.inr (Or.inr ⟨second, hs, wholeName_eq_partName.mp same.symm⟩)
    · exact Or.inr (Or.inl ⟨first, hf, wholeName_eq_partName.mp same.symm⟩)
    · exact Or.inl ((partName_inj (named' second hs) (named first hf)).mp same).1.symm
  · rintro (rfl | ⟨name, among, rfl⟩ | ⟨name, among, rfl⟩)
    · exact ⟨_, Or.inl rfl, Or.inl rfl⟩
    · exact ⟨_, Or.inr ⟨name, among, rfl⟩, Or.inl rfl⟩
    · exact ⟨_, Or.inl rfl, Or.inr ⟨name, among, rfl⟩⟩

/-! ## Sources in each other's way -/

variable {base output f g : Location} {load : Location → Loaded} {files : List Location}

def innerDirectory (base file : Location) : Location := (file.drop base.length).dropLast

def stemOf (file : Location) : String := Path.stem (file.getLast?.getD "")

/-- One source is in the way of another: beside it, with the same stem or an operation that makes
up for the difference, or above it, with a file in the place of a directory. -/
inductive Collide (base : Location) (load : Location → Loaded) (f g : Location) : Prop where
  | stem (beside : innerDirectory base f = innerDirectory base g) (same : stemOf f = stemOf g)
  | operation (name : String) (beside : innerDirectory base f = innerDirectory base g)
      (among : name ∈ (load f).operationNames) (same : stemOf g = stemOf f ++ "." ++ name)
  | directory (written : String) (among : written ∈ outputNames (stemOf f) (load f).operationNames)
      (above : innerDirectory base f ++ [written] <+: innerDirectory base g)

theorem collide_iff : Collide base load f g ↔
    (innerDirectory base f = innerDirectory base g ∧ (stemOf f = stemOf g ∨
      ∃ name ∈ (load f).operationNames, stemOf g = stemOf f ++ "." ++ name)) ∨
    ∃ written ∈ outputNames (stemOf f) (load f).operationNames,
      innerDirectory base f ++ [written] <+: innerDirectory base g := by
  constructor
  · rintro (⟨beside, same⟩ | ⟨name, beside, among, same⟩ | ⟨written, among, above⟩)
    · exact Or.inl ⟨beside, Or.inl same⟩
    · exact Or.inl ⟨beside, Or.inr ⟨name, among, same⟩⟩
    · exact Or.inr ⟨written, among, above⟩
  · rintro (⟨beside, same | ⟨name, among, same⟩⟩ | ⟨written, among, above⟩)
    · exact .stem beside same
    · exact .operation name beside among same
    · exact .directory written among above

instance (base : Location) (load : Location → Loaded) (f g : Location) :
    Decidable (Collide base load f g) := decidable_of_iff _ collide_iff.symm

theorem mem_outputsOf {x : Location × String} (h : x ∈ outputsOf base output f (load f)) :
    ∃ written ∈ outputNames (stemOf f) (load f).operationNames,
      x.1 = output ++ innerDirectory base f ++ [written] := by
  obtain ⟨file, among, rfl⟩ := List.mem_map.mp h
  exact ⟨file.1, map_fst_outputFiles (stemOf f) (load f) ▸ List.mem_map_of_mem among, rfl⟩

theorem exists_mem_outputsOf {written : String}
    (h : written ∈ outputNames (stemOf f) (load f).operationNames) :
    ∃ x ∈ outputsOf base output f (load f),
      x.1 = output ++ innerDirectory base f ++ [written] := by
  rw [← map_fst_outputFiles (stemOf f) (load f)] at h
  obtain ⟨file, among, rfl⟩ := List.mem_map.mp h
  exact ⟨_, List.mem_map_of_mem among, rfl⟩

theorem prefix_below_iff {inner inner' : Location} {written written' : String} :
    output ++ inner ++ [written] <+: output ++ inner' ++ [written'] ↔
      (inner = inner' ∧ written = written') ∨ inner ++ [written] <+: inner' := by
  have last : inner ++ [written] = inner' ++ [written'] ↔ inner = inner' ∧ written = written' := by
    simp
  rw [List.append_assoc, List.append_assoc, List.prefix_append_right_inj, List.prefix_concat_iff,
    last]

theorem not_prefix_beside {inner : Location} {written written' : String}
    (differ : written ≠ written') :
    ¬output ++ inner ++ [written] <+: output ++ inner ++ [written'] := by
  intro above
  rcases prefix_below_iff.mp above with ⟨-, same⟩ | own
  · exact differ same
  · have longer := own.length_le
    simp at longer

theorem pairwise_apart_outputsOf (distinct : (load f).operationNames.Nodup)
    (named : ∀ name ∈ (load f).operationNames, IsName name) :
    (outputsOf base output f (load f)).Pairwise fun x y => Location.Apart x.1 y.1 := by
  have names := nodup_outputNames (stemOf f) distinct named
  rw [← map_fst_outputFiles, List.Nodup, List.pairwise_map] at names
  refine List.pairwise_map.mpr (names.imp fun {x y} differ => ⟨?_, ?_⟩)
  · exact not_prefix_beside differ
  · exact not_prefix_beside (Ne.symm differ)

/-- A document of the one source has the place of a document of the other, or that of a directory
on the way to it. -/
def Crosses (base output : Location) (load : Location → Loaded) (f g : Location) : Prop :=
  ∃ x ∈ outputsOf base output f (load f), ∃ y ∈ outputsOf base output g (load g), x.1 <+: y.1

theorem crosses_iff : Crosses base output load f g ↔
      (innerDirectory base f = innerDirectory base g ∧
        ∃ written, written ∈ outputNames (stemOf f) (load f).operationNames ∧
          written ∈ outputNames (stemOf g) (load g).operationNames) ∨
      ∃ written ∈ outputNames (stemOf f) (load f).operationNames,
        innerDirectory base f ++ [written] <+: innerDirectory base g := by
  constructor
  · rintro ⟨x, hx, y, hy, above⟩
    obtain ⟨written, inF, placeX⟩ := mem_outputsOf hx
    obtain ⟨written', inG, placeY⟩ := mem_outputsOf hy
    rw [placeX, placeY] at above
    rcases prefix_below_iff.mp above with ⟨beside, rfl⟩ | deeper
    · exact Or.inl ⟨beside, written, inF, inG⟩
    · exact Or.inr ⟨written, inF, deeper⟩
  · rintro (⟨beside, written, inF, inG⟩ | ⟨written, inF, deeper⟩)
    · obtain ⟨x, hx, placeX⟩ := exists_mem_outputsOf inF
      obtain ⟨y, hy, placeY⟩ := exists_mem_outputsOf inG
      exact ⟨x, hx, y, hy, by rw [placeX, placeY, beside]⟩
    · obtain ⟨x, hx, placeX⟩ := exists_mem_outputsOf inF
      obtain ⟨y, hy, placeY⟩ :=
        exists_mem_outputsOf (wholeName_mem (stemOf g) (load g).operationNames)
      exact ⟨x, hx, y, hy, by rw [placeX, placeY]; exact prefix_below_iff.mpr (Or.inr deeper)⟩

section Named

variable (hf : ∀ name ∈ (load f).operationNames, IsName name)
  (hg : ∀ name ∈ (load g).operationNames, IsName name)

include hf hg

theorem Collide.crosses (h : Collide base load f g) : Crosses base output load f g := by
  have common := exists_common_name_iff (stemOf f) (stemOf g) hf hg
  refine crosses_iff.mpr ?_
  cases h with
  | stem beside same => exact Or.inl ⟨beside, common.mpr (Or.inl same)⟩
  | operation name beside among same =>
    exact Or.inl ⟨beside, common.mpr (Or.inr (Or.inl ⟨name, among, same⟩))⟩
  | directory written among above => exact Or.inr ⟨written, among, above⟩

theorem Crosses.collide (h : Crosses base output load f g) :
    Collide base load f g ∨ Collide base load g f := by
  have common := exists_common_name_iff (stemOf f) (stemOf g) hf hg
  rcases crosses_iff.mp h with ⟨beside, shared⟩ | ⟨written, among, above⟩
  · rcases common.mp shared with same | ⟨name, among, same⟩ | ⟨name, among, same⟩
    · exact Or.inl (.stem beside same)
    · exact Or.inl (.operation name beside among same)
    · exact Or.inr (.operation name beside.symm among same)
  · exact Or.inl (.directory written among above)

theorem apart_outputsOf_iff :
    (∀ x ∈ outputsOf base output f (load f), ∀ y ∈ outputsOf base output g (load g),
        Location.Apart x.1 y.1) ↔
      ¬Collide base load f g ∧ ¬Collide base load g f := by
  constructor
  · intro apart
    refine ⟨fun collide => ?_, fun collide => ?_⟩
    · obtain ⟨x, hx, y, hy, above⟩ := collide.crosses hf hg
      exact (apart x hx y hy).1 above
    · obtain ⟨y, hy, x, hx, above⟩ := collide.crosses hg hf
      exact (apart x hx y hy).2 above
  · rintro ⟨clear, clear'⟩ x hx y hy
    refine ⟨fun above => ?_, fun above => ?_⟩
    · exact (Crosses.collide hf hg ⟨x, hx, y, hy, above⟩).elim clear clear'
    · exact (Crosses.collide hg hf ⟨y, hy, x, hx, above⟩).elim clear' clear

end Named

/-- The documents of all sources are apart from each other exactly if no source is in the way of
another. -/
theorem pairwise_apart_plan_iff (base output : Location) (sources : files.Nodup)
    (distinct : ∀ file ∈ files, (load file).operationNames.Nodup)
    (named : ∀ file ∈ files, ∀ name ∈ (load file).operationNames, IsName name) :
    ((plan base output load files).Pairwise fun x y => Location.Apart x.1 y.1) ↔
      ∀ f ∈ files, ∀ g ∈ files, f ≠ g → ¬Collide base load f g := by
  unfold plan
  rw [List.pairwise_flatMap]
  constructor
  · rintro ⟨-, pairs⟩ f hf g hg differ
    have symmetric : Std.Symm fun a b => ¬Collide base load a b ∧ ¬Collide base load b a :=
      ⟨fun _ _ => And.symm⟩
    have clear : files.Pairwise fun a b => ¬Collide base load a b ∧ ¬Collide base load b a :=
      pairs.imp_of_mem fun {a b} ha hb apart =>
        (apart_outputsOf_iff (named a ha) (named b hb)).mp apart
    exact (clear.forall hf hg differ).1
  · intro clear
    refine ⟨fun f hf => pairwise_apart_outputsOf (distinct f hf) (named f hf), ?_⟩
    refine sources.imp_of_mem fun {f g} hf hg differ => ?_
    exact (apart_outputsOf_iff (named f hf) (named g hg)).mpr
      ⟨clear f hf g hg differ, clear g hg f hf (Ne.symm differ)⟩

theorem nodup_collectSources {t : FileTree} (sound : t.IsSound) (place : Location) :
    (collectSources t place).Nodup := by
  unfold collectSources
  split
  · exact List.nodup_singleton place
  · refine List.Nodup.filter _ ((Location.sort_perm _).nodup_iff.mpr ?_)
    exact List.Nodup.filter _ sound.distinct

/-- A run of the command on sources that all load, into a place with nothing in it, gives each of
their documents a file of its own, and says how many there are, exactly if no source is in the way
of another and no name is too long. -/
theorem run_split_delivers_iff (s : Setting) (words : List String) (a : Arguments)
    (load : Location → Loaded) (accepted : s.splitArguments? words = some a)
    (ready : Ready s.tree s.directory (s.place a "source") (s.place a "output") load) :
    let source := s.place a "source"
    let sources := collectSources s.tree source
    let planned := plan source (s.place a "output") load sources
    (run s ("split" :: words)).Delivers (s.place a "output") planned ↔
      (∀ x ∈ planned, Location.Fits x.1) ∧
        ∀ f ∈ sources, ∀ g ∈ sources, f ≠ g → ¬Collide source load f g := by
  intro source sources planned
  rw [← pairwise_apart_plan_iff source (s.place a "output")
    (nodup_collectSources ready.sound source)
    (fun f hf => Loader.nodup_operationNames_loadFile (ready.loads f hf))
    (fun f hf => Loader.isName_operationNames_loadFile (ready.loads f hf))]
  exact delivers_iff accepted ready

end Command

namespace Sample

open Command

def workbench (directories : List Location) (files : List (Location × String)) : Setting where
  tree := {
    files := files.map fun file => (["work", "src"] ++ file.1, .text file.2)
    directories := [["work"], ["work", "src"]] ++ directories.map (["work", "src"] ++ ·) }
  directory := ["work"]

def splitWords : List String := ["--source", "src", "--output", "out"]

def splitArguments : Arguments := ⟨[("source", ["src"]), ("output", ["out"])], []⟩

def loadedQuery (path name target : String) : Loaded :=
  ⟨path, ⟨path, [query name [field target]]⟩, [], []⟩

def mirrored : Setting := workbench [["b"]]
  [(["a.graphql"], "query A { x }"), (["b", "a.graphql"], "query A { x } query B { y }")]

def mirroredPair : Loaded where
  source := "/work/src/b/a.graphql"
  document := ⟨"/work/src/b/a.graphql", [query "A" [field "x"], query "B" [field "y"]]⟩
  operations := [("A", ⟨"/work/src/b/a.graphql", [query "A" [field "x"]]⟩),
    ("B", ⟨"/work/src/b/a.graphql", [query "B" [field "y"]]⟩)]
  imports := []

def mirroredLoad (file : Location) : Loaded :=
  if file.length = 3 then loadedQuery "/work/src/a.graphql" "A" "x" else mirroredPair

theorem returns_loadFile_workbench {s : Setting} {file : Location} {path text : String}
    {l : Loaded} (named : Location.path file = path)
    (holds : Workspace.read ⟨s.tree, s.directory⟩ path = .ok text)
    (loads : ∀ r : Resolver, (r.loadFiltered [] text (some path)).Returns l) :
    ((Loader.ofWorkspace ⟨s.tree, s.directory⟩).loadFile ⟨s.tree, s.directory⟩
      (Location.path file)).Returns l := by
  rw [named]
  exact Loader.returns_loadFile.mpr ⟨text, holds, loads _⟩

theorem returns_queryA (r : Resolver) : (r.loadFiltered [] "query A { x }"
    (some "/work/src/a.graphql")).Returns (loadedQuery "/work/src/a.graphql" "A" "x") := by
  cbv

theorem ready_mirrored : Ready mirrored.tree ["work"] ["work", "src"] ["work", "out"]
    mirroredLoad where
  sound := by decide +kernel
  isDirectory := by decide +kernel
  makable := by decide +kernel
  empty := by decide +kernel
  loads := by
    have sources : collectSources mirrored.tree ["work", "src"] =
        [["work", "src", "a.graphql"], ["work", "src", "b", "a.graphql"]] := by decide +kernel
    have pair (r : Resolver) : (r.loadFiltered [] "query A { x } query B { y }"
        (some "/work/src/b/a.graphql")).Returns mirroredPair := by cbv
    rw [sources, List.forall_mem_cons, List.forall_mem_singleton]
    constructor
    · exact returns_loadFile_workbench (by decide +kernel) (by decide +kernel) returns_queryA
    · exact returns_loadFile_workbench (by decide +kernel) (by decide +kernel) pair

def twins : Setting := workbench []
  [(["a.gql"], "query B { y }"), (["a.graphql"], "query A { x }")]

def twinsLoad (file : Location) : Loaded :=
  if file = ["work", "src", "a.gql"] then loadedQuery "/work/src/a.gql" "B" "y"
  else loadedQuery "/work/src/a.graphql" "A" "x"

theorem ready_twins : Ready twins.tree ["work"] ["work", "src"] ["work", "out"] twinsLoad where
  sound := by decide +kernel
  isDirectory := by decide +kernel
  makable := by decide +kernel
  empty := by decide +kernel
  loads := by
    have sources : collectSources twins.tree ["work", "src"] =
        [["work", "src", "a.gql"], ["work", "src", "a.graphql"]] := by decide +kernel
    have queryB (r : Resolver) : (r.loadFiltered [] "query B { y }"
        (some "/work/src/a.gql")).Returns (loadedQuery "/work/src/a.gql" "B" "y") := by cbv
    rw [sources, List.forall_mem_cons, List.forall_mem_singleton]
    constructor
    · exact returns_loadFile_workbench (by decide +kernel) (by decide +kernel) queryB
    · exact returns_loadFile_workbench (by decide +kernel) (by decide +kernel) returns_queryA

end Sample

namespace Command

theorem run_split_delivers_iff_mirrored :
    Sample.mirrored.splitArguments? Sample.splitWords = some Sample.splitArguments ∧
      Ready Sample.mirrored.tree ["work"] ["work", "src"] ["work", "out"] Sample.mirroredLoad ∧
      (run Sample.mirrored ("split" :: Sample.splitWords)).Delivers ["work", "out"]
        (plan ["work", "src"] ["work", "out"] Sample.mirroredLoad
          [["work", "src", "a.graphql"], ["work", "src", "b", "a.graphql"]]) := by
  have accepted : Sample.mirrored.splitArguments? Sample.splitWords =
      some Sample.splitArguments := by decide +kernel
  have source : Sample.mirrored.place Sample.splitArguments "source" = ["work", "src"] := by
    decide +kernel
  have output : Sample.mirrored.place Sample.splitArguments "output" = ["work", "out"] := by
    decide +kernel
  have sources : collectSources Sample.mirrored.tree ["work", "src"] =
      [["work", "src", "a.graphql"], ["work", "src", "b", "a.graphql"]] := by decide +kernel
  have ready := Sample.ready_mirrored
  have iff := run_split_delivers_iff Sample.mirrored Sample.splitWords Sample.splitArguments
    Sample.mirroredLoad accepted (by rwa [source, output])
  simp only [source, output, sources] at iff
  exact ⟨accepted, ready, iff.mpr ⟨by decide +kernel, by decide +kernel⟩⟩

/-- The source that comes second is written over the first, and both are counted. -/
theorem run_split_twins_overwrites :
    let outcome := run Sample.twins ("split" :: Sample.splitWords);
    Ready Sample.twins.tree ["work"] ["work", "src"] ["work", "out"] Sample.twinsLoad ∧
      outcome.exitCode = 0 ∧
      outcome.output =
        "Splitting 2 file(s)...\nDone! Wrote 2 document(s) to /work/out\n" ∧
      outcome.tree.filesBelow ["work", "out"] = [["work", "out", "a.graphql"]] ∧
      outcome.tree.contentAt? ["work", "out", "a.graphql"] =
        some (.text "query A \x7b\n  x\n\x7d\n") :=
  ⟨Sample.ready_twins, by decide +kernel⟩

end Command

end OperationDocuments
