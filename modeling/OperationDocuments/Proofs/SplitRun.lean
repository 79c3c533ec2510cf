import Mathlib
import OperationDocuments.Proofs.FileLoads
import OperationDocuments.Proofs.Runs

/-! # Runs of the split command

A run loads its sources in the order of their places and delivers the documents of each before it
loads the next. -/
namespace OperationDocuments

namespace FileTree

variable {t u v : FileTree} {target : Location} {x : Location × String}
  {xs ys : List (Location × String)}

theorem deliverAll_append : t.deliverAll (xs ++ ys) = .ok v ↔
    ∃ u, t.deliverAll xs = .ok u ∧ u.deliverAll ys = .ok v := by
  unfold deliverAll
  rw [List.foldlM_append]
  cases xs.foldlM deliver t <;> simp [bind, Except.bind]

theorem makePlace_of_directory (h : t.kindAt? target = some .directory) :
    t.makePlace target = ⟨t, none⟩ := by
  rw [makePlace, h]

theorem deliver_of_parent (h : t.kindAt? x.1.dropLast = some .directory) :
    t.deliver x = t.writeAt x.1 (Location.path x.1) x.2 := by
  rw [deliver, makePlace_of_directory h]

theorem deliver_makePlace (made : (t.makePlace x.1.dropLast).failure? = none) :
    (t.makePlace x.1.dropLast).tree.deliver x = t.deliver x := by
  rw [deliver_of_parent (isDirectory_makePlace made), deliver, made]

theorem deliverAll_makePlace (own : x.1.dropLast = target)
    (made : (t.makePlace target).failure? = none) :
    (t.makePlace target).tree.deliverAll (x :: xs) = t.deliverAll (x :: xs) := by
  subst own
  unfold deliverAll
  rw [List.foldlM_cons, List.foldlM_cons, deliver_makePlace made]

theorem made_of_deliverAll (own : x.1.dropLast = target)
    (ok : t.deliverAll (x :: xs) = .ok v) : (t.makePlace target).failure? = none := by
  subst own
  obtain ⟨u, first, -⟩ := deliverAll_cons.mp ok
  exact (deliver_eq_ok_iff.mp first).1

end FileTree

namespace Command

variable {directory base output target : Location} {verbose : Bool} {file : Location}
  {c c' : Console} {t : FileTree} {loaded : Loaded} {n : Nat} {u : Unit}

/-- What a source is to become: the places of its documents, and their texts. -/
def outputsOf (base output file : Location) (l : Loaded) : List (Location × String) :=
  (outputFiles (Path.stem (file.getLast?.getD "")) l).map fun written =>
    (output ++ (file.drop base.length).dropLast ++ [written.1], written.2.print ++ "\n")

theorem ends_writeDocuments {files : List (String × Document)}
    (parent : c.tree.kindAt? target = some .directory) :
    Ends (writeDocuments target files) c u c' ↔
      ∃ t, c.tree.deliverAll (files.map fun file => (target ++ [file.1], file.2.print ++ "\n")) =
        .ok t ∧ { c with tree := t } = c' := by
  unfold writeDocuments
  induction files generalizing c with
  | nil =>
    refine ends_pure.trans ⟨?_, ?_⟩
    · rintro ⟨-, rfl⟩
      exact ⟨c.tree, rfl, rfl⟩
    · rintro ⟨t, ok, rfl⟩
      cases ok
      exact ⟨rfl, rfl⟩
  | cons file files ih =>
    have own : (target ++ [file.1]).dropLast = target := List.dropLast_concat
    have alone : c.tree.deliver (target ++ [file.1], file.2.print ++ "\n") =
        c.tree.writeAt (target ++ [file.1]) (Location.path (target ++ [file.1]))
          (file.2.print ++ "\n") :=
      FileTree.deliver_of_parent (by rwa [own])
    have still : ∀ t, c.tree.writeAt (target ++ [file.1]) (Location.path (target ++ [file.1]))
        (file.2.print ++ "\n") = .ok t → t.kindAt? target = some .directory := by
      intro t ok
      obtain ⟨-, -, rfl⟩ := FileTree.writeAt_eq_ok_iff.mp ok
      exact FileTree.isDirectory_put.mpr parent
    refine ends_bind.trans ⟨?_, ?_⟩
    · rintro ⟨_, _, first, later⟩
      obtain ⟨t, ok, rfl⟩ := ends_onTree.mp first
      obtain ⟨v, rest, rfl⟩ := (ih (still t ok)).mp later
      exact ⟨v, FileTree.deliverAll_cons.mpr ⟨t, alone.trans ok, rest⟩, rfl⟩
    · rintro ⟨v, ok, rfl⟩
      obtain ⟨t, first, rest⟩ := FileTree.deliverAll_cons.mp ok
      have first := alone.symm.trans first
      exact ⟨(), _, ends_onTree.mpr ⟨t, first, rfl⟩, (ih (still t first)).mpr ⟨v, rest, rfl⟩⟩

theorem prints_showSource (verbose : Bool) (relative : Location) (l : Loaded) :
    Prints (showSource verbose relative l) := by
  unfold showSource
  cases verbose with
  | false => exact prints_pure
  | true => exact (prints_echo _).bind (prints_forM fun _ => prints_echo _)

theorem exists_outputsOf_eq_cons (base output file : Location) (l : Loaded) :
    ∃ x xs, outputsOf base output file l = x :: xs ∧
      x.1.dropLast = output ++ (file.drop base.length).dropLast :=
  ⟨_, _, rfl, List.dropLast_concat⟩

theorem of_ends_splitFile
    (returned : ((Loader.ofWorkspace ⟨c.tree, directory⟩).loadFile ⟨c.tree, directory⟩
      (Location.path file)).Returns loaded)
    (h : Ends (splitFile directory base output verbose file) c n c') :
    n = (outputsOf base output file loaded).length ∧
      c.tree.deliverAll (outputsOf base output file loaded) = .ok c'.tree := by
  unfold splitFile at h
  obtain ⟨l, c₁, loads, h⟩ := ends_bind.mp h
  obtain ⟨returned', sameTree⟩ := of_ends_loadFile loads
  obtain rfl : loaded = l := Except.ok.inj (returned.symm.trans returned')
  obtain ⟨_, c₂, makes, h⟩ := ends_bind.mp h
  obtain ⟨made, rfl⟩ := ends_change.mp makes
  obtain ⟨_, c₃, writes, h⟩ := ends_bind.mp h
  obtain ⟨t, ok, rfl⟩ := (ends_writeDocuments (FileTree.isDirectory_makePlace made)).mp writes
  obtain ⟨_, c₄, shows, last⟩ := ends_bind.mp h
  obtain ⟨rfl, rfl⟩ := ends_pure.mp last
  refine ⟨by simp [outputsOf], ?_⟩
  obtain ⟨x, xs, eq, own⟩ := exists_outputsOf_eq_cons base output file loaded
  have delivered : (c₁.tree.makePlace (output ++ (file.drop base.length).dropLast)).tree.deliverAll
      (outputsOf base output file loaded) = .ok t := ok
  rw [eq, FileTree.deliverAll_makePlace own made, sameTree, ← eq] at delivered
  rw [(prints_showSource verbose _ loaded).tree_eq shows]
  exact delivered

theorem exists_ends_splitFile (verbose : Bool)
    (returned : ((Loader.ofWorkspace ⟨c.tree, directory⟩).loadFile ⟨c.tree, directory⟩
      (Location.path file)).Returns loaded)
    (ok : c.tree.deliverAll (outputsOf base output file loaded) = .ok t) :
    ∃ c', Ends (splitFile directory base output verbose file) c
      (outputsOf base output file loaded).length c' ∧ c'.tree = t := by
  obtain ⟨c₁, loads, sameTree⟩ := exists_ends_loadFile verbose returned
  obtain ⟨x, xs, eq, own⟩ := exists_outputsOf_eq_cons base output file loaded
  rw [← sameTree] at ok
  have made := FileTree.made_of_deliverAll own (eq ▸ ok)
  have delivered : (c₁.tree.makePlace (output ++ (file.drop base.length).dropLast)).tree.deliverAll
      (outputsOf base output file loaded) = .ok t := by
    rw [eq, FileTree.deliverAll_makePlace own made, ← eq]
    exact ok
  have writes := (ends_writeDocuments (c := { c₁ with
    tree := (c₁.tree.makePlace (output ++ (file.drop base.length).dropLast)).tree }) (u := ())
    (FileTree.isDirectory_makePlace made)).mpr ⟨t, delivered, rfl⟩
  obtain ⟨shown, errors, shows⟩ := prints_showSource verbose (file.drop base.length) loaded
    { c₁ with tree := t }
  refine ⟨{ c₁ with tree := t, output := shown, errors := errors }, ?_, rfl⟩
  exact ends_bind.mpr ⟨loaded, c₁, loads, ends_bind.mpr ⟨(), _, ends_change.mpr ⟨made, rfl⟩,
    ends_bind.mpr ⟨(), _, writes, ends_bind.mpr ⟨(), _, shows,
      ends_pure.mpr ⟨by simp [outputsOf], rfl⟩⟩⟩⟩⟩

def plan (base output : Location) (load : Location → Loaded) (files : List Location) :
    List (Location × String) :=
  files.flatMap fun file => outputsOf base output file (load file)

theorem below_of_mem_plan {load : Location → Loaded} {files : List Location}
    {x : Location × String} (h : x ∈ plan base output load files) :
    output <+: x.1 ∧ x.1 ≠ output := by
  obtain ⟨file, -, among⟩ := List.mem_flatMap.mp h
  obtain ⟨written, -, rfl⟩ := List.mem_map.mp among
  refine ⟨⟨(file.drop base.length).dropLast ++ [written.1], by simp⟩, fun same => ?_⟩
  have length := congrArg List.length same
  simp at length

section Sources

variable {load : Location → Loaded} {files : List Location} {done : List (Location × String)}
  (loads : ∀ file ∈ files, ((Loader.ofWorkspace ⟨t, directory⟩).loadFile ⟨t, directory⟩
    (Location.path file)).Returns (load file))
  (new : ∀ x ∈ plan base output load files, x.1 ∉ t.fileLocations)

include loads new

theorem of_ends_splitFiles (h : FileTree.Delivered t done c.tree)
    (ends : Ends (splitFiles directory base output verbose files) c n c') :
    n = (plan base output load files).length ∧
      c.tree.deliverAll (plan base output load files) = .ok c'.tree := by
  induction files generalizing c done n with
  | nil =>
    obtain ⟨rfl, rfl⟩ := ends_pure.mp ends
    exact ⟨rfl, rfl⟩
  | cons file files ih =>
    obtain ⟨m, c₁, first, ends⟩ := ends_bind.mp ends
    obtain ⟨k, c₂, later, last⟩ := ends_bind.mp ends
    obtain ⟨rfl, rfl⟩ := ends_pure.mp last
    have returned := Loader.returns_loadFile_of_grows h.grows (loads file (by simp))
    obtain ⟨rfl, ok⟩ := of_ends_splitFile returned first
    have stepped := h.run (fun x among => new x (List.mem_append_left _ among)) ok
    obtain ⟨rfl, rest⟩ := ih (fun other among => loads other (List.mem_cons_of_mem file among))
      (fun x among => new x (List.mem_append_right _ among)) stepped later
    exact ⟨(List.length_append).symm, FileTree.deliverAll_append.mpr ⟨_, ok, rest⟩⟩

theorem exists_ends_splitFiles (verbose : Bool) {v : FileTree}
    (h : FileTree.Delivered t done c.tree)
    (ok : c.tree.deliverAll (plan base output load files) = .ok v) :
    ∃ c', Ends (splitFiles directory base output verbose files) c
      (plan base output load files).length c' ∧ c'.tree = v := by
  induction files generalizing c done with
  | nil =>
    cases ok
    exact ⟨c, ends_pure.mpr ⟨rfl, rfl⟩, rfl⟩
  | cons file files ih =>
    obtain ⟨next, first, rest⟩ := FileTree.deliverAll_append.mp ok
    have returned := Loader.returns_loadFile_of_grows h.grows (loads file (by simp))
    obtain ⟨c₁, ends, rfl⟩ := exists_ends_splitFile verbose returned first
    have stepped := h.run (fun x among => new x (List.mem_append_left _ among)) first
    obtain ⟨c₂, later, rfl⟩ := ih
      (fun other among => loads other (List.mem_cons_of_mem file among))
      (fun x among => new x (List.mem_append_right _ among)) stepped rest
    refine ⟨c₂, ends_bind.mpr ⟨_, c₁, ends, ends_bind.mpr ⟨_, c₂, later, ?_⟩⟩, rfl⟩
    exact ends_pure.mpr ⟨(List.length_append).symm, rfl⟩

end Sources

theorem helpless_splitFile (directory base output : Location) (verbose : Bool) (file : Location) :
    Helpless (splitFile directory base output verbose file) := by
  refine (helpless_loadFile directory verbose _).bind fun l => (helpless_change _).bind fun _ => ?_
  refine (helpless_forM fun _ => helpless_onTree _).bind fun _ => ?_
  exact (prints_showSource verbose _ l).helpless.bind fun _ => helpless_pure _

theorem helpless_splitFiles (directory base output : Location) (verbose : Bool)
    (files : List Location) : Helpless (splitFiles directory base output verbose files) := by
  induction files with
  | nil => exact helpless_pure 0
  | cons file files ih =>
    exact (helpless_splitFile directory base output verbose file).bind fun _ =>
      ih.bind fun _ => helpless_pure _

theorem helpless_splitInto (directory source output : Location) (verbose : Bool) :
    Helpless (splitInto directory source output verbose) := by
  refine (helpless_change _).bind fun _ => helpless_get.bind fun c => ?_
  refine (prints_echo _).helpless.bind fun _ => ?_
  exact (helpless_splitFiles directory _ output verbose _).bind fun _ => (prints_echo _).helpless

/-! ## A whole run -/

/-- What a run of the command can rely on: the tree is sound, the sources are in a directory and can
be loaded, and the output is or can become a directory, with nothing in it so far. -/
structure Ready (t : FileTree) (directory source output : Location) (load : Location → Loaded) :
    Prop where
  sound : t.IsSound
  isDirectory : t.kindAt? source = some .directory
  makable : (t.makePlace output).failure? = none
  empty : ∀ place ∈ t.fileLocations ++ t.directories, output <+: place → place = output
  loads : ∀ file ∈ collectSources t source,
    ((Loader.ofWorkspace ⟨t, directory⟩).loadFile ⟨t, directory⟩ (Location.path file)).Returns
      (load file)

namespace Ready

variable {source : Location} {load : Location → Loaded}
  (ready : Ready t directory source output load)

include ready

theorem vacant : (t.makePlace output).tree.Vacant output where
  there := FileTree.isDirectory_makePlace ready.makable
  empty below inside strict := by
    obtain ⟨made, tree, onTheWay, -, -⟩ := t.makePlace_cases output
    have absent : ¬below ∈ t.fileLocations ++ t.directories :=
      fun there => strict (ready.empty below there inside)
    rw [List.mem_append, not_or] at absent
    rw [tree, ← Option.not_isSome_iff_eq_none, FileTree.isSome_kindAt?_iff,
      FileTree.isDirectory_addDirectories, FileTree.kindAt?_eq_directory_iff]
    rintro ((above | rfl | directory) | file)
    · exact strict ((above.trans onTheWay).eq_of_length_le inside.length_le)
    · exact strict (List.prefix_nil.mp inside).symm
    · exact absent.2 directory
    · exact absent.1 file

theorem collectSources_makePlace :
    collectSources (t.makePlace output).tree source = collectSources t source := by
  have still := ((FileTree.Grows.refl t).makePlace output).kinds source _ ready.isDirectory
  obtain ⟨made, tree, -, -, -⟩ := t.makePlace_cases output
  unfold collectSources
  rw [still, ready.isDirectory, tree]
  rfl

theorem new {x : Location × String} (h : x ∈ plan source output load (collectSources t source)) :
    x.1 ∉ (t.makePlace output).tree.fileLocations := by
  intro file
  obtain ⟨inside, strict⟩ := below_of_mem_plan h
  have kind := (ready.sound.makePlace output).apart x.1 file
  simp [ready.vacant.empty x.1 inside strict] at kind

theorem delivered : FileTree.Delivered (t.makePlace output).tree [] (t.makePlace output).tree :=
  (ready.sound.makePlace output).delivered

theorem loads_makePlace : ∀ file ∈ collectSources t source,
    ((Loader.ofWorkspace ⟨(t.makePlace output).tree, directory⟩).loadFile
      ⟨(t.makePlace output).tree, directory⟩ (Location.path file)).Returns (load file) :=
  fun file among => Loader.returns_loadFile_of_grows
    ((FileTree.Grows.refl t).makePlace output) (ready.loads file among)

/-- When the command ends normally, it has delivered all that was planned and says how much. -/
theorem of_ends (tree : c.tree = t)
    (ends : Ends (splitInto directory source output verbose) c u c') :
    (t.makePlace output).tree.deliverAll (plan source output load (collectSources t source)) =
        .ok c'.tree ∧
      ∃ shown, c'.output = shown
        ++ doneLine (plan source output load (collectSources t source)).length output ++ "\n" := by
  subst tree
  have still := ((FileTree.Grows.refl c.tree).makePlace output).kinds source _ ready.isDirectory
  obtain ⟨_, _, makes, ends⟩ := ends_bind.mp ends
  obtain ⟨-, rfl⟩ := ends_change.mp makes
  obtain ⟨_, _, seen, ends⟩ := ends_bind.mp ends
  obtain ⟨rfl, rfl⟩ := ends_get.mp seen
  obtain ⟨_, _, told, ends⟩ := ends_bind.mp ends
  obtain rfl := ends_echo.mp told
  obtain ⟨n, c₁, writes, told⟩ := ends_bind.mp ends
  obtain rfl := ends_echo.mp told
  simp only [still, ready.collectSources_makePlace] at writes
  obtain ⟨rfl, ok⟩ := of_ends_splitFiles ready.loads_makePlace (fun x => ready.new)
    ready.delivered writes
  exact ⟨ok, c₁.output, rfl⟩

theorem exists_ends (verbose : Bool) (tree : c.tree = t) {v : FileTree}
    (ok : (t.makePlace output).tree.deliverAll
      (plan source output load (collectSources t source)) = .ok v) :
    ∃ c', Ends (splitInto directory source output verbose) c () c' ∧ c'.tree = v := by
  subst tree
  have still := ((FileTree.Grows.refl c.tree).makePlace output).kinds source _ ready.isDirectory
  let made : Console := { c with tree := (c.tree.makePlace output).tree }
  let told : Console := { made with output := made.output
    ++ s!"Splitting {(collectSources c.tree source).length} file(s)..." ++ "\n" }
  have delivered : FileTree.Delivered (c.tree.makePlace output).tree [] told.tree :=
    ready.delivered
  obtain ⟨c₁, writes, same⟩ := exists_ends_splitFiles ready.loads_makePlace (fun x => ready.new)
    verbose delivered ok
  let last := doneLine (plan source output load (collectSources c.tree source)).length output
  refine ⟨{ c₁ with output := c₁.output ++ last ++ "\n" }, ?_, same⟩
  refine ends_bind.mpr ⟨(), made, ends_change.mpr ⟨ready.makable, rfl⟩, ?_⟩
  refine ends_bind.mpr ⟨made, made, ends_get.mpr ⟨rfl, rfl⟩, ?_⟩
  simp only [made, still, ready.collectSources_makePlace]
  refine ends_bind.mpr ⟨(), told, ends_echo.mpr rfl, ?_⟩
  exact ends_bind.mpr ⟨_, c₁, writes, ends_echo.mpr rfl⟩

end Ready

theorem dispatch_split (s : Setting) (words : List String) :
    dispatch s ("split" :: words) = (some "split", split s.directory words) :=
  rfl

section Program

variable {s : Setting} {words : List String} {a : Arguments}

def Setting.place (s : Setting) (a : Arguments) (key : String) : Location :=
  Workspace.resolve ⟨s.tree, s.directory⟩ ((a.value? key).getD "")

/-- The values that the words give to the options of the command, if it accepts them. -/
def Setting.splitArguments? (s : Setting) (words : List String) : Option Arguments :=
  ((checkedArguments s.directory splitOptions words).run.run s.console).1.toOption

theorem ends_checkedArguments (accepted : s.splitArguments? words = some a) :
    Ends (checkedArguments s.directory splitOptions words) s.console a s.console :=
  (silent_checkedArguments s.directory splitOptions words).ends accepted

theorem split_run_eq (accepted : s.splitArguments? words = some a) :
    (split s.directory words).run.run s.console =
      (splitInto s.directory (s.place a "source") (s.place a "output")
        (a.isOn "verbose")).run.run s.console := by
  unfold split
  rw [run_bind_of_ends (ends_checkedArguments accepted)]
  rfl

theorem run_split_eq (accepted : s.splitArguments? words = some a) : run s ("split" :: words) =
    conclude (some "split")
      ((splitInto s.directory (s.place a "source") (s.place a "output")
        (a.isOn "verbose")).run.run s.console).1
      ((splitInto s.directory (s.place a "source") (s.place a "output")
        (a.isOn "verbose")).run.run s.console).2 := by
  rw [← split_run_eq accepted, run, dispatch_split]
  rfl

theorem run_split_of_ends (accepted : s.splitArguments? words = some a)
    (ends : Ends (splitInto s.directory (s.place a "source") (s.place a "output")
      (a.isOn "verbose")) s.console u c') :
    run s ("split" :: words) = ⟨0, c'.output, c'.errors, none, c'.tree, c'.requests⟩ := by
  rw [run_split_eq accepted, ends]
  rfl

/-- Only a command that ends normally has exit code 0: this one never shows how it is called once
its options are accepted. -/
theorem exists_ends_of_exitCode (accepted : s.splitArguments? words = some a)
    (zero : (run s ("split" :: words)).exitCode = 0) :
    ∃ c', Ends (splitInto s.directory (s.place a "source") (s.place a "output")
      (a.isOn "verbose")) s.console () c' := by
  rw [run_split_eq accepted] at zero
  have noHelp := helpless_splitInto s.directory (s.place a "source") (s.place a "output")
    (a.isOn "verbose") s.console
  rcases result : (splitInto s.directory (s.place a "source") (s.place a "output")
    (a.isOn "verbose")).run.run s.console with ⟨outcome, c'⟩
  rw [result] at zero noHelp
  cases outcome with
  | ok done => exact ⟨c', result⟩
  | error failure =>
    cases failure with
    | help => exact absurd rfl (noHelp c')
    | _ => cases zero

/-- What the command is to leave behind: a file of its own for each of the planned documents, no
other file, and a last line that says how many there are. -/
structure Outcome.Delivers (outcome : Outcome) (output : Location)
    (planned : List (Location × String)) : Prop where
  exitCode : outcome.exitCode = 0
  reported : ∃ shown, outcome.output = shown ++ doneLine planned.length output ++ "\n"
  count : (outcome.tree.filesBelow output).length = planned.length
  content : ∀ x ∈ planned, outcome.tree.contentAt? x.1 = some (.text x.2)

theorem delivers_iff {load : Location → Loaded} (accepted : s.splitArguments? words = some a)
    (ready : Ready s.tree s.directory (s.place a "source") (s.place a "output") load) :
    let planned := plan (s.place a "source") (s.place a "output") load
      (collectSources s.tree (s.place a "source"))
    (run s ("split" :: words)).Delivers (s.place a "output") planned ↔
      (∀ x ∈ planned, Location.Fits x.1) ∧
        planned.Pairwise fun x y => Location.Apart x.1 y.1 := by
  intro planned
  refine Iff.trans ?_ (FileTree.deliverAll_apart_iff (ready.sound.makePlace _) ready.vacant
    fun _ => below_of_mem_plan)
  constructor
  · intro h
    obtain ⟨c', ends⟩ := exists_ends_of_exitCode accepted h.exitCode
    have outcome := run_split_of_ends accepted ends
    refine ⟨c'.tree, (ready.of_ends rfl ends).1, ?_, ?_⟩
    · simpa only [outcome] using h.count
    · simpa only [outcome] using h.content
  · rintro ⟨u, ok, count, content⟩
    obtain ⟨c', ends, rfl⟩ := ready.exists_ends (c := s.console) (a.isOn "verbose") rfl ok
    rw [run_split_of_ends accepted ends]
    exact ⟨rfl, (ready.of_ends rfl ends).2, count, content⟩

end Program

end Command

end OperationDocuments
