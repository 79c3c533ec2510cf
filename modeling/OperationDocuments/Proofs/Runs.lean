import Mathlib
import OperationDocuments.Command.Program

/-! # How runs end

A run of a command ends normally, with a value and the console it leaves behind, or it fails. A
sequence ends normally if its parts do, one after the other. -/
namespace OperationDocuments.Command

variable {α β : Type} {x : Run α} {f : α → Run β} {c c' : Console} {a : α} {b : β} {u : Unit}

/-- The run ends normally with this value, and leaves this console behind. -/
def Ends (x : Run α) (c : Console) (a : α) (c' : Console) : Prop := x.run.run c = (.ok a, c')

theorem run_bind (x : Run α) (f : α → Run β) (c : Console) : (x >>= f).run.run c =
    match x.run.run c with
    | (.ok a, c') => (f a).run.run c'
    | (.error e, c') => (.error e, c') := by
  show (ExceptT.bindCont f (x.run.run c).1).run (x.run.run c).2 = _
  rcases x.run.run c with ⟨result, c'⟩
  cases result <;> rfl

theorem run_bind_of_ends (h : Ends x c a c') : (x >>= f).run.run c = (f a).run.run c' := by
  rw [run_bind, h]

theorem run_bind_of_fails {e : Failure} (h : x.run.run c = (.error e, c')) :
    (x >>= f).run.run c = (.error e, c') := by
  rw [run_bind, h]

theorem run_bind_congr {g : α → Run β}
    (h : ∀ a c', Ends x c a c' → (f a).run.run c' = (g a).run.run c') :
    (x >>= f).run.run c = (x >>= g).run.run c := by
  rw [run_bind, run_bind]
  rcases result : x.run.run c with ⟨outcome, c'⟩
  cases outcome with
  | ok a => exact h a c' result
  | error e => rfl

theorem ends_bind : Ends (x >>= f) c b c' ↔ ∃ a c₁, Ends x c a c₁ ∧ Ends (f a) c₁ b c' := by
  unfold Ends
  rw [run_bind]
  rcases x.run.run c with ⟨result, c₁⟩
  cases result with
  | ok a =>
    constructor
    · exact fun h => ⟨a, c₁, rfl, h⟩
    · rintro ⟨_, _, ⟨⟩, h⟩
      exact h
  | error e =>
    constructor
    · intro h
      cases h
    · rintro ⟨_, _, h, -⟩
      cases h

theorem ends_pure {a' : α} : Ends (pure a : Run α) c a' c' ↔ a = a' ∧ c = c' := by
  constructor
  · rintro ⟨⟩
    exact ⟨rfl, rfl⟩
  · rintro ⟨rfl, rfl⟩
    rfl

theorem not_ends_throw {e : Failure} : ¬Ends (throw e : Run α) c a c' := nofun

theorem ends_get {seen : Console} : Ends get c seen c' ↔ c = seen ∧ c = c' := by
  constructor
  · rintro ⟨⟩
    exact ⟨rfl, rfl⟩
  · rintro ⟨rfl, rfl⟩
    rfl

theorem ends_modify {g : Console → Console} : Ends (modify g) c u c' ↔ g c = c' := by
  constructor
  · rintro ⟨⟩
    rfl
  · rintro rfl
    rfl

theorem ends_echo {line : String} : Ends (echo line) c u c' ↔
    { c with output := c.output ++ line ++ "\n" } = c' := ends_modify

theorem ends_ofFiles {y : Except FileError α} : Ends (ofFiles y) c a c' ↔
    y = .ok a ∧ c = c' := by
  unfold ofFiles
  cases y with
  | ok b => simp [ends_pure]
  | error e => simp [not_ends_throw]

theorem ends_onTree {g : FileTree → Except FileError FileTree} : Ends (onTree g) c u c' ↔
    ∃ t, g c.tree = .ok t ∧ { c with tree := t } = c' := by
  unfold onTree
  simp only [ends_bind, ends_get, ends_ofFiles, ends_modify]
  constructor
  · rintro ⟨_, _, ⟨rfl, rfl⟩, t, _, ⟨ok, rfl⟩, same⟩
    exact ⟨t, ok, same⟩
  · rintro ⟨t, ok, same⟩
    exact ⟨c, c, ⟨rfl, rfl⟩, t, c, ⟨ok, rfl⟩, same⟩

theorem ends_change {g : FileTree → FileTree.Changed} : Ends (change g) c u c' ↔
    (g c.tree).failure? = none ∧ { c with tree := (g c.tree).tree } = c' := by
  unfold change
  simp only [ends_bind, ends_get, ends_modify]
  constructor
  · rintro ⟨_, _, ⟨rfl, rfl⟩, _, _, rfl, last⟩
    cases failure : (g c.tree).failure? with
    | none =>
      rw [failure] at last
      exact ⟨rfl, (ends_pure.mp last).2⟩
    | some e =>
      rw [failure] at last
      exact absurd last not_ends_throw
  · rintro ⟨none, same⟩
    refine ⟨c, c, ⟨rfl, rfl⟩, (), _, rfl, ?_⟩
    rw [none]
    exact ends_pure.mpr ⟨rfl, same⟩

/-! ## Runs that only write to the outputs -/

/-- The run ends normally and changes nothing but the two outputs. -/
def Prints (x : Run Unit) : Prop :=
  ∀ c, ∃ output errors, Ends x c () { c with output := output, errors := errors }

theorem prints_pure : Prints (pure ()) := fun c => ⟨c.output, c.errors, ends_pure.mpr ⟨rfl, rfl⟩⟩

theorem prints_echo (line : String) : Prints (echo line) :=
  fun c => ⟨c.output ++ line ++ "\n", c.errors, ends_echo.mpr rfl⟩

theorem prints_complain (line : String) : Prints (complain line) :=
  fun c => ⟨c.output, c.errors ++ line ++ "\n", ends_modify.mpr rfl⟩

theorem Prints.bind {x : Run Unit} {f : Unit → Run Unit} (h : Prints x) (k : Prints (f ())) :
    Prints (x >>= f) := by
  intro c
  obtain ⟨_, _, first⟩ := h c
  obtain ⟨output, errors, later⟩ := k _
  exact ⟨output, errors, ends_bind.mpr ⟨_, _, first, later⟩⟩

theorem prints_forM {γ : Type} {items : List γ} {f : γ → Run Unit} (h : ∀ item, Prints (f item)) :
    Prints (items.forM f) := by
  induction items with
  | nil => exact prints_pure
  | cons item items ih => exact (h item).bind ih

theorem prints_log (verbose : Bool) (events : List Event) : Prints (log verbose events) := by
  refine prints_forM fun e => ?_
  split
  · cases e.line? with
    | none => exact prints_pure
    | some line => exact prints_complain line
  · split
    · exact prints_complain e.message
    · exact prints_pure

/-- Two ways in which one run ends are the same. -/
theorem Ends.unique {a' : α} {c₁ : Console} (h : Ends x c a c') (k : Ends x c a' c₁) :
    a = a' ∧ c' = c₁ := by
  cases h.symm.trans k
  exact ⟨rfl, rfl⟩

theorem Prints.tree_eq {x : Run Unit} (h : Prints x) (k : Ends x c u c') : c'.tree = c.tree := by
  obtain ⟨output, errors, ends⟩ := h c
  rw [(k.unique ends).2]

/-! ## Loading -/

theorem exists_ends_loading {ε : Type} {failure : ε → Failure} {y : Loading ε α} (verbose : Bool)
    (h : y.Returns a) (c : Console) :
    ∃ c', Ends (loading verbose failure y) c a c' ∧ c'.tree = c.tree := by
  obtain ⟨output, errors, logged⟩ := prints_log verbose y.outcome.1 c
  refine ⟨{ c with output := output, errors := errors },
    ends_bind.mpr ⟨_, _, logged, ?_⟩, rfl⟩
  unfold Loading.Returns at h
  rw [h]
  exact ends_pure.mpr ⟨rfl, rfl⟩

theorem returns_of_ends_loading {ε : Type} {failure : ε → Failure} {y : Loading ε α}
    {verbose : Bool} (h : Ends (loading verbose failure y) c a c') : y.Returns a := by
  obtain ⟨_, c₁, -, last⟩ := ends_bind.mp h
  unfold Loading.Returns
  cases result : y.outcome.2 with
  | ok b =>
    rw [result] at last
    rw [(ends_pure.mp last).1]
  | error e =>
    rw [result] at last
    exact absurd last not_ends_throw

theorem exists_ends_loadFile {directory : Location} {path : String} {l : Loaded} (verbose : Bool)
    (h : ((Loader.ofWorkspace ⟨c.tree, directory⟩).loadFile ⟨c.tree, directory⟩ path).Returns l) :
    ∃ c', Ends (loadFile directory verbose path) c l c' ∧ c'.tree = c.tree := by
  obtain ⟨c', ends, same⟩ := exists_ends_loading verbose h c
  exact ⟨c', ends_bind.mpr ⟨c, c, ends_get.mpr ⟨rfl, rfl⟩, ends⟩, same⟩

theorem of_ends_loadFile {directory : Location} {verbose : Bool} {path : String} {l : Loaded}
    (h : Ends (loadFile directory verbose path) c l c') :
    ((Loader.ofWorkspace ⟨c.tree, directory⟩).loadFile ⟨c.tree, directory⟩ path).Returns l ∧
      c'.tree = c.tree := by
  obtain ⟨_, _, seen, loads⟩ := ends_bind.mp h
  obtain ⟨rfl, rfl⟩ := ends_get.mp seen
  have returned := returns_of_ends_loading loads
  obtain ⟨c₁, ends, same⟩ := exists_ends_loadFile verbose returned
  rw [(h.unique ends).2]
  exact ⟨returned, same⟩

/-! ## Runs that never ask for help -/

/-- The run does not end with how the command is called. -/
def Helpless (x : Run α) : Prop := ∀ c c', x.run.run c ≠ (.error .help, c')

theorem Helpless.bind (h : Helpless x) (k : ∀ a, Helpless (f a)) : Helpless (x >>= f) := by
  intro c c'
  rw [run_bind]
  rcases result : x.run.run c with ⟨outcome, c₁⟩
  cases outcome with
  | ok a => exact k a c₁ c'
  | error e =>
    rintro ⟨⟩
    exact h c c' result

theorem Prints.helpless {x : Run Unit} (h : Prints x) : Helpless x := by
  intro c c' k
  obtain ⟨output, errors, ends⟩ := h c
  cases k.symm.trans ends

theorem helpless_pure (a : α) : Helpless (pure a : Run α) := nofun

theorem helpless_get : Helpless (get : Run Console) := nofun

theorem helpless_modify (g : Console → Console) : Helpless (modify g : Run Unit) := nofun

theorem helpless_throw {e : Failure} (h : e ≠ .help) : Helpless (throw e : Run α) := by
  rintro c c' ⟨⟩
  exact h rfl

theorem helpless_onTree (g : FileTree → Except FileError FileTree) : Helpless (onTree g) := by
  refine helpless_get.bind fun c => Helpless.bind ?_ fun t => helpless_modify _
  cases g c.tree with
  | ok t => exact helpless_pure t
  | error e => exact helpless_throw nofun

theorem helpless_change (g : FileTree → FileTree.Changed) : Helpless (change g) := by
  refine helpless_get.bind fun c => (helpless_modify _).bind fun _ => ?_
  cases (g c.tree).failure? with
  | none => exact helpless_pure ()
  | some e => exact helpless_throw nofun

theorem helpless_loading {ε : Type} {failure : ε → Failure} (h : ∀ e, failure e ≠ .help)
    (verbose : Bool) (y : Loading ε α) : Helpless (loading verbose failure y) := by
  refine (prints_log verbose _).helpless.bind fun _ => ?_
  cases y.outcome.2 with
  | ok a => exact helpless_pure a
  | error e => exact helpless_throw (h e)

theorem helpless_loadFile (directory : Location) (verbose : Bool) (path : String) :
    Helpless (loadFile directory verbose path) := by
  refine helpless_get.bind fun c => helpless_loading (fun e => ?_) verbose _
  cases e <;> nofun

theorem helpless_forM {γ : Type} {items : List γ} {f : γ → Run Unit}
    (h : ∀ item, Helpless (f item)) : Helpless (items.forM f) := by
  induction items with
  | nil => exact helpless_pure ()
  | cons item items ih => exact (h item).bind fun _ => ih

/-! ## Runs that change nothing -/

/-- The run leaves the console as it is, also if it fails. -/
def Silent (x : Run α) : Prop := ∀ c, (x.run.run c).2 = c

theorem silent_pure (a : α) : Silent (pure a : Run α) := fun _ => rfl

theorem silent_throw (e : Failure) : Silent (throw e : Run α) := fun _ => rfl

theorem silent_get : Silent (get : Run Console) := fun _ => rfl

theorem Silent.bind (h : Silent x) (k : ∀ a, Silent (f a)) : Silent (x >>= f) := by
  intro c
  have same := h c
  rw [run_bind]
  rcases result : x.run.run c with ⟨outcome, c₁⟩
  rw [result] at same
  cases outcome with
  | ok a => exact (k a c₁).trans same
  | error e => exact same

theorem Silent.ends (h : Silent x) (ok : (x.run.run c).1.toOption = some a) : Ends x c a c := by
  have same := h c
  unfold Ends
  rcases result : x.run.run c with ⟨outcome, c₁⟩
  rw [result] at same ok
  cases outcome with
  | ok b =>
    cases ok
    exact congrArg (Prod.mk _) same
  | error e => cases ok

theorem silent_forM {γ : Type} {items : List γ} {f : γ → Run Unit} (h : ∀ item, Silent (f item)) :
    Silent (items.forM f) := by
  induction items with
  | nil => exact silent_pure ()
  | cons item items ih => exact (h item).bind fun _ => ih

theorem silent_throw_bind (e : Failure) (f : α → Run β) : Silent (throw e >>= f) := fun _ => rfl

theorem silent_checkPath (directory : Location) (spec : OptionSpec) (rule : ValueRule)
    (value : String) : Silent (checkPath directory spec rule value) := by
  unfold checkPath
  extract_lets kind look
  have silent_look : ∀ u, Silent (look u) := by
    refine fun _ => silent_get.bind fun c => ?_
    -- every branch passes or refuses, which both leave the console alone
    split <;> exact fun _ => rfl
  split
  · exact silent_throw_bind _ _
  · exact silent_look ()

theorem silent_checkOption (directory : Location) (a : Arguments) (o : CommandOption) :
    Silent (checkOption directory a o) := by
  have value : ∀ text, Silent (checkValue directory o.spec o.rule text) := by
    intro text
    unfold checkValue
    split
    · exact silent_pure ()
    · split
      · exact silent_pure ()
      · exact silent_throw _
    · exact silent_checkPath directory o.spec _ text
  unfold checkOption
  split
  · exact silent_pure ()
  split
  · exact value _
  · exact value _
  · split
    · exact silent_throw _
    · exact silent_pure ()

theorem silent_checkedArguments (directory : Location) (options : List CommandOption)
    (words : List String) : Silent (checkedArguments directory options words) := by
  unfold checkedArguments
  split
  · exact silent_throw _
  · exact silent_throw _
  next a _ =>
    extract_lets given missing last check
    have silent_check : ∀ u, Silent (check u) := by
      refine fun _ => (silent_forM fun o => silent_checkOption directory a o).bind fun _ => ?_
      split
      · exact silent_throw_bind _ _
      · exact silent_pure a
    split
    · exact silent_throw_bind _ _
    · exact silent_check ()

end OperationDocuments.Command
