import Mathlib
import OperationDocuments.Proofs.Load
import OperationDocuments.Proofs.NormalPaths

/-! # Open modules

While a module is loaded it is open. Every way to end closes what was opened, and what is open at
one time is bounded. -/
namespace OperationDocuments

/-! ## Opening and closing

Loading opens a module only if it is not open, and closes it again before anything else happens
to the modules below it, whether its text could be loaded or not. The events of a load are
therefore nested, and a request leaves open what it found open. A loader that was asked for
things before answers as one that was not. -/

/-- Events that begin and end with the modules in `stack` open. A module that is opened is allowed
to be, is not open yet, and is the one that is closed next. -/
inductive Nested (allowed : String → Prop) : List String → List Event → Prop where
  | nil (stack) : Nested allowed stack []
  | report {stack e more} : e.isQuiet = true → Nested allowed stack more →
      Nested allowed stack (e :: more)
  | around {stack key inner more} : allowed key → key ∉ stack →
      Nested allowed (stack ++ [key]) inner → Nested allowed stack more →
      Nested allowed stack (.opened key :: (inner ++ .closed key :: more))

variable {allowed : String → Prop} {stack : List String}

theorem Nested.append {events more : List Event} (h : Nested allowed stack events)
    (k : Nested allowed stack more) : Nested allowed stack (events ++ more) := by
  induction h with
  | nil => exact k
  | report quiet _ ih => exact .report quiet (ih k)
  | @around stack key inner rest fits closed body _ _ ih =>
    have reassociated : .opened key :: (inner ++ .closed key :: rest) ++ more =
        .opened key :: (inner ++ .closed key :: (rest ++ more)) := by simp
    rw [reassociated]
    exact .around fits closed body (ih k)

theorem nested_of_quiet {events : List Event} (h : ∀ e ∈ events, e.isQuiet = true) :
    Nested allowed stack events := by
  induction events with
  | nil => exact .nil stack
  | cons e more ih =>
    exact .report (h e List.mem_cons_self) (ih fun x hx => h x (List.mem_cons_of_mem e hx))

theorem Nested.restores {events : List Event} (h : Nested allowed stack events) :
    openModules stack events = stack := by
  induction h with
  | nil => rfl
  | @report stack e more quiet _ ih =>
    have one : openModules stack [e] = stack :=
      openModules_of_quiet (fun x hx => List.mem_singleton.mp hx ▸ quiet) stack
    have split : e :: more = [e] ++ more := rfl
    rw [split, openModules_append, one, ih]
  | @around stack key inner more _ _ _ _ body rest =>
    rw [openModules, openModules_append, body, openModules, List.dropLast_concat, rest]

namespace Loading

variable {ε ε' α β : Type} {x : Loading ε α}

def NestedIn (allowed : String → Prop) (stack : List String) (x : Loading ε α) : Prop :=
  Nested allowed stack x.outcome.1

theorem nestedIn_pure (a : α) : NestedIn allowed stack (pure a : Loading ε α) := .nil stack

theorem nestedIn_throw (e : ε) : NestedIn allowed stack (throw e : Loading ε α) := .nil stack

theorem nestedIn_ofExcept (x : Except ε α) : NestedIn allowed stack (ofExcept x) := .nil stack

theorem nestedIn_lift {x : Logged α} (h : x.Quiet) :
    NestedIn allowed stack (ExceptT.lift x : Loading ε α) :=
  nested_of_quiet (Logged.quiet_bind h (Logged.quiet_pure _))

theorem nestedIn_bind {f : α → Loading ε β} (hx : x.NestedIn allowed stack)
    (hf : ∀ a, x.Returns a → (f a).NestedIn allowed stack) : (x >>= f).NestedIn allowed stack := by
  unfold NestedIn
  rw [events_bind]
  refine Nested.append hx ?_
  split
  · next a ha => exact hf a ha
  · exact .nil stack

theorem nestedIn_adapt (f : ε → ε') (h : x.NestedIn allowed stack) :
    NestedIn allowed stack (ExceptT.adapt f x : Loading ε' α) := by
  unfold NestedIn
  rw [outcome_adapt]
  exact h

end Loading

namespace Import

theorem quiet_uniqueFragments (seen : List String) (definitions : List Definition) :
    (uniqueFragments seen definitions).Quiet := by
  fun_induction uniqueFragments seen definitions with
  | case1 seen => exact Logged.quiet_pure _
  | case2 seen f more known ih => exact Logged.quiet_bind (Logged.quiet_report rfl) ih
  | case3 seen f more new ih => exact Logged.quiet_bind ih (Logged.quiet_pure _)
  | case4 seen x more other ih => exact ih

theorem quiet_reportCollisions (localNames : List String) (reference : String)
    (fragments : List Fragment) : (reportCollisions localNames reference fragments).Quiet := by
  induction fragments with
  | nil => exact Logged.quiet_pure _
  | cons f more ih =>
    rw [reportCollisions]
    split
    · exact Logged.quiet_bind (Logged.quiet_report rfl) ih
    · exact ih

open Loading in
theorem nestedIn_mergeFrom {resolve : String → Loading LoadError Document}
    (h : ∀ reference, (resolve reference).NestedIn allowed stack)
    (localNames seen references : List String) :
    (mergeFrom resolve localNames seen references).NestedIn allowed stack := by
  induction references generalizing seen with
  | nil => exact nestedIn_pure _
  | cons reference more ih =>
    refine nestedIn_bind (h reference) fun imported _ => ?_
    refine nestedIn_bind (nestedIn_lift (quiet_uniqueFragments seen _)) fun kept _ => ?_
    refine nestedIn_bind (nestedIn_lift (quiet_reportCollisions localNames reference _))
      fun _ _ => ?_
    refine nestedIn_bind (nestedIn_lift (Logged.quiet_report rfl)) fun _ _ => ?_
    exact nestedIn_bind (ih kept.2) fun _ _ => nestedIn_pure _

open Loading in
theorem nestedIn_expand {resolve : String → Loading LoadError Document}
    (h : ∀ reference, (resolve reference).NestedIn allowed stack) (text : String) (d : Document) :
    (expand text d resolve).NestedIn allowed stack := by
  unfold expand
  refine nestedIn_bind (nestedIn_ofExcept _) fun references _ => ?_
  split
  · exact nestedIn_pure d
  · exact nestedIn_bind (nestedIn_mergeFrom h _ [] references) fun _ _ => nestedIn_pure _

end Import

theorem Document.quiet_separateInto (d : Document) (map : ReferenceMap)
    (done : Assoc String Document) (name : String) : (d.separateInto map done name).Quiet := by
  unfold separateInto
  split
  · exact Logged.quiet_pure _
  · exact Logged.quiet_bind (Logged.quiet_report rfl) (Logged.quiet_pure _)

theorem Document.quiet_separateAll (d : Document) : d.separateAll.Quiet := by
  have all : ∀ (names : List String) (done : Assoc String Document),
      (names.foldlM (d.separateInto d.referenceMap) done).Quiet := by
    intro names
    induction names with
    | nil => exact fun done => Logged.quiet_pure _
    | cons name more ih =>
      intro done
      rw [List.foldlM_cons]
      exact Logged.quiet_bind (d.quiet_separateInto _ done name) (ih _)
  exact all d.operationNames []

theorem Document.quiet_split {d : Document} {source : Option String}
    {parts : Logged (Assoc String Document)} (h : d.split source = .ok parts) : parts.Quiet := by
  rcases split_eq_ok_iff.mp h with ⟨-, rfl⟩ | ⟨-, -, rfl⟩
  · exact Logged.quiet_pure _
  · exact d.quiet_separateAll

open Loading in
theorem Resolver.nestedIn_load {resolve : Resolver}
    (h : ∀ reference origin, (resolve reference origin).NestedIn allowed stack) (text : String)
    (name : Option String) : (resolve.load text name).NestedIn allowed stack := by
  unfold load
  refine nestedIn_bind (nestedIn_ofExcept _) fun parsed _ => ?_
  refine nestedIn_bind (nestedIn_ofExcept _) fun _ _ => ?_
  refine nestedIn_bind (Import.nestedIn_expand (fun reference => h reference name) text parsed)
    fun document _ => ?_
  refine nestedIn_bind (nestedIn_ofExcept _) fun parts split => ?_
  have named := mapError_eq_ok_iff.mp (returns_ofExcept.mp split)
  refine nestedIn_bind (nestedIn_lift (Document.quiet_split named)) fun operations _ => ?_
  refine nestedIn_bind (nestedIn_ofExcept _) fun imports _ => ?_
  exact nestedIn_bind (nestedIn_lift (Logged.quiet_report rfl)) fun _ _ => nestedIn_pure _

namespace Modules

variable {m : Modules}

def Target (m : Modules) (key : String) : Prop :=
  ∃ reference origin known, m.locate reference origin = .ok ⟨key, known⟩

theorem nestedIn_whileOpen {α : Type} {key : String} {x : Loading LoadError α}
    (fits : allowed key) (closed : key ∉ stack) (h : x.NestedIn allowed (stack ++ [key])) :
    (whileOpen key x).NestedIn allowed stack := by
  have events : (whileOpen key x).outcome.1 = .opened key :: (x.outcome.1 ++ [.closed key]) := by
    simp [whileOpen, Loading.outcome, ExceptT.mk, ExceptT.run, bind, pure, Logged.report]
  unfold Loading.NestedIn
  rw [events]
  exact .around fits closed h (.nil stack)

open Loading in
theorem nestedIn_resolveUsing (quiet : ∀ reference key, (m.announce reference key).Quiet)
    {read : (key : String) → key ∈ m.keys → ¬key ∈ stack → String → Loading LoadError Document}
    (h : ∀ key known closed text, (read key known closed text).NestedIn m.Target (stack ++ [key]))
    (reference : String) (origin : Option String) :
    (m.resolveUsing stack read reference origin).NestedIn m.Target stack := by
  unfold resolveUsing
  refine nestedIn_bind (nestedIn_ofExcept _) ?_
  rintro ⟨key, known⟩ located
  have target : m.Target key := ⟨reference, origin, known, returns_ofExcept.mp located⟩
  by_cases closed : key ∈ stack
  · simp only [closed, dif_pos]
    exact nestedIn_throw _
  · simp only [closed, dif_neg, not_false_iff]
    refine nestedIn_bind (nestedIn_lift (quiet reference key)) fun _ _ => ?_
    refine nestedIn_whileOpen target closed (nestedIn_adapt _ ?_)
    exact nestedIn_bind (nestedIn_ofExcept _) fun text _ => h key known closed text

theorem nestedIn_loadWithin (quiet : ∀ reference key, (m.announce reference key).Quiet)
    (stack : List String) (text : String) (name : Option String) :
    (m.loadWithin stack text name).NestedIn m.Target stack := by
  induction stack, text, name using loadWithin.induct m with
  | case1 stack text name ih =>
    rw [loadWithin_eq]
    -- every reference opens a module that is not open yet; `ih` is about its load
    refine Resolver.nestedIn_load (fun reference origin => ?_) text name
    refine nestedIn_resolveUsing quiet (fun key known closed text => ?_) reference origin
    exact Loading.nestedIn_bind (ih key known closed text) fun _ _ => Loading.nestedIn_pure _

theorem nestedIn_resolveWithin (quiet : ∀ reference key, (m.announce reference key).Quiet)
    (stack : List String) (reference : String) (origin : Option String) :
    (m.resolveWithin stack reference origin).NestedIn m.Target stack :=
  nestedIn_resolveUsing quiet (fun key _ _ text =>
    Loading.nestedIn_bind (nestedIn_loadWithin quiet (stack ++ [key]) text (some key))
      fun _ _ => Loading.nestedIn_pure _) reference origin

end Modules

theorem ImportSource.quiet_announce (imports : ImportSource) (w : Workspace)
    (reference key : String) : ((imports.modules w).announce reference key).Quiet := by
  cases imports with
  | table texts => exact Logged.quiet_pure _
  | files root => exact Logged.quiet_report rfl

namespace Loading

variable {ε α β : Type} {x : Loading ε α}

/-- A computation that leaves open what it found open. -/
def Restores (stack : List String) (x : Loading ε α) : Prop :=
  openModules stack x.outcome.1 = stack

theorem restores_bind {f : α → Loading ε β} (hx : x.Restores stack)
    (hf : ∀ a, (f a).Restores stack) : (x >>= f).Restores stack := by
  unfold Restores
  rw [events_bind, openModules_append, hx]
  split
  · exact hf _
  · rfl

end Loading

namespace Session

open Loading

variable (s : Session) (w : Workspace)

theorem restores_load (text : String) (name : Option String) :
    (s.load w text name).Restores s.stack := by
  have nested := Resolver.nestedIn_load (Modules.nestedIn_resolveWithin
    (s.imports.quiet_announce w) s.stack) text name
  exact restores_bind nested.restores fun loaded => s.hook.restores loaded s.stack

theorem restores_serve (r : Request) : (s.serve w r).Restores s.stack := by
  cases r with
  | load text name => exact restores_bind (s.restores_load w text name) fun _ => rfl
  | loadFile path =>
    refine restores_bind rfl fun text => ?_
    exact restores_bind (s.restores_load w text (some path)) fun _ => rfl
  | resolve reference origin =>
    have nested := Modules.nestedIn_resolveWithin (s.imports.quiet_announce w) s.stack
      reference origin
    exact restores_bind nested.restores fun _ => rfl

theorem ask_snd (r : Request) : (s.ask w r).2 = s := by
  have unchanged : openModules s.stack (s.serve w r).outcome.1 = s.stack := s.restores_serve w r
  show { s with stack := openModules s.stack (s.serve w r).outcome.1 } = s
  rw [unchanged]

theorem after_eq (requests : List (Workspace × Request)) : s.after requests = s := by
  induction requests with
  | nil => rfl
  | cons request more ih =>
    have first := s.ask_snd request.1 request.2
    rw [after, List.foldl_cons, first]
    exact ih

/-- After any requests, each with the files of its own moment, no module is open, and the next
request ends as it does for a loader that was never asked for anything. -/
theorem ask_after_eq_ask_fresh (imports : ImportSource) (hook : LoadHook)
    (requests : List (Workspace × Request)) (w : Workspace) (r : Request) :
    let fresh : Session := { imports, hook }
    (fresh.after requests).stack = [] ∧
      ((fresh.after requests).ask w r).1 = (fresh.ask w r).1 ∧
      ((fresh.after requests).ask w r).2.stack = [] := by
  intro fresh
  rw [fresh.after_eq requests, fresh.ask_snd w r]
  exact ⟨rfl, rfl, rfl⟩

/-- A module that was left open would be taken for a cycle. -/
example :
    let leftOpen : Session :=
      { (Loader.session ⟨.table [("f", "fragment F on T { x }")], []⟩) with stack := ["f"] }
    (leftOpen.serve ⟨.empty, []⟩ (.resolve "f" none)).outcome =
      ([], .error (.cycle ["f", "f"])) := by rfl

end Session

end OperationDocuments

namespace OperationDocuments

/-! ## How deep imports nest

The modules that are open at a moment of a load are different from each other. Over a table they
are keys of it, over files they are normal paths, however the references spell them, so that their
number is bounded by what there is to import. Hence following imports ends even where nothing but
the rules for references stops it. -/

variable {allowed : String → Prop} {stack : List String} {events past : List Event}

/-- At every moment, the modules that were opened since are allowed, and different from each other
and from those below. -/
theorem Nested.exists_openModules_eq (h : Nested allowed stack events) (distinct : stack.Nodup)
    (begun : past <+: events) : ∃ opened, openModules stack past = stack ++ opened ∧
      (∀ key ∈ opened, allowed key) ∧ (stack ++ opened).Nodup := by
  have untouched : ∀ {stack : List String}, stack.Nodup → ∃ opened,
      openModules stack [] = stack ++ opened ∧ (∀ key ∈ opened, allowed key) ∧
      (stack ++ opened).Nodup := by
    intro stack distinct
    exact ⟨[], by simp [openModules], by simp, by simpa using distinct⟩
  induction h generalizing past with
  | nil stack =>
    rw [List.prefix_nil.mp begun]
    exact untouched distinct
  | @report stack e more quiet _ ih =>
    rcases List.prefix_cons_iff.mp begun with rfl | ⟨rest, rfl, later⟩
    · exact untouched distinct
    · have one : openModules stack [e] = stack :=
        openModules_of_quiet (fun x hx => List.mem_singleton.mp hx ▸ quiet) stack
      have split : e :: rest = [e] ++ rest := rfl
      rw [split, openModules_append, one]
      exact ih distinct later
  | @around stack key inner more fits closed body _ ihInner ihMore =>
    rcases List.prefix_cons_iff.mp begun with rfl | ⟨rest, rfl, later⟩
    · exact untouched distinct
    have distinct' : (stack ++ [key]).Nodup := by
      refine List.nodup_append.mpr ⟨distinct, List.nodup_singleton key, ?_⟩
      rintro a among b last rfl
      exact closed (List.mem_singleton.mp last ▸ among)
    rcases List.prefix_or_prefix_of_prefix later (List.prefix_append inner _) with
      inside | ⟨after, rfl⟩
    · obtain ⟨opened, there, fit, apart⟩ := ihInner distinct' inside
      refine ⟨key :: opened, by simpa [openModules] using there, ?_, by simpa using apart⟩
      exact List.forall_mem_cons.mpr ⟨fits, fit⟩
    · have back : openModules (stack ++ [key]) inner = stack ++ [key] := body.restores
      have behind := (List.prefix_append_right_inj inner).mp later
      rcases List.prefix_cons_iff.mp behind with rfl | ⟨rest, rfl, beyond⟩
      · exact ⟨[key], by simpa [openModules] using back, by simpa using fits, distinct'⟩
      · rw [openModules, openModules_append, back, openModules, List.dropLast_concat]
        exact ihMore distinct beyond

/-! ### What can be open -/

namespace ImportSource

variable {s : ImportSource} {w : Workspace} {reference key : String} {origin : Option String}

def Rooted : ImportSource → Prop
  | .table _ => True
  | .files root => Path.isAbsolute root = true

/-- The keys of a table, or the normal paths that lead to files. -/
def entries (s : ImportSource) (w : Workspace) : Set String :=
  match s with
  | .table texts => {key | key ∈ Assoc.keys texts}
  | .files _ => {path | Path.isAbsolute path = true ∧ Path.normalize path = path ∧
      w.isFile path = true}

theorem finite_entries (s : ImportSource) (w : Workspace) : (s.entries w).Finite := by
  cases s with
  | table texts => exact List.finite_toSet (Assoc.keys texts)
  | files root =>
    refine (List.finite_toSet w.filePaths).subset ?_
    rintro path ⟨absolute, normal, file⟩
    have among := Workspace.normalize_mem_filePaths absolute file
    rwa [normal] at among

def locate (s : ImportSource) (w : Workspace) (reference : String) (origin : Option String) :
    Except LoadError String :=
  match s with
  | .table texts =>
    if Assoc.contains texts reference then .ok reference
    else .error (.unresolved reference none)
  | .files root =>
    let path := w.importPath root reference origin
    if w.isFile path then .ok path
    else .error (.unresolved reference (some (match origin with
      | none => root
      | some name => if name = "" then root else name)))

theorem locate_eq (s : ImportSource) (w : Workspace) (reference : String)
    (origin : Option String) :
    s.locate w reference origin = ((s.modules w).locate reference origin).map Subtype.val := by
  cases s with
  | table texts =>
    have known : Assoc.contains texts reference = true ↔ reference ∈ Assoc.keys texts := by
      rw [Assoc.contains, Option.isSome_iff_ne_none, ne_eq, Assoc.find?_eq_none_iff, not_not]
    by_cases h : reference ∈ Assoc.keys texts
    · simp [locate, modules, Modules.ofTable, known, h, Except.map]
    · simp [locate, modules, Modules.ofTable, known, h, Except.map]
  | files root =>
    by_cases file : w.isFile (w.importPath root reference origin) = true
    · have known := Workspace.importPath_mem_paths file
      simp [locate, modules, Modules.ofFiles, file, known, Except.map]
    · cases origin <;> simp [locate, modules, Modules.ofFiles, file, Except.map]

-- from a relative place, a file is found under a relative path
example : (((ImportSource.files "../p").modules
    ⟨⟨[(["p", "g"], .text "fragment G on T { x }")], [["p"], ["q"]]⟩, ["q"]⟩).locate "g" none).map
      Subtype.val = .ok "../p/g" := by
  rw [← ImportSource.locate_eq]
  rfl

theorem mem_entries_of_locate (rooted : s.Rooted)
    (h : s.locate w reference origin = .ok key) : key ∈ s.entries w := by
  cases s with
  | table texts =>
    simp only [locate] at h
    split at h
    · next found =>
      cases h
      obtain ⟨text, found⟩ := Option.isSome_iff_exists.mp found
      exact Assoc.mem_keys_of_find? found
    · cases h
  | files root =>
    simp only [locate] at h
    split at h
    · next file =>
      cases h
      exact ⟨Workspace.isAbsolute_importPath w reference origin rooted,
        Workspace.normalize_importPath w reference origin rooted, file⟩
    · cases h

theorem mem_entries_of_target (rooted : s.Rooted) (h : (s.modules w).Target key) :
    key ∈ s.entries w := by
  obtain ⟨reference, origin, known, located⟩ := h
  have leads : s.locate w reference origin = .ok key := by
    rw [locate_eq, located]
    rfl
  exact mem_entries_of_locate rooted leads

/-! ### Following imports to a depth -/

/-- Loads a text whose importers are the modules in `stack`. Imports are followed to a depth;
below it, `beyond` is done. -/
def loadTo (s : ImportSource) (w : Workspace) (beyond : Loading LoadError Loaded) :
    (depth : Nat) → (stack : List String) → (text : String) → (name : Option String) →
      Loading LoadError Loaded
  | 0, _, _, _ => beyond
  | depth + 1, stack, text, name =>
    Resolver.load (fun reference origin => do
      let key ← Loading.ofExcept (s.locate w reference origin)
      if key ∈ stack then throw (.cycle (stack ++ [key]))
      else
        ExceptT.lift ((s.modules w).announce reference key)
        Modules.whileOpen key <| ExceptT.adapt (LoadError.ofImport reference) do
          let text ← Loading.ofExcept ((s.modules w).text key)
          return (← s.loadTo w beyond depth (stack ++ [key]) text (some key)).document) text name

/-- No load comes to a depth at which all that can be open is open. -/
theorem loadTo_eq (rooted : s.Rooted) (w : Workspace) (beyond : Loading LoadError Loaded)
    (depth : Nat) (stack : List String) (text : String) (name : Option String)
    (deep : (s.entries w \ {key | key ∈ stack}).ncard < depth) :
    s.loadTo w beyond depth stack text name = (s.modules w).loadWithin stack text name := by
  induction depth generalizing stack text name with
  | zero => exact absurd deep (Nat.not_lt_zero _)
  | succ depth ih =>
    rw [loadTo, Modules.loadWithin_eq]
    congr 1
    funext reference origin
    rw [Modules.resolveWithin_eq, ← locate_eq]
    cases located : s.locate w reference origin with
    | error e => rw [Loading.ofExcept_error_bind, Loading.ofExcept_error_bind]
    | ok key =>
      simp only [Loading.ofExcept_ok_bind]
      by_cases opened : key ∈ stack
      · simp only [opened, if_true]
      · have entry := mem_entries_of_locate rooted located
        have fewer : (s.entries w \ {other | other ∈ stack ++ [key]}).ncard <
            (s.entries w \ {other | other ∈ stack}).ncard := by
          refine Set.ncard_lt_ncard ?_ ((finite_entries s w).subset Set.sdiff_subset)
          refine ⟨fun other h => ⟨h.1, fun among => h.2 (List.mem_append_left _ among)⟩, fun h => ?_⟩
          exact (h ⟨entry, opened⟩).2 (by simp)
        have below : ∀ text, s.loadTo w beyond depth (stack ++ [key]) text (some key) =
            (s.modules w).loadWithin (stack ++ [key]) text (some key) := by
          intro text
          exact ih (stack ++ [key]) text (some key) (by omega)
        simp only [opened, if_false, below]

end ImportSource

def Loader.loadTo (l : Loader) (w : Workspace) (beyond : Loading LoadError Loaded) (depth : Nat)
    (text : String) (name : Option String) : Loading LoadError Loaded := do
  let loaded ← l.imports.loadTo w beyond depth [] text name
  ExceptT.lift (OperationFilter.applyAll l.filters loaded)

namespace Loader

variable {l : Loader} {w : Workspace}

theorem nestedIn_serve (w : Workspace) (r : Session.Request) :
    (l.session.serve w r).NestedIn (l.imports.modules w).Target [] := by
  have resolves := Modules.nestedIn_resolveWithin (l.imports.quiet_announce w) []
  have filtered : ∀ loaded, Loading.NestedIn (l.imports.modules w).Target []
      (l.session.hook.apply loaded) := fun loaded =>
    Loading.nestedIn_lift (OperationFilter.quiet_applyAll l.filters loaded)
  have loads : ∀ text name, (l.session.load w text name).NestedIn (l.imports.modules w).Target [] :=
    fun text name => Loading.nestedIn_bind (Resolver.nestedIn_load resolves text name)
      fun loaded _ => filtered loaded
  cases r with
  | load text name => exact Loading.nestedIn_bind (loads text name) fun _ _ =>
      Loading.nestedIn_pure _
  | loadFile path =>
    refine Loading.nestedIn_bind (Loading.nestedIn_ofExcept _) fun text _ => ?_
    exact Loading.nestedIn_bind (loads text (some path)) fun _ _ => Loading.nestedIn_pure _
  | resolve reference origin =>
    exact Loading.nestedIn_bind (resolves reference origin) fun _ _ => Loading.nestedIn_pure _

theorem loadTo_eq_load (rooted : l.imports.Rooted) (w : Workspace)
    (beyond : Loading LoadError Loaded) (text : String) (name : Option String) :
    l.loadTo w beyond ((l.imports.entries w).ncard + 1) text name = l.load w text name := by
  have deep : (l.imports.entries w \ {key | key ∈ ([] : List String)}).ncard <
      (l.imports.entries w).ncard + 1 := by
    simp
  rw [loadTo, ImportSource.loadTo_eq rooted w beyond _ [] text name deep, Modules.loadWithin_eq]
  rfl

/-- At every moment of a call, the open modules are different entries of what there is to import,
so that no more of them are open than there are. A load is decided within this depth: whatever
would be done below it, the load is the same. -/
theorem nesting_bounded (l : Loader) (w : Workspace) (rooted : l.imports.Rooted) :
    (l.imports.entries w).Finite ∧
    (∀ (r : Session.Request) (past : List Event), past <+: (l.session.serve w r).outcome.1 →
      (openModules [] past).Nodup ∧
      (∀ key ∈ openModules [] past, key ∈ l.imports.entries w) ∧
      (openModules [] past).length ≤ (l.imports.entries w).ncard) ∧
    ∀ beyond : Loading LoadError Loaded,
      (∀ text name,
        l.load w text name = l.loadTo w beyond ((l.imports.entries w).ncard + 1) text name) ∧
      ∀ path, l.loadFile w path =
        Loading.ofExcept ((w.read path).mapError LoadError.unreadable) >>= fun text =>
          l.loadTo w beyond ((l.imports.entries w).ncard + 1) text (some path) := by
  refine ⟨l.imports.finite_entries w, ?moments, fun beyond => ⟨?load, ?file⟩⟩
  case moments =>
    intro r past begun
    obtain ⟨opened, there, targets, distinct⟩ :=
      (nestedIn_serve w r).exists_openModules_eq List.nodup_nil begun
    rw [List.nil_append] at there distinct
    have among : ∀ key ∈ opened, key ∈ l.imports.entries w := fun key mem =>
      ImportSource.mem_entries_of_target rooted (targets key mem)
    rw [there]
    refine ⟨distinct, among, ?_⟩
    have counted : opened.length = {key | key ∈ opened}.ncard := by
      rw [← List.toFinset_card_of_nodup distinct, ← Set.ncard_coe_finset, List.coe_toFinset]
    rw [counted]
    exact Set.ncard_le_ncard among (l.imports.finite_entries w)
  case load =>
    intro text name
    exact (loadTo_eq_load rooted w beyond text name).symm
  case file =>
    intro path
    simp only [loadTo_eq_load rooted]
    rfl

end Loader

namespace Sample

def respelled : Workspace where
  tree := ⟨[(["w", "a"], .text "#import ./b\nquery Q { x }"),
    (["w", "b"], .text "#import d/../b\nfragment F on T { x }")], [["w"], ["w", "d"]]⟩
  directory := ["w"]

def respelledRun : Loading LoadError Session.Answer :=
  (Loader.ofWorkspace respelled).session.serve respelled (.loadFile "a")

end Sample

theorem Loader.nesting_bounded_respelled :
    (Loader.ofWorkspace Sample.respelled).imports.Rooted ∧
      Sample.respelledRun.outcome.1 =
        [.resolving "./b" "/w/b", .opened "/w/b", .closed "/w/b"] ∧
      Sample.respelledRun.error?.map LoadError.message =
        some "Circular import: /w/b -> /w/b" ∧
      "/w/b" ∈ (Loader.ofWorkspace Sample.respelled).imports.entries Sample.respelled := by
  have rooted : (Loader.ofWorkspace Sample.respelled).imports.Rooted := by
    show Path.isAbsolute "/w" = true
    decide
  have events : Sample.respelledRun.outcome.1 =
      [.resolving "./b" "/w/b", .opened "/w/b", .closed "/w/b"] := by decide +kernel
  have begun : [.resolving "./b" "/w/b", .opened "/w/b"] <+: Sample.respelledRun.outcome.1 := by
    rw [events]
    exact ⟨[.closed "/w/b"], rfl⟩
  obtain ⟨-, moments, -⟩ :=
    Loader.nesting_bounded (Loader.ofWorkspace Sample.respelled) Sample.respelled rooted
  obtain ⟨-, among, -⟩ := moments (.loadFile "a") _ begun
  exact ⟨rooted, events, by decide +kernel, among "/w/b" (List.mem_singleton.mpr rfl)⟩

end OperationDocuments
