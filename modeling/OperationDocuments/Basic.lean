/-! # Association lists and computations that report

Lists of keys with values, as far as this development needs them, and computations that report
what they do on the way to a value or an error. -/
namespace OperationDocuments

/-! ## Association lists

Entries in the order in which their keys were first put in. Putting a key in again changes its
value and not its place. -/

abbrev Assoc (κ α : Type) := List (κ × α)

namespace Assoc

variable {κ α : Type}

def keys (entries : Assoc κ α) : List κ := entries.map Prod.fst

variable [DecidableEq κ]

def find? (entries : Assoc κ α) (key : κ) : Option α :=
  match entries with
  | [] => none
  | (k, v) :: more => if k = key then some v else find? more key

def contains (entries : Assoc κ α) (key : κ) : Bool := (find? entries key).isSome

def insert (entries : Assoc κ α) (key : κ) (value : α) : Assoc κ α :=
  match entries with
  | [] => [(key, value)]
  | (k, v) :: more => if k = key then (k, value) :: more else (k, v) :: insert more key value

/-- Entries put in one after the other: the last value of a key wins, at the place of the first. -/
def ofEntries (entries : List (κ × α)) : Assoc κ α :=
  entries.foldl (fun done entry => insert done entry.1 entry.2) []

theorem find?_append (entries more : Assoc κ α) (key : κ) :
    find? (entries ++ more) key = (find? entries key).or (find? more key) := by
  induction entries with
  | nil => simp [find?]
  | cons entry rest ih =>
    obtain ⟨k, v⟩ := entry
    by_cases hk : k = key <;> simp [find?, hk, ih]

theorem find?_eq_none_iff {entries : Assoc κ α} {key : κ} :
    find? entries key = none ↔ key ∉ keys entries := by
  induction entries with
  | nil => simp [find?, keys]
  | cons entry more ih =>
    obtain ⟨k, v⟩ := entry
    by_cases hk : k = key
    · simp [find?, keys, hk]
    · simpa [find?, keys, hk, Ne.symm hk] using ih

theorem mem_keys_of_find? {entries : Assoc κ α} {key : κ} {value : α}
    (h : find? entries key = some value) : key ∈ keys entries := by
  refine Decidable.byContradiction fun missing => ?_
  rw [find?_eq_none_iff.mpr missing] at h
  cases h

theorem find?_insert (entries : Assoc κ α) (key other : κ) (value : α) :
    find? (insert entries key value) other =
      if key = other then some value else find? entries other := by
  induction entries with
  | nil => simp [insert, find?]
  | cons entry more ih =>
    obtain ⟨k, v⟩ := entry
    by_cases hk : k = key
    · subst hk
      by_cases ho : k = other <;> simp [insert, find?, ho]
    · by_cases ho : k = other
      · subst ho
        simp [insert, find?, hk, Ne.symm hk]
      · simp [insert, find?, hk, ho, ih]

theorem keys_insert (entries : Assoc κ α) (key : κ) (value : α) :
    keys (insert entries key value) =
      if key ∈ keys entries then keys entries else keys entries ++ [key] := by
  induction entries with
  | nil => simp [insert, keys]
  | cons entry more ih =>
    obtain ⟨k, v⟩ := entry
    by_cases hk : k = key
    · simp [insert, keys, hk]
    · simp only [insert, hk, if_false]
      simp only [keys, List.map_cons, List.mem_cons] at ih ⊢
      rw [ih]
      by_cases hm : key ∈ more.map Prod.fst <;> simp [hm, Ne.symm hk]

theorem insert_map {β : Type} (f : α → β) (entries : Assoc κ α) (key : κ) (value : α) :
    insert (entries.map fun entry => (entry.1, f entry.2)) key (f value) =
      (insert entries key value).map fun entry => (entry.1, f entry.2) := by
  induction entries with
  | nil => rfl
  | cons entry more ih =>
    obtain ⟨k, v⟩ := entry
    by_cases hk : k = key
    · simp [insert, hk]
    · simpa [insert, hk] using ih

end Assoc

/-! ## Events

What happens while documents are loaded and modules generated, in order. Most events have a line
in the log; that a module is opened and closed again is only counted. `Logged` is a value with
the events that led to it. -/

inductive Event where
  | resolving (reference path : String)
  | opened (key : String)
  | closed (key : String)
  | droppedDuplicate (fragment : String)
  | collision (fragment reference : String)
  | merged (count : Nat) (reference : String)
  | separated (operation : String) (count : Nat)
  | loaded (source : String) (definitions operations : Nat)
  | filteredOut (operation : String)
  | wrote (path : String)
  deriving Repr, DecidableEq

namespace Event

def isWarning : Event → Bool
  | collision .. => true
  | _ => false

/-- The part of the program that reports an event; `none` for events without a line. -/
def channel? : Event → Option String
  | opened _ | closed _ => none
  | resolving .. => some "gql_docsplit.core.parser"
  | droppedDuplicate _ | collision .. | merged .. => some "gql_docsplit.core.importer"
  | separated .. => some "gql_docsplit.core.splitter"
  | loaded .. => some "gql_docsplit.core.loader"
  | filteredOut _ => some "gql_docsplit.core.hooks"
  | wrote _ => some "gql_docsplit.core.generator"

def message : Event → String
  | resolving reference path => s!"Resolving {reference} -> {path}"
  | opened key => s!"Opened {key}"
  | closed key => s!"Closed {key}"
  | droppedDuplicate fragment => s!"Dropping duplicate imported fragment {fragment}"
  | collision fragment reference =>
    s!"Imported fragment {fragment} from {reference} collides with a local fragment; "
      ++ "the local one is used"
  | merged count reference => s!"Merged {count} fragment(s) from {reference}"
  | separated operation count => s!"Split {operation} with {count} definition(s)"
  | loaded source definitions operations =>
    s!"Loaded {source}: {definitions} definition(s), {operations} operation document(s)"
  | filteredOut operation => s!"Filtered out operation {operation}"
  | wrote path => s!"Wrote {path}"

def line? (e : Event) : Option String :=
  e.channel?.map fun channel =>
    (if e.isWarning then "WARNING " else "DEBUG ") ++ channel ++ ": " ++ e.message

end Event

/-- The modules that are open after some events: opening puts a module on top, closing takes the
top away. -/
def openModules (stack : List String) : List Event → List String
  | [] => stack
  | .opened key :: more => openModules (stack ++ [key]) more
  | .closed _ :: more => openModules stack.dropLast more
  | _ :: more => openModules stack more

def Event.isQuiet : Event → Bool
  | .opened _ | .closed _ => false
  | _ => true

theorem openModules_append (stack : List String) (events more : List Event) :
    openModules stack (events ++ more) = openModules (openModules stack events) more := by
  fun_induction openModules stack events with
  | case1 stack => rfl
  | case2 stack key rest ih => exact ih
  | case3 stack key rest ih => exact ih
  | case4 stack e rest notOpened notClosed ih =>
    cases e with
    | opened key => exact absurd rfl (notOpened key)
    | closed key => exact absurd rfl (notClosed key)
    | _ => exact ih

theorem openModules_of_quiet {events : List Event} (h : ∀ e ∈ events, e.isQuiet = true)
    (stack : List String) : openModules stack events = stack := by
  induction events with
  | nil => rfl
  | cons e more ih =>
    have rest := ih fun x hx => h x (List.mem_cons_of_mem e hx)
    have quiet := h e List.mem_cons_self
    cases e with
    | opened key => cases quiet
    | closed key => cases quiet
    | _ => exact rest

/-- A value and the events on the way to it. -/
structure Logged (α : Type) where
  events : List Event
  value : α
  deriving Repr

namespace Logged

instance : Monad Logged where
  pure a := ⟨[], a⟩
  bind x f := ⟨x.events ++ (f x.value).events, (f x.value).value⟩

instance : LawfulMonad Logged :=
  LawfulMonad.mk' Logged (by intros; simp [Functor.map]) (by intros; simp [bind, pure])
    (by intros; simp [bind])

def report (e : Event) : Logged Unit := ⟨[e], ()⟩

variable {α β : Type}

@[simp] theorem value_pure (a : α) : (pure a : Logged α).value = a := rfl

@[simp] theorem value_bind (x : Logged α) (f : α → Logged β) :
    (x >>= f).value = (f x.value).value := rfl

@[simp] theorem value_map (f : α → β) (x : Logged α) : (f <$> x).value = f x.value := rfl

@[simp] theorem events_map (f : α → β) (x : Logged α) : (f <$> x).events = x.events :=
  List.append_nil x.events

def Quiet (x : Logged α) : Prop := ∀ e ∈ x.events, e.isQuiet = true

theorem quiet_pure (a : α) : Quiet (pure a : Logged α) := fun _ h => absurd h List.not_mem_nil

theorem quiet_report {e : Event} (h : e.isQuiet = true) : Quiet (report e) := by
  intro x hx
  rw [List.mem_singleton.mp hx]
  exact h

theorem quiet_bind {x : Logged α} {f : α → Logged β} (hx : Quiet x)
    (hf : Quiet (f x.value)) : Quiet (x >>= f) := by
  intro e he
  rcases List.mem_append.mp he with he | he
  · exact hx e he
  · exact hf e he

end Logged

/-- A computation that reports events and may fail; the events before a failure remain. -/
abbrev Loading (ε α : Type) := ExceptT ε Logged α

namespace Loading

variable {ε α β : Type}

def report (e : Event) : Loading ε Unit := ExceptT.lift (Logged.report e)

def ofExcept (x : Except ε α) : Loading ε α := ExceptT.mk (pure x)

def outcome (x : Loading ε α) : List Event × Except ε α := (x.run.events, x.run.value)

/-- The computation succeeds with this value, whatever it reports. -/
def Returns (x : Loading ε α) (a : α) : Prop := x.outcome.2 = .ok a

theorem returns_pure {a b : α} : Returns (pure a : Loading ε α) b ↔ a = b := by
  simp [Returns, outcome, pure, ExceptT.pure, ExceptT.mk, ExceptT.run]

theorem returns_lift {x : Logged α} {a : α} :
    Returns (ExceptT.lift x : Loading ε α) a ↔ x.value = a := by
  have value : (ExceptT.lift x : Loading ε α).run.value = .ok x.value :=
    Logged.value_map Except.ok x
  rw [Returns, outcome, value, Except.ok.injEq]

theorem returns_ofExcept {x : Except ε α} {a : α} : Returns (ofExcept x) a ↔ x = .ok a := by
  simp [Returns, outcome, ofExcept, ExceptT.mk, ExceptT.run]

theorem returns_report {e : Event} {u : Unit} : Returns (report e : Loading ε Unit) u := rfl

theorem result_bind (x : Loading ε α) (f : α → Loading ε β) :
    (x >>= f).outcome.2 =
      match x.outcome.2 with
      | .ok a => (f a).outcome.2
      | .error e => .error e := by
  simp only [outcome, bind, ExceptT.bind, ExceptT.mk, ExceptT.run, ExceptT.bindCont]
  split <;> simp_all [pure]

theorem events_bind (x : Loading ε α) (f : α → Loading ε β) :
    (x >>= f).outcome.1 = x.outcome.1 ++
      match x.outcome.2 with
      | .ok a => (f a).outcome.1
      | .error _ => [] := by
  simp only [outcome, bind, ExceptT.bind, ExceptT.mk, ExceptT.run, ExceptT.bindCont]
  split <;> simp_all [pure]

theorem ofExcept_ok_bind (a : α) (f : α → Loading ε β) :
    ((ofExcept (.ok a) : Loading ε α) >>= f) = f a := rfl

theorem ofExcept_error_bind (e : ε) (f : α → Loading ε β) :
    ((ofExcept (.error e) : Loading ε α) >>= f) = throw e := rfl

theorem returns_bind {x : Loading ε α} {f : α → Loading ε β} {b : β} :
    Returns (x >>= f) b ↔ ∃ a, Returns x a ∧ Returns (f a) b := by
  simp only [Returns, result_bind]
  cases x.outcome.2 <;> simp

theorem outcome_adapt {ε' : Type} (f : ε → ε') (x : Loading ε α) :
    outcome (ExceptT.adapt f x : Loading ε' α) = (x.outcome.1, x.outcome.2.mapError f) :=
  Prod.ext (Logged.events_map (Except.mapError f) x.run) rfl

def error? (x : Loading ε α) : Option ε :=
  match x.outcome.2 with
  | .ok _ => none
  | .error e => some e

theorem error?_eq_none_iff {x : Loading ε α} : x.error? = none ↔ ∃ a, x.Returns a := by
  unfold error? Returns
  cases x.outcome.2 <;> simp

theorem error?_pure (a : α) : (pure a : Loading ε α).error? = none := rfl

theorem error?_lift (x : Logged α) : error? (ExceptT.lift x : Loading ε α) = none := rfl

theorem error?_bind (x : Loading ε α) (f : α → Loading ε β) :
    (x >>= f).error? =
      match x.outcome.2 with
      | .ok a => (f a).error?
      | .error e => some e := by
  unfold error?
  rw [result_bind]
  cases x.outcome.2 <;> rfl

theorem error?_bind_of_returns {x : Loading ε α} {a : α} (h : x.Returns a)
    (f : α → Loading ε β) : (x >>= f).error? = (f a).error? := by
  unfold Returns at h
  rw [error?_bind, h]

theorem error?_bind_of_error {x : Loading ε α} {e : ε} (h : x.error? = some e)
    (f : α → Loading ε β) : (x >>= f).error? = some e := by
  rw [error?_bind]
  unfold error? at h
  cases hx : x.outcome.2 with
  | ok a => simp [hx] at h
  | error e' => simpa [hx] using h

/-- A second computation that never fails leaves the error to the first. -/
theorem error?_bind_of_total (x : Loading ε α) {f : α → Loading ε β}
    (h : ∀ a, (f a).error? = none) : (x >>= f).error? = x.error? := by
  cases hx : x.error? with
  | none =>
    obtain ⟨a, ha⟩ := error?_eq_none_iff.mp hx
    rw [error?_bind_of_returns ha, h]
  | some e => exact error?_bind_of_error hx f

end Loading

end OperationDocuments
