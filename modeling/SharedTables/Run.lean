import SharedTables.Failure

/-!
# Runs

A `Run` is an operation that may fail and that leaves events behind either way: messages, requests,
connections opened and closed, and output.  Everything that an operation does to its surroundings is
one of its events, so statements about a run are statements about a list.

* `Run.events_bind`            the events of a sequence are those of its parts, as far as it went
* `Run.result_bind_eq_ok_iff`  a sequence succeeds exactly when its parts do
-/

namespace SharedTables

/-- The weight of a message. -/
inductive LogLevel where
  | debug
  | info
  | warning
  | error
deriving DecidableEq, Repr

/-- The name of a weight. -/
def LogLevel.name : LogLevel → String
  | debug => "DEBUG"
  | info => "INFO"
  | warning => "WARNING"
  | error => "ERROR"

/-- The weights in order. -/
def LogLevel.rank : LogLevel → Nat
  | debug => 10
  | info => 20
  | warning => 30
  | error => 40

/-- A request to the server. -/
inductive Request where
  /-- Asks for the manifest of a table. -/
  | post (url : String) (body : Value) (authorization : String)
  /-- Downloads a file. -/
  | get (url : String)

/-- What an operation does to its surroundings. -/
inductive Event where
  | log (level : LogLevel) (text : String)
  | request (r : Request)
  | opened
  | closed
  | output (text : String)
  | wrote (path : String) (text : String)

/-- An operation with its events and its result. -/
structure Run (α : Type) where
  events : List Event
  result : Except Failure α

namespace Run

variable {α β : Type}

/-- The result, without any event. -/
protected def pure (a : α) : Run α := ⟨[], .ok a⟩

/-- One operation after another; the second is left out if the first fails. -/
protected def bind (r : Run α) (f : α → Run β) : Run β :=
  match r.result with
  | .error e => ⟨r.events, .error e⟩
  | .ok a => ⟨r.events ++ (f a).events, (f a).result⟩

instance : Monad Run where
  pure := Run.pure
  bind := Run.bind

theorem events_bind (r : Run α) (f : α → Run β) :
    (r >>= f).events =
      r.events ++ match r.result with
        | .error _ => []
        | .ok a => (f a).events := by
  show (Run.bind r f).events = _
  unfold Run.bind
  split <;> simp_all

/-- A sequence succeeds exactly when its parts do. -/
theorem result_bind_eq_ok_iff {r : Run α} {f : α → Run β} {b : β} :
    (r >>= f).result = .ok b ↔ ∃ a, r.result = .ok a ∧ (f a).result = .ok b := by
  show (Run.bind r f).result = _ ↔ _
  unfold Run.bind
  split
  case _ e h => simp [h]
  case _ a h => simp [h]

@[simp] theorem events_pure (a : α) : (pure a : Run α).events = [] := rfl

@[simp] theorem result_pure (a : α) : (pure a : Run α).result = .ok a := rfl

/-- Leaves one event. -/
def emit (e : Event) : Run Unit := ⟨[e], .ok ()⟩

/-- Leaves a message. -/
def log (level : LogLevel) (text : String) : Run Unit := emit (.log level text)

/-- Stops. -/
def fail (e : Failure) : Run α := ⟨[], .error e⟩

/-- A result that is there already. -/
def ofExcept (r : Except Failure α) : Run α := ⟨[], r⟩

/-- Goes on with the failure in hand. -/
def attempt (r : Run α) : Run (Except Failure α) := ⟨r.events, .ok r.result⟩

/-- Leaves an event at the end, whether the operation failed or not. -/
def andFinally (r : Run α) (e : Event) : Run α := ⟨r.events ++ [e], r.result⟩

end Run

/-- The operations on the elements of a list, one after another. -/
def Run.forEach {α β : Type} (f : α → Run β) : List α → Run (List β)
  | [] => pure []
  | a :: rest => do
    let b ← f a
    let bs ← Run.forEach f rest
    return b :: bs

/-- The operations on all elements of a list, each of them carried out even if an earlier one fails;
the first failure is the result. -/
def Run.forAll {α β : Type} (f : α → Run β) (as : List α) : Run (List β) := do
  let results ← Run.forEach (fun a => (f a).attempt) as
  -- the results are in the order of the elements, so is the first failure
  Run.ofExcept (results.mapM id)

/-- The messages among events. -/
def Event.logs (events : List Event) : List (LogLevel × String) :=
  events.filterMap fun e =>
    match e with
    | .log level text => some (level, text)
    | _ => none

/-- The requests among events. -/
def Event.requests (events : List Event) : List Request :=
  events.filterMap fun e =>
    match e with
    | .request r => some r
    | _ => none

end SharedTables
