import Mathlib
import SharedTables.Proofs.Query.Reading

/-!
# What operations leave behind

An operation leaves events of certain kinds and fails for certain causes (`Run.Leaves`).  Reading
predicates, pruning, filtering, selecting, searching and stacking leave nothing but messages
(`Run.Quiet`); reading files leaves downloads besides (`Run.Downloads`).  Only the request for the
manifest fails for want of one.

## Key results

- `Leaves.bind`, `leaves_forEach`, `leaves_forAll`: what sequences leave
- `Table.quiet_stack`, `quiet_pruneFiles`: operations that only leave messages
- `QueryResult.downloads_ofFiles`: what follows the manifest leaves messages and downloads
-/

namespace SharedTables

namespace Event

/-- Whether the event is a message. -/
def isMessage : Event → Bool
  | log .. => true
  | _ => false

/-- Whether the event is a message or a request. -/
def isTraffic : Event → Bool
  | log .. => true
  | request _ => true
  | _ => false

/-- Whether the event is a message or the download of a file. -/
def isDownload : Event → Bool
  | log .. => true
  | request (.get _) => true
  | _ => false

/-- Among events of one kind there are none of another. -/
theorem filter_eq_nil {kind other : Event → Bool} {events : List Event}
    (h : events.all kind = true) (hkind : ∀ e, kind e = true → other e = false) :
    events.filter other = [] := by
  rw [List.filter_eq_nil_iff]
  intro e he
  rw [hkind e (List.all_eq_true.1 h e he)]
  exact Bool.false_ne_true

/-- A message is a message or a request. -/
theorem isTraffic_of_isMessage {e : Event} (h : e.isMessage = true) : e.isTraffic = true := by
  cases e <;> trivial

/-- A message is a message or a download. -/
private theorem isDownload_of_isMessage {e : Event} (h : e.isMessage = true) :
    e.isDownload = true := by
  cases e <;> trivial

/-- A download is a request. -/
theorem isTraffic_of_isDownload {e : Event} (h : e.isDownload = true) : e.isTraffic = true := by
  cases e <;> trivial

/-- Among messages there are no requests. -/
theorem requests_eq_nil {events : List Event} (h : events.all isMessage = true) :
    requests events = [] := by
  rw [requests, List.filterMap_eq_nil_iff]
  intro e he
  have hmessage := List.all_eq_true.1 h e he
  cases e with
  | log level text => rfl
  | _ => cases hmessage

end Event

/-- Whether something else went wrong than that the server gave no manifest. -/
def Failure.isLocal : Failure → Bool
  | catalog _ => false
  | _ => true

namespace Run

variable {α β : Type} {kind : Event → Bool} {cause : Failure → Bool}

/-- All events of the operation are of the kind, and whatever it fails for is such a cause. -/
structure Leaves (kind : Event → Bool) (cause : Failure → Bool) (r : Run α) : Prop where
  events : r.events.all kind = true
  failure : ∀ e, r.result = .error e → cause e = true

/-- The operation leaves nothing but messages and does not fail for want of a manifest. -/
abbrev Quiet (r : Run α) : Prop := r.Leaves Event.isMessage Failure.isLocal

/-- The operation leaves messages and downloads and does not fail for want of a manifest. -/
abbrev Downloads (r : Run α) : Prop := r.Leaves Event.isDownload Failure.isLocal

/-- What leaves events of a kind leaves those of any wider kind, and likewise for causes. -/
theorem Leaves.mono {other : Event → Bool} {others : Failure → Bool} {r : Run α}
    (h : r.Leaves kind cause) (hkind : ∀ e, kind e = true → other e = true)
    (hcause : ∀ e, cause e = true → others e = true) : r.Leaves other others :=
  ⟨List.all_eq_true.2 fun e he => hkind e (List.all_eq_true.1 h.events e he),
    fun e he => hcause e (h.failure e he)⟩

/-- An operation that only leaves messages leaves messages and downloads. -/
theorem Quiet.downloads {r : Run α} (h : r.Quiet) : r.Downloads :=
  h.mono (fun _ => Event.isDownload_of_isMessage) fun _ => id

/-! ### Steps -/

@[simp] theorem leaves_pure (a : α) : (pure a : Run α).Leaves kind cause := ⟨rfl, nofun⟩

/-- A result without events may be a failure, of which the cause has to be one of those allowed. -/
theorem leaves_ofExcept {r : Except Failure α} (h : ∀ e, r = .error e → cause e = true) :
    (ofExcept r).Leaves kind cause := ⟨rfl, h⟩

/-- A failure leaves no events. -/
theorem leaves_fail {e : Failure} (h : cause e = true) : (fail e : Run α).Leaves kind cause := by
  refine leaves_ofExcept fun e' he => ?_
  obtain rfl := Except.error.inj he
  exact h

/-- One event is left, and nothing fails. -/
theorem leaves_emit {e : Event} (h : kind e = true) : (emit e).Leaves kind cause := by
  refine ⟨?_, nofun⟩
  rw [emit, List.all_cons, h]
  rfl

/-- An attempt leaves the same events and does not fail. -/
theorem leaves_attempt {r : Run α} (h : r.Leaves kind cause) : r.attempt.Leaves kind cause :=
  ⟨h.events, nofun⟩

/-- An operation and the one that goes on with its result leave what both leave. -/
private theorem Leaves.bind_of_ok {r : Run α} {f : α → Run β} (hr : r.Leaves kind cause)
    (hf : ∀ a, r.result = .ok a → (f a).Leaves kind cause) : (r >>= f).Leaves kind cause := by
  cases hfirst : r.result with
  | error e =>
    refine ⟨?_, fun e' he => ?_⟩
    · rw [events_bind, hfirst, List.append_nil]
      exact hr.events
    · rw [result_bind_of_error hfirst] at he
      obtain rfl := Except.error.inj he
      exact hr.failure e hfirst
  | ok a =>
    refine ⟨?_, fun e he => ?_⟩
    · rw [events_bind_of_ok hfirst, List.all_append, hr.events, (hf a hfirst).events]
      rfl
    · rw [result_bind_of_ok hfirst] at he
      exact (hf a hfirst).failure e he

/-- The same, where the second operation leaves its events whatever it is given. -/
theorem Leaves.bind {r : Run α} {f : α → Run β} (hr : r.Leaves kind cause)
    (hf : ∀ a, (f a).Leaves kind cause) : (r >>= f).Leaves kind cause :=
  hr.bind_of_ok fun a _ => hf a

/-- A message in front of an operation is one message more. -/
private theorem quiet_log_bind {level : LogLevel} {text : String} {r : Run α} (h : r.Quiet) :
    (log level text >>= fun _ => r).Quiet :=
  Leaves.bind (leaves_emit rfl) fun _ => h

/-- A message that is left on some condition changes nothing about what follows. -/
private theorem quiet_ite_log {c : Prop} [Decidable c] {level : LogLevel} {text : String}
    {r : Run α}
    (h : r.Quiet) : (if c then log level text >>= fun _ => r else r).Quiet := by
  split
  · exact quiet_log_bind h
  · exact h

/-! ### Lists of operations -/

/-- Operations one after the other leave what each of them leaves. -/
theorem leaves_forEach {f : α → Run β} (h : ∀ a, (f a).Leaves kind cause) (as : List α) :
    (forEach f as).Leaves kind cause := by
  -- the operations run in the order of the list, so the induction is on it
  induction as with
  | nil => exact leaves_pure []
  | cons a rest ih => exact (h a).bind fun b => ih.bind fun bs => leaves_pure (b :: bs)

/-- So do operations that are all carried out before any failure counts. -/
theorem leaves_forAll {f : α → Run β} (h : ∀ a, (f a).Leaves kind cause) (as : List α) :
    (forAll f as).Leaves kind cause := by
  have hattempts := leaves_forEach (fun a => leaves_attempt (h a)) as
  -- the events are those of all operations, the failure is the first one in the order of the list
  constructor
  · have hresults : (forEach (fun a => (f a).attempt) as).result =
        .ok (as.map fun a => (f a).result) := result_forEach fun a _ => rfl
    rw [forAll, events_bind_of_ok hresults, List.all_append, hattempts.events]
    rfl
  · rw [result_forAll_eq_forEach]
    exact (leaves_forEach h as).failure

end Run

open Run

/-! ### Operations that only leave messages -/

/-- Reading the texts of predicates leaves messages about those that are none. -/
theorem Predicate.quiet_parseAll (texts : List Value) : (parseAll texts).Quiet := by
  induction texts with
  | nil => exact leaves_pure []
  | cons v rest ih =>
    rw [parseAll]
    split
    · exact ih.bind fun _ => leaves_pure _
    · exact quiet_log_bind ih
    · -- the value is no text, which is not for the server to answer for
      rename_i hvalue
      unfold ofValue at hvalue
      split at hvalue
      · rename_i s
        cases hparse : parse s <;> rw [hparse] at hvalue <;> cases hvalue
        exact leaves_fail rfl
      · cases hvalue
        exact leaves_fail rfl

/-- Looking at a partition value leaves a message where it cannot be compared. -/
private theorem FileReference.quiet_admits (file : FileReference) (p : Predicate) :
    (file.admits p).Quiet := by
  rw [admits]
  split
  · exact leaves_pure true
  · exact leaves_pure true
  · split
    · exact leaves_fail rfl
    · exact leaves_pure _
    · exact quiet_log_bind (leaves_pure false)

/-- So does looking at the partition values for all predicates. -/
private theorem FileReference.quiet_admitsAll (file : FileReference) (predicates : List Predicate) :
    (file.admitsAll predicates).Quiet := by
  induction predicates with
  | nil => exact leaves_pure true
  | cons p rest ih =>
    refine (file.quiet_admits p).bind fun admitted => ?_
    cases admitted with
    | true => exact ih
    | false => exact leaves_pure false

/-- Leaving out files leaves messages. -/
theorem quiet_pruneFiles (files : List FileReference) (predicates : List Predicate) :
    (pruneFiles files predicates).Quiet := by
  rw [pruneFiles]
  split
  · exact leaves_pure files
  · refine (leaves_forEach (fun file => file.quiet_admitsAll predicates) files).bind
      fun verdicts => ?_
    dsimp only
    split
    · exact quiet_log_bind (leaves_pure _)
    · exact leaves_pure _

namespace Table

/-- Preparing a predicate leaves a message where it is passed over. -/
private theorem quiet_lenientComparison (t : Table) (p : Predicate) :
    (t.lenientComparison p).Quiet := by
  rw [lenientComparison]
  split
  · split
    · exact quiet_log_bind (leaves_pure none)
    · rename_i c _
      refine leaves_ofExcept fun e he => ?_
      -- a literal without a value is not for the server to answer for
      unfold Comparison.checked at he
      split at he
      · cases he
      · rename_i hfailure
        obtain rfl := Except.error.inj he
        rcases Operand.failure?_cases hfailure with rfl | rfl <;> rfl
  · exact quiet_log_bind (leaves_pure none)

/-- Filtering leaves messages about what is passed over. -/
private theorem quiet_filterBy (t : Table) (predicates : List Predicate) :
    (t.filterBy predicates).Quiet := by
  refine (leaves_forEach (fun item => ?_) _).bind fun comparisons => leaves_ofExcept fun e he => ?_
  · unfold lenientItem
    split
    · exact leaves_pure none
    · exact t.quiet_lenientComparison _
    · split
      · exact t.quiet_lenientComparison _
      · exact quiet_log_bind (leaves_pure none)
  · -- a fault in a comparison is a failure of the table
    unfold keepAll at he
    split at he <;> cases he
    rfl

/-- Cutting a table down to columns leaves a message where none of them is there. -/
private theorem quiet_selectColumns (t : Table) (columns : Option (List String)) :
    (t.selectColumns columns).Quiet := by
  unfold selectColumns
  split
  · exact leaves_pure t
  · dsimp only
    split
    · exact quiet_log_bind (leaves_pure t)
    · exact leaves_pure _

/-- Preparing the columns that are searched leaves messages about those that are not there. -/
private theorem quiet_searchable (t : Table) (names : List String) :
    (t.searchable names).Quiet := by
  induction names with
  | nil => exact leaves_pure []
  | cons name rest ih =>
    unfold searchable
    split
    · exact ih
    · split
      · exact quiet_log_bind ih
      · exact ih.bind fun _ => leaves_pure _

/-- Searching leaves messages. -/
theorem quiet_search (t : Table) (text : String) (names : List String) :
    (t.search text names).Quiet := by
  unfold search
  split
  · exact leaves_pure t
  · split
    · exact leaves_fail rfl
    · refine (t.quiet_searchable names).bind fun found => ?_
      dsimp only
      split
      · exact leaves_fail rfl
      · exact leaves_pure _

/-- Giving a column one type in all tables leaves messages about its types. -/
private theorem quiet_settleColumn (tables : List Table) (name : String) :
    (settleColumn tables name).Quiet := by
  rw [settleColumn]
  dsimp only
  split
  · exact leaves_pure tables
  · split
    · exact quiet_log_bind (leaves_pure _)
    · refine quiet_log_bind ?_
      split
      · exact leaves_fail rfl
      · exact leaves_pure _

/-- So does giving one type to each of several columns. -/
private theorem quiet_settle (tables : List Table) (names : List String) :
    (settle tables names).Quiet := by
  -- each column is settled in the tables that the columns before it have left
  induction names generalizing tables with
  | nil => exact leaves_pure tables
  | cons name rest ih => exact (quiet_settleColumn tables name).bind fun settled => ih settled

/-- Stacking tables leaves messages. -/
theorem quiet_stack (tables : List Table) (requested : List String) :
    (stack tables requested).Quiet := by
  match tables with
  | [] => exact leaves_pure _
  | [t] => exact leaves_pure t
  | t :: u :: rest =>
    unfold stack
    dsimp only
    refine quiet_ite_log ?_
    split
    · exact leaves_pure _
    · refine (quiet_settle _ _).bind fun settled => ?_
      split
      · exact leaves_pure _
      · exact leaves_fail rfl

end Table

namespace QueryResult

variable {server : Server} {predicates : List Predicate} {columns : Option (List String)}

/-- Stacking the tables that were found leaves messages. -/
theorem quiet_stackFound (total : Nat) (tables : List (Option Table)) :
    (stackFound columns total tables).Quiet :=
  quiet_log_bind ((Table.quiet_stack _ _).bind fun _ => leaves_pure _)

/-! ### Reading files -/

/-- Fetching a file is one download, with a message if it goes wrong. -/
private theorem downloads_fetch (server : Server) (url : String) :
    (Client.fetch server url).Downloads := by
  unfold Client.fetch
  refine (leaves_emit rfl).bind fun _ => ?_
  split
  · exact leaves_fail rfl
  · split
    · exact leaves_pure _
    · exact (leaves_emit rfl).bind fun _ => leaves_fail rfl

/-- A table that has been downloaded is decoded, filtered and cut down without a request. -/
theorem quiet_of_payload (payload : Payload) : (do
      let t ← ofExcept (payload.decode.mapError .decode)
      let filtered ← t.filterBy predicates
      filtered.selectColumns columns : Run Table).Quiet := by
  refine (leaves_ofExcept fun e he => ?_).bind fun t => ?_
  · cases hdecode : payload.decode <;> rw [hdecode] at he <;> cases he
    rfl
  · exact (t.quiet_filterBy predicates).bind fun filtered => filtered.quiet_selectColumns columns

/-- Loading a file is one download, and then messages. -/
private theorem downloads_loadFile (file : FileReference) :
    (loadFile server predicates columns file).Downloads :=
  (downloads_fetch server file.url).bind fun payload => (quiet_of_payload payload).downloads

/-- The number of workers may be none, which is not for the server to answer for. -/
private theorem downloads_isSeveral (workers : Value) :
    (ofExcept (isSeveral workers)).Downloads := by
  refine leaves_ofExcept fun e he => ?_
  unfold isSeveral at he
  split at he <;> cases he
  rfl

/-- Reading a file leaves what loading it leaves, and messages. -/
private theorem downloads_readFile {load : Run Table} (label : String) (h : load.Downloads) :
    (readFile label load).Downloads := by
  refine (leaves_attempt h).bind_of_ok fun loaded hloaded => ?_
  have hload : load.result = loaded := Except.ok.inj hloaded
  refine Quiet.downloads ?_
  cases loaded with
  | error e =>
    dsimp only
    split
    · exact quiet_log_bind (leaves_pure none)
    · -- the failure is that of the load
      exact leaves_fail (h.failure e hload)
  | ok t =>
    dsimp only
    split
    · exact quiet_log_bind (leaves_pure none)
    · exact leaves_pure _

/-- What follows the manifest leaves messages and downloads, whatever the number of workers. -/
theorem downloads_ofFiles (server : Server) (files : List FileReference) (filters : List Value)
    (columns : Option (List String)) (workers : Value) :
    (ofFiles server files filters columns workers).Downloads := by
  refine (Predicate.quiet_parseAll filters).downloads.bind fun predicates => ?_
  refine (quiet_pruneFiles files predicates).downloads.bind fun relevant => ?_
  split
  · exact leaves_pure _
  · refine (downloads_isSeveral workers).bind fun several => ?_
    -- the files are read one after the other or at the same time, and stacked in either case
    have hread : ∀ item : FileReference × String,
        (readFile item.2 (loadFile server predicates columns item.1)).Downloads :=
      fun item => downloads_readFile item.2 (downloads_loadFile item.1)
    have hstack : ∀ tables : List (Option Table),
        (stackFound columns relevant.length tables).Downloads :=
      fun tables => (quiet_stackFound relevant.length tables).downloads
    dsimp only
    split
    · exact (leaves_forAll hread _).bind hstack
    · exact (leaves_forEach hread _).bind hstack

end QueryResult

end SharedTables
