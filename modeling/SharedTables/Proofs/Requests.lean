import Mathlib
import SharedTables.Proofs.Events

/-!
# What a query asks the server for

What only leaves messages asks the server for nothing.  Reading a file asks for the file, once,
whatever comes of it.

## Key results

- `requests_readFile`: reading a file asks for it once
- `requests_ofFiles_one`: one worker asks for the files that are left after pruning, in their order
-/

namespace SharedTables

namespace Event

/-- The requests of two runs are those of one and then those of the other. -/
@[simp] theorem requests_append (xs ys : List Event) :
    requests (xs ++ ys) = requests xs ++ requests ys :=
  List.filterMap_append

/-- So it is with any number of runs. -/
private theorem requests_flatMap {α : Type} (f : α → List Event) (as : List α) :
    requests (as.flatMap f) = as.flatMap fun a => requests (f a) := by
  induction as with
  | nil => rfl
  | cons a rest ih => rw [List.flatMap_cons, List.flatMap_cons, requests_append, ih]

end Event

namespace Run

variable {α β : Type}

/-- An operation that only leaves messages asks for nothing. -/
private theorem Quiet.requests_eq {r : Run α} (h : r.Quiet) : Event.requests r.events = [] :=
  Event.requests_eq_nil h.events

/-- What comes after an operation and asks for nothing adds no request. -/
private theorem requests_bind {r : Run α} {f : α → Run β}
    (hf : ∀ a, Event.requests (f a).events = []) :
    Event.requests (r >>= f).events = Event.requests r.events := by
  rw [events_bind, Event.requests_append]
  -- the second operation is carried out only if the first one succeeds
  split
  · exact List.append_nil _
  · rw [hf, List.append_nil]

end Run

open Run

namespace QueryResult

variable {server : Server} {predicates : List Predicate} {columns : Option (List String)}

/-! ### Reading files -/

/-- Fetching a file asks for it once. -/
private theorem requests_fetch (server : Server) (url : String) :
    Event.requests (Client.fetch server url).events = [.get url] := by
  unfold Client.fetch
  rw [requests_bind]
  · rfl
  · intro _
    split
    · rfl
    · split <;> rfl

/-- Loading a file asks for it once, whatever comes of it. -/
private theorem requests_loadFile (file : FileReference) :
    Event.requests (loadFile server predicates columns file).events = [.get file.url] := by
  rw [loadFile, requests_bind fun payload => (quiet_of_payload payload).requests_eq, requests_fetch]

/-- Reading a file asks for it once, too. -/
theorem requests_readFile (label : String) (file : FileReference) :
    Event.requests (readFile label (loadFile server predicates columns file)).events =
      [.get file.url] := by
  -- only messages follow when the file has been loaded
  rw [← @requests_loadFile server predicates columns file]
  refine Run.requests_bind (r := (loadFile server predicates columns file).attempt) fun loaded => ?_
  split
  · split <;> rfl
  · split <;> rfl

/-- Reading files asks for the files in their order. -/
private theorem requests_readings (files : List FileReference) :
    Event.requests ((readings server predicates columns files).flatMap Run.events) =
      files.map fun file => .get file.url := by
  rw [Event.requests_flatMap, readings, List.flatMap_map]
  simp only [requests_readFile]
  conv_rhs => rw [← labelled_fst files, List.map_map]
  exact List.flatMap_pure_eq_map _ _

/-! ### The whole query -/

/-- A query asks for what its readings ask for. -/
private theorem requests_ofFilesBy {readAll : List (Run (Option Table)) → Run (List (Option Table))}
    {files relevant : List FileReference} {filters : List Value}
    (hparse : (Predicate.parseAll filters).result = .ok predicates)
    (hprune : (pruneFiles files predicates).result = .ok relevant) (hrelevant : relevant ≠ []) :
    Event.requests (ofFilesBy readAll server files filters columns).events =
      Event.requests (readAll (readings server predicates columns relevant)).events := by
  rw [ofFilesBy, events_bind_of_ok hparse, Event.requests_append,
    (Predicate.quiet_parseAll filters).requests_eq, List.nil_append, events_bind_of_ok hprune,
    Event.requests_append, (quiet_pruneFiles files predicates).requests_eq, List.nil_append,
    if_neg (by simpa using hrelevant)]
  exact requests_bind fun tables => (quiet_stackFound relevant.length tables).requests_eq

/-- One worker asks for the files that are left after pruning, each once and in their order. -/
theorem requests_ofFiles_one {files relevant : List FileReference} {filters : List Value}
    {r : QueryResult} (h : (ofFiles server files filters columns (.int 1)).result = .ok r)
    (hparse : (Predicate.parseAll filters).result = .ok predicates)
    (hprune : (pruneFiles files predicates).result = .ok relevant) :
    Event.requests (ofFiles server files filters columns (.int 1)).events =
      relevant.map fun file => .get file.url := by
  rw [ofFiles_eq_ofFilesBy] at h ⊢
  obtain ⟨predicates', relevant', hparse', hprune', hread⟩ := result_ofFilesBy_eq_ok_iff.1 h
  obtain rfl := Except.ok.inj (hparse.symm.trans hparse')
  obtain rfl := Except.ok.inj (hprune.symm.trans hprune')
  by_cases hrelevant : relevant = []
  · -- nothing is left to ask for
    subst hrelevant
    rw [ofFilesBy, events_bind_of_ok hparse, Event.requests_append,
      (Predicate.quiet_parseAll filters).requests_eq, events_bind_of_ok hprune,
      Event.requests_append, (quiet_pruneFiles files predicates).requests_eq]
    rfl
  · rw [if_neg hrelevant] at hread
    obtain ⟨tables, htables, -⟩ := hread
    -- no reading stops the others, so all files are asked for
    rw [requests_ofFilesBy hparse hprune hrelevant, readBy_one, ← requests_readings]
    exact congrArg Event.requests (events_forEach_of_ok htables)

end QueryResult

end SharedTables
