import Mathlib
import SharedTables.Proofs.Run

/-!
# Tasks carried out by several workers

A pool has a list of tasks and a number of workers.  A free worker takes any task that no other
worker has taken, carries it out event by event, and finishes it; the events of several tasks may
come in between each other.  A collector takes the outcomes in the order of the tasks.  At the first
failure it stops and cancels the tasks that no worker has taken yet.

Which step comes next is left open: whatever the order, the outcome is that of the tasks one after
another, and so are the events up to their order, if all tasks succeed.

## Key results

- `step_sound`, `reaches_sound`: what is collected are the outcomes of the first tasks
- `work_lt_of_step`, `waiting_eq_nil_of_stuck`: a pool comes to an end, and not before all is done
- `Yields.sameUpToOrder`: whatever the order, the outcome is that of the tasks one after another
- `yields_forAll`: carrying out all tasks before their outcomes are looked at is one such order
-/

namespace SharedTables

variable {α : Type}

/-- How far a task is. -/
inductive Stage where
  /-- No worker has taken it. -/
  | pending
  /-- A worker is at it, with the given events still to come. -/
  | running (left : List Event)
  | finished
  | cancelled

/-- A task whose outcome has not been collected. -/
structure Slot (α : Type) where
  task : Run α
  stage : Stage

namespace Slot

/-- The events still to come. -/
def left (s : Slot α) : List Event :=
  match s.stage with
  | .pending => s.task.events
  | .running left => left
  | .finished => []
  | .cancelled => []

/-- Whether a worker is at the task. -/
def isRunning (s : Slot α) : Bool :=
  match s.stage with
  | .running _ => true
  | _ => false

/-- How many steps are to be taken at most until the task is out of the way. -/
def work (s : Slot α) : Nat :=
  match s.stage with
  | .pending => s.task.events.length + 3
  | .running left => left.length + 2
  | .finished => 1
  | .cancelled => 0

end Slot

/-- The state of a pool: the events so far, what has been collected, the tasks whose outcomes have
    not been, and the failure at which the collector stopped, if it has. -/
structure Pool (α : Type) where
  trace : List Event
  collected : List α
  waiting : List (Slot α)
  failure : Option Failure

namespace Pool

/-- A pool that is given its tasks. -/
def start (tasks : List (Run α)) : Pool α :=
  ⟨[], [], tasks.map (Slot.mk · .pending), none⟩

/-- How many workers are at a task. -/
def busy (slots : List (Slot α)) : Nat :=
  slots.countP Slot.isRunning

/-- What a pool can do next, with the given number of workers. -/
inductive Step (workers : Nat) : Pool α → Pool α → Prop where
  /-- A free worker takes a task. -/
  | take {trace : List Event} {collected : List α} {before after : List (Slot α)} {task : Run α}
      {failure : Option Failure} (hfree : busy (before ++ ⟨task, .pending⟩ :: after) < workers) :
      Step workers ⟨trace, collected, before ++ ⟨task, .pending⟩ :: after, failure⟩
        ⟨trace, collected, before ++ ⟨task, .running task.events⟩ :: after, failure⟩
  /-- A worker goes on with its task. -/
  | act {trace : List Event} {collected : List α} {before after : List (Slot α)} {task : Run α}
      {failure : Option Failure} {event : Event} {left : List Event} :
      Step workers ⟨trace, collected, before ++ ⟨task, .running (event :: left)⟩ :: after, failure⟩
        ⟨trace ++ [event], collected, before ++ ⟨task, .running left⟩ :: after, failure⟩
  /-- A worker is done with its task. -/
  | finish {trace : List Event} {collected : List α} {before after : List (Slot α)}
      {task : Run α} {failure : Option Failure} :
      Step workers ⟨trace, collected, before ++ ⟨task, .running []⟩ :: after, failure⟩
        ⟨trace, collected, before ++ ⟨task, .finished⟩ :: after, failure⟩
  /-- The outcome of the first task that has not been collected is, and it is a result. -/
  | collect {trace : List Event} {collected : List α} {rest : List (Slot α)} {task : Run α} {a : α}
      (hresult : task.result = .ok a) :
      Step workers ⟨trace, collected, ⟨task, .finished⟩ :: rest, none⟩
        ⟨trace, collected ++ [a], rest, none⟩
  /-- That outcome is a failure. -/
  | stop {trace : List Event} {collected : List α} {rest : List (Slot α)} {task : Run α}
      {e : Failure} (hresult : task.result = .error e) :
      Step workers ⟨trace, collected, ⟨task, .finished⟩ :: rest, none⟩
        ⟨trace, collected, rest, some e⟩
  /-- After a failure, a task that no worker has taken is cancelled. -/
  | cancel {trace : List Event} {collected : List α} {before after : List (Slot α)}
      {task : Run α} {e : Failure} :
      Step workers ⟨trace, collected, before ++ ⟨task, .pending⟩ :: after, some e⟩
        ⟨trace, collected, before ++ ⟨task, .cancelled⟩ :: after, some e⟩

/-- What can come of a pool by any number of steps. -/
abbrev Reaches (workers : Nat) : Pool α → Pool α → Prop :=
  Relation.ReflTransGen (Step workers)

/-- Nothing is left to be done. -/
def IsStuck (workers : Nat) (p : Pool α) : Prop :=
  ∀ p', ¬ Step workers p p'

/-- What the pool comes to when nothing is left to be done. -/
def outcome (p : Pool α) : Run (List α) :=
  ⟨p.trace, match p.failure with
    | none => .ok p.collected
    | some e => .error e⟩

/-- Some order of the steps carries out the tasks as `run`. -/
def Yields (workers : Nat) (tasks : List (Run α)) (run : Run (List α)) : Prop :=
  ∃ p, Reaches workers (start tasks) p ∧ p.IsStuck workers ∧ p.outcome = run

/-! ### The order of the outcomes -/

/-- No task has failed: the tasks are those that have been collected and those that wait. -/
structure Going (tasks : List (Run α)) (p : Pool α) : Prop where
  results : tasks.map Run.result =
    p.collected.map .ok ++ p.waiting.map fun s => s.task.result
  events : (p.trace ++ p.waiting.flatMap Slot.left).Perm (tasks.flatMap Run.events)
  uncancelled : ∀ s ∈ p.waiting, s.stage ≠ .cancelled

/-- What has been collected are the outcomes of the first tasks, and a failure is the next one. -/
def Sound (tasks : List (Run α)) (p : Pool α) : Prop :=
  match p.failure with
  | none => Going tasks p
  | some e => ∃ rest, tasks.map Run.result = p.collected.map .ok ++ .error e :: rest

variable {workers : Nat} {tasks : List (Run α)} {p p' : Pool α}

private theorem start_sound (tasks : List (Run α)) : Sound tasks (start tasks) where
  results := by
    rw [start, List.map_map]
    rfl
  events := by
    rw [start, List.flatMap_map]
    exact List.Perm.refl _
  uncancelled := by
    intro s hs
    obtain ⟨task, -, rfl⟩ := List.mem_map.1 hs
    exact nofun

/-- A task may go on to another stage if the events that it left are no longer to come. -/
private theorem Sound.replace {trace : List Event} {collected : List α}
    {before after : List (Slot α)}
    {slot : Slot α} {failure : Option Failure} (es : List Event) (slot' : Slot α)
    (h : Sound tasks ⟨trace, collected, before ++ slot :: after, failure⟩)
    (htask : slot'.task = slot.task) (hstage : slot'.stage ≠ .cancelled)
    (hleft : slot.left = es ++ slot'.left) :
    Sound tasks ⟨trace ++ es, collected, before ++ slot' :: after, failure⟩ := by
  cases failure with
  -- after a failure nothing is claimed but the failure
  | some e => exact h
  | none =>
    obtain ⟨hresults, hevents, huncancelled⟩ := h
    refine ⟨?_, List.Perm.trans ?_ hevents, ?_⟩
    · simpa [htask] using hresults
    · -- the events move from the task to the front
      simp only [List.flatMap_append, List.flatMap_cons, hleft, List.append_assoc]
      exact List.Perm.append_left trace (List.perm_append_comm_assoc ..)
    · intro s hs
      rw [List.mem_append, List.mem_cons] at hs
      obtain hs | rfl | hs := hs
      · exact huncancelled s (List.mem_append_left _ hs)
      · exact hstage
      · exact huncancelled s (List.mem_append_right _ (List.mem_cons_of_mem _ hs))

/-- No step changes the order of the outcomes. -/
theorem step_sound (h : Step workers p p') (hp : Sound tasks p) : Sound tasks p' := by
  cases h with
  -- what a worker does with a task moves its events, and neither its result nor its place
  | take hfree =>
    have hsound := Sound.replace [] ⟨_, .running _⟩ hp rfl nofun rfl
    rwa [List.append_nil] at hsound
  | act => exact Sound.replace [_] ⟨_, .running _⟩ hp rfl nofun rfl
  | finish =>
    have hsound := Sound.replace [] ⟨_, .finished⟩ hp rfl nofun rfl
    rwa [List.append_nil] at hsound
  | collect hresult =>
    -- the outcome moves from the tasks that wait to the end of what is collected
    obtain ⟨hresults, hevents, huncancelled⟩ := hp
    refine ⟨?_, hevents, fun s hs => huncancelled s (List.mem_cons_of_mem _ hs)⟩
    simpa [hresult] using hresults
  | stop hresult =>
    -- the first outcome that waits is the failure
    have hresults := hp.results
    rw [List.map_cons, hresult] at hresults
    exact ⟨_, hresults⟩
  | cancel => exact hp

theorem reaches_sound (h : Reaches workers (start tasks) p) : Sound tasks p := by
  induction h with
  | refl => exact start_sound tasks
  | tail _ hstep ih => exact step_sound hstep ih

/-! ### The end -/

/-- How many steps a pool takes at most. -/
def work (p : Pool α) : Nat :=
  (p.waiting.map Slot.work).sum

/-- Every step leaves less to be done. -/
theorem work_lt_of_step (h : Step workers p p') : p'.work < p.work := by
  cases h <;> simp [work, Slot.work]

/-- No pool goes on forever. -/
theorem not_forever (steps : Nat → Pool α) : ¬ ∀ i, Step workers (steps i) (steps (i + 1)) := by
  intro h
  -- every step has used up a unit of the work that there was in the beginning
  have hwork : ∀ i, (steps i).work + i ≤ (steps 0).work := by
    intro i
    induction i with
    | zero => exact Nat.le_refl _
    | succ i ih =>
      have hless := work_lt_of_step (h i)
      omega
  have hlast := hwork ((steps 0).work + 1)
  omega

/-- A worker that is at a task can go on. -/
private theorem exists_step_of_running {slot : Slot α} (hslot : slot ∈ p.waiting)
    (hrunning : slot.isRunning = true) : ∃ p', Step workers p p' := by
  obtain ⟨trace, collected, waiting, failure⟩ := p
  obtain ⟨before, after, rfl⟩ := List.append_of_mem hslot
  obtain ⟨task, stage⟩ := slot
  cases stage with
  | running left =>
    -- its next event is due, or it is done
    cases left with
    | nil => exact ⟨_, .finish⟩
    | cons event left => exact ⟨_, .act⟩
  | pending => cases hrunning
  | finished => cases hrunning
  | cancelled => cases hrunning

/-- A pool without failure does not end before all outcomes are collected. -/
theorem waiting_eq_nil_of_stuck (hworkers : 0 < workers) (hp : Sound tasks p)
    (hstuck : p.IsStuck workers) (hfailure : p.failure = none) : p.waiting = [] := by
  obtain ⟨trace, collected, waiting, failure⟩ := p
  obtain rfl : failure = none := hfailure
  cases waiting with
  | nil => rfl
  | cons slot rest =>
    exfalso
    suffices hstep : ∃ p', Step workers ⟨trace, collected, slot :: rest, none⟩ p' by
      obtain ⟨p', hstep⟩ := hstep
      exact hstuck p' hstep
    obtain ⟨task, stage⟩ := slot
    cases stage with
    | pending =>
      -- if no worker is free, one of them is at a task
      by_cases hfree : busy (⟨task, .pending⟩ :: rest) < workers
      · exact ⟨_, @Step.take α workers trace collected [] rest task none hfree⟩
      · have hbusy : 0 < busy (⟨task, .pending⟩ :: rest) := by omega
        obtain ⟨slot, hslot, hrunning⟩ := List.countP_pos_iff.1 hbusy
        exact exists_step_of_running hslot hrunning
    | running left => exact exists_step_of_running (List.mem_cons_self ..) rfl
    | finished =>
      cases hresult : task.result with
      | ok a => exact ⟨_, .collect hresult⟩
      | error e => exact ⟨_, .stop hresult⟩
    | cancelled => exact absurd rfl (hp.uncancelled _ (List.mem_cons_self ..))

/-- Whatever the order of the steps, the outcome is that of the tasks one after another. -/
theorem Yields.sameUpToOrder {run : Run (List α)} (h : Yields workers tasks run)
    (hworkers : 0 < workers) : run.SameUpToOrder (Run.forEach id tasks) := by
  obtain ⟨p, hreaches, hstuck, rfl⟩ := h
  have hp := reaches_sound hreaches
  have hsequence : (Run.forEach id tasks).result = (tasks.map Run.result).mapM id :=
    Run.result_forEach_eq_mapM id tasks
  cases hfailure : p.failure with
  | some e =>
    -- what was collected before the failure are results
    rw [Sound, hfailure] at hp
    obtain ⟨rest, hresults⟩ := hp
    have hresult : p.outcome.result = .error e := by rw [outcome, hfailure]
    rw [hresults, Run.mapM_id_of_error] at hsequence
    exact ⟨hresult.trans hsequence.symm, fun a ha => by rw [hresult] at ha; cases ha⟩
  | none =>
    -- everything is collected, and no event is still to come
    have hdone := waiting_eq_nil_of_stuck hworkers hp hstuck hfailure
    rw [Sound, hfailure] at hp
    obtain ⟨hresults, hevents, -⟩ := hp
    have hresult : p.outcome.result = .ok p.collected := by rw [outcome, hfailure]
    rw [hdone, List.map_nil, List.append_nil, ← Run.mapM_id_eq_ok_iff, ← hsequence] at hresults
    refine ⟨hresult.trans hresults.symm, fun a _ => ?_⟩
    rw [hdone, List.flatMap_nil, List.append_nil] at hevents
    rw [Run.events_forEach_of_ok hresults]
    exact hevents

/-! ### All tasks first -/

/-- A worker can carry out its task without a break. -/
private theorem reaches_done (trace events : List Event) (collected : List α)
    (before after : List (Slot α)) (task : Run α) (failure : Option Failure) :
    Reaches workers ⟨trace, collected, before ++ ⟨task, .running events⟩ :: after, failure⟩
      ⟨trace ++ events, collected, before ++ ⟨task, .finished⟩ :: after, failure⟩ := by
  -- event by event
  induction events generalizing trace with
  | nil =>
    rw [List.append_nil]
    exact .single .finish
  | cons event left ih =>
    have hrest := ih (trace ++ [event])
    rw [List.append_assoc] at hrest
    exact .head .act hrest

private theorem busy_eq_zero_of_waiting {slots : List (Slot α)}
    (h : ∀ s ∈ slots, s.isRunning = false) : busy slots = 0 := by
  rw [busy, List.countP_eq_zero]
  intro s hs
  rw [h s hs]
  exact Bool.false_ne_true

/-- A single worker can carry out all tasks, one after another. -/
private theorem reaches_all_done (hworkers : 0 < workers) (trace : List Event) (collected : List α)
    (before : List (Slot α)) (hbefore : ∀ s ∈ before, s.isRunning = false)
    (tasks : List (Run α)) :
    Reaches workers ⟨trace, collected, before ++ tasks.map (Slot.mk · .pending), none⟩
      ⟨trace ++ tasks.flatMap Run.events, collected, before ++ tasks.map (Slot.mk · .finished),
        none⟩ := by
  induction tasks generalizing trace before with
  | nil =>
    rw [List.flatMap_nil, List.append_nil]
    exact .refl
  | cons task rest ih =>
    -- the first task is taken while no worker is busy, and finished before the next one is taken
    have hidle : ∀ s ∈ before ++ ⟨task, .pending⟩ :: rest.map (Slot.mk · .pending),
        s.isRunning = false := by
      intro s hs
      rw [List.mem_append, List.mem_cons, List.mem_map] at hs
      obtain hs | rfl | ⟨task', -, rfl⟩ := hs
      · exact hbefore s hs
      · rfl
      · rfl
    have hfirst : Reaches workers
        ⟨trace, collected, before ++ ⟨task, .pending⟩ :: rest.map (Slot.mk · .pending), none⟩
        ⟨trace ++ task.events, collected,
          before ++ ⟨task, .finished⟩ :: rest.map (Slot.mk · .pending), none⟩ :=
      .head (.take (by rwa [busy_eq_zero_of_waiting hidle])) (reaches_done ..)
    have hrest := ih (trace ++ task.events) (before ++ [⟨task, .finished⟩]) (by
      intro s hs
      rw [List.mem_append, List.mem_singleton] at hs
      obtain hs | rfl := hs
      · exact hbefore s hs
      · rfl)
    simp only [List.append_assoc, List.singleton_append] at hrest
    exact hfirst.trans hrest

/-- No worker has anything to do, and there is a failure or nothing to collect. -/
private theorem isStuck_of_done (hdone : ∀ s ∈ p.waiting, s.stage = .finished)
    (hcollected : p.failure = none → p.waiting = []) : p.IsStuck workers := by
  intro p' h
  cases h with
  | take => exact nomatch hdone _ (List.mem_append_right _ (List.mem_cons_self ..))
  | act => exact nomatch hdone _ (List.mem_append_right _ (List.mem_cons_self ..))
  | finish => exact nomatch hdone _ (List.mem_append_right _ (List.mem_cons_self ..))
  | collect => exact nomatch hcollected rfl
  | stop => exact nomatch hcollected rfl
  | cancel => exact nomatch hdone _ (List.mem_append_right _ (List.mem_cons_self ..))

/-- When all tasks are finished, the collector comes to the outcomes or to the first failure. -/
private theorem reaches_collected (trace : List Event) (collected : List α) (tasks : List (Run α)) :
    ∃ p, Reaches workers ⟨trace, collected, tasks.map (Slot.mk · .finished), none⟩ p ∧
      p.IsStuck workers ∧
      p.outcome = ⟨trace, ((tasks.map Run.result).mapM id).map (collected ++ ·)⟩ := by
  induction tasks generalizing collected with
  | nil =>
    refine ⟨_, .refl, isStuck_of_done (by simp) fun _ => rfl, ?_⟩
    simp [outcome, pure, Except.pure, Except.map]
  | cons task rest ih =>
    rw [List.map_cons, List.map_cons, List.mapM_cons]
    cases hresult : task.result with
    -- the first failure ends the collection
    | error e =>
      refine ⟨_, .single (.stop hresult), isStuck_of_done (by simp) nofun, rfl⟩
    | ok a =>
      obtain ⟨p, hreaches, hstuck, houtcome⟩ := ih (collected ++ [a])
      refine ⟨p, .head (.collect hresult) hreaches, hstuck, houtcome.trans ?_⟩
      cases (rest.map Run.result).mapM id with
      | error e => rfl
      | ok as => simp [bind, Except.bind, pure, Except.pure, Except.map]

/-- Carrying out all tasks before their outcomes are looked at is one order of the steps. -/
theorem yields_forAll (hworkers : 0 < workers) (tasks : List (Run α)) :
    Yields workers tasks (Run.forAll id tasks) := by
  have hdone := reaches_all_done hworkers [] [] [] (by simp) tasks
  obtain ⟨p, hreaches, hstuck, houtcome⟩ :=
    @reaches_collected α workers (tasks.flatMap Run.events) [] tasks
  refine ⟨p, hdone.trans hreaches, hstuck, houtcome.trans ?_⟩
  have hresult : (Run.forAll id tasks).result = (tasks.map Run.result).mapM id :=
    (Run.result_forAll_eq_forEach id tasks).trans (Run.result_forEach_eq_mapM id tasks)
  have hevents : (Run.forAll id tasks).events = tasks.flatMap Run.events :=
    Run.events_forAll id tasks
  -- what the pool ends with is the run of all tasks
  rw [← hresult, ← hevents]
  generalize Run.forAll id tasks = run
  obtain ⟨events, result⟩ := run
  cases result <;> rfl

end Pool

end SharedTables
