import Mathlib
import SharedTables.Run

/-!
# Results of runs

What the parts of a run come to and what the run comes to.

## Key results

- `LawfulMonad Run`: sequences can be put together in any order
- `result_bind_of_ok`, `result_bind_of_error`: the result of a sequence
- `mapM_eq_ok_iff`, `mapM_eq_error_iff`: steps on a list succeed, or fail with the first that fails
- `exists_mapM_eq_ok_iff`: steps on a list succeed iff each of them does
- `result_forEach_eq_ok_iff`, `result_forAll_eq_ok_iff`: operations on a list come to the list of
  what each comes to, whether they stop at the first failure or not
- `result_forAll_eq_forEach`: if one fails, both ways come to the first failure
- `events_bind_of_ok`, `events_forEach_of_ok`: the events of what succeeds
- `SameUpToOrder.bind`: what comes after an operation does not depend on the order of its events
-/

namespace SharedTables

namespace Run

variable {α β : Type}

/-! ### Sequences -/

/-- Operations in sequence can be put together in any order. -/
protected theorem bind_assoc {γ : Type} (r : Run α) (f : α → Run β) (g : β → Run γ) :
    r >>= f >>= g = r >>= fun a => f a >>= g := by
  obtain ⟨events, result⟩ := r
  cases result with
  | error e => rfl
  | ok a =>
    show Run.bind (Run.bind ⟨events, .ok a⟩ f) g =
      Run.bind ⟨events, .ok a⟩ fun a => Run.bind (f a) g
    cases hf : (f a).result with
    | error e => simp only [Run.bind, hf]
    | ok b => simp only [Run.bind, hf, List.append_assoc]

instance : LawfulMonad Run :=
  LawfulMonad.mk' Run
    (fun r => by
      obtain ⟨events, result⟩ := r
      cases result with
      | error e => rfl
      | ok a => exact congrArg (Run.mk · (.ok a)) (List.append_nil events))
    (fun _ _ => rfl)
    Run.bind_assoc

/-- A result that is there already leaves nothing. -/
theorem ofExcept_ok (a : α) : ofExcept (.ok a) = pure a := rfl

/-- After an operation that succeeds the next one counts. -/
theorem result_bind_of_ok {r : Run α} {a : α} (h : r.result = .ok a) (f : α → Run β) :
    (r >>= f).result = (f a).result := by
  show (Run.bind r f).result = _
  unfold Run.bind
  rw [h]

/-- An operation that fails ends the sequence. -/
theorem result_bind_of_error {r : Run α} {e : Failure} (h : r.result = .error e) (f : α → Run β) :
    (r >>= f).result = .error e := by
  show (Run.bind r f).result = _
  unfold Run.bind
  rw [h]

/-- Only what the parts come to counts for the result of a sequence. -/
private theorem result_bind_congr {r r' : Run α} {f f' : α → Run β} (hr : r.result = r'.result)
    (hf : ∀ a, (f a).result = (f' a).result) : (r >>= f).result = (r' >>= f').result := by
  cases hfirst : r.result with
  | error e => rw [result_bind_of_error hfirst, result_bind_of_error (hr.symm.trans hfirst)]
  | ok a => rw [result_bind_of_ok hfirst, result_bind_of_ok (hr.symm.trans hfirst), hf]

/-- After an operation that succeeds the events of the next one follow. -/
theorem events_bind_of_ok {r : Run α} {a : α} (h : r.result = .ok a) (f : α → Run β) :
    (r >>= f).events = r.events ++ (f a).events := by
  rw [events_bind, h]

/-- A message changes nothing about the result. -/
@[simp] theorem result_log_bind (level : LogLevel) (text : String) (r : Run α) :
    (log level text >>= fun _ => r).result = r.result := rfl

/-! ### The order of events -/

/-- Two operations come to the same, and if they succeed, their events are the same up to their
    order. -/
structure SameUpToOrder (r r' : Run α) : Prop where
  result_eq : r.result = r'.result
  events_perm : ∀ a, r.result = .ok a → r.events.Perm r'.events

/-- An operation comes to the same as itself. -/
theorem SameUpToOrder.rfl {r : Run α} : r.SameUpToOrder r :=
  ⟨Eq.refl _, fun _ _ => .refl _⟩

/-- What comes after an operation does not depend on the order of its events. -/
theorem SameUpToOrder.bind {r r' : Run α} {f f' : α → Run β} (hr : r.SameUpToOrder r')
    (hf : ∀ a, (f a).SameUpToOrder (f' a)) : (r >>= f).SameUpToOrder (r' >>= f') := by
  refine ⟨result_bind_congr hr.result_eq fun a => (hf a).result_eq, fun b hb => ?_⟩
  obtain ⟨a, ha, hb⟩ := result_bind_eq_ok_iff.1 hb
  rw [events_bind_of_ok ha, events_bind_of_ok (hr.result_eq.symm.trans ha)]
  exact (hr.events_perm a ha).append ((hf a).events_perm b hb)

/-! ### Lists of outcomes -/

/-- Outcomes are all results exactly if they are those of a list. -/
theorem mapM_id_eq_ok_iff {outcomes : List (Except Failure α)} {as : List α} :
    outcomes.mapM id = .ok as ↔ outcomes = as.map .ok := by
  -- one outcome is taken off both lists at a time
  induction outcomes generalizing as with
  | nil => cases as <;> simp [pure, Except.pure]
  | cons outcome rest ih =>
    rw [List.mapM_cons]
    cases outcome with
    | error e => cases as <;> simp [bind, Except.bind]
    | ok a =>
      constructor
      · intro h
        cases hrest : rest.mapM id with
        | error e =>
          rw [hrest] at h
          cases h
        | ok as' =>
          rw [hrest] at h
          obtain rfl : a :: as' = as := Except.ok.inj h
          rw [List.map_cons, ih.1 hrest]
      · intro h
        cases as with
        | nil => simp at h
        | cons a' as' =>
          obtain ⟨ha, hrest⟩ := List.cons.inj h
          obtain rfl := Except.ok.inj ha
          rw [ih.2 hrest]
          rfl

/-- Steps on a list come to a list exactly if each comes to its element. -/
theorem mapM_eq_ok_iff {f : α → Except Failure β} {as : List α} {bs : List β} :
    as.mapM f = .ok bs ↔ as.map f = bs.map .ok := by
  rw [← mapM_id_eq_ok_iff, List.mapM_map]
  rfl

/-- The first element for which `q` holds, after elements for which `p` holds, is the head of a list
    or is found in its tail. -/
private theorem exists_first_cons_iff {p q : α → Prop} {a : α} {rest : List α} :
    (∃ before b after, a :: rest = before ++ b :: after ∧ (∀ c ∈ before, p c) ∧ q b) ↔
      q a ∨ p a ∧ ∃ before b after, rest = before ++ b :: after ∧ (∀ c ∈ before, p c) ∧ q b := by
  constructor
  · rintro ⟨before, b, after, hlist, hbefore, hb⟩
    cases before with
    | nil =>
      obtain ⟨rfl, -⟩ := List.cons.inj hlist
      exact .inl hb
    | cons c before =>
      obtain ⟨rfl, hrest⟩ := List.cons.inj hlist
      rw [List.forall_mem_cons] at hbefore
      exact .inr ⟨hbefore.1, before, b, after, hrest, hbefore.2, hb⟩
  · rintro (ha | ⟨ha, before, b, after, rfl, hbefore, hb⟩)
    · exact ⟨[], a, rest, rfl, List.forall_mem_nil _, ha⟩
    · exact ⟨a :: before, b, after, rfl, List.forall_mem_cons.2 ⟨ha, hbefore⟩, hb⟩

/-- Steps on a list fail with the failure of the first that fails. -/
theorem mapM_eq_error_iff {f : α → Except Failure β} {as : List α} {e : Failure} :
    as.mapM f = .error e ↔ ∃ before a after, as = before ++ a :: after ∧
      (∀ b ∈ before, ∃ c, f b = .ok c) ∧ f a = .error e := by
  induction as with
  | nil =>
    refine iff_of_false nofun ?_
    rintro ⟨before, a, after, has, -⟩
    cases before <;> cases has
  | cons a rest ih =>
    rw [exists_first_cons_iff, ← ih, List.mapM_cons]
    -- the first step fails, or it is passed and the rest decides
    cases hfirst : f a with
    | error e' => simp [bind, Except.bind]
    | ok b => cases rest.mapM f <;> simp [bind, Except.bind, pure, Except.pure]

/-- Steps on a list come to a list exactly if each comes to something. -/
theorem exists_mapM_eq_ok_iff {f : α → Except Failure β} {as : List α} :
    (∃ bs, as.mapM f = .ok bs) ↔ ∀ a ∈ as, ∃ b, f a = .ok b := by
  constructor
  · rintro ⟨bs, h⟩ a ha
    have hmem := List.mem_map_of_mem (f := f) ha
    rw [mapM_eq_ok_iff.1 h] at hmem
    obtain ⟨b, -, hb⟩ := List.mem_map.1 hmem
    exact ⟨b, hb.symm⟩
  · intro h
    cases hbs : as.mapM f with
    | ok bs => exact ⟨bs, rfl⟩
    | error e =>
      -- the failure would be that of one of the steps
      obtain ⟨before, a, after, rfl, -, ha⟩ := mapM_eq_error_iff.1 hbs
      obtain ⟨b, hb⟩ := h a (by simp)
      rw [hb] at ha
      cases ha

/-- Of outcomes that are not all results the first failure counts. -/
theorem mapM_id_of_error (as : List α) (e : Failure) (rest : List (Except Failure α)) :
    (as.map Except.ok ++ Except.error e :: rest).mapM id = .error e := by
  induction as with
  | nil => rfl
  | cons a as ih =>
    rw [List.map_cons, List.cons_append, List.mapM_cons, ih]
    rfl

/-- A list of values is there if every element has its value. -/
theorem map_eq_of_mapM_eq_some {f : α → Option β} {as : List α} {bs : List β}
    (h : as.mapM f = some bs) : as.map f = bs.map some := by
  induction as generalizing bs with
  | nil =>
    obtain rfl : [] = bs := Option.some.inj h
    rfl
  | cons a rest ih =>
    rw [List.mapM_cons] at h
    obtain ⟨b, hb, h⟩ := Option.bind_eq_some_iff.1 h
    obtain ⟨bs', hrest, h⟩ := Option.bind_eq_some_iff.1 h
    obtain rfl : b :: bs' = bs := Option.some.inj h
    rw [List.map_cons, List.map_cons, hb, ih hrest]

/-- Values of all elements make up a list. -/
theorem mapM_eq_some_map {f : α → Option β} {g : α → β} {as : List α}
    (h : ∀ a ∈ as, f a = some (g a)) : as.mapM f = some (as.map g) := by
  induction as with
  | nil => rfl
  | cons a rest ih =>
    rw [List.forall_mem_cons] at h
    rw [List.mapM_cons, h.1, ih h.2]
    rfl

/-! ### Lists of operations -/

/-- Operations that all succeed have a list of results. -/
theorem result_forEach {f : α → Run β} {g : α → β} {as : List α}
    (h : ∀ a ∈ as, (f a).result = .ok (g a)) : (forEach f as).result = .ok (as.map g) := by
  induction as with
  | nil => rfl
  | cons a as ih =>
    rw [List.forall_mem_cons] at h
    rw [forEach, result_bind_of_ok h.1, result_bind_of_ok (ih h.2)]
    rfl

/-- Operations one after another come to what the list of their outcomes comes to. -/
theorem result_forEach_eq_mapM (f : α → Run β) (as : List α) :
    (forEach f as).result = (as.map fun a => (f a).result).mapM id := by
  induction as with
  | nil => rfl
  | cons a rest ih =>
    rw [forEach, List.map_cons, List.mapM_cons]
    cases hfirst : (f a).result with
    | error e => rw [result_bind_of_error hfirst]; rfl
    | ok b =>
      rw [result_bind_of_ok hfirst, ← ih]
      -- the rest stops where the list of its outcomes does
      cases hrest : (forEach f rest).result with
      | error e => rw [result_bind_of_error hrest]; rfl
      | ok bs => rw [result_bind_of_ok hrest]; rfl

/-- Going on when an operation fails comes to the same as stopping there. -/
theorem result_forAll_eq_forEach (f : α → Run β) (as : List α) :
    (forAll f as).result = (forEach f as).result := by
  have hattempts : (forEach (fun a => (f a).attempt) as).result =
      .ok (as.map fun a => (f a).result) := result_forEach fun a _ => rfl
  rw [forAll, result_bind_of_ok hattempts, result_forEach_eq_mapM]
  rfl

/-- Operations one after another come to a list exactly if each comes to its element. -/
theorem result_forEach_eq_ok_iff {f : α → Run β} {as : List α} {bs : List β} :
    (forEach f as).result = .ok bs ↔ as.map (fun a => (f a).result) = bs.map .ok := by
  rw [result_forEach_eq_mapM, mapM_id_eq_ok_iff]

/-- Operations that go on when one fails come to what they come to one after another. -/
theorem result_forAll_eq_ok_iff {f : α → Run β} {as : List α} {bs : List β} :
    (forAll f as).result = .ok bs ↔ as.map (fun a => (f a).result) = bs.map .ok := by
  rw [result_forAll_eq_forEach, result_forEach_eq_ok_iff]

/-- If operations one after another succeed, each does. -/
theorem exists_result_of_forEach {f : α → Run β} {as : List α} {bs : List β}
    (h : (forEach f as).result = .ok bs) {a : α} (ha : a ∈ as) : ∃ b, (f a).result = .ok b := by
  have hmem := List.mem_map_of_mem (f := fun a => (f a).result) ha
  rw [result_forEach_eq_ok_iff.1 h] at hmem
  obtain ⟨b, -, hb⟩ := List.mem_map.1 hmem
  exact ⟨b, hb.symm⟩

/-- Operations that are prepared first come to the same. -/
theorem forEach_id_map (f : α → Run β) (as : List α) : forEach id (as.map f) = forEach f as := by
  induction as with
  | nil => rfl
  | cons a rest ih => rw [List.map_cons, forEach, forEach, ih]; rfl

/-- So they do if all are carried out in any case. -/
theorem forAll_id_map (f : α → Run β) (as : List α) : forAll id (as.map f) = forAll f as := by
  have hattempts : forEach (fun r : Run β => r.attempt) (as.map f) =
      forEach (fun a => (f a).attempt) as := by
    rw [← forEach_id_map, ← forEach_id_map (fun a => (f a).attempt), List.map_map]
    rfl
  rw [forAll, forAll]
  simp only [id_eq, hattempts]

/-- Operations that all succeed leave their events one after another. -/
theorem events_forEach_of_ok {f : α → Run β} {as : List α} {bs : List β}
    (h : (forEach f as).result = .ok bs) :
    (forEach f as).events = as.flatMap fun a => (f a).events := by
  induction as generalizing bs with
  | nil => rfl
  | cons a rest ih =>
    obtain ⟨b, hfirst, h⟩ := result_bind_eq_ok_iff.1 h
    obtain ⟨bs', hrest, -⟩ := result_bind_eq_ok_iff.1 h
    rw [forEach, events_bind_of_ok hfirst, events_bind_of_ok hrest, ih hrest, events_pure,
      List.append_nil, List.flatMap_cons]

/-- Operations that go on when one fails leave the events of all. -/
theorem events_forAll (f : α → Run β) (as : List α) :
    (forAll f as).events = as.flatMap fun a => (f a).events := by
  -- an attempt does not fail, so all of them are made
  have hattempts : (forEach (fun a => (f a).attempt) as).result =
      .ok (as.map fun a => (f a).result) := result_forEach fun a _ => rfl
  rw [forAll, events_bind_of_ok hattempts, events_forEach_of_ok hattempts]
  exact List.append_nil _

end Run

end SharedTables
