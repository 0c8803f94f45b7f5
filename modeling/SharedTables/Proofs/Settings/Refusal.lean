import Mathlib
import SharedTables.Proofs.Settings.Priority

/-!
# Settings that are refused

Settings are usable, or loading them fails with what is wrong with them, whatever the sources say
for each of them.  There are three exceptions, in which another failure comes out
(`Settings.Escapes`): a time limit and a number of workers that are too large for their kinds, and
too small a number of workers that is too long to be written in the message.

## Key results

- `Value.toFloat_overflows_iff`, `Value.toInteger_overflows_iff`: the values that are too large for
  their kinds
- `Settings.usableOrRefused_converted_iff`: settings are usable or refused unless they escape
- `Settings.loaded_usable_or_refused_iff`: so are those that are loaded
- `Settings.infinite_workers_not_refused`: infinitely many workers escape
-/

namespace SharedTables

namespace Value

/-- The conversion fails because the value is too large for its kind. -/
def Overflows {α : Type} (r : Except NumberError α) : Prop :=
  ∃ e, r = .error e ∧ e.isOverflow = true

/-- What has been converted was not too large. -/
@[simp] theorem not_overflows_ok {α : Type} (a : α) : ¬ Overflows (.ok a) :=
  fun ⟨_, h, _⟩ => nomatch h

/-- A failure tells whether the value was too large. -/
@[simp] theorem overflows_error_iff {α : Type} {e : NumberError} :
    Overflows (.error e : Except NumberError α) ↔ e.isOverflow = true := by
  constructor
  · rintro ⟨e', h, hoverflow⟩
    cases h
    exact hoverflow
  · intro h
    exact ⟨e, rfl, h⟩

/-- No text is too large for a floating-point number. -/
private theorem not_overflows_readFloat (s : String) : ¬ Overflows (Number.readFloat s) := by
  rw [Number.readFloat]
  cases Number.readBinary? Binary.double s with
  | some x => exact not_overflows_ok x
  | none => simp [NumberError.isOverflow]

/-- No text is too large for an integer; it may have too many digits to be read. -/
private theorem not_overflows_readInteger (s : String) : ¬ Overflows (Number.readInteger s) := by
  simp only [Number.readInteger]
  -- the ways of failing are taken in the order of the reader, and none of them is an overflow
  split
  · simp [NumberError.isOverflow]
  · split
    · simp [NumberError.isOverflow]
    · split
      · simp [NumberError.isOverflow]
      · split
        · exact not_overflows_ok _
        · simp [NumberError.isOverflow]

/-- Only integers are too large for a floating-point number. -/
theorem toFloat_overflows_iff {v : Value} :
    Overflows v.toFloat ↔ ∃ n, v = .int n ∧ (Binary.double.ofInt n).isFinite = false := by
  cases v with
  | int n =>
    simp only [toFloat, int.injEq, exists_eq_left']
    cases (Binary.double.ofInt n).isFinite with
    | true => simp
    | false => simp [NumberError.isOverflow]
  | text s => simp [toFloat, not_overflows_readFloat]
  | bool b => simp [toFloat]
  | float x => simp [toFloat]
  | null | date | moment | list | object => simp [toFloat, NumberError.isOverflow]

/-- Only infinities are too large for an integer. -/
theorem toInteger_overflows_iff {v : Value} :
    Overflows v.toInteger ↔ ∃ negative, v = .float (.infinite negative) := by
  cases v with
  | float x => cases x <;> simp [toInteger, Binary.truncate, NumberError.isOverflow]
  | text s => simp [toInteger, not_overflows_readInteger]
  | int n => simp [toInteger]
  | bool b => simp [toInteger]
  | null | date | moment | list | object => simp [toInteger, NumberError.isOverflow]

end Value

namespace Settings

variable {files : Files} {path : Option String} {environment : Environment}
  {overrides members : Members} {s : Settings}

/-- What has to be given is given, and the number of workers is a positive integer. -/
structure Usable (s : Settings) : Prop where
  required : s.HasRequired
  workers : ∃ n : Int, s.maxWorkers = .int n ∧ 1 ≤ n

/-- There are usable settings, or they are missing because something is wrong with them. -/
inductive UsableOrRefused (r : Except Failure Settings) : Prop
  | usable {s : Settings} (loaded : r = .ok s) (usable : s.Usable)
  | refused {e : ConfigError} (refused : r = .error (.config e))

/-- The time limit is an integer that is too large for a floating-point number, or the number of
    workers is infinite, or it is an integer below one that has too many digits to be written.
    What is converted or checked earlier is in order. -/
inductive Escapes (s : Settings) : Prop
  | timeout {n : Int} (timeout_eq : s.timeout = .int n)
      (large : (Binary.double.ofInt n).isFinite = false)
  | infinite {x : Binary} {negative : Bool} (timeout : s.timeout.toFloat = .ok x)
      (maxWorkers_eq : s.maxWorkers = .float (.infinite negative))
  | digits {x : Binary} {n : Int} (timeout : s.timeout.toFloat = .ok x)
      (maxWorkers : s.maxWorkers.toInteger = .ok n) (required : s.HasRequired) (few : n < 1)
      (long : maxIntegerDigits < (natText n.natAbs).length)

/-- Only failures of the settings refuse them. -/
private theorem usableOrRefused_error_iff {f : Failure} :
    UsableOrRefused (.error f) ↔ ∃ e, f = .config e := by
  constructor
  · rintro (⟨⟨⟩, -⟩ | h)
    exact ⟨_, Except.error.inj h⟩
  · rintro ⟨e, rfl⟩
    exact .refused rfl

/-- A number that is not converted refuses the settings unless it is too large. -/
private theorem usableOrRefused_refusal_iff {e : NumberError} :
    UsableOrRefused (.error (refusal e)) ↔ ¬ e.isOverflow = true := by
  rw [usableOrRefused_error_iff, refusal]
  split
  · rename_i h
    simp [h]
  · rename_i h
    simp [h]

/-- Settings escape in the order in which they are converted and checked. -/
theorem escapes_iff : s.Escapes ↔ Value.Overflows s.timeout.toFloat ∨
    ∃ x, s.timeout.toFloat = .ok x ∧ (Value.Overflows s.maxWorkers.toInteger ∨
      ∃ n, s.maxWorkers.toInteger = .ok n ∧ s.HasRequired ∧ n < 1 ∧
        (Value.int n).hasText = false) := by
  have hlong : ∀ n : Int, (Value.int n).hasText = false ↔
      maxIntegerDigits < (natText n.natAbs).length := by
    intro n
    rw [Value.hasText, decide_eq_false_iff_not, not_le]
  constructor
  · intro h
    cases h with
    | timeout heq hlarge => exact .inl (Value.toFloat_overflows_iff.2 ⟨_, heq, hlarge⟩)
    | infinite hx heq => exact .inr ⟨_, hx, .inl (Value.toInteger_overflows_iff.2 ⟨_, heq⟩)⟩
    | digits hx hn hrequired hfew hdigits =>
      exact .inr ⟨_, hx, .inr ⟨_, hn, hrequired, hfew, (hlong _).2 hdigits⟩⟩
  · rintro (hoverflow | ⟨x, hx, hoverflow | ⟨n, hn, hrequired, hfew, htext⟩⟩)
    · obtain ⟨n, heq, hlarge⟩ := Value.toFloat_overflows_iff.1 hoverflow
      exact .timeout heq hlarge
    · obtain ⟨negative, heq⟩ := Value.toInteger_overflows_iff.1 hoverflow
      exact .infinite hx heq
    · exact .digits hx hn hrequired hfew ((hlong n).1 htext)

/-- Settings are usable or refused unless they escape. -/
theorem usableOrRefused_converted_iff : UsableOrRefused s.converted ↔ ¬ s.Escapes := by
  rw [escapes_iff]
  -- what is converted first is looked at first
  cases hx : s.timeout.toFloat with
  | error e => simp [converted_of_timeout hx, usableOrRefused_refusal_iff]
  | ok x =>
    cases hn : s.maxWorkers.toInteger with
    | error e => simp [converted_of_maxWorkers hx hn, usableOrRefused_refusal_iff]
    | ok n =>
      rw [converted_of_numbers hx hn]
      by_cases hrequired : s.HasRequired
      · by_cases hpositive : 1 ≤ n
        · rw [check_withNumbers_of_positive hrequired x hpositive]
          simpa [hpositive] using .usable rfl ⟨hrequired, n, rfl, hpositive⟩
        · have hfew := not_le.1 hpositive
          -- the message has the number in it, so this must have a text
          rw [check_withNumbers_of_few hrequired x hfew, usableOrRefused_error_iff]
          cases htext : (Value.int n).hasText <;> simp [hrequired, hfew, htext]
      · obtain ⟨key, hkey⟩ := check_withNumbers_of_missing hrequired x n
        rw [hkey]
        simpa [hrequired] using .refused rfl

/-- Loaded settings are usable or refused unless what the sources choose escapes. -/
theorem loaded_usable_or_refused_iff (h : Supplies files path members) :
    UsableOrRefused (load files path environment overrides) ↔
      ¬ (ofChosen (chosen? members environment overrides)).Escapes := by
  rw [load_eq_converted h, usableOrRefused_converted_iff]

/-- A number of workers that is a word is refused. -/
theorem loaded_usable_or_refused_of_word :
    Supplies [("a.yaml", sectionText)] (some "./a.yaml") sectionMembers ∧
      UsableOrRefused (load [("a.yaml", sectionText)] (some "./a.yaml")
        [("DELTA_QUERY_MAX_WORKERS", "many")] [("bearer_token", .text "t")]) := by
  refine ⟨supplies_sectionMembers, (loaded_usable_or_refused_iff supplies_sectionMembers).2 ?_⟩
  have hchosen : ofChosen (chosen? sectionMembers [("DELTA_QUERY_MAX_WORKERS", "many")]
      [("bearer_token", .text "t")]) = ⟨.text "e", .text "t", .text "inner", defaultSchema,
        defaultTimeout, .text "many", .bool false⟩ := by decide +kernel
  -- the conversion of the word fails, and not because it is too large
  have hword : Number.readInteger "many" = .error (.notInteger "many") := by decide +kernel
  rw [hchosen, escapes_iff]
  simp [defaultTimeout, Value.toFloat, Value.toInteger, hword, NumberError.isOverflow]

/-- Infinitely many workers are neither usable nor refused. -/
theorem infinite_workers_not_refused :
    load [] none [] [("endpoint", .text "e"), ("bearer_token", .text "t"), ("share", .text "s"),
        ("max_workers", .float (.infinite false))] = .error (.number .infinityToInteger) ∧
      ¬ ∀ overrides, UsableOrRefused (load [] none [] overrides) := by
  have hchosen : ofChosen (chosen? [] [] [("endpoint", .text "e"), ("bearer_token", .text "t"),
      ("share", .text "s"), ("max_workers", .float (.infinite false))]) =
        ⟨.text "e", .text "t", .text "s", defaultSchema, defaultTimeout,
          .float (.infinite false), .bool false⟩ := by decide +kernel
  have hload : load [] none [] [("endpoint", .text "e"), ("bearer_token", .text "t"),
      ("share", .text "s"), ("max_workers", .float (.infinite false))] =
        .error (.number .infinityToInteger) := by
    rw [load_eq_converted .noFile, hchosen]
    rfl
  refine ⟨hload, fun h => ?_⟩
  have husable := h [("endpoint", .text "e"), ("bearer_token", .text "t"), ("share", .text "s"),
    ("max_workers", .float (.infinite false))]
  rw [hload, usableOrRefused_error_iff] at husable
  obtain ⟨e, he⟩ := husable
  cases he

end Settings

end SharedTables
