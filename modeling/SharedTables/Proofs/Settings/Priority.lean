import Mathlib
import SharedTables.Settings.Source

/-!
# The priority of settings

A setting is an override that is not null, or else a variable that is not empty, or else what the
file says about it (`Settings.chosen?`).  Settings are loaded from these choices alone: the three
sources are merged before nulls are dropped, yet no entry has a say in any setting but its own.

## Key results

- `Members.given?_merge`: what is given under a name when members are written over others
- `Settings.load_eq_converted`: settings are loaded from what the sources choose for each of them
- `Settings.converted_eq_ok_iff`: which choices make settings, and what these are
- `Settings.settings_follow_priority`: each setting is its own choice, and unknown names count for
  nothing
-/

namespace SharedTables

namespace Members

variable {members updates : Members} {name other : String} {v : Value}

/-- What members give under a name: the first value there that is not null. -/
def given? (members : Members) (name : String) : Option Value :=
  (members.find? fun m => m.1 == name && !m.2.isNull).map (·.2)

/-- Members count in order: the first of them give what they can. -/
private theorem given?_append (members others : Members) (name : String) :
    given? (members ++ others) name = (given? members name).or (given? others name) := by
  rw [given?, List.find?_append, Option.map_or]
  rfl

/-- The first member gives what it can. -/
private theorem given?_cons (m : String × Value) (rest : Members) (name : String) :
    given? (m :: rest) name = (given? [m] name).or (given? rest name) :=
  given?_append [m] rest name

/-- One member gives its value under its name. -/
private theorem given?_singleton_self (hv : v.isNull = false) : given?
    [(name, v)] name = some v := by
  simp [given?, hv]

/-- One member gives nothing under other names. -/
private theorem given?_singleton_of_ne (h : other ≠ name) : given? [(name, v)] other = none := by
  simp [given?, h.symm]

/-- Leaving out nulls and other names changes nothing. -/
private theorem given?_filter {p : String × Value → Bool}
    (h : ∀ m : String × Value, m.1 = name → m.2.isNull = false → p m = true)
    (members : Members) : given? (members.filter p) name = given? members name := by
  simp only [given?, List.find?_filter]
  -- both search for the first member that passes a test, and the tests agree
  congr 2
  funext m
  rw [Bool.eq_iff_iff]
  simp only [Bool.decide_and, Bool.decide_eq_true, Bool.and_eq_true, beq_iff_eq,
    Bool.not_eq_true', decide_eq_true_eq, and_iff_right_iff_imp, and_imp]
  exact h m

/-- Where nulls are left out, what is given is what is first under the name. -/
private theorem lookup?_filter {p : String × Value → Bool}
    (h : ∀ m : String × Value, m.1 = name → (p m = true ↔ m.2.isNull = false))
    (members : Members) : lookup? (members.filter p) name = given? members name := by
  simp only [lookup?, given?, List.find?_filter]
  congr 2
  funext m
  rw [Bool.eq_iff_iff]
  simp only [Bool.decide_and, Bool.decide_eq_true, Bool.and_eq_true, beq_iff_eq,
    Bool.not_eq_true', decide_eq_true_eq]
  rw [and_comm]
  exact and_congr_right (h m)

/-- What is written under a name is given there. -/
private theorem given?_insert_self (hv : v.isNull = false) :
    given? (insert members name v) name = some v := by
  induction members with
  | nil => exact given?_singleton_self hv
  | cons m rest ih =>
    obtain ⟨n, w⟩ := m
    rw [insert]
    split
    · -- the member has the name already: its value is replaced
      rename_i hn
      rw [hn, given?_cons, given?_singleton_self hv, Option.some_or]
    · -- it has another name: the value is written further on
      rename_i hn
      rw [given?_cons, given?_singleton_of_ne (Ne.symm hn), Option.none_or, ih]

/-- Writing one name leaves what is given under the others. -/
private theorem given?_insert_of_ne (h : other ≠ name) :
    given? (insert members name v) other = given? members other := by
  induction members with
  | nil => exact given?_singleton_of_ne h
  | cons m rest ih =>
    obtain ⟨n, w⟩ := m
    rw [insert]
    split
    · rename_i hn
      subst hn
      rw [given?_cons (n, v), given?_cons (n, w), given?_singleton_of_ne h,
        given?_singleton_of_ne h]
    · rw [given?_cons, ih, ← given?_cons]

/-- Of members written over others the last under a name counts, and the others where there is
    none. -/
theorem given?_merge (h : ∀ m ∈ updates, m.2.isNull = false) (members : Members) (name : String) :
    given? (merge members updates) name =
      (given? updates.reverse name).or (given? members name) := by
  -- the members change with every update, so they are arbitrary in the induction
  induction updates generalizing members with
  | nil => rfl
  | cons m rest ih =>
    obtain ⟨n, w⟩ := m
    have hw : w.isNull = false := h _ List.mem_cons_self
    have hmerge : merge members ((n, w) :: rest) = merge (members.insert n w) rest := rfl
    rw [hmerge, ih fun m hm => h m (List.mem_cons_of_mem _ hm), List.reverse_cons, given?_append,
      Option.or_assoc]
    congr 1
    -- the first of the updates counts after the others, and before what it is written over
    by_cases hn : name = n
    · rw [hn, given?_insert_self hw, given?_singleton_self hw, Option.some_or]
    · rw [given?_insert_of_ne hn, given?_singleton_of_ne hn, Option.none_or]

/-- What is given under a name, where all that is not null there is one value. -/
private theorem given?_eq_of_forall {found : Option Value}
    (h : ∀ w : Value, w.isNull = false → ((name, w) ∈ members ↔ found = some w))
    (hfound : ∀ w ∈ found, w.isNull = false) : given? members name = found := by
  rw [given?]
  cases hfind : members.find? fun m => m.1 == name && !m.2.isNull with
  | some m =>
    obtain ⟨n, w⟩ := m
    have hm := List.find?_some hfind
    rw [Bool.and_eq_true, beq_iff_eq, Bool.not_eq_true'] at hm
    obtain ⟨rfl, hw⟩ := hm
    -- nothing is given, so there is no value that could be the one found
    exact ((h w hw).1 (List.mem_of_find?_eq_some hfind)).symm
  | none =>
    rw [List.find?_eq_none] at hfind
    symm
    rw [Option.map_none, Option.eq_none_iff_forall_ne_some]
    intro w hw
    exact hfind _ ((h w (hfound w hw)).2 hw) (by simp [hfound w hw])

end Members

namespace Settings

variable {files : Files} {path : Option String} {environment : Environment}
  {overrides members : Members} {s t : Settings} {key : String} {v : Value}

/-! ### What the sources say about a setting -/

/-- The file under a path supplies the members of the object that its text is.  A text that is
    nothing supplies none, and so does no file. -/
inductive Supplies (files : Files) : Option String → Members → Prop
  | noFile : Supplies files none []
  | mapping {path text : String} {members : Members}
      (found : files.find (Text.cleanPath path) = .file text)
      (read : Yaml.read text = .ok (.object members)) : Supplies files (some path) members
  | nothing {path text : String} {v : Value}
      (found : files.find (Text.cleanPath path) = .file text) (read : Yaml.read text = .ok v)
      (unset : v.isSet = false) : Supplies files (some path) []

/-- The entries for settings among members: those of the section if there is one, else all. -/
def entries (members : Members) : Members :=
  match members.lookup? "delta_query" with
  | some (.object inner) => inner
  | _ => members

/-- What an environment says about a setting; an empty variable says nothing. -/
def inEnvironment? (environment : Environment) (key : String) : Option Value :=
  ((List.lookup (variableName key) environment).filter fun s => !s.isEmpty).map .text

/-- The value that the sources choose for a setting: the override, which is the last that is given
    and not null, or else the variable, or else the entry of the file. -/
def chosen? (members : Members) (environment : Environment) (overrides : Members)
    (key : String) : Option Value :=
  (Members.given? overrides.reverse key).or
    ((inEnvironment? environment key).or (Members.given? (entries members) key))

/-- The entries are those of the section, or else all members. -/
private theorem section?_getD (members : Members) :
    (section? members).getD members = entries members := by
  rw [section?, entries]
  cases members.lookup? "delta_query" with
  | none => rfl
  | some v => cases v <;> rfl

/-- What is loaded when a file supplies members. -/
private theorem load_of_supplies (h : Supplies files path members) :
    load files path environment overrides =
      ofMembers (((entries members).merge (ofEnvironment environment)).merge
        (given overrides)) := by
  -- no file, a file with an object, or a file with nothing in it
  cases h with
  | noFile => rfl
  | mapping hfound hread =>
    simp only [load, readFile, hfound, hread]
    rw [section?_getD]
    rfl
  | @nothing _ _ v hfound hread hunset =>
    simp only [load, readFile, hfound, hread]
    cases v with
    | object inner =>
      -- an object that is nothing has no members
      obtain rfl : inner = [] := by simpa [Value.isSet] using hunset
      rfl
    | _ =>
      simp only [hunset]
      rfl

/-- A file from which settings are loaded supplies members. -/
private theorem exists_supplies_of_load (h : load files path environment overrides = .ok s) :
    ∃ members, Supplies files path members := by
  cases path with
  | none => exact ⟨[], .noFile⟩
  | some path =>
    simp only [load, readFile] at h
    -- all that is no file with an object or with nothing fails
    cases hfound : files.find (Text.cleanPath path) with
    | absent =>
      rw [hfound] at h
      cases h
    | directory =>
      rw [hfound] at h
      cases h
    | file text =>
      simp only [hfound] at h
      cases hread : Yaml.read text with
      | error e => cases e <;> simp only [hread] at h <;> cases h
      | ok v =>
        cases hset : v.isSet with
        | false => exact ⟨[], .nothing hfound hread hset⟩
        | true =>
          cases v with
          | object members => exact ⟨members, .mapping hfound hread⟩
          | _ =>
            simp only [hread, hset] at h
            cases h

/-- No variable says that a setting is null. -/
private theorem isNull_of_mem_inEnvironment? (h : v ∈ inEnvironment? environment key) :
    v.isNull = false := by
  obtain ⟨value, -, rfl⟩ := Option.map_eq_some_iff.1 h
  rfl

/-- The variables of an environment, setting by setting. -/
private theorem ofEnvironment_eq (environment : Environment) :
    ofEnvironment environment =
      keys.filterMap fun key => (inEnvironment? environment key).map (key, ·) := by
  rw [ofEnvironment]
  congr 1
  funext key
  rw [inEnvironment?]
  cases List.lookup (variableName key) environment with
  | none => rfl
  | some value =>
    rw [Option.filter_some]
    cases hempty : value.isEmpty <;> simp only [hempty] <;> rfl

/-- Under the name of a setting the environment gives what its variable says. -/
private theorem given?_ofEnvironment (environment : Environment) (hkey : key ∈ keys) :
    Members.given? (ofEnvironment environment).reverse key = inEnvironment? environment key := by
  -- no setting has two variables, so the order in which they are listed does not matter
  refine Members.given?_eq_of_forall (fun w _ => ?_) fun w hw => isNull_of_mem_inEnvironment? hw
  simp only [List.mem_reverse, ofEnvironment_eq, List.mem_filterMap, Option.map_eq_some_iff,
    Prod.mk.injEq]
  constructor
  · rintro ⟨k, -, x, hx, rfl, rfl⟩
    exact hx
  · intro hw
    exact ⟨key, hkey, w, hw, rfl, rfl⟩

/-- What the merged sources give for a setting is what they choose for it. -/
private theorem given?_merged (members : Members) (environment : Environment) (overrides : Members)
    (hkey : key ∈ keys) :
    Members.given? (((entries members).merge (ofEnvironment environment)).merge
      (given overrides)) key = chosen? members environment overrides key := by
  -- neither overrides nor variables hold null, which would not count
  have hgiven : ∀ m ∈ given overrides, m.2.isNull = false := by
    intro m hm
    simpa using (List.mem_filter.1 hm).2
  have hvariables : ∀ m ∈ ofEnvironment environment, m.2.isNull = false := by
    intro m hm
    rw [ofEnvironment_eq, List.mem_filterMap] at hm
    obtain ⟨k, -, hk⟩ := hm
    obtain ⟨w, hw, rfl⟩ := Option.map_eq_some_iff.1 hk
    exact isNull_of_mem_inEnvironment? hw
  rw [Members.given?_merge hgiven, Members.given?_merge hvariables,
    given?_ofEnvironment environment hkey, chosen?, given, ← List.filter_reverse,
    Members.given?_filter fun m _ hm => by rw [hm]; rfl]

/-! ### Settings from choices -/

/-- Settings as they are chosen; what is not chosen has its default. -/
def ofChosen (chosen : String → Option Value) : Settings :=
  { endpoint := (chosen "endpoint").getD .null
    bearerToken := (chosen "bearer_token").getD .null
    share := (chosen "share").getD .null
    schema := (chosen "schema").getD defaultSchema
    timeout := (chosen "timeout_sec").getD defaultTimeout
    maxWorkers := (chosen "max_workers").getD (.int 1)
    showProgress := (chosen "show_progress").getD (.bool false) }

/-- Settings with numbers and truth values converted, if they pass the checks. -/
def converted (s : Settings) : Except Failure Settings := do
  let timeout ← numeric (s.timeout.toFloat.map .float)
  let maxWorkers ← numeric (s.maxWorkers.toInteger.map .int)
  check { s with
    timeout := timeout
    maxWorkers := maxWorkers
    showProgress := switch s.showProgress }

/-- Settings depend on what is chosen for their names alone. -/
private theorem ofChosen_congr {chosen chosen' : String → Option Value}
    (h : ∀ key ∈ keys, chosen key = chosen' key) : ofChosen chosen = ofChosen chosen' := by
  simp only [keys, requiredKeys, List.cons_append, List.nil_append, List.forall_mem_cons] at h
  obtain ⟨hendpoint, hbearerToken, hshare, hschema, htimeout, hmaxWorkers, hshowProgress, -⟩ := h
  rw [ofChosen, hendpoint, hbearerToken, hshare, hschema, htimeout, hmaxWorkers, hshowProgress]
  rfl

/-- Settings from members of any kind depend on what is given for each of them. -/
private theorem ofMembers_eq_converted (members : Members) :
    ofMembers members = converted (ofChosen members.given?) := by
  have hlookup : ∀ key ∈ keys,
      Members.lookup? (members.filter fun m => keys.contains m.1 && !m.2.isNull) key =
        members.given? key := by
    intro key hkey
    refine Members.lookup?_filter (fun m hm => ?_) members
    rw [hm, List.contains_iff_mem.2 hkey, Bool.true_and, Bool.not_eq_true']
  rw [← ofChosen_congr hlookup]
  rfl

/-- Settings are loaded from what the sources choose for each of them. -/
theorem load_eq_converted (h : Supplies files path members) :
    load files path environment overrides =
      converted (ofChosen (chosen? members environment overrides)) := by
  rw [load_of_supplies h, ofMembers_eq_converted,
    ofChosen_congr fun key hkey => given?_merged members environment overrides hkey]

/-- What has to be given is given. -/
def HasRequired (s : Settings) : Prop :=
  s.endpoint.isSet = true ∧ s.bearerToken.isSet = true ∧ s.share.isSet = true

instance (s : Settings) : Decidable s.HasRequired :=
  inferInstanceAs (Decidable (_ ∧ _ ∧ _))

/-- No name is reported as missing exactly when what has to be given is given. -/
private theorem missing?_eq_none_iff : s.missing? = none ↔ s.HasRequired := by
  simp [missing?, HasRequired, requiredKeys]

/-- What becomes of settings of which a number is not converted. -/
def refusal (e : NumberError) : Failure :=
  if e.isOverflow then .number e else .config (.invalidNumber e)

/-- A timeout that is no number is refused. -/
theorem converted_of_timeout {e : NumberError} (h : s.timeout.toFloat = .error e) :
    s.converted = .error (refusal e) := by
  rw [converted, h]
  rfl

/-- A number of workers that is no number is refused, if the timeout is one. -/
theorem converted_of_maxWorkers {x : Binary} {e : NumberError} (hx : s.timeout.toFloat = .ok x)
    (h : s.maxWorkers.toInteger = .error e) : s.converted = .error (refusal e) := by
  rw [converted, hx, h]
  rfl

/-- Settings with their numbers and truth values. -/
def withNumbers (s : Settings) (x : Binary) (n : Int) : Settings :=
  { s with
    timeout := .float x
    maxWorkers := .int n
    showProgress := switch s.showProgress }

/-- Settings whose numbers are converted are checked. -/
theorem converted_of_numbers {x : Binary} {n : Int} (hx : s.timeout.toFloat = .ok x)
    (hn : s.maxWorkers.toInteger = .ok n) : s.converted = (s.withNumbers x n).check := by
  rw [converted, hx, hn]
  rfl

/-- Settings that lack what has to be given are refused for that, whatever their numbers are. -/
theorem check_withNumbers_of_missing (h : ¬ s.HasRequired) (x : Binary) (n : Int) :
    ∃ key, (s.withNumbers x n).check = .error (.config (.required key)) := by
  obtain ⟨key, hkey⟩ := Option.ne_none_iff_exists'.1 fun hnone => h (missing?_eq_none_iff.1 hnone)
  have hmissing : (s.withNumbers x n).missing? = some key := hkey
  exact ⟨key, by rw [check, hmissing]⟩

/-- Settings with too few workers are refused, with the number in the message if it can be written.
    -/
theorem check_withNumbers_of_few {n : Int} (h : s.HasRequired) (x : Binary) (hn : n < 1) :
    (s.withNumbers x n).check = .error (if (Value.int n).hasText then
      .config (.tooFewWorkers (.int n)) else .number .tooLongToWrite) := by
  have hmissing : (s.withNumbers x n).missing? = none := missing?_eq_none_iff.2 h
  rw [check, hmissing]
  exact if_pos hn

/-- Settings with what has to be given and enough workers are kept; a schema that is nothing becomes
    the usual one. -/
theorem check_withNumbers_of_positive {n : Int} (h : s.HasRequired) (x : Binary) (hn : 1 ≤ n) :
    (s.withNumbers x n).check = .ok { s.withNumbers x n with
      schema := if s.schema.isSet then s.schema else defaultSchema } := by
  have hmissing : (s.withNumbers x n).missing? = none := missing?_eq_none_iff.2 h
  rw [check, hmissing]
  exact if_neg (not_lt.2 hn)

/-- Settings are converted if what has to be given is given, the numbers are numbers and there is at
    least one worker. -/
theorem converted_eq_ok_iff :
    s.converted = .ok t ↔ s.HasRequired ∧ ∃ x n, s.timeout.toFloat = .ok x ∧
      s.maxWorkers.toInteger = .ok n ∧ 1 ≤ n ∧ t = { s.withNumbers x n with
        schema := if s.schema.isSet then s.schema else defaultSchema } := by
  constructor
  · intro h
    -- one way of failing after the other is ruled out, in the order in which they come up
    cases hx : s.timeout.toFloat with
    | error e =>
      rw [converted_of_timeout hx] at h
      cases h
    | ok x =>
      cases hn : s.maxWorkers.toInteger with
      | error e =>
        rw [converted_of_maxWorkers hx hn] at h
        cases h
      | ok n =>
        rw [converted_of_numbers hx hn] at h
        by_cases hrequired : s.HasRequired
        · by_cases hpositive : 1 ≤ n
          · rw [check_withNumbers_of_positive hrequired x hpositive] at h
            exact ⟨hrequired, x, n, rfl, rfl, hpositive, (Except.ok.inj h).symm⟩
          · rw [check_withNumbers_of_few hrequired x (not_le.1 hpositive)] at h
            cases h
        · obtain ⟨key, hkey⟩ := check_withNumbers_of_missing hrequired x n
          rw [hkey] at h
          cases h
  · -- with all of this given there is nothing left to fail
    rintro ⟨hrequired, x, n, hx, hn, hpositive, rfl⟩
    rw [converted_of_numbers hx hn, check_withNumbers_of_positive hrequired x hpositive]

/-! ### Each setting by itself -/

/-- The truth value that is made of a value.  A text is on exactly if it is, without the blanks
    around it and in lower case, one of three words, and off otherwise; a value that is no text is
    taken as it is. -/
inductive TruthOf : Value → Value → Prop
  | text {s : String} {on : Bool}
      (word : on = true ↔
        Text.lowercase (String.ofList (Text.trim s.toList)) ∈ ["1", "true", "yes"]) :
      TruthOf (.text s) (.bool on)
  | other {v : Value} (noText : ∀ s, v ≠ .text s) : TruthOf v v

/-- Settings are what was chosen for them: what has to be given is the choice itself, and the others
    are made from the choice, or from their defaults where there is none. -/
structure Follows (s : Settings) (chosen : String → Option Value) : Prop where
  endpoint : chosen "endpoint" = some s.endpoint
  bearerToken : chosen "bearer_token" = some s.bearerToken
  share : chosen "share" = some s.share
  /-- A schema that is nothing is the usual one. -/
  schema : s.schema = (((chosen "schema").filter Value.isSet).getD defaultSchema)
  timeout : ∃ x, ((chosen "timeout_sec").getD defaultTimeout).toFloat = .ok x ∧
    s.timeout = .float x
  maxWorkers : ∃ n, ((chosen "max_workers").getD (.int 1)).toInteger = .ok n ∧
    s.maxWorkers = .int n
  showProgress : TruthOf ((chosen "show_progress").getD (.bool false)) s.showProgress

/-- A value that is something was chosen, since what is missing is null. -/
private theorem eq_some_of_isSet_getD {found : Option Value} (h : (found.getD .null).isSet = true) :
    found = some (found.getD .null) := by
  cases found with
  | none => cases h
  | some v => rfl

/-- The usual schema stands in for one that is missing and for one that is nothing. -/
private theorem ite_isSet_getD (found : Option Value) :
    (if (found.getD defaultSchema).isSet then found.getD defaultSchema else defaultSchema) =
      (found.filter Value.isSet).getD defaultSchema := by
  cases found with
  | none => rfl
  | some v => cases hv : v.isSet <;> simp [Option.filter, hv]

/-- The switch makes the truth value of every value. -/
private theorem truthOf_switch (v : Value) : TruthOf v (switch v) := by
  cases v with
  | text s => exact .text List.contains_iff_mem
  | _ => exact .other nofun

/-- Settings that are converted follow what was chosen for them. -/
private theorem follows_of_converted {chosen : String → Option Value}
    (h : (ofChosen chosen).converted = .ok s) : s.Follows chosen := by
  obtain ⟨⟨hendpoint, hbearerToken, hshare⟩, x, n, hx, hn, -, rfl⟩ := converted_eq_ok_iff.1 h
  refine ⟨eq_some_of_isSet_getD hendpoint, eq_some_of_isSet_getD hbearerToken,
    eq_some_of_isSet_getD hshare, ?_, ⟨x, hx, rfl⟩, ⟨n, hn, rfl⟩, truthOf_switch _⟩
  exact ite_isSet_getD (chosen "schema")

/-! ### Names of no setting -/

/-- The entries for settings among members. -/
def known (members : Members) : Members :=
  members.filter fun m => keys.contains m.1

/-- The variables for settings in an environment. -/
def knownVariables (environment : Environment) : Environment :=
  environment.filter fun named => (keys.map variableName).contains named.1

/-- Members for no setting give nothing under the name of a setting. -/
private theorem given?_known (members : Members) (hkey : key ∈ keys) :
    (known members).given? key = members.given? key :=
  Members.given?_filter (fun m hm _ => by rw [hm]; exact List.contains_iff_mem.2 hkey) members

/-- Variables for no setting are not found under the name of a setting. -/
private theorem lookup_knownVariables (environment : Environment) (hkey : key ∈ keys) :
    List.lookup (variableName key) (knownVariables environment) =
      List.lookup (variableName key) environment := by
  induction environment with
  | nil => rfl
  | cons named rest ih =>
    obtain ⟨name, value⟩ := named
    rw [knownVariables] at ih ⊢
    by_cases hname : variableName key = name
    · -- the variable that is looked up belongs to a setting, so it stays
      have hknown : (keys.map variableName).contains name = true :=
        List.contains_iff_mem.2 (hname ▸ List.mem_map_of_mem hkey)
      rw [List.filter_cons, if_pos hknown, hname, List.lookup_cons_self, List.lookup_cons_self]
    · -- another variable is passed over, whether it is kept or left out
      rw [List.filter_cons, List.lookup_cons, beq_false_of_ne hname]
      split
      · rw [List.lookup_cons, beq_false_of_ne hname]
        exact ih
      · exact ih

/-- Variables for no setting say nothing about a setting. -/
private theorem inEnvironment?_knownVariables (environment : Environment) (hkey : key ∈ keys) :
    inEnvironment? (knownVariables environment) key = inEnvironment? environment key := by
  rw [inEnvironment?, lookup_knownVariables environment hkey, inEnvironment?]

/-- Entries and variables for other things than settings choose nothing. -/
private theorem chosen?_eq_known (members : Members) (environment : Environment)
    (overrides : Members)
    (hkey : key ∈ keys) :
    chosen? members environment overrides key =
      (Members.given? (known overrides).reverse key).or
        ((inEnvironment? (knownVariables environment) key).or
          (Members.given? (known (entries members)) key)) := by
  -- the last override counts, so they are read from the end
  have hreverse : Members.given? (known overrides).reverse key =
      Members.given? overrides.reverse key := by
    rw [known, ← List.filter_reverse]
    exact given?_known overrides.reverse hkey
  rw [chosen?, hreverse, inEnvironment?_knownVariables environment hkey, given?_known _ hkey]

/-! ### What loading gives -/

/-- Loaded settings follow the choices that the sources make for each of them by itself.  Sources
    that differ in names of no setting alone give the same settings. -/
theorem settings_follow_priority (h : load files path environment overrides = .ok s) :
    ∃ members, Supplies files path members ∧ s.Follows (chosen? members environment overrides) ∧
      ∀ (files' : Files) (path' : Option String) (members' : Members) (environment' : Environment)
        (overrides' : Members), Supplies files' path' members' →
        known (entries members') = known (entries members) →
        knownVariables environment' = knownVariables environment →
        known overrides' = known overrides →
        load files' path' environment' overrides' = .ok s := by
  obtain ⟨members, hsupplies⟩ := exists_supplies_of_load h
  -- from here on only what is chosen for the settings matters
  rw [load_eq_converted hsupplies] at h
  refine ⟨members, hsupplies, follows_of_converted h, ?_⟩
  intro files' path' members' environment' overrides' hsupplies' hmembers henvironment hoverrides
  have hchosen : ∀ key ∈ keys, chosen? members' environment' overrides' key =
      chosen? members environment overrides key := by
    intro key hkey
    rw [chosen?_eq_known _ _ _ hkey, chosen?_eq_known _ _ _ hkey, hmembers, henvironment,
      hoverrides]
  rw [load_eq_converted hsupplies', ofChosen_congr hchosen]
  exact h

/-- A document with a section for settings. -/
def sectionText : String :=
  "share: outer\ndelta_query:\n  endpoint: e\n  share: inner\n  max_workers: 3\n"

/-- The members of the document. -/
def sectionMembers : Members :=
  [("share", .text "outer"), ("delta_query", .object [("endpoint", .text "e"),
    ("share", .text "inner"), ("max_workers", .int 3)])]

/-- The document supplies its members under any spelling of its path. -/
theorem supplies_sectionMembers :
    Supplies [("a.yaml", sectionText)] (some "./a.yaml") sectionMembers := by
  have hfound : Files.find [("a.yaml", sectionText)] (Text.cleanPath "./a.yaml") =
      .file sectionText := by decide +kernel
  exact .mapping hfound (by decide +kernel)

/-- An override that is null and a variable that is empty leave a setting to the file, of which the
    section alone counts; one of the words switches a setting on; more overrides and variables for
    no setting change nothing. -/
theorem settings_follow_priority_of_section :
    let environment := [("DELTA_QUERY_SHARE", "s"), ("DELTA_QUERY_ENDPOINT", ""),
      ("DELTA_QUERY_SHOW_PROGRESS", " Yes ")]
    let overrides := [("bearer_token", .text "t"), ("schema", .text ""), ("max_workers", .null)]
    let s : Settings :=
      ⟨.text "e", .text "t", .text "s", .text "public", defaultTimeout, .int 3, .bool true⟩
    load [("a.yaml", sectionText)] (some "./a.yaml") environment overrides = .ok s ∧
      (∃ members, Supplies [("a.yaml", sectionText)] (some "./a.yaml") members ∧
        s.Follows (chosen? members environment overrides)) ∧
      load [("a.yaml", sectionText)] (some "./a.yaml") (("DELTA_QUERY_SPEED", "9") :: environment)
        (("speed", .int 9) :: overrides) = .ok s := by
  intro environment overrides s
  have hload : load [("a.yaml", sectionText)] (some "./a.yaml") environment overrides = .ok s := by
    -- the text of the file is read once, in `supplies_sectionMembers`
    rw [load_eq_converted supplies_sectionMembers, converted_eq_ok_iff]
    exact ⟨by decide +kernel, Binary.double.ofInt 60, 3, by decide +kernel, by decide +kernel,
      by decide, by decide +kernel⟩
  obtain ⟨members, hsupplies, hfollows, hsame⟩ := settings_follow_priority hload
  exact ⟨hload, ⟨members, hsupplies, hfollows⟩,
    hsame _ _ members _ _ hsupplies rfl (by decide +kernel) (by decide +kernel)⟩

end Settings

end SharedTables
