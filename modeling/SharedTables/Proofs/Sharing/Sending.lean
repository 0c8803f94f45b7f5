import Mathlib
import SharedTables.Proofs.Events
import SharedTables.Proofs.Json.Layout
import SharedTables.Proofs.Run
import SharedTables.Sharing.Client

/-!
# Requests that can be sent

A request for a manifest is sent once all of it has been looked at: the names are texts, the token
can be shown, and there is JSON for the limit and the hints.  Otherwise it fails before anything is
sent, and what it fails for is not the fault of the server.

## Key results

- `queryBody_eq_bind`: what the body of a request is made of
- `checkValue_eq_ok_iff`: which values there is JSON for
- `queryTable_cases`: a request is sent, or it fails before that
- `queryTable_of_isSendable`: a request that can be sent is sent
- `queryTable_of_not_isSendable`: any other request fails, and nothing else happens
-/

namespace SharedTables

/-- The value has a form in JSON that can be written: it is no date, no number that is not finite
    and no integer with too many digits, and it holds none of these. -/
inductive Value.HasForm : Value → Prop
  | null : HasForm .null
  | bool {b : Bool} : HasForm (.bool b)
  | int {n : Int} (has_text : (Value.int n).hasText = true) : HasForm (.int n)
  | float {x : Binary} (finite : x.isFinite = true) : HasForm (.float x)
  | text {s : String} : HasForm (.text s)
  | list {items : List Value} (items_form : ∀ v ∈ items, HasForm v) : HasForm (.list items)
  | object {members : Members} (members_form : ∀ m ∈ members, HasForm m.2) :
      HasForm (.object members)

namespace Value

/-- An integer has a form if it is not too long. -/
theorem hasForm_int_iff {n : Int} : (int n).HasForm ↔ (int n).hasText = true := by
  constructor
  · intro h
    cases h with
    | int has_text => exact has_text
  · exact .int

/-- Any other number has one if it is finite. -/
theorem hasForm_float_iff {x : Binary} : (float x).HasForm ↔ x.isFinite = true := by
  constructor
  · intro h
    cases h with
    | float finite => exact finite
  · exact .float

/-- A list has one if its items do. -/
theorem hasForm_list_iff {items : List Value} : (list items).HasForm ↔ ∀ v ∈ items, v.HasForm := by
  constructor
  · intro h
    cases h with
    | list items_form => exact items_form
  · exact .list

/-- An object has one if the values of its members do. -/
theorem hasForm_object_iff {members : Members} :
    (object members).HasForm ↔ ∀ m ∈ members, m.2.HasForm := by
  constructor
  · intro h
    cases h with
    | object members_form => exact members_form
  · exact .object

end Value

namespace Client

variable {c : Client} {server : Server} {share schema table limit predicates : Value}

/-! ### Bodies -/

/-- How many rows a query says that it wants. -/
def limitHint (limit : Value) : Except Failure Members :=
  match limit with
  | .null => .ok []
  | v => (v.toInteger.map fun n => [("limitHint", Value.int n)]).mapError .number

/-- Which rows a query says that it wants. -/
def predicateHints (predicates : Value) : Except Failure Members :=
  if predicates.isSet then
    match predicates.elements? with
    | some elements => .ok [("predicateHints", .list elements)]
    | none => .error (.query .notSequence)
  else .ok []

/-- A body says one after the other. -/
theorem queryBody_eq_bind (limit predicates : Value) : queryBody limit predicates = do
    let limits ← limitHint limit
    let hints ← predicateHints predicates
    return .object (limits ++ hints) := by
  unfold queryBody predicateHints
  cases predicates.isSet with
  | false => cases limit <;> rfl
  | true =>
    cases predicates.elements? <;> cases limit <;> rfl

/-- A limit or hints that are not usable are not for the server to refuse. -/
private theorem isLocal_of_queryBody {e : Failure} (h : queryBody limit predicates = .error e) :
    e.isLocal = true := by
  rw [queryBody_eq_bind] at h
  -- the limit is converted first, and then the predicates have to be a sequence
  cases hlimit : limitHint limit with
  | error e' =>
    rw [hlimit] at h
    obtain rfl : e' = e := Except.error.inj h
    unfold limitHint at hlimit
    split at hlimit
    · cases hlimit
    · cases hinteger : limit.toInteger <;> rw [hinteger] at hlimit <;> cases hlimit
      rfl
  | ok limits =>
    rw [hlimit] at h
    unfold predicateHints at h
    split at h
    · split at h <;> cases h
      rfl
    · cases h

/-- Neither is a part of the location that is no text. -/
private theorem isLocal_of_nameOf {v : Value} {e : Failure} (h : nameOf v = .error e) :
    e.isLocal = true := by
  unfold nameOf at h
  split at h <;> cases h
  rfl

/-! ### Checks -/

/-- The items of a list are looked at one after the other. -/
private theorem checkItems_eq_ok_iff {items : List Value} :
    checkItems items = .ok () ↔ ∀ v ∈ items, checkValue v = .ok () := by
  induction items with
  | nil => exact iff_of_true rfl (List.forall_mem_nil _)
  | cons v rest ih =>
    rw [List.forall_mem_cons, ← ih, checkItems]
    cases checkValue v <;> simp [bind, Except.bind]

/-- Of the members of an object only the values count. -/
private theorem checkMembers_eq (members : Members) :
    checkMembers members = checkItems (members.map (·.2)) := by
  induction members with
  | nil => rfl
  | cons m rest ih => rw [List.map_cons, checkMembers, checkItems, ih]

/-- The values that can be sent. -/
theorem checkValue_eq_ok_iff {v : Value} : checkValue v = .ok () ↔ v.HasForm := by
  -- lists and objects take over from their parts
  induction v using Value.induction with
  | null => exact iff_of_true rfl .null
  | bool b => exact iff_of_true rfl .bool
  | int n =>
    rw [checkValue, Value.hasForm_int_iff]
    split
    · rename_i h
      exact iff_of_true rfl h
    · rename_i h
      exact iff_of_false nofun h
  | float x =>
    rw [checkValue, Value.hasForm_float_iff]
    split
    · rename_i h
      exact iff_of_true rfl h
    · rename_i h
      exact iff_of_false nofun h
  | text s => exact iff_of_true rfl .text
  | date d => exact iff_of_false nofun nofun
  | moment m => exact iff_of_false nofun nofun
  | list items ih =>
    rw [checkValue, checkItems_eq_ok_iff, Value.hasForm_list_iff]
    exact forall₂_congr ih
  | object members ih =>
    rw [checkValue, checkMembers_eq, checkItems_eq_ok_iff, List.forall_mem_map,
      Value.hasForm_object_iff]
    exact forall₂_congr ih

/-- What is wrong with a list is wrong with one of its items. -/
private theorem exists_of_checkItems_eq_error {items : List Value} {e : Failure}
    (h : checkItems items = .error e) : ∃ v ∈ items, checkValue v = .error e := by
  induction items with
  | nil => cases h
  | cons v rest ih =>
    rw [checkItems] at h
    cases hv : checkValue v with
    | error f =>
      rw [hv] at h
      exact ⟨v, List.mem_cons_self, hv.trans h⟩
    | ok _ =>
      rw [hv] at h
      obtain ⟨w, hw, he⟩ := ih h
      exact ⟨w, List.mem_cons_of_mem _ hw, he⟩

/-- Nothing that is wrong with a value is for the server to refuse. -/
private theorem isLocal_of_checkValue {v : Value} {e : Failure} (h : checkValue v = .error e) :
    e.isLocal = true := by
  induction v using Value.induction with
  | null | bool | text => cases h
  | int n =>
    rw [checkValue] at h
    split at h <;> cases h
    rfl
  | float x =>
    rw [checkValue] at h
    split at h <;> cases h
    rfl
  | date d =>
    obtain rfl := Except.error.inj h
    rfl
  | moment m =>
    obtain rfl := Except.error.inj h
    rfl
  | list items ih =>
    rw [checkValue] at h
    obtain ⟨v, hv, he⟩ := exists_of_checkItems_eq_error h
    exact ih v hv he
  | object members ih =>
    rw [checkValue, checkMembers_eq] at h
    obtain ⟨v, hv, he⟩ := exists_of_checkItems_eq_error h
    obtain ⟨m, hm, rfl⟩ := List.mem_map.1 hv
    exact ih m hm he

/-- The tokens that can be shown. -/
private theorem authorization_eq_ok_iff {authorization : String} :
    c.authorization = .ok authorization ↔
      (c.token.hasText = true ∧ ∀ ch ∈ c.token.display.toList, ch.toNat < 0x80) ∧
        "Bearer " ++ c.token.display = authorization := by
  rw [Client.authorization, Value.toText]
  cases htext : c.token.hasText with
  | false => simp
  | true =>
    -- the token has a text, and its characters decide
    simp only [if_true, true_and]
    split
    · rename_i hascii
      simpa using fun _ => hascii
    · rename_i hascii
      simpa using fun h => absurd h (by simpa using hascii)

/-- Nothing that is wrong with a token is for the server to refuse. -/
private theorem isLocal_of_authorization {e : Failure} (h : c.authorization = .error e) :
    e.isLocal = true := by
  unfold Client.authorization at h
  split at h
  · obtain rfl := Except.error.inj h
    rfl
  · split at h <;> cases h
    rfl

/-! ### Requests -/

/-- The token, the limit, as the integer that it stands for, and the hints can be sent. -/
structure IsSendable (token limit : Value) (hints : List Value) : Prop where
  token_text : token.hasText = true
  token_ascii : ∀ ch ∈ token.display.toList, ch.toNat < 0x80
  limit : ∀ n, limit.toInteger = .ok n → (Value.int n).hasText = true
  hints : ∀ v ∈ hints, v.HasForm

/-- A limit has a form exactly if its integer does; there is none that stands for no integer. -/
private theorem forall_limitHint_iff {ms : Members} (h : limitHint limit = .ok ms) :
    (∀ m ∈ ms, m.2.HasForm) ↔ ∀ n, limit.toInteger = .ok n → (Value.int n).hasText = true := by
  unfold limitHint at h
  -- no limit, no member; otherwise the one member is the integer of the limit
  split at h
  · obtain rfl := Except.ok.inj h
    refine iff_of_true (List.forall_mem_nil _) fun n hn => ?_
    cases hn
  · cases hinteger : limit.toInteger with
    | error e =>
      rw [hinteger] at h
      cases h
    | ok n =>
      rw [hinteger] at h
      obtain rfl := Except.ok.inj h
      rw [List.forall_mem_singleton, Value.hasForm_int_iff]
      constructor
      · intro htext n' hn'
        obtain rfl := Except.ok.inj hn'
        exact htext
      · exact fun htext => htext n rfl

/-- Hints have a form exactly if each of them does. -/
private theorem forall_predicateHints_iff {hints : List Value} {ms : Members}
    (h : predicateHints (.list hints) = .ok ms) :
    (∀ m ∈ ms, m.2.HasForm) ↔ ∀ v ∈ hints, v.HasForm := by
  cases hints with
  | nil =>
    obtain rfl := Except.ok.inj h
    exact iff_of_true (List.forall_mem_nil _) (List.forall_mem_nil _)
  | cons v rest =>
    obtain rfl := Except.ok.inj h
    rw [List.forall_mem_singleton, Value.hasForm_list_iff]

/-- A body has a form exactly if what it is made of has one. -/
private theorem hasForm_queryBody_iff {hints : List Value} {body : Value}
    (h : queryBody limit (.list hints) = .ok body) :
    body.HasForm ↔ (∀ n, limit.toInteger = .ok n → (Value.int n).hasText = true) ∧
      ∀ v ∈ hints, v.HasForm := by
  rw [queryBody_eq_bind] at h
  cases hlimit : limitHint limit with
  | error e =>
    rw [hlimit] at h
    cases h
  | ok limits =>
    cases hhints : predicateHints (.list hints) with
    | error e =>
      rw [hlimit, hhints] at h
      cases h
    | ok ms =>
      rw [hlimit, hhints] at h
      obtain rfl := Except.ok.inj h
      -- the body has two members at most, and each is looked at by itself
      rw [← forall_limitHint_iff hlimit, ← forall_predicateHints_iff hhints,
        ← List.forall_mem_append, Value.hasForm_object_iff]

/-- A request that can be sent is sent. -/
theorem queryTable_of_isSendable {hints : List Value} {body : Value}
    {shareName schemaName tableName : String}
    (hbody : queryBody limit (.list hints) = .ok body) (hshare : nameOf share = .ok shareName)
    (hschema : nameOf schema = .ok schemaName) (htable : nameOf table = .ok tableName)
    (h : IsSendable c.token limit hints) :
    c.queryTable server share schema table limit (.list hints) =
      c.ask server shareName schemaName tableName body ("Bearer " ++ c.token.display) := by
  have hshown := authorization_eq_ok_iff.2 ⟨⟨h.token_text, h.token_ascii⟩, rfl⟩
  have hform := checkValue_eq_ok_iff.2 ((hasForm_queryBody_iff hbody).2 ⟨h.limit, h.hints⟩)
  -- all parts are there, so what remains is the request
  rw [queryTable, hbody, hshare, hschema, htable, hshown]
  simp only [Run.ofExcept_ok, pure_bind, hform]

/-- A request is sent once all parts of it are there, or it fails before that, for which the server
    is not to blame. -/
theorem queryTable_cases (c : Client) (server : Server)
    (share schema table limit predicates : Value) :
    (∃ body shareName schemaName tableName authorization,
      queryBody limit predicates = .ok body ∧ c.authorization = .ok authorization ∧
      checkValue body = .ok () ∧ c.queryTable server share schema table limit predicates =
        c.ask server shareName schemaName tableName body authorization) ∨
    ∃ f, f.isLocal = true ∧
      c.queryTable server share schema table limit predicates = Run.fail f := by
  rw [queryTable]
  -- the parts in the order in which they are looked at; the first that is not usable decides
  cases hbody : queryBody limit predicates with
  | error f => exact .inr ⟨f, isLocal_of_queryBody hbody, rfl⟩
  | ok body =>
    cases hshare : nameOf share with
    | error f => exact .inr ⟨f, isLocal_of_nameOf hshare, rfl⟩
    | ok shareName =>
      cases hschema : nameOf schema with
      | error f => exact .inr ⟨f, isLocal_of_nameOf hschema, rfl⟩
      | ok schemaName =>
        cases htable : nameOf table with
        | error f => exact .inr ⟨f, isLocal_of_nameOf htable, rfl⟩
        | ok tableName =>
          cases hshown : c.authorization with
          | error f => exact .inr ⟨f, isLocal_of_authorization hshown, rfl⟩
          | ok authorization =>
            simp only [Run.ofExcept_ok, pure_bind]
            cases hform : checkValue body with
            | error f => exact .inr ⟨f, isLocal_of_checkValue hform, rfl⟩
            | ok _ =>
              exact .inl ⟨body, shareName, schemaName, tableName, authorization, rfl, rfl, hform,
                rfl⟩

/-- A request that cannot be sent fails, for which the server is not to blame, and nothing else
    happens. -/
theorem queryTable_of_not_isSendable {hints : List Value} (h : ¬ IsSendable c.token limit hints)
    (server : Server) (share schema table : Value) :
    ∃ f, f.isLocal = true ∧
      c.queryTable server share schema table limit (.list hints) = Run.fail f := by
  obtain ⟨body, _, _, _, authorization, hbody, hshown, hform, -⟩ | hfail :=
    c.queryTable_cases server share schema table limit (.list hints)
  · -- neither the token nor the body is at fault, which leaves nothing
    obtain ⟨⟨htext, hascii⟩, -⟩ := authorization_eq_ok_iff.1 hshown
    obtain ⟨hlimit, hhints⟩ := (hasForm_queryBody_iff hbody).1 (checkValue_eq_ok_iff.1 hform)
    exact absurd ⟨htext, hascii, hlimit, hhints⟩ h
  · exact hfail

end Client

end SharedTables
