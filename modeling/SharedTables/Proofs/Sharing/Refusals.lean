import Mathlib
import SharedTables.Proofs.Sharing.Listing
import SharedTables.Proofs.Sharing.Sending

/-!
# Answers that are not understood

The server gives no manifest if it cannot be reached, answers with another status than success, or
with a text that is none: a line is no JSON, there are too few lines or lines that are no objects,
or a file has no location.  All of these are failures of the catalog.

Two faults of a text come out as failures of another kind.  A line may hold an integer with too many
digits, and what is written about a file that has a location may be garbled (`Manifest.Garbled`):
its partition values are no pairs, or its size is no number.

## Key results

- `partitionValues_eq_ok_iff`, `sizeOf_eq_error_iff`: which values are understood
- `garbled_iff`: the files that fail in another way than by a missing location
- `escapes_iff`: the texts that fail in another way than as those of a bad answer
- `answers_accepted_or_refused_iff`: when a text, and when an answer, is accepted or refused
-/

namespace SharedTables

/-- The result is there, or it is missing because the server gave no manifest. -/
inductive AcceptedOrRefused {α : Type} (r : Except Failure α) : Prop
  | accepted {a : α} (accepted : r = .ok a)
  | refused {e : CatalogError} (refused : r = .error (.catalog e))

/-- A failure of another kind is all that is left. -/
private theorem not_acceptedOrRefused_iff {α : Type} {r : Except Failure α} :
    ¬ AcceptedOrRefused r ↔ ∃ f, r = .error f ∧ ∀ e, f ≠ .catalog e := by
  constructor
  · intro h
    cases r with
    | ok a => exact absurd (.accepted rfl) h
    | error f =>
      refine ⟨f, rfl, ?_⟩
      rintro e rfl
      exact h (.refused rfl)
  · rintro ⟨f, rfl, hf⟩ h
    cases h with
    | accepted h => cases h
    | refused h => exact hf _ (Except.error.inj h)

namespace Manifest

variable {action : Members} {v : Value} {body : String}

/-! ### Parts of an action -/

/-- The value gives partition values: it is not set, an object, or a list of pairs of a name and a
    value. -/
inductive GivesPairs : Value → Prop
  | unset {v : Value} (unset : v.isSet = false) : GivesPairs v
  | object {members : Members} : GivesPairs (.object members)
  | pairs {v : Value} {elements : List Value} (elements_eq : v.elements? = some elements)
      (pairs : ∀ element ∈ elements, ∃ name value, element.elements? = some [name, value] ∧
        isName name = true) : GivesPairs v

/-- There is no integer for the value to stand for: it is no finite number, a text that is none, a
    date, a list or an object. -/
inductive NoInteger : Value → Prop
  | notFinite {x : Binary} (infinite : x.isFinite = false) : NoInteger (.float x)
  | text {s : String} {e : NumberError} (read : Number.readInteger s = .error e) :
      NoInteger (.text s)
  | date {d : Date} : NoInteger (.date d)
  | moment {m : Moment} : NoInteger (.moment m)
  | list {items : List Value} : NoInteger (.list items)
  | object {members : Members} : NoInteger (.object members)

/-- Which elements are pairs of a name and a value. -/
private theorem pair_eq_ok_iff {index : Nat} {element : Value} :
    (∃ m, pair index element = .ok m) ↔ ∃ name value,
      element.elements? = some [name, value] ∧ isName name = true := by
  unfold pair
  split
  · rename_i hnone
    simp [hnone]
  · rename_i name value hpair
    cases hname : isName name <;> simp [hpair, hname]
  · -- a sequence of any other length is no pair
    rename_i items hother hitems
    refine iff_of_false nofun ?_
    rintro ⟨name, value, hpair, -⟩
    exact hother name value (Option.some.inj (hitems.symm.trans hpair))

/-- A list of elements is understood if each of them is a pair. -/
private theorem pairs_eq_ok_iff {index : Nat} {elements : List Value} :
    (∃ ms, pairs index elements = .ok ms) ↔ ∀ element ∈ elements, ∃ name value,
      element.elements? = some [name, value] ∧ isName name = true := by
  induction elements generalizing index with
  | nil => exact iff_of_true ⟨[], rfl⟩ nofun
  | cons element rest ih =>
    rw [List.forall_mem_cons, ← @pair_eq_ok_iff index, ← @ih (index + 1), pairs]
    cases pair index element with
    | error e => simp [bind, Except.bind]
    | ok m => cases pairs (index + 1) rest <;> simp [bind, Except.bind, pure, Except.pure]

/-- Which partition values are understood. -/
theorem partitionValues_eq_ok_iff :
    (∃ values, partitionValues v = .ok values) ↔ GivesPairs v := by
  unfold partitionValues
  by_cases hset : v.isSet = true
  · rw [if_pos hset]
    cases hvalue : v with
    | object members => exact iff_of_true ⟨(members, []), rfl⟩ .object
    | _ =>
      -- nothing but an object is understood without a look at its elements
      rw [← hvalue]
      have hpairs : GivesPairs v ↔ ∃ elements, v.elements? = some elements ∧
          ∀ element ∈ elements, ∃ name value, element.elements? = some [name, value] ∧
            isName name = true := by
        constructor
        · intro h
          cases h with
          | unset hunset =>
            rw [hset] at hunset
            cases hunset
          | object => cases hvalue
          | pairs helements hpairs => exact ⟨_, helements, hpairs⟩
        · rintro ⟨elements, helements, hpairs⟩
          exact .pairs helements hpairs
      rw [hpairs]
      subst hvalue
      cases helements : Value.elements? _ with
      | none => simp
      | some elements =>
        simp only [Option.some.injEq, exists_eq_left', ← @pairs_eq_ok_iff 0]
        cases pairs 0 elements <;> simp [Except.map]
  · rw [if_neg hset]
    exact iff_of_true ⟨([], []), rfl⟩ (.unset (by simpa using hset))

/-- Which values other than null have no integer. -/
private theorem toInteger_eq_error_iff (hnull : v ≠ .null) :
    (∃ e, v.toInteger = .error e) ↔ NoInteger v := by
  cases v with
  | null => exact absurd rfl hnull
  | bool b => exact iff_of_false nofun nofun
  | int n => exact iff_of_false nofun nofun
  | float x =>
    cases x with
    | nan => exact iff_of_true ⟨_, rfl⟩ (.notFinite rfl)
    | infinite s => exact iff_of_true ⟨_, rfl⟩ (.notFinite rfl)
    | finite s m e =>
      -- a finite number is cut off at its point
      refine iff_of_false nofun ?_
      rintro ⟨⟨⟩⟩
  | text s =>
    constructor
    · rintro ⟨e, he⟩
      exact .text he
    · rintro (_ | he)
      exact ⟨_, he⟩
  | date d => exact iff_of_true ⟨_, rfl⟩ .date
  | moment m => exact iff_of_true ⟨_, rfl⟩ .moment
  | list items => exact iff_of_true ⟨_, rfl⟩ .list
  | object members => exact iff_of_true ⟨_, rfl⟩ .object

/-! ### Actions -/

/-- What is written about a file that has a location is not understood. -/
structure Garbled (action : Members) : Prop where
  url : (member action "url").isSet = true
  garbled : ¬ GivesPairs (member action "partitionValues") ∨ NoInteger (member action "size")

/-- The size that an action gives. -/
def sizeOf (v : Value) : Except Failure (Option Int) :=
  match v with
  | .null => .ok none
  | v => (v.toInteger.map some).mapError .number

/-- Which sizes are not understood. -/
theorem sizeOf_eq_error_iff : (∃ f, sizeOf v = .error f) ↔ NoInteger v := by
  by_cases hnull : v = .null
  · subst hnull
    exact iff_of_false nofun nofun
  · rw [← toInteger_eq_error_iff hnull, sizeOf]
    · cases v.toInteger <;> simp [Except.map, Except.mapError]
    · exact hnull

/-- A size that is not understood is no number. -/
private theorem number_of_sizeOf {f : Failure} (h : sizeOf v = .error f) : ∃ e, f = .number e := by
  unfold sizeOf at h
  split at h
  · cases h
  · cases hinteger : v.toInteger with
    | error e =>
      rw [hinteger] at h
      exact ⟨e, (Except.error.inj h).symm⟩
    | ok n =>
      rw [hinteger] at h
      cases h

/-- The parts of an action are looked at one after the other. -/
theorem fileOfAction_eq_bind (action : Members) : fileOfAction action =
    if (member action "url").isSet then do
      let values ← (partitionValues (member action "partitionValues")).mapError Failure.manifest
      let size ← sizeOf (member action "size")
      return ⟨(member action "url").display, values.1, member action "id", size,
        member action "stats", values.2⟩
    else .error (.catalog .fileWithoutUrl) := by
  unfold fileOfAction member
  dsimp only
  -- the location is looked at first, then the partition values, and the size last
  cases ((action.lookup? "url").getD .null).isSet with
  | false => rfl
  | true =>
    cases partitionValues ((action.lookup? "partitionValues").getD .null) with
    | error e => rfl
    | ok values => cases (action.lookup? "size").getD .null <;> rfl

/-- A file has no location, or it is garbled, or it is understood. -/
private theorem fileOfAction_cases (action : Members) :
    (fileOfAction action = .error (.catalog .fileWithoutUrl) ∧
        (member action "url").isSet = false) ∨
      (∃ f, fileOfAction action = .error f ∧ (∀ e, f ≠ .catalog e) ∧ Garbled action) ∨
      ∃ file, fileOfAction action = .ok file ∧ (member action "url").isSet = true ∧
        ¬ Garbled action := by
  rw [fileOfAction_eq_bind]
  by_cases hurl : (member action "url").isSet = true
  · rw [if_pos hurl]
    right
    cases hvalues : partitionValues (member action "partitionValues") with
    | error e =>
      have hpairs : ¬ GivesPairs (member action "partitionValues") := by
        rw [← partitionValues_eq_ok_iff, hvalues]
        exact nofun
      -- the partition values are at fault
      exact .inl ⟨.manifest e, rfl, nofun, hurl, .inl hpairs⟩
    | ok values =>
      have hpairs := partitionValues_eq_ok_iff.1 ⟨values, hvalues⟩
      cases hsize : sizeOf (member action "size") with
      | error f =>
        -- the partition values are understood, so the size is at fault
        refine .inl ⟨f, rfl, ?_, hurl, .inr (sizeOf_eq_error_iff.1 ⟨f, hsize⟩)⟩
        obtain ⟨e, rfl⟩ := number_of_sizeOf hsize
        exact nofun
      | ok size =>
        refine .inr ⟨_, rfl, hurl, fun hgarbled => ?_⟩
        -- both have been understood, so neither makes the file garbled
        rcases hgarbled.garbled with hnot | hsizeNot
        · exact hnot hpairs
        · obtain ⟨f, hf⟩ := sizeOf_eq_error_iff.2 hsizeNot
          rw [hsize] at hf
          cases hf
  · rw [if_neg hurl]
    exact .inl ⟨rfl, by simpa using hurl⟩

/-- The files that fail in another way than by a missing location. -/
theorem garbled_iff :
    Garbled action ↔ ∃ f, fileOfAction action = .error f ∧ ∀ e, f ≠ .catalog e := by
  obtain ⟨hfile, hurl⟩ | ⟨f, hfile, hother, hgarbled⟩ | ⟨file, hfile, -, hnot⟩ :=
    fileOfAction_cases action
  · -- without a location the file is refused by the catalog
    refine iff_of_false ?_ ?_
    · intro hgarbled
      rw [hgarbled.url] at hurl
      cases hurl
    · rintro ⟨f, hf, hother⟩
      exact hother _ (Except.error.inj (hf.symm.trans hfile))
  · exact iff_of_true hgarbled ⟨f, hfile, hother⟩
  · refine iff_of_false hnot ?_
    rintro ⟨f, hf, -⟩
    rw [hfile] at hf
    cases hf

/-- The files that are understood. -/
private theorem fileOfAction_eq_ok_iff : (∃ file, fileOfAction action = .ok file) ↔
    (member action "url").isSet = true ∧ ¬ Garbled action := by
  obtain ⟨hfile, hurl⟩ | ⟨f, hfile, -, hgarbled⟩ | ⟨file, hfile, hurl, hnot⟩ :=
    fileOfAction_cases action
  · rw [hfile, hurl]
    simp
  · rw [hfile]
    exact iff_of_false nofun fun h => h.2 hgarbled
  · exact iff_of_true ⟨file, hfile⟩ ⟨hurl, hnot⟩

/-! ### Texts -/

/-- The lines of a text that are not blank. -/
def filledLines (body : String) : List (List Char) :=
  (Text.splitOn '\n' body.toList).filter fun line => !line.all Text.isBlank

/-- What makes a text fail in another way than as a bad answer: the first line that is not read
    holds an integer with too many digits, or all lines are objects and the first file that is not
    understood has a location and is garbled. -/
inductive Escapes (body : String) : Prop
  | digits {before after : List (List Char)} {line : List Char} {count : Nat}
      (lines_eq : filledLines body = before ++ line :: after)
      (read : ∀ l ∈ before, ∃ v, Json.read (String.ofList l) = .ok v)
      (long : Json.read (String.ofList line) = .error (.tooManyDigits count))
  | action {protocol metadata action : Members} {lines before after : List Members}
      (lines_eq : (filledLines body).map (fun line => Json.read (String.ofList line)) =
        (protocol :: metadata :: lines).map fun members => .ok (.object members))
      (actions_eq : lines.filterMap action? = before ++ action :: after)
      (understood : ∀ a ∈ before, (member a "url").isSet = true ∧ ¬ Garbled a)
      (garbled : Garbled action)

private theorem readLine_eq_ok_iff {line : List Char} :
    readLine line = .ok v ↔ Json.read (String.ofList line) = .ok v := by
  rw [readLine]
  split <;> simp_all

/-- A line is refused, unless it holds an integer with too many digits. -/
private theorem readLine_eq_error_iff {line : List Char} {f : Failure} (hf : ∀ e, f ≠ .catalog e) :
    readLine line = .error f ↔ ∃ count, Json.read (String.ofList line) =
      .error (.tooManyDigits count) ∧ f = .number (.tooManyDigits count) := by
  rw [readLine]
  split
  · rename_i v hv
    simp [hv]
  · rename_i hmalformed
    rw [hmalformed]
    refine iff_of_false (fun h => hf _ (Except.error.inj h).symm) ?_
    rintro ⟨count, h, -⟩
    cases h
  · rename_i count hcount
    simp [hcount, eq_comm]

/-- A text whose lines are objects is read as the files that its lines name. -/
theorem read_of_objects {protocol metadata : Members} {lines : List Members}
    (h : (filledLines body).mapM readLine =
      .ok ((protocol :: metadata :: lines).map Value.object)) :
    read body = ((lines.filterMap action?).mapM fileOfAction).map
      fun files => ⟨protocol, metadata, files⟩ := by
  rw [filledLines] at h
  rw [Manifest.read]
  simp only [h, mapM_members?_object, bind, Except.bind]
  cases (lines.filterMap action?).mapM fileOfAction <;> rfl

/-- Values that are objects are known by their members. -/
theorem eq_map_object {values : List Value} {objects : List Members}
    (h : values.mapM members? = some objects) : values = objects.map .object := by
  have hvalues := Run.map_eq_of_mapM_eq_some h
  clear h
  -- value by value: what has members is an object of them
  induction values generalizing objects with
  | nil =>
    cases objects with
    | nil => rfl
    | cons o rest => cases hvalues
  | cons v rest ih =>
    cases objects with
    | nil => cases hvalues
    | cons o os =>
      obtain ⟨hv, hrest⟩ := List.cons.inj hvalues
      rw [List.map_cons, ← ih hrest]
      cases v with
      | object members => exact congrArg (fun m => Value.object m :: rest) (Option.some.inj hv)
      | _ => cases hv

/-- The lines of a text are read as values exactly if each line is JSON. -/
theorem mapM_readLine_eq_ok_iff {lines : List (List Char)} {values : List Value} :
    lines.mapM readLine = .ok values ↔
      lines.map (fun line => Json.read (String.ofList line)) = values.map .ok := by
  rw [Run.mapM_eq_ok_iff]
  induction lines generalizing values with
  | nil => cases values <;> simp
  | cons line rest ih =>
    cases values with
    | nil => simp
    | cons v vs =>
      rw [List.map_cons, List.map_cons, List.map_cons, List.map_cons, List.cons.injEq,
        List.cons.injEq, ih, readLine_eq_ok_iff]

/-- A text with a line that holds too long an integer fails for that reason. -/
private theorem read_of_digits {before after : List (List Char)} {line : List Char} {count : Nat}
    (hlines : filledLines body = before ++ line :: after)
    (hbefore : ∀ l ∈ before, ∃ v, Json.read (String.ofList l) = .ok v)
    (hlong : Json.read (String.ofList line) = .error (.tooManyDigits count)) :
    read body = .error (.number (.tooManyDigits count)) := by
  have hvalues : (filledLines body).mapM readLine = .error (.number (.tooManyDigits count)) := by
    -- this line is the first that is not read
    refine Run.mapM_eq_error_iff.2 ⟨before, line, after, hlines, fun l hl => ?_, ?_⟩
    · obtain ⟨v, hv⟩ := hbefore l hl
      exact ⟨v, readLine_eq_ok_iff.2 hv⟩
    · have hother : ∀ e, Failure.number (.tooManyDigits count) ≠ .catalog e := nofun
      exact (readLine_eq_error_iff hother).2 ⟨count, hlong, rfl⟩
  rw [filledLines] at hvalues
  rw [Manifest.read, hvalues]
  rfl

/-- A text whose lines are objects fails in another way only by a file. -/
private theorem escapes_of_objects {protocol metadata : Members} {lines : List Members}
    {f : Failure}
    (hvalues : (filledLines body).mapM readLine =
      .ok ((protocol :: metadata :: lines).map Value.object))
    (hread : read body = .error f) (hother : ∀ e, f ≠ .catalog e) : Escapes body := by
  rw [read_of_objects hvalues] at hread
  cases hfiles : (lines.filterMap action?).mapM fileOfAction with
  | ok files =>
    rw [hfiles] at hread
    cases hread
  | error f' =>
    rw [hfiles] at hread
    obtain rfl : f' = f := Except.error.inj hread
    -- the first file that is not understood decides
    obtain ⟨before, action, after, hactions, hbefore, hfile⟩ := Run.mapM_eq_error_iff.1 hfiles
    have hlines := mapM_readLine_eq_ok_iff.1 hvalues
    rw [List.map_map] at hlines
    exact .action hlines hactions (fun a ha => fileOfAction_eq_ok_iff.1 (hbefore a ha))
      (garbled_iff.2 ⟨f', hfile, hother⟩)

/-- The texts that fail in another way than as those of a bad answer. -/
theorem escapes_iff : Escapes body ↔ ∃ f, read body = .error f ∧ ∀ e, f ≠ .catalog e := by
  constructor
  · intro h
    cases h with
    | digits hlines hbefore hlong => exact ⟨_, read_of_digits hlines hbefore hlong, nofun⟩
    | action hlines hactions hunderstood hgarbled =>
      obtain ⟨f, hfile, hother⟩ := garbled_iff.1 hgarbled
      -- the garbled file is the first that is not understood
      have hfiles := Run.mapM_eq_error_iff.2 ⟨_, _, _, hactions,
        fun a ha => fileOfAction_eq_ok_iff.2 (hunderstood a ha), hfile⟩
      refine ⟨f, ?_, hother⟩
      rw [read_of_objects (mapM_readLine_eq_ok_iff.2 (hlines.trans List.map_map.symm)), hfiles]
      rfl
  · rintro ⟨f, hread, hother⟩
    cases hvalues : (filledLines body).mapM readLine with
    | error f' =>
      -- the first line that is not read decides
      have hfirst := hvalues
      rw [filledLines] at hfirst
      rw [Manifest.read, hfirst] at hread
      obtain rfl : f' = f := Except.error.inj hread
      obtain ⟨before, line, after, hlines, hbefore, hline⟩ := Run.mapM_eq_error_iff.1 hvalues
      obtain ⟨count, hlong, -⟩ := (readLine_eq_error_iff hother).1 hline
      refine .digits hlines (fun l hl => ?_) hlong
      obtain ⟨v, hv⟩ := hbefore l hl
      exact ⟨v, readLine_eq_ok_iff.1 hv⟩
    | ok values =>
      have hall := hvalues
      rw [filledLines] at hall
      have hread' := hread
      rw [Manifest.read, hall] at hread'
      dsimp only [bind, Except.bind] at hread'
      -- all lines are read, so the objects or the files are at fault; the former is a bad answer
      split at hread'
      · rename_i protocol metadata lines hobjects
        obtain rfl := eq_map_object hobjects
        exact escapes_of_objects hvalues hread hother
      · exact absurd (Except.error.inj hread').symm (hother _)

end Manifest

/-! ### Answers -/

/-- What the answer of the server to the query for a table comes to. -/
def Server.manifest (server : Server) : Except Failure Manifest :=
  match server.query with
  | .failed reason => .error (.catalog (.unreachable reason))
  | .answered status payload =>
    if status = successStatus then Manifest.read payload.text
    else .error (.catalog (.rejected status payload.text))

namespace Client

variable {c : Client} {server : Server}

/-- A request comes to what the answer comes to. -/
theorem result_ask {body : Value} {shareName schemaName tableName authorization : String} :
    (c.ask server shareName schemaName tableName body authorization).result = server.manifest := by
  -- the request is sent, and then its answer is looked at
  have hsent : ∀ {β : Type} (e : Event) (r : Run β),
      (Run.emit e >>= fun _ => r).result = r.result := fun _ _ => rfl
  rw [ask, hsent, Server.manifest]
  cases server.query with
  | failed reason => rfl
  | answered status payload =>
    dsimp only
    split
    · cases hread : Manifest.read payload.text <;> rfl
    · rfl

/-- A limit and hints that are texts make a body. -/
private theorem exists_queryBody (limit : Option Int) (hints : List String) :
    ∃ body, queryBody ((limit.map Value.int).getD .null) (.list (hints.map .text)) = .ok body := by
  cases limit <;> cases hints <;> exact ⟨_, rfl⟩

/-- A request that names its table comes to what the answer comes to if it can be sent, and to a
    failure for which the server is not to blame otherwise. -/
theorem result_queryTable_of_names (c : Client) (server : Server) (share schema table : String)
    (limit : Option Int) (hints : List String) :
    (IsSendable c.token ((limit.map Value.int).getD .null) (hints.map .text) ∧
      (c.queryTable server (.text share) (.text schema) (.text table)
        ((limit.map Value.int).getD .null) (.list (hints.map .text))).result = server.manifest) ∨
    ¬ IsSendable c.token ((limit.map Value.int).getD .null) (hints.map .text) ∧
      ∃ f, f.isLocal = true ∧ (c.queryTable server (.text share) (.text schema) (.text table)
        ((limit.map Value.int).getD .null) (.list (hints.map .text))).result = .error f := by
  obtain ⟨body, hbody⟩ := exists_queryBody limit hints
  by_cases h : IsSendable c.token ((limit.map Value.int).getD .null) (hints.map .text)
  · left
    rw [queryTable_of_isSendable hbody rfl rfl rfl h]
    exact ⟨h, result_ask⟩
  · right
    obtain ⟨f, hf, hfail⟩ := queryTable_of_not_isSendable h server (.text share)
      (.text schema) (.text table)
    rw [hfail]
    exact ⟨h, f, hf, rfl⟩

end Client

/-- The answers that are accepted or refused. -/
private theorem Server.acceptedOrRefused_manifest_iff {server : Server} :
    AcceptedOrRefused server.manifest ↔
      ¬ ∃ payload, server.query = .answered successStatus payload ∧
        Manifest.Escapes payload.text := by
  rw [manifest]
  cases server.query with
  | failed reason => exact iff_of_true (.refused rfl) (by simp)
  | answered status payload =>
    dsimp only
    split
    · rename_i hstatus
      subst hstatus
      -- an answer with success is as good as its text
      rw [← not_iff_not, not_acceptedOrRefused_iff, ← Manifest.escapes_iff, not_not]
      constructor
      · intro h
        exact ⟨payload, rfl, h⟩
      · rintro ⟨payload', hpayload, h⟩
        cases hpayload
        exact h
    · rename_i hstatus
      -- any other status is a refusal
      refine iff_of_true (.refused rfl) ?_
      rintro ⟨payload', hpayload, -⟩
      cases hpayload
      exact hstatus rfl

/-- A text is read or refused unless it escapes.  So a query for a table that can be sent has a
    manifest or is refused unless the answer is a success with a text that escapes. -/
theorem answers_accepted_or_refused_iff (body : String) (c : Client) (server : Server)
    (share schema table : String) (limit : Option Int) (hints : List String) :
    (AcceptedOrRefused (Manifest.read body) ↔ ¬ Manifest.Escapes body) ∧
    (AcceptedOrRefused (c.queryTable server (.text share) (.text schema) (.text table)
        ((limit.map Value.int).getD .null) (.list (hints.map .text))).result ↔
      Client.IsSendable c.token ((limit.map Value.int).getD .null) (hints.map .text) ∧
        ¬ ∃ payload, server.query = .answered successStatus payload ∧
          Manifest.Escapes payload.text) := by
  constructor
  · rw [← not_iff_not, not_acceptedOrRefused_iff, ← Manifest.escapes_iff, not_not]
  · obtain ⟨h, hresult⟩ | ⟨h, f, hf, hresult⟩ :=
      Client.result_queryTable_of_names c server share schema table limit hints
    · rw [hresult, Server.acceptedOrRefused_manifest_iff, and_iff_right h]
    · -- a request that cannot be sent is a failure of another kind
      rw [hresult]
      refine iff_of_false ?_ fun hand => h hand.1
      refine not_acceptedOrRefused_iff.2 ⟨f, rfl, ?_⟩
      rintro e rfl
      cases hf

/-- A size that is a word is neither accepted nor refused, and neither are partition values that are
    a number. -/
theorem garbled_files_not_refused :
    Manifest.read "\x7b\x7d\n\x7b\x7d\n\x7b\"add\":\x7b\"url\":\"u\",\"size\":\"many\"\x7d\x7d" =
        .error (.number (.notInteger "many")) ∧
      Manifest.read
          "\x7b\x7d\n\x7b\x7d\n\x7b\"file\":\x7b\"url\":\"u\",\"partitionValues\":5\x7d\x7d" =
        .error (.manifest .notPairs) ∧
      ¬ ∀ body, AcceptedOrRefused (Manifest.read body) := by
  have hsize : Manifest.read
      "\x7b\x7d\n\x7b\x7d\n\x7b\"add\":\x7b\"url\":\"u\",\"size\":\"many\"\x7d\x7d" =
        .error (.number (.notInteger "many")) := by cbv
  refine ⟨hsize, by cbv, fun h => ?_⟩
  refine not_acceptedOrRefused_iff.2 ⟨_, hsize, fun e he => ?_⟩ (h _)
  cases he

end SharedTables
