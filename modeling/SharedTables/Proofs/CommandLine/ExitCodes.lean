import Mathlib
import SharedTables.CommandLine.Perform
import SharedTables.Proofs.Query.Connection

/-!
# Exit codes

The exit code of a query tells what became of it.  It is the one for a rejected query exactly if the
server gave no manifest.  Rows are written once if all went well, and not at all otherwise, also if
the command ends without an exit code.  Without usable settings and a positive limit there is no
connection and no request.

## Key results

- `Reports.bind`, `reports_finish`: what a result that has been fetched is made into
- `performQuery_of_describes`, `performQuery_of_not_describes`: commands that come to a query, and
  those that stop before
- `execute_eq_bind`, `reports_conclude`: how a command goes on when its query has been carried out
- `exit_codes_account`: exit code, output and connection of every command
-/

namespace SharedTables

namespace Event

/-- Whether the event writes rows. -/
def isWriting : Event → Bool
  | output _ => true
  | wrote .. => true
  | _ => false

/-- What is written, among events. -/
def writings (events : List Event) : List Event :=
  events.filter isWriting

/-- Neither messages nor requests write rows. -/
private theorem isWriting_of_isTraffic {e : Event} (h : e.isTraffic = true) :
    e.isWriting = false := by
  cases e <;> first | rfl | cases h

/-- Messages write no rows. -/
theorem isWriting_of_isMessage {e : Event} (h : e.isMessage = true) : e.isWriting = false :=
  isWriting_of_isTraffic (isTraffic_of_isMessage h)

/-- Messages open and close no connection. -/
private theorem isConnection_of_isMessage {e : Event} (h : e.isMessage = true) :
    e.isConnection = false :=
  isConnection_of_isTraffic (isTraffic_of_isMessage h)

/-- Writing rows opens and closes no connection. -/
private theorem isConnection_of_isWriting {e : Event} (h : e.isWriting = true) :
    e.isConnection = false := by
  cases e <;> first | rfl | cases h

end Event

namespace CommandLine

open Run

variable {o : QueryOptions} {files : Files} {environment : Environment} {settings : Settings}
  {server : Server} {q : Query} {r : QueryResult}

/-! ### Writing -/

/-- The operation writes rows once and ends with the code for success, or it leaves messages and
    ends with the code for a fault, if it ends with a code at all. -/
inductive Reports (fault : Nat) (r : Run Nat) : Prop
  | rows (before after : List Event) (writing : Event) (code : r.result = .ok exitSuccess)
      (events_eq : r.events = before ++ writing :: after)
      (writes : writing.isWriting = true) (before_messages : before.all Event.isMessage = true)
      (after_messages : after.all Event.isMessage = true)
  | nothing (code : ∀ c, r.result = .ok c → c = fault)
      (messages : r.events.all Event.isMessage = true)

/-- Messages before a report change nothing about it. -/
theorem Reports.bind {α : Type} {fault : Nat} {r : Run α} {f : α → Run Nat}
    (hr : r.Leaves Event.isMessage fun _ => true) (hf : ∀ a, Reports fault (f a)) :
    Reports fault (r >>= f) := by
  cases hfirst : r.result with
  | error e =>
    -- a failure keeps its messages and gives no code
    refine .nothing ?_ ?_
    · rw [result_bind_of_error hfirst]
      exact nofun
    · rw [events_bind, hfirst, List.append_nil]
      exact hr.events
  | ok a =>
    cases hf a with
    | rows before after writing hcode hevents hwrites hbefore hafter =>
      -- the messages of the first part come before those of the second
      refine .rows (r.events ++ before) after writing ((result_bind_of_ok hfirst f).trans hcode) ?_
        hwrites ?_ hafter
      · rw [events_bind_of_ok hfirst, hevents, List.append_assoc]
      · rw [List.all_append, hr.events, hbefore]
        rfl
    | nothing hcode hmessages =>
      refine .nothing ?_ ?_
      · rw [result_bind_of_ok hfirst]
        exact hcode
      · rw [events_bind_of_ok hfirst, List.all_append, hr.events, hmessages]
        rfl

/-- A failure ends a command without a code. -/
private theorem reports_fail (fault : Nat) (e : Failure) : Reports fault (fail e) :=
  .nothing nofun rfl

/-- What is wrong is said, and nothing else. -/
private theorem reports_fault (fault : Nat) (text : String) : Reports fault (do
    Run.log .error text
    return fault) :=
  .nothing (fun _ h => (Except.ok.inj h).symm) rfl

/-- A text that has been rendered is written. -/
private theorem reports_rendered (fault : Nat) (text : Except Failure String)
    (output : Option String) :
    Reports fault (do
    let text ← Run.ofExcept text
    writeTo output text
    return exitSuccess) := by
  refine Reports.bind (leaves_ofExcept fun _ _ => rfl) fun text => ?_
  unfold writeTo
  dsimp only
  split
  · exact .rows [] [] _ rfl rfl rfl rfl rfl
  · exact .rows [] [_] _ rfl rfl rfl rfl rfl

/-- The rows or groups of a result are written, or there is a message that the column is unknown. -/
private theorem reports_present (o : QueryOptions) (r : QueryResult) : Reports exitUsage
    (present o r) := by
  unfold present
  dsimp only
  split
  · exact reports_rendered _ _ _
  · split
    · exact reports_fault _ _
    · refine Reports.bind (leaves_ofExcept fun _ _ => rfl) fun groups => ?_
      exact Reports.bind (leaves_ofExcept fun _ _ => rfl) fun listed => reports_rendered _ _ _

/-- Filtering and searching a result leave messages. -/
private theorem leaves_narrow (o : QueryOptions) (r : QueryResult) :
    (narrow o r).Leaves Event.isMessage fun _ => true := by
  refine (leaves_ofExcept fun _ _ => rfl).bind fun filtered => ?_
  dsimp only
  split
  · exact leaves_pure filtered
  · refine Leaves.bind ?_ fun t => leaves_pure _
    exact (filtered.table.quiet_search _ _).mono (fun _ => id) fun _ _ => rfl

/-- What a result that has been fetched is made into. -/
theorem reports_finish (o : QueryOptions) (r : QueryResult) : Reports exitUsage (finish o r) := by
  refine Reports.bind (leaves_emit rfl) fun _ => ?_
  refine Reports.bind (leaves_attempt (leaves_narrow o r)) fun narrowed => ?_
  split
  · exact reports_present o _
  · split
    · exact reports_fault _ _
    · exact reports_fail _ _

/-! ### Coming to a query -/

/-- The options describe the query; a limit has to be positive. -/
inductive QueryOptions.Describes (o : QueryOptions) : Query → Prop
  | unlimited {q : Query} (built : buildQuery o = .ok q) (no_limit : o.limit = none) :
      o.Describes q
  | limited {q : Query} {n : Int} (built : buildQuery o = .ok q) (limit_eq : o.limit = some n)
      (positive : 0 < n) : o.Describes { q with limit := .int n }

/-- Options that name a table describe a query, as far as the limit allows. -/
private theorem exists_buildQuery (h : o.table ≠ "") : ∃ q, buildQuery o = .ok q := by
  have htable : Query.checkTable (.text o.table) = .ok () := if_pos (by simpa [Value.isSet] using h)
  rw [buildQuery, Query.create, htable]
  cases names? o.select <;> exact ⟨_, rfl⟩

/-- Filters that are added one by one stand behind those before, and nothing else changes. -/
private theorem foldl_addFilter (texts : List String) (q : Query) :
    texts.foldl (fun q p => q.addFilter (.text p)) q =
      { q with filters := q.filters ++ texts.map .text } := by
  induction texts generalizing q with
  | nil => rw [List.foldl_nil, List.map_nil, List.append_nil]
  | cons text rest ih =>
    rw [List.foldl_cons, ih, List.map_cons]
    simp [Query.addFilter]

/-- The table, the filters and the limit of the query are those of the options. -/
theorem QueryOptions.Describes.parts (h : o.Describes q) : q.table = .text o.table ∧
    q.filters = o.predicates.map .text ∧ q.limit = (o.limit.map Value.int).getD .null := by
  have hbuilt : ∀ {q}, buildQuery o = .ok q → q.table = .text o.table ∧
      q.filters = o.predicates.map .text ∧ q.limit = .null := by
    intro q hq
    rw [buildQuery, Query.create] at hq
    cases htable : Query.checkTable (.text o.table) with
    | error e =>
      rw [htable] at hq
      cases hq
    | ok _ =>
      rw [htable] at hq
      -- whether columns are selected does not matter here
      cases hselect : names? o.select <;> rw [hselect] at hq <;> obtain rfl := Except.ok.inj hq <;>
        rw [foldl_addFilter] <;> exact ⟨rfl, List.nil_append _, rfl⟩
  cases h with
  | unlimited built no_limit =>
    rw [no_limit]
    exact hbuilt built
  | limited built limit_eq positive =>
    obtain ⟨htable, hfilters, -⟩ := hbuilt built
    rw [limit_eq]
    exact ⟨htable, hfilters, rfl⟩

/-- With settings and a query a command comes to the query. -/
theorem performQuery_of_describes
    (hload : Settings.load files o.config environment (overrides o) = .ok settings)
    (hq : o.Describes q) :
    performQuery o files environment server = performWith.execute o settings server q := by
  rw [performQuery, hload]
  dsimp only
  rw [performWith]
  cases hq with
  | unlimited hbuilt hlimit =>
    rw [hbuilt, hlimit]
    exact pure_bind q _
  | limited hbuilt hlimit hpositive =>
    rw [hbuilt, hlimit]
    -- a positive limit is passed on
    exact (pure_bind _ _).trans (if_neg (by omega))

/-- The command leaves messages, and if it ends with a code it is the one for usage. -/
structure Stops (r : Run Nat) : Prop where
  code : ∀ c, r.result = .ok c → c = exitUsage
  messages : r.events.all Event.isMessage = true

/-- A command that stops has neither opened a connection nor asked the server for anything. -/
private theorem Stops.unconnected {r : Run Nat} (h : Stops r) :
    Event.connections r.events = [] ∧ Event.requests r.events = [] :=
  ⟨Event.filter_eq_nil h.messages fun _ => Event.isConnection_of_isMessage,
    Event.requests_eq_nil h.messages⟩

/-- Bad settings stop a command with the code for usage. -/
private theorem performQuery_of_config {e : ConfigError}
    (h : Settings.load files o.config environment (overrides o) = .error (.config e)) :
    (performQuery o files environment server).result = .ok exitUsage ∧
      Stops (performQuery o files environment server) := by
  rw [performQuery, h]
  exact ⟨rfl, fun _ hc => (Except.ok.inj hc).symm, rfl⟩

/-- A command that does not come to a query stops. -/
theorem performQuery_of_not_describes
    (h : ∀ settings q, Settings.load files o.config environment (overrides o) = .ok settings →
      ¬ o.Describes q) :
    Stops (performQuery o files environment server) := by
  unfold performQuery
  split
  · rename_i settings hload
    rw [performWith]
    cases hbase : buildQuery o with
    | error e => exact ⟨nofun, rfl⟩
    | ok base =>
      -- only a limit that is not positive is left
      rw [ofExcept_ok, pure_bind]
      split
      · rename_i n hn
        split
        · exact ⟨fun _ hc => (Except.ok.inj hc).symm, rfl⟩
        · rename_i hpositive
          exact absurd (.limited hbase hn (by omega)) (h settings _ hload)
      · rename_i hn
        exact absurd (.unlimited hbase hn) (h settings base hload)
  · exact ⟨fun _ hc => (Except.ok.inj hc).symm, rfl⟩
  · exact ⟨nofun, rfl⟩

/-! ### Going on from a query -/

/-- How a command goes on when its query has come to a result, or has not. -/
def conclude (o : QueryOptions) : Except Failure QueryResult → Run Nat
  | .ok r => finish o r
  | .error (.catalog e) => do
    Run.log .error ("Query on " ++ o.table ++ " failed: " ++ e.message)
    return exitRejected
  | .error e => Run.fail e

/-- A command that comes to a query carries it out and concludes. -/
theorem execute_eq_bind (o : QueryOptions) (settings : Settings) (server : Server) (q : Query) :
    performWith.execute o settings server q =
      (q.execute settings server).attempt >>= conclude o := by
  rw [performWith.execute]
  refine congrArg (_ >>= ·) (funext fun outcome => ?_)
  cases outcome with
  | ok r => rfl
  | error e => cases e <;> rfl

/-- A query that is refused is reported with the code for that, and nothing is written; for all else
    the code is the one for usage, unless rows are written. -/
theorem reports_conclude (o : QueryOptions) (outcome : Except Failure QueryResult) :
    ((∃ e, outcome = .error (.catalog e)) ∧ (conclude o outcome).result = .ok exitRejected ∧
        Reports exitRejected (conclude o outcome)) ∨
      (∀ e, outcome ≠ .error (.catalog e)) ∧ Reports exitUsage (conclude o outcome) := by
  unfold conclude
  split
  · exact .inr ⟨nofun, reports_finish o _⟩
  · exact .inl ⟨⟨_, rfl⟩, rfl, reports_fault _ _⟩
  · rename_i e hother
    refine .inr ⟨fun e' he => ?_, reports_fail _ e⟩
    exact hother e' (Except.error.inj he)

/-! ### Exit code, output and connection -/

/-- The exit code, the output and the connection of a command fit together: rows are written once if
    the code is the one for success, and otherwise not at all, and a connection that is opened is
    closed, once. -/
structure Accounts (r : Run Nat) : Prop where
  code : ∀ c, r.result = .ok c → c = exitSuccess ∨ c = exitRejected ∨ c = exitUsage
  written : r.result = .ok exitSuccess → ∃ writing, Event.writings r.events = [writing]
  silent : r.result ≠ .ok exitSuccess → Event.writings r.events = []
  closed : Event.connections r.events = [] ∨ Event.connections r.events = [.opened, .closed]

/-- A report has nothing to do with connections. -/
private theorem Reports.connections_eq_nil {fault : Nat} {r : Run Nat} (h : Reports fault r) :
    Event.connections r.events = [] := by
  cases h with
  | rows before after writing _ hevents hwrites hbefore hafter =>
    rw [hevents, Event.connections, List.filter_append,
      Event.filter_eq_nil hbefore fun _ => Event.isConnection_of_isMessage,
      List.filter_cons_of_neg (by simp [Event.isConnection_of_isWriting hwrites]),
      Event.filter_eq_nil hafter fun _ => Event.isConnection_of_isMessage]
    rfl
  | nothing _ hmessages =>
    exact Event.filter_eq_nil hmessages fun _ => Event.isConnection_of_isMessage

/-- A report is all that is written, and it says whether all went well. -/
private theorem Reports.code_and_writings {fault : Nat} {r : Run Nat} (h : Reports fault r) :
    (r.result = .ok exitSuccess ∧ ∃ writing, Event.writings r.events = [writing]) ∨
      (∀ c, r.result = .ok c → c = fault) ∧ Event.writings r.events = [] := by
  cases h with
  | rows before after writing hcode hevents hwrites hbefore hafter =>
    refine .inl ⟨hcode, writing, ?_⟩
    -- messages are no writings, so the one in the middle is all there is
    rw [hevents, Event.writings, List.filter_append,
      Event.filter_eq_nil hbefore fun _ => Event.isWriting_of_isMessage,
      List.filter_cons_of_pos hwrites,
      Event.filter_eq_nil hafter fun _ => Event.isWriting_of_isMessage]
    rfl
  | nothing hcode hmessages =>
    exact .inr ⟨hcode, Event.filter_eq_nil hmessages fun _ => Event.isWriting_of_isMessage⟩

/-- What is reported in the end accounts for all that went before, if nothing was written then and
    no connection is left open. -/
private theorem Reports.accounts {fault : Nat} {r : Run Nat} {before : List Event}
    (h : Reports fault r)
    (hfault : fault = exitRejected ∨ fault = exitUsage) (hwritings : Event.writings before = [])
    (hclosed : Event.connections before = [] ∨ Event.connections before = [.opened, .closed]) :
    Accounts ⟨before ++ r.events, r.result⟩ := by
  -- what happened before has written nothing, so the report alone counts
  have hwritten : Event.writings (before ++ r.events) = Event.writings r.events := by
    rw [Event.writings, List.filter_append]
    exact congrArg (· ++ _) hwritings
  have hconnections : Event.connections (before ++ r.events) = Event.connections before := by
    rw [Event.connections, List.filter_append]
    exact (congrArg (_ ++ ·) h.connections_eq_nil).trans (List.append_nil _)
  have hends : Event.connections (before ++ r.events) = [] ∨
      Event.connections (before ++ r.events) = [.opened, .closed] := by
    rw [hconnections]
    exact hclosed
  obtain ⟨hcode, hone⟩ | ⟨hcode, hnone⟩ := h.code_and_writings
  · refine ⟨fun c hc => .inl (Except.ok.inj (hc.symm.trans hcode)), fun _ => ?_,
      fun hfail => absurd hcode hfail, hends⟩
    rw [hwritten]
    exact hone
  · refine ⟨fun c hc => .inr ?_, fun hsuccess => ?_, fun _ => hwritten.trans hnone, hends⟩
    · rw [hcode c hc]
      exact hfault
    · -- neither code for a fault is the one for success
      have hzero : exitSuccess = fault := hcode exitSuccess hsuccess
      obtain rfl | rfl := hfault <;> cases hzero

/-- A query writes nothing by itself. -/
private theorem writings_execute (q : Query) (settings : Settings) (server : Server) :
    Event.writings (q.execute settings server).events = [] := by
  obtain hnone | hconnection :=
    q.filter_execute settings server fun _ => Event.isWriting_of_isTraffic
  · exact hnone
  · exact hconnection

/-- A command that comes to a query ends as its conclusion does. -/
private theorem result_execute (o : QueryOptions) (settings : Settings) (server : Server)
    (q : Query) :
    (performWith.execute o settings server q).result =
      (conclude o (q.execute settings server).result).result := by
  rw [execute_eq_bind, result_bind_of_ok (r := (q.execute settings server).attempt) rfl]

/-- A command that comes to a query ends with the code for a rejected one if the query fails for
    want of a manifest. -/
private theorem result_execute_eq_rejected_iff :
    (performWith.execute o settings server q).result = .ok exitRejected ↔
      ∃ e, q.IsRefused settings server e := by
  simp only [Query.isRefused_iff]
  rw [result_execute]
  obtain ⟨hrefused, hresult, -⟩ | ⟨hother, hreport⟩ :=
    reports_conclude o (q.execute settings server).result
  · exact iff_of_true hresult hrefused
  · refine iff_of_false (fun hresult => ?_) fun ⟨e, he⟩ => hother e he
    -- a report gives the code for success or the one for usage
    obtain ⟨hcode, -⟩ | ⟨hcode, -⟩ := hreport.code_and_writings
    · cases hresult.symm.trans hcode
    · cases hcode _ hresult

/-- A query for a located table is refused exactly if it can be sent and the server gives no
    manifest. -/
private theorem isRefused_iff_of_located (hlocated : settings.IsLocated) (hq : o.Describes q) :
    (∃ e, q.IsRefused settings server e) ↔
      Client.IsSendable settings.bearerToken q.limit q.filters ∧ ∃ e, server.Refuses e := by
  obtain ⟨endpoint, share, schema, hendpoint, hshare, hschema⟩ := hlocated
  obtain ⟨htable, hfilters, hlimit⟩ := hq.parts
  have hresult := Client.result_queryTable_of_names (.connect endpoint settings.bearerToken) server
    share schema o.table o.limit o.predicates
  rw [← hfilters, ← hlimit] at hresult
  have hrefused : ∀ e, q.IsRefused settings server e ↔
      Client.IsSendable settings.bearerToken q.limit q.filters ∧ server.Refuses e := by
    intro e
    rw [Query.IsRefused, hendpoint, hshare, hschema, htable, Server.refuses_iff]
    simp only [Value.text.injEq, exists_eq_left']
    obtain ⟨hsendable, hmanifest⟩ | ⟨hnot, f, hf, hfail⟩ := hresult
    · rw [hmanifest]
      exact (and_iff_right hsendable).symm
    · -- what keeps a request from being sent is not the fault of the server
      rw [hfail]
      refine iff_of_false ?_ fun hand => hnot hand.1
      intro he
      obtain rfl := Except.error.inj he
      cases hf
  simp only [hrefused, exists_and_left]

/-- What a command that comes to a query leaves accounts for it. -/
private theorem accounts_execute (o : QueryOptions) (settings : Settings) (server : Server)
    (q : Query) :
    Accounts (performWith.execute o settings server q) := by
  have hexecute : performWith.execute o settings server q =
      ⟨(q.execute settings server).events ++ (conclude o (q.execute settings server).result).events,
        (conclude o (q.execute settings server).result).result⟩ :=
    execute_eq_bind o settings server q
  have hwritings := writings_execute q settings server
  have hclosed := q.connections_execute settings server
  rw [hexecute]
  -- refused or not, the connection is closed before anything is reported
  obtain ⟨-, -, hreport⟩ | ⟨-, hreport⟩ := reports_conclude o (q.execute settings server).result
  · exact hreport.accounts (.inl rfl) hwritings hclosed
  · exact hreport.accounts (.inr rfl) hwritings hclosed

/-- What a command leaves accounts for it, whether it comes to a query or not. -/
private theorem accounts_performQuery (o : QueryOptions) (files : Files) (environment : Environment)
    (server : Server) : Accounts (performQuery o files environment server) := by
  by_cases h : ∃ settings q,
      Settings.load files o.config environment (overrides o) = .ok settings ∧ o.Describes q
  · obtain ⟨settings, q, hload, hq⟩ := h
    rw [performQuery_of_describes hload hq]
    exact accounts_execute o settings server q
  · -- without settings or a query nothing is connected to
    have hstops : Stops (performQuery o files environment server) :=
      performQuery_of_not_describes fun settings q hload hq => h ⟨settings, q, hload, hq⟩
    have hreport : Reports exitUsage (performQuery o files environment server) :=
      .nothing hstops.code hstops.messages
    exact @Reports.accounts _ _ [] hreport (.inr rfl) rfl (.inl rfl)

/-- A command ends with the code for a rejected query if it comes to a query whose request for the
    manifest fails for want of one. -/
private theorem result_performQuery_eq_rejected_iff :
    (performQuery o files environment server).result = .ok exitRejected ↔ ∃ settings q e,
      Settings.load files o.config environment (overrides o) = .ok settings ∧
        o.Describes q ∧ q.IsRefused settings server e := by
  constructor
  · intro hresult
    by_cases h : ∃ settings q,
        Settings.load files o.config environment (overrides o) = .ok settings ∧ o.Describes q
    · obtain ⟨settings, q, hload, hq⟩ := h
      rw [performQuery_of_describes hload hq, result_execute_eq_rejected_iff] at hresult
      obtain ⟨e, he⟩ := hresult
      exact ⟨settings, q, e, hload, hq, he⟩
    · have hstops : Stops (performQuery o files environment server) :=
        performQuery_of_not_describes fun settings q hload hq => h ⟨settings, q, hload, hq⟩
      cases hstops.code _ hresult
  · rintro ⟨settings, q, e, hload, hq, he⟩
    rw [performQuery_of_describes hload hq]
    exact result_execute_eq_rejected_iff.2 ⟨e, he⟩

/-- A limit that is not positive stops the command, and the code is the one for usage if the
    settings are in order and a table is named. -/
private theorem performQuery_of_limit {n : Int} (hlimit : o.limit = some n) (hn : n ≤ 0) :
    Stops (performQuery o files environment server) ∧
      (o.table ≠ "" → (∃ settings,
          Settings.load files o.config environment (overrides o) = .ok settings) →
        (performQuery o files environment server).result = .ok exitUsage) := by
  constructor
  · -- such a limit describes no query
    refine performQuery_of_not_describes fun settings q hload hq => ?_
    cases hq with
    | unlimited hbuilt hnone => cases hlimit.symm.trans hnone
    | limited hbuilt hsome hpositive =>
      obtain rfl := Option.some.inj (hlimit.symm.trans hsome)
      omega
  · rintro htable ⟨settings, hload⟩
    obtain ⟨q, hq⟩ := exists_buildQuery htable
    rw [performQuery, hload]
    dsimp only
    rw [performWith, hq, hlimit]
    refine (congrArg Run.result (pure_bind q _)).trans ?_
    dsimp only
    rw [if_pos hn]
    rfl

/-- The code is the one for a rejected query exactly if the request for the manifest failed for want
    of one, for which the server is to blame.  Where the location of the query is made of texts, the
    code is this one exactly if the query can be sent and the server cannot be reached, answers with
    another status than success, or with a text that is no manifest.  Rows are written once if
    the code is the one for success and not at all otherwise, and whether there is a code or not, a
    connection that is opened is closed once.  Settings or a limit that are not usable end the
    command with the code for usage, without a connection and without a request. -/
theorem exit_codes_account (o : QueryOptions) (files : Files) (environment : Environment)
    (server : Server) :
    ((performQuery o files environment server).result = .ok exitRejected ↔
      ∃ (settings : Settings) (q : Query) (e : CatalogError),
        Settings.load files o.config environment (overrides o) = .ok settings ∧
        o.Describes q ∧ q.IsRefused settings server e) ∧
    (∀ (settings : Settings) (q : Query) (e : CatalogError),
      q.IsRefused settings server e → server.Refuses e) ∧
    (∀ (settings : Settings) (q : Query),
      Settings.load files o.config environment (overrides o) = .ok settings →
      settings.IsLocated → o.Describes q →
      ((performQuery o files environment server).result = .ok exitRejected ↔
        Client.IsSendable settings.bearerToken q.limit q.filters ∧ ∃ e, server.Refuses e)) ∧
    Accounts (performQuery o files environment server) ∧
    ((∃ e, Settings.load files o.config environment (overrides o) = .error (.config e)) →
      (performQuery o files environment server).result = .ok exitUsage ∧
      Event.connections (performQuery o files environment server).events = [] ∧
      Event.requests (performQuery o files environment server).events = []) ∧
    ∀ n, o.limit = some n → n ≤ 0 →
      (∀ c, (performQuery o files environment server).result = .ok c → c = exitUsage) ∧
      (o.table ≠ "" → (∃ settings,
          Settings.load files o.config environment (overrides o) = .ok settings) →
        (performQuery o files environment server).result = .ok exitUsage) ∧
      Event.connections (performQuery o files environment server).events = [] ∧
      Event.requests (performQuery o files environment server).events = [] := by
  refine ⟨result_performQuery_eq_rejected_iff, fun settings q e => Query.IsRefused.refuses,
    fun settings q hload hlocated hq => ?_, accounts_performQuery o files environment server, ?_,
    fun n hlimit hn => ?_⟩
  · rw [performQuery_of_describes hload hq, result_execute_eq_rejected_iff]
    exact isRefused_iff_of_located hlocated hq
  · rintro ⟨e, hload⟩
    obtain ⟨hresult, hstops⟩ := @performQuery_of_config o files environment server e hload
    exact ⟨hresult, hstops.unconnected⟩
  · obtain ⟨hstops, hresult⟩ := @performQuery_of_limit o files environment server n hlimit hn
    exact ⟨hstops.code, hresult, hstops.unconnected⟩

/-- A command that names a table and how to reach it. -/
def numbersWithin (limit : Int) : QueryOptions :=
  { table := "numbers", config := none, endpoint := some "https://sharing.example.com",
    bearerToken := some "token", share := some "share", schema := none, select := none,
    predicates := [], limit := some limit, filters := [], search := none, searchColumns := none,
    aggregate := none, maxWorkers := none, progress := false, format := .json, output := none }

example : (performQuery (numbersWithin 5) [] [] (Server.unreachable "no route")).result =
      .ok exitRejected ∧
    (performQuery (numbersWithin 0) [] [] (Server.unreachable "no route")).result =
      .ok exitUsage := ⟨rfl, rfl⟩

end CommandLine

end SharedTables
