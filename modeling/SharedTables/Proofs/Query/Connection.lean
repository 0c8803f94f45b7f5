import Mathlib
import SharedTables.Proofs.Events
import SharedTables.Proofs.Sharing.Refusals

/-!
# The connection of a query

A query that has a location to connect to opens one connection and closes it at the end, whatever
happens in between.  It fails for want of a manifest exactly if its request for the manifest does,
and such a request fails because of the server: it cannot be reached, answers with another status
than success, or with a text that is no manifest.

## Key results

- `Server.refuses_iff`: the ways in which a server gives no manifest
- `Client.refuses_of_queryTable`: only the server is to blame for the want of a manifest
- `Query.execute_cases`: the events of a query
- `Query.isRefused_iff`: a query fails for want of a manifest if its request for it does
-/

namespace SharedTables

namespace Event

/-- Whether the event opens or closes a connection. -/
def isConnection : Event → Bool
  | opened => true
  | closed => true
  | _ => false

/-- The connections opened and closed among events. -/
def connections (events : List Event) : List Event :=
  events.filter isConnection

theorem isConnection_of_isTraffic {e : Event} (h : e.isTraffic = true) :
    e.isConnection = false := by
  cases e <;> first | rfl | cases h

end Event

/-- The server gives no manifest, for the given reason. -/
inductive Server.Refuses (server : Server) : CatalogError → Prop
  | unreachable {reason : String} (failed : server.query = .failed reason) :
      server.Refuses (.unreachable reason)
  | rejected {status : Nat} {payload : Payload} (answered : server.query = .answered status payload)
      (status_ne : status ≠ successStatus) : server.Refuses (.rejected status payload.text)
  | malformed {payload : Payload} {e : CatalogError}
      (answered : server.query = .answered successStatus payload)
      (read : Manifest.read payload.text = .error (.catalog e)) : server.Refuses e

/-- The ways in which a server gives no manifest. -/
theorem Server.refuses_iff {server : Server} {e : CatalogError} :
    server.Refuses e ↔ server.manifest = .error (.catalog e) := by
  rw [manifest]
  constructor
  · intro h
    cases h with
    | unreachable hquery => rw [hquery]
    | rejected hquery hstatus =>
      rw [hquery]
      exact if_neg hstatus
    | malformed hquery hread =>
      rw [hquery]
      exact (if_pos rfl).trans hread
  · intro h
    -- what the server answers decides which of the three it is
    cases hquery : server.query with
    | failed reason =>
      rw [hquery] at h
      obtain rfl := Failure.catalog.inj (Except.error.inj h)
      exact .unreachable hquery
    | answered status payload =>
      rw [hquery] at h
      dsimp only at h
      split at h
      · rename_i hstatus
        subst hstatus
        exact .malformed hquery h
      · rename_i hstatus
        obtain rfl := Failure.catalog.inj (Except.error.inj h)
        exact .rejected hquery hstatus

namespace Client

variable {c : Client} {server : Server} {share schema table limit predicates : Value}

/-- A request for a manifest is wanting one only because of the server. -/
theorem refuses_of_queryTable {e : CatalogError}
    (h : (c.queryTable server share schema table limit predicates).result =
      .error (.catalog e)) : server.Refuses e := by
  obtain ⟨_, _, _, _, _, -, -, -, hask⟩ | ⟨f, hf, hfail⟩ :=
    c.queryTable_cases server share schema table limit predicates
  · rw [Server.refuses_iff, ← h, hask, result_ask]
  · -- a request that is not sent fails in another way
    rw [hfail] at h
    obtain rfl := Except.error.inj h
    cases hf

/-- A request that is sent leaves messages and the request. -/
private theorem leaves_ask {body : Value} {shareName schemaName tableName authorization : String} :
    (c.ask server shareName schemaName tableName body authorization).Leaves Event.isTraffic
      fun _ => true := by
  refine (Run.leaves_emit rfl).bind fun _ => ?_
  split
  · exact (Run.leaves_emit rfl).bind fun _ => Run.leaves_fail rfl
  · split
    · refine (Run.leaves_ofExcept fun _ _ => rfl).bind fun manifest => ?_
      exact (Run.leaves_emit rfl).bind fun _ => Run.leaves_pure manifest
    · exact (Run.leaves_emit rfl).bind fun _ => Run.leaves_fail rfl

/-- A request for a manifest leaves messages and the request, if it is sent. -/
private theorem leaves_queryTable (c : Client) (server : Server)
    (share schema table limit predicates : Value) :
    (c.queryTable server share schema table limit predicates).Leaves Event.isTraffic
      fun _ => true := by
  obtain ⟨_, _, _, _, _, -, -, -, hask⟩ | ⟨f, -, hfail⟩ :=
    c.queryTable_cases server share schema table limit predicates
  · rw [hask]
    exact leaves_ask
  · rw [hfail]
    exact Run.leaves_fail rfl

end Client

/-- The location of a query is made of texts. -/
def Settings.IsLocated (s : Settings) : Prop :=
  ∃ endpoint share schema : String, s.endpoint = .text endpoint ∧ s.share = .text share ∧
    s.schema = .text schema

namespace Query

variable {q : Query} {settings : Settings} {client : Client} {server : Server}

/-- The request for the manifest fails for want of one when the query is carried out. -/
def IsRefused (q : Query) (settings : Settings) (server : Server) (e : CatalogError) : Prop :=
  ∃ endpoint, settings.endpoint = .text endpoint ∧
    ((Client.connect endpoint settings.bearerToken).queryTable server settings.share
      settings.schema q.table q.limit (.list q.filters)).result = .error (.catalog e)

private theorem leaves_fetch (q : Query) (settings : Settings) (client : Client) (server : Server) :
    (q.fetch settings client server).Leaves Event.isTraffic fun _ => true := by
  refine (Client.leaves_queryTable ..).bind fun manifest => ?_
  refine (Run.leaves_emit rfl).bind fun _ => ?_
  exact (QueryResult.downloads_ofFiles ..).mono (fun _ => Event.isTraffic_of_isDownload)
    fun _ _ => rfl

/-- Over an open connection only the request for the manifest fails for want of one. -/
private theorem result_fetch_eq_catalog_iff {e : CatalogError} :
    (q.fetch settings client server).result = .error (.catalog e) ↔
      (client.queryTable server settings.share settings.schema q.table q.limit
        (.list q.filters)).result = .error (.catalog e) := by
  rw [fetch]
  cases hmanifest : (client.queryTable server settings.share settings.schema q.table q.limit
      (.list q.filters)).result with
  | error f =>
    rw [Run.result_bind_of_error hmanifest, Except.error.injEq, Except.error.injEq]
  | ok manifest =>
    rw [Run.result_bind_of_ok hmanifest]
    refine iff_of_false (fun h => ?_) nofun
    -- pruning, downloads and stacking have failures of their own
    have hlocal := (QueryResult.downloads_ofFiles server manifest.files q.filters q.columnNames
      settings.maxWorkers).failure _ h
    cases hlocal

/-- A query that has a location opens a connection, leaves messages and requests, and closes the
    connection; another one leaves nothing. -/
theorem execute_cases (q : Query) (settings : Settings) (server : Server) :
    (∃ endpoint traffic, settings.endpoint = .text endpoint ∧
      traffic.all Event.isTraffic = true ∧
      (q.execute settings server).events = .opened :: (traffic ++ [.closed]) ∧
      (q.execute settings server).result = (q.fetch settings
        (Client.connect endpoint settings.bearerToken) server).result) ∨
    ((∀ endpoint, settings.endpoint ≠ .text endpoint) ∧
      q.execute settings server = Run.fail (.query .notLocation)) := by
  rw [execute]
  cases hendpoint : settings.endpoint with
  | text endpoint =>
    exact .inl ⟨endpoint, _, rfl, (q.leaves_fetch settings _ server).events, rfl, rfl⟩
  | _ => exact .inr ⟨nofun, rfl⟩

/-- A query fails for want of a manifest if its request for it does. -/
theorem isRefused_iff {e : CatalogError} :
    q.IsRefused settings server e ↔
      (q.execute settings server).result = .error (.catalog e) := by
  -- either the endpoint is a text and the client is open, or nothing happens at all
  obtain ⟨endpoint, traffic, hendpoint, -, -, hresult⟩ | ⟨hnone, hexecute⟩ :=
    q.execute_cases settings server
  · rw [hresult, result_fetch_eq_catalog_iff]
    constructor
    · rintro ⟨endpoint', hendpoint', h⟩
      obtain rfl := Value.text.inj (hendpoint.symm.trans hendpoint')
      exact h
    · intro h
      exact ⟨endpoint, hendpoint, h⟩
  · rw [hexecute]
    refine iff_of_false ?_ nofun
    rintro ⟨endpoint, hendpoint, -⟩
    exact hnone endpoint hendpoint

theorem IsRefused.refuses {e : CatalogError} (h : q.IsRefused settings server e) :
    server.Refuses e := by
  obtain ⟨endpoint, -, hrefused⟩ := h
  exact Client.refuses_of_queryTable hrefused

/-- Of events other than messages and requests a query leaves at most those of its connection. -/
theorem filter_execute (q : Query) (settings : Settings) (server : Server) {kind : Event → Bool}
    (hkind : ∀ e, e.isTraffic = true → kind e = false) :
    (q.execute settings server).events.filter kind = [] ∨
      (q.execute settings server).events.filter kind = [.opened, .closed].filter kind := by
  obtain ⟨endpoint, traffic, -, htraffic, hevents, -⟩ | ⟨-, hexecute⟩ :=
    q.execute_cases settings server
  · right
    -- the events between opening and closing are all traffic
    have hnone : traffic.filter kind = [] := Event.filter_eq_nil htraffic hkind
    rw [hevents, ← List.singleton_append, List.filter_append, List.filter_append, hnone,
      List.nil_append, ← List.filter_append]
    rfl
  · left
    rw [hexecute]
    rfl

/-- A connection that is opened is closed, once. -/
theorem connections_execute (q : Query) (settings : Settings) (server : Server) :
    Event.connections (q.execute settings server).events = [] ∨
      Event.connections (q.execute settings server).events = [.opened, .closed] :=
  q.filter_execute settings server fun _ => Event.isConnection_of_isTraffic

end Query

end SharedTables
