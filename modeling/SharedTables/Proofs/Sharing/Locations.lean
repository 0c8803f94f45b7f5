import Mathlib
import SharedTables.Proofs.Sharing.Listing
import SharedTables.Proofs.Text.Percent
import SharedTables.Sharing.Client

/-!
# The location of a query

The location of a query is the endpoint and, after it, seven segments of which three are names.  No
name adds a segment or ends the path, and the names can be read off the location again.

## Key results

- `connect_endpoint`: the endpoint without its trailing slashes
- `splitOn_queryUrl`: the segments of a location
- `queryUrl_segments`: names stay within their segments, and different names give different
  locations
-/

namespace SharedTables

namespace Client

/-- The segments after the endpoint in the location of a query. -/
def segments (share schema table : String) : List String :=
  ["shares", Text.Percent.encode share, "schemas", Text.Percent.encode schema,
    "tables", Text.Percent.encode table, "query"]

/-- What is left of an endpoint has no slash at its end, and slashes only are taken away. -/
theorem connect_endpoint (endpoint : String) (token : Value) :
    (∃ n, endpoint.toList = (connect endpoint token).endpoint.toList ++ List.replicate n '/') ∧
      (connect endpoint token).endpoint.toList.getLast? ≠ some '/' := by
  have hkept : (connect endpoint token).endpoint.toList =
      endpoint.toList.rdropWhile (· == '/') := String.toList_ofList
  rw [hkept]
  constructor
  · -- what is dropped from the end consists of slashes
    have hslashes : endpoint.toList.rtakeWhile (· == '/') =
        List.replicate (endpoint.toList.rtakeWhile (· == '/')).length '/' := by
      rw [List.eq_replicate_iff]
      refine ⟨rfl, ?_⟩
      intro c hc
      simpa using List.mem_rtakeWhile_imp hc
    refine ⟨(endpoint.toList.rtakeWhile (· == '/')).length, ?_⟩
    rw [← hslashes]
    exact List.rdropWhile_append_rtakeWhile.symm
  · intro hlast
    have hne : endpoint.toList.rdropWhile (· == '/') ≠ [] := by
      intro hnil
      simp [hnil] at hlast
    rw [List.getLast?_eq_some_getLast hne, Option.some.injEq] at hlast
    exact List.rdropWhile_last_not _ _ hne (by simp [hlast])

/-- The segments of a location stand after the endpoint, with a slash before each. -/
private theorem queryUrl_eq (c : Client) (share schema table : String) :
    c.queryUrl share schema table =
      c.endpoint ++ "/" ++ "/".intercalate (segments share schema table) := by
  apply String.toList_injective
  simp [queryUrl, segments]

/-- No segment has a slash in it. -/
private theorem slash_notMem_segments {share schema table segment : String}
    (h : segment ∈ segments share schema table) : '/' ∉ segment.toList := by
  have hname : ∀ name, '/' ∉ (Text.Percent.encode name).toList := by
    intro name hslash
    exact (Text.Percent.isSafe_of_mem_encode hslash).1 rfl
  simp only [segments, List.mem_cons, List.not_mem_nil, or_false] at h
  -- the four fixed segments have no slash either
  rcases h with rfl | rfl | rfl | rfl | rfl | rfl | rfl
  · decide
  · exact hname share
  · decide
  · exact hname schema
  · decide
  · exact hname table
  · decide

/-- The parts of a location between slashes are those of the endpoint and then the segments. -/
theorem splitOn_queryUrl (c : Client) (share schema table : String) :
    Text.splitOn '/' (c.queryUrl share schema table).toList =
      Text.splitOn '/' c.endpoint.toList ++ (segments share schema table).map String.toList := by
  have hsegments : Text.splitOn '/' ("/".intercalate (segments share schema table)).toList =
      (segments share schema table).map String.toList := by
    rw [String.toList_intercalate]
    refine Text.splitOn_intercalate (by simp [segments]) ?_
    intro part hpart
    obtain ⟨segment, hsegment, rfl⟩ := List.mem_map.1 hpart
    exact slash_notMem_segments hsegment
  -- the endpoint may have slashes of its own, so only the rest is known piece by piece
  rw [queryUrl_eq, String.toList_append, String.toList_append, List.append_assoc, ← hsegments]
  exact Text.splitOn_separator _ _

/-- The location of a query is the endpoint without its trailing slashes and seven segments.  The
    names in it are made of safe characters and can be read again, so that two tables of one server
    never share a location. -/
theorem queryUrl_segments (endpoint : String) (token : Value) (share schema table : String) :
    let c := connect endpoint token
    ((∃ n, endpoint.toList = c.endpoint.toList ++ List.replicate n '/') ∧
      c.endpoint.toList.getLast? ≠ some '/') ∧
    c.queryUrl share schema table =
      c.endpoint ++ "/" ++ "/".intercalate (segments share schema table) ∧
    Text.splitOn '/' (c.queryUrl share schema table).toList =
      Text.splitOn '/' c.endpoint.toList ++ (segments share schema table).map String.toList ∧
    (∀ name ∈ [share, schema, table],
      (∀ ch ∈ (Text.Percent.encode name).toList, Text.Percent.IsSafe ch) ∧
        Text.Percent.decode? (Text.Percent.encode name).toList = some name) ∧
    ∀ share' schema' table', c.queryUrl share' schema' table' = c.queryUrl share schema table →
      share' = share ∧ schema' = schema ∧ table' = table := by
  intro c
  refine ⟨connect_endpoint endpoint token, queryUrl_eq c share schema table,
    splitOn_queryUrl c share schema table, ?_, ?_⟩
  · intro name _
    exact ⟨fun ch => Text.Percent.isSafe_of_mem_encode, Text.Percent.decode?_encode name⟩
  · intro share' schema' table' h
    -- the segments are read off the location, and the names off the segments
    have hsplit := splitOn_queryUrl c share' schema' table'
    rw [h, splitOn_queryUrl c share schema table] at hsplit
    have hsegments := List.map_injective_iff.2 (fun _ _ => String.toList_injective)
      (List.append_cancel_left hsplit)
    simp only [segments, List.cons.injEq, true_and, and_true] at hsegments
    obtain ⟨hshare, hschema, htable⟩ := hsegments
    exact ⟨Text.Percent.encode_injective hshare.symm, Text.Percent.encode_injective hschema.symm,
      Text.Percent.encode_injective htable.symm⟩

end Client

end SharedTables
