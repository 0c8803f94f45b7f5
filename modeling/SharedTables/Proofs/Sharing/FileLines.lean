import Mathlib
import SharedTables.Proofs.Sharing.Refusals

/-!
# The lines that name files

After the protocol and the metadata, a line that has an object under "add" or under "file" names a
file.  A text that is read gives one file for each of these lines, in their order, but for those
that are passed over without a word: what stands under "add" counts if it is set, object or not, and
what stands under "file" otherwise, which may not be an object either.  So an object under "file" is
lost beside a text, a number or a list under "add", and an empty object under "add" is lost although
it lacks a location.

## Key results

- `read_eq_ok_iff`: which texts are read, and as what
- `isSome_action?`: the lines whose actions count
- `files_complete_iff`: no file is lost iff no line is passed over
-/

namespace SharedTables

namespace Manifest

variable {body : String} {m : Manifest} {line action : Members} {lines : List Members}
  {files : List FileReference} {f : FileReference}

/-- Whether the line has an object under "add" or under "file". -/
def namesFile (line : Members) : Bool :=
  (members? (member line "add")).isSome || (members? (member line "file")).isSome

/-- Whether the line names a file and is passed over: beside the object under "file" there is
    something else under "add", or the object under "add" is empty and there is no other. -/
def passedOver (line : Members) : Bool :=
  if (members? (member line "file")).isSome then
    (member line "add").isSet && (members? (member line "add")).isNone
  else (members? (member line "add")).any List.isEmpty

/-- The file is what the action says about it.  The action has a location. -/
structure States (action : Members) (f : FileReference) : Prop where
  located : (member action "url").isSet = true
  url : f.url = (member action "url").display
  partitionValues : partitionValues (member action "partitionValues") =
    .ok (f.partitionValues, f.unnamed)
  id : f.id = member action "id"
  size : sizeOf (member action "size") = .ok f.size
  stats : f.stats = member action "stats"

/-- The file is the one that the object under "add" states, or the one under "file" if nothing is
    set under "add". -/
inductive Refers (line : Members) (f : FileReference) : Prop
  | add {action : Members} (add : member line "add" = .object action) (states : States action f)
  | file {action : Members} (add : (member line "add").isSet = false)
      (file : member line "file" = .object action) (states : States action f)

/-! ### Lines -/

private theorem members?_eq_some_iff {v : Value} {members : Members} :
    members? v = some members ↔ v = .object members := by
  cases v <;> simp [members?]

/-- What stands under "add" counts if it is set, and what stands under "file" otherwise. -/
private theorem action?_eq_ite (line : Members) : action? line =
    if (member line "add").isSet then members? (member line "add")
    else members? (member line "file") := by
  rw [← apply_ite members?]
  rfl

private theorem isSet_of_members? {v : Value} {members : Members} (h : members? v = some members) :
    v.isSet = !members.isEmpty := by
  rw [members?_eq_some_iff.1 h]
  rfl

/-- The lines whose actions count are those that name a file and are not passed over. -/
theorem isSome_action? (line : Members) :
    (action? line).isSome = (namesFile line && !passedOver line) := by
  rw [action?_eq_ite, namesFile, passedOver]
  cases hadd : members? (member line "add") with
  | none =>
    -- only the object under "file" can count, and it does unless something else is set
    cases members? (member line "file") <;> cases (member line "add").isSet <;> rfl
  | some members =>
    rw [isSet_of_members? hadd]
    cases members <;> cases members? (member line "file") <;> rfl

/-- A line that is passed over names a file. -/
private theorem namesFile_of_passedOver (h : passedOver line = true) : namesFile line = true := by
  rw [passedOver] at h
  rw [namesFile]
  split at h
  · rename_i hfile
    rw [hfile, Bool.or_true]
  · obtain ⟨members, hmembers, -⟩ := (Option.any_eq_true _ _).1 h
    rw [hmembers]
    rfl

/-- An action that is understood states its file. -/
private theorem states_of_fileOfAction (h : fileOfAction action = .ok f) : States action f := by
  rw [fileOfAction_eq_bind] at h
  split at h
  · rename_i hlocated
    -- each part of an action that is read has been read without a failure
    cases hvalues : partitionValues (member action "partitionValues") with
    | error e =>
      rw [hvalues] at h
      cases h
    | ok values =>
      rw [hvalues] at h
      cases hsize : sizeOf (member action "size") with
      | error e =>
        rw [hsize] at h
        cases h
      | ok size =>
        rw [hsize] at h
        obtain rfl := Except.ok.inj h
        exact ⟨hlocated, rfl, hvalues, rfl, hsize, rfl⟩
  · cases h

/-- The line of an action that is understood refers to its file. -/
private theorem refers_of_action? (haction : action? line = some action)
    (hfile : fileOfAction action = .ok f) : Refers line f := by
  have hstates := states_of_fileOfAction hfile
  rw [action?_eq_ite] at haction
  split at haction
  · exact .add (members?_eq_some_iff.1 haction) hstates
  · rename_i hadd
    exact .file (by simpa using hadd) (members?_eq_some_iff.1 haction) hstates

/-! ### Texts -/

/-- Actions that are understood are those of lines, one file for each line whose action counts. -/
private theorem refers_of_mapM (h : (lines.filterMap action?).mapM fileOfAction = .ok files) :
    List.Forall₂ Refers (lines.filter fun line => namesFile line && !passedOver line) files := by
  rw [Run.mapM_eq_ok_iff] at h
  induction lines generalizing files with
  | nil =>
    obtain rfl : files = [] := by simpa [eq_comm] using h
    exact .nil
  | cons line rest ih =>
    -- a line has an action iff it is counted among those that name files
    have hcounts := isSome_action? line
    cases haction : action? line with
    | none =>
      rw [haction] at hcounts
      rw [List.filterMap_cons_none haction] at h
      rw [List.filter_cons, ← hcounts]
      exact ih h
    | some action =>
      rw [haction] at hcounts
      rw [List.filterMap_cons_some haction] at h
      rw [List.filter_cons, ← hcounts]
      cases files with
      | nil => simp at h
      | cons f files =>
        obtain ⟨hfile, hrest⟩ := List.cons.inj h
        exact .cons (refers_of_action? haction hfile) (ih hrest)

/-- A text is read if its lines are objects, at least two, and each action that counts is
    understood. -/
theorem read_eq_ok_iff : read body = .ok m ↔
    ∃ lines : List Members, (filledLines body).map (fun line => Json.read (String.ofList line)) =
        (m.protocol :: m.metadata :: lines).map (fun members => .ok (.object members)) ∧
      (lines.filterMap action?).mapM fileOfAction = .ok m.files := by
  constructor
  · intro h
    -- no line that fails, an object in each of them, two in front, and files that are all read
    cases hvalues : (filledLines body).mapM readLine with
    | error f =>
      rw [filledLines] at hvalues
      rw [Manifest.read, hvalues] at h
      cases h
    | ok values =>
      have hall := hvalues
      rw [filledLines] at hall
      have hread := h
      rw [Manifest.read, hall] at hread
      dsimp only [bind, Except.bind] at hread
      split at hread
      · rename_i protocol metadata lines hobjects
        obtain rfl := eq_map_object hobjects
        rw [read_of_objects hvalues] at h
        have hlines := mapM_readLine_eq_ok_iff.1 hvalues
        rw [List.map_map] at hlines
        cases hfiles : (lines.filterMap action?).mapM fileOfAction with
        | error f =>
          rw [hfiles] at h
          cases h
        | ok files =>
          rw [hfiles] at h
          obtain rfl := Except.ok.inj h
          exact ⟨lines, hlines, hfiles⟩
      · cases hread
  · rintro ⟨lines, hlines, hfiles⟩
    have hvalues := mapM_readLine_eq_ok_iff.2 (hlines.trans List.map_map.symm)
    rw [read_of_objects hvalues, hfiles]
    rfl

/-! ### Manifests -/

/-- No file is lost from the list if and only if no line is passed over. -/
private theorem forall₂_refers_iff
    (h : List.Forall₂ Refers (lines.filter fun line => namesFile line && !passedOver line) files) :
    List.Forall₂ Refers (lines.filter namesFile) files ↔
      ∀ line ∈ lines, passedOver line = false := by
  constructor
  · intro hall
    -- both lists of lines are as long as the list of files, so they are the same
    have hsublist : (lines.filter fun line => namesFile line && !passedOver line).Sublist
        (lines.filter namesFile) :=
      List.monotone_filter_right lines fun line hline => (Bool.and_eq_true_iff.1 hline).1
    have hsame := hsublist.eq_of_length (h.length_eq.trans hall.length_eq.symm)
    intro line hline
    by_contra hpassed
    rw [Bool.not_eq_false] at hpassed
    have hmem : line ∈ lines.filter namesFile :=
      List.mem_filter.2 ⟨hline, namesFile_of_passedOver hpassed⟩
    rw [← hsame, List.mem_filter, hpassed] at hmem
    simp at hmem
  · intro hnone
    have hsame : (lines.filter fun line => namesFile line && !passedOver line) =
        lines.filter namesFile := by
      refine List.filter_congr fun line hline => ?_
      rw [hnone line hline, Bool.not_false, Bool.and_true]
    rwa [hsame] at h

/-- A text that is read gives one file, which has a location, for each line after the second that
    names one and is not passed over, in their order.  So no file is lost iff no line is passed
    over. -/
theorem files_complete_iff (h : read body = .ok m) :
    ∃ lines : List Members, (filledLines body).map (fun line => Json.read (String.ofList line)) =
        (m.protocol :: m.metadata :: lines).map (fun members => .ok (.object members)) ∧
      List.Forall₂ Refers (lines.filter fun line => namesFile line && !passedOver line) m.files ∧
      (List.Forall₂ Refers (lines.filter namesFile) m.files ↔
        ∀ line ∈ lines, passedOver line = false) := by
  obtain ⟨lines, hlines, hfiles⟩ := read_eq_ok_iff.1 h
  have hrefers := refers_of_mapM hfiles
  exact ⟨lines, hlines, hrefers, forall₂_refers_iff hrefers⟩

/-- A text of six lines that names three files. -/
def sixLines : String :=
  "\x7b\x7d\n\x7b\x7d\n\x7b\"add\":\x7b\"url\":\"a\"\x7d\x7d\n\x7b\"remove\":1\x7d\n" ++
    "\x7b\"add\":\x7b\x7d,\"file\":\x7b\"url\":\"b\",\"size\":\"7\"\x7d\x7d\n" ++
    "\x7b\"file\":\x7b\"url\":\"c\"\x7d\x7d"

/-- Three files: an action, one beside an empty object, and one under the other name.  The line
    between them names no file. -/
theorem files_complete_of_six_lines :
    let lines : List Members := [[("add", .object [("url", .text "a")])], [("remove", .int 1)],
      [("add", .object []), ("file", .object [("url", .text "b"), ("size", .text "7")])],
      [("file", .object [("url", .text "c")])]]
    let files : List FileReference := [⟨"a", [], .null, none, .null, []⟩,
      ⟨"b", [], .null, some 7, .null, []⟩, ⟨"c", [], .null, none, .null, []⟩]
    read sixLines = .ok ⟨[], [], files⟩ ∧ List.Forall₂ Refers (lines.filter namesFile) files := by
  intro lines files
  have hread : read sixLines = .ok ⟨[], [], files⟩ := by cbv
  have hlines : (filledLines sixLines).map (fun line => Json.read (String.ofList line)) =
      ([] :: [] :: lines).map fun members => .ok (.object members) := by
    clear hread
    cbv
  obtain ⟨found, hfound, -, hcomplete⟩ := files_complete_iff hread
  -- the lines that the theorem finds are the lines of this text
  have hinjective : Function.Injective fun members : Members =>
      (Except.ok (.object members) : Except Json.ReadError Value) := by
    rintro a b ⟨⟩
    rfl
  have hsame : found = lines :=
    (List.cons.inj (List.cons.inj (hinjective.list_map (hfound.symm.trans hlines))).2).2
  rw [hsame] at hcomplete
  exact ⟨hread, hcomplete.2 (by decide)⟩

/-- An empty action, and an object under "file" beside a number under "add", are lost. -/
theorem files_lost_without_error :
    read "\x7b\x7d\n\x7b\x7d\n\x7b\"add\":\x7b\x7d\x7d" = .ok ⟨[], [], []⟩ ∧
      read "\x7b\x7d\n\x7b\x7d\n\x7b\"add\":1,\"file\":\x7b\"url\":\"u\"\x7d\x7d" =
        .ok ⟨[], [], []⟩ ∧
      ¬ ∀ (body : String) (m : Manifest) (lines : List Members), read body = .ok m →
        (filledLines body).map (fun line => Json.read (String.ofList line)) =
          (m.protocol :: m.metadata :: lines).map (fun members => .ok (.object members)) →
        List.Forall₂ Refers (lines.filter namesFile) m.files := by
  have hempty : read "\x7b\x7d\n\x7b\x7d\n\x7b\"add\":\x7b\x7d\x7d" = .ok ⟨[], [], []⟩ := by cbv
  refine ⟨hempty, by cbv, fun h => ?_⟩
  have hall := h _ _ [[("add", .object [])]] hempty (by cbv)
  exact absurd hall.length_eq (by decide)

end Manifest

end SharedTables
