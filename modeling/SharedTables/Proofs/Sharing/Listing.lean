import Mathlib
import SharedTables.Proofs.Json.Reading
import SharedTables.Proofs.Json.Writing
import SharedTables.Proofs.Run
import SharedTables.Sharing.Manifest

/-!
# Manifests as listings

A manifest is a listing of JSON objects, one on each line: the protocol, the metadata and the
actions.  Reading it gives back what is listed, in order.  Between the lines of the objects there
may be blank ones, a line may end in a carriage return, and objects that name no file do not
matter.

## Key results

- `splitOn_intercalate`: lines are found again
- `fileOfAction_eq`: an action that describes a file names it
- `Lists.mapM_readLine`, `Names.mapM_fileOfAction`: what lines and actions come to
- `read_undoes_listing`: a listing is read as what it lists
-/

namespace SharedTables

/-! ### Lines -/

namespace Text

variable {c : Char}

/-- A text without the separator is not split. -/
private theorem splitOn_of_notMem {part : List Char} (h : c ∉ part) : splitOn c part = [part] := by
  induction part with
  | nil => rfl
  | cons d part ih =>
    rw [List.mem_cons, not_or] at h
    rw [splitOn, if_neg (Ne.symm h.1), ih h.2]

/-- What stands before a separator and what stands after it are split apart from each other. -/
theorem splitOn_separator (before after : List Char) :
    splitOn c (before ++ c :: after) = splitOn c before ++ splitOn c after := by
  -- induction on what stands before the separator
  induction before with
  | nil =>
    rw [List.nil_append]
    exact if_pos rfl
  | cons d before ih =>
    obtain ⟨part, more, hbefore⟩ := List.exists_cons_of_ne_nil (splitOn_ne_nil c before)
    rw [List.cons_append, splitOn, splitOn, ih, hbefore]
    -- a separator starts a new part, any other character goes to the first one
    by_cases hd : d = c
    · rw [if_pos hd, if_pos hd]
      rfl
    · rw [if_neg hd, if_neg hd]
      rfl

/-- The first separator ends the first part. -/
private theorem splitOn_append {part : List Char} (h : c ∉ part) (rest : List Char) :
    splitOn c (part ++ c :: rest) = part :: splitOn c rest := by
  rw [splitOn_separator, splitOn_of_notMem h, List.singleton_append]

/-- Parts without the separator are found again. -/
theorem splitOn_intercalate {parts : List (List Char)} (hne : parts ≠ [])
    (h : ∀ part ∈ parts, c ∉ part) : splitOn c (List.intercalate [c] parts) = parts := by
  induction parts with
  | nil => exact absurd rfl hne
  | cons part rest ih =>
    rw [List.forall_mem_cons] at h
    -- only where another part follows is there a separator after a part
    cases rest with
    | nil =>
      rw [List.intercalate_singleton]
      exact splitOn_of_notMem h.1
    | cons next rest =>
      rw [List.intercalate_cons_cons, List.append_assoc, List.singleton_append,
        splitOn_append h.1, ih (List.cons_ne_nil next rest) h.2]

end Text

namespace Manifest

/-- Lines, and the objects that stand on them: each on a line of its own, with blank lines
    anywhere. -/
inductive Lists : List String → List Members → Prop
  | nil : Lists [] []
  | blank {line : String} {lines : List String} {objects : List Members}
      (blank : ∀ c ∈ line.toList, Text.isBlank c = true) (one : '\n' ∉ line.toList)
      (rest : Lists lines objects) : Lists (line :: lines) objects
  | object {line ending : String} {lines : List String} {members : Members}
      {objects : List Members} (writable : Json.Writable (.object members))
      (line_eq : line = Json.writeSpaced (.object members) ++ ending)
      (ending_eq : ending = "" ∨ ending = "\r") (rest : Lists lines objects) :
      Lists (line :: lines) (members :: objects)

variable {lines : List String} {objects actions : List Members} {files : List FileReference}

/-- A written object is a single line that starts with a brace. -/
private theorem writeSpaced_object {members : Members} (h : Json.Writable (.object members)) :
    Json.Spells (.object members) (Json.writeSpaced (.object members)).toList ∧
      '\n' ∉ (Json.writeSpaced (.object members)).toList ∧
      ∃ tail, (Json.writeSpaced (.object members)).toList = '{' :: tail := by
  have hgap : Json.IsGap " ".toList := by simp [Json.IsGap, Json.isSpace]
  refine ⟨h.spells hgap, h.noNewline hgap (by decide), ?_⟩
  rw [Json.writeSpaced, Json.writeInline, String.toList_append, String.toList_append]
  exact ⟨_, rfl⟩

/-- There is no line end within a line. -/
theorem Lists.noNewline (h : Lists lines objects) : ∀ line ∈ lines, '\n' ∉ line.toList := by
  induction h with
  | nil => exact nofun
  | blank blank one rest ih => exact List.forall_mem_cons.2 ⟨one, ih⟩
  | object writable line_eq ending_eq rest ih =>
    refine List.forall_mem_cons.2 ⟨?_, ih⟩
    rw [line_eq, String.toList_append, List.mem_append, not_or]
    refine ⟨(writeSpaced_object writable).2.1, ?_⟩
    rcases ending_eq with rfl | rfl <;> decide

/-- The lines that are not blank are read as the objects. -/
theorem Lists.mapM_readLine (h : Lists lines objects) :
    ((lines.map String.toList).filter fun line => !line.all Text.isBlank).mapM readLine =
      .ok (objects.map .object) := by
  -- lines and objects are taken off one at a time, blank lines by themselves
  induction h with
  | nil => rfl
  | @blank line lines objects blank one rest ih =>
    rw [List.map_cons, List.filter_cons_of_neg]
    · exact ih
    · simpa using blank
  | @object line ending lines members objects writable line_eq ending_eq rest ih =>
    obtain ⟨hspells, -, tail, htail⟩ := writeSpaced_object writable
    -- the brace in front keeps the line from being blank
    have hwritten : (!line.toList.all Text.isBlank) = true := by
      rw [line_eq, String.toList_append, htail, List.cons_append, List.all_cons]
      rfl
    -- a carriage return is a blank after the value
    have hending : Json.IsGap ending.toList := by
      rcases ending_eq with rfl | rfl <;> simp [Json.IsGap, Json.isSpace]
    have hread : readLine line.toList = .ok (.object members) := by
      have hvalue := Json.read_spelled hspells Json.isGap_nil hending
      rw [List.nil_append, ← String.toList_append, ← line_eq] at hvalue
      rw [readLine, hvalue]
    rw [List.map_cons, List.filter_cons, if_pos hwritten, List.mapM_cons, hread, ih]
    rfl

/-! ### Actions -/

/-- The value of a member, null if there is none. -/
def member (action : Members) (name : String) : Value :=
  (action.lookup? name).getD .null

/-- The action describes the file.  What a file does not have is null or missing. -/
structure Describes (action : Members) (f : FileReference) : Prop where
  url : member action "url" = .text f.url
  url_ne : f.url ≠ ""
  partitionValues : member action "partitionValues" = .object f.partitionValues ∨
    member action "partitionValues" = .null ∧ f.partitionValues = []
  id : member action "id" = f.id
  size : member action "size" = f.size.elim .null .int
  stats : member action "stats" = f.stats
  -- the names in an object are texts
  unnamed : f.unnamed = []

/-- Actions, and the files that they name: each action names one under "add" or under "file", or has
    neither. -/
inductive Names : List Members → List FileReference → Prop
  | nil : Names [] []
  | add {line action : Members} {f : FileReference} {lines : List Members}
      {files : List FileReference} (add : line.lookup? "add" = some (.object action))
      (describes : Describes action f) (rest : Names lines files) :
      Names (line :: lines) (f :: files)
  | file {line action : Members} {f : FileReference} {lines : List Members}
      {files : List FileReference} (add : line.lookup? "add" = none)
      (file : line.lookup? "file" = some (.object action)) (describes : Describes action f)
      (rest : Names lines files) : Names (line :: lines) (f :: files)
  | other {line : Members} {lines : List Members} {files : List FileReference}
      (add : line.lookup? "add" = none) (file : line.lookup? "file" = none)
      (rest : Names lines files) : Names (line :: lines) files

variable {action line : Members} {f : FileReference}

/-- An action that describes a file names it. -/
theorem fileOfAction_eq (h : Describes action f) : fileOfAction action = .ok f := by
  obtain ⟨url, values, id, size, stats, unnamed⟩ := f
  obtain rfl : unnamed = [] := h.unnamed
  have hurl : (Value.text url).isSet = true := by
    simpa [Value.isSet] using h.url_ne
  have hvalues : partitionValues (member action "partitionValues") = .ok (values, []) := by
    rcases h.partitionValues with hvalue | ⟨hvalue, hnone⟩
    · rw [hvalue, partitionValues]
      cases values <;> rfl
    · -- null stands for no partition values
      obtain rfl : values = [] := hnone
      rw [hvalue]
      rfl
  -- what is described is found under its names, and converted to itself
  have hid := h.id
  have hsize := h.size
  have hstats := h.stats
  have hname := h.url
  simp only [member] at hname hvalues hid hsize hstats
  rw [fileOfAction]
  simp only [hname, hurl, hvalues, hid, hsize, hstats]
  cases size with
  | none => rfl
  | some n => rfl

/-- The action of a line under one of the two names. -/
private theorem action?_eq (h : Describes action f)
    (hline : line.lookup? "add" = some (.object action) ∨
    line.lookup? "add" = none ∧ line.lookup? "file" = some (.object action)) :
    action? line = some action := by
  -- an action that describes a file is not empty
  have hset : (Value.object action).isSet = true := by
    cases action with
    | nil => cases h.url
    | cons m rest => rfl
  rcases hline with hadd | ⟨hadd, hfile⟩
  · simp [action?, hadd, hset]
  · simp [action?, hadd, hfile, Value.isSet]

/-- The actions that name files name these, in their order. -/
theorem Names.mapM_fileOfAction (h : Names actions files) :
    (actions.filterMap action?).mapM fileOfAction = .ok files := by
  -- an action names the next file or none
  induction h with
  | nil => rfl
  | add add describes rest ih =>
    rw [List.filterMap_cons_some (action?_eq describes (.inl add)), List.mapM_cons,
      fileOfAction_eq describes, ih]
    rfl
  | file add file describes rest ih =>
    rw [List.filterMap_cons_some (action?_eq describes (.inr ⟨add, file⟩)), List.mapM_cons,
      fileOfAction_eq describes, ih]
    rfl
  | @other line lines files add file rest ih =>
    have hnone : action? line = none := by simp [action?, add, file, Value.isSet]
    rw [List.filterMap_cons_none hnone, ih]

/-! ### Manifests -/

/-- Objects are told by their members. -/
theorem mapM_members?_object (objects : List Members) :
    (objects.map Value.object).mapM members? = some objects := by
  have hmembers : ∀ o : Members, (members? ∘ Value.object) o = some (id o) := fun _ => rfl
  rw [List.mapM_map, Run.mapM_eq_some_map fun o _ => hmembers o, List.map_id]

/-- The lines of a listing are read as the objects on them. -/
theorem Lists.read_eq {protocol metadata : Members}
    (h : Lists lines (protocol :: metadata :: actions)) (hnames : Names actions files) :
    Manifest.read (String.intercalate "\n" lines) = .ok ⟨protocol, metadata, files⟩ := by
  have hne : lines.map String.toList ≠ [] := by
    rintro hnil
    rw [List.map_eq_nil_iff] at hnil
    subst hnil
    cases h
  -- no line has a line end in it, so the text falls apart into its lines
  have hsplit : Text.splitOn '\n' (String.intercalate "\n" lines).toList =
      lines.map String.toList := by
    rw [String.toList_intercalate]
    refine Text.splitOn_intercalate hne ?_
    simpa using h.noNewline
  rw [Manifest.read, hsplit]
  -- lines give objects, the first two are no actions, and the others name the files
  simp only [h.mapM_readLine, mapM_members?_object, hnames.mapM_fileOfAction, bind, Except.bind]
  rfl

/-- The action that describes a file. -/
def actionOf (f : FileReference) : Members :=
  [("url", .text f.url), ("partitionValues", .object f.partitionValues), ("id", f.id),
    ("size", f.size.elim .null .int), ("stats", f.stats)]

/-- The action that is written for a file describes it. -/
private theorem describes_actionOf (h : f.url ≠ "" ∧ f.unnamed = []) : Describes
    (actionOf f) f where
  url := rfl
  url_ne := h.1
  partitionValues := .inl rfl
  id := rfl
  size := rfl
  stats := rfl
  unnamed := h.2

/-- The objects of a manifest in order; each file comes with the name that its action stands
    under. -/
def written (protocol metadata : Members) (files : List (String × FileReference)) : List Members :=
  protocol :: metadata :: files.map fun f => [(f.1, .object (actionOf f.2))]

/-- A manifest as text: one line for each of its objects. -/
def encode (protocol metadata : Members) (files : List (String × FileReference)) : String :=
  String.intercalate "\n"
    ((written protocol metadata files).map fun members => Json.writeSpaced (.object members))

/-- Objects that can be written are listed by their texts. -/
private theorem lists_writeSpaced {objects : List Members}
    (h : ∀ members ∈ objects, Json.Writable (.object members)) :
    Lists (objects.map fun members => Json.writeSpaced (.object members)) objects := by
  induction objects with
  | nil => exact .nil
  | cons members rest ih =>
    rw [List.forall_mem_cons] at h
    refine .object h.1 ?_ (.inl rfl) (ih h.2)
    rw [String.append_empty]

/-- Files under "add" or "file" are named. -/
private theorem names_actions {files : List (String × FileReference)}
    (h : ∀ f ∈ files, (f.1 = "add" ∨ f.1 = "file") ∧ f.2.url ≠ "" ∧ f.2.unnamed = []) :
    Names (files.map fun f => [(f.1, .object (actionOf f.2))]) (files.map Prod.snd) := by
  induction files with
  | nil => exact .nil
  | cons f rest ih =>
    rw [List.forall_mem_cons] at h
    obtain ⟨⟨hkey, hurl⟩, hrest⟩ := h
    -- both keys describe a file in the same way
    obtain ⟨key, f⟩ := f
    obtain rfl | rfl := hkey
    · exact .add rfl (describes_actionOf hurl) (ih hrest)
    · exact .file rfl rfl (describes_actionOf hurl) (ih hrest)

/-- Reading undoes writing.  It makes no difference if there are blank lines, if lines end in a
    carriage return, or if there are objects that name no file. -/
theorem read_undoes_listing :
    (∀ (protocol metadata : Members) (files : List (String × FileReference)),
      (∀ members ∈ written protocol metadata files, Json.Writable (.object members)) →
      (∀ f ∈ files, (f.1 = "add" ∨ f.1 = "file") ∧ f.2.url ≠ "" ∧ f.2.unnamed = []) →
      read (encode protocol metadata files) = .ok ⟨protocol, metadata, files.map Prod.snd⟩) ∧
    ∀ (lines : List String) (protocol metadata : Members) (actions : List Members)
      (files : List FileReference), Lists lines (protocol :: metadata :: actions) →
      Names actions files →
      read (String.intercalate "\n" lines) = .ok ⟨protocol, metadata, files⟩ := by
  constructor
  · intro protocol metadata files hwritable hfiles
    exact (lists_writeSpaced hwritable).read_eq (names_actions hfiles)
  · intro lines protocol metadata actions files hlines hnames
    exact hlines.read_eq hnames

/-- Two files, first as they are written, then with blank lines, a carriage return and an action
    that names no file. -/
theorem read_two_files :
    let protocol : Members := [("protocol", .object [("minReaderVersion", .int 1)])]
    let metadata : Members := [("metaData", .object [("name", .text "Σ\n")])]
    let remove : Members := [("remove", .object [("url", .text "gone")])]
    let f : FileReference :=
      ⟨"u1", [("year", .text "2023"), ("region", .null)], .null, some 12, .null, []⟩
    let g : FileReference := ⟨"u2", [], .text "f2", none, .text "\x7b\x7d", []⟩
    read (encode protocol metadata [("add", f), ("file", g)]) = .ok ⟨protocol, metadata, [f, g]⟩ ∧
      read (String.intercalate "\n" [" \t", Json.writeSpaced (.object protocol) ++ "\r", "",
        Json.writeSpaced (.object metadata), Json.writeSpaced (.object remove) ++ "\r",
        Json.writeSpaced (.object [("file", .object (actionOf g))])]) =
          .ok ⟨protocol, metadata, [g]⟩ := by
  intro protocol metadata remove f g
  -- all objects here can be written, most of them with a single member
  have hsingle : ∀ {name : String} {v : Value}, Json.Writable v →
      Json.Writable (.object [(name, v)]) := by
    intro name v hv
    exact .object (List.nodup_singleton _) (by simpa using hv)
  have hprotocol : Json.Writable (.object protocol) := hsingle (hsingle (.int (by decide)))
  have hmetadata : Json.Writable (.object metadata) := hsingle (hsingle .text)
  have hremove : Json.Writable (.object remove) := hsingle (hsingle .text)
  have hf : Json.Writable (.object (actionOf f)) := by
    refine .object (by decide) ?_
    simp only [actionOf, f, List.forall_mem_cons]
    refine ⟨.text, .object (by decide) ?_, .null, .int (by decide), .null, nofun⟩
    simp only [List.forall_mem_cons]
    exact ⟨.text, .null, nofun⟩
  have hg : Json.Writable (.object (actionOf g)) := by
    refine .object (by decide) ?_
    simp only [actionOf, g, List.forall_mem_cons]
    exact ⟨.text, .object (by decide) nofun, .text, .null, .text, nofun⟩
  -- the listing as it is written, and then another one of the second file
  constructor
  · refine read_undoes_listing.1 protocol metadata [("add", f), ("file", g)] ?_ ?_
    · simp only [written, List.map_cons, List.forall_mem_cons]
      exact ⟨hprotocol, hmetadata, hsingle hf, hsingle hg, nofun⟩
    · simp [f, g]
  · have hlines : Lists [" \t", Json.writeSpaced (.object protocol) ++ "\r", "",
        Json.writeSpaced (.object metadata), Json.writeSpaced (.object remove) ++ "\r",
        Json.writeSpaced (.object [("file", .object (actionOf g))])]
        [protocol, metadata, remove, [("file", .object (actionOf g))]] := by
      refine .blank (List.all_eq_true.1 rfl) (by decide) (.object hprotocol rfl (.inr rfl) ?_)
      refine .blank nofun nofun ?_
      refine .object hmetadata (String.append_empty).symm (.inl rfl) ?_
      refine .object hremove rfl (.inr rfl) ?_
      exact .object (hsingle hg) (String.append_empty).symm (.inl rfl) .nil
    refine read_undoes_listing.2 _ _ _ _ _ hlines (.other rfl rfl ?_)
    exact .file rfl rfl (describes_actionOf ⟨by decide, rfl⟩) .nil

end Manifest

end SharedTables
