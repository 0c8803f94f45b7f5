import Mathlib
import SharedTables.Proofs.CommandLine.ExitCodes
import SharedTables.Proofs.Predicate.RoundTrip
import SharedTables.Proofs.Table.Counting
import SharedTables.Proofs.Table.Records

/-!
# What is listed as JSON

Predicates that have been parsed, the rows of a table and the groups of a column are listed as JSON:
one object each, in order, with the same names of members in all of them.  The reader gets these
objects back from any listing.  Other programs do so only if all numbers are finite: an infinity, or
what is not a number, is listed by a word that no JSON document has.

## Key results

- `lists_write`: lists of records as JSON
- `writings_performParse`, `lists_parsed`: predicates
- `lists_rows`, `lists_groups`: rows and groups
- `listings_documents_iff`: when listings are documents
-/

namespace SharedTables

namespace CommandLine

open Run

/-- The text lists the records: it is read as one object for each of them, in order, with members of
    the given names, and it is a JSON document exactly if `finite` holds. -/
structure Lists (text : String) (names : List String) (records : List Value) (finite : Prop) :
    Prop where
  read_eq : Json.read text = .ok (.list records)
  names_eq : ∀ r ∈ records, ∃ members, r = .object members ∧ members.map Prod.fst = names
  isDocument_iff : Json.IsDocument text.toList ↔ finite

/-- Records are listed if they can be read again. -/
theorem lists_write {names : List String} {records : List Value} {finite : Prop} {after : String}
    (hafter : Json.IsGap after.toList) (hwritable : ∀ r ∈ records, Json.Writable r)
    (hnames : ∀ r ∈ records, ∃ members, r = .object members ∧ members.map Prod.fst = names)
    (hfinite : (∀ r ∈ records, ¬ r.HoldsNonFinite) ↔ finite) :
    Lists (Json.write (.list records) ++ after) names records finite := by
  refine ⟨Json.read_write (.list hwritable) hafter, hnames, ?_⟩
  rw [String.toList_append, Json.isDocument_write_iff hafter, Value.holdsNonFinite_list_iff,
    ← hfinite]
  simp only [not_exists, not_and]

/-! ### Predicates -/

/-- The predicates among the texts, in order. -/
def parsed (texts : List String) : List Predicate :=
  texts.filterMap fun text => (Predicate.parse text).toOption

private theorem leaves_parseOne (text : String) :
    (parseOne text).Leaves Event.isMessage fun _ => true := by
  unfold parseOne
  split
  · exact leaves_pure _
  · exact (leaves_emit rfl).bind fun _ => leaves_pure _

private theorem result_parseOne (text : String) :
    (parseOne text).result = .ok ((Predicate.parse text).toOption.map predicateRecord) := by
  unfold parseOne
  split
  · rename_i p hp
    rw [hp]
    rfl
  · rename_i e he
    rw [he]
    rfl

/-- The predicates are written once, whatever messages there are for the other texts. -/
theorem writings_performParse (texts : List String) :
    ∃ after : String, Json.IsGap after.toList ∧
      Event.writings (performParse texts).events =
        [.output (Json.write (.list ((parsed texts).map predicateRecord)) ++ after)] := by
  have hresult : (forEach parseOne texts).result =
      .ok (texts.map fun text => (Predicate.parse text).toOption.map predicateRecord) :=
    result_forEach fun text _ => result_parseOne text
  have hmessages := (leaves_forEach leaves_parseOne texts).events
  have hrecords : (texts.map fun text =>
      (Predicate.parse text).toOption.map predicateRecord).filterMap id =
        (parsed texts).map predicateRecord := by
    rw [List.filterMap_map, parsed, List.map_filterMap]
    rfl
  -- the messages come before the predicates, which are the only lines that are written
  have hwritings : Event.writings (performParse texts).events = Event.writings
      (writeLines (Json.write (.list ((parsed texts).map predicateRecord)))).events := by
    rw [performParse, events_bind_of_ok hresult, hrecords, Event.writings, List.filter_append,
      Event.filter_eq_nil hmessages fun _ => Event.isWriting_of_isMessage]
    rfl
  rw [hwritings, writeLines]
  -- the text ends the line itself, or an end of line is added
  split
  · exact ⟨"", Json.isGap_nil, by rw [String.append_empty]; rfl⟩
  · exact ⟨"\n", Json.isGap_newLine 0, rfl⟩

/-- What has been parsed can be written and read again. -/
private theorem writable_predicateRecord {text : String} {p : Predicate}
    (h : Predicate.parse text = .ok p) : Json.Writable (predicateRecord p) := by
  obtain ⟨d, ⟨hd, -⟩, hp⟩ := Predicate.exists_parts h
  have hdenotes := hp.value
  have hvalue : Json.Writable p.value.toValue := by
    -- the value is what a literal denotes, which bounds integers and numbers alike
    generalize p.value = l at hdenotes
    cases l with
    | integer n =>
      refine .int ?_
      rw [← String.length_toList, toList_natText]
      exact Predicate.length_of_denotes hd.value hdenotes
    | float x =>
      refine .float ?_
      have hstored := (Predicate.isStored_of_denotes hdenotes).1
      cases x <;> exact hstored
    | text s => exact .text
    | bool b => exact .bool
    | null => exact .null
  refine .object (by simp) ?_
  simp only [List.forall_mem_cons]
  exact ⟨.text, .text, hvalue, .text, .text, List.forall_mem_nil _⟩

/-- Only the value of a predicate may be a number that is not finite. -/
private theorem holdsNonFinite_predicateRecord_iff {p : Predicate} :
    (predicateRecord p).HoldsNonFinite ↔ ∃ x, p.value = .float x ∧ x.isFinite = false := by
  have htext : ∀ s, ¬ (Value.text s).HoldsNonFinite := by rintro s ⟨⟩
  have hvalue : p.value.toValue.HoldsNonFinite ↔ ∃ x, p.value = .float x ∧ x.isFinite = false := by
    cases p.value with
    | float x => simp [Literal.toValue, Value.holdsNonFinite_float_iff]
    | _ =>
      constructor
      · rintro ⟨⟩
      · rintro ⟨x, ⟨⟩, -⟩
  rw [predicateRecord, Value.holdsNonFinite_object_iff, ← hvalue]
  simp [htext]

/-- What is written lists the predicates. -/
theorem lists_parsed (texts : List String) {after : String} (hafter : Json.IsGap after.toList) :
    Lists (Json.write (.list ((parsed texts).map predicateRecord)) ++ after)
      ["column", "operator", "value", "kind", "canonical"] ((parsed texts).map predicateRecord)
      (∀ p ∈ parsed texts, ∀ x, p.value = .float x → x.isFinite = true) := by
  refine lists_write hafter ?_ ?_ ?_
  · intro r hr
    obtain ⟨p, hp, rfl⟩ := List.mem_map.1 hr
    obtain ⟨text, -, htext⟩ := List.mem_filterMap.1 hp
    -- what is listed has been parsed from one of the texts
    have hparse : Predicate.parse text = .ok p := by
      cases hread : Predicate.parse text with
      | error e =>
        rw [hread] at htext
        cases htext
      | ok q =>
        rw [hread] at htext
        exact congrArg Except.ok (Option.some.inj htext)
    exact writable_predicateRecord hparse
  · intro r hr
    obtain ⟨p, -, rfl⟩ := List.mem_map.1 hr
    exact ⟨_, rfl, rfl⟩
  · simp only [List.forall_mem_map, holdsNonFinite_predicateRecord_iff, not_exists, not_and,
      Bool.not_eq_false]

/-! ### Rows and groups -/

variable {t : Table}

/-- A table is listed by its rows. -/
theorem lists_rows (h : t.WellFormed) (hwide : ∀ c ∈ t.columns, ¬ c.type.Wide) :
    Lists (Json.write t.records) t.names (t.rows.map (Table.record t.columns))
      (∀ row ∈ t.rows, ∀ cell ∈ row, ¬ cell.HoldsNonFinite) := by
  rw [← String.append_empty (s := Json.write t.records)]
  refine lists_write Json.isGap_nil ?_ ?_ ?_
  · exact List.forall_mem_map.2 fun row hrow => h.writable_record hwide hrow
  · exact List.forall_mem_map.2 fun row hrow => h.names_record hrow
  · rw [List.forall_mem_map]
    refine forall₂_congr fun row hrow => ?_
    simp only [h.holdsNonFinite_record_iff hrow, not_exists, not_and]

/-- Groups are listed by their values and numbers. -/
theorem lists_groups {column : String} {type : DataType} {groups : List Group} {listed : Table}
    (h : t.WellFormed) (hwide : ∀ c ∈ t.columns, ¬ c.type.Wide)
    (htype : t.typeOf? column = some type) (hgroups : t.groups column = .ok groups)
    (hheight : t.height < 2 ^ 63) (hlisted : Table.ofGroups type groups = .ok listed) :
    listed.isListable = true ∧
      Lists (Json.write listed.records) ["value", "count"] (groups.map (Table.groupRecord type))
        (∀ g ∈ groups, ¬ g.value.HoldsNonFinite) := by
  obtain ⟨place, hplace⟩ := Table.exists_indexOf?_of_typeOf? htype
  have hfits : ∀ g ∈ groups, Cell.Fits type g.value :=
    fun g hg => Table.fits_group hplace hgroups h htype hg
  -- the values are those of a column, so they can be read again
  have hnarrow : ¬ type.Wide := by
    obtain ⟨c, hc, rfl⟩ := Option.map_eq_some_iff.1 htype
    exact hwide c (List.mem_of_find?_eq_some hc)
  have hcount : ∀ g ∈ groups, DataType.holdsInt true 64 g.count = true := by
    intro g hg
    -- a group has no more rows than the table
    have hle : g.count ≤ t.height := by
      rw [← Table.height_part hplace hgroups hg]
      exact List.length_filter_le _ _
    rw [DataType.holdsInt_signed_iff]
    omega
  obtain ⟨hrecords, hlistable⟩ := Table.records_of_ofGroups hfits hlisted
  refine ⟨hlistable, ?_⟩
  rw [hrecords, ← String.append_empty (s := Json.write _)]
  refine lists_write Json.isGap_nil ?_ ?_ ?_
  · exact List.forall_mem_map.2 fun g hg =>
      Table.writable_groupRecord (hfits g hg) hnarrow (hcount g hg)
  · exact List.forall_mem_map.2 fun g _ => ⟨_, rfl, rfl⟩
  · rw [List.forall_mem_map]
    refine forall₂_congr fun g hg => ?_
    rw [Table.holdsNonFinite_groupRecord_iff (hfits g hg)]

/-- A table is rendered as JSON exactly if its cells can be listed. -/
private theorem render_json_eq_ok_iff {text : String} :
    render .json t = .ok text ↔ t.isListable = true ∧ text = Json.write t.records := by
  rw [render]
  split
  · rename_i h
    rw [Except.ok.injEq, and_iff_right h]
    exact eq_comm
  · rename_i h
    exact iff_of_false nofun fun hand => h hand.1

/-! ### Documents -/

/-- What is listed as JSON is read as one object for each predicate, row or group, in order.  It is
    a document exactly if the numbers in the predicates, the cells or the values are finite.  Rows
    and groups are listed exactly if there is a text for each cell and each value: no date is
    outside of the calendar, and no duration too long. -/
theorem listings_documents_iff (texts : List String) (t : Table) :
    (∃ text, Event.writings (performParse texts).events = [.output text] ∧
      Lists text ["column", "operator", "value", "kind", "canonical"]
        ((parsed texts).map predicateRecord)
        (∀ p ∈ parsed texts, ∀ x, p.value = .float x → x.isFinite = true)) ∧
    (t.WellFormed → (∀ c ∈ t.columns, ¬ c.type.Wide) →
      (((∃ text, render .json t = .ok text) ↔
          ∀ row ∈ t.rows, ∀ p ∈ t.columns.zip row, p.2.isListable p.1.type = true) ∧
        ∀ text, render .json t = .ok text →
          Lists text t.names (t.rows.map (Table.record t.columns))
            (∀ row ∈ t.rows, ∀ cell ∈ row, ¬ cell.HoldsNonFinite)) ∧
      ∀ column type, t.typeOf? column = some type → t.height < 2 ^ 63 →
        ∃ groups, t.groups column = .ok groups ∧
          ((∃ listed text, Table.ofGroups type groups = .ok listed ∧
              render .json listed = .ok text) ↔ ∀ g ∈ groups, g.value.isListable type = true) ∧
          ∀ listed text, Table.ofGroups type groups = .ok listed →
            render .json listed = .ok text →
            Lists text ["value", "count"] (groups.map (Table.groupRecord type))
              (∀ g ∈ groups, ¬ g.value.HoldsNonFinite)) := by
  refine ⟨?_, fun h hwide => ⟨⟨?_, ?_⟩, ?_⟩⟩
  · obtain ⟨after, hafter, hwritings⟩ := writings_performParse texts
    exact ⟨_, hwritings, lists_parsed texts hafter⟩
  · simp only [render_json_eq_ok_iff, exists_and_left, exists_eq, and_true, Table.isListable,
      List.all_eq_true]
  · intro text htext
    obtain ⟨-, rfl⟩ := render_json_eq_ok_iff.1 htext
    exact lists_rows h hwide
  · intro column type htype hheight
    obtain ⟨place, hplace⟩ := Table.exists_indexOf?_of_typeOf? htype
    have hgroups := Table.groups_eq_ok hplace
    refine ⟨_, hgroups, ?_, ?_⟩
    · rw [← Table.exists_ofGroups_iff]
      constructor
      · rintro ⟨listed, text, hlisted, -⟩
        exact ⟨listed, hlisted⟩
      · rintro ⟨listed, hlisted⟩
        -- groups that can be listed make a table that can be rendered
        obtain ⟨hlistable, -⟩ := lists_groups h hwide htype hgroups hheight hlisted
        exact ⟨listed, _, hlisted, render_json_eq_ok_iff.2 ⟨hlistable, rfl⟩⟩
    · intro listed text hlisted htext
      obtain ⟨-, rfl⟩ := render_json_eq_ok_iff.1 htext
      exact (lists_groups h hwide htype hgroups hheight hlisted).2

/-- A column with a number and null: two rows and two groups. -/
theorem listings_documents_of_one :
    let t : Table := ⟨[⟨"x", .float64⟩], [[.float (.finite false (2 ^ 52) (-52))], [.null]]⟩
    t.WellFormed ∧ (∀ c ∈ t.columns, ¬ c.type.Wide) ∧ t.typeOf? "x" = some .float64 ∧
      t.height < 2 ^ 63 ∧
      (∃ text, render .json t = .ok text ∧ Json.IsDocument text.toList ∧
        Json.read text = .ok (.list [.object [("x", .float (.finite false (2 ^ 52) (-52)))],
          .object [("x", .null)]])) ∧
      ∃ groups listed text, t.groups "x" = .ok groups ∧
        Table.ofGroups .float64 groups = .ok listed ∧ render .json listed = .ok text ∧
        Json.IsDocument text.toList := by
  intro t
  have hholds : Binary.double.Holds (2 ^ 52) (-52) := by constructor <;> decide
  have hwf : t.WellFormed := by
    refine ⟨List.nodup_singleton _, ?_, nofun⟩
    intro row hrow
    simp only [t, List.mem_cons, List.not_mem_nil, or_false] at hrow
    rcases hrow with rfl | rfl
    · exact .cons (.float64 hholds) .nil
    · exact .cons .null .nil
  have hwide : ∀ c ∈ t.columns, ¬ c.type.Wide := by
    intro c hc
    rw [List.mem_singleton.1 hc]
    rintro ⟨⟩
  -- one number and null, so nothing keeps the text from being a document
  have hcells : ∀ cell ∈ t.cells 0, ¬ cell.HoldsNonFinite := by
    intro cell hcell
    have hcell : cell = .float (.finite false (2 ^ 52) (-52)) ∨ cell = .null := by
      simpa [t, Table.cells, Row.cell] using hcell
    rcases hcell with rfl | rfl
    · rintro ⟨⟨⟩⟩
    · rintro ⟨⟩
  obtain ⟨⟨hrendered, hrows⟩, hcolumns⟩ := (listings_documents_iff [] t).2 hwf hwide
  obtain ⟨text, htext⟩ := hrendered.2 (by simp [t, Cell.isListable])
  obtain ⟨groups, hgroups, hlistable, hvalues⟩ := hcolumns "x" .float64 rfl (by decide)
  have hplace : t.indexOf? "x" = some 0 := rfl
  have hmem : ∀ g ∈ groups, g.value ∈ t.cells 0 := fun g hg =>
    Cell.mem_of_mem_firsts ((Table.mem_groups_iff hplace hgroups).1 hg).1
  obtain ⟨listed, grouped, hlisted, hgrouped⟩ := hlistable.2 fun g hg => by
    have hcell : g.value = .float (.finite false (2 ^ 52) (-52)) ∨ g.value = .null := by
      simpa [t, Table.cells, Row.cell] using hmem g hg
    rcases hcell with hcell | hcell <;> simp [hcell, Cell.isListable]
  refine ⟨hwf, hwide, rfl, by decide,
    ⟨text, htext, (hrows text htext).isDocument_iff.2 ?_, (hrows text htext).read_eq⟩,
    groups, listed, grouped, hgroups, hlisted, hgrouped,
    (hvalues listed grouped hlisted hgrouped).isDocument_iff.2 ?_⟩
  · simpa [t, Table.cells, Row.cell] using hcells
  · exact fun g hg => hcells _ (hmem g hg)

/-! ### Infinities -/

private theorem ofDigitChars_one_zeros (n : Nat) :
    Nat.ofDigitChars 10 ('1' :: List.replicate n '0') 0 = 10 ^ n := by
  rw [← Text.digitsValue_eq, Text.digitsValue_cons, Text.digitsValue_zeros, List.length_replicate]
  simp

/-- Powers of ten are beyond the range of floating-point numbers from the 309th on. -/
private theorem limit_le_decimalValue {n : Nat} (hn : 309 ≤ n) : Binary.double.limit ≤
    Predicate.LiteralSyntax.decimalValue ('1' :: List.replicate n '0') (some ['0']) := by
  have hmantissa : (2 ^ 53 - 1 / 2 : ℚ) ≤ 2 ^ 53 := by norm_num
  have hpow : 2 ^ 1024 ≤ 10 ^ 309 := by decide +kernel
  -- the limit is below 2 ^ 1024, and that is below the 309th power
  calc Binary.double.limit = (2 ^ 53 - 1 / 2) * 2 ^ (971 : ℤ) := rfl
    _ ≤ 2 ^ 53 * 2 ^ (971 : ℤ) := mul_le_mul_of_nonneg_right hmantissa (by positivity)
    _ = 2 ^ 1024 := by rw [← zpow_natCast, ← zpow_natCast, ← zpow_add₀ two_ne_zero]; rfl
    _ ≤ 10 ^ 309 := by exact_mod_cast hpow
    _ ≤ 10 ^ n := pow_le_pow_right₀ (by norm_num) hn
    _ = Predicate.LiteralSyntax.decimalValue ('1' :: List.replicate n '0') (some ['0']) := by
      rw [Predicate.LiteralSyntax.decimalValue, ofDigitChars_one_zeros]
      simp [Nat.ofDigitChars]

/-- Such a power of ten is parsed as an infinity. -/
private theorem parse_power_of_ten {n : Nat} (hn : 309 ≤ n) :
    Predicate.parse ("a = 1" ++ String.ofList (List.replicate n '0') ++ ".0") =
      .ok ⟨.eq, "a", .float (.infinite false), by decide⟩ := by
  have hdigits : IsDigits ('1' :: List.replicate n '0') :=
    ⟨List.cons_ne_nil _ _, List.forall_mem_cons.2 ⟨rfl, fun c => isDigit_of_mem_zeros⟩⟩
  have hvalid : Predicate.Parts.Valid ⟨[], ['a'], [' '], .eq, [' '],
      .number .missing ('1' :: List.replicate n '0') (some ['0']), []⟩ := by
    refine ⟨nofun, List.cons_ne_nil _ _, List.forall_mem_singleton.2 (by decide),
      Predicate.isBlanks_space, Predicate.isBlanks_space, ⟨hdigits, ?_⟩, nofun⟩
    rintro _ ⟨⟩
    exact isDigits_zero
  refine Predicate.parse_text ⟨hvalid, ?_⟩
    ⟨rfl, rfl, .float nofun (.infinite (limit_le_decimalValue hn))⟩
  simp [Predicate.Parts.text, Predicate.LiteralSyntax.text, Predicate.Sign.text,
    Predicate.LiteralSyntax.fractionText, Operator.symbol]

/-- An infinity, be it in a predicate that has been parsed or in a cell, is not listed in a
    document. -/
theorem infinity_listed_in_no_document :
    (∃ text, Event.writings
        (performParse ["a = 1" ++ String.ofList (List.replicate 400 '0') ++ ".0"]).events =
          [.output text] ∧ ¬ Json.IsDocument text.toList) ∧
      ∃ text, render .json ⟨[⟨"x", .float64⟩], [[.float (.infinite false)]]⟩ = .ok text ∧
        ¬ Json.IsDocument text.toList := by
  constructor
  · obtain ⟨after, hafter, hwritings⟩ := writings_performParse
      ["a = 1" ++ String.ofList (List.replicate 400 '0') ++ ".0"]
    have hparsed : parsed ["a = 1" ++ String.ofList (List.replicate 400 '0') ++ ".0"] =
        [⟨.eq, "a", .float (.infinite false), by decide⟩] := by
      rw [parsed, List.filterMap_cons_some, List.filterMap_nil]
      rw [parse_power_of_ten (by decide), Except.toOption]
    refine ⟨_, hwritings, fun hdocument => ?_⟩
    -- a document would tell that all numbers are finite
    have hfinite := (lists_parsed _ hafter).isDocument_iff.1 hdocument
    rw [hparsed, List.forall_mem_singleton] at hfinite
    exact absurd (hfinite _ rfl) (by decide)
  · have hinfinite : (Table.records ⟨[⟨"x", .float64⟩],
        [[.float (.infinite false)]]⟩).HoldsNonFinite :=
      .item (List.mem_singleton_self _) (.member (List.mem_singleton_self _) (.float rfl))
    refine ⟨_, rfl, ?_⟩
    rw [← List.append_nil (String.toList _), Json.isDocument_write_iff Json.isGap_nil, not_not]
    exact hinfinite

end CommandLine

end SharedTables
