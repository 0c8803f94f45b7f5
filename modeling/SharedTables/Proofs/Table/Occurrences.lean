import Mathlib
import SharedTables.Proofs.Table.Searching
import SharedTables.Proofs.Text.Lowercase

/-!
# Searches and literal occurrences

A search compares small letters on both sides, so it should find a text wherever it stands as it is.
It does unless the text wavers: then the text has one lower case by itself and another in some
cells, and the search passes over these.

## Key results

- `finds_of_holdsText`: a text that does not waver is found wherever it stands
- `search_finds_occurrences_iff`: only for such a text this is so in every table
-/

namespace SharedTables

namespace Table

variable {t : Table} {text : String} {names : List String} {row : Row}

/-- The text stands, character for character, in the text of the row in one of the columns that have
    texts. -/
def HoldsText (t : Table) (text : String) (names : List String) (row : Row) : Prop :=
  ∃ name ∈ names, ∃ place type found, t.indexOf? name = some place ∧ t.typeOf? name = some type ∧
    type.textForm = .present ∧ (Row.cell row place).text? type = some found ∧
    text.toList <:+: found.toList

/-- A text that does not waver is found wherever it stands. -/
theorem finds_of_holdsText (h : ¬ Text.Wavering text.toList) (hrow : t.HoldsText text names row) :
    t.finds text names row = true := by
  obtain ⟨name, hname, place, type, found, hplace, htype, hform, hfound, hpart⟩ := hrow
  -- what stands in the text stands in its small letters, as the text does not waver
  have hmatches : t.columnMatches (Text.lowercase text) row name = true := by
    simp [columnMatches, rowMatches, cellMatches, hplace, htype, hform, hfound,
      Text.occursIn_lowercase h hpart]
  rw [finds, Bool.or_eq_true, List.any_eq_true]
  exact .inr ⟨name, hname, hmatches⟩

/-- A table with one column of texts and one row. -/
def ofText (cell : String) : Table :=
  ⟨[⟨"text", .string⟩], [[.text cell]]⟩

private theorem mem_names_ofText (cell : String) : "text" ∈ (ofText cell).names :=
  List.mem_singleton_self _

private theorem renders_ofText (cell : String) : (ofText cell).Renders ["text"] := by
  have htype : (ofText cell).typeOf? "text" = some .string := rfl
  simp [Renders, htype, DataType.textForm]

/-- A search of a single text keeps it if it holds the text that is searched for in small
    letters. -/
private theorem search_ofText (hne : text ≠ "") (cell : String) :
    ((ofText cell).search text ["text"]).result = .ok
      (if Text.occursIn (Text.lowercase text).toList (Text.lowercase cell).toList then ofText cell
        else ⟨(ofText cell).columns, []⟩) := by
  -- there is one column, which the row is searched in
  have hmatches : (ofText cell).columnMatches (Text.lowercase text) [.text cell] "text" =
      Text.occursIn (Text.lowercase text).toList (Text.lowercase cell).toList := by
    have hplace : (ofText cell).indexOf? "text" = some 0 := rfl
    have htype : (ofText cell).typeOf? "text" = some .string := rfl
    simp [columnMatches, rowMatches, cellMatches, hplace, htype, DataType.textForm, Row.cell,
      Cell.text?, Cell.plainText, Cell.lacksText]
  have hrows : (ofText cell).rows = [[.text cell]] := rfl
  rw [search_singleton hne (mem_names_ofText cell) (renders_ofText cell), filterRows, hrows,
    List.filter_cons, hmatches]
  split <;> rfl

/-- A search keeps every row in which the text stands in one of the columns, in all tables that have
    one and can render the others, exactly if the text does not waver. -/
theorem search_finds_occurrences_iff (text : String) :
    (∀ (t : Table) (names : List String), (∃ name ∈ names, name ∈ t.names) → t.Renders names →
      ∃ keep, (t.search text names).result = .ok (t.filterRows keep) ∧
        ∀ row ∈ t.rows, t.HoldsText text names row → keep row = true) ↔
      ¬ Text.Wavering text.toList := by
  constructor
  · intro hfinds hwavering
    have hne : text ≠ "" := by
      rintro rfl
      obtain ⟨front, back, hnil, -⟩ := hwavering
      simp at hnil
    -- the search of a cell that it misses has to keep it
    obtain ⟨cell, hpart, hmissed⟩ := Text.exists_missed_of_wavering hwavering
    have hsearch := search_ofText hne cell
    obtain ⟨keep, hresult, hkeep⟩ := hfinds (ofText cell) ["text"]
      ⟨"text", List.mem_singleton_self _, mem_names_ofText cell⟩ (renders_ofText cell)
    have hholds : (ofText cell).HoldsText text ["text"] [.text cell] :=
      ⟨"text", List.mem_singleton_self _, 0, .string, cell, rfl, rfl, rfl, rfl, hpart⟩
    have hrow : [.text cell] ∈ (ofText cell).rows := List.mem_singleton_self _
    rw [hsearch, hmissed, Except.ok.injEq] at hresult
    have hrows : [] = (ofText cell).rows.filter keep := congrArg Table.rows hresult
    have hkept := List.mem_filter.2 ⟨hrow, hkeep _ hrow hholds⟩
    rw [← hrows] at hkept
    cases hkept
  · intro hsteady t names hsome hrenders
    exact ⟨_, search_eq_ok_iff.2 ⟨.inr ⟨hsome, hrenders⟩, rfl⟩, fun row _ hrow =>
      finds_of_holdsText hsteady hrow⟩

/-- The Greek word for a street ends in a final sigma; the word for its surface, which starts with
    the same capitals, does not have one there. -/
theorem search_misses_sigma :
    (ofText "\u039f\u0394\u039f\u03a3\u03a4\u03a1\u03a9\u039c\u0391").HoldsText
        "\u039f\u0394\u039f\u03a3" ["text"]
        [.text "\u039f\u0394\u039f\u03a3\u03a4\u03a1\u03a9\u039c\u0391"] ∧
      ((ofText "\u039f\u0394\u039f\u03a3\u03a4\u03a1\u03a9\u039c\u0391").search
        "\u039f\u0394\u039f\u03a3" ["text"]).result = .ok ⟨[⟨"text", .string⟩], []⟩ := by
  constructor
  · refine ⟨"text", List.mem_singleton_self _, 0, .string, _, rfl, rfl, rfl, rfl, ?_⟩
    exact ⟨[], "\u03a4\u03a1\u03a9\u039c\u0391".toList, by decide⟩
  · have hmissed : Text.occursIn (Text.lowercase "\u039f\u0394\u039f\u03a3").toList
        (Text.lowercase "\u039f\u0394\u039f\u03a3\u03a4\u03a1\u03a9\u039c\u0391").toList =
        false := by
      decide +kernel
    rw [search_ofText (by decide), hmissed]
    rfl

end Table

end SharedTables
