import Mathlib
import SharedTables.Proofs.Number.ExactOrder
import SharedTables.Table.Group

/-!
# Groups of cells

The groups of a list of cells have one value each.  Every cell agrees with the value of one group,
and no two groups have values that agree, so the rows of the groups are the rows of the table.

## Key results

- `agrees_self`, `agrees_comm`, `agrees_congr`: being the same key is an equivalence
- `mem_of_mem_firsts`, `exists_mem_firsts`, `firsts_pairwise`: the first occurrences of cells
- `Group.mem_ranked_ofCells_iff`: the groups are the first occurrences with their numbers
- `flatMap_filter_perm`: rows sorted by keys that exclude each other are the rows with such a key
-/

namespace SharedTables

namespace Binary

/-- A float is level with itself, also when it is no number. -/
private theorem compareTotal_self (x : Binary) : compareTotal x x = .eq := by
  cases x with
  | nan => rfl
  | infinite negative => exact compare_eq_iff_eq.2 rfl
  | finite negative m e => exact compare_eq_iff_eq.2 rfl

/-- Two numbers have one place in the order iff they denote the same, or both denote nothing. -/
private theorem compareTotal_eq_iff {x y : Binary} :
    compareTotal x y = .eq ↔ x.toEReal? = y.toEReal? := by
  by_cases hx : x = .nan
  · subst hx
    cases y <;> simp [compareTotal, toEReal?]
  · by_cases hy : y = .nan
    · subst hy
      cases x <;> simp_all [compareTotal, toEReal?]
    · obtain ⟨a, ha⟩ := exists_toEReal? hx
      obtain ⟨b, hb⟩ := exists_toEReal? hy
      rw [compareTotal_of_toEReal? ha hb, compare_eq_iff_eq, ha, hb, Option.some.injEq]

end Binary

namespace Cell

mutual

/-- A cell is the same key as itself. -/
theorem agrees_self : ∀ c : Cell, agrees c c = true
  | null => rfl
  | int n => beq_self_eq_true n
  | float x => by rw [agrees, Binary.compareTotal_self]; rfl
  | text s => beq_self_eq_true s
  | bool b => beq_self_eq_true b
  | date d => beq_self_eq_true d
  | time n => beq_self_eq_true n
  | datetime n => beq_self_eq_true n
  | duration n => beq_self_eq_true n
  | decimal n => beq_self_eq_true n
  | binary bs => beq_self_eq_true bs
  | list cs => by rw [agrees]; exact agreesAll_self cs
  | struct cs => by rw [agrees]; exact agreesAll_self cs

/-- A key agrees with itself. -/
private theorem agreesAll_self : ∀ cs : List Cell, agreesAll cs cs = true
  | [] => rfl
  | c :: cs => by rw [agreesAll, agrees_self c, agreesAll_self cs]; rfl

end

mutual

/-- Cells that are one key are the same key as the same cells. -/
theorem agrees_congr : ∀ {c d : Cell}, agrees c d = true → ∀ e, agrees c e = agrees d e
  | null, null, _, _ => rfl
  | int m, int n, h, _ => by rw [eq_of_beq h]
  | float x, float y, h, e => by
    cases e with
    | float z =>
      rw [agrees, beq_iff_eq, Binary.compareTotal_eq_iff] at h
      rw [agrees, agrees, Bool.eq_iff_iff, beq_iff_eq, beq_iff_eq, Binary.compareTotal_eq_iff,
        Binary.compareTotal_eq_iff, h]
    | _ => rfl
  | text s, text t, h, _ => by rw [eq_of_beq h]
  | bool b, bool c, h, _ => by rw [eq_of_beq h]
  | date d, date e, h, _ => by rw [eq_of_beq h]
  | time s, time t, h, _ => by rw [eq_of_beq h]
  | datetime s, datetime t, h, _ => by rw [eq_of_beq h]
  | duration s, duration t, h, _ => by rw [eq_of_beq h]
  | decimal m, decimal n, h, _ => by rw [eq_of_beq h]
  | binary bs, binary cs, h, _ => by rw [eq_of_beq h]
  | list cs, list ds, h, e => by
    cases e with
    | list es => exact agreesAll_congr h es
    | _ => rfl
  | struct cs, struct ds, h, e => by
    cases e with
    | struct es => exact agreesAll_congr h es
    | _ => rfl

/-- Keys that agree with one another agree with the same keys. -/
private theorem agreesAll_congr :
    ∀ {cs ds : List Cell}, agreesAll cs ds = true → ∀ es, agreesAll cs es = agreesAll ds es
  | [], [], _, _ => rfl
  | c :: cs, d :: ds, h, es => by
    rw [agreesAll, Bool.and_eq_true] at h
    cases es with
    | nil => rfl
    | cons e es => rw [agreesAll, agreesAll, agrees_congr h.1, agreesAll_congr h.2]

end

/-- A cell at the end is a first occurrence unless it agrees with one before it. -/
theorem firsts_append_singleton (cells : List Cell) (c : Cell) :
    firsts (cells ++ [c]) =
      if (firsts cells).any (agrees c) then firsts cells else firsts cells ++ [c] := by
  rw [firsts, List.foldl_append]
  rfl

/-- The first rows of the groups are rows. -/
theorem mem_of_mem_firsts {cells : List Cell} {c : Cell} (h : c ∈ firsts cells) : c ∈ cells := by
  induction cells using List.reverseRecOn with
  | nil => exact h
  | append_singleton cells d ih =>
    rw [firsts_append_singleton] at h
    split at h
    · exact List.mem_append_left _ (ih h)
    · rcases List.mem_append.1 h with h | h
      · exact List.mem_append_left _ (ih h)
      · exact List.mem_append_right _ h

/-- Every cell agrees with a first occurrence. -/
theorem exists_mem_firsts {cells : List Cell} {c : Cell} (h : c ∈ cells) :
    ∃ d ∈ firsts cells, agrees c d = true := by
  induction cells using List.reverseRecOn with
  | nil => exact absurd h List.not_mem_nil
  | append_singleton cells d ih =>
    rw [firsts_append_singleton]
    rcases List.mem_append.1 h with hmem | hlast
    · -- what is seen already stays seen
      obtain ⟨e, he, hagrees⟩ := ih hmem
      split
      · exact ⟨e, he, hagrees⟩
      · exact ⟨e, List.mem_append_left _ he, hagrees⟩
    · obtain rfl := List.mem_singleton.1 hlast
      split
      · rename_i hseen
        exact List.any_eq_true.1 hseen
      · exact ⟨c, by simp, agrees_self c⟩

/-- A first occurrence agrees with none before it. -/
theorem firsts_pairwise (cells : List Cell) :
    (firsts cells).Pairwise fun c d => agrees d c = false := by
  -- cells are seen from the front, so the induction goes from the end
  induction cells using List.reverseRecOn with
  | nil => exact .nil
  | append_singleton cells d ih =>
    rw [firsts_append_singleton]
    split
    · exact ih
    · rename_i hnew
      rw [List.pairwise_append]
      refine ⟨ih, List.pairwise_singleton _ _, ?_⟩
      intro c hc e he
      obtain rfl := List.mem_singleton.1 he
      rw [Bool.not_eq_true, List.any_eq_false] at hnew
      simpa using hnew c hc

/-- No cell is a first occurrence twice. -/
theorem firsts_nodup (cells : List Cell) : (firsts cells).Nodup := by
  refine (firsts_pairwise cells).imp ?_
  rintro c d hagrees rfl
  rw [agrees_self] at hagrees
  cases hagrees

end Cell

/-! ### Groups -/

/-- The groups are the first occurrences, each with the number of cells that agree with it. -/
theorem Group.mem_ranked_ofCells_iff {cells : List Cell} {g : Group} :
    g ∈ Group.ranked (Group.ofCells cells) ↔
      g.value ∈ Cell.firsts cells ∧ g.count = cells.countP fun c => c.agrees g.value := by
  rw [(Group.ranked_perm _).mem_iff, Group.ofCells, List.mem_map]
  constructor
  · rintro ⟨c, hc, rfl⟩
    exact ⟨hc, rfl⟩
  · rintro ⟨hvalue, hcount⟩
    obtain ⟨value, count⟩ := g
    exact ⟨value, hvalue, congrArg (Group.mk value) hcount.symm⟩

/-- The values of the groups are the first occurrences, in the order of the groups. -/
theorem Group.map_value_perm (cells : List Cell) :
    ((Group.ranked (Group.ofCells cells)).map Group.value).Perm (Cell.firsts cells) := by
  have hvalues : (Group.ofCells cells).map Group.value = Cell.firsts cells := by
    rw [Group.ofCells, List.map_map]
    exact List.map_id _
  rw [← hvalues]
  exact (Group.ranked_perm _).map _

/-! ### Rows by keys -/

/-- Elements that pass one of two tests that exclude each other. -/
private theorem filter_or_perm {α : Type} {p q : α → Bool} {as : List α}
    (h : ∀ a ∈ as, p a = true → q a = false) :
    (as.filter p ++ as.filter q).Perm (as.filter fun a => p a || q a) := by
  induction as with
  | nil => exact .refl _
  | cons a rest ih =>
    rw [List.forall_mem_cons] at h
    have hrest := ih h.2
    cases hp : p a with
    | true => simpa [hp, h.1 hp] using hrest
    | false =>
      -- what only the second test lets through moves to the front
      cases hq : q a with
      | true => simpa [hp, hq] using List.perm_middle.trans (hrest.cons a)
      | false => simpa [hp, hq] using hrest

/-- Rows taken by one key after another, where keys exclude each other, are the rows that have one
    of the keys. -/
theorem flatMap_filter_perm {α β : Type} {hasKey : β → α → Bool} {as : List α} {keys : List β}
    (h : keys.Pairwise fun k l => ∀ a ∈ as, hasKey k a = true → hasKey l a = false) :
    (keys.flatMap fun k => as.filter (hasKey k)).Perm
      (as.filter fun a => keys.any fun k => hasKey k a) := by
  induction keys with
  | nil => simp
  | cons k keys ih =>
    rw [List.pairwise_cons] at h
    rw [List.flatMap_cons]
    -- the rows of the first key have none of the others
    refine ((ih h.2).append_left _).trans ?_
    refine filter_or_perm fun a ha hk => ?_
    rw [List.any_eq_false]
    intro l hl
    rw [h.1 l hl a ha hk]
    exact Bool.false_ne_true

end SharedTables
