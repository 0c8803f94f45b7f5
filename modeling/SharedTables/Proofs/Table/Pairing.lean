import Mathlib
import SharedTables.Table.Join

/-!
# Pairs of rows

A join lists the pairs of rows that match, and the rows of each side that is kept which match none
of the other side.

## Key results

- `pairs_perm`: the pairs that a join lists, as often as they are there
- `length_pairs_of_none`: what is listed if no rows match
- `pairs_cross`: what a cross join lists
-/

namespace SharedTables

namespace Table

variable {same : Row → Row → Bool} {left right : List Row}

/-- The pairs of rows that match. -/
def matchingPairs (same : Row → Row → Bool) (left right : List Row) : List
    (Option Row × Option Row) :=
  ((left ×ˢ right).filter fun p => same p.1 p.2).map fun p => (some p.1, some p.2)

/-- The left rows that match no right row, without a partner. -/
def lonelyLeft (same : Row → Row → Bool) (left right : List Row) : List (Option Row × Option Row) :=
  (left.filter fun a => !right.any (same a)).map fun a => (some a, none)

/-- The right rows that match no left row, without a partner. -/
def lonelyRight (same : Row → Row → Bool) (left right : List Row) : List
    (Option Row × Option Row) :=
  (right.filter fun b => !left.any fun a => same a b).map fun b => (none, some b)

/-- The pairs that match, and the rows without a partner of each side that is kept. -/
def relationalPairs (kind : JoinKind) (same : Row → Row → Bool) (left right : List Row) :
    List (Option Row × Option Row) :=
  matchingPairs same left right ++ (if kind.keepsLeft then lonelyLeft same left right else []) ++
    if kind.keepsRight then lonelyRight same left right else []

private theorem matchingPairs_cons (same : Row → Row → Bool) (a : Row) (left right : List Row) :
    matchingPairs same (a :: left) right =
      (right.filter (same a)).map (fun b => (some a, some b)) ++ matchingPairs same left right := by
  rw [matchingPairs, List.product_cons, List.filter_append, List.map_append, List.filter_map,
    List.map_map]
  rfl

/-- Partners listed row by row are the pairs that match. -/
private theorem partners_perm (keep : Bool) (same : Row → Row → Bool) (left right : List Row) :
    (left.flatMap fun a =>
        if (right.filter (same a)).isEmpty && keep then [(some a, none)]
        else (right.filter (same a)).map fun b => (some a, some b)).Perm
      (matchingPairs same left right ++ if keep then lonelyLeft same left right else []) := by
  -- induction on the left rows: each is listed with its partners, or alone
  induction left with
  | nil => cases keep <;> exact .refl _
  | cons a rest ih =>
    rw [List.flatMap_cons, matchingPairs_cons]
    by_cases hany : right.any (same a) = true
    · -- the row has partners
      have hpartners : (right.filter (same a)).isEmpty = false := by
        rw [List.isEmpty_eq_false_iff, Ne, List.filter_eq_nil_iff]
        obtain ⟨b, hb, hab⟩ := List.any_eq_true.1 hany
        exact fun hnone => hnone b hb hab
      have hlonely : lonelyLeft same (a :: rest) right = lonelyLeft same rest right := by
        rw [lonelyLeft, List.filter_cons_of_neg (by simpa using hany)]
        rfl
      rw [hpartners, Bool.false_and, if_neg Bool.false_ne_true, hlonely, List.append_assoc]
      exact ih.append_left _
    · -- the row has none, and is listed alone if its side is kept
      have hpartners : right.filter (same a) = [] := by
        rw [List.filter_eq_nil_iff]
        simpa using hany
      have hlonely : lonelyLeft same (a :: rest) right =
          (some a, none) :: lonelyLeft same rest right := by
        rw [lonelyLeft, List.filter_cons_of_pos (by simpa using hany)]
        rfl
      rw [hpartners, hlonely]
      cases keep with
      | true => exact (ih.cons _).trans List.perm_middle.symm
      | false => exact ih

/-- The pairs of rows that a join lists. -/
theorem pairs_perm (kind : JoinKind) (same : Row → Row → Bool) (left right : List Row) :
    (pairs kind same left right).Perm (relationalPairs kind same left right) :=
  (partners_perm kind.keepsLeft same left right).append_right _

/-- If no rows match, the rows of each side that is kept are listed. -/
theorem length_pairs_of_none (kind : JoinKind)
    (h : ∀ a ∈ left, ∀ b ∈ right, same a b = false) :
    (pairs kind same left right).length =
      (if kind.keepsLeft then left.length else 0) +
        if kind.keepsRight then right.length else 0 := by
  -- no pair is left, and every row is without a partner
  have hmatching : matchingPairs same left right = [] := by
    rw [matchingPairs, List.map_eq_nil_iff, List.filter_eq_nil_iff]
    rintro ⟨a, b⟩ hp
    obtain ⟨ha, hb⟩ := List.pair_mem_product.1 hp
    simp [h a ha b hb]
  have hleft : (lonelyLeft same left right).length = left.length := by
    rw [lonelyLeft, List.length_map, List.filter_eq_self.2]
    intro a ha
    simpa using h a ha
  have hright : (lonelyRight same left right).length = right.length := by
    rw [lonelyRight, List.length_map, List.filter_eq_self.2]
    intro b hb
    simpa using fun a ha => h a ha b hb
  rw [(pairs_perm kind same left right).length_eq, relationalPairs, hmatching, List.nil_append,
    List.length_append, apply_ite List.length, apply_ite List.length, hleft, hright]
  rfl

/-- A join that keeps the right side alone has a right row in every pair. -/
theorem isSome_of_mem_pairs {p : Option Row × Option Row}
    (h : p ∈ pairs .right same left right) : p.2.isSome = true := by
  rw [(pairs_perm .right same left right).mem_iff] at h
  simp only [relationalPairs, matchingPairs, lonelyRight, JoinKind.keepsLeft, JoinKind.keepsRight,
    Bool.false_eq_true, if_false, if_true, List.append_nil, List.mem_append, List.mem_map] at h
  obtain ⟨q, -, rfl⟩ | ⟨b, -, rfl⟩ := h <;> rfl

/-- A cross join looks at no keys, so that every row is paired with every other. -/
theorem pairs_cross (left right : List Row) :
    pairs .cross (fun _ _ => true) left right =
      (left ×ˢ right).map fun p => (some p.1, some p.2) := by
  simp only [pairs, JoinKind.keepsLeft, JoinKind.keepsRight, Bool.and_false, Bool.false_eq_true,
    if_false, List.append_nil, List.filter_true]
  induction left with
  | nil => rfl
  | cons a rest ih =>
    rw [List.flatMap_cons, List.product_cons, List.map_append, ih, List.map_map]
    rfl

end Table

end SharedTables
