import Mathlib
import SharedTables.Predicate.Basic

/-!
# Operators and orders

The six operators are read off one comparison: two sides are equal, or one is less than the other,
and the operators say which of these is the case.

## Key results

- `followsOrder_accepts`: the operators that accept the outcome of a comparison follow an order
-/

namespace SharedTables

/-- The operators that hold are those of one order: the two sides are equal, or one is less than the
    other, and the other three operators say that one of two of these is the case. -/
structure FollowsOrder (holds : Operator → Prop) : Prop where
  one : ∃! op, (op = .eq ∨ op = .lt ∨ op = .gt) ∧ holds op
  ge_iff : holds .ge ↔ holds .gt ∨ holds .eq
  le_iff : holds .le ↔ holds .lt ∨ holds .eq
  ne_iff : holds .ne ↔ holds .lt ∨ holds .gt

/-- The operators that accept the outcome of a comparison follow an order. -/
theorem followsOrder_accepts (o : Ordering) : FollowsOrder fun op => op.accepts o = true where
  one := by
    cases o with
    | lt => exact ⟨.lt, by simp [Operator.accepts], by rintro _ ⟨rfl | rfl | rfl, h⟩ <;> trivial⟩
    | eq => exact ⟨.eq, by simp [Operator.accepts], by rintro _ ⟨rfl | rfl | rfl, h⟩ <;> trivial⟩
    | gt => exact ⟨.gt, by simp [Operator.accepts], by rintro _ ⟨rfl | rfl | rfl, h⟩ <;> trivial⟩
  ge_iff := by cases o <;> simp [Operator.accepts]
  le_iff := by cases o <;> simp [Operator.accepts]
  ne_iff := by cases o <;> simp [Operator.accepts]

end SharedTables
