import Mathlib.Data.Nat.Basic

/-! Arithmetic of 32-bit counters: sums and differences that abort or saturate at the bounds. -/

namespace Base

/-- A sum of counters, which aborts when it does not fit. -/
def checkedAdd (left right : UInt32) : Option UInt32 :=
  if left.toNat + right.toNat < UInt32.size then some (left + right) else none

/-- A difference of counters, which aborts below zero. -/
def checkedSub (left right : UInt32) : Option UInt32 :=
  if right ≤ left then some (left - right) else none

/-- A sum of counters that stops at the largest one. -/
def saturatingAdd (left right : UInt32) : UInt32 :=
  if left.toNat + right.toNat < UInt32.size then left + right else UInt32.ofNat (UInt32.size - 1)

/-- A difference of counters that stops at zero. -/
def saturatingSub (left right : UInt32) : UInt32 :=
  if right ≤ left then left - right else 0

/-- The smaller of two counters. -/
def smaller (left right : UInt32) : UInt32 := if left ≤ right then left else right

/-- A number as a counter, or the largest counter when it does not fit. -/
def saturatingCast (number : Nat) : UInt32 :=
  if number < UInt32.size then UInt32.ofNat number else UInt32.ofNat (UInt32.size - 1)

/-- A sum that fits is the exact one. -/
theorem checkedAdd_eq_some {left right : UInt32}
    (fits : left.toNat + right.toNat < UInt32.size) :
    ∃ sum, checkedAdd left right = some sum ∧ sum.toNat = left.toNat + right.toNat := by
  refine ⟨left + right, if_pos fits, ?_⟩
  rw [UInt32.toNat_add]
  exact Nat.mod_eq_of_lt fits

/-- A difference that is not negative is the exact one. -/
theorem checkedSub_eq_some {left right : UInt32} (fits : right.toNat ≤ left.toNat) :
    ∃ difference, checkedSub left right = some difference ∧
      difference.toNat = left.toNat - right.toNat := by
  have below : right ≤ left := UInt32.le_iff_toNat_le.mpr fits
  exact ⟨left - right, if_pos below, UInt32.toNat_sub_of_le _ _ below⟩

/-- A saturating sum is the exact one, stopped at the bound. -/
@[simp] theorem toNat_saturatingAdd (left right : UInt32) :
    (saturatingAdd left right).toNat = min (left.toNat + right.toNat) (UInt32.size - 1) := by
  -- The sum fits, or it is stopped at the bound.
  unfold saturatingAdd
  split
  next fits =>
    rw [UInt32.toNat_add, Nat.mod_eq_of_lt fits]
    omega
  next past =>
    have bound : (UInt32.ofNat (UInt32.size - 1)).toNat = UInt32.size - 1 := by decide
    rw [bound]
    omega

/-- A saturating difference is the truncated one. -/
@[simp] theorem toNat_saturatingSub (left right : UInt32) :
    (saturatingSub left right).toNat = left.toNat - right.toNat := by
  -- The difference is exact, or it is stopped at zero.
  unfold saturatingSub
  split
  next below => exact UInt32.toNat_sub_of_le _ _ below
  next past =>
    rw [UInt32.le_iff_toNat_le] at past
    show 0 = _
    omega

/-- The smaller counter counts the smaller number. -/
@[simp] theorem toNat_smaller (left right : UInt32) :
    (smaller left right).toNat = min left.toNat right.toNat := by
  unfold smaller
  split
  next below =>
    rw [UInt32.le_iff_toNat_le] at below
    omega
  next past =>
    rw [UInt32.le_iff_toNat_le] at past
    omega

/-- A cast stops at the bound. -/
@[simp] theorem toNat_saturatingCast (number : Nat) :
    (saturatingCast number).toNat = min number (UInt32.size - 1) := by
  -- The number fits, or it is stopped at the bound.
  unfold saturatingCast
  split
  next fits =>
    rw [UInt32.toNat_ofNat_of_lt' fits]
    omega
  next past =>
    have bound : (UInt32.ofNat (UInt32.size - 1)).toNat = UInt32.size - 1 := by decide
    rw [bound]
    omega

end Base
