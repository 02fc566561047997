import Mathlib.Algebra.Group.Int.Defs
import Mathlib.Algebra.Group.Nat.Defs
import Mathlib.Data.List.Basic

/-!
# Checked arithmetic

Arithmetic on 32-bit integers compiled with overflow checks: `none` stands for the
panic.  An operation gives the exact result where the type can hold it and
nothing elsewhere, so every fact is stated on the integers that the operands
stand for.
-/

namespace Foundation

/-!
## Unsigned
-/

/-- `x + y` on `u32`. -/
def checkedAdd32 (x y : UInt32) : Option UInt32 :=
  if x.toNat + y.toNat < 2 ^ 32 then some (x + y) else none

/-- `x - y` on `u32`. -/
def checkedSub32 (x y : UInt32) : Option UInt32 :=
  if y.toNat ≤ x.toNat then some (x - y) else none

/-- `x % y` on `u32`. -/
def checkedRem32 (x y : UInt32) : Option UInt32 :=
  if y = 0 then none else some (x % y)

theorem checkedAdd32_exact {x y : UInt32} (h : x.toNat + y.toNat < 2 ^ 32) :
    exists z : UInt32, checkedAdd32 x y = some z ∧ z.toNat = x.toNat + y.toNat := by
  refine ⟨x + y, if_pos h, ?_⟩
  rw [UInt32.toNat_add, Nat.mod_eq_of_lt h]

theorem checkedSub32_exact {x y : UInt32} (h : y.toNat ≤ x.toNat) :
    exists z : UInt32, checkedSub32 x y = some z ∧ z.toNat = x.toNat - y.toNat := by
  refine ⟨x - y, if_pos h, ?_⟩
  exact UInt32.toNat_sub_of_le x y (UInt32.le_iff_toNat_le.mpr h)

theorem checkedRem32_exact {x y : UInt32} (h : 0 < y.toNat) :
    exists z : UInt32, checkedRem32 x y = some z ∧ z.toNat = x.toNat % y.toNat := by
  have hne : y ≠ 0 := by
    intro hzero
    rw [hzero] at h
    exact absurd h (Nat.lt_irrefl 0)
  exact ⟨x % y, if_neg hne, UInt32.toNat_mod x y⟩

/-- `x - y` on `u64`. -/
def checkedSub64 (x y : UInt64) : Option UInt64 :=
  if y.toNat ≤ x.toNat then some (x - y) else none

theorem checkedSub64_exact {x y : UInt64} (h : y.toNat ≤ x.toNat) :
    exists z : UInt64, checkedSub64 x y = some z ∧ z.toNat = x.toNat - y.toNat := by
  refine ⟨x - y, if_pos h, ?_⟩
  exact UInt64.toNat_sub_of_le x y (UInt64.le_iff_toNat_le.mpr h)

/-!
## Signed
-/

/-- A value of `i32`. -/
def FitsI32 (n : Int) : Prop :=
  -2 ^ 31 ≤ n ∧ n < 2 ^ 31

instance (n : Int) : Decidable (FitsI32 n) := by
  unfold FitsI32
  infer_instance

/-- `x + y` on `i32`. -/
def checkedAddI32 (x y : Int32) : Option Int32 :=
  if FitsI32 (x.toInt + y.toInt) then some (x + y) else none

/-- `x - y` on `i32`. -/
def checkedSubI32 (x y : Int32) : Option Int32 :=
  if FitsI32 (x.toInt - y.toInt) then some (x - y) else none

theorem FitsI32.bmod {n : Int} (h : FitsI32 n) : n.bmod (2 ^ 32) = n := by
  unfold FitsI32 at h
  exact Int.bmod_eq_of_le (by omega) (by omega)

theorem checkedAddI32_exact {x y : Int32} (h : FitsI32 (x.toInt + y.toInt)) :
    exists z : Int32, checkedAddI32 x y = some z ∧ z.toInt = x.toInt + y.toInt := by
  refine ⟨x + y, if_pos h, ?_⟩
  rw [Int32.toInt_add, h.bmod]

theorem checkedSubI32_exact {x y : Int32} (h : FitsI32 (x.toInt - y.toInt)) :
    exists z : Int32, checkedSubI32 x y = some z ∧ z.toInt = x.toInt - y.toInt := by
  refine ⟨x - y, if_pos h, ?_⟩
  rw [Int32.toInt_sub, h.bmod]

/-- `x * y` on `i32`. -/
def checkedMulI32 (x y : Int32) : Option Int32 :=
  if FitsI32 (x.toInt * y.toInt) then some (x * y) else none

theorem checkedMulI32_exact {x y : Int32} (h : FitsI32 (x.toInt * y.toInt)) :
    exists z : Int32, checkedMulI32 x y = some z ∧ z.toInt = x.toInt * y.toInt := by
  refine ⟨x * y, if_pos h, ?_⟩
  rw [Int32.toInt_mul, h.bmod]

theorem checkedAddI32_eq_some {x y z : Int32} :
    checkedAddI32 x y = some z <-> z.toInt = x.toInt + y.toInt := by
  constructor
  · intro h
    unfold checkedAddI32 at h
    split at h
    · rename_i hfits
      cases h
      rw [Int32.toInt_add, hfits.bmod]
    · cases h
  · intro h
    have hfits : FitsI32 (x.toInt + y.toInt) := by
      rw [← h]
      exact ⟨Int32.le_toInt z, Int32.toInt_lt z⟩
    rcases checkedAddI32_exact hfits with ⟨sum, hsum, hexact⟩
    rw [hsum, Int32.toInt_inj.mp (hexact.trans h.symm)]

theorem checkedSubI32_overflow {x y : Int32} (h : 2 ^ 31 ≤ x.toInt - y.toInt) :
    checkedSubI32 x y = none := by
  have hno : ¬ FitsI32 (x.toInt - y.toInt) := by
    unfold FitsI32
    omega
  exact if_neg hno

/-!
## Casts
-/

theorem toNat_toUInt32_of_nonneg {x : Int32} (h : 0 ≤ x.toInt) :
    (x.toUInt32.toNat : Int) = x.toInt := by
  have hle : 0 ≤ x := Int32.le_iff_toInt_le.mpr h
  rw [Int32.toNat_toUInt32_of_le hle, Int32.toNatClampNeg, Int.toNat_of_nonneg h]

theorem toInt_toInt32_of_lt {x : UInt32} (h : x.toNat < 2 ^ 31) :
    x.toInt32.toInt = (x.toNat : Int) := by
  have hsame : x.toInt32.toBitVec.toNat = x.toNat := rfl
  have hlt : 2 * x.toInt32.toBitVec.toNat < 2 ^ 32 := by omega
  exact BitVec.toInt_eq_toNat_of_lt hlt

end Foundation
