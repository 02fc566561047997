import Mathlib.Algebra.Group.Nat.Defs
import Mathlib.Data.List.Basic

/-!
# Machine integers

Fixed-width counters and their byte encodings.  A checked increment returns
`none` where overflow-checked code panics, a saturating one stays at the
largest value.  The byte encodings are little-endian and take their width as a
parameter, so that one round-trip law serves every field of a binary header.
-/

namespace Foundation

abbrev u64Max : UInt64 := 18446744073709551615

abbrev u32Max : UInt32 := 4294967295

/-!
## Counters
-/

/-- `x += 1` compiled with overflow checks. -/
def checkedSucc (x : UInt64) : Option UInt64 :=
  if x = u64Max then none else some (x + 1)

/-- `x += 1` on a 32-bit counter compiled with overflow checks. -/
def checkedSucc32 (x : UInt32) : Option UInt32 :=
  if x = u32Max then none else some (x + 1)

/-- `x.saturating_add(1)`. -/
def saturatingSucc (x : UInt64) : UInt64 :=
  if x = u64Max then x else x + 1

theorem toNat_ne_max {x : UInt64} (h : x ≠ u64Max) :
    x.toNat ≠ 18446744073709551615 := by
  intro heq
  exact h (UInt64.toNat_inj.mp heq)

theorem toNat_succ {x : UInt64} (h : x ≠ u64Max) :
    (x + 1).toNat = x.toNat + 1 := by
  have hlt : x.toNat < 18446744073709551616 := x.toNat_lt
  have hne := toNat_ne_max h
  rw [UInt64.toNat_add]
  simp only [UInt64.reduceToNat]
  omega

theorem checkedSucc_eq_some {x y : UInt64} :
    checkedSucc x = some y <-> y.toNat = x.toNat + 1 := by
  unfold checkedSucc
  split
  case isTrue hmax =>
    constructor
    · intro h
      cases h
    · intro h
      have hy : y.toNat < 18446744073709551616 := y.toNat_lt
      have hx : x.toNat = 18446744073709551615 := by rw [hmax]; rfl
      omega
  case isFalse hne =>
    rw [← toNat_succ hne, UInt64.toNat_inj, Option.some_inj, eq_comm]

theorem checkedSucc32_eq_none {x : UInt32} :
    checkedSucc32 x = none <-> x.toNat + 1 = 2 ^ 32 := by
  unfold checkedSucc32
  split
  case isTrue hmax =>
    rw [hmax]
    exact iff_of_true rfl rfl
  case isFalse hne =>
    have htoNat : x.toNat ≠ 4294967295 := fun heq => hne (UInt32.toNat_inj.mp heq)
    constructor
    · intro h
      cases h
    · intro h
      omega

theorem checkedSucc32_toNat {x y : UInt32} (h : checkedSucc32 x = some y) :
    y.toNat = x.toNat + 1 := by
  unfold checkedSucc32 at h
  split at h
  · cases h
  · rename_i hne
    have hlt : x.toNat < 4294967296 := x.toNat_lt
    have htoNat : x.toNat ≠ 4294967295 := fun heq => hne (UInt32.toNat_inj.mp heq)
    rw [← Option.some_inj.mp h, UInt32.toNat_add]
    simp only [UInt32.reduceToNat]
    omega

theorem checkedSucc32_of_le {x y z : UInt32} (h : checkedSucc32 x = some y)
    (hle : z.toNat ≤ x.toNat) :
    exists w : UInt32, checkedSucc32 z = some w ∧ w.toNat ≤ y.toNat := by
  have hy := checkedSucc32_toNat h
  have hlt : y.toNat < 2 ^ 32 := y.toNat_lt
  cases hz : checkedSucc32 z with
  | none =>
      have hmax := checkedSucc32_eq_none.mp hz
      omega
  | some w =>
      have hw := checkedSucc32_toNat hz
      exact ⟨w, rfl, by omega⟩

theorem saturatingSucc_of_checkedSucc {x y : UInt64}
    (h : checkedSucc x = some y) : saturatingSucc x = y := by
  unfold checkedSucc at h
  unfold saturatingSucc
  split at h
  · cases h
  · rename_i hne
    rw [if_neg hne]
    exact Option.some_inj.mp h

theorem le_saturatingSucc (x : UInt64) : x ≤ saturatingSucc x := by
  unfold saturatingSucc
  split
  · exact UInt64.le_refl x
  · rename_i hne
    rw [UInt64.le_iff_toNat_le, toNat_succ hne]
    omega

theorem lt_saturatingSucc {x : UInt64} (h : x ≠ u64Max) :
    x < saturatingSucc x := by
  unfold saturatingSucc
  rw [if_neg h, UInt64.lt_iff_toNat_lt, toNat_succ h]
  omega

/-!
## Little-endian bytes
-/

/-- The low `width` bytes of `n`, least significant first. -/
def leBytes : Nat -> Nat -> List UInt8
  | 0, _ => []
  | width + 1, n => UInt8.ofNat n :: leBytes width (n / 256)

def leNat : List UInt8 -> Nat
  | [] => 0
  | byte :: rest => byte.toNat + 256 * leNat rest

@[simp] theorem leBytes_length (width n : Nat) :
    (leBytes width n).length = width := by
  induction width generalizing n with
  | zero => rfl
  | succ width ih => simp [leBytes, ih]

theorem leNat_leBytes (width n : Nat) :
    leNat (leBytes width n) = n % 256 ^ width := by
  induction width generalizing n with
  | zero => simp [leBytes, leNat, Nat.mod_one]
  | succ width ih =>
      have hbyte : (UInt8.ofNat n).toNat = n % 256 := by simp
      rw [leBytes, leNat, ih, hbyte, Nat.pow_succ']
      exact (Nat.mod_mul).symm

theorem leNat_leBytes_of_lt {width n : Nat} (h : n < 256 ^ width) :
    leNat (leBytes width n) = n := by
  rw [leNat_leBytes, Nat.mod_eq_of_lt h]

theorem leNat_lt (bytes : List UInt8) : leNat bytes < 256 ^ bytes.length := by
  induction bytes with
  | nil => exact Nat.one_pos
  | cons byte rest ih =>
      have hbyte : byte.toNat < 256 := byte.toNat_lt
      rw [leNat, List.length_cons, Nat.pow_succ]
      omega

theorem leBytes_leNat (bytes : List UInt8) : leBytes bytes.length (leNat bytes) = bytes := by
  induction bytes with
  | nil => rfl
  | cons byte rest ih =>
      have hbyte : byte.toNat < 256 := byte.toNat_lt
      have hlow : UInt8.ofNat (byte.toNat + 256 * leNat rest) = byte := by
        apply UInt8.toNat_inj.mp
        rw [UInt8.toNat_ofNat']
        omega
      have hhigh : (byte.toNat + 256 * leNat rest) / 256 = leNat rest := by omega
      rw [List.length_cons, leNat, leBytes, hlow, hhigh, ih]

theorem leBytes_inj {width m n : Nat} (hm : m < 256 ^ width) (hn : n < 256 ^ width)
    (h : leBytes width m = leBytes width n) : m = n := by
  rw [← leNat_leBytes_of_lt hm, h, leNat_leBytes_of_lt hn]

end Foundation
