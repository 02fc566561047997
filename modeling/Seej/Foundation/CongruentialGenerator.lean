import Mathlib.Algebra.BigOperators.Intervals
import Mathlib.Algebra.Ring.GeomSum
import Mathlib.Data.Finset.Card
import Mathlib.Data.Nat.GCD.Basic
import Mathlib.Data.Nat.Prime.Basic
import Mathlib.Tactic.Ring

/-!
# Congruential generators

A generator whose states are the numbers below a modulus and whose step is an
affine map.  Every `n` steps together are affine as well, with a geometric sum
for the offset.  Modulo a power of two the divisors of that sum are known, and
they say after how many steps a state comes back.
-/

namespace Foundation

open Finset

/-!
## Iterates of an affine map
-/

section Affine

variable {α : Type} [CommSemiring α]

def affine (a c x : α) : α := a * x + c

/-- What `n` steps add to a state, in units of what one step adds. -/
def geometricSum (a : α) (n : Nat) : α :=
  ∑ i ∈ range n, a ^ i

theorem geometricSum_succ (a : α) (n : Nat) :
    geometricSum a (n + 1) = geometricSum a n + a ^ n :=
  sum_range_succ (fun i => a ^ i) n

theorem geometricSum_add (a : α) (m n : Nat) :
    geometricSum a (m + n) = geometricSum a m + a ^ m * geometricSum a n := by
  unfold geometricSum
  rw [sum_range_add, mul_sum]
  simp only [pow_add]

theorem geometricSum_double (a : α) (m : Nat) :
    geometricSum a (m + m) = geometricSum a m * (a ^ m + 1) := by
  rw [geometricSum_add]
  ring

theorem iterate_affine (b c x : α) (n : Nat) :
    (affine (b + 1) c)^[n] x = x + geometricSum (b + 1) n * (b * x + c) := by
  induction n with
  | zero => simp [geometricSum]
  | succ n ih =>
      have hpow : geometricSum (b + 1) n * b + 1 = (b + 1) ^ n := geom_sum_mul_add b n
      rw [Function.iterate_succ_apply', ih, geometricSum_succ, ← hpow]
      unfold affine
      ring

end Affine

/-!
## Powers of two in a geometric sum

For a base that is one modulo four, the sum has the same powers of two as the
number of its terms: an odd number of terms gives an odd sum, and doubling the
number multiplies the sum by twice an odd number.
-/

section PowersOfTwo

variable {a : Nat}

theorem pow_mod_four (ha : a % 4 = 1) (n : Nat) : a ^ n % 4 = 1 := by
  rw [Nat.pow_mod, ha, one_pow, Nat.one_mod]

theorem geometricSum_odd (ha : a % 4 = 1) (m : Nat) :
    geometricSum a (m + m + 1) % 2 = 1 := by
  have hpow : a ^ (m + m) % 4 = 1 := pow_mod_four ha (m + m)
  have hone : a ^ m % 4 = 1 := pow_mod_four ha m
  have heven : geometricSum a m * (a ^ m + 1) % 2 = 0 := by
    rw [Nat.mul_mod, show (a ^ m + 1) % 2 = 0 by omega, mul_zero, Nat.zero_mod]
  rw [geometricSum_succ, geometricSum_double]
  omega

theorem two_pow_dvd_geometricSum (ha : a % 4 = 1) (w n : Nat) :
    2 ^ w ∣ geometricSum a n <-> 2 ^ w ∣ n := by
  induction w generalizing n with
  | zero => simp
  | succ w ih =>
      rcases Nat.even_or_odd' n with ⟨m, hn | hn⟩
      · -- an even number of terms: one factor of two on both sides
        have hpow : a ^ m % 4 = 1 := pow_mod_four ha m
        have hodd : Nat.Coprime (2 ^ w) ((a ^ m + 1) / 2) := by
          apply Nat.Coprime.pow_left
          rw [Nat.coprime_two_left, Nat.odd_iff]
          omega
        have htwice : a ^ m + 1 = 2 * ((a ^ m + 1) / 2) := by omega
        rw [hn, show 2 * m = m + m by omega, geometricSum_double, htwice, ← two_mul, pow_succ,
          mul_comm (2 ^ w) 2, mul_left_comm, Nat.mul_dvd_mul_iff_left two_pos,
          Nat.mul_dvd_mul_iff_left two_pos, hodd.dvd_mul_right, ih m]
      · -- an odd number of terms: two divides neither side
        have hsum : geometricSum a n % 2 = 1 := by
          rw [hn, two_mul]
          exact geometricSum_odd ha m
        constructor
        · intro h
          have htwo : 2 ∣ geometricSum a n := dvd_trans (dvd_pow_self 2 (Nat.succ_ne_zero w)) h
          omega
        · intro h
          have htwo : 2 ∣ n := dvd_trans (dvd_pow_self 2 (Nat.succ_ne_zero w)) h
          omega

end PowersOfTwo

/-!
## The generator

The states that a generator with an odd increment and a multiplier that is one
modulo four visits: all of them, and each after a full period again.
-/

section Generator

/-- One step of the generator modulo `m`. -/
def congruentialStep (m a c x : Nat) : Nat :=
  affine a c x % m

theorem congruentialStep_lt {m a c x : Nat} (hm : 0 < m) : congruentialStep m a c x < m :=
  Nat.mod_lt (affine a c x) hm

theorem iterate_congruentialStep_lt {m a c x : Nat} (hx : x < m) (n : Nat) :
    (congruentialStep m a c)^[n] x < m := by
  induction n with
  | zero => exact hx
  | succ n ih =>
      rw [Function.iterate_succ_apply']
      exact congruentialStep_lt (by omega)

theorem iterate_congruentialStep {m a c x : Nat} (hx : x < m) (n : Nat) :
    (congruentialStep m a c)^[n] x = (affine a c)^[n] x % m := by
  induction n with
  | zero => exact (Nat.mod_eq_of_lt hx).symm
  | succ n ih =>
      rw [Function.iterate_succ_apply', Function.iterate_succ_apply', ih]
      unfold congruentialStep affine
      rw [Nat.add_mod, Nat.mul_mod_mod, ← Nat.add_mod]

variable {w a c : Nat}

/-- A state comes back after the multiples of the modulus. -/
theorem iterate_congruentialStep_eq_self (ha : a % 4 = 1) (hc : c % 2 = 1) {x : Nat}
    (hx : x < 2 ^ w) (n : Nat) :
    (congruentialStep (2 ^ w) a c)^[n] x = x <-> 2 ^ w ∣ n := by
  have hb : a = (a - 1) + 1 := by omega
  have hoffset : Nat.Coprime (2 ^ w) ((a - 1) * x + c) := by
    apply Nat.Coprime.pow_left
    have heven : (a - 1) * x % 2 = 0 := by
      rw [Nat.mul_mod, show (a - 1) % 2 = 0 by omega, zero_mul, Nat.zero_mod]
    rw [Nat.coprime_two_left, Nat.odd_iff]
    omega
  have hsteps : (affine a c)^[n] x = x + geometricSum a n * ((a - 1) * x + c) := by
    conv_lhs => rw [hb]
    rw [iterate_affine, ← hb]
  rw [iterate_congruentialStep hx, hsteps, ← two_pow_dvd_geometricSum ha w n,
    ← hoffset.dvd_mul_right]
  constructor
  · intro h
    have hdivision := Nat.div_add_mod (x + geometricSum a n * ((a - 1) * x + c)) (2 ^ w)
    rw [h] at hdivision
    exact Dvd.intro ((x + geometricSum a n * ((a - 1) * x + c)) / 2 ^ w) (by omega)
  · intro h
    rw [Nat.add_mod, Nat.mod_eq_zero_of_dvd h, add_zero, Nat.mod_mod, Nat.mod_eq_of_lt hx]

theorem iterate_congruentialStep_ne (ha : a % 4 = 1) (hc : c % 2 = 1) {x : Nat}
    (hx : x < 2 ^ w) {i j : Nat} (hij : i < j) (hj : j < 2 ^ w) :
    (congruentialStep (2 ^ w) a c)^[i] x ≠ (congruentialStep (2 ^ w) a c)^[j] x := by
  intro heq
  have hstate : (congruentialStep (2 ^ w) a c)^[i] x < 2 ^ w := iterate_congruentialStep_lt hx i
  have hback : (congruentialStep (2 ^ w) a c)^[j - i]
      ((congruentialStep (2 ^ w) a c)^[i] x) = (congruentialStep (2 ^ w) a c)^[i] x := by
    rw [← Function.iterate_add_apply, show j - i + i = j by omega, heq]
  have hdvd : 2 ^ w ∣ j - i :=
    (iterate_congruentialStep_eq_self ha hc hstate (j - i)).mp hback
  have hle : 2 ^ w ≤ j - i := Nat.le_of_dvd (by omega) hdvd
  omega

/-- Within a period every state is met. -/
theorem exists_iterate_congruentialStep (ha : a % 4 = 1) (hc : c % 2 = 1) {x y : Nat}
    (hx : x < 2 ^ w) (hy : y < 2 ^ w) :
    exists n : Nat, n < 2 ^ w ∧ (congruentialStep (2 ^ w) a c)^[n] x = y := by
  have hmaps : Set.MapsTo (fun n => (congruentialStep (2 ^ w) a c)^[n] x)
      (range (2 ^ w)) (range (2 ^ w)) := by
    intro n _
    exact mem_coe.mpr (mem_range.mpr (iterate_congruentialStep_lt hx n))
  have hinj : Set.InjOn (fun n => (congruentialStep (2 ^ w) a c)^[n] x) (range (2 ^ w)) := by
    intro i hi j hj heq
    have hi' : i < 2 ^ w := mem_range.mp (mem_coe.mp hi)
    have hj' : j < 2 ^ w := mem_range.mp (mem_coe.mp hj)
    rcases lt_trichotomy i j with hlt | hsame | hgt
    · exact absurd heq (iterate_congruentialStep_ne ha hc hx hlt hj')
    · exact hsame
    · exact absurd heq.symm (iterate_congruentialStep_ne ha hc hx hgt hi')
  rcases surjOn_of_injOn_of_card_le _ hmaps hinj (le_refl _)
    (mem_coe.mpr (mem_range.mpr hy)) with ⟨n, hn, hvalue⟩
  exact ⟨n, mem_range.mp (mem_coe.mp hn), hvalue⟩

end Generator

end Foundation
