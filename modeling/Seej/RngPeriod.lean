import Seej.Foundation.CongruentialGenerator
import Seej.Rng

/-!
# The period of the generator

The state of the PCG32 generator is a congruential generator modulo `2 ^ 64`.
Its multiplier is one modulo four and the increment of every seed is odd, so it
walks through all states whatever the seed is.
-/

namespace Seej

open Foundation

namespace Pcg32Rng

theorem multiplier_mod_four : multiplier.toNat % 4 = 1 := by
  decide

theorem incrementFromSeed_odd (seed : RngSeed) : (incrementFromSeed seed).toNat % 2 = 1 := by
  unfold incrementFromSeed
  rw [UInt64.toNat_or, ← Nat.and_one_is_mod, Nat.and_or_distrib_right]
  rcases Nat.mod_two_eq_zero_or_one (seed.val <<< 1).toNat with h | h
  · rw [Nat.and_one_is_mod, h]
    rfl
  · rw [Nat.and_one_is_mod, h]
    rfl

theorem advance_mk (seed : RngSeed) (state increment : UInt64) :
    advance ⟨seed, state, increment⟩ = ⟨seed, state * multiplier + increment, increment⟩ := by
  exact Eq.refl _

theorem iterate_advance (seed : RngSeed) (state increment : UInt64) (n : Nat) :
    exists next : UInt64,
      advance^[n] ⟨seed, state, increment⟩ = ⟨seed, next, increment⟩ ∧
        next.toNat =
          (congruentialStep (2 ^ 64) multiplier.toNat increment.toNat)^[n] state.toNat := by
  induction n with
  | zero => exact ⟨state, rfl, rfl⟩
  | succ n ih =>
      rcases ih with ⟨next, hadvance, hnext⟩
      refine ⟨next * multiplier + increment, ?_, ?_⟩
      · rw [Function.iterate_succ_apply', hadvance, advance_mk]
      · rw [Function.iterate_succ_apply', ← hnext, UInt64.toNat_add, UInt64.toNat_mul]
        unfold congruentialStep affine
        rw [Nat.mod_add_mod, Nat.mul_comm]

theorem iterate_advance_state (seed : RngSeed) (state increment : UInt64) (n : Nat) :
    (advance^[n] ⟨seed, state, increment⟩).state.toNat =
      (congruentialStep (2 ^ 64) multiplier.toNat increment.toNat)^[n] state.toNat := by
  rcases iterate_advance seed state increment n with ⟨next, hadvance, hnext⟩
  rw [hadvance, hnext]

/-- Whole multiples of the period bring the generator back, nothing else does. -/
theorem iterate_advance_eq_self (seed : RngSeed) (state : UInt64) (n : Nat) :
    advance^[n] ⟨seed, state, incrementFromSeed seed⟩ = ⟨seed, state, incrementFromSeed seed⟩ <->
      2 ^ 64 ∣ n := by
  have hperiod := iterate_congruentialStep_eq_self multiplier_mod_four
    (incrementFromSeed_odd seed) (UInt64.toNat_lt state) n
  rcases iterate_advance seed state (incrementFromSeed seed) n with ⟨next, hadvance, hnext⟩
  rw [hadvance, ← hperiod, ← hnext, Pcg32Rng.mk.injEq, UInt64.toNat_inj]
  simp only [true_and, and_true]

theorem exists_iterate_advance (seed : RngSeed) (state target : UInt64) :
    exists n : Nat, n < 2 ^ 64 ∧
      (advance^[n] ⟨seed, state, incrementFromSeed seed⟩).state = target := by
  rcases exists_iterate_congruentialStep multiplier_mod_four (incrementFromSeed_odd seed)
    (UInt64.toNat_lt state) (UInt64.toNat_lt target) with ⟨n, hn, hvalue⟩
  refine ⟨n, hn, ?_⟩
  rw [← UInt64.toNat_inj, iterate_advance_state, hvalue]

/-- The period of the generator is `2 ^ 64`, whatever its seed and state are. -/
theorem advance_full_period (seed : RngSeed) (state : UInt64) :
    (forall target : UInt64, exists n : Nat, n < 2 ^ 64 ∧
      (advance^[n] ⟨seed, state, incrementFromSeed seed⟩).state = target) ∧
    advance^[2 ^ 64] ⟨seed, state, incrementFromSeed seed⟩ =
      ⟨seed, state, incrementFromSeed seed⟩ ∧
    forall n : Nat, 0 < n -> n < 2 ^ 64 ->
      (advance^[n] ⟨seed, state, incrementFromSeed seed⟩).state ≠ state := by
  refine ⟨exists_iterate_advance seed state,
    (iterate_advance_eq_self seed state (2 ^ 64)).mpr (dvd_refl _), ?_⟩
  intro n hpos hlt hstate
  have hback : 2 ^ 64 ∣ n := by
    rw [← iterate_advance_eq_self seed state n]
    rcases iterate_advance seed state (incrementFromSeed seed) n with ⟨next, hadvance, _⟩
    rw [hadvance] at hstate ⊢
    rw [← hstate]
  have hle : 2 ^ 64 ≤ n := Nat.le_of_dvd hpos hback
  omega

end Pcg32Rng

end Seej
