import Seej.Rng

/-!
# Ranged draws

The two default methods that draw a number from a range.  Both compute the number
of values in the range in the type of the bounds, where the number of values of a
wide range does not fit; on every other range they draw each of its values.
-/

namespace Seej

open Foundation

/-- A draw never panics, stays between the bounds, and can give every value between
them, whatever generator it draws from. -/
structure DrawsRange {V : Type} [LE V]
    (draw : forall {R : Type} [IRng R], R -> Option (V × R)) (min max : V) : Prop where
  inRange : forall {R : Type} [IRng R] (rng : R),
    exists (v : V) (rng' : R), draw rng = some (v, rng') ∧ min ≤ v ∧ v ≤ max
  reaches : forall v : V, min ≤ v -> v ≤ max -> exists output : UInt32,
    forall {R : Type} [IRng R] (rng : R), (IRng.nextU32 rng).1 = output ->
      exists rng' : R, draw rng = some (v, rng')

namespace DrawsRange

variable {V : Type} [LE V] {draw : forall {R : Type} [IRng R], R -> Option (V × R)}
  {min max : V}

theorem of_self (hanti : forall v : V, min ≤ v -> v ≤ min -> v = min) (hrefl : min ≤ min)
    (hdraw : forall {R : Type} [IRng R] (rng : R), draw rng = some (min, rng)) :
    DrawsRange draw min min := by
  constructor
  · intro R _ rng
    exact ⟨min, rng, hdraw rng, hrefl, hrefl⟩
  · intro v hmin hmax
    refine ⟨0, fun {R} _ rng _ => ⟨rng, ?_⟩⟩
    rw [hanti v hmin hmax]
    exact hdraw rng

/-- A draw that adds an output, reduced by the number of values, to the lower bound.
`value` is the number that a value of the type stands for. -/
theorem of_modulo (value : V -> Int) (hle : forall a b : V, a ≤ b <-> value a ≤ value b)
    (hinj : forall a b : V, value a = value b -> a = b) (hlt : value min < value max)
    (hwidth : value max - value min < 2 ^ 32)
    (hdraw : forall {R : Type} [IRng R] (rng : R), exists v : V,
      draw rng = some (v, (IRng.nextU32 rng).2) ∧
        value v = value min +
          ((IRng.nextU32 rng).1.toNat : Int) % (value max - value min + 1)) :
    DrawsRange draw min max := by
  constructor
  · intro R _ rng
    rcases hdraw rng with ⟨v, heq, hv⟩
    have hnonneg := Int.emod_nonneg ((IRng.nextU32 rng).1.toNat : Int)
      (b := value max - value min + 1) (by omega)
    have hbound := Int.emod_lt_of_pos ((IRng.nextU32 rng).1.toNat : Int)
      (b := value max - value min + 1) (by omega)
    refine ⟨v, (IRng.nextU32 rng).2, heq, (hle min v).mpr ?_, (hle v max).mpr ?_⟩
    · omega
    · omega
  · -- the distance of `v` from the lower bound is an output that gives `v`
    intro v hmin hmax
    have hmin' : value min ≤ value v := (hle min v).mp hmin
    have hmax' : value v ≤ value max := (hle v max).mp hmax
    have hsize : (value v - value min).toNat < 2 ^ 32 := by omega
    refine ⟨UInt32.ofNat (value v - value min).toNat, ?_⟩
    intro R _ rng houtput
    rcases hdraw rng with ⟨drawn, heq, hvalue⟩
    have hdrawn : drawn = v := by
      apply hinj
      rw [hvalue, houtput, UInt32.toNat_ofNat_of_lt' hsize, Int.toNat_of_nonneg (by omega),
        Int.emod_eq_of_lt (by omega) (by omega)]
      omega
    exact ⟨(IRng.nextU32 rng).2, by rw [heq, hdrawn]⟩

end DrawsRange

namespace IRng

variable {R : Type} [IRng R]

/-!
## Signed bounds
-/

theorem rangeI32_eq {min max : Int32} (hlt : min < max)
    (hwidth : max.toInt - min.toInt < 2 ^ 31) (rng : R) :
    exists v : Int32, rangeI32 rng min max = some (v, (nextU32 rng).2) ∧
      v.toInt = min.toInt +
        ((nextU32 rng).1.toNat : Int) % (max.toInt - min.toInt + 1) := by
  have hlt' : min.toInt < max.toInt := Int32.lt_iff_toInt_lt.mp hlt
  have hmin : -2 ^ 31 ≤ min.toInt := Int32.le_toInt min
  have hmax : max.toInt < 2 ^ 31 := Int32.toInt_lt max
  rcases checkedSubI32_exact (x := max) (y := min) ⟨by omega, by omega⟩ with ⟨width, hsub, hw⟩
  have hcast : (width.toUInt32.toNat : Int) = width.toInt :=
    toNat_toUInt32_of_nonneg (by omega)
  have hone : (1 : UInt32).toNat = 1 := rfl
  rcases checkedAdd32_exact (x := width.toUInt32) (y := 1) (by omega) with ⟨range, hadd, hrange⟩
  rcases checkedRem32_exact (x := (nextU32 rng).1) (y := range) (by omega) with ⟨val, hrem, hval⟩
  have hbound : val.toNat < range.toNat := by
    rw [hval]
    exact Nat.mod_lt _ (by omega)
  have hval' : (val.toInt32).toInt = (val.toNat : Int) := toInt_toInt32_of_lt (by omega)
  rcases checkedAddI32_exact (x := min) (y := val.toInt32) ⟨by omega, by omega⟩ with
    ⟨result, hresult, hvalue⟩
  refine ⟨result, ?_, ?_⟩
  · unfold rangeI32
    rw [if_neg (by simpa using hlt)]
    simp only [hsub, hadd, hrem, hresult, bind, Option.bind, pure]
  · have hrange' : (range.toNat : Int) = max.toInt - min.toInt + 1 := by omega
    rw [hvalue, hval', hval, Int.natCast_emod, hrange']

theorem rangeI32_overflow {min max : Int32} (hwidth : 2 ^ 31 ≤ max.toInt - min.toInt)
    (rng : R) : rangeI32 rng min max = none := by
  have hlt : min < max := Int32.lt_iff_toInt_lt.mpr (by omega)
  unfold rangeI32
  rw [if_neg (by simpa using hlt), checkedSubI32_overflow hwidth]
  rfl

theorem rangeI32_self (rng : R) (bound : Int32) : rangeI32 rng bound bound = some (bound, rng) :=
  if_pos (Int32.le_refl bound)

theorem drawsRange_rangeI32 {min max : Int32} (h : min ≤ max) :
    DrawsRange (fun {R} [IRng R] (rng : R) => rangeI32 rng min max) min max <->
      max.toInt - min.toInt < 2 ^ 31 := by
  constructor
  · intro hdraws
    by_contra hwide
    rcases hdraws.inRange Pcg32Rng.uninitialized with ⟨v, rng', hdraw, _⟩
    rw [rangeI32_overflow (by omega)] at hdraw
    cases hdraw
  · intro hwidth
    have hle : min.toInt ≤ max.toInt := Int32.le_iff_toInt_le.mp h
    by_cases hsame : min = max
    · subst hsame
      exact DrawsRange.of_self (fun v hmin hmax => Int32.le_antisymm hmax hmin) h
        (fun rng => rangeI32_self rng min)
    · have hne : min.toInt ≠ max.toInt := fun heq => hsame (Int32.toInt_inj.mp heq)
      have hlt : min < max := Int32.lt_iff_toInt_lt.mpr (by omega)
      exact DrawsRange.of_modulo Int32.toInt (fun a b => Int32.le_iff_toInt_le)
        (fun a b heq => Int32.toInt_inj.mp heq) (by omega) (by omega)
        (fun rng => rangeI32_eq hlt hwidth rng)

/-!
## Unsigned bounds
-/

theorem rangeU32_eq {min max : UInt32} (hlt : min < max)
    (hwidth : max.toNat - min.toNat + 1 < 2 ^ 32) (rng : R) :
    exists v : UInt32, rangeU32 rng min max = some (v, (nextU32 rng).2) ∧
      v.toNat = min.toNat + (nextU32 rng).1.toNat % (max.toNat - min.toNat + 1) := by
  have hlt' : min.toNat < max.toNat := UInt32.lt_iff_toNat_lt.mp hlt
  have hmax : max.toNat < 2 ^ 32 := max.toNat_lt
  rcases checkedSub32_exact (x := max) (y := min) (by omega) with ⟨width, hsub, hw⟩
  have hone : (1 : UInt32).toNat = 1 := rfl
  rcases checkedAdd32_exact (x := width) (y := 1) (by omega) with ⟨range, hadd, hrange⟩
  rcases checkedRem32_exact (x := (nextU32 rng).1) (y := range) (by omega) with ⟨val, hrem, hval⟩
  have hbound : val.toNat < range.toNat := by
    rw [hval]
    exact Nat.mod_lt _ (by omega)
  rcases checkedAdd32_exact (x := min) (y := val) (by omega) with ⟨result, hresult, hvalue⟩
  refine ⟨result, ?_, ?_⟩
  · unfold rangeU32
    rw [if_neg (by simpa using hlt)]
    simp only [hsub, hadd, hrem, hresult, bind, Option.bind, pure]
  · rw [hvalue, hval, hrange, hw, hone]

theorem rangeU32_overflow {min max : UInt32} (hmin : min = 0) (hmax : max = u32Max) (rng : R) :
    rangeU32 rng min max = none := by
  subst hmin
  subst hmax
  rfl

theorem rangeU32_self (rng : R) (bound : UInt32) :
    rangeU32 rng bound bound = some (bound, rng) :=
  if_pos (UInt32.le_refl bound)

theorem drawsRange_rangeU32 {min max : UInt32} (h : min ≤ max) :
    DrawsRange (fun {R} [IRng R] (rng : R) => rangeU32 rng min max) min max <->
      ¬ (min = 0 ∧ max = u32Max) := by
  constructor
  · rintro hdraws ⟨hzero, hfull⟩
    rcases hdraws.inRange Pcg32Rng.uninitialized with ⟨v, rng', hdraw, _⟩
    rw [rangeU32_overflow hzero hfull] at hdraw
    cases hdraw
  · intro hpart
    have hle : min.toNat ≤ max.toNat := UInt32.le_iff_toNat_le.mp h
    have hwidth : max.toNat - min.toNat + 1 < 2 ^ 32 := by
      have hmax : max.toNat < 2 ^ 32 := max.toNat_lt
      by_contra hwide
      apply hpart
      constructor
      · exact UInt32.toNat_inj.mp (show min.toNat = 0 by omega)
      · exact UInt32.toNat_inj.mp (show max.toNat = 4294967295 by omega)
    by_cases hsame : min = max
    · subst hsame
      exact DrawsRange.of_self (fun v hmin hmax => UInt32.le_antisymm hmax hmin) h
        (fun rng => rangeU32_self rng min)
    · have hne : min.toNat ≠ max.toNat := fun heq => hsame (UInt32.toNat_inj.mp heq)
      have hlt : min < max := UInt32.lt_iff_toNat_lt.mpr (by omega)
      refine DrawsRange.of_modulo (fun v => (v.toNat : Int))
        (fun a b => UInt32.le_iff_toNat_le.trans Int.ofNat_le.symm)
        (fun a b heq => UInt32.toNat_inj.mp (Int.ofNat_inj.mp heq)) (by omega) (by omega) ?_
      intro R _ rng
      rcases rangeU32_eq hlt hwidth rng with ⟨v, hdraw, hv⟩
      have hcast : ((max.toNat - min.toNat + 1 : Nat) : Int) =
          (max.toNat : Int) - (min.toNat : Int) + 1 := by omega
      refine ⟨v, hdraw, ?_⟩
      rw [hv, Int.natCast_add, Int.natCast_emod, hcast]

/-!
## Both methods
-/

/-- The two methods keep their promise on exactly the ranges whose width fits. -/
theorem range_draws_iff {min max : Int32} {lo hi : UInt32} (hsigned : min ≤ max)
    (hunsigned : lo ≤ hi) :
    (DrawsRange (fun {R} [IRng R] (rng : R) => rangeI32 rng min max) min max <->
      max.toInt - min.toInt < 2 ^ 31) ∧
    (DrawsRange (fun {R} [IRng R] (rng : R) => rangeU32 rng lo hi) lo hi <->
      ¬ (lo = 0 ∧ hi = u32Max)) :=
  ⟨drawsRange_rangeI32 hsigned, drawsRange_rangeU32 hunsigned⟩

theorem range_draws_small :
    DrawsRange (fun {R} [IRng R] (rng : R) => rangeI32 rng (-10) 10) (-10) 10 ∧
    DrawsRange (fun {R} [IRng R] (rng : R) => rangeU32 rng 1 6) 1 6 := by
  have hsigned : (-10 : Int32) ≤ 10 := by decide
  have hunsigned : (1 : UInt32) ≤ 6 := by decide
  have h := range_draws_iff hsigned hunsigned
  exact ⟨h.left.mpr (by decide), h.right.mpr (by decide)⟩

/-- The whole of either type is a range that panics. -/
theorem range_draws_full :
    Int32.minValue ≤ Int32.maxValue ∧ (0 : UInt32) ≤ u32Max ∧
    ¬ DrawsRange (fun {R} [IRng R] (rng : R) => rangeI32 rng Int32.minValue Int32.maxValue)
      Int32.minValue Int32.maxValue ∧
    ¬ DrawsRange (fun {R} [IRng R] (rng : R) => rangeU32 rng 0 u32Max) 0 u32Max := by
  refine ⟨by decide, by decide, ?_, ?_⟩
  · intro hdraws
    have hwidth : (2 : Int) ^ 31 ≤ Int32.maxValue.toInt - Int32.minValue.toInt := by decide
    rcases hdraws.inRange Pcg32Rng.uninitialized with ⟨v, rng', hdraw, _⟩
    rw [rangeI32_overflow hwidth] at hdraw
    cases hdraw
  · intro hdraws
    rcases hdraws.inRange Pcg32Rng.uninitialized with ⟨v, rng', hdraw, _⟩
    rw [rangeU32_overflow rfl rfl] at hdraw
    cases hdraw

end IRng

end Seej
