import Seej.Foundation.CheckedArithmetic
import Seej.Types

/-!
# Ports

The deterministic dependencies injected into the simulation: a random number
generator and a clock.  A default method of the source trait is a default field
here, so an implementation may override it and the theorems cover the override.
-/

namespace Seej

/-- The nonnegative `f32` value `numerator / 2 ^ exponent`. -/
structure F32 where
  numerator : Nat
  exponent : Nat

/-- `next_f32() < probability` for the draw `value`: the 24 high bits over
`2 ^ 24`.  Both sides are exact in `f32`, so cross multiplication decides it. -/
def F32.exceedsDraw (probability : F32) (value : UInt32) : Bool :=
  decide ((value >>> 8).toNat * 2 ^ probability.exponent <
    probability.numerator * 2 ^ 24)

class IRng (R : Type) where
  seed : R -> RngSeed
  state : R -> UInt64
  restore : R -> UInt64 -> R
  restoreSeeded : R -> RngSeed -> UInt64 -> R :=
    fun rng _ state => restore rng state
  nextU32 : R -> UInt32 × R
  /-- True with the given probability. -/
  chance : R -> F32 -> Bool × R :=
    fun rng probability =>
      (probability.exceedsDraw (nextU32 rng).1, (nextU32 rng).2)

namespace IRng

open Foundation

variable {R : Type} [IRng R]

/-- A value from `min` to `max`, both inclusive; `none` is a panic. -/
def rangeI32 (rng : R) (min max : Int32) : Option (Int32 × R) :=
  if min ≥ max then some (min, rng)
  else do
    let width <- checkedSubI32 max min
    let range <- checkedAdd32 width.toUInt32 1
    let (value, rng) := nextU32 rng
    let val <- checkedRem32 value range
    let result <- checkedAddI32 min val.toInt32
    return (result, rng)

/-- A value from `min` to `max`, both inclusive; `none` is a panic. -/
def rangeU32 (rng : R) (min max : UInt32) : Option (UInt32 × R) :=
  if min ≥ max then some (min, rng)
  else do
    let width <- checkedSub32 max min
    let range <- checkedAdd32 width 1
    let (value, rng) := nextU32 rng
    let val <- checkedRem32 value range
    let result <- checkedAdd32 min val
    return (result, rng)

end IRng

class ISimClock (C : Type) where
  currentTick : C -> Tick
  setTick : C -> Tick -> C

end Seej
