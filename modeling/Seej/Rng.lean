import Seej.Ports

/-!
# Generator and clock

The PCG32 generator and the unlimited clock that a world runs on.  Both are
restored from persisted values alone: the increment of the generator is derived
from the seed.
-/

namespace Seej

/-!
## PCG32
-/

structure Pcg32Rng where
  seed : RngSeed
  state : UInt64
  increment : UInt64
deriving DecidableEq

namespace Pcg32Rng

def multiplier : UInt64 := 6364136223846793005

def incrementFromSeed (seed : RngSeed) : UInt64 :=
  (seed.val <<< 1) ||| 1

def advance (rng : Pcg32Rng) : Pcg32Rng :=
  { rng with state := rng.state * multiplier + rng.increment }

/-- `u32::rotate_right`. -/
def rotateRight (value rot : UInt32) : UInt32 :=
  (value >>> (rot % 32)) ||| (value <<< ((32 - rot % 32) % 32))

def output (state : UInt64) : UInt32 :=
  rotateRight (((state >>> 18) ^^^ state) >>> 27).toUInt32 (state >>> 59).toUInt32

def nextU32 (rng : Pcg32Rng) : UInt32 × Pcg32Rng :=
  (output rng.state, rng.advance)

def restore (rng : Pcg32Rng) (state : UInt64) : Pcg32Rng :=
  { rng with state := state }

def restoreSeeded (_rng : Pcg32Rng) (seed : RngSeed) (state : UInt64) : Pcg32Rng :=
  { seed := seed, increment := incrementFromSeed seed, state := state }

def new (seed : RngSeed) : Pcg32Rng :=
  let rng : Pcg32Rng := { seed := seed, state := 0, increment := incrementFromSeed seed }
  (nextU32 { rng with state := rng.state + seed.val }).2

def uninitialized : Pcg32Rng :=
  { seed := ⟨0⟩, state := 0, increment := incrementFromSeed ⟨0⟩ }

end Pcg32Rng

instance : IRng Pcg32Rng where
  seed := Pcg32Rng.seed
  state := Pcg32Rng.state
  restore := Pcg32Rng.restore
  restoreSeeded := Pcg32Rng.restoreSeeded
  nextU32 := Pcg32Rng.nextU32

/-!
## The unlimited clock
-/

structure UnlimitedClock where
  currentTick : Tick
deriving DecidableEq

def UnlimitedClock.new : UnlimitedClock :=
  { currentTick := Tick.zero }

instance : ISimClock UnlimitedClock where
  currentTick := UnlimitedClock.currentTick
  setTick _ tick := { currentTick := tick }

end Seej
