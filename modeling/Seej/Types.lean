import Seej.Foundation.Machine
import Seej.Foundation.OrderedMap

/-!
# Primitive types

The stable identifiers, clocks, positions and metadata shared by every crate,
with the texts they are displayed as.
-/

namespace Seej

open Foundation

/-!
## Time and ticks
-/

structure Tick where
  val : UInt64
deriving DecidableEq

namespace Tick

def zero : Tick := ⟨0⟩

def next (tick : Tick) : Tick :=
  ⟨saturatingSucc tick.val⟩

instance : LT Tick := ⟨fun a b => a.val < b.val⟩
instance : LE Tick := ⟨fun a b => a.val ≤ b.val⟩
instance (a b : Tick) : Decidable (a < b) := inferInstanceAs (Decidable (a.val < b.val))
instance (a b : Tick) : Decidable (a ≤ b) := inferInstanceAs (Decidable (a.val ≤ b.val))
instance : ToString Tick := ⟨fun tick => s!"T{tick.val}"⟩

end Tick

/-- Simulated time in the world, in abstract units. -/
structure SimTime where
  units : UInt64
deriving DecidableEq

namespace SimTime

def zero : SimTime := ⟨0⟩

def fromTicks (tick : Tick) : SimTime :=
  ⟨tick.val⟩

instance : LE SimTime := ⟨fun a b => a.units ≤ b.units⟩
instance (a b : SimTime) : Decidable (a ≤ b) :=
  inferInstanceAs (Decidable (a.units ≤ b.units))
instance : ToString SimTime := ⟨fun time => s!"ST:{time.units}"⟩

end SimTime

/-!
## Identifiers
-/

structure EntityId where
  val : UInt64
deriving DecidableEq

namespace EntityId

def isValid (id : EntityId) : Bool :=
  id.val != 0

instance : Ord EntityId := ⟨compareOn EntityId.val⟩
instance : Std.TransOrd EntityId :=
  inferInstanceAs (Std.TransCmp (compareOn EntityId.val))
instance : Std.LawfulEqOrd EntityId where
  eq_of_compare := by
    intro a b h
    have hval : a.val = b.val := Std.LawfulEqOrd.eq_of_compare (α := UInt64) h
    cases a
    cases b
    exact congrArg EntityId.mk hval
instance : ToString EntityId := ⟨fun id => s!"E{id.val}"⟩

end EntityId

structure ZoneId where
  val : UInt32
deriving DecidableEq

namespace ZoneId

def origin : ZoneId := ⟨0⟩

instance : Ord ZoneId := ⟨compareOn ZoneId.val⟩
instance : Std.TransOrd ZoneId :=
  inferInstanceAs (Std.TransCmp (compareOn ZoneId.val))
instance : Std.LawfulEqOrd ZoneId where
  eq_of_compare := by
    intro a b h
    have hval : a.val = b.val := Std.LawfulEqOrd.eq_of_compare (α := UInt32) h
    cases a
    cases b
    exact congrArg ZoneId.mk hval
instance : ToString ZoneId := ⟨fun id => s!"Z{id.val}"⟩

end ZoneId

structure RngSeed where
  val : UInt64
deriving DecidableEq

/-- Identifier of an event in the log, the durable recovery cursor. -/
structure EventId where
  val : UInt64
deriving DecidableEq

namespace EventId

def zero : EventId := ⟨0⟩

def next (id : EventId) : EventId :=
  ⟨saturatingSucc id.val⟩

instance : LT EventId := ⟨fun a b => a.val < b.val⟩
instance : LE EventId := ⟨fun a b => a.val ≤ b.val⟩
instance (a b : EventId) : Decidable (a < b) := inferInstanceAs (Decidable (a.val < b.val))
instance (a b : EventId) : Decidable (a ≤ b) := inferInstanceAs (Decidable (a.val ≤ b.val))
instance : ToString EventId := ⟨fun id => s!"EV{id.val}"⟩

end EventId

/-!
## Spatial types
-/

structure Position where
  x : Int32
  y : Int32
  z : Int32
deriving DecidableEq

namespace Position

def origin : Position := ⟨0, 0, 0⟩

instance : ToString Position := ⟨fun p => s!"({p.x}, {p.y}, {p.z})"⟩

end Position

structure WorldPos where
  zone : ZoneId
  pos : Position
deriving DecidableEq

namespace WorldPos

def origin : WorldPos := ⟨ZoneId.origin, Position.origin⟩

instance : ToString WorldPos := ⟨fun p => s!"{p.zone}:{p.pos}"⟩

end WorldPos

/-!
## Entity kinds and states
-/

inductive EntityKind where
  | resource
  | creature
  | item
  | structure : EntityKind
deriving DecidableEq

inductive EntityState where
  | active
  | dormant
  | dead
deriving DecidableEq

/-- The `Debug` text of a state. -/
def EntityState.debug : EntityState -> String
  | .active => "Active"
  | .dormant => "Dormant"
  | .dead => "Dead"

/-!
## World metadata
-/

structure WorldMeta where
  worldId : String
  name : String
  seed : RngSeed
  currentTick : Tick
  simTime : SimTime
  createdTick : Tick
  snapshotTick : Tick
  lastEventId : EventId
  formatVersion : UInt32
deriving DecidableEq

def WorldMeta.currentFormatVersion : UInt32 := 3

/-!
## Errors
-/

inductive SimError where
  | notFound (id : String)
  | entityNotFound (id : EntityId)
  | zoneNotFound (id : ZoneId)
  | invalidOperation (message : String)
  | persistenceError (message : String)
  | corruptedState (message : String)
deriving DecidableEq

instance : ToString SimError where
  toString
    | .notFound id => s!"Not found: {id}"
    | .entityNotFound id => s!"Entity not found: {id}"
    | .zoneNotFound id => s!"Zone not found: {id}"
    | .invalidOperation message => s!"Invalid operation: {message}"
    | .persistenceError message => s!"Persistence error: {message}"
    | .corruptedState message => s!"Corrupted state: {message}"

abbrev SimResult (α : Type) : Type :=
  Except SimError α

end Seej
