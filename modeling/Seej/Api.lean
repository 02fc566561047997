import Seej.Types

/-!
# Commands, events and API errors

Commands are the intentions the simulation accepts, events the facts it
records.  Both are plain data shared by the core, the log and the tools.
-/

namespace Seej

/-!
## Commands
-/

structure EntityProperties where
  name : Option String
  amount : Option UInt32
  health : Option UInt32
deriving DecidableEq

structure CreateWorldCmd where
  name : String
  seed : RngSeed

structure SpawnEntityCmd where
  position : WorldPos
  kind : EntityKind
  properties : EntityProperties

structure CreateZoneCmd where
  zoneId : ZoneId
  name : Option String

inductive SimCommand where
  | createWorld (cmd : CreateWorldCmd)
  | tick
  | tickN (n : UInt32)
  | spawnEntity (cmd : SpawnEntityCmd)
  | despawnEntity (id : EntityId)
  | createZone (cmd : CreateZoneCmd)

/-!
## Events
-/

inductive DespawnReason where
  | command
  | death
  | depleted
  | expired
deriving DecidableEq

/-- A 64-bit float, by its bit pattern. -/
structure F64 where
  bits : UInt64
deriving DecidableEq

def F64.isFinite (x : F64) : Bool :=
  (x.bits >>> 52) % 2048 != 2047

inductive PropertyValue where
  | none
  | int (value : Int64)
  | uint (value : UInt64)
  | float (value : F64)
  | bool (value : Bool)
  | string (value : String)
deriving DecidableEq

/-- `escape_debug` within a string literal, with every character from U+00A0 on taken as
printable. -/
def escapeDebug (c : Char) : List Char :=
  if c = '"' then ['\\', '"']
  else if c = '\\' then ['\\', '\\']
  else if c = '\n' then ['\\', 'n']
  else if c = '\r' then ['\\', 'r']
  else if c = '\t' then ['\\', 't']
  else if c.toNat = 0 then ['\\', '0']
  else if c.toNat < 32 \/ (127 <= c.toNat /\ c.toNat < 160) then
    "\\u\x7b".toList ++ Nat.toDigits 16 c.toNat ++ "\x7d".toList
  else [c]

def debugText (s : String) : String :=
  String.ofList (['"'] ++ s.toList.flatMap escapeDebug ++ ['"'])

/-- The `Debug` text of a property value.  A float is shown by its bit pattern:
the shortest decimal that the standard library prints is not modelled. -/
def PropertyValue.debug : PropertyValue -> String
  | .none => "None"
  | .int value => s!"Int({value})"
  | .uint value => s!"UInt({value})"
  | .float value => s!"Float({value.bits})"
  | .bool value => s!"Bool({value})"
  | .string value => s!"String({debugText value})"

inductive EventData where
  | worldCreated (worldId : String) (name : String) (seed : RngSeed)
  | worldLoaded (worldId : String) (tick : Tick)
  | worldSaved (tick : Tick)
  | tickProcessed (tick : Tick) (simTime : SimTime) (entitiesProcessed : UInt32)
      (rngStateAfter : Option UInt64)
  | zoneCreated (zoneId : ZoneId) (name : Option String)
  | zoneLoaded (zoneId : ZoneId)
  | zoneUnloaded (zoneId : ZoneId)
  | entitySpawned (entityId : EntityId) (kind : EntityKind) (position : WorldPos)
      (properties : EntityProperties)
  | entityDespawned (entityId : EntityId) (reason : DespawnReason)
  | entityMoved (entityId : EntityId) (source : WorldPos) (target : WorldPos)
  | entityStateChanged (entityId : EntityId) (oldState : EntityState)
      (newState : EntityState)
  | entityPropertyChanged (entityId : EntityId) (property : String)
      (oldValue : PropertyValue) (newValue : PropertyValue)
  | resourceDepleted (entityId : EntityId) (amount : UInt32) (remaining : UInt32)
  | entityDegraded (entityId : EntityId) (oldHealth : UInt32) (newHealth : UInt32)
deriving DecidableEq

structure SimEvent where
  eventId : EventId
  tick : Tick
  data : EventData
deriving DecidableEq

def SimEvent.new (tick : Tick) (data : EventData) : SimEvent :=
  { eventId := EventId.zero, tick := tick, data := data }

/-!
## Errors
-/

structure ValidationError where
  field : String
  message : String
deriving DecidableEq

/-- The `Debug` text of a validation error. -/
def ValidationError.debug (e : ValidationError) : String :=
  "ValidationError \x7b field: " ++ debugText e.field ++ ", message: " ++
    debugText e.message ++ " \x7d"

inductive ApiError where
  | noWorldLoaded
  | worldAlreadyExists (id : String)
  | worldNotFound (id : String)
  | entityNotFound (id : EntityId)
  | zoneNotFound (id : ZoneId)
  | zoneAlreadyExists (id : ZoneId)
  | invalidCommand (message : String)
  | validationFailed (errors : List ValidationError)
  | storageError (message : String)
  | internalError (message : String)
deriving DecidableEq

abbrev ApiResult (α : Type) : Type :=
  Except ApiError α

end Seej
