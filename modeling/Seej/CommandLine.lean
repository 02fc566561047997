import Seej.Foundation.CheckedArithmetic
import Seej.Server
import Seej.WorldDump

/-!
# Command line

The commands with which an operator looks at a world.  Each one recovers the world as the
dump does, or reads the log, and gives the lines that it prints.  `none` is a panic.
-/

namespace Seej

open Foundation

/-!
## Formats
-/

instance : ToString EntityKind where
  toString
    | .resource => "Resource"
    | .creature => "Creature"
    | .item => "Item"
    | .structure => "Structure"

/-- `{:>width}` for a text. -/
def alignRight (width : Nat) (text : String) : String :=
  String.ofList (List.replicate (width - text.length) ' ') ++ text

/-- `"-".repeat(count)`. -/
def dashes (count : Nat) : String :=
  String.ofList (List.replicate count '-')

/-- `str::to_lowercase`, by the tables of Unicode. -/
class Lowercase where
  toLowercase : String -> String

/-!
## Debug texts
-/

/-- The derived `Debug` of a value with named fields. -/
def debugStruct (name : String) (fields : List (String × String)) : String :=
  name ++ " \x7b " ++ ", ".intercalate (fields.map fun field => field.1 ++ ": " ++ field.2) ++
    " \x7d"

def debugOption : Option String -> String
  | none => "None"
  | some text => s!"Some({text})"

def Tick.debug (tick : Tick) : String :=
  s!"Tick({tick.val})"

def SimTime.debug (time : SimTime) : String :=
  debugStruct "SimTime" [("units", toString time.units)]

def EntityId.debug (id : EntityId) : String :=
  s!"EntityId({id.val})"

def ZoneId.debug (id : ZoneId) : String :=
  s!"ZoneId({id.val})"

def Position.debug (p : Position) : String :=
  debugStruct "Position" [("x", toString p.x), ("y", toString p.y), ("z", toString p.z)]

def WorldPos.debug (p : WorldPos) : String :=
  debugStruct "WorldPos" [("zone", p.zone.debug), ("pos", p.pos.debug)]

def EntityProperties.debug (properties : EntityProperties) : String :=
  debugStruct "EntityProperties"
    [("name", debugOption (properties.name.map debugText)),
      ("amount", debugOption (properties.amount.map toString)),
      ("health", debugOption (properties.health.map toString))]

def DespawnReason.debug : DespawnReason -> String
  | .command => "Command"
  | .death => "Death"
  | .depleted => "Depleted"
  | .expired => "Expired"

/-- The `Debug` text of the data of an event, with floats as `PropertyValue.debug` shows
them. -/
def EventData.debug : EventData -> String
  | .worldCreated worldId name seed =>
      debugStruct "WorldCreated"
        [("world_id", debugText worldId), ("name", debugText name),
          ("seed", s!"RngSeed({seed.val})")]
  | .worldLoaded worldId tick =>
      debugStruct "WorldLoaded" [("world_id", debugText worldId), ("tick", tick.debug)]
  | .worldSaved tick => debugStruct "WorldSaved" [("tick", tick.debug)]
  | .tickProcessed tick simTime entitiesProcessed rngStateAfter =>
      debugStruct "TickProcessed"
        [("tick", tick.debug), ("sim_time", simTime.debug),
          ("entities_processed", toString entitiesProcessed),
          ("rng_state_after", debugOption (rngStateAfter.map toString))]
  | .zoneCreated zoneId name =>
      debugStruct "ZoneCreated"
        [("zone_id", zoneId.debug), ("name", debugOption (name.map debugText))]
  | .zoneLoaded zoneId => debugStruct "ZoneLoaded" [("zone_id", zoneId.debug)]
  | .zoneUnloaded zoneId => debugStruct "ZoneUnloaded" [("zone_id", zoneId.debug)]
  | .entitySpawned entityId kind position properties =>
      debugStruct "EntitySpawned"
        [("entity_id", entityId.debug), ("kind", toString kind), ("position", position.debug),
          ("properties", properties.debug)]
  | .entityDespawned entityId reason =>
      debugStruct "EntityDespawned" [("entity_id", entityId.debug), ("reason", reason.debug)]
  | .entityMoved entityId source target =>
      debugStruct "EntityMoved"
        [("entity_id", entityId.debug), ("from", source.debug), ("to", target.debug)]
  | .entityStateChanged entityId oldState newState =>
      debugStruct "EntityStateChanged"
        [("entity_id", entityId.debug), ("old_state", oldState.debug),
          ("new_state", newState.debug)]
  | .entityPropertyChanged entityId property oldValue newValue =>
      debugStruct "EntityPropertyChanged"
        [("entity_id", entityId.debug), ("property", debugText property),
          ("old_value", oldValue.debug), ("new_value", newValue.debug)]
  | .resourceDepleted entityId amount remaining =>
      debugStruct "ResourceDepleted"
        [("entity_id", entityId.debug), ("amount", toString amount),
          ("remaining", toString remaining)]
  | .entityDegraded entityId oldHealth newHealth =>
      debugStruct "EntityDegraded"
        [("entity_id", entityId.debug), ("old_health", toString oldHealth),
          ("new_health", toString newHealth)]

/-!
## World counts
-/

namespace World

def entityCount (world : World) : Nat :=
  world.entities.size

def activeEntityCount (world : World) : Nat :=
  ((BTreeMap.values world.entities).filter Entity.isActive).length

def zoneCount (world : World) : Nat :=
  world.zones.size

end World

section Commands

variable {S : Type} [IWorldStore S] [SnapshotJson] [Crc32] [BatchJson]

def loadWorld (opened : SimResult S) (file : Option Bytes) (worldId : String) :
    Option (Except String World) :=
  (loadWorldWithReplayed opened file worldId).map fun loaded => loaded.map Prod.fst

/-!
## `status`
-/

structure Breakdown where
  resources : Int32
  creatures : Int32
  items : Int32
  structures : Int32
deriving DecidableEq

namespace Breakdown

def zero : Breakdown :=
  ⟨0, 0, 0, 0⟩

/-- `+= 1` on the counter of a kind. -/
def count (b : Breakdown) : EntityKind -> Option Breakdown
  | .resource => (checkedAddI32 b.resources 1).map fun n => { b with resources := n }
  | .creature => (checkedAddI32 b.creatures 1).map fun n => { b with creatures := n }
  | .item => (checkedAddI32 b.items 1).map fun n => { b with items := n }
  | .structure => (checkedAddI32 b.structures 1).map fun n => { b with structures := n }

def countAll (b : Breakdown) : List Entity -> Option Breakdown
  | [] => some b
  | entity :: rest => (b.count entity.kind).bind fun b => b.countAll rest

end Breakdown

/-- The length of the log as `status` finds it.  `bareDir` says whether a log without a
file has a directory. -/
def walEventCount (bareDir : Bool) (file : Option Bytes) : Option Nat :=
  if file.isSome ∨ bareDir then
    (FileEventLog.openReadOnly file).map fun opened =>
      match opened with
      | .ok log => log.len
      | .error _ => 0
  else some 0

def statusLines (world : World) (walEventCount : Nat) (b : Breakdown) : List String :=
  ["=== World Status ===",
    s!"ID:              {world.worldMeta.worldId}",
    s!"Name:            {world.worldMeta.name}",
    s!"Seed:            {world.worldMeta.seed.val}",
    s!"Current Tick:    {world.worldMeta.currentTick}",
    s!"Sim Time:        {world.worldMeta.simTime}",
    s!"Created Tick:    {world.worldMeta.createdTick}",
    "",
    "=== Crash Recovery Info ===",
    s!"Snapshot Tick:   {world.worldMeta.snapshotTick}",
    s!"Last Event ID:   {world.worldMeta.lastEventId}",
    s!"WAL Events:      {walEventCount}",
    "",
    "=== Statistics ===",
    s!"Total Entities:  {world.entityCount}",
    s!"Active Entities: {world.activeEntityCount}",
    s!"Zones:           {world.zoneCount}",
    "",
    "=== Entity Breakdown ===",
    s!"Resources:  {b.resources}",
    s!"Creatures:  {b.creatures}",
    s!"Items:      {b.items}",
    s!"Structures: {b.structures}"]

def statusOf (world : World) (walEventCount : Nat) : Option (Except String (List String)) :=
  (Breakdown.zero.countAll (BTreeMap.values world.entities)).map fun b =>
    .ok (statusLines world walEventCount b)

/-- `cmd_status`, which opens the store twice. -/
def cmdStatus (opened reopened : SimResult S) (bareDir : Bool) (file : Option Bytes)
    (worldId : String) : Option (Except String (List String)) :=
  match opened with
  | .error e => some (.error s!"Failed to open store: {e}")
  | .ok _ =>
      match loadWorld reopened file worldId with
      | none => none
      | some (.error e) => some (.error e)
      | some (.ok world) =>
          match validateWorldIdResult worldId with
          | .error e => some (.error s!"Invalid world id: {e}")
          | .ok () => (walEventCount bareDir file).bind (statusOf world)

/-!
## `events`
-/

def eventLine (event : SimEvent) : String :=
  s!"[{event.eventId} | {event.tick}] {event.data.debug}"

def filterFromTick (fromTick : Option UInt64) (events : List SimEvent) : List SimEvent :=
  match fromTick with
  | some tick => events.filter fun e => e.tick.val ≥ tick
  | none => events

/-- The header and the last `count` of the events. -/
def eventLines (count : Nat) (filtered : List SimEvent) : List String :=
  let total := filtered.length
  let displayEvents := filtered.reverse.take count
  s!"=== Events (showing {displayEvents.length} of {total}) ===" ::
    displayEvents.reverse.map eventLine

def cmdEvents (opened : SimResult S) (file : Option Bytes) (worldId : String) (count : Nat)
    (fromTick : Option UInt64) : Option (Except String (List String)) :=
  match opened with
  | .error e => some (.error s!"Failed to open store: {e}")
  | .ok _ =>
      match validateWorldIdResult worldId with
      | .error e => some (.error s!"Invalid world id: {e}")
      | .ok () =>
          (FileEventLog.openReadOnly file).map fun opened =>
            match opened with
            | .error e => .error s!"Failed to open event log: {e}"
            | .ok eventLog =>
                match eventLog.readAllValid with
                | .error e => .error s!"Failed to read events: {e}"
                | .ok events => .ok (eventLines count (filterFromTick fromTick events))

/-!
## `entity` and `entities`
-/

def entityLines (entity : Entity) : List String :=
  [s!"=== Entity {entity.id} ===",
    s!"Kind:       {entity.kind}",
    s!"State:      {entity.state.debug}",
    s!"Position:   {entity.position}",
    s!"Created At: {entity.createdAt}",
    "",
    "=== Properties ==="] ++
    (entity.properties.name.map fun name => s!"Name:   {name}").toList ++
    (entity.properties.amount.map fun amount => s!"Amount: {amount}").toList ++
    (entity.properties.health.map fun health => s!"Health: {health}").toList

def entityOf (entityId : UInt64) (world : World) : Except String (List String) :=
  match world.entities[(⟨entityId⟩ : EntityId)]? with
  | none => .error s!"Entity not found: {entityId}"
  | some entity => .ok (entityLines entity)

def cmdEntity (opened : SimResult S) (file : Option Bytes) (worldId : String)
    (entityId : UInt64) : Option (Except String (List String)) :=
  (loadWorld opened file worldId).map fun loaded => loaded.bind (entityOf entityId)

variable [Lowercase]

/-- `kind_str.contains(filter)`, where a filter was given. -/
def passesKind (kindFilter : Option String) (kind : EntityKind) : Bool :=
  match kindFilter with
  | some filter => filter.toList <:+: (Lowercase.toLowercase (toString kind)).toList
  | none => true

def entityRow (entity : Entity) : String :=
  " | ".intercalate
    [alignRight 8 (toString entity.id.val), toString entity.kind,
      alignRight 8 entity.state.debug, alignRight 20 (toString entity.position),
      alignRight 10 (entity.properties.name.getD "-")]

def listedEntities (kindFilter : Option String) (world : World) : List Entity :=
  (BTreeMap.values world.entities).filter fun entity =>
    passesKind (kindFilter.map Lowercase.toLowercase) entity.kind

def entitiesOf (kindFilter : Option String) (world : World) : List String :=
  ["=== Entities ===",
    " | ".intercalate [alignRight 8 "ID", alignRight 10 "Kind", alignRight 8 "State",
      alignRight 20 "Position", alignRight 10 "Name"],
    dashes 70] ++ (listedEntities kindFilter world).map entityRow

def cmdEntities (opened : SimResult S) (file : Option Bytes) (worldId : String)
    (kindFilter : Option String) : Option (Except String (List String)) :=
  (loadWorld opened file worldId).map fun loaded => loaded.map (entitiesOf kindFilter)

/-!
## `zones`
-/

def zoneRow (zone : Zone) : String :=
  " | ".intercalate
    [alignRight 8 (toString zone.id.val), alignRight 20 (zone.name.getD "-"),
      alignRight 8 (if zone.loaded then "Yes" else "No"),
      alignRight 10 (toString zone.entities.length)]

def zonesOf (world : World) : List String :=
  ["=== Zones ===",
    " | ".intercalate [alignRight 8 "ID", alignRight 20 "Name", alignRight 8 "Loaded",
      alignRight 10 "Entities"],
    dashes 55] ++ (BTreeMap.values world.zones).map zoneRow

def cmdZones (opened : SimResult S) (file : Option Bytes) (worldId : String) :
    Option (Except String (List String)) :=
  (loadWorld opened file worldId).map fun loaded => loaded.map zonesOf

end Commands

/-!
## The command line on a data directory
-/

inductive Commands where
  | status (world : String)
  | events (world : String) (count : Nat) (fromTick : Option UInt64)
  | entity (world : String) (entityId : UInt64)
  | entities (world : String) (kind : Option String)
  | zones (world : String)
deriving DecidableEq

def Commands.world : Commands -> String
  | .status world => world
  | .events world _ _ => world
  | .entity world _ => world
  | .entities world _ => world
  | .zones world => world

variable [MetaJson] [SnapshotJson] [Crc32] [BatchJson] [Lowercase]

/-- What the file system answers to the command line: whether the directory of the worlds
can be made, each time the store is opened, and whether a log without a file has a
directory. -/
structure CliIo where
  createDir : Option String := none
  createDirAgain : Option String := none
  bareDir : Bool := false

/-- The command of `main`. -/
def runCommand (io : CliIo) (dir : DataDir) (command : Commands) :
    Option (Except String (List String)) :=
  let opened := FilesystemStore.new dir.basePath dir.worlds io.createDir
  let file := dir.logFile command.world
  match command with
  | .status world =>
      let reopened := FilesystemStore.new dir.basePath dir.worlds io.createDirAgain
      cmdStatus opened reopened io.bareDir file world
  | .events world count fromTick => cmdEvents opened file world count fromTick
  | .entity world entityId => cmdEntity opened file world entityId
  | .entities world kind => cmdEntities opened file world kind
  | .zones world => cmdZones opened file world

end Seej
