import Seej.Foundation.Checks
import Seej.World

/-!
# Snapshots

Encoding and decoding of a world.  The world is copied into plain data, which
`serde_json` turns into bytes; decoding checks that the copies of the clock, the
allocator and the zone index agree before it builds a world.
-/

namespace Seej

open Foundation

/-!
## Plain data
-/

structure EntityDto where
  id : EntityId
  kind : EntityKind
  state : EntityState
  position : WorldPos
  createdAt : Tick
  properties : EntityProperties
deriving DecidableEq

structure ZoneDto where
  id : ZoneId
  name : Option String
  loaded : Bool
  entities : List EntityId
deriving DecidableEq

structure WorldSnapshotDto where
  worldMeta : WorldMeta
  currentTick : Tick
  simTime : SimTime
  rngState : UInt64
  nextEntityId : UInt64
  entities : BTreeMap EntityId EntityDto
  zones : BTreeMap ZoneId ZoneDto
deriving DecidableEq

def EntityDto.fromEntity (entity : Entity) : EntityDto :=
  { id := entity.id
    kind := entity.kind
    state := entity.state
    position := entity.position
    createdAt := entity.createdAt
    properties := entity.properties }

def EntityDto.toEntity (entity : EntityDto) : Entity :=
  { id := entity.id
    kind := entity.kind
    state := entity.state
    position := entity.position
    createdAt := entity.createdAt
    properties := entity.properties }

def ZoneDto.fromZone (zone : Zone) : ZoneDto :=
  { id := zone.id, name := zone.name, loaded := zone.loaded, entities := zone.entities }

def ZoneDto.toZone (zone : ZoneDto) : Zone :=
  { id := zone.id, name := zone.name, loaded := zone.loaded, entities := zone.entities }

def WorldSnapshotDto.fromWorld (world : World) : WorldSnapshotDto :=
  { worldMeta := world.worldMeta
    currentTick := world.currentTick
    simTime := world.simTime
    rngState := world.rngState
    nextEntityId := world.nextEntityId
    entities := world.entities.map fun _ entity => EntityDto.fromEntity entity
    zones := world.zones.map fun _ zone => ZoneDto.fromZone zone }

def WorldSnapshotDto.toWorld (snapshot : WorldSnapshotDto) : World :=
  { worldMeta := snapshot.worldMeta
    currentTick := snapshot.currentTick
    simTime := snapshot.simTime
    rngState := snapshot.rngState
    nextEntityId := snapshot.nextEntityId
    entities := snapshot.entities.map fun _ entity => entity.toEntity
    zones := snapshot.zones.map fun _ zone => zone.toZone }

/-!
## Validation
-/

namespace WorldSnapshotDto

/-- The largest key of the entity map, `0` if it is empty. -/
def maxEntityId (snapshot : WorldSnapshotDto) : UInt64 :=
  (snapshot.entities.keys.map EntityId.val).foldl
    (fun largest id => if largest < id then id else largest) 0

def validateEntityIds (snapshot : WorldSnapshotDto) : SimResult Unit := do
  ensure (snapshot.nextEntityId ≠ 0)
    (.corruptedState "Snapshot next_entity_id must not be zero")
  ensure (¬ snapshot.nextEntityId ≤ snapshot.maxEntityId)
    (.corruptedState s!"Snapshot next_entity_id {snapshot.nextEntityId} is not greater than max entity id {snapshot.maxEntityId}")
  checkAll (fun entry => do
      ensure (entry.1 = entry.2.id)
        (.corruptedState s!"Snapshot entity key {entry.1} does not match entity id {entry.2.id}")
      ensure (entry.1.isValid = true)
        (.corruptedState "Snapshot contains invalid entity id E0"))
    snapshot.entities.toList

def validateZoneIds (snapshot : WorldSnapshotDto) : SimResult Unit :=
  checkAll (fun entry =>
      ensure (entry.1 = entry.2.id)
        (.corruptedState s!"Snapshot zone key {entry.1} does not match zone id {entry.2.id}"))
    snapshot.zones.toList

/-- `expected_by_zone.get(zone)`, with the empty set for a missing zone. -/
def expectedIn (expected : BTreeMap ZoneId (BTreeSet EntityId)) (zoneId : ZoneId) :
    BTreeSet EntityId :=
  (expected[zoneId]?).getD ∅

/-- The loop that indexes the entities by the zone of their position. -/
def expectedByZone (snapshot : WorldSnapshotDto) : List (EntityId × EntityDto) ->
    BTreeMap ZoneId (BTreeSet EntityId) -> SimResult (BTreeMap ZoneId (BTreeSet EntityId))
  | [], expected => .ok expected
  | (entityId, entity) :: rest, expected => do
      ensure (entity.position.zone ∈ snapshot.zones)
        (.corruptedState s!"Snapshot entity {entityId} references missing zone {entity.position.zone}")
      expectedByZone snapshot rest (expected.insert entity.position.zone
        ((expectedIn expected entity.position.zone).insert entityId))

def actualEntities (snapshot : WorldSnapshotDto) (zoneId : ZoneId) : List EntityId ->
    BTreeSet EntityId -> SimResult (BTreeSet EntityId)
  | [], actual => .ok actual
  | entityId :: rest, actual => do
      ensure (entityId ∉ actual)
        (.corruptedState s!"Snapshot zone {zoneId} contains duplicate entity {entityId}")
      match snapshot.entities[entityId]? with
      | none =>
          .error (.corruptedState
            s!"Snapshot zone {zoneId} references missing entity {entityId}")
      | some entity =>
          ensure (entity.position.zone = zoneId)
            (.corruptedState s!"Snapshot zone {zoneId} references entity {entityId} whose position is in zone {entity.position.zone}")
          actualEntities snapshot zoneId rest (actual.insert entityId)

def checkZones (snapshot : WorldSnapshotDto) : List (ZoneId × ZoneDto) ->
    BTreeMap ZoneId (BTreeSet EntityId) -> SimResult (BTreeMap ZoneId (BTreeSet EntityId))
  | [], expected => .ok expected
  | (zoneId, zone) :: rest, expected => do
      let actual <- actualEntities snapshot zoneId zone.entities ∅
      ensure (actual = expectedIn expected zoneId)
        (.corruptedState s!"Snapshot zone {zoneId} entity index does not match entity positions")
      checkZones snapshot rest (expected.erase zoneId)

def validateZoneEntityIndex (snapshot : WorldSnapshotDto) : SimResult Unit := do
  let expected <- expectedByZone snapshot snapshot.entities.toList ∅
  let remaining <- checkZones snapshot snapshot.zones.toList expected
  match remaining.toList with
  | [] => .ok ()
  | (zoneId, _) :: _ =>
      .error (.corruptedState
        s!"Snapshot has entities indexed to missing zone {zoneId}")

def validateSnapshot (snapshot : WorldSnapshotDto) : SimResult Unit := do
  ensure (snapshot.worldMeta.formatVersion = WorldMeta.currentFormatVersion)
    (.persistenceError s!"Unsupported world format {snapshot.worldMeta.formatVersion} (current {WorldMeta.currentFormatVersion}). No implicit migration is available.")
  ensure (snapshot.worldMeta.currentTick = snapshot.currentTick)
    (.corruptedState s!"Snapshot metadata tick mismatch: meta current_tick {snapshot.worldMeta.currentTick} != snapshot current_tick {snapshot.currentTick}")
  ensure (snapshot.worldMeta.snapshotTick = snapshot.currentTick)
    (.corruptedState s!"Snapshot tick mismatch: meta snapshot_tick {snapshot.worldMeta.snapshotTick} != snapshot current_tick {snapshot.currentTick}")
  ensure (snapshot.worldMeta.simTime = snapshot.simTime)
    (.corruptedState s!"Snapshot metadata sim_time mismatch: meta sim_time {snapshot.worldMeta.simTime} != snapshot sim_time {snapshot.simTime}")
  ensure (snapshot.simTime = SimTime.fromTicks snapshot.currentTick)
    (.corruptedState s!"Snapshot sim_time mismatch: snapshot sim_time {snapshot.simTime} != expected {SimTime.fromTicks snapshot.currentTick} for tick {snapshot.currentTick}")
  snapshot.validateEntityIds
  snapshot.validateZoneIds
  snapshot.validateZoneEntityIndex

end WorldSnapshotDto

/-!
## Encoding and decoding
-/

abbrev Bytes : Type :=
  List UInt8

/-- `serde_json` on snapshots. -/
class SnapshotJson where
  toVec : WorldSnapshotDto -> Except String Bytes
  fromSlice : Bytes -> Except String WorldSnapshotDto

/-- `serde_json` loses nothing of a snapshot, which holds integers, strings,
lists and maps, and no floats. -/
class SnapshotJson.Lossless [SnapshotJson] : Prop where
  fromSlice_toVec : forall (snapshot : WorldSnapshotDto) (bytes : Bytes),
    toVec snapshot = .ok bytes -> fromSlice bytes = .ok snapshot

section Codec

variable [SnapshotJson]

def encodeWorld (world : World) : SimResult Bytes :=
  match SnapshotJson.toVec (WorldSnapshotDto.fromWorld world) with
  | .ok bytes => .ok bytes
  | .error e => .error (.persistenceError s!"Failed to serialize world: {e}")

def decodeWorld (data : Bytes) : SimResult World :=
  match SnapshotJson.fromSlice data with
  | .error e => .error (.persistenceError s!"Failed to deserialize world: {e}")
  | .ok snapshot => do
      snapshot.validateSnapshot
      return snapshot.toWorld

end Codec

end Seej
