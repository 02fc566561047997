import Seej.Api

/-!
# World

The complete simulation state: metadata, clocks, the random state, the entity
allocator, and the ordered maps of entities and zones.

The operations come first, as the source has them.  The second half gives each
operation its lookups, so that the proofs over commands and events never unfold
an operation.
-/

namespace Seej

open Foundation

/-!
## Entities and zones
-/

structure Entity where
  id : EntityId
  kind : EntityKind
  state : EntityState
  position : WorldPos
  createdAt : Tick
  properties : EntityProperties
deriving DecidableEq

namespace Entity

def new (id : EntityId) (kind : EntityKind) (position : WorldPos) (createdAt : Tick)
    (properties : EntityProperties) : Entity :=
  { id := id
    kind := kind
    state := .active
    position := position
    createdAt := createdAt
    properties := properties }

def isActive (entity : Entity) : Bool :=
  entity.state = .active

def isDead (entity : Entity) : Bool :=
  entity.state = .dead

end Entity

structure Zone where
  id : ZoneId
  name : Option String
  loaded : Bool
  entities : List EntityId
deriving DecidableEq

namespace Zone

def new (id : ZoneId) (name : Option String) : Zone :=
  { id := id, name := name, loaded := true, entities := [] }

def addEntity (zone : Zone) (id : EntityId) : Zone :=
  if id ∈ zone.entities then zone
  else { zone with entities := zone.entities ++ [id] }

def removeEntity (zone : Zone) (id : EntityId) : Zone :=
  { zone with entities := zone.entities.filter (fun e => e != id) }

end Zone

/-!
## World operations
-/

structure World where
  worldMeta : WorldMeta
  currentTick : Tick
  simTime : SimTime
  rngState : UInt64
  nextEntityId : UInt64
  entities : BTreeMap EntityId Entity
  zones : BTreeMap ZoneId Zone

namespace World

def new (name : String) (seed : RngSeed) : World :=
  { worldMeta :=
      { worldId := s!"world_{seed.val}"
        name := name
        seed := seed
        currentTick := Tick.zero
        simTime := SimTime.zero
        createdTick := Tick.zero
        snapshotTick := Tick.zero
        lastEventId := EventId.zero
        formatVersion := WorldMeta.currentFormatVersion }
    currentTick := Tick.zero
    simTime := SimTime.zero
    rngState := seed.val
    nextEntityId := 1
    entities := ∅
    zones := (∅ : BTreeMap ZoneId Zone).insert ZoneId.origin
      (Zone.new ZoneId.origin (some "Origin")) }

def id (world : World) : String :=
  world.worldMeta.worldId

def name (world : World) : String :=
  world.worldMeta.name

def seed (world : World) : RngSeed :=
  world.worldMeta.seed

/-- The next entity identifier, `none` where `next_entity_id += 1` overflows. -/
def allocateEntityId (world : World) : Option (EntityId × World) := do
  let next <- checkedSucc world.nextEntityId
  return (⟨world.nextEntityId⟩, { world with nextEntityId := next })

def addEntity (world : World) (entity : Entity) : World :=
  { world with
    entities := world.entities.insert entity.id entity
    zones := world.zones.modify entity.position.zone
      (fun zone => zone.addEntity entity.id) }

def removeEntity (world : World) (id : EntityId) : Option (Entity × World) :=
  match world.entities[id]? with
  | some entity =>
      some (entity,
        { world with
          entities := world.entities.erase id
          zones := world.zones.modify entity.position.zone
            (fun zone => zone.removeEntity id) })
  | none => none

/-- `get_entity_mut` followed by an update of the entity found. -/
def updateEntity (world : World) (id : EntityId) (f : Entity -> Entity) : World :=
  { world with entities := world.entities.modify id f }

def addZone (world : World) (zone : Zone) : World :=
  { world with zones := world.zones.insert zone.id zone }

/-- `get_zone_mut` followed by an update of the zone found. -/
def updateZone (world : World) (id : ZoneId) (f : Zone -> Zone) : World :=
  { world with zones := world.zones.modify id f }

def hasZone (world : World) (id : ZoneId) : Bool :=
  world.zones.contains id

/-- Set the four copies of the clock to `tick`. -/
def setClock (world : World) (tick : Tick) : World :=
  { world with
    currentTick := tick
    simTime := SimTime.fromTicks tick
    worldMeta := { world.worldMeta with
      currentTick := tick
      simTime := SimTime.fromTicks tick } }

def advanceTick (world : World) : World :=
  world.setClock world.currentTick.next

/-!
## Lookups after an operation
-/

@[simp] theorem setClock_entities (world : World) (tick : Tick) :
    (world.setClock tick).entities = world.entities := rfl

@[simp] theorem setClock_zones (world : World) (tick : Tick) :
    (world.setClock tick).zones = world.zones := rfl

@[simp] theorem setClock_nextEntityId (world : World) (tick : Tick) :
    (world.setClock tick).nextEntityId = world.nextEntityId := rfl

@[simp] theorem addEntity_nextEntityId (world : World) (entity : Entity) :
    (world.addEntity entity).nextEntityId = world.nextEntityId := rfl

@[simp] theorem updateEntity_zones (world : World) (id : EntityId) (f : Entity -> Entity) :
    (world.updateEntity id f).zones = world.zones := rfl

@[simp] theorem updateEntity_currentTick (world : World) (id : EntityId)
    (f : Entity -> Entity) :
    (world.updateEntity id f).currentTick = world.currentTick := rfl

@[simp] theorem updateZone_entities (world : World) (id : ZoneId) (f : Zone -> Zone) :
    (world.updateZone id f).entities = world.entities := rfl

@[simp] theorem addZone_entities (world : World) (zone : Zone) :
    (world.addZone zone).entities = world.entities := rfl

theorem addEntity_getElem? (world : World) (entity : Entity) (id : EntityId) :
    (world.addEntity entity).entities[id]? =
      if entity.id = id then some entity else world.entities[id]? :=
  BTreeMap.getElem?_insert _ _ _ _

theorem addEntity_zones_getElem? (world : World) (entity : Entity) (zoneId : ZoneId) :
    (world.addEntity entity).zones[zoneId]? =
      if entity.position.zone = zoneId then
        world.zones[zoneId]?.map (fun zone => zone.addEntity entity.id)
      else world.zones[zoneId]? :=
  BTreeMap.getElem?_modify _ _ _ _

theorem updateEntity_getElem? (world : World) (id other : EntityId)
    (f : Entity -> Entity) :
    (world.updateEntity id f).entities[other]? =
      if id = other then world.entities[other]?.map f else world.entities[other]? :=
  BTreeMap.getElem?_modify _ _ _ _

theorem updateZone_getElem? (world : World) (id other : ZoneId) (f : Zone -> Zone) :
    (world.updateZone id f).zones[other]? =
      if id = other then world.zones[other]?.map f else world.zones[other]? :=
  BTreeMap.getElem?_modify _ _ _ _

theorem addZone_getElem? (world : World) (zone : Zone) (zoneId : ZoneId) :
    (world.addZone zone).zones[zoneId]? =
      if zone.id = zoneId then some zone else world.zones[zoneId]? :=
  BTreeMap.getElem?_insert _ _ _ _

theorem hasZone_iff (world : World) (zoneId : ZoneId) :
    world.hasZone zoneId = true <->
      exists zone : Zone, world.zones[zoneId]? = some zone := by
  rw [hasZone, Std.ExtTreeMap.contains_iff_mem, BTreeMap.mem_iff]

theorem removeEntity_eq_none (world : World) (id : EntityId) :
    world.removeEntity id = none <-> world.entities[id]? = none := by
  unfold removeEntity
  cases h : world.entities[id]? <;> simp

theorem removeEntity_eq_some {world next : World} {id : EntityId} {entity : Entity}
    (h : world.removeEntity id = some (entity, next)) :
    world.entities[id]? = some entity ∧
      next = { world with
        entities := world.entities.erase id
        zones := world.zones.modify entity.position.zone
          (fun zone => zone.removeEntity id) } := by
  unfold removeEntity at h
  cases hid : world.entities[id]? with
  | none =>
      rw [hid] at h
      cases h
  | some found =>
      rw [hid] at h
      simp only [Option.some.injEq, Prod.mk.injEq] at h
      rcases h with ⟨hentity, hnext⟩
      subst hentity
      exact ⟨rfl, hnext.symm⟩

theorem allocateEntityId_eq_some {world next : World} {id : EntityId}
    (h : world.allocateEntityId = some (id, next)) :
    id = ⟨world.nextEntityId⟩ ∧
      next.nextEntityId.toNat = world.nextEntityId.toNat + 1 ∧
      next = { world with nextEntityId := next.nextEntityId } := by
  unfold allocateEntityId at h
  cases hnext : checkedSucc world.nextEntityId with
  | none =>
      rw [hnext] at h
      cases h
  | some n =>
      rw [hnext] at h
      simp only [bind, Option.bind, pure, Option.some.injEq, Prod.mk.injEq] at h
      rcases h with ⟨hid, hworld⟩
      subst hworld
      exact ⟨hid.symm, checkedSucc_eq_some.mp hnext, rfl⟩

end World

namespace Zone

theorem mem_addEntity (zone : Zone) (id other : EntityId) :
    other ∈ (zone.addEntity id).entities <-> other ∈ zone.entities ∨ other = id := by
  unfold addEntity
  split
  · rename_i hmem
    constructor
    · exact Or.inl
    · intro h
      cases h with
      | inl h => exact h
      | inr h => rw [h]; exact hmem
  · simp

theorem mem_removeEntity (zone : Zone) (id other : EntityId) :
    other ∈ (zone.removeEntity id).entities <-> other ∈ zone.entities ∧ other ≠ id := by
  simp [removeEntity]

theorem nodup_addEntity {zone : Zone} (id : EntityId) (h : zone.entities.Nodup) :
    (zone.addEntity id).entities.Nodup := by
  unfold addEntity
  split
  · exact h
  · rename_i hmem
    rw [List.nodup_append]
    refine ⟨h, by simp, ?_⟩
    intro a ha b hb heq
    simp only [List.mem_singleton] at hb
    rw [heq, hb] at ha
    exact hmem ha

theorem nodup_removeEntity {zone : Zone} (id : EntityId) (h : zone.entities.Nodup) :
    (zone.removeEntity id).entities.Nodup :=
  h.filter _

@[simp] theorem addEntity_id (zone : Zone) (id : EntityId) :
    (zone.addEntity id).id = zone.id := by
  unfold addEntity
  split <;> rfl

@[simp] theorem removeEntity_id (zone : Zone) (id : EntityId) :
    (zone.removeEntity id).id = zone.id := rfl

end Zone

end Seej
