import Seej.World

/-!
# Replay

The event applier of crash recovery.  It interprets a recorded event against a
world and refuses, with a reason, every event that does not fit it.  The outer
`Option` is `none` where the unchecked `+ 1` on an entity identifier overflows.
-/

namespace Seej

open Foundation

/-- The outcome of applying one event. -/
abbrev ReplayResult : Type :=
  Option (Except String World)

def accept (world : World) : ReplayResult :=
  some (.ok world)

def refuse (message : String) : ReplayResult :=
  some (.error message)

/-!
## Clock gate
-/

/-- The clock checks made before an event is interpreted.  A lifecycle event is
decided here: it changes nothing. -/
def gateEvent (world : World) (event : SimEvent) : Except String Unit :=
  match event.data with
  | .tickProcessed tick simTime _ rngStateAfter =>
      if rngStateAfter.isNone then
        .error s!"TickProcessed missing rng_state_after at tick {tick}; legacy WAL requires explicit migration before Phase 1 recovery"
      else if event.tick ≠ tick ∨ simTime ≠ SimTime.fromTicks tick ∨
          (tick ≠ world.currentTick ∧ tick ≠ world.currentTick.next) then
        .error s!"TickProcessed mismatch: event tick {event.tick}, payload tick {tick}, payload sim_time {simTime}, expected sim_time {SimTime.fromTicks tick}, expected next tick {world.currentTick.next}, current world tick {world.currentTick}"
      else .ok ()
  | _ =>
      if event.tick ≠ world.currentTick ∧ event.tick ≠ world.currentTick.next then
        .error s!"Replay event tick mismatch: event tick {event.tick}, current world tick {world.currentTick}"
      else .ok ()

/-- An event of the next tick moves the clock before it is interpreted. -/
def advanceTo (world : World) (tick : Tick) : World :=
  if tick > world.currentTick then world.setClock tick else world

/-!
## Property changes
-/

def entityPropertyValue (entity : Entity) (property : String) :
    Except String PropertyValue :=
  if property = "name" then
    .ok (match entity.properties.name with
      | some name => .string name
      | none => .none)
  else if property = "amount" then
    .ok (match entity.properties.amount with
      | some amount => .uint amount.toUInt64
      | none => .none)
  else if property = "health" then
    .ok (match entity.properties.health with
      | some health => .uint health.toUInt64
      | none => .none)
  else
    .error s!"EntityPropertyChanged references unknown property '{property}'"

/-- The update of one property, from the value recorded in the event.  The cast
`*v as u32` keeps the low 32 bits. -/
def setEntityProperty (property : String) (newValue : PropertyValue) :
    Except String (Entity -> Entity) :=
  if property = "name" then
    match newValue with
    | .string s => .ok fun e => { e with properties := { e.properties with name := some s } }
    | _ => .error "EntityPropertyChanged name requires string value"
  else if property = "amount" then
    match newValue with
    | .uint v =>
        .ok fun e => { e with properties := { e.properties with amount := some v.toUInt32 } }
    | _ => .error "EntityPropertyChanged amount requires uint value"
  else if property = "health" then
    match newValue with
    | .uint v =>
        .ok fun e => { e with properties := { e.properties with health := some v.toUInt32 } }
    | _ => .error "EntityPropertyChanged health requires uint value"
  else
    .error s!"EntityPropertyChanged references unknown property '{property}'"

/-!
## Event interpretation

One function for each event that changes entities or zones, on the world whose
clock has already been moved.
-/

def applyWorldCreated (world : World) (worldId name : String) (seed : RngSeed) :
    ReplayResult :=
  if world.id ≠ worldId ∨ world.name ≠ name ∨ world.seed ≠ seed then
    refuse s!"WorldCreated mismatch: payload=({worldId}, {name}, {seed.val}), world=({world.id}, {world.name}, {world.seed.val})"
  else accept world

def applyTickProcessed (world : World) (tick : Tick) (simTime : SimTime)
    (rngStateAfter : Option UInt64) : ReplayResult :=
  let world :=
    if tick > world.currentTick then
      { world with
        currentTick := tick
        simTime := simTime
        worldMeta := { world.worldMeta with currentTick := tick, simTime := simTime } }
    else world
  match rngStateAfter with
  | some state => accept { world with rngState := state }
  | none => refuse "TickProcessed missing rng_state_after"

def applyZoneCreated (world : World) (zoneId : ZoneId) (name : Option String) :
    ReplayResult :=
  match world.zones[zoneId]? with
  | some zone =>
      if zone.name ≠ name ∨ zone.loaded = false ∨ zone.entities ≠ [] then
        refuse s!"ZoneCreated conflicts with existing zone {zoneId}"
      else accept world
  | none => accept { world with zones := world.zones.insert zoneId (Zone.new zoneId name) }

def applyZoneLoaded (world : World) (zoneId : ZoneId) : ReplayResult :=
  match world.zones[zoneId]? with
  | some _ => accept (world.updateZone zoneId fun zone => { zone with loaded := true })
  | none => refuse s!"ZoneLoaded references missing zone {zoneId}"

def applyZoneUnloaded (world : World) (zoneId : ZoneId) : ReplayResult :=
  match world.zones[zoneId]? with
  | some _ => accept (world.updateZone zoneId fun zone => { zone with loaded := false })
  | none => refuse s!"ZoneUnloaded references missing zone {zoneId}"

/-- The allocator after a replayed spawn, `none` where
`entity_id.as_u64() + 1` overflows. -/
def nextAfterSpawn (world : World) (entityId : EntityId) : Option UInt64 :=
  if entityId.val ≥ world.nextEntityId then checkedSucc entityId.val
  else some world.nextEntityId

def applyEntitySpawned (world : World) (tick : Tick) (entityId : EntityId)
    (kind : EntityKind) (position : WorldPos) (properties : EntityProperties) :
    ReplayResult :=
  match world.zones[position.zone]? with
  | none => refuse s!"EntitySpawned references missing zone {position.zone}"
  | some zone =>
      match world.entities[entityId]? with
      | some existing =>
          if existing.kind ≠ kind ∨ existing.position ≠ position ∨
              existing.createdAt ≠ tick ∨ existing.state ≠ .active ∨
              existing.properties ≠ properties then
            refuse s!"EntitySpawned conflicts with existing entity {entityId}"
          else if entityId ∉ zone.entities then
            refuse s!"EntitySpawned existing entity {entityId} is missing from zone index {position.zone}"
          else accept world
      | none =>
          match nextAfterSpawn world entityId with
          | some next =>
              accept ({ world with nextEntityId := next }.addEntity
                (Entity.new entityId kind position tick properties))
          | none => none

def applyEntityDespawned (world : World) (entityId : EntityId) : ReplayResult :=
  match world.removeEntity entityId with
  | some (_, world) => accept world
  | none => refuse s!"EntityDespawned references missing entity {entityId}"

def applyEntityMoved (world : World) (entityId : EntityId) (source target : WorldPos) :
    ReplayResult :=
  match world.entities[entityId]? with
  | none => refuse s!"EntityMoved references missing entity {entityId}"
  | some entity =>
      if entity.position ≠ source then
        refuse s!"EntityMoved source mismatch for {entityId}: event from {source}, current {entity.position}"
      else
        match world.zones[source.zone]? with
        | none => refuse s!"EntityMoved references missing source zone {source.zone}"
        | some sourceZone =>
            if world.zones.contains target.zone = false then
              refuse s!"EntityMoved references missing destination zone {target.zone}"
            else if entityId ∉ sourceZone.entities then
              refuse s!"EntityMoved source zone {source.zone} is missing entity {entityId}"
            else
              let world :=
                if source.zone ≠ target.zone then
                  (world.updateZone source.zone (fun zone => zone.removeEntity entityId)).updateZone
                    target.zone (fun zone => zone.addEntity entityId)
                else world
              accept (world.updateEntity entityId fun e => { e with position := target })

def applyEntityStateChanged (world : World) (entityId : EntityId)
    (oldState newState : EntityState) : ReplayResult :=
  match world.entities[entityId]? with
  | none => refuse s!"EntityStateChanged references missing entity {entityId}"
  | some entity =>
      if entity.state ≠ oldState then
        refuse s!"EntityStateChanged old_state mismatch for {entityId}: event old {oldState.debug}, current {entity.state.debug}"
      else accept (world.updateEntity entityId fun e => { e with state := newState })

def applyEntityPropertyChanged (world : World) (entityId : EntityId)
    (property : String) (oldValue newValue : PropertyValue) : ReplayResult :=
  match world.entities[entityId]? with
  | none => refuse s!"EntityPropertyChanged references missing entity {entityId}"
  | some entity =>
      match entityPropertyValue entity property with
      | .error message => refuse message
      | .ok currentValue =>
          if currentValue ≠ oldValue then
            refuse s!"EntityPropertyChanged old_value mismatch for {entityId}.{property}: event old {oldValue.debug}, current {currentValue.debug}"
          else
            match setEntityProperty property newValue with
            | .error message => refuse message
            | .ok f => accept (world.updateEntity entityId f)

def applyResourceDepleted (world : World) (entityId : EntityId)
    (amount remaining : UInt32) : ReplayResult :=
  match world.entities[entityId]? with
  | none => refuse s!"ResourceDepleted references missing entity {entityId}"
  | some entity =>
      match entity.properties.amount with
      | none => refuse s!"ResourceDepleted references entity {entityId} without amount"
      | some currentAmount =>
          -- `remaining.checked_add(*amount)`
          if UInt32.size ≤ remaining.toNat + amount.toNat then
            refuse s!"ResourceDepleted amount overflow for {entityId}: amount {amount}, remaining {remaining}"
          else if currentAmount ≠ remaining + amount then
            refuse s!"ResourceDepleted amount mismatch for {entityId}: event amount {amount}, remaining {remaining}, current {currentAmount}"
          else
            accept (world.updateEntity entityId fun e =>
              { e with properties := { e.properties with amount := some remaining } })

def applyEntityDegraded (world : World) (entityId : EntityId)
    (oldHealth newHealth : UInt32) : ReplayResult :=
  match world.entities[entityId]? with
  | none => refuse s!"EntityDegraded references missing entity {entityId}"
  | some entity =>
      match entity.properties.health with
      | none => refuse s!"EntityDegraded references entity {entityId} without health"
      | some currentHealth =>
          if currentHealth ≠ oldHealth then
            refuse s!"EntityDegraded old_health mismatch for {entityId}: event old {oldHealth}, current {currentHealth}"
          else
            accept (world.updateEntity entityId fun e =>
              { e with properties := { e.properties with health := some newHealth } })

/-- The final `match` of the applier.  The lifecycle events are decided before
it, so their arms are `unreachable!`. -/
def interpretEvent (world : World) (event : SimEvent) : ReplayResult :=
  match event.data with
  | .worldCreated worldId name seed => applyWorldCreated world worldId name seed
  | .worldLoaded _ _ => none
  | .worldSaved _ => none
  | .tickProcessed tick simTime _ rngStateAfter =>
      applyTickProcessed world tick simTime rngStateAfter
  | .zoneCreated zoneId name => applyZoneCreated world zoneId name
  | .zoneLoaded zoneId => applyZoneLoaded world zoneId
  | .zoneUnloaded zoneId => applyZoneUnloaded world zoneId
  | .entitySpawned entityId kind position properties =>
      applyEntitySpawned world event.tick entityId kind position properties
  | .entityDespawned entityId _ => applyEntityDespawned world entityId
  | .entityMoved entityId source target => applyEntityMoved world entityId source target
  | .entityStateChanged entityId oldState newState =>
      applyEntityStateChanged world entityId oldState newState
  | .entityPropertyChanged entityId property oldValue newValue =>
      applyEntityPropertyChanged world entityId property oldValue newValue
  | .resourceDepleted entityId amount remaining =>
      applyResourceDepleted world entityId amount remaining
  | .entityDegraded entityId oldHealth newHealth =>
      applyEntityDegraded world entityId oldHealth newHealth

/-!
## Applier
-/

/-- The part of the applier after the lifecycle events: the clock gate, the
clock, the interpretation. -/
def applyGated (world : World) (event : SimEvent) : ReplayResult :=
  match gateEvent world event with
  | .error message => refuse message
  | .ok () => interpretEvent (advanceTo world event.tick) event

/-- Apply a single event.  The source clones the world, applies the event to the
clone and keeps the clone only on success, so an error leaves the world as it
was. -/
def applyEvent (world : World) (event : SimEvent) : ReplayResult :=
  match event.data with
  | .worldLoaded _ tick =>
      if event.tick ≠ world.currentTick ∨ tick ≠ world.currentTick then
        refuse s!"WorldLoaded tick mismatch: event tick {event.tick}, payload tick {tick}, current world tick {world.currentTick}"
      else accept world
  | .worldSaved tick =>
      if event.tick ≠ world.currentTick ∨ tick ≠ world.currentTick then
        refuse s!"WorldSaved tick mismatch: event tick {event.tick}, payload tick {tick}, current world tick {world.currentTick}"
      else accept world
  | _ => applyGated world event

/-- Replay events in order, from `applied` events on.  The first error stops the
replay and leaves the world with the events applied so far. -/
def replayEventsFrom (applied : Nat) (world : World) :
    List SimEvent -> Option (Except String Nat × World)
  | [] => some (.ok applied, world)
  | event :: rest => do
      match <- applyEvent world event with
      | .error message => some (.error message, world)
      | .ok world => replayEventsFrom (applied + 1) world rest

def replayEvents (world : World) (events : List SimEvent) :
    Option (Except String Nat × World) :=
  replayEventsFrom 0 world events

end Seej
