import Seej.Ports
import Seej.Validation
import Seej.World

/-!
# Simulation

The pure simulation engine: one command in, events and a new state out.  Each
function takes the engine and returns it with the result; the outer `Option` is
`none` where an unchecked `+= 1` overflows and the thread panics.
-/

namespace Seej

open Foundation

structure SimulationCheckpoint where
  world : Option World
  rngSeed : RngSeed
  rngState : UInt64
  clockTick : Tick

structure Simulation (R C : Type) where
  world : Option World
  rng : R
  clock : C
  pendingEvents : List SimEvent

/-!
## Tick systems

The loops of `run_tick_systems` run over the world, the generator and the
pending events; `TickState` is that part of the engine.
-/

structure TickState (R : Type) where
  world : World
  rng : R
  pendingEvents : List SimEvent

namespace TickState

variable {R : Type} [IRng R]

/-- `self.pending_events.push(SimEvent::new(world.current_tick, data))`. -/
def push (st : TickState R) (data : EventData) : TickState R :=
  { st with pendingEvents := st.pendingEvents ++ [SimEvent.new st.world.currentTick data] }

/-- `0.01_f32`. -/
def depletionChance : F32 := ⟨10737418, 30⟩

/-- `0.005_f32`. -/
def degradationChance : F32 := ⟨10737418, 31⟩

def kill (st : TickState R) (entityId : EntityId) : TickState R :=
  match st.world.entities[entityId]? with
  | some entity =>
      { st with
        world := st.world.updateEntity entityId (fun e => { e with state := .dead }) }.push
        (.entityStateChanged entityId entity.state .dead)
  | none => st

def depleteResource (st : TickState R) (entityId : EntityId) (amount : UInt32) :
    TickState R :=
  if amount > 0 then
    match IRng.chance st.rng depletionChance with
    | (true, rng) =>
        let newAmount := amount - 1
        let st := { st with
          rng := rng
          world := st.world.updateEntity entityId (fun e =>
            { e with properties := { e.properties with amount := some newAmount } }) }
        let st := st.push (.resourceDepleted entityId 1 newAmount)
        if newAmount = 0 then st.kill entityId else st
    | (false, rng) => { st with rng := rng }
  else st

def degradeCreature (st : TickState R) (entityId : EntityId) (health : UInt32) :
    TickState R :=
  if health > 0 then
    match IRng.chance st.rng degradationChance with
    | (true, rng) =>
        let newHealth := health - 1
        let st := { st with rng := rng }
        let st :=
          match st.world.entities[entityId]? with
          | some _ =>
              { st with
                world := st.world.updateEntity entityId (fun e =>
                  { e with properties :=
                    { e.properties with health := some newHealth } }) }.push
                (.entityDegraded entityId health newHealth)
          | none => st
        if newHealth = 0 then st.kill entityId else st
    | (false, rng) => { st with rng := rng }
  else st

def applyRule (st : TickState R) (entityId : EntityId) (entity : Entity) : TickState R :=
  match entity.kind with
  | .resource =>
      match entity.properties.amount with
      | some amount => st.depleteResource entityId amount
      | none => st
  | .creature =>
      match entity.properties.health with
      | some health => st.degradeCreature entityId health
      | none => st
  | _ => st

def processEntities : List EntityId -> UInt32 -> TickState R ->
    Option (UInt32 × TickState R)
  | [], processed, st => some (processed, st)
  | entityId :: rest, processed, st =>
      match st.world.entities[entityId]? with
      | none => processEntities rest processed st
      | some entity => do
          let processed <- checkedSucc32 processed
          processEntities rest processed (st.applyRule entityId entity)

def removeDead : List EntityId -> TickState R -> TickState R
  | [], st => st
  | id :: rest, st =>
      match st.world.removeEntity id with
      | some (_, world) =>
          removeDead rest
            ({ st with world := world }.push (.entityDespawned id .death))
      | none => removeDead rest st

def cleanUp (st : TickState R) : TickState R :=
  if st.world.currentTick.val % 100 = 0 then
    removeDead
      (((BTreeMap.values st.world.entities).filter Entity.isDead).map Entity.id) st
  else st

def runTickSystems (st : TickState R) : Option (UInt32 × TickState R) := do
  let entityIds := ((BTreeMap.values st.world.entities).filter Entity.isActive).map Entity.id
  let (processed, st) <- processEntities entityIds 0 st
  return (processed, st.cleanUp)

end TickState

/-!
## Engine
-/

namespace Simulation

variable {R C : Type} [IRng R] [ISimClock C]

def new (rng : R) (clock : C) : Simulation R C :=
  { world := none, rng := rng, clock := clock, pendingEvents := [] }

def loadWorldState (sim : Simulation R C) (world : World) : Simulation R C :=
  { world := some world
    rng := IRng.restoreSeeded sim.rng world.worldMeta.seed world.rngState
    clock := ISimClock.setTick sim.clock world.currentTick
    pendingEvents := [] }

def clearWorld (sim : Simulation R C) : Simulation R C :=
  { sim with
    world := none
    clock := ISimClock.setTick sim.clock Tick.zero
    pendingEvents := [] }

def currentTick (sim : Simulation R C) : Tick :=
  match sim.world with
  | some world => world.currentTick
  | none => Tick.zero

def checkpoint (sim : Simulation R C) : SimulationCheckpoint :=
  { world := sim.world
    rngSeed := IRng.seed sim.rng
    rngState := IRng.state sim.rng
    clockTick := ISimClock.currentTick sim.clock }

def restoreCheckpoint (sim : Simulation R C) (checkpoint : SimulationCheckpoint) :
    Simulation R C :=
  { world := checkpoint.world
    rng := IRng.restoreSeeded sim.rng checkpoint.rngSeed checkpoint.rngState
    clock := ISimClock.setTick sim.clock checkpoint.clockTick
    pendingEvents := [] }

def emit (sim : Simulation R C) (data : EventData) : Simulation R C :=
  { sim with pendingEvents := sim.pendingEvents ++ [SimEvent.new sim.currentTick data] }

/-!
## Commands
-/

def cmdCreateWorld (sim : Simulation R C) (cmd : CreateWorldCmd) :
    ApiResult Unit × Simulation R C :=
  match sim.world with
  | some world => (.error (.worldAlreadyExists world.id), sim)
  | none =>
      let world := World.new cmd.name cmd.seed
      let sim := { sim with
        rng := IRng.restoreSeeded sim.rng cmd.seed cmd.seed.val
        clock := ISimClock.setTick sim.clock Tick.zero }
      let sim := sim.emit (.worldCreated world.id cmd.name cmd.seed)
      let sim := sim.emit (.zoneCreated ZoneId.origin (some "Origin"))
      (.ok (), { sim with world := some world })

def cmdTick (sim : Simulation R C) : Option (ApiResult Unit × Simulation R C) :=
  match sim.world with
  | none => some (.error .noWorldLoaded, sim)
  | some world => do
      let world := world.advanceTick
      let clock := ISimClock.setTick sim.clock world.currentTick
      let (entitiesProcessed, st) <-
        TickState.runTickSystems ⟨world, sim.rng, sim.pendingEvents⟩
      let rngStateAfter := IRng.state st.rng
      let sim : Simulation R C :=
        { world := some { st.world with rngState := rngStateAfter }
          rng := st.rng
          clock := clock
          pendingEvents := st.pendingEvents }
      return (.ok (), sim.emit
        (.tickProcessed world.currentTick world.simTime entitiesProcessed
          (some rngStateAfter)))

def cmdSpawnEntity (sim : Simulation R C) (cmd : SpawnEntityCmd) :
    Option (ApiResult Unit × Simulation R C) :=
  match sim.world with
  | none => some (.error .noWorldLoaded, sim)
  | some world =>
      if world.hasZone cmd.position.zone then do
        let (id, world) <- world.allocateEntityId
        let entity := Entity.new id cmd.kind cmd.position world.currentTick cmd.properties
        let sim := { sim with world := some (world.addEntity entity) }
        return (.ok (), sim.emit
          (.entitySpawned id cmd.kind cmd.position cmd.properties))
      else
        some (.error (.zoneNotFound cmd.position.zone), sim)

def cmdDespawnEntity (sim : Simulation R C) (id : EntityId) :
    ApiResult Unit × Simulation R C :=
  match sim.world with
  | none => (.error .noWorldLoaded, sim)
  | some world =>
      match world.removeEntity id with
      | none => (.error (.entityNotFound id), sim)
      | some (_, world) =>
          (.ok (), { sim with world := some world }.emit (.entityDespawned id .command))

def cmdCreateZone (sim : Simulation R C) (cmd : CreateZoneCmd) :
    ApiResult Unit × Simulation R C :=
  match sim.world with
  | none => (.error .noWorldLoaded, sim)
  | some world =>
      if world.hasZone cmd.zoneId then
        (.error (.zoneAlreadyExists cmd.zoneId), sim)
      else
        let world := world.addZone (Zone.new cmd.zoneId cmd.name)
        (.ok (), { sim with world := some world }.emit (.zoneCreated cmd.zoneId cmd.name))

/-- The loop of `TickN`, stopping at the first error. -/
def cmdTickN : Nat -> Simulation R C -> Option (ApiResult Unit × Simulation R C)
  | 0, sim => some (.ok (), sim)
  | n + 1, sim => do
      match <- sim.cmdTick with
      | (.error e, sim) => some (.error e, sim)
      | (.ok (), sim) => cmdTickN n sim

def finish (checkpoint : SimulationCheckpoint) :
    ApiResult Unit × Simulation R C -> ApiResult (List SimEvent) × Simulation R C
  | (.error e, sim) => (.error e, sim.restoreCheckpoint checkpoint)
  | (.ok (), sim) => (.ok sim.pendingEvents, { sim with pendingEvents := [] })

/-- `process_command` after validation.  The `?` in the loop of `TickN` leaves
the function at once, so an error there does not pass the rollback. -/
def processValid (sim : Simulation R C) (cmd : SimCommand) :
    Option (ApiResult (List SimEvent) × Simulation R C) :=
  let checkpoint := sim.checkpoint
  match cmd with
  | .createWorld c => some (finish checkpoint (sim.cmdCreateWorld c))
  | .tick => sim.cmdTick.map (finish checkpoint)
  | .tickN n =>
      match sim.cmdTickN n.toNat with
      | none => none
      | some (.error e, sim) => some (.error e, sim)
      | some (.ok (), sim) => some (finish checkpoint (.ok (), sim))
  | .spawnEntity c => (sim.cmdSpawnEntity c).map (finish checkpoint)
  | .despawnEntity id => some (finish checkpoint (sim.cmdDespawnEntity id))
  | .createZone c => some (finish checkpoint (sim.cmdCreateZone c))

def processCommand (sim : Simulation R C) (cmd : SimCommand) :
    Option (ApiResult (List SimEvent) × Simulation R C) :=
  match validateSimCommand cmd with
  | .error errors => some (.error (.validationFailed errors), sim)
  | .ok () => processValid { sim with pendingEvents := [] } cmd

end Simulation

end Seej
