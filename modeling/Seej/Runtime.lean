import Seej.Persistence
import Seej.Replay
import Seej.Simulation

/-!
# Persistent runtime

Snapshots, log and recovery around the pure engine.  A command is committed to
the log before its state is accepted; recovery loads the snapshot, checks it
against the mirrored metadata and the log, and replays what follows its cursor.
-/

namespace Seej

open Foundation

/-!
## Cursor checks
-/

def validateSnapshotWorldId (world : World) (requestedWorldId : String) : SimResult Unit :=
  ensure (world.id = requestedWorldId)
    (.corruptedState s!"Snapshot world_id mismatch: requested {requestedWorldId}, snapshot {world.id}")

/-- The four strict and non-strict comparisons of a mirror left by an interrupted
save. -/
def isStaleMetaFromInterruptedSave (snapshotMeta fileMeta : WorldMeta) : Bool :=
  snapshotMeta.worldId = fileMeta.worldId ∧
    snapshotMeta.seed = fileMeta.seed ∧
    snapshotMeta.formatVersion = fileMeta.formatVersion ∧
    snapshotMeta.createdTick = fileMeta.createdTick ∧
    fileMeta.lastEventId < snapshotMeta.lastEventId ∧
    fileMeta.snapshotTick ≤ snapshotMeta.snapshotTick ∧
    fileMeta.currentTick ≤ snapshotMeta.currentTick ∧
    fileMeta.simTime ≤ snapshotMeta.simTime

def validateRecoveredMetaMirror (snapshotMeta fileMeta : WorldMeta) : SimResult Unit :=
  if snapshotMeta = fileMeta then .ok ()
  else if isStaleMetaFromInterruptedSave snapshotMeta fileMeta then .ok ()
  else .error (.corruptedState "meta.json does not match snapshot metadata")

def isMissingMetaError : SimError -> Bool
  | .notFound _ => true
  | _ => false

def validateWalCoversSnapshot (snapshotLastEventId walLastEventId : EventId) :
    SimResult Unit :=
  ensure (¬ walLastEventId < snapshotLastEventId)
    (.corruptedState s!"WAL cursor is behind snapshot cursor: wal last_event_id {walLastEventId} < snapshot last_event_id {snapshotLastEventId}")

def validateWalCursorMatchesDurableTail (announcedWalLastEventId
    durableWalLastEventId : EventId) : SimResult Unit :=
  ensure (announcedWalLastEventId = durableWalLastEventId)
    (.corruptedState s!"WAL cursor does not match durable tail: announced last_event_id {announcedWalLastEventId} != durable last_event_id {durableWalLastEventId}")

/-- The loop over events whose identifiers must run upwards by one.  It returns
the identifier that would follow. -/
def expectEventIds (message : EventId -> EventId -> String) :
    EventId -> List SimEvent -> SimResult EventId
  | expected, [] => .ok expected
  | expected, event :: rest => do
      ensure (event.eventId = expected) (.corruptedState (message expected event.eventId))
      expectEventIds message expected.next rest

def validateWalPrefixIsContiguous (events : List SimEvent) : SimResult Unit := do
  let _ <- expectEventIds (fun expected found =>
    s!"WAL prefix is not contiguous: expected event_id {expected}, found {found}") ⟨1⟩ events
  return ()

def validateReplayCoversWalTail (snapshotLastEventId walLastEventId : EventId)
    (replayed : List SimEvent) : SimResult Unit := do
  let expected <- expectEventIds (fun expected found =>
    s!"WAL replay range is incomplete: expected event_id {expected}, found {found}")
    snapshotLastEventId.next replayed
  ensure (expected = walLastEventId.next)
    (.corruptedState s!"WAL replay range ended before WAL cursor: next expected event_id {expected}, wal last_event_id {walLastEventId}")

/-!
## Recovery
-/

section Recovery

variable {E S : Type} [IEventLog E] [IWorldStore S] [SnapshotJson]

def checkRecoveredMeta (store : S) (worldId : String) (world : World) : SimResult Unit :=
  match IWorldStore.loadMeta store worldId with
  | .ok fileMeta => validateRecoveredMetaMirror world.worldMeta fileMeta
  | .error err => if isMissingMetaError err then .ok () else .error err

/-- Everything before the replay: the snapshot world, and the events after its
cursor. -/
def selectReplay (store : S) (eventLog : E) (worldId : String) :
    SimResult (World × List SimEvent) := do
  validateWorldIdResult worldId
  let snapshot <- IWorldStore.loadSnapshot store worldId
  let world <- decodeWorld snapshot
  validateSnapshotWorldId world worldId
  checkRecoveredMeta store worldId world
  let lastEventId := world.worldMeta.lastEventId
  let announcedWalLastEventId := IEventLog.lastEventId eventLog
  let allEvents <- IEventLog.readAllValid eventLog
  let durableWalLastEventId := durableLastEventId allEvents
  validateWalCursorMatchesDurableTail announcedWalLastEventId durableWalLastEventId
  validateWalPrefixIsContiguous allEvents
  validateWalCoversSnapshot lastEventId durableWalLastEventId
  let replayed := allEvents.filter (fun event => event.eventId > lastEventId)
  validateReplayCoversWalTail lastEventId durableWalLastEventId replayed
  return (world, replayed)

/-- Load a snapshot and replay the durable events after its cursor. -/
def loadRecoveredWorld (store : S) (eventLog : E) (worldId : String) :
    Option (SimResult (World × List SimEvent)) :=
  match selectReplay store eventLog worldId with
  | .error e => some (.error e)
  | .ok (world, replayed) =>
      match replayEvents world replayed with
      | none => none
      | some (.error e, _) => some (.error (.corruptedState s!"Replay failed: {e}"))
      | some (.ok _, world) => some (.ok (world, replayed))

end Recovery

/-!
## Runtime
-/

/-- Commits core events to the log before accepting state. -/
structure PersistentSimulation (R C E S : Type) where
  sim : Simulation R C
  eventLog : E
  store : S

/-- The world that a save writes: the metadata mirror the clock and name the last
event of the log. -/
def World.stampForSave (world : World) (walLastEventId : EventId) : World :=
  { world with
    worldMeta := { world.worldMeta with
      currentTick := world.currentTick
      simTime := world.simTime
      snapshotTick := world.currentTick
      lastEventId := walLastEventId } }

/-- `map_err(|e| ApiError::StorageError(e.to_string()))`. -/
def storageError (e : SimError) : ApiError :=
  .storageError (toString e)

namespace PersistentSimulation

variable {R C E S : Type} [IRng R] [ISimClock C] [IEventLog E] [IWorldStore S]

def new (rng : R) (clock : C) (eventLog : E) (store : S) : PersistentSimulation R C E S :=
  { sim := Simulation.new rng clock, eventLog := eventLog, store := store }

/-- The checks that `CreateWorld` passes before it runs. -/
def checkCreateWorld (ps : PersistentSimulation R C E S) (cmd : CreateWorldCmd) :
    ApiResult Unit :=
  let worldId := worldIdOfSeed cmd.seed
  match IWorldStore.storageStatus ps.store worldId with
  | .error e => .error (storageError e)
  | .ok .complete => .error (.worldAlreadyExists worldId)
  | .ok (.incomplete reason) =>
      .error (.storageError s!"Cannot create world {worldId}: incomplete persistent storage exists ({reason})")
  | .ok .absent =>
      if IEventLog.isEmpty ps.eventLog then .ok ()
      else
        .error (.storageError s!"Cannot create world {worldId}: WAL already contains {IEventLog.len ps.eventLog} durable events without a coherent snapshot/meta pair")

def checkCommand (ps : PersistentSimulation R C E S) : SimCommand -> ApiResult Unit
  | .createWorld cmd => ps.checkCreateWorld cmd
  | _ => .ok ()

def processCommand (ps : PersistentSimulation R C E S) (cmd : SimCommand) :
    Option (ApiResult (List SimEvent) × PersistentSimulation R C E S) :=
  match ps.checkCommand cmd with
  | .error e => some (.error e, ps)
  | .ok () =>
      let checkpoint := ps.sim.checkpoint
      match ps.sim.processCommand cmd with
      | none => none
      | some (.error e, sim) => some (.error e, { ps with sim := sim })
      | some (.ok events, sim) =>
          match IEventLog.appendBatch ps.eventLog events with
          | none => none
          | some (.ok persisted, eventLog) =>
              some (.ok persisted, { ps with sim := sim, eventLog := eventLog })
          | some (.error e, eventLog) =>
              some (.error (storageError e),
                { ps with sim := sim.restoreCheckpoint checkpoint, eventLog := eventLog })

variable [SnapshotJson]

/-- The durable steps of a save, each of which may fail: the log, the snapshot,
the mirrored metadata. -/
def commitSave (ps : PersistentSimulation R C E S) (world : World) (snapshot : Bytes) :
    ApiResult Unit × PersistentSimulation R C E S :=
  match IEventLog.sync ps.eventLog with
  | (.error e, eventLog) => (.error (storageError e), { ps with eventLog := eventLog })
  | (.ok (), eventLog) =>
      match IWorldStore.saveSnapshot ps.store world.id snapshot with
      | (.error e, store) =>
          (.error (storageError e), { ps with eventLog := eventLog, store := store })
      | (.ok (), store) =>
          match IWorldStore.saveMeta store world.worldMeta with
          | (.error e, store) =>
              (.error (storageError e), { ps with eventLog := eventLog, store := store })
          | (.ok (), store) =>
              (.ok (), { sim := ps.sim.loadWorldState world, eventLog := eventLog, store := store })

/-- The checks of a save, which end with the world it writes and its bytes. -/
def prepareSave (ps : PersistentSimulation R C E S) : ApiResult (World × Bytes) :=
  match ps.sim.world with
  | none => .error .noWorldLoaded
  | some world =>
      let walLastEventId := IEventLog.lastEventId ps.eventLog
      match validateWalCoversSnapshot world.worldMeta.lastEventId walLastEventId with
      | .error e => .error (storageError e)
      | .ok () =>
          let world := world.stampForSave walLastEventId
          match encodeWorld world with
          | .error e => .error (storageError e)
          | .ok snapshot => .ok (world, snapshot)

def saveWorld (ps : PersistentSimulation R C E S) :
    ApiResult Unit × PersistentSimulation R C E S :=
  match ps.prepareSave with
  | .error e => (.error e, ps)
  | .ok (world, snapshot) => ps.commitSave world snapshot

def loadWorld (ps : PersistentSimulation R C E S) (worldId : String) :
    Option (ApiResult (List SimEvent) × PersistentSimulation R C E S) :=
  match loadRecoveredWorld ps.store ps.eventLog worldId with
  | none => none
  | some (.error (.notFound _)) => some (.error (.worldNotFound worldId), ps)
  | some (.error e) => some (.error (storageError e), ps)
  | some (.ok (world, replayed)) =>
      some (.ok replayed, { ps with sim := ps.sim.loadWorldState world })

end PersistentSimulation

end Seej
