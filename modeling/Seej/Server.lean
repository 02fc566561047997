import Seej.FailingReads
import Seej.Foundation.CheckedArithmetic
import Seej.Foundation.Process
import Seej.RestartParity

/-!
# Server

The daemon that creates a world, runs its ticks and lists the worlds of a data
directory.  A command is a process over one runtime: what the file system answers to its
calls, the shutdown signal and the moment of a kill come from outside.
-/

namespace Seej

open Foundation

instance : ToString ApiError where
  toString
    | .noWorldLoaded => "No world is currently loaded"
    | .worldAlreadyExists id => s!"World already exists: {id}"
    | .worldNotFound id => s!"World not found: {id}"
    | .entityNotFound id => s!"Entity not found: {id}"
    | .zoneNotFound id => s!"Zone not found: {id}"
    | .zoneAlreadyExists id => s!"Zone already exists: {id}"
    | .invalidCommand message => s!"Invalid command: {message}"
    | .validationFailed errors =>
        "Validation failed: [" ++ ", ".intercalate (errors.map ValidationError.debug) ++ "]"
    | .storageError message => s!"Storage error: {message}"
    | .internalError message => s!"Internal error: {message}"

/-!
## Processes of the server
-/

structure DataDir where
  basePath : PathBuf
  worlds : BTreeMap String (Directory String UInt8)

/-- Where the server may panic. -/
inductive PanicSite where
  | openLog
  | command
  | load
  | world
  | ticksRun
  | elapsed
  | position
deriving DecidableEq

/-- What the file system answers to a call of the runtime.  A process that is killed in
the call dies after the given step of a save, or after any other call. -/
structure CallIo where
  reads : LoadIo := {}
  records : List RecordIo := []
  sync : SyncIo := {}
  saves : List SaveIo := []
  killed : Option SaveStep := none

structure Host where
  runtime : ServerRuntime FilesystemStore
  calls : List CallIo

abbrev ServerProcess (ε α : Type) : Type :=
  Process Host ε PanicSite α

namespace Host

def nextCall (host : Host) : CallIo × Host :=
  (host.calls.headD {}, { host with calls := host.calls.tail })

def answer {α : Type} (io : CallIo) (result : ApiResult α) : Ended ApiError PanicSite α :=
  match io.killed, result with
  | some _, _ => .stopped .killed
  | none, .ok value => .returned value
  | none, .error e => .stopped (.failed e)

variable [MetaJson] [SnapshotJson] [Crc32] [BatchJson]

def processCommand (cmd : SimCommand) : ServerProcess ApiError (List SimEvent) :=
  fun host =>
    let (io, host) := host.nextCall
    match (host.runtime.withRecords io.records).processCommand cmd with
    | none => (.stopped (.panicked .command), host)
    | some (result, runtime) => (answer io result, { host with runtime := runtime })

def readyToSave (host : Host) (io : CallIo) : ServerRuntime FilesystemStore :=
  { host.runtime with store := host.runtime.store.withSaves io.saves }.withSyncs [io.sync]

def saveWorld : ServerProcess ApiError Unit :=
  fun host =>
    let (io, host) := host.nextCall
    match io.killed with
    | some last => (.stopped .killed, { host with runtime := (host.readyToSave io).saveUntil last })
    | none =>
        let (result, runtime) := (host.readyToSave io).saveWorld
        (answer io result, { host with runtime := runtime })

def readyToLoad (host : Host) (io : CallIo) :
    PersistentSimulation Pcg32Rng UnlimitedClock ReadLog ReadStore :=
  { sim := host.runtime.sim
    eventLog := ⟨host.runtime.eventLog, io.reads.log⟩
    store := ⟨host.runtime.store, io.reads⟩ }

def loadWorld (worldId : String) : ServerProcess ApiError (List SimEvent) :=
  fun host =>
    let (io, host) := host.nextCall
    match (host.readyToLoad io).loadWorld worldId with
    | none => (.stopped (.panicked .load), host)
    | some (result, reading) =>
        (answer io result, { host with runtime := { host.runtime with sim := reading.sim } })

def currentTick : ServerProcess String Tick :=
  Process.read fun host => host.runtime.sim.currentTick

/-- `sim.world().unwrap()`. -/
def world : ServerProcess String World :=
  fun host => Process.orPanic .world host.runtime.sim.world host

end Host

section Commands

variable [MetaJson] [SnapshotJson] [Crc32] [BatchJson]

def DataDir.logFile (dir : DataDir) (worldId : String) : Option Bytes :=
  ((dir.worlds[worldId]?).getD Directory.empty).read "events"

structure OpenIo where
  createDir : Option String := none
  log : ScanFaults := {}

def createSimulation (io : OpenIo) (dir : DataDir) (worldId : String) :
    Ended String PanicSite (ServerRuntime FilesystemStore) :=
  match FilesystemStore.new dir.basePath dir.worlds io.createDir with
  | .error e => .stopped (.failed s!"Failed to create store: {e}")
  | .ok store =>
      match store.eventsDir worldId with
      | .error e => .stopped (.failed s!"Invalid world id: {e}")
      | .ok _ =>
          match FileEventLog.openWith io.log .repair (dir.logFile worldId) with
          | none => .stopped (.panicked .openLog)
          | some (.error e) => .stopped (.failed s!"Failed to create event log: {e}")
          | some (.ok log) =>
              .returned (PersistentSimulation.new Pcg32Rng.uninitialized UnlimitedClock.new log
                (store.showLog worldId log.file))

def DataDir.left (dir : DataDir) (worldId : String) (runtime : ServerRuntime FilesystemStore)
    (ending : FileEventLog.Ending) : DataDir :=
  { dir with worlds := (runtime.store.showLog worldId (runtime.eventLog.left ending)).worlds }

structure ServerIo where
  opening : OpenIo := {}
  calls : List CallIo := []
  ending : FileEventLog.Ending := .drop []

def ServerIo.ReadsLog (io : ServerIo) : Prop :=
  io.opening.log.ReadsRecords

def withSimulation {α : Type} (io : ServerIo) (dir : DataDir) (worldId : String)
    (process : ServerProcess String α) : Ended String PanicSite α × DataDir :=
  match createSimulation io.opening dir worldId with
  | .stopped reason => (.stopped reason, dir)
  | .returned runtime =>
      let (ended, host) := process { runtime := runtime, calls := io.calls }
      (ended, dir.left worldId host.runtime io.ending)

/-!
## `run`
-/

structure LoopVars where
  ticksRun : UInt64
  lastSaveTick : UInt64

structure RunSummary where
  ticksRun : UInt64
  startTick : Tick
  finalTick : Tick
deriving DecidableEq

def logProgress (currentTick : Tick) : ServerProcess String Unit :=
  if currentTick.val % 100 = 0 then do
    let _ <- Host.world
    return ()
  else return ()

def autoSave (saveInterval : UInt64) (currentTick : Tick) (lastSaveTick : UInt64) :
    ServerProcess String UInt64 :=
  if saveInterval > 0 then do
    let elapsed <- Process.orPanic .elapsed (checkedSub64 currentTick.val lastSaveTick)
    if elapsed ≥ saveInterval then do
      Host.saveWorld.mapError fun e => s!"Auto-save failed: {e}"
      return currentTick.val
    else return lastSaveTick
  else return lastSaveTick

def runTick (saveInterval : UInt64) (vars : LoopVars) : ServerProcess String LoopVars := do
  let _ <- (Host.processCommand .tick).mapError fun e => s!"Tick failed: {e}"
  let ticksRun <- Process.orPanic .ticksRun (checkedSucc vars.ticksRun)
  let currentTick <- Host.currentTick
  logProgress currentTick
  let lastSaveTick <- autoSave saveInterval currentTick vars.lastSaveTick
  return ⟨ticksRun, lastSaveTick⟩

def runPass (maxTicks saveInterval : UInt64) (vars : LoopVars) :
    ServerProcess String (LoopVars ⊕ LoopVars) :=
  if maxTicks > 0 ∧ vars.ticksRun ≥ maxTicks then return .inr vars
  else do
    let vars <- runTick saveInterval vars
    return .inl vars

/-- `cmd_run` on its simulation.  The shutdown flag is found clear at most `passes`
times. -/
def runWorld (worldId : String) (maxTicks saveInterval : UInt64) (passes : Nat) :
    ServerProcess String RunSummary := do
  let _ <- (Host.loadWorld worldId).mapError fun e => s!"Failed to load world: {e}"
  let startTick <- Host.currentTick
  let vars <- Process.loop (runPass maxTicks saveInterval) id passes ⟨0, startTick.val⟩
  Host.saveWorld.mapError fun e => s!"Shutdown save failed: {e}"
  let finalTick <- Host.currentTick
  return ⟨vars.ticksRun, startTick, finalTick⟩

def cmdRun (io : ServerIo) (dir : DataDir) (worldId : String) (maxTicks saveInterval : UInt64)
    (passes : Nat) : Ended String PanicSite RunSummary × DataDir :=
  withSimulation io dir worldId (runWorld worldId maxTicks saveInterval passes)

/-!
## `create`
-/

/-- `(i as i32 % 10) * 10` and `(i as i32 / 10) * 10`. -/
def gridPosition (i : UInt32) : Option (Int32 × Int32) := do
  let x <- checkedMulI32 (i.toInt32 % 10) 10
  let y <- checkedMulI32 (i.toInt32 / 10) 10
  return (x, y)

def resourceAt (i : UInt32) : Option SpawnEntityCmd := do
  let (x, y) <- gridPosition i
  return { position := ⟨ZoneId.origin, ⟨x, y, 0⟩⟩
           kind := .resource
           properties := { name := some s!"Resource_{i}", amount := some 100, health := none } }

def creatureAt (i : UInt32) : Option SpawnEntityCmd := do
  let (x, y) <- gridPosition i
  let x <- checkedAddI32 x 5
  let y <- checkedAddI32 y 5
  return { position := ⟨ZoneId.origin, ⟨x, y, 0⟩⟩
           kind := .creature
           properties := { name := some s!"Creature_{i}", amount := none, health := some 100 } }

def spawnNumber (place : UInt32 -> Option SpawnEntityCmd) (failure : String) (i : Nat) :
    ServerProcess String Unit := do
  let cmd <- Process.orPanic .position (place (UInt32.ofNat i))
  let _ <- (Host.processCommand (.spawnEntity cmd)).mapError fun e => s!"{failure}: {e}"
  return ()

def foundWorld (name : String) (seed : UInt64) : ServerProcess String Unit := do
  let _ <- (Host.processCommand (.createWorld ⟨name, ⟨seed⟩⟩)).mapError fun e =>
    s!"Failed to create world: {e}"
  let _ <- Host.world
  Host.saveWorld.mapError fun e => s!"Failed to save genesis world: {e}"

def populate (resources creatures : UInt32) : ServerProcess String Unit := do
  Process.forRange (spawnNumber resourceAt "Failed to spawn resource") 0 resources.toNat
  Process.forRange (spawnNumber creatureAt "Failed to spawn creature") 0 creatures.toNat
  Host.saveWorld.mapError fun e => s!"Failed to save world: {e}"

/-- `cmd_create` on its simulation. -/
def createWorld (name : String) (seed : UInt64) (resources creatures : UInt32) :
    ServerProcess String Unit := do
  foundWorld name seed
  populate resources creatures

def cmdCreate (io : ServerIo) (dir : DataDir) (name : String) (seed : UInt64)
    (resources creatures : UInt32) : Ended String PanicSite Unit × DataDir :=
  withSimulation io dir s!"world_{seed}" (createWorld name seed resources creatures)

/-!
## `list`
-/

def worldLine (store : FilesystemStore) (reads : String -> ReadIo) (worldId : String) : String :=
  match store.loadMetaWith (reads worldId) worldId with
  | .ok worldMeta =>
      s!"  {worldId} - '{worldMeta.name}' (tick {worldMeta.currentTick}, seed {worldMeta.seed.val})"
  | .error _ => s!"  {worldId} (metadata unavailable)"

/-- What `list` prints, over the entries in the order in which `read_dir` gives them. -/
def cmdList (createDir : Option String) (fault : Option ListFault) (reads : String -> ReadIo)
    (entries : List String) (dir : DataDir) : Except String (List String) :=
  match FilesystemStore.new dir.basePath dir.worlds createDir with
  | .error e => .error s!"Failed to open store: {e}"
  | .ok store =>
      match store.listWorlds fault entries with
      | .error e => .error s!"Failed to list worlds: {e}"
      | .ok worlds =>
          if worlds.isEmpty then .ok [s!"No worlds found in {debugText dir.basePath}"]
          else .ok ("Available worlds:" :: worlds.map (worldLine store reads))

end Commands

end Seej
