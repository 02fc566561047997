import Seej.Persistence

/-!
# In-memory log and store

The test doubles of the event log and the world store.  The log is a vector of
events with a counter, which makes it the reference for the file-backed one.
-/

namespace Seej

open Foundation

/-!
## Event log
-/

structure MockEventLog where
  events : List SimEvent
  nextEventId : UInt64
deriving DecidableEq

namespace MockEventLog

def new : MockEventLog :=
  { events := [], nextEventId := 1 }

def append (log : MockEventLog) (event : SimEvent) :
    Option (SimResult SimEvent × MockEventLog) := do
  let event := { event with eventId := ⟨log.nextEventId⟩ }
  let next <- checkedSucc log.nextEventId
  return (.ok event, { events := log.events ++ [event], nextEventId := next })

/-- The loop of `append_batch`, which stops at the first error. -/
def appendEach (persisted : List SimEvent) (log : MockEventLog) :
    List SimEvent -> Option (SimResult (List SimEvent) × MockEventLog)
  | [] => some (.ok persisted, log)
  | event :: rest => do
      match <- log.append event with
      | (.error e, log) => some (.error e, log)
      | (.ok event, log) => appendEach (persisted ++ [event]) log rest

def appendBatch (log : MockEventLog) (events : List SimEvent) :
    Option (SimResult (List SimEvent) × MockEventLog) :=
  appendEach [] log events

def readFromEventId (log : MockEventLog) (fromId : EventId) : SimResult (List SimEvent) :=
  .ok (log.events.filter (fun e => e.eventId > fromId))

def readAllValid (log : MockEventLog) : SimResult (List SimEvent) :=
  .ok log.events

def lastEventId (log : MockEventLog) : EventId :=
  if log.nextEventId > 1 then ⟨log.nextEventId - 1⟩ else EventId.zero

def lastTick (log : MockEventLog) : Option Tick :=
  log.events.getLast?.map SimEvent.tick

def truncateAfter (log : MockEventLog) (eventId : EventId) :
    Option (SimResult Unit × MockEventLog) :=
  let events := log.events.filter (fun e => e.eventId ≤ eventId)
  match events.getLast? with
  | some last => do
      let next <- checkedSucc last.eventId.val
      return (.ok (), { events := events, nextEventId := next })
  | none => some (.ok (), { events := events, nextEventId := 1 })

def sync (log : MockEventLog) : SimResult Unit × MockEventLog :=
  (.ok (), log)

def len (log : MockEventLog) : Nat :=
  log.events.length

end MockEventLog

instance : IEventLog MockEventLog where
  append := MockEventLog.append
  appendBatch := MockEventLog.appendBatch
  readFromEventId := MockEventLog.readFromEventId
  readAllValid := MockEventLog.readAllValid
  lastEventId := MockEventLog.lastEventId
  lastTick := MockEventLog.lastTick
  truncateAfter := MockEventLog.truncateAfter
  sync := MockEventLog.sync
  len := MockEventLog.len

/-!
## World store
-/

structure MockWorldStore where
  metas : BTreeMap String WorldMeta
  snapshots : BTreeMap String Bytes

namespace MockWorldStore

def new : MockWorldStore :=
  { metas := ∅, snapshots := ∅ }

def storageStatus (store : MockWorldStore) (worldId : String) :
    SimResult WorldStorageStatus :=
  match store.metas.contains worldId, store.snapshots.contains worldId with
  | false, false => .ok .absent
  | true, true => .ok .complete
  | hasMeta, hasSnapshot =>
      .ok (.incomplete
        s!"mock store has meta={hasMeta} snapshot={hasSnapshot} without coherent pair")

def loadMeta (store : MockWorldStore) (worldId : String) : SimResult WorldMeta :=
  match store.metas[worldId]? with
  | some worldMeta => .ok worldMeta
  | none => .error (.notFound worldId)

def saveMeta (store : MockWorldStore) (worldMeta : WorldMeta) :
    SimResult Unit × MockWorldStore :=
  (.ok (), { store with metas := store.metas.insert worldMeta.worldId worldMeta })

def loadSnapshot (store : MockWorldStore) (worldId : String) : SimResult Bytes :=
  match store.snapshots[worldId]? with
  | some snapshot => .ok snapshot
  | none => .error (.notFound worldId)

def saveSnapshot (store : MockWorldStore) (worldId : String) (snapshot : Bytes) :
    SimResult Unit × MockWorldStore :=
  (.ok (), { store with snapshots := store.snapshots.insert worldId snapshot })

end MockWorldStore

instance : IWorldStore MockWorldStore where
  storageStatus := MockWorldStore.storageStatus
  loadMeta := MockWorldStore.loadMeta
  saveMeta := MockWorldStore.saveMeta
  loadSnapshot := MockWorldStore.loadSnapshot
  saveSnapshot := MockWorldStore.saveSnapshot

end Seej
