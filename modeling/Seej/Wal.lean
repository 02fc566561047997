import Seej.Foundation.BufferedFile
import Seej.WalRecord

/-!
# Write-ahead log

The file-backed event log.  Opening scans the file and, unless it is opened for
inspection only, cuts off what follows the last valid record.  Appending encodes
a batch as one record, writes it through the buffer of the standard library,
flushes and synchronises.  The calls of the file system answer from a script that
is part of the state; where the script ends, they succeed.
-/

namespace Seej

open Foundation

/-- The capacity of `BufWriter::new`. -/
def bufferCapacity : Nat := 8192

structure RecordIo where
  createDir : Option String := none
  openFile : Option String := none
  append : BufferedFile.AppendFaults := {}

structure SyncIo where
  flush : Option WriteFault := none
  sync : Option String := none

structure WalIo where
  records : List RecordIo := []
  syncs : List SyncIo := []
  closes : List (Option WriteFault) := []
  removes : List (Option String) := []

/-- The faults of a scan: those of opening the file, of reading the record at each
offset, and of cutting the file. -/
structure ScanFaults where
  openFile : Option String := none
  metadata : Option String := none
  record : Nat -> ReadFaults := fun _ => ReadFaults.none
  truncateOpen : Option String := none
  setLen : Option String := none

inductive OpenMode where
  | repair
  | readOnly
deriving DecidableEq

/-- The log together with the file at its path, the length of it that is
synchronised, and the answers of the file system. -/
structure FileEventLog where
  file : Option Bytes
  synced : Nat
  writer : Option Bytes
  nextEventId : UInt64
  lastTick : Option Tick
  totalEvents : Nat
  readError : Option SimError
  io : WalIo

namespace FileEventLog

/-!
## The writer
-/

def stream (log : FileEventLog) : BufferedFile UInt8 :=
  { file := log.file.getD [], synced := log.synced, buffer := log.writer.getD [] }

def withStream (log : FileEventLog) (b : BufferedFile UInt8) : FileEventLog :=
  { log with file := some b.file, synced := b.synced, writer := some b.buffer }

def ensureWriter (log : FileEventLog) (io : RecordIo) : SimResult Unit × FileEventLog :=
  match log.writer with
  | some _ => (.ok (), log)
  | none =>
      match io.createDir with
      | some e => (.error (.persistenceError s!"Failed to create WAL dir: {e}"), log)
      | none =>
          match io.openFile with
          | some e => (.error (.persistenceError s!"Failed to open WAL: {e}"), log)
          | none => (.ok (), log.withStream log.stream)

def appendError : BufferedFile.AppendStep × String -> SimError
  | (.write, e) => .persistenceError s!"Write WAL records failed: {e}"
  | (.flush, e) => .persistenceError s!"Flush failed: {e}"
  | (.sync, e) => .persistenceError s!"Sync failed: {e}"

def nextRecordIo (log : FileEventLog) : RecordIo × FileEventLog :=
  (log.io.records.headD {}, { log with io := { log.io with records := log.io.records.tail } })

def writeRecords (log : FileEventLog) (bytes : Bytes) : SimResult Unit × FileEventLog :=
  let (io, log) := log.nextRecordIo
  match log.ensureWriter io with
  | (.error e, log) => (.error e, log)
  | (.ok (), log) =>
      let (result, b) := log.stream.append bufferCapacity bytes io.append
      (result.mapError appendError, log.withStream b)

/-- `self.writer = None`, which flushes the buffer and ignores an error. -/
def closeWriter (log : FileEventLog) : FileEventLog :=
  match log.writer with
  | none => log
  | some _ =>
      let (_, b) := log.stream.flush (log.io.closes.headD none)
      { log with
        file := some b.file
        synced := b.synced
        writer := none
        io := { log.io with closes := log.io.closes.tail } }

def sync (log : FileEventLog) : SimResult Unit × FileEventLog :=
  match log.writer with
  | none => (.ok (), log)
  | some _ =>
      let io := log.io.syncs.headD {}
      let log := { log with io := { log.io with syncs := log.io.syncs.tail } }
      match log.stream.flush io.flush with
      | (.error e, b) => (.error (.persistenceError s!"Flush failed: {e}"), log.withStream b)
      | (.ok (), b) =>
          let (result, b) := b.sync io.sync
          (result.mapError (fun e => .persistenceError s!"Sync failed: {e}"), log.withStream b)

/-!
## Appending
-/

section Append

variable [Crc32] [BatchJson]

def writeEvent (log : FileEventLog) (event : SimEvent) :
    Option (SimResult SimEvent × FileEventLog) :=
  let event := { event with eventId := ⟨log.nextEventId⟩ }
  match encodeEventRecord [event] with
  | .error e => some (.error e, log)
  | .ok record =>
      match log.writeRecords record with
      | (.error e, log) => some (.error e, log)
      | (.ok (), log) => do
          let next <- checkedSucc log.nextEventId
          return (.ok event,
            { log with
              nextEventId := next
              lastTick := some event.tick
              totalEvents := log.totalEvents + 1 })

def append (log : FileEventLog) (event : SimEvent) :
    Option (SimResult SimEvent × FileEventLog) :=
  log.writeEvent event

def assignIds : UInt64 -> List SimEvent -> Option (List SimEvent × UInt64)
  | next, [] => some ([], next)
  | next, event :: rest => do
      let later <- checkedSucc next
      let (persisted, final) <- assignIds later rest
      return ({ event with eventId := ⟨next⟩ } :: persisted, final)

def appendBatch (log : FileEventLog) (events : List SimEvent) :
    Option (SimResult (List SimEvent) × FileEventLog) :=
  if events = [] then some (.ok [], log)
  else do
    let (persisted, next) <- assignIds log.nextEventId events
    match encodeEventRecord persisted with
    | .error e => return (.error e, log)
    | .ok record =>
        match log.writeRecords record with
        | (.error e, log) => return (.error e, log)
        | (.ok (), log) =>
            return (.ok persisted,
              { log with
                nextEventId := next
                lastTick := (persisted.getLast?.map SimEvent.tick).or log.lastTick
                totalEvents := log.totalEvents + persisted.length })

end Append

/-!
## Scanning
-/

def noteEvents (log : FileEventLog) (events : List SimEvent) : Option FileEventLog :=
  match events.getLast? with
  | none => some log
  | some last => do
      let next <- checkedSucc last.eventId.val
      return { log with
        nextEventId := next
        lastTick := some last.tick
        totalEvents := log.totalEvents + events.length }

section Scan

variable [Crc32] [BatchJson]

/-- The loop of `recover`, which ends with the offset after the last valid
record.  The fuel is more than the file has records. -/
def recoverFrom (faults : ScanFaults) (mode : OpenMode) (file : Bytes) :
    Nat -> Nat -> FileEventLog -> Option (SimResult (FileEventLog × Nat))
  | 0, offset, log => some (.ok (log, offset))
  | fuel + 1, offset, log =>
      if offset < file.length then
        match readRecordAt (faults.record offset) file offset with
        | .ok (events, next) => do
            let log <- log.noteEvents events
            match faults.record offset .recordEnd with
            | some e => return .error (.persistenceError s!"Stream position error: {e}")
            | none => recoverFrom faults mode file fuel next log
        | .error e =>
            match mode with
            | .readOnly => some (.ok ({ log with readError := some e }, offset))
            | .repair => some (.ok (log, offset))
      else some (.ok (log, offset))

def closed (file : Option Bytes) : FileEventLog :=
  { file := file
    synced := (file.getD []).length
    writer := none
    nextEventId := 1
    lastTick := none
    totalEvents := 0
    readError := none
    io := {} }

def repairTail (faults : ScanFaults) (log : FileEventLog) (file : Bytes)
    (lastValidOffset : Nat) : SimResult FileEventLog := do
  failIf faults.truncateOpen "Failed to open WAL for truncate"
  failIf faults.setLen "Failed to truncate WAL"
  let kept := file.take lastValidOffset
  return { log with file := some kept, synced := kept.length }

def openWith (faults : ScanFaults) (mode : OpenMode) (file : Option Bytes) :
    Option (SimResult FileEventLog) :=
  match file with
  | none => some (.ok (closed none))
  | some bytes =>
      match failIf faults.openFile "Failed to open WAL",
        failIf faults.metadata "Failed to get WAL metadata" with
      | .error e, _ => some (.error e)
      | .ok (), .error e => some (.error e)
      | .ok (), .ok () => do
          match <- recoverFrom faults mode bytes (bytes.length + 1) 0 (closed (some bytes)) with
          | .error e => return .error e
          | .ok (log, lastValidOffset) =>
              if mode = .repair ∧ lastValidOffset < bytes.length then
                return log.repairTail faults bytes lastValidOffset
              else return .ok log

/-- `FileEventLog::new`, without a fault of the file system. -/
def new (file : Option Bytes) : Option (SimResult FileEventLog) :=
  openWith {} .repair file

/-- `FileEventLog::open_read_only`, without a fault of the file system. -/
def openReadOnly (file : Option Bytes) : Option (SimResult FileEventLog) :=
  openWith {} .readOnly file

/-!
## Reading
-/

/-- The loop of `read_all_events`. -/
def readFrom (faults : ScanFaults) (file : Bytes) : Nat -> Nat -> SimResult (List SimEvent)
  | 0, _ => .ok []
  | fuel + 1, offset =>
      if offset < file.length then
        match readRecordAt (faults.record offset) file offset with
        | .ok (events, next) => do
            failIf (faults.record offset .recordEnd) "Stream position error"
            let later <- readFrom faults file fuel next
            return events ++ later
        | .error _ => .ok []
      else .ok []

def readAllEvents (faults : ScanFaults) (log : FileEventLog) : SimResult (List SimEvent) :=
  match log.readError, log.file with
  | some e, _ => .error e
  | none, none => .ok []
  | none, some file => do
      failIf faults.openFile "Failed to open WAL"
      failIf faults.metadata "Failed to get WAL metadata"
      readFrom faults file (file.length + 1) 0

def readAllValid (log : FileEventLog) : SimResult (List SimEvent) :=
  log.readAllEvents {}

def readFromEventId (log : FileEventLog) (fromId : EventId) : SimResult (List SimEvent) := do
  let all <- log.readAllEvents {}
  return all.filter (fun e => e.eventId > fromId)

def lastEventId (log : FileEventLog) : EventId :=
  if log.nextEventId > 1 then ⟨log.nextEventId - 1⟩ else EventId.zero

def len (log : FileEventLog) : Nat :=
  log.totalEvents

/-!
## Truncating
-/

/-- `fs::remove_file`, if there is a file. -/
def removeFile (log : FileEventLog) : SimResult Unit × FileEventLog :=
  match log.file with
  | none => (.ok (), log)
  | some _ =>
      let removes := log.io.removes.tail
      let log' := { log with io := { log.io with removes := removes } }
      match log.io.removes.headD none with
      | some e => (.error (.persistenceError s!"Failed to delete WAL: {e}"), log')
      | none => (.ok (), { log' with file := none, synced := 0 })

def rewrite (log : FileEventLog) : List SimEvent -> Option (SimResult Unit × FileEventLog)
  | [] => some (.ok (), log)
  | event :: rest => do
      match <- log.writeEvent { event with eventId := EventId.zero } with
      | (.error e, log) => return (.error e, log)
      | (.ok _, log) => rewrite log rest

def truncateAfter (log : FileEventLog) (eventId : EventId) :
    Option (SimResult Unit × FileEventLog) :=
  let log := log.closeWriter
  match log.readAllEvents {} with
  | .error e => some (.error e, log)
  | .ok all =>
      let eventsToKeep := all.filter (fun e => e.eventId ≤ eventId)
      match log.removeFile with
      | (.error e, log) => some (.error e, log)
      | (.ok (), log) =>
          rewrite { log with nextEventId := 1, lastTick := none, totalEvents := 0 } eventsToKeep

end Scan

/-!
## The end of a process
-/

/-- The file left by dropping the log. -/
def close (log : FileEventLog) : Option Bytes :=
  log.closeWriter.file

/-- The file left by a crash. -/
def crash (log : FileEventLog) (cut : Nat) : Option Bytes :=
  log.file.map fun _ => (log.stream.crash cut).file

/-- The ways in which a process ends: a crash, which may lose what was not
synchronised, or dropping the log, which flushes its buffer as far as the file
system lets it. -/
inductive Ending where
  | crash (cut : Nat)
  | drop (faults : List (Option WriteFault))

def left (log : FileEventLog) : Ending -> Option Bytes
  | .crash cut => log.crash cut
  | .drop faults => { log with io := { log.io with closes := faults } }.close

/-- The log with the answers to its next calls of `write_records`. -/
def withRecords (log : FileEventLog) (records : List RecordIo) : FileEventLog :=
  { log with io := { log.io with records := records } }

/-- The log with the answers to its next calls of `sync`. -/
def withSyncs (log : FileEventLog) (syncs : List SyncIo) : FileEventLog :=
  { log with io := { log.io with syncs := syncs } }

end FileEventLog

instance [Crc32] [BatchJson] : IEventLog FileEventLog where
  append := FileEventLog.append
  appendBatch := FileEventLog.appendBatch
  readFromEventId := FileEventLog.readFromEventId
  readAllValid := FileEventLog.readAllValid
  lastEventId := FileEventLog.lastEventId
  lastTick := FileEventLog.lastTick
  truncateAfter := FileEventLog.truncateAfter
  sync := FileEventLog.sync
  len := FileEventLog.len

end Seej
