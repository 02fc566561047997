import Seej.FilesystemRun
import Seej.WalRepair

/-!
# Reads that fail

Any call that reads may fail.  A load then reports an error, or it finds what it would
have found without the fault: a log that a fault cuts short does not end where it
announces.  Opening the log for repair also reports what fails, except in one place: a
record that cannot be read is taken for the end of the log and cut off.
-/

namespace Seej

open Foundation

/-!
## Stores and logs that are read with faults
-/

structure LoadIo where
  snapshot : ReadIo := {}
  worldMeta : ReadIo := {}
  log : ScanFaults := {}

structure ReadStore where
  store : FilesystemStore
  io : LoadIo

structure ReadLog where
  log : FileEventLog
  faults : ScanFaults

def ReadStore.over {α : Type} (reading : ReadStore) (result : α × FilesystemStore) :
    α × ReadStore :=
  (result.1, { reading with store := result.2 })

def ReadLog.over {α : Type} (reading : ReadLog) (result : α × FileEventLog) : α × ReadLog :=
  (result.1, { reading with log := result.2 })

instance [MetaJson] : IWorldStore ReadStore where
  storageStatus reading worldId := reading.store.storageStatus worldId
  loadMeta reading worldId := reading.store.loadMetaWith reading.io.worldMeta worldId
  saveMeta reading worldMeta := reading.over (reading.store.saveMeta worldMeta)
  loadSnapshot reading worldId := reading.store.loadSnapshotWith reading.io.snapshot worldId
  saveSnapshot reading worldId snapshot :=
    reading.over (reading.store.saveSnapshot worldId snapshot)

instance [Crc32] [BatchJson] : IEventLog ReadLog where
  append reading event := (reading.log.append event).map reading.over
  appendBatch reading events := (reading.log.appendBatch events).map reading.over
  readFromEventId reading fromId :=
    (reading.log.readAllEvents reading.faults).map fun all =>
      all.filter fun e => e.eventId > fromId
  readAllValid reading := reading.log.readAllEvents reading.faults
  lastEventId reading := reading.log.lastEventId
  lastTick reading := reading.log.lastTick
  truncateAfter reading eventId := (reading.log.truncateAfter eventId).map reading.over
  sync reading := reading.over reading.log.sync
  len reading := reading.log.len

/-!
## Documents
-/

namespace FilesystemStore

theorem readFile_cases (io : ReadIo) (content : Bytes) (what : String) :
    readFile io content what = .ok content ∨
      exists message : String, readFile io content what = .error (.persistenceError message) := by
  unfold readFile
  cases io.openFile with
  | some e => exact Or.inr ⟨_, rfl⟩
  | none =>
      cases io.read with
      | some e => exact Or.inr ⟨_, rfl⟩
      | none => exact Or.inl rfl

theorem loadSnapshotWith_cases (io : ReadIo) (store : FilesystemStore) (worldId : String) :
    store.loadSnapshotWith io worldId = store.loadSnapshot worldId ∨
      exists message : String,
        store.loadSnapshotWith io worldId = .error (.persistenceError message) := by
  unfold loadSnapshot loadSnapshotWith
  cases store.snapshotPath worldId with
  | error e => exact Or.inl rfl
  | ok path =>
      cases (store.names worldId).read "snapshot.json" with
      | none => exact Or.inl rfl
      | some content => exact readFile_cases io content "snapshot"

theorem loadMetaWith_cases [MetaJson] (io : ReadIo) (store : FilesystemStore)
    (worldId : String) :
    store.loadMetaWith io worldId = store.loadMeta worldId ∨
      exists message : String,
        store.loadMetaWith io worldId = .error (.persistenceError message) := by
  unfold loadMeta loadMetaWith
  cases store.metaPath worldId with
  | error e => exact Or.inl rfl
  | ok path =>
      cases (store.names worldId).read "meta.json" with
      | none => exact Or.inl rfl
      | some content =>
          simp only
          rcases readFile_cases io content "meta" with hread | ⟨message, hread⟩
          · rw [hread]
            exact Or.inl rfl
          · rw [hread]
            exact Or.inr ⟨message, rfl⟩

end FilesystemStore

/-!
## Records
-/

section Records

variable [Crc32] [BatchJson]

/-- A record that is read with faults is the one that is read without. -/
theorem readRecordAt_clear {faults : ReadFaults} {file : Bytes} {offset : Nat}
    {result : List SimEvent × Nat} (h : readRecordAt faults file offset = .ok result) :
    readRecordAt ReadFaults.none file offset = .ok result :=
  readRecordAt_eq_ok.mpr ⟨fun _ _ => rfl, (readRecordAt_eq_ok.mp h).right⟩

theorem readRecordAt_unharmed {faults : ReadFaults} {file : Bytes} {offset : Nat}
    (h : forall step : ReadStep, step ≠ .recordEnd -> faults step = none) :
    readRecordAt faults file offset = readRecordAt ReadFaults.none file offset := by
  have hnone : forall step : ReadStep, ReadFaults.none step = none := fun _ => rfl
  unfold readRecordAt
  simp only [h .seek nofun, h .magic nofun, h .version nofun, h .length nofun,
    h .eventId nofun, h .tick nofun, h .position nofun, h .metadata nofun, h .payload nofun,
    h .crc nofun, hnone]

/-- No call fails that reads a record of the log. -/
def ScanFaults.ReadsRecords (faults : ScanFaults) : Prop :=
  forall (offset : Nat) (step : ReadStep), step ≠ .recordEnd -> faults.record offset step = none

namespace FileEventLog

theorem readFrom_prefix {faults : ScanFaults} {file : Bytes} {fuel offset : Nat}
    {events : List SimEvent} (h : readFrom faults file fuel offset = .ok events) :
    exists all : List SimEvent, readFrom {} file fuel offset = .ok all ∧ events <+: all := by
  induction fuel generalizing offset events with
  | zero =>
      cases h
      exact ⟨[], rfl, List.prefix_rfl⟩
  | succ fuel ih =>
      have hclean : exists all : List SimEvent, readFrom {} file (fuel + 1) offset = .ok all :=
        ⟨_, readFrom_eq_scanned _ _ _⟩
      rw [readFrom] at h
      split at h
      case isFalse hend =>
        cases h
        rw [readFrom, if_neg hend]
        exact ⟨[], rfl, List.prefix_rfl⟩
      case isTrue hlt =>
        cases hread : readRecordAt (faults.record offset) file offset with
        | error e =>
            rw [hread] at h
            cases h
            rcases hclean with ⟨all, hall⟩
            exact ⟨all, hall, List.nil_prefix⟩
        | ok result =>
            rcases result with ⟨found, next⟩
            rw [hread] at h
            simp only [bind_eq_ok] at h
            rcases h with ⟨_, _, later, hlater, hevents⟩
            cases hevents
            rcases ih hlater with ⟨all, hall, hprefix⟩
            refine ⟨found ++ all, ?_, (List.prefix_append_right_inj found).mpr hprefix⟩
            rw [readFrom, if_pos hlt, readRecordAt_clear hread]
            simp only
            rw [hall]
            rfl

theorem readAllEvents_prefix {faults : ScanFaults} {log : FileEventLog}
    {events : List SimEvent} (h : log.readAllEvents faults = .ok events) :
    exists all : List SimEvent, log.readAllEvents {} = .ok all ∧ events <+: all := by
  unfold readAllEvents at h ⊢
  cases herror : log.readError with
  | some e =>
      rw [herror] at h
      cases h
  | none =>
      rw [herror] at h
      cases hfile : log.file with
      | none =>
          rw [hfile] at h
          cases h
          exact ⟨[], rfl, List.prefix_rfl⟩
      | some file =>
          rw [hfile] at h
          simp only [bind_eq_ok] at h
          rcases h with ⟨_, _, _, _, hread⟩
          rcases readFrom_prefix hread with ⟨all, hall, hprefix⟩
          exact ⟨all, hall, hprefix⟩

end FileEventLog

/-!
## Loading
-/

section Loads

variable [MetaJson] [SnapshotJson] {store : FilesystemStore} {log : FileEventLog}
  {journal : List SimEvent} {io : LoadIo} {worldId : String}

omit [SnapshotJson] [Crc32] [BatchJson] in
theorem MirrorAccepted.clear {snapshotMeta : WorldMeta}
    (h : MirrorAccepted (⟨store, io⟩ : ReadStore) worldId snapshotMeta) :
    MirrorAccepted store worldId snapshotMeta := by
  have hsame : forall result : SimResult WorldMeta,
      store.loadMetaWith io.worldMeta worldId = result ->
      (forall message : String, result ≠ .error (.persistenceError message)) ->
      store.loadMeta worldId = result := by
    intro result hload hnot
    rcases store.loadMetaWith_cases io.worldMeta worldId with heq | ⟨message, herror⟩
    · exact heq.symm.trans hload
    · exact absurd (hload.symm.trans herror) (hnot message)
  rcases h with ⟨missing, hmissing⟩ | ⟨fileMeta, hload, haccepted⟩
  · exact Or.inl ⟨missing, hsame _ hmissing nofun⟩
  · exact Or.inr ⟨fileMeta, hsame _ hload nofun, haccepted⟩

omit [MetaJson] [SnapshotJson] in
theorem Lists.readAll {events : List SimEvent} (h : Lists log journal)
    (hread : log.readAllEvents io.log = .ok events) (hnumbered : NumberedFrom ⟨1⟩ events)
    (hannounced : log.lastEventId = durableLastEventId events) : events = journal := by
  rcases FileEventLog.readAllEvents_prefix hread with ⟨all, hall, hprefix⟩
  have hjournal : all = journal := Except.ok.inj (hall.symm.trans h.read)
  rw [hjournal] at hprefix
  have hlength : events.length + 1 < 2 ^ 64 :=
    Nat.lt_of_le_of_lt (Nat.succ_le_succ hprefix.length_le) h.length_lt
  have hlast : durableLastEventId events = durableLastEventId journal :=
    hannounced.symm.trans h.announced
  apply hprefix.eq_of_length
  rw [← hnumbered.durableLast hlength, hlast, h.numbered.durableLast h.length_lt]

theorem selectReplay_clear {world : World} {replayed : List SimEvent} (h : Lists log journal)
    (hselect : selectReplay (⟨store, io⟩ : ReadStore) (⟨log, io.log⟩ : ReadLog) worldId =
      .ok (world, replayed)) :
    selectReplay store log worldId = .ok (world, replayed) := by
  rcases selectReplay_eq_ok.mp hselect with ⟨hvalid, ⟨bytes, hload, hdecode⟩, hid, hmirror,
    events, hread, htail, hnumbered, hcovers, hreplayed, hlast⟩
  have hsnapshot : store.loadSnapshot worldId = .ok bytes := by
    rcases store.loadSnapshotWith_cases io.snapshot worldId with heq | ⟨message, herror⟩
    · exact heq.symm.trans hload
    · cases hload.symm.trans herror
  have hevents : events = journal := h.readAll hread hnumbered htail
  subst hevents
  exact selectReplay_eq_ok.mpr ⟨hvalid, ⟨bytes, hsnapshot, hdecode⟩, hid, hmirror.clear,
    events, h.read, htail, hnumbered, hcovers, hreplayed, hlast⟩

/-- A load whose reads meet faults reports an error, or it is the load without them. -/
theorem loadRecoveredWorld_reading (h : Lists log journal) :
    loadRecoveredWorld (⟨store, io⟩ : ReadStore) (⟨log, io.log⟩ : ReadLog) worldId =
        loadRecoveredWorld store log worldId ∨
      exists e : SimError,
        loadRecoveredWorld (⟨store, io⟩ : ReadStore) (⟨log, io.log⟩ : ReadLog) worldId =
          some (.error e) := by
  unfold loadRecoveredWorld
  cases hselect : selectReplay (⟨store, io⟩ : ReadStore) (⟨log, io.log⟩ : ReadLog) worldId with
  | error e => exact Or.inr ⟨e, rfl⟩
  | ok selected =>
      rw [selectReplay_clear h hselect]
      exact Or.inl rfl

end Loads

/-!
## Opening
-/

namespace FileEventLog

/-- A scan whose reads of records succeed ends as one without faults, or with an error. -/
theorem recoverFrom_unharmed {faults : ScanFaults} (h : faults.ReadsRecords) (mode : OpenMode)
    (file : Bytes) (fuel offset : Nat) (log : FileEventLog) :
    recoverFrom faults mode file fuel offset log = recoverFrom {} mode file fuel offset log ∨
      exists e : SimError, recoverFrom faults mode file fuel offset log = some (.error e) := by
  induction fuel generalizing offset log with
  | zero => exact Or.inl rfl
  | succ fuel ih =>
      have hread := @readRecordAt_unharmed _ _ _ file offset (h offset)
      cases hclean : readRecordAt ReadFaults.none file offset with
      | error e =>
          left
          rw [recoverFrom, recoverFrom, hread, hclean]
      | ok result =>
          rcases result with ⟨events, next⟩
          rw [recoverFrom_record (hread.trans hclean), recoverFrom_record hclean]
          cases log.noteEvents events with
          | none => exact Or.inl rfl
          | some noted =>
              simp only [Option.bind_some]
              cases faults.record offset .recordEnd with
              | some e => exact Or.inr ⟨_, rfl⟩
              | none => exact ih next noted

/-- Opening for repair without a fault in reading a record gives the log that opening
without faults gives, or reports an error and leaves the file as it is. -/
theorem openWith_unharmed {faults : ScanFaults} (h : faults.ReadsRecords)
    (file : Option Bytes) :
    openWith faults .repair file = new file ∨
      exists e : SimError, openWith faults .repair file = some (.error e) := by
  cases file with
  | none => exact Or.inl rfl
  | some bytes =>
      unfold new openWith
      cases hopen : faults.openFile with
      | some e => exact Or.inr ⟨_, rfl⟩
      | none =>
          cases hsize : faults.metadata with
          | some e => exact Or.inr ⟨_, rfl⟩
          | none =>
              simp only [failIf]
              rcases recoverFrom_unharmed h .repair bytes (bytes.length + 1) 0
                (closed (some bytes)) with hsame | ⟨e, herror⟩
              · rw [hsame]
                cases recoverFrom {} .repair bytes (bytes.length + 1) 0
                    (closed (some bytes)) with
                | none => exact Or.inl rfl
                | some outcome =>
                    cases outcome with
                    | error e => exact Or.inl rfl
                    | ok found =>
                        simp only [Option.bind_eq_bind, Option.bind_some]
                        split
                        case isFalse _ => exact Or.inl rfl
                        case isTrue _ =>
                          unfold repairTail
                          cases faults.truncateOpen with
                          | some e => exact Or.inr ⟨_, rfl⟩
                          | none =>
                              cases faults.setLen with
                              | some e => exact Or.inr ⟨_, rfl⟩
                              | none => exact Or.inl rfl
              · rw [herror]
                exact Or.inr ⟨e, rfl⟩

end FileEventLog

end Records

end Seej
