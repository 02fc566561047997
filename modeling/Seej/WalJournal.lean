import Seej.WalScan

/-!
# The journal in the log

`Holds` says that the file is exactly a list of records whose events are numbered
from `1`, that nothing waits in the buffer, and that the counters are those of the
events.  Appends without a fault add one record, opening finds the same counters
again.
-/

namespace Seej

open Foundation

/-!
## Numbering
-/

/-- The events with identifiers that run upwards from `start`. -/
def numberFrom : EventId -> List SimEvent -> List SimEvent
  | _, [] => []
  | start, event :: rest => { event with eventId := start } :: numberFrom start.next rest

@[simp] theorem numberFrom_length (start : EventId) (events : List SimEvent) :
    (numberFrom start events).length = events.length := by
  induction events generalizing start with
  | nil => rfl
  | cons event rest ih => rw [numberFrom, List.length_cons, List.length_cons, ih]

theorem numberFrom_numbered (start : EventId) (events : List SimEvent) :
    NumberedFrom start (numberFrom start events) := by
  induction events generalizing start with
  | nil => trivial
  | cons event rest ih => exact ⟨rfl, ih start.next⟩

theorem numberFrom_eq_nil {start : EventId} {events : List SimEvent} :
    numberFrom start events = [] <-> events = [] := by
  rw [← List.length_eq_zero_iff, numberFrom_length, List.length_eq_zero_iff]

theorem checkedSucc_of_lt {x : UInt64} (h : x.toNat + 1 < 2 ^ 64) :
    checkedSucc x = some (x + 1) := by
  apply checkedSucc_eq_some.mpr
  rw [UInt64.toNat_add]
  simp only [UInt64.reduceToNat]
  omega

theorem next_of_checkedSucc {x y : UInt64} (h : checkedSucc x = some y) :
    EventId.next ⟨x⟩ = ⟨y⟩ := by
  rw [EventId.next, saturatingSucc_of_checkedSucc h]

theorem assignIds_eq_some {start next : UInt64} {events persisted : List SimEvent} :
    FileEventLog.assignIds start events = some (persisted, next) <->
      persisted = numberFrom ⟨start⟩ events ∧ next.toNat = start.toNat + events.length := by
  induction events generalizing start persisted with
  | nil =>
      simp only [FileEventLog.assignIds, numberFrom, Option.some.injEq, Prod.mk.injEq,
        List.length_nil, Nat.add_zero, UInt64.toNat_inj]
      constructor <;> rintro ⟨h, h'⟩ <;> exact ⟨h.symm, h'.symm⟩
  | cons event rest ih =>
      rw [numberFrom, List.length_cons]
      constructor
      · intro h
        rcases Option.bind_eq_some_iff.mp h with ⟨later, hlater, hloop⟩
        rcases Option.bind_eq_some_iff.mp hloop with ⟨⟨tail, final⟩, hrest, heq⟩
        cases heq
        rcases ih.mp hrest with ⟨htail, hfinal⟩
        have hnat := checkedSucc_eq_some.mp hlater
        rw [next_of_checkedSucc hlater, htail]
        exact ⟨rfl, by omega⟩
      · rintro ⟨hpersisted, hnext⟩
        have hbound : next.toNat < 2 ^ 64 := next.toNat_lt
        have hlater := checkedSucc_of_lt (x := start) (by omega)
        have hnat := checkedSucc_eq_some.mp hlater
        have hrest := ih.mpr ⟨rfl, show next.toNat = (start + 1).toNat + rest.length by omega⟩
        rw [FileEventLog.assignIds, hlater, hpersisted, next_of_checkedSucc hlater]
        simp only [hrest, bind, Option.bind, pure]

/-!
## Counters
-/

/-- The counters of a log with these events. -/
structure Counts (log : FileEventLog) (events : List SimEvent) : Prop where
  numbered : NumberedFrom ⟨1⟩ events
  nextEventId : log.nextEventId.toNat = events.length + 1
  lastTick : log.lastTick = events.getLast?.map SimEvent.tick
  totalEvents : log.totalEvents = events.length

namespace Counts

variable {log : FileEventLog} {events : List SimEvent}

theorem length_lt (h : Counts log events) : events.length + 1 < 2 ^ 64 := by
  rw [← h.nextEventId]
  exact log.nextEventId.toNat_lt

theorem nextEventId_eq (h : Counts log events) :
    (⟨log.nextEventId⟩ : EventId) = (⟨1⟩ : EventId).skip events.length := by
  apply EventId.eq_of_toNat
  have hone : ((⟨1⟩ : EventId)).val.toNat = 1 := rfl
  have hlt := h.length_lt
  rw [EventId.skip_toNat (by rw [hone]; omega), hone]
  change log.nextEventId.toNat = _
  rw [h.nextEventId, Nat.add_comm]

theorem append_numbered (h : Counts log events) (more : List SimEvent) :
    NumberedFrom ⟨1⟩ (events ++ numberFrom ⟨log.nextEventId⟩ more) := by
  apply NumberedFrom.append_iff.mpr
  refine ⟨h.numbered, ?_⟩
  rw [← h.nextEventId_eq]
  exact numberFrom_numbered _ _

theorem lastEventId_eq (h : Counts log events) :
    log.lastEventId = durableLastEventId events := by
  have htallied : Tallied log events := by
    refine ⟨?_, h.lastTick, h.totalEvents⟩
    rw [h.nextEventId, h.numbered.durableLast h.length_lt]
  exact htallied.lastEventId_eq

end Counts

/-- The counters after `events` were written. -/
def FileEventLog.counted (log : FileEventLog) (next : UInt64) (events : List SimEvent) :
    FileEventLog :=
  { log with
    nextEventId := next
    lastTick := (events.getLast?.map SimEvent.tick).or log.lastTick
    totalEvents := log.totalEvents + events.length }

theorem Counts.counted {log : FileEventLog} {before events : List SimEvent} {next : UInt64}
    (h : Counts log before) (hne : events ≠ [])
    (hnext : next.toNat = log.nextEventId.toNat + events.length) :
    Counts (log.counted next (numberFrom ⟨log.nextEventId⟩ events))
      (before ++ numberFrom ⟨log.nextEventId⟩ events) := by
  refine ⟨h.append_numbered events, ?_, ?_, ?_⟩
  · change next.toNat = _
    rw [hnext, h.nextEventId, List.length_append, numberFrom_length]
    omega
  · have hne' : numberFrom ⟨log.nextEventId⟩ events ≠ [] := mt numberFrom_eq_nil.mp hne
    rw [getLast?_append_of_ne_nil _ hne']
    change ((numberFrom ⟨log.nextEventId⟩ events).getLast?.map SimEvent.tick).or log.lastTick = _
    cases hlast : (numberFrom ⟨log.nextEventId⟩ events).getLast? with
    | none => exact absurd (List.getLast?_eq_none_iff.mp hlast) hne'
    | some last => rfl
  · change log.totalEvents + (numberFrom ⟨log.nextEventId⟩ events).length = _
    rw [h.totalEvents, List.length_append]

theorem noteEvents_counts {log : FileEventLog} {before events : List SimEvent}
    (h : Counts log before) (hne : events ≠ [])
    (hnumbered : NumberedFrom ⟨1⟩ (before ++ events))
    (hlength : (before ++ events).length + 1 < 2 ^ 64) :
    exists noted : FileEventLog,
      log.noteEvents events = some noted ∧ Counts noted (before ++ events) := by
  have hdurable := hnumbered.durableLast hlength
  have hlast := getLast?_append_of_ne_nil before hne
  cases hfound : events.getLast? with
  | none => exact absurd (List.getLast?_eq_none_iff.mp hfound) hne
  | some last =>
      rw [hfound] at hlast
      rw [durableLastEventId, hlast, Option.map_some, Option.getD_some] at hdurable
      have hsucc := checkedSucc_of_lt (x := last.eventId.val) (by omega)
      unfold FileEventLog.noteEvents
      simp only [hfound, hsucc]
      refine ⟨_, rfl, hnumbered, ?_, ?_, ?_⟩
      · change (last.eventId.val + 1).toNat = _
        rw [checkedSucc_eq_some.mp hsucc, hdurable]
      · rw [hlast]
        rfl
      · change log.totalEvents + events.length = _
        rw [h.totalEvents, List.length_append]

theorem noteAll_counts {log : FileEventLog} {before : List SimEvent}
    {batches : List (List SimEvent)} (h : Counts log before)
    (hne : forall events : List SimEvent, events ∈ batches -> events ≠ [])
    (hnumbered : NumberedFrom ⟨1⟩ (before ++ batches.flatten))
    (hlength : (before ++ batches.flatten).length + 1 < 2 ^ 64) :
    exists noted : FileEventLog,
      log.noteAll batches = some noted ∧ Counts noted (before ++ batches.flatten) := by
  induction batches generalizing log before with
  | nil =>
      rw [List.flatten_nil, List.append_nil]
      exact ⟨log, rfl, h⟩
  | cons events rest ih =>
      rw [List.flatten_cons, ← List.append_assoc] at hnumbered hlength ⊢
      have hprefix := (NumberedFrom.append_iff.mp hnumbered).left
      have hshort : (before ++ events).length + 1 < 2 ^ 64 := by
        rw [List.length_append] at hlength
        omega
      rcases noteEvents_counts h (hne events List.mem_cons_self) hprefix hshort with
        ⟨middle, hmiddle, hcounts⟩
      rcases ih hcounts (fun e he => hne e (List.mem_cons_of_mem _ he)) hnumbered hlength with
        ⟨noted, hnoted, hfinal⟩
      refine ⟨noted, ?_, hfinal⟩
      change (log.noteEvents events).bind (fun log => log.noteAll rest) = _
      rw [hmiddle]
      exact hnoted

/-!
## Writing records
-/

namespace FileEventLog

/-- The answer of the script for the next call of `write_records`. -/
def recordIo (log : FileEventLog) : RecordIo :=
  log.io.records.headD {}

def takeRecordIo (log : FileEventLog) : FileEventLog :=
  log.nextRecordIo.2

def canWrite (log : FileEventLog) : Bool :=
  log.writer.isSome || log.recordIo.createDir.isNone && log.recordIo.openFile.isNone

theorem nextRecordIo_eq (log : FileEventLog) :
    log.nextRecordIo = (log.recordIo, log.takeRecordIo) := rfl

theorem writeRecords_of_not_canWrite {log : FileEventLog} (h : log.canWrite = false)
    (bytes : Bytes) : exists e : SimError, log.writeRecords bytes = (.error e, log.takeRecordIo) := by
  unfold canWrite at h
  cases hwriter : log.writer with
  | some buffer => simp [hwriter] at h
  | none =>
      have hopen : exists e : SimError,
          log.takeRecordIo.ensureWriter log.recordIo = (.error e, log.takeRecordIo) := by
        have htaken : log.takeRecordIo.writer = none := hwriter
        unfold ensureWriter
        rw [htaken]
        cases hdir : log.recordIo.createDir with
        | some e => exact ⟨_, rfl⟩
        | none =>
            cases hfile : log.recordIo.openFile with
            | some e => exact ⟨_, rfl⟩
            | none => simp [hwriter, hdir, hfile] at h
      rcases hopen with ⟨e, hopen⟩
      refine ⟨e, ?_⟩
      unfold writeRecords
      rw [nextRecordIo_eq]
      simp only [hopen]

theorem writeRecords_of_canWrite {log : FileEventLog} (h : log.canWrite = true)
    (bytes : Bytes) :
    log.writeRecords bytes =
      ((log.stream.append bufferCapacity bytes log.recordIo.append).1.mapError appendError,
        log.takeRecordIo.withStream
          (log.stream.append bufferCapacity bytes log.recordIo.append).2) := by
  unfold canWrite at h
  cases hwriter : log.writer with
  | some buffer =>
      have hopen : log.takeRecordIo.ensureWriter log.recordIo = (.ok (), log.takeRecordIo) := by
        have htaken : log.takeRecordIo.writer = some buffer := hwriter
        unfold ensureWriter
        rw [htaken]
      unfold writeRecords
      rw [nextRecordIo_eq]
      simp only [hopen]
      rfl
  | none =>
      simp only [hwriter, Option.isSome_none, Bool.false_or, Bool.and_eq_true,
        Option.isNone_iff_eq_none] at h
      have hopen : log.takeRecordIo.ensureWriter log.recordIo =
          (.ok (), log.takeRecordIo.withStream log.stream) := by
        have htaken : log.takeRecordIo.writer = none := hwriter
        unfold ensureWriter
        rw [htaken, h.left, h.right]
        rfl
      unfold writeRecords
      rw [nextRecordIo_eq]
      simp only [hopen]
      rfl

theorem writeRecords_of_no_faults {log : FileEventLog} (hio : log.io.records = [])
    (hbuffer : log.writer.getD [] = []) (bytes : Bytes) :
    log.writeRecords bytes =
      (.ok (),
        log.withStream
          { file := log.file.getD [] ++ bytes
            synced := (log.file.getD [] ++ bytes).length
            buffer := [] }) := by
  have hanswer : log.recordIo = {} := by
    unfold recordIo
    rw [hio]
    rfl
  have htaken : log.takeRecordIo = log := by
    unfold takeRecordIo nextRecordIo
    cases log with
    | mk file synced writer nextEventId lastTick totalEvents readError io =>
        cases io with
        | mk records syncs closes removes =>
            cases hio
            rfl
  have hcan : log.canWrite = true := by
    unfold canWrite
    rw [hanswer]
    simp
  have happend : log.stream.append bufferCapacity bytes {} = _ :=
    BufferedFile.append_of_no_faults (by decide) hbuffer bytes
  rw [writeRecords_of_canWrite hcan, hanswer, htaken]
  change (Except.mapError appendError (log.stream.append bufferCapacity bytes {}).1, _) = _
  rw [happend]
  rfl

theorem close_flushes (log : FileEventLog) :
    log.close.getD [] = (log.stream.flush (log.io.closes.headD none)).2.file := by
  unfold close closeWriter
  split
  · rename_i hwriter
    have hbuffer : log.stream.buffer = [] := by
      unfold stream
      rw [hwriter]
      rfl
    rw [BufferedFile.flush_of_buffer_eq_nil hbuffer]
    rfl
  · rfl

end FileEventLog

/-!
## Logs that hold a journal
-/

section Journal

variable [Crc32] [BatchJson]

/-- The file is these records, everything written is in it, and the counters are
right. -/
structure Holds (log : FileEventLog) (frames : List WalFrame) : Prop where
  records : Records frames
  file : log.file.getD [] = joined frames
  synced : log.synced = (joined frames).length
  buffer : log.writer.getD [] = []
  readError : log.readError = none
  counts : Counts log (framesEvents frames)

namespace Holds

variable {log : FileEventLog} {frames : List WalFrame}

theorem empty (io : WalIo) :
    Holds { FileEventLog.closed none with io := io } [] :=
  ⟨nofun, rfl, rfl, rfl, rfl, ⟨trivial, rfl, rfl, rfl⟩⟩

theorem readAllEvents (h : Holds log frames) :
    log.readAllEvents {} = .ok (framesEvents frames) := by
  apply readAllEvents_records h.records (Or.inl rfl) h.readError
  rw [h.file, List.append_nil]

theorem close_file (h : Holds log frames) : log.close.getD [] = joined frames := by
  have hempty : log.stream.buffer = [] := h.buffer
  rw [FileEventLog.close_flushes, BufferedFile.flush_of_buffer_eq_nil hempty]
  exact h.file

theorem crash_file (h : Holds log frames) (cut : Nat) :
    (log.crash cut).getD [] = joined frames := by
  unfold FileEventLog.crash
  cases hpath : log.file with
  | none =>
      have hfile := h.file
      rw [hpath] at hfile
      exact hfile
  | some bytes =>
      have hfile : bytes = joined frames := by
        have hget := h.file
        rw [hpath] at hget
        exact hget
      change (log.stream.crash cut).file = _
      have hstream : log.stream.file = joined frames := h.file
      change log.stream.file.take (max log.synced cut) = _
      rw [hstream, List.take_of_length_le]
      rw [h.synced]
      exact Nat.le_max_left _ _

theorem withIo (h : Holds log frames) (io : WalIo) : Holds { log with io := io } frames :=
  ⟨h.records, h.file, h.synced, h.buffer, h.readError,
    ⟨h.counts.numbered, h.counts.nextEventId, h.counts.lastTick, h.counts.totalEvents⟩⟩

theorem left_file (h : Holds log frames) (ending : FileEventLog.Ending) :
    (log.left ending).getD [] = joined frames := by
  cases ending with
  | crash cut => exact h.crash_file cut
  | drop faults => exact (h.withIo _).close_file

end Holds

/-- Opening records that continue one another. -/
theorem new_holds {frames : List WalFrame} {tail : Bytes} (hframes : Records frames)
    (htail : NoRecord tail) (hnumbered : NumberedFrom ⟨1⟩ (framesEvents frames))
    (hlength : (framesEvents frames).length + 1 < 2 ^ 64) :
    exists log : FileEventLog,
      FileEventLog.new (some (joined frames ++ tail)) = some (.ok log) ∧ Holds log frames ∧
        log.io = {} ∧ log.writer = none ∧ log.file = some (joined frames) := by
  have hne : forall events : List SimEvent, events ∈ frames.map Frame.value -> events ≠ [] := by
    intro events hmem
    rcases List.mem_map.mp hmem with ⟨frame, hframe, heq⟩
    rw [← heq]
    exact (hframes frame hframe).ne_nil
  have hclosed : Counts (FileEventLog.closed (some (joined frames))) [] :=
    ⟨trivial, rfl, rfl, rfl⟩
  rcases noteAll_counts hclosed hne hnumbered hlength with ⟨log, hnote, hcounts⟩
  rw [new_records hframes htail, hnote]
  have hlog := noteAll_eq_some hnote
  refine ⟨log, rfl, ⟨hframes, ?_, ?_, ?_, ?_, hcounts⟩, ?_, ?_, ?_⟩
  all_goals rw [hlog]; rfl

theorem new_path_holds {frames : List WalFrame} {tail : Bytes} {path : Option Bytes}
    (hframes : Records frames) (htail : NoRecord tail)
    (hnumbered : NumberedFrom ⟨1⟩ (framesEvents frames))
    (hlength : (framesEvents frames).length + 1 < 2 ^ 64)
    (hpath : path.getD [] = joined frames ++ tail) :
    exists reopened : FileEventLog,
      FileEventLog.new path = some (.ok reopened) ∧ Holds reopened frames ∧
        reopened.io = {} := by
  cases path with
  | none =>
      have hle := hframes.length_le
      have hjoined := (List.append_eq_nil_iff.mp hpath.symm).left
      rw [hjoined, List.length_nil, Nat.le_zero, List.length_eq_zero_iff] at hle
      rw [hle]
      exact ⟨FileEventLog.closed none, rfl, Holds.empty {}, rfl⟩
  | some bytes =>
      rw [Option.getD_some] at hpath
      rcases new_holds hframes htail hnumbered hlength with ⟨reopened, hnew, hholds, hio, _⟩
      rw [← hpath] at hnew
      exact ⟨reopened, hnew, hholds, hio⟩

theorem Holds.new_path {log : FileEventLog} {frames : List WalFrame} {path : Option Bytes}
    (h : Holds log frames) (hpath : path.getD [] = joined frames) :
    exists reopened : FileEventLog,
      FileEventLog.new path = some (.ok reopened) ∧ Holds reopened frames ∧
        reopened.io = {} :=
  new_path_holds h.records (Or.inl rfl) h.counts.numbered h.counts.length_lt
    (hpath.trans (List.append_nil _).symm)

/-- `serde_json` gives back the events of a batch it has encoded. -/
def RoundTrips (events : List SimEvent) : Prop :=
  forall payload : Bytes, BatchJson.toVec events = .ok payload ->
    BatchJson.fromSlice payload = .ok events

theorem RoundTrips.isRecord {events : List SimEvent} {record : Bytes} (h : RoundTrips events)
    (hrecord : encodeEventRecord events = .ok record) : IsRecord events record := by
  rcases encodeEventRecord_eq_ok.mp hrecord with ⟨last, payload, hlast, hjson, hlength, heq⟩
  rw [heq]
  exact IsRecord.mk hlast hlength (h payload hjson)

/-- The batch has a payload of admissible length, from which it is read back. -/
def Fits (events : List SimEvent) : Prop :=
  exists payload : Bytes, BatchJson.toVec events = .ok payload ∧
    payload.length ≤ maxWalPayloadLen ∧ BatchJson.fromSlice payload = .ok events

theorem Fits.encode {events : List SimEvent} (h : Fits events) (hne : events ≠ []) :
    exists record : Bytes, encodeEventRecord events = .ok record ∧ IsRecord events record := by
  rcases h with ⟨payload, hjson, hlength, hback⟩
  cases hlast : events.getLast? with
  | none => exact absurd (List.getLast?_eq_none_iff.mp hlast) hne
  | some last =>
      exact ⟨_, encodeEventRecord_eq_ok.mpr ⟨last, payload, hlast, hjson, hlength, rfl⟩,
        IsRecord.mk hlast hlength hback⟩

/-- A record that continues the journal, and the counters after it. -/
theorem Holds.snoc {frames : List WalFrame} {events : List SimEvent} {record : Bytes}
    {after : FileEventLog} (hframes : Records frames) (hrecord : IsRecord events record)
    (hfile : after.file.getD [] = joined frames ++ record)
    (hsynced : after.synced = (joined frames ++ record).length)
    (hbuffer : after.writer.getD [] = []) (herror : after.readError = none)
    (hcounts : Counts after (framesEvents frames ++ events)) :
    Holds after (frames ++ [⟨events, record⟩]) := by
  have hjoined : joined (frames ++ [⟨events, record⟩]) = joined frames ++ record := by
    simp
  refine ⟨hframes.append ?_, ?_, ?_, hbuffer, herror, ?_⟩
  · intro frame hmem
    rw [List.mem_singleton.mp hmem]
    exact hrecord
  · rw [hfile, hjoined]
  · rw [hsynced, hjoined]
  · rw [framesEvents_append]
    simpa [framesEvents] using hcounts

/-!
## Appending without a fault
-/

def FileEventLog.recorded (log : FileEventLog) (record : Bytes) (next : UInt64)
    (events : List SimEvent) : FileEventLog :=
  (log.withStream
    { file := log.file.getD [] ++ record
      synced := (log.file.getD [] ++ record).length
      buffer := [] }).counted next events

theorem Holds.recorded {log : FileEventLog} {frames : List WalFrame} {events : List SimEvent}
    {record : Bytes} {next : UInt64} (h : Holds log frames)
    (hne : events ≠ []) (hrecord : IsRecord (numberFrom ⟨log.nextEventId⟩ events) record)
    (hnext : next.toNat = log.nextEventId.toNat + events.length) :
    Holds (log.recorded record next (numberFrom ⟨log.nextEventId⟩ events))
      (frames ++ [⟨numberFrom ⟨log.nextEventId⟩ events, record⟩]) := by
  have hfile : log.file.getD [] ++ record = joined frames ++ record := by rw [h.file]
  have hwritten : Counts (log.withStream
      { file := log.file.getD [] ++ record
        synced := (log.file.getD [] ++ record).length
        buffer := [] }) (framesEvents frames) :=
    ⟨h.counts.numbered, h.counts.nextEventId, h.counts.lastTick, h.counts.totalEvents⟩
  exact Holds.snoc h.records hrecord hfile (congrArg List.length hfile) rfl h.readError
    (hwritten.counted hne hnext)

theorem appendBatch_of_no_faults {log : FileEventLog} {events : List SimEvent}
    (hio : log.io.records = []) (hbuffer : log.writer.getD [] = []) (hne : events ≠ []) :
    log.appendBatch events =
      (FileEventLog.assignIds log.nextEventId events).map fun (persisted, next) =>
        match encodeEventRecord persisted with
        | .error e => (.error e, log)
        | .ok record => (.ok persisted, log.recorded record next persisted) := by
  unfold FileEventLog.appendBatch
  rw [if_neg hne]
  cases hassign : FileEventLog.assignIds log.nextEventId events with
  | none => rfl
  | some result =>
      rcases result with ⟨persisted, next⟩
      cases hrecord : encodeEventRecord persisted with
      | error e => simp [hrecord]
      | ok record =>
          simp only [bind, Option.bind, Option.map_some, hrecord,
            FileEventLog.writeRecords_of_no_faults hio hbuffer]
          rfl

theorem appendBatch_of_room {log : FileEventLog} {events : List SimEvent}
    (hio : log.io.records = []) (hbuffer : log.writer.getD [] = []) (hne : events ≠ []) :
    log.appendBatch events =
      if log.nextEventId.toNat + events.length < 2 ^ 64 then
        some (match encodeEventRecord (numberFrom ⟨log.nextEventId⟩ events) with
          | .error e => (.error e, log)
          | .ok record =>
              (.ok (numberFrom ⟨log.nextEventId⟩ events),
                log.recorded record (UInt64.ofNat (log.nextEventId.toNat + events.length))
                  (numberFrom ⟨log.nextEventId⟩ events)))
      else none := by
  rw [appendBatch_of_no_faults hio hbuffer hne]
  split
  · rename_i hroom
    rw [assignIds_eq_some.mpr ⟨rfl, UInt64.toNat_ofNat_of_lt' hroom⟩]
    rfl
  · rename_i hroom
    cases hassign : FileEventLog.assignIds log.nextEventId events with
    | none => rfl
    | some result =>
        rcases result with ⟨persisted, last⟩
        have hlast := (assignIds_eq_some.mp hassign).right
        exact absurd (hlast ▸ last.toNat_lt) hroom

theorem writeEvent_of_no_faults {log : FileEventLog} {event : SimEvent}
    (hio : log.io.records = []) (hbuffer : log.writer.getD [] = []) :
    log.writeEvent event =
      match encodeEventRecord [{ event with eventId := ⟨log.nextEventId⟩ }] with
      | .error e => some (.error e, log)
      | .ok record =>
          (checkedSucc log.nextEventId).map fun next =>
            (.ok { event with eventId := ⟨log.nextEventId⟩ },
              log.recorded record next [{ event with eventId := ⟨log.nextEventId⟩ }]) := by
  unfold FileEventLog.writeEvent
  cases hrecord : encodeEventRecord [{ event with eventId := ⟨log.nextEventId⟩ }] with
  | error e => simp only [hrecord]
  | ok record =>
      simp only [hrecord, FileEventLog.writeRecords_of_no_faults hio hbuffer]
      change (checkedSucc log.nextEventId).bind _ = (checkedSucc log.nextEventId).map _
      cases checkedSucc log.nextEventId <;> rfl

end Journal

end Seej
