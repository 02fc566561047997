import Seej.Mocks
import Seej.WalCodec
import Seej.WalCalls

/-!
# The file-backed log refines the in-memory log

Two logs behind one interface: a file of checksummed records with counters that
are kept or scanned again, and a vector with a counter.  `Refines` relates them,
every operation keeps the relation, and so every sequence of operations gives the
same answers.
-/

namespace Seej

open Foundation

/-!
## Operations of a log
-/

inductive LogOp where
  | append (event : SimEvent)
  | appendBatch (events : List SimEvent)
  | readFromEventId (fromId : EventId)
  | readAllValid
  | lastEventId
  | lastTick
  | len
  | truncateAfter (eventId : EventId)
  | reopen

inductive LogAnswer where
  | event (result : SimResult SimEvent)
  | events (result : SimResult (List SimEvent))
  | id (eventId : EventId)
  | tick (tick : Option Tick)
  | count (n : Nat)
  | done (result : SimResult Unit)

/-- One operation of a log that is closed and opened again by `reopen`. -/
def logStep {E : Type} [IEventLog E] (reopen : E -> Option (SimResult Unit × E)) (log : E) :
    LogOp -> Option (LogAnswer × E)
  | .append event => (IEventLog.append log event).map fun (r, log) => (.event r, log)
  | .appendBatch events => (IEventLog.appendBatch log events).map fun (r, log) => (.events r, log)
  | .readFromEventId fromId => some (.events (IEventLog.readFromEventId log fromId), log)
  | .readAllValid => some (.events (IEventLog.readAllValid log), log)
  | .lastEventId => some (.id (IEventLog.lastEventId log), log)
  | .lastTick => some (.tick (IEventLog.lastTick log), log)
  | .len => some (.count (IEventLog.len log), log)
  | .truncateAfter eventId =>
      (IEventLog.truncateAfter log eventId).map fun (r, log) => (.done r, log)
  | .reopen => (reopen log).map fun (r, log) => (.done r, log)

def MockEventLog.reopen (log : MockEventLog) : Option (SimResult Unit × MockEventLog) :=
  some (.ok (), log)

def mockStep : MockEventLog -> LogOp -> Option (LogAnswer × MockEventLog) :=
  logStep MockEventLog.reopen

section Refinement

variable [Crc32] [BatchJson]

def FileEventLog.reopen (log : FileEventLog) : Option (SimResult Unit × FileEventLog) :=
  (FileEventLog.new log.close).map fun
    | .ok reopened => (.ok (), reopened)
    | .error e => (.error e, FileEventLog.closed log.close)

def fileStep : FileEventLog -> LogOp -> Option (LogAnswer × FileEventLog) :=
  logStep FileEventLog.reopen

def writtenBatches (mock : MockEventLog) : LogOp -> List (List SimEvent)
  | .append event => [numberFrom ⟨mock.nextEventId⟩ [event]]
  | .appendBatch events => [numberFrom ⟨mock.nextEventId⟩ events]
  | .truncateAfter eventId =>
      (mock.events.filter (fun e => e.eventId ≤ eventId)).map fun e => [e]
  | _ => []

def WritesFit (mock : MockEventLog) (op : LogOp) : Prop :=
  forall batch : List SimEvent, batch ∈ writtenBatches mock op -> batch ≠ [] -> Fits batch

/-!
## The relation
-/

structure Refines (log : FileEventLog) (mock : MockEventLog) : Prop where
  holds : exists frames : List WalFrame, Holds log frames ∧ framesEvents frames = mock.events
  io : log.io = {}
  nextEventId : log.nextEventId = mock.nextEventId

theorem Refines.start : Refines (FileEventLog.closed none) MockEventLog.new :=
  ⟨⟨[], Holds.empty {}, rfl⟩, rfl, rfl⟩

theorem Refines.records {log : FileEventLog} {mock : MockEventLog} (h : Refines log mock) :
    log.io.records = [] := by
  rw [h.io]

theorem Refines.recorded {log : FileEventLog} {mock : MockEventLog} {events : List SimEvent}
    {record : Bytes} {next : UInt64} (h : Refines log mock) (hne : events ≠ [])
    (hrecord : IsRecord (numberFrom ⟨log.nextEventId⟩ events) record)
    (hnext : next.toNat = log.nextEventId.toNat + events.length) :
    Refines (log.recorded record next (numberFrom ⟨log.nextEventId⟩ events))
      { events := mock.events ++ numberFrom ⟨log.nextEventId⟩ events, nextEventId := next } := by
  rcases h.holds with ⟨frames, hholds, hevents⟩
  refine ⟨⟨_, hholds.recorded hne hrecord hnext, ?_⟩, h.io, rfl⟩
  rw [framesEvents_append, hevents]
  exact congrArg _ (List.append_nil _)

/-!
## Every operation keeps the relation
-/

theorem Refines.append {log : FileEventLog} {mock : MockEventLog} {event : SimEvent}
    (h : Refines log mock) (hfit : WritesFit mock (.append event)) :
    Agree Refines (fileStep log (.append event)) (mockStep mock (.append event)) := by
  rcases h.holds with ⟨frames, hholds, _⟩
  have hone : [{ event with eventId := ⟨log.nextEventId⟩ }] =
      numberFrom ⟨log.nextEventId⟩ [event] := rfl
  have hfits : Fits (numberFrom ⟨log.nextEventId⟩ [event]) := by
    rw [h.nextEventId]
    exact hfit _ (List.mem_singleton.mpr rfl) (List.cons_ne_nil _ _)
  rcases hfits.encode (List.cons_ne_nil _ _) with ⟨record, hencode, hrecord⟩
  change Agree Refines ((log.writeEvent event).map _) ((mock.append event).map _)
  rw [writeEvent_of_no_faults h.records hholds.buffer, hone, hencode, MockEventLog.append,
    ← h.nextEventId]
  cases hnext : checkedSucc log.nextEventId with
  | none => exact Agree.aborted
  | some next =>
      have hnat := checkedSucc_eq_some.mp hnext
      exact Agree.stepped (h.recorded (List.cons_ne_nil event []) hrecord hnat)

omit [Crc32] [BatchJson] in
theorem appendEach_eq {persisted events : List SimEvent} {mock : MockEventLog} :
    MockEventLog.appendEach persisted mock events =
      (FileEventLog.assignIds mock.nextEventId events).map fun (ids, next) =>
        (.ok (persisted ++ ids), { events := mock.events ++ ids, nextEventId := next }) := by
  induction events generalizing persisted mock with
  | nil =>
      simp only [MockEventLog.appendEach, FileEventLog.assignIds, Option.map_some,
        List.append_nil]
  | cons event rest ih =>
      rw [MockEventLog.appendEach, MockEventLog.append, FileEventLog.assignIds]
      cases hnext : checkedSucc mock.nextEventId with
      | none => rfl
      | some next =>
          change MockEventLog.appendEach _ _ rest = _
          rw [ih]
          simp only [bind, Option.bind, pure]
          cases hrest : FileEventLog.assignIds next rest with
          | none => rfl
          | some result => simp

theorem Refines.appendBatch {log : FileEventLog} {mock : MockEventLog}
    {events : List SimEvent} (h : Refines log mock)
    (hfit : WritesFit mock (.appendBatch events)) :
    Agree Refines (fileStep log (.appendBatch events))
      (mockStep mock (.appendBatch events)) := by
  rcases h.holds with ⟨frames, hholds, _⟩
  change Agree Refines ((log.appendBatch events).map _)
    ((MockEventLog.appendEach [] mock events).map _)
  by_cases hne : events = []
  · rw [hne]
    exact Agree.stepped h
  · rw [appendBatch_of_no_faults h.records hholds.buffer hne, appendEach_eq, ← h.nextEventId]
    cases hassign : FileEventLog.assignIds log.nextEventId events with
    | none => exact Agree.aborted
    | some result =>
        rcases result with ⟨persisted, next⟩
        rcases assignIds_eq_some.mp hassign with ⟨hpersisted, hnext⟩
        have hfits : Fits persisted := by
          rw [hpersisted, h.nextEventId]
          exact hfit _ (List.mem_singleton.mpr rfl) (mt numberFrom_eq_nil.mp hne)
        have hne' : persisted ≠ [] := by
          rw [hpersisted]
          exact mt numberFrom_eq_nil.mp hne
        rcases hfits.encode hne' with ⟨record, hencode, hrecord⟩
        simp only [Option.map_some, hencode, List.nil_append]
        rw [hpersisted] at hrecord ⊢
        exact Agree.stepped (h.recorded hne hrecord hnext)

/-- The loop that writes the kept events again leaves them as they were. -/
theorem Refines.rewrite {log : FileEventLog} {mock : MockEventLog} {keep : List SimEvent}
    (h : Refines log mock) (hnumbered : NumberedFrom ⟨log.nextEventId⟩ keep)
    (hlength : log.nextEventId.toNat + keep.length < 2 ^ 64)
    (hfit : forall event : SimEvent, event ∈ keep -> Fits [event]) :
    exists after : FileEventLog,
      log.rewrite keep = some (.ok (), after) ∧
        Refines after { events := mock.events ++ keep, nextEventId := after.nextEventId } ∧
        after.nextEventId.toNat = log.nextEventId.toNat + keep.length := by
  induction keep generalizing log mock with
  | nil =>
      refine ⟨log, rfl, ?_, rfl⟩
      rw [List.append_nil]
      exact ⟨h.holds, h.io, rfl⟩
  | cons event rest ih =>
      rw [List.length_cons] at hlength
      rcases h.holds with ⟨frames, hholds, _⟩
      have hsame : [{ event with eventId := ⟨log.nextEventId⟩ }] = [event] := by
        rw [← hnumbered.left]
      have hone : numberFrom ⟨log.nextEventId⟩ [event] = [event] := hsame
      rcases (hfit event List.mem_cons_self).encode (List.cons_ne_nil _ _) with
        ⟨record, hencode, hrecord⟩
      have hsucc := checkedSucc_of_lt (x := log.nextEventId) (by omega)
      have hnat := checkedSucc_eq_some.mp hsucc
      have hnext := h.recorded (List.cons_ne_nil event []) (hone.symm ▸ hrecord) hnat
      rw [hone] at hnext
      have hwrite : log.writeEvent { event with eventId := EventId.zero } =
          some (.ok event, log.recorded record (log.nextEventId + 1) [event]) := by
        rw [writeEvent_of_no_faults h.records hholds.buffer]
        simp only [hsame, hencode, hsucc, Option.map_some]
        rw [List.cons.inj hsame |>.left]
      have hlater : NumberedFrom ⟨log.nextEventId + 1⟩ rest := by
        rw [← next_of_checkedSucc hsucc]
        exact hnumbered.right
      have hbound : (log.nextEventId + 1).toNat + rest.length < 2 ^ 64 := by omega
      rcases ih hnext hlater hbound (fun e he => hfit e (List.mem_cons_of_mem _ he)) with
        ⟨after, hrest, hrefines, hcounter⟩
      refine ⟨after, ?_, ?_, ?_⟩
      · rw [FileEventLog.rewrite, hwrite]
        exact hrest
      · rw [List.append_cons]
        exact hrefines
      · change after.nextEventId.toNat = (log.nextEventId + 1).toNat + rest.length at hcounter
        rw [List.length_cons]
        omega

theorem closeWriter_holds {log : FileEventLog} {frames : List WalFrame} (h : Holds log frames)
    (hio : log.io = {}) : Holds log.closeWriter frames ∧ log.closeWriter.io = {} := by
  unfold FileEventLog.closeWriter
  cases hwriter : log.writer with
  | none => exact ⟨h, hio⟩
  | some buffer =>
      have hempty : log.stream.buffer = [] := h.buffer
      simp only [BufferedFile.flush_of_buffer_eq_nil hempty]
      refine ⟨⟨h.records, h.file, h.synced, rfl, h.readError, ?_⟩, ?_⟩
      · exact ⟨h.counts.numbered, h.counts.nextEventId, h.counts.lastTick, h.counts.totalEvents⟩
      · rw [hio]
        rfl

theorem removeFile_holds {log : FileEventLog} {frames : List WalFrame} (h : Holds log frames)
    (hio : log.io = {}) (hwriter : log.writer = none) :
    exists removed : FileEventLog, log.removeFile = (.ok (), removed) ∧
      Refines { removed with nextEventId := 1, lastTick := none, totalEvents := 0 }
        MockEventLog.new := by
  have hcounts (removed : FileEventLog) :
      Counts { removed with nextEventId := 1, lastTick := none, totalEvents := 0 } [] :=
    ⟨trivial, rfl, rfl, rfl⟩
  have hbuffer : log.writer.getD [] = [] := by rw [hwriter]; rfl
  unfold FileEventLog.removeFile
  cases hfile : log.file with
  | none =>
      have hjoined : joined frames = [] := by
        rw [← h.file, hfile]
        rfl
      have hsynced : log.synced = 0 := by
        rw [h.synced, hjoined]
        rfl
      have hpath : log.file.getD [] = [] := by rw [hfile]; rfl
      exact ⟨log, rfl, ⟨[], ⟨nofun, hpath, hsynced, hbuffer, h.readError, hcounts log⟩, rfl⟩,
        hio, rfl⟩
  | some bytes =>
      rw [hio]
      exact ⟨_, rfl, ⟨[], ⟨nofun, rfl, rfl, hbuffer, h.readError, hcounts _⟩, rfl⟩, rfl, rfl⟩

omit [Crc32] [BatchJson] in
theorem closeWriter_writer (log : FileEventLog) : log.closeWriter.writer = none := by
  unfold FileEventLog.closeWriter
  cases hwriter : log.writer with
  | none => exact hwriter
  | some buffer => rfl

theorem Refines.truncateAfter {log : FileEventLog} {mock : MockEventLog} {eventId : EventId}
    (h : Refines log mock) (hfit : WritesFit mock (.truncateAfter eventId)) :
    Agree Refines (fileStep log (.truncateAfter eventId))
      (mockStep mock (.truncateAfter eventId)) := by
  rcases h.holds with ⟨frames, hholds, hevents⟩
  rcases closeWriter_holds hholds h.io with ⟨hclosed, hio⟩
  rcases removeFile_holds hclosed hio (closeWriter_writer log) with ⟨removed, hremove, hstart⟩
  let keep := mock.events.filter (fun e => e.eventId ≤ eventId)
  have hnumbered := hholds.counts.numbered
  have hbound := hholds.counts.length_lt
  rw [hevents] at hnumbered hbound
  have hone : ((⟨1⟩ : EventId)).val.toNat = 1 := rfl
  rcases hnumbered.filter_le (by rw [hone]; omega) with ⟨k, hkeep⟩
  change keep = mock.events.take k at hkeep
  have hprefix : NumberedFrom ⟨1⟩ keep := by
    rw [hkeep]
    rw [← List.take_append_drop k mock.events, NumberedFrom.append_iff] at hnumbered
    exact hnumbered.left
  have hlength : keep.length + 1 < 2 ^ 64 := by
    have hle := List.length_filter_le (fun e => decide (e.eventId ≤ eventId)) mock.events
    exact Nat.lt_of_le_of_lt (Nat.add_le_add_right hle 1) hbound
  have hsingle : forall event : SimEvent, event ∈ keep -> Fits [event] := by
    intro event hmem
    exact hfit [event] (List.mem_map_of_mem hmem) (List.cons_ne_nil _ _)
  rcases hstart.rewrite hprefix (by rw [Nat.add_comm]; exact hlength) hsingle with
    ⟨after, hrewrite, hafter, hcounter⟩
  change after.nextEventId.toNat = 1 + keep.length at hcounter
  have hfile : log.truncateAfter eventId = some (.ok (), after) := by
    unfold FileEventLog.truncateAfter
    simp only [hclosed.readAllEvents, hremove, hevents]
    exact hrewrite
  have hmock : mock.truncateAfter eventId =
      some (.ok (), { events := keep, nextEventId := after.nextEventId }) := by
    have hdurable := hprefix.durableLast hlength
    unfold MockEventLog.truncateAfter
    cases hlast : keep.getLast? with
    | none =>
        rw [List.getLast?_eq_none_iff.mp hlast, List.length_nil] at hcounter
        have hfirst : after.nextEventId = 1 := UInt64.toNat_inj.mp hcounter
        rw [hfirst]
        simp only [keep] at hlast ⊢
        simp only [hlast]
    | some last =>
        rw [durableLastEventId, hlast, Option.map_some, Option.getD_some] at hdurable
        have hnext : checkedSucc last.eventId.val = some after.nextEventId := by
          apply checkedSucc_eq_some.mpr
          omega
        simp only [keep] at hlast ⊢
        simp only [hlast, hnext]
        rfl
  change Agree Refines ((log.truncateAfter eventId).map _) ((mock.truncateAfter eventId).map _)
  rw [hfile, hmock]
  exact Agree.stepped hafter

theorem Refines.reopen {log : FileEventLog} {mock : MockEventLog} (h : Refines log mock) :
    Agree Refines (fileStep log .reopen) (mockStep mock .reopen) := by
  rcases h.holds with ⟨frames, hholds, hevents⟩
  rcases hholds.new_path hholds.close_file with ⟨reopened, hnew, hreopened, hio⟩
  have hfile : log.reopen = some (.ok (), reopened) := by
    unfold FileEventLog.reopen
    rw [hnew]
    rfl
  change Agree Refines (log.reopen.map _) _
  rw [hfile]
  refine Agree.stepped ⟨⟨frames, hreopened, hevents⟩, hio, ?_⟩
  apply UInt64.toNat_inj.mp
  rw [← h.nextEventId, hreopened.counts.nextEventId, hholds.counts.nextEventId]

theorem Refines.step {log : FileEventLog} {mock : MockEventLog} {op : LogOp}
    (h : Refines log mock) (hfit : WritesFit mock op) :
    Agree Refines (fileStep log op) (mockStep mock op) := by
  rcases h.holds with ⟨frames, hholds, hevents⟩
  have hread : log.readAllEvents {} = .ok mock.events := by
    rw [hholds.readAllEvents, hevents]
  cases op with
  | append event => exact h.append hfit
  | appendBatch events => exact h.appendBatch hfit
  | truncateAfter eventId => exact h.truncateAfter hfit
  | reopen => exact h.reopen
  | readFromEventId fromId =>
      have hanswer : log.readFromEventId fromId = mock.readFromEventId fromId := by
        unfold FileEventLog.readFromEventId
        rw [hread]
        rfl
      change Agree Refines (some (LogAnswer.events (log.readFromEventId fromId), log)) _
      rw [hanswer]
      exact Agree.stepped h
  | readAllValid =>
      change Agree Refines (some (LogAnswer.events (log.readAllEvents {}), log)) _
      rw [hread]
      exact Agree.stepped h
  | lastEventId =>
      have hanswer : log.lastEventId = mock.lastEventId := by
        unfold FileEventLog.lastEventId MockEventLog.lastEventId
        rw [h.nextEventId]
      change Agree Refines (some (LogAnswer.id log.lastEventId, log)) _
      rw [hanswer]
      exact Agree.stepped h
  | lastTick =>
      have hanswer : log.lastTick = mock.lastTick := by
        rw [hholds.counts.lastTick, hevents]
        rfl
      change Agree Refines (some (LogAnswer.tick log.lastTick, log)) _
      rw [hanswer]
      exact Agree.stepped h
  | len =>
      have hanswer : log.len = mock.len := by
        change log.totalEvents = mock.events.length
        rw [hholds.counts.totalEvents, hevents]
      change Agree Refines (some (LogAnswer.count log.len, log)) _
      rw [hanswer]
      exact Agree.stepped h

/-- The file-backed log, starting without a file, answers every sequence of
operations as the in-memory log does. -/
theorem fileStep_refines_mockStep {ops : List LogOp}
    (hfit : Along mockStep WritesFit ops MockEventLog.new) :
    (run fileStep ops (FileEventLog.closed none)).map Prod.fst =
      (run mockStep ops MockEventLog.new).map Prod.fst :=
  (run_simulation (fun _ _ _ h hop => h.step hop) Refines.start hfit).outputs_eq

end Refinement

/-!
## A sequence with a truncation and a reopening
-/

def rewindOps : List LogOp :=
  [.append (SimEvent.new Tick.zero (.worldSaved Tick.zero)), .appendBatch [],
    .appendBatch [SimEvent.new ⟨1⟩ (.zoneLoaded ZoneId.origin),
      SimEvent.new ⟨1⟩ (.zoneUnloaded ZoneId.origin)],
    .reopen, .truncateAfter ⟨2⟩, .len,
    .append (SimEvent.new ⟨2⟩ (.zoneLoaded ZoneId.origin)), .reopen, .readAllValid]

def rewindBatches : List (List SimEvent) :=
  [[⟨⟨1⟩, Tick.zero, .worldSaved Tick.zero⟩],
    [⟨⟨2⟩, ⟨1⟩, .zoneLoaded ZoneId.origin⟩, ⟨⟨3⟩, ⟨1⟩, .zoneUnloaded ZoneId.origin⟩],
    [⟨⟨2⟩, ⟨1⟩, .zoneLoaded ZoneId.origin⟩], [⟨⟨3⟩, ⟨2⟩, .zoneLoaded ZoneId.origin⟩]]

theorem fileStep_refines_mockStep_rewind :
    letI := ieeeCrc32
    letI := knownBatches rewindBatches
    (run fileStep rewindOps (FileEventLog.closed none)).map Prod.fst =
      (run mockStep rewindOps MockEventLog.new).map Prod.fst := by
  let _ := ieeeCrc32
  let _ := knownBatches rewindBatches
  have hfits : forall batch : List SimEvent, batch ∈ rewindBatches -> Fits batch :=
    fun _ hmem => knownBatches_fits (by decide +kernel) (by decide +kernel) hmem
  have halong : checkAlong mockStep
      (fun mock op => (writtenBatches mock op).all fun batch =>
        batch.isEmpty || decide (batch ∈ rewindBatches)) rewindOps MockEventLog.new = true := by
    decide +kernel
  apply fileStep_refines_mockStep
  refine Along.of_check ?_ halong
  intro mock op hop batch hmem hne
  have hbatch := List.all_eq_true.mp hop batch hmem
  rw [Bool.or_eq_true, List.isEmpty_iff, decide_eq_true_eq] at hbatch
  exact hfits batch (hbatch.resolve_left hne)

end Seej
