import Seej.WalCalls
import Seej.WalCodec

/-!
# Crashes during an append

A batch is one record, so a crash that cuts the record short takes the whole batch
with it: the length in the header tells that the record is incomplete, whatever
its checksum.  Opening gives back the log from before the append.
-/

namespace Seej

open Foundation

section Crash

variable [Crc32] [BatchJson]

/-- Opening after the first `k` bytes of a record have reached the file. -/
theorem Holds.reopen_cut {log : FileEventLog} {frames : List WalFrame}
    {events persisted : List SimEvent} {next : UInt64} {record : Bytes} (h : Holds log frames)
    (hassign : FileEventLog.assignIds log.nextEventId events = some (persisted, next))
    (hrecord : IsRecord persisted record) (k : Nat) :
    exists (reopened : FileEventLog) (kept : List WalFrame),
      FileEventLog.new (some (joined frames ++ record.take k)) = some (.ok reopened) ∧
        Holds reopened kept ∧ reopened.file = some (joined kept) ∧
        kept = if k < record.length then frames else frames ++ [⟨persisted, record⟩] := by
  rcases assignIds_eq_some.mp hassign with ⟨hpersisted, hnext⟩
  by_cases hcut : k < record.length
  · have htail : NoRecord (record.take k) := by
      by_cases hzero : k = 0
      · left
        rw [hzero, List.take_zero]
      · exact Or.inr (hrecord.framed.torn k (Nat.pos_of_ne_zero hzero) hcut)
    rcases new_holds h.records htail h.counts.numbered h.counts.length_lt with
      ⟨reopened, hnew, hholds, _, _, hpath⟩
    exact ⟨reopened, frames, hnew, hholds, hpath, (if_pos hcut).symm⟩
  · have hwhole : record.take k = record := List.take_of_length_le (Nat.le_of_not_lt hcut)
    have hrecords : Records (frames ++ [⟨persisted, record⟩]) := by
      apply h.records.append
      intro frame hmem
      rw [List.mem_singleton.mp hmem]
      exact hrecord
    have hevents : framesEvents (frames ++ [⟨persisted, record⟩]) =
        framesEvents frames ++ persisted := by
      rw [framesEvents_append]
      exact congrArg _ (List.append_nil _)
    have hfile : joined frames ++ record.take k =
        joined (frames ++ [⟨persisted, record⟩]) ++ [] := by
      rw [hwhole, List.append_nil, joined_append]
      exact congrArg _ (List.append_nil _).symm
    have hlength : (framesEvents (frames ++ [⟨persisted, record⟩])).length + 1 < 2 ^ 64 := by
      have hlt : next.toNat < 2 ^ 64 := next.toNat_lt
      have hcount := h.counts.nextEventId
      rw [hevents, List.length_append, hpersisted, numberFrom_length]
      omega
    have hnumbered : NumberedFrom ⟨1⟩ (framesEvents (frames ++ [⟨persisted, record⟩])) := by
      rw [hevents, hpersisted]
      exact h.counts.append_numbered events
    rcases new_holds hrecords (Or.inl rfl) hnumbered hlength with
      ⟨reopened, hnew, hholds, _, _, hpath⟩
    rw [hfile]
    exact ⟨reopened, _, hnew, hholds, hpath, (if_neg hcut).symm⟩

namespace FileEventLog

/-- A log built by appends, and a further batch whose record a crash cuts after `k`
bytes: opening gives back the log from before the batch if a byte is missing, and
the whole batch otherwise; what is appended next continues the numbering. -/
theorem crash_atomic {calls : List AppendCall} {answers : List (SimResult (List SimEvent))}
    {log : FileEventLog} {events persisted : List SimEvent} {next : UInt64} {record : Bytes}
    (hrun : runCalls calls (closed none) = some (answers, log))
    (hjson : Along call (fun log c => RoundTrips (log.numbered c)) calls (closed none))
    (hassign : assignIds log.nextEventId events = some (persisted, next))
    (hrecord : encodeEventRecord persisted = .ok record) (hround : RoundTrips persisted)
    (k : Nat) :
    exists (reopened : FileEventLog) (kept : List SimEvent),
      new (some (log.file.getD [] ++ record.take k)) = some (.ok reopened) ∧
        reopened.readAllValid = .ok kept ∧
        (k < record.length ->
          reopened.file = some (log.file.getD []) ∧ kept = acknowledged answers) ∧
        (record.length ≤ k ->
          reopened.file = some (log.file.getD [] ++ record) ∧
            kept = acknowledged answers ++ persisted) ∧
        forall (c : AppendCall) (more : List SimEvent) (after : FileEventLog),
          reopened.call c = some (.ok more, after) -> NumberedFrom ⟨1⟩ (kept ++ more) := by
  rcases runCalls_holds hrun hjson with ⟨frames, hholds, hevents, _⟩
  have hframe := hround.isRecord hrecord
  rcases hholds.reopen_cut hassign hframe k with ⟨reopened, kept, hnew, hkept, hfile, hwhich⟩
  refine ⟨reopened, framesEvents kept, ?_, hkept.readAllEvents, ?_, ?_, ?_⟩
  · rw [hholds.file]
    exact hnew
  · intro hcut
    rw [if_pos hcut] at hwhich
    rw [hfile, hholds.file, hwhich]
    exact ⟨rfl, hevents⟩
  · intro hwhole
    rw [if_neg (Nat.not_lt_of_le hwhole)] at hwhich
    rw [hfile, hholds.file, hwhich, joined_append, framesEvents_append, hevents]
    exact ⟨congrArg (fun bytes => some (joined frames ++ bytes)) (List.append_nil _),
      congrArg (fun more => acknowledged answers ++ more) (List.append_nil _)⟩
  · intro c more after hcall
    rw [call_numbered hcall]
    exact hkept.counts.append_numbered c.events

end FileEventLog

end Crash

/-!
## A cut in the middle of a record
-/

namespace FileEventLog

def savedEvent : SimEvent :=
  SimEvent.new Tick.zero (.worldSaved Tick.zero)

def loadedEvent : SimEvent :=
  SimEvent.new Tick.zero (.zoneLoaded ZoneId.origin)

def cutBatches : List (List SimEvent) :=
  [numberFrom ⟨1⟩ [savedEvent], numberFrom ⟨2⟩ [loadedEvent, savedEvent]]

theorem crash_atomic_cut :
    letI := ieeeCrc32
    letI := knownBatches cutBatches
    exists (log reopened : FileEventLog) (record : Bytes),
      runCalls [.append savedEvent] (closed none) =
        some ([.ok (numberFrom ⟨1⟩ [savedEvent])], log) ∧
      encodeEventRecord (numberFrom ⟨2⟩ [loadedEvent, savedEvent]) = .ok record ∧
      40 < record.length ∧
      new (some (log.file.getD [] ++ record.take 40)) = some (.ok reopened) ∧
      reopened.readAllValid = .ok (numberFrom ⟨1⟩ [savedEvent]) := by
  let _ := ieeeCrc32
  let _ := knownBatches cutBatches
  have hround : forall events : List SimEvent, RoundTrips events :=
    knownBatches_roundTrips (by decide +kernel)
  have hanswers : (runCalls [.append savedEvent] (closed none)).map
      (fun result => (result.1, result.2.nextEventId)) =
      some ([.ok (numberFrom ⟨1⟩ [savedEvent])], 2) := by
    decide +kernel
  have hlong : (encodeEventRecord (numberFrom ⟨2⟩ [loadedEvent, savedEvent])).toOption.any
      (fun record => 40 < record.length) = true := by
    decide +kernel
  rcases Option.map_eq_some_iff.mp hanswers with ⟨⟨answers, log⟩, hrun, hresult⟩
  rcases Prod.mk.inj hresult with ⟨hanswer, hcounter⟩
  change answers = _ at hanswer
  change log.nextEventId = 2 at hcounter
  rw [hanswer] at hrun
  cases hrecord : encodeEventRecord (numberFrom ⟨2⟩ [loadedEvent, savedEvent]) with
  | error e => simp [hrecord, Except.toOption] at hlong
  | ok record =>
      simp only [hrecord, Except.toOption, Option.any_some, decide_eq_true_eq] at hlong
      have hassign : assignIds log.nextEventId [loadedEvent, savedEvent] =
          some (numberFrom ⟨2⟩ [loadedEvent, savedEvent], 4) := by
        rw [hcounter]
        decide
      rcases crash_atomic hrun ⟨hround _, fun _ _ _ => trivial⟩ hassign hrecord (hround _) 40 with
        ⟨reopened, kept, hnew, hread, hcut, _⟩
      refine ⟨log, reopened, record, hrun, rfl, hlong, hnew, ?_⟩
      rw [hread, (hcut hlong).right]
      rfl

end FileEventLog

end Seej
