import Seej.Foundation.Transition
import Seej.WalJournal

/-!
# Calls that append

`append` and `append_batch` number their events, encode them as one record and
write it.  `Called` lists what such a call can do, whatever the file system
answers.
-/

namespace Seej

open Foundation

inductive AppendCall where
  | append (event : SimEvent)
  | appendBatch (events : List SimEvent)

def AppendCall.events : AppendCall -> List SimEvent
  | .append event => [event]
  | .appendBatch events => events

def acknowledged (answers : List (SimResult (List SimEvent))) : List SimEvent :=
  answers.flatMap fun
    | .ok events => events
    | .error _ => []

@[simp] theorem acknowledged_nil : acknowledged [] = [] := rfl

@[simp] theorem acknowledged_append (left right : List (SimResult (List SimEvent))) :
    acknowledged (left ++ right) = acknowledged left ++ acknowledged right := by
  simp [acknowledged]

@[simp] theorem acknowledged_ok (events : List SimEvent) : acknowledged [.ok events] = events :=
  List.append_nil events

@[simp] theorem acknowledged_error (e : SimError) : acknowledged [.error e] = [] := rfl

section Calls

variable [Crc32] [BatchJson]

namespace FileEventLog

def call (log : FileEventLog) : AppendCall ->
    Option (SimResult (List SimEvent) × FileEventLog)
  | .append event =>
      (log.append event).map fun (result, log) => (result.map fun event => [event], log)
  | .appendBatch events => log.appendBatch events

def runCalls : List AppendCall -> FileEventLog ->
    Option (List (SimResult (List SimEvent)) × FileEventLog) :=
  run call

def numbered (log : FileEventLog) (c : AppendCall) : List SimEvent :=
  numberFrom ⟨log.nextEventId⟩ c.events

end FileEventLog

inductive Called (log : FileEventLog) (c : AppendCall) :
    SimResult (List SimEvent) -> FileEventLog -> Prop where
  | nothing (hevents : c.events = []) : Called log c (.ok []) log
  | unencodable {e : SimError} (hencode : encodeEventRecord (log.numbered c) = .error e) :
      Called log c (.error e) log
  | failed {record : Bytes} {e : SimError} {written : FileEventLog}
      (hencode : encodeEventRecord (log.numbered c) = .ok record)
      (hwrite : log.writeRecords record = (.error e, written))
      (hbound : log.nextEventId ≠ u64Max ->
        log.nextEventId.toNat + c.events.length < 2 ^ 64) :
      Called log c (.error e) written
  | done {record : Bytes} {written : FileEventLog} {next : UInt64}
      (hencode : encodeEventRecord (log.numbered c) = .ok record)
      (hwrite : log.writeRecords record = (.ok (), written))
      (hnext : next.toNat = log.nextEventId.toNat + c.events.length) :
      Called log c (.ok (log.numbered c)) (written.counted next (log.numbered c))

omit [Crc32] [BatchJson] in
theorem writeRecords_nextEventId {log written : FileEventLog} {bytes : Bytes}
    {result : SimResult Unit} (h : log.writeRecords bytes = (result, written)) :
    written.nextEventId = log.nextEventId := by
  cases hcan : log.canWrite with
  | false =>
      rcases FileEventLog.writeRecords_of_not_canWrite hcan bytes with ⟨e, heq⟩
      rw [heq] at h
      cases h
      rfl
  | true =>
      rw [FileEventLog.writeRecords_of_canWrite hcan] at h
      cases h
      rfl

theorem call_called {log after : FileEventLog} {c : AppendCall}
    {result : SimResult (List SimEvent)} (h : log.call c = some (result, after)) :
    Called log c result after := by
  cases c with
  | append event =>
      change (log.writeEvent event).map _ = _ at h
      rcases Option.map_eq_some_iff.mp h with ⟨⟨written, later⟩, hwrite, hresult⟩
      rcases Prod.mk.inj hresult with ⟨hanswer, hlater⟩
      rw [← hanswer, ← hlater]
      unfold FileEventLog.writeEvent at hwrite
      simp only at hwrite
      cases hencode : encodeEventRecord [{ event with eventId := ⟨log.nextEventId⟩ }] with
      | error e =>
          simp only [hencode] at hwrite
          cases hwrite
          exact Called.unencodable hencode
      | ok record =>
          simp only [hencode] at hwrite
          cases hrecords : log.writeRecords record with
          | mk outcome middle =>
              cases outcome with
              | error e =>
                  simp only [hrecords] at hwrite
                  cases hwrite
                  refine Called.failed (c := .append event) hencode hrecords ?_
                  intro hmax
                  have hlt := checkedSucc_eq_some.mp (if_neg hmax)
                  change log.nextEventId.toNat + 1 < 2 ^ 64
                  rw [← hlt]
                  exact UInt64.toNat_lt _
              | ok _ =>
                  simp only [hrecords] at hwrite
                  rcases Option.bind_eq_some_iff.mp hwrite with ⟨next, hnext, heq⟩
                  cases heq
                  refine Called.done (c := .append event) hencode hrecords ?_
                  rw [checkedSucc_eq_some.mp hnext, writeRecords_nextEventId hrecords]
                  rfl
  | appendBatch events =>
      change log.appendBatch events = _ at h
      unfold FileEventLog.appendBatch at h
      by_cases hne : events = []
      · rw [if_pos hne] at h
        cases h
        exact Called.nothing hne
      · rw [if_neg hne] at h
        rcases Option.bind_eq_some_iff.mp h with ⟨⟨persisted, next⟩, hassign, hmatch⟩
        rcases assignIds_eq_some.mp hassign with ⟨hpersisted, hnext⟩
        have hnumbered : persisted = log.numbered (.appendBatch events) := hpersisted
        simp only [hnumbered] at hmatch
        cases hencode : encodeEventRecord (log.numbered (.appendBatch events)) with
        | error e =>
            simp only [hencode] at hmatch
            cases hmatch
            exact Called.unencodable hencode
        | ok record =>
            simp only [hencode] at hmatch
            cases hrecords : log.writeRecords record with
            | mk outcome middle =>
                cases outcome with
                | error e =>
                    simp only [hrecords] at hmatch
                    cases hmatch
                    refine Called.failed hencode hrecords fun _ => ?_
                    change log.nextEventId.toNat + events.length < 2 ^ 64
                    rw [← hnext]
                    exact next.toNat_lt
                | ok _ =>
                    simp only [hrecords] at hmatch
                    cases hmatch
                    exact Called.done hencode hrecords hnext

theorem call_numbered {log after : FileEventLog} {c : AppendCall} {persisted : List SimEvent}
    (h : log.call c = some (.ok persisted, after)) : persisted = log.numbered c := by
  generalize hresult : (Except.ok persisted : SimResult (List SimEvent)) = result at h
  cases call_called h with
  | nothing hevents =>
      rw [Except.ok.inj hresult, FileEventLog.numbered, hevents]
      rfl
  | done _ _ _ => exact Except.ok.inj hresult
  | unencodable _ => cases hresult
  | failed _ _ _ => cases hresult

/-!
## Calls without a fault
-/

theorem Holds.call {log after : FileEventLog} {frames : List WalFrame} {c : AppendCall}
    {result : SimResult (List SimEvent)} (h : Holds log frames) (hio : log.io.records = [])
    (hcall : log.call c = some (result, after)) (hround : RoundTrips (log.numbered c)) :
    exists more : List WalFrame,
      Holds after (frames ++ more) ∧ framesEvents more = acknowledged [result] ∧
        after.io = log.io := by
  cases call_called hcall with
  | nothing _ => exact ⟨[], by rw [List.append_nil]; exact h, rfl, rfl⟩
  | unencodable _ => exact ⟨[], by rw [List.append_nil]; exact h, rfl, rfl⟩
  | failed _ hwrite _ =>
      rw [FileEventLog.writeRecords_of_no_faults hio h.buffer] at hwrite
      cases hwrite
  | @done record written next hencode hwrite hnext =>
      have hrecord := hround.isRecord hencode
      have hne : c.events ≠ [] := mt numberFrom_eq_nil.mpr hrecord.ne_nil
      rw [FileEventLog.writeRecords_of_no_faults hio h.buffer] at hwrite
      cases hwrite
      refine ⟨[⟨log.numbered c, record⟩], h.recorded hne hrecord hnext, ?_, rfl⟩
      rw [acknowledged_ok]
      exact List.append_nil _

theorem Holds.appendBatch_same {log log' after : FileEventLog} {frames : List WalFrame}
    {events : List SimEvent} {result : SimResult (List SimEvent)} (h : Holds log frames)
    (h' : Holds log' frames) (hio : log.io.records = []) (hio' : log'.io.records = [])
    (hround : RoundTrips (numberFrom ⟨log.nextEventId⟩ events))
    (happend : log.appendBatch events = some (result, after)) :
    exists (more : List WalFrame) (after' : FileEventLog),
      log'.appendBatch events = some (result, after') ∧ Holds after (frames ++ more) ∧
        Holds after' (frames ++ more) ∧ framesEvents more = acknowledged [result] := by
  have hid : log'.nextEventId = log.nextEventId := by
    apply UInt64.toNat_inj.mp
    rw [h.counts.nextEventId, h'.counts.nextEventId]
  by_cases hne : events = []
  · unfold FileEventLog.appendBatch at happend ⊢
    rw [if_pos hne] at happend ⊢
    cases happend
    refine ⟨[], log', rfl, ?_, ?_, rfl⟩
    all_goals rw [List.append_nil]
    · exact h
    · exact h'
  · rw [appendBatch_of_no_faults hio h.buffer hne] at happend
    rw [appendBatch_of_no_faults hio' h'.buffer hne, hid]
    rcases Option.map_eq_some_iff.mp happend with ⟨⟨persisted, next⟩, hassign, heq⟩
    rcases assignIds_eq_some.mp hassign with ⟨hpersisted, hnext⟩
    rw [hassign]
    cases hencode : encodeEventRecord persisted with
    | error e =>
        simp only [hencode] at heq
        cases heq
        refine ⟨[], log', by simp [hencode], ?_, ?_, rfl⟩
        all_goals rw [List.append_nil]
        · exact h
        · exact h'
    | ok record =>
        simp only [hencode] at heq
        cases heq
        subst hpersisted
        have hrecord := hround.isRecord hencode
        have hright := h'.recorded hne (hid ▸ hrecord) (hid ▸ hnext)
        rw [hid] at hright
        refine ⟨_, _, by simp only [Option.map_some, hencode], h.recorded hne hrecord hnext,
          hright, ?_⟩
        rw [acknowledged_ok]
        exact List.append_nil _

/-- What appends without a fault build. -/
theorem runCalls_holds {calls : List AppendCall} {answers : List (SimResult (List SimEvent))}
    {log : FileEventLog}
    (hrun : FileEventLog.runCalls calls (FileEventLog.closed none) = some (answers, log))
    (hround : Along FileEventLog.call (fun log c => RoundTrips (log.numbered c)) calls
      (FileEventLog.closed none)) :
    exists frames : List WalFrame,
      Holds log frames ∧ framesEvents frames = acknowledged answers ∧ log.io = {} := by
  let P (before : List (SimResult (List SimEvent))) (state : FileEventLog) : Prop :=
    exists frames : List WalFrame,
      Holds state frames ∧ framesEvents frames = acknowledged before ∧ state.io = {}
  have hstep : forall (before : List (SimResult (List SimEvent))) (state next : FileEventLog)
      (c : AppendCall) (answer : SimResult (List SimEvent)), P before state ->
      RoundTrips (state.numbered c) -> state.call c = some (answer, next) ->
      P (before ++ [answer]) next := by
    intro before state next c answer hbefore hjson hcall
    rcases hbefore with ⟨frames, hholds, hevents, hio⟩
    rcases hholds.call (by rw [hio]) hcall hjson with ⟨more, hnext, hmore, hsame⟩
    refine ⟨frames ++ more, hnext, ?_, hsame.trans hio⟩
    rw [framesEvents_append, acknowledged_append, hevents, hmore]
  have hstart : P [] (FileEventLog.closed none) := ⟨[], Holds.empty {}, rfl, rfl⟩
  exact run_along hstep hrun hround hstart

end Calls

end Seej
