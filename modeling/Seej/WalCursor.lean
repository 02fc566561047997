import Seej.WalCalls
import Seej.WalCodec
import Seej.WalRepair

/-!
# The cursor of the log

The next event identifier comes from the file, and the successor of an identifier is
taken without a check.  Only the last identifiers of the `u64` range do harm: as the end
of a record they stop the log from being opened, and an append must not reach them.
-/

namespace Seej

open Foundation

section Cursor

variable [Crc32] [BatchJson]

/-!
## Opening
-/

theorem ValidPrefix.eq_nil {frames : List WalFrame} (h : ValidPrefix [] frames) :
    frames = [] := by
  have hle := h.records.length_le
  rw [List.prefix_nil.mp h.isPrefix, List.length_nil, Nat.le_zero] at hle
  exact List.length_eq_zero_iff.mp hle

namespace FileEventLog

structure Fresh (log : FileEventLog) (frames : List WalFrame) : Prop where
  reads : log.readAllValid = .ok (framesEvents frames)
  tallied : Tallied log (framesEvents frames)
  writer : log.writer = none
  io : log.io = {}

/-- Opening aborts on a record whose last identifier has no successor, and on nothing
else. -/
theorem new_cases {file : Option Bytes} {frames : List WalFrame}
    (h : ValidPrefix (file.getD []) frames) :
    (Countable (frames.map Frame.value) ∧
        exists log : FileEventLog, new file = some (.ok log) ∧ Fresh log frames) ∨
      (¬ Countable (frames.map Frame.value) ∧ new file = none) := by
  by_cases hcount : Countable (frames.map Frame.value)
  · refine Or.inl ⟨hcount, ?_⟩
    cases file with
    | none =>
        rw [h.eq_nil]
        exact ⟨closed none, rfl, rfl, ⟨rfl, rfl, rfl⟩, rfl, rfl⟩
    | some bytes =>
        rcases new_opened h hcount with ⟨log, hnew, hagain, hopened⟩
        rcases new_eq_some hagain with ⟨_, _, _, _, _, _, _, _, hwriter, _⟩
        refine ⟨log, hnew, ?_, hopened.tallied, hwriter, new_io hnew⟩
        apply readAllEvents_records h.records (Or.inl rfl) hopened.readError
        rw [hopened.file, Option.getD_some, List.append_nil]
  · refine Or.inr ⟨hcount, ?_⟩
    cases file with
    | none =>
        rw [h.eq_nil] at hcount
        exact absurd nofun hcount
    | some bytes =>
        rcases h.exists_tail with ⟨tail, hfile, htail⟩
        rw [Option.getD_some] at hfile
        rw [hfile, new_records h.records htail, Option.map_eq_none_iff]
        exact Option.not_isSome_iff_eq_none.mp (mt noteAll_isSome.mp hcount)

/-!
## Appending
-/

def Refuses (last : EventId) : AppendCall -> Prop
  | .append event =>
      exists e : SimError, encodeEventRecord [{ event with eventId := last.next }] = .error e
  | .appendBatch _ => False

/-- The identifiers go on, one by one, from the one after `last`. -/
def GoesOn (last : EventId) (events : List SimEvent) : Prop :=
  events.map (fun event => event.eventId.val.toNat) =
    List.range' (last.val.toNat + 1) events.length

/-- The log of this file never computes the successor of the last `u64` or the predecessor
of `0`, neither when it is opened nor in a call, and numbers the events of the call from
the last event that it reads. -/
def CursorSafe (file : Option Bytes) (c : AppendCall) : Prop :=
  exists log : FileEventLog,
    new file = some (.ok log) ∧ 1 ≤ log.nextEventId ∧
      (exists events : List SimEvent, log.readAllValid = .ok events ∧
        log.lastEventId = (events.getLast?.map SimEvent.eventId).getD EventId.zero) ∧
      forall records : List RecordIo,
        (log.withRecords records).call c ≠ none ∧
          forall (persisted : List SimEvent) (after : FileEventLog),
            (log.withRecords records).call c = some (.ok persisted, after) ->
              GoesOn log.lastEventId persisted ∧ persisted.length = c.events.length

/-- No valid record of the file ends with the last `u64`, and the events of the call do
not reach it. -/
def CursorRoom (file : Option Bytes) (c : AppendCall) : Prop :=
  exists frames : List WalFrame,
    ValidPrefix (file.getD []) frames ∧ Countable (frames.map Frame.value) ∧
      ((durableLastEventId (framesEvents frames)).val.toNat + c.events.length < u64Max.toNat ∨
        Refuses (durableLastEventId (framesEvents frames)) c)

omit [Crc32] [BatchJson] in
theorem next_eq_nextEventId {log : FileEventLog} {last : EventId}
    (h : log.nextEventId.toNat = last.val.toNat + 1) : last.next = ⟨log.nextEventId⟩ := by
  have hlt := log.nextEventId.toNat_lt
  exact next_of_checkedSucc (checkedSucc_eq_some.mpr h)

theorem call_ne_none {log : FileEventLog} {last : EventId} {c : AppendCall}
    (hnext : log.nextEventId.toNat = last.val.toNat + 1)
    (hroom : last.val.toNat + c.events.length < u64Max.toNat ∨ Refuses last c) :
    log.call c ≠ none := by
  have hmax : u64Max.toNat = 2 ^ 64 - 1 := rfl
  cases c with
  | append event =>
      change (log.writeEvent event).map _ ≠ none
      rw [ne_eq, Option.map_eq_none_iff]
      unfold writeEvent
      cases hencode : encodeEventRecord [{ event with eventId := ⟨log.nextEventId⟩ }] with
      | error e => simp [hencode]
      | ok record =>
          rcases hroom with hlt | ⟨e, hrefused⟩
          · change last.val.toNat + 1 < _ at hlt
            cases hrecords : log.writeRecords record with
            | mk outcome written =>
                cases outcome with
                | error e => simp [hencode, hrecords]
                | ok _ =>
                    have hsucc := @checkedSucc_of_lt written.nextEventId (by
                      rw [writeRecords_nextEventId hrecords, hnext]
                      omega)
                    simp [hencode, hrecords, hsucc]
          · rw [next_eq_nextEventId hnext, hencode] at hrefused
            cases hrefused
  | appendBatch events =>
      change log.appendBatch events ≠ none
      unfold appendBatch
      by_cases hne : events = []
      · rw [if_pos hne]
        exact Option.some_ne_none _
      · rcases hroom with hlt | hrefused
        · change last.val.toNat + events.length < _ at hlt
          have hfits : log.nextEventId.toNat + events.length < 2 ^ 64 := by omega
          rw [if_neg hne, assignIds_eq_some.mpr ⟨rfl, UInt64.toNat_ofNat_of_lt' hfits⟩]
          cases hencode : encodeEventRecord (numberFrom ⟨log.nextEventId⟩ events) with
          | error e => simp [hencode]
          | ok record =>
              cases hrecords : log.writeRecords record with
              | mk outcome written => cases outcome <;> simp [hencode, hrecords]
        · exact absurd hrefused id

theorem room_of_call {log : FileEventLog} {last : EventId} {c : AppendCall}
    (hnext : log.nextEventId.toNat = last.val.toNat + 1) (hio : log.io.records = [])
    (hbuffer : log.writer.getD [] = []) (hlast : last.val ≠ u64Max) (h : log.call c ≠ none) :
    last.val.toNat + c.events.length < u64Max.toNat ∨ Refuses last c := by
  have hmax : u64Max.toNat = 2 ^ 64 - 1 := rfl
  cases c with
  | append event =>
      change (log.writeEvent event).map _ ≠ none at h
      rw [ne_eq, Option.map_eq_none_iff, writeEvent_of_no_faults hio hbuffer] at h
      cases hencode : encodeEventRecord [{ event with eventId := ⟨log.nextEventId⟩ }] with
      | error e =>
          refine Or.inr ⟨e, ?_⟩
          rw [next_eq_nextEventId hnext]
          exact hencode
      | ok record =>
          left
          simp only [hencode, Option.map_eq_none_iff] at h
          rcases Option.ne_none_iff_exists'.mp h with ⟨next, hsucc⟩
          have hlt := next.toNat_lt
          rw [checkedSucc_eq_some.mp hsucc, hnext] at hlt
          change last.val.toNat + 1 < _
          omega
  | appendBatch events =>
      left
      change last.val.toNat + events.length < _
      by_cases hne : events = []
      · rw [hne, List.length_nil, hmax]
        have hnot := toNat_ne_max hlast
        have hlt := last.val.toNat_lt
        omega
      · change log.appendBatch events ≠ none at h
        rw [appendBatch_of_room hio hbuffer hne] at h
        split at h
        · omega
        · exact absurd rfl h

theorem call_goesOn {log after : FileEventLog} {last : EventId} {c : AppendCall}
    {persisted : List SimEvent} (hnext : log.nextEventId.toNat = last.val.toNat + 1)
    (h : log.call c = some (.ok persisted, after)) :
    GoesOn last persisted ∧ persisted.length = c.events.length := by
  have hpersisted := call_numbered h
  have hlength : persisted.length = c.events.length := by
    rw [hpersisted]
    exact numberFrom_length _ _
  refine ⟨?_, hlength⟩
  have hfits : log.nextEventId.toNat + c.events.length < 2 ^ 64 := by
    generalize hresult : (Except.ok persisted : SimResult (List SimEvent)) = result at h
    cases call_called h with
    | nothing hevents =>
        rw [hevents]
        exact log.nextEventId.toNat_lt
    | done _ _ hdone =>
        rw [← hdone]
        exact UInt64.toNat_lt _
    | unencodable _ => cases hresult
    | failed _ _ _ => cases hresult
  have hnumbers := (numberFrom_numbered ⟨log.nextEventId⟩ c.events).toNat_eq (by
    rw [numberFrom_length]
    exact hfits)
  unfold GoesOn
  rw [hpersisted, ← hnext]
  exact hnumbers

/-!
## The condition
-/

theorem durableLast_ne_max {frames : List WalFrame} (hframes : Records frames)
    (hcount : Countable (frames.map Frame.value)) :
    (durableLastEventId (framesEvents frames)).val ≠ u64Max := by
  rcases List.eq_nil_or_concat frames with hnil | ⟨init, frame, heq⟩
  · rw [hnil]
    decide
  · rw [heq, List.concat_eq_append] at hframes hcount ⊢
    have hmem : frame ∈ init ++ [frame] := List.mem_append_right _ (List.mem_singleton.mpr rfl)
    have hne := (hframes frame hmem).ne_nil
    have hvalue : framesEvents [frame] = frame.value := List.append_nil _
    unfold durableLastEventId
    rw [framesEvents_append, hvalue, getLast?_append_of_ne_nil _ hne]
    cases hlast : frame.value.getLast? with
    | none => exact absurd (List.getLast?_eq_none_iff.mp hlast) hne
    | some last => exact hcount frame.value (List.mem_map_of_mem hmem) last hlast

/-- The cursor is safe on a file, for a call, exactly if it has room. -/
theorem cursorSafe_iff (file : Option Bytes) (c : AppendCall) :
    CursorSafe file c <-> CursorRoom file c := by
  constructor
  · rintro ⟨log, hnew, _, _, hcalls⟩
    rcases exists_validPrefix (file.getD []) with ⟨frames, hlongest⟩
    rcases new_cases hlongest with ⟨hcount, found, hfound, hfresh⟩ | ⟨_, hnone⟩
    · rw [hnew] at hfound
      cases hfound
      refine ⟨frames, hlongest, hcount, ?_⟩
      have hbuffer : log.writer.getD [] = [] := by
        rw [hfresh.writer]
        rfl
      exact @room_of_call _ _ (log.withRecords []) _ _ hfresh.tallied.nextEventId rfl hbuffer
        (durableLast_ne_max hlongest.records hcount) (hcalls []).left
    · rw [hnew] at hnone
      cases hnone
  · rintro ⟨frames, hlongest, hcount, hroom⟩
    rcases new_cases hlongest with ⟨_, log, hnew, hfresh⟩ | ⟨hnot, _⟩
    · have hnext := hfresh.tallied.nextEventId
      refine ⟨log, hnew, ?_, ⟨_, hfresh.reads, hfresh.tallied.lastEventId_eq⟩, ?_⟩
      · rw [UInt64.le_iff_toNat_le, hnext]
        exact Nat.le_add_left 1 _
      · intro records
        refine ⟨@call_ne_none _ _ (log.withRecords records) _ _ hnext hroom, ?_⟩
        intro persisted after hcall
        rw [hfresh.tallied.lastEventId_eq]
        exact @call_goesOn _ _ (log.withRecords records) _ _ _ _ hnext hcall
    · exact absurd hcount hnot

end FileEventLog

end Cursor

namespace FileEventLog

def savedAs (eventId : UInt64) : List SimEvent :=
  [⟨⟨eventId⟩, tickSaved.tick, tickSaved.data⟩]

def savedFile (eventId : UInt64) : Bytes :=
  letI := ieeeCrc32
  recordBytes eventId.toNat tickSaved.tick.val.toNat ((Json.batch (savedAs eventId)).getD [])

/-- The largest identifier in the file stops the log from being opened, the second largest
one stops the next append. -/
theorem cursor_overflows :
    letI := ieeeCrc32
    letI := knownBatches [savedAs u64Max, savedAs (u64Max - 1)]
    new (some (savedFile u64Max)) = none ∧
      ¬ CursorSafe (some (savedFile u64Max)) (.append tickSaved) ∧
      ¬ CursorSafe (some (savedFile (u64Max - 1))) (.append tickSaved) ∧
      ¬ CursorSafe (some (savedFile (u64Max - 1))) (.appendBatch [tickSaved]) := by
  let _ := ieeeCrc32
  let _ := knownBatches [savedAs u64Max, savedAs (u64Max - 1)]
  have hopen : new (some (savedFile u64Max)) = none := by
    rw [← Option.isNone_iff_eq_none]
    decide +kernel
  have hcalls (c : AppendCall) (hnone : ((new (some (savedFile (u64Max - 1)))).all fun result =>
      result.toOption.any fun log => ((log.withRecords []).call c).isNone) = true) : ¬ CursorSafe (some (savedFile (u64Max - 1))) c := by
    rintro ⟨log, hnew, _, _, hsafe⟩
    rw [hnew] at hnone
    exact (hsafe []).left (Option.isNone_iff_eq_none.mp hnone)
  refine ⟨hopen, ?_, hcalls _ (by decide +kernel), hcalls _ (by decide +kernel)⟩
  rintro ⟨log, hnew, _⟩
  rw [hopen] at hnew
  cases hnew

end FileEventLog

end Seej
