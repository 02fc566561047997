import Seej.EventIds
import Seej.Wal
import Seej.WalRecordLemmas

/-!
# Scanning the log

Every file is a list of records followed by a rest in which no record begins.
Reading returns the events of those records; opening counts them and, to repair
the file, cuts off the rest.
-/

namespace Seej

open Foundation

abbrev WalFrame : Type :=
  Frame (List SimEvent) UInt8

def framesEvents (frames : List WalFrame) : List SimEvent :=
  (frames.map Frame.value).flatten

@[simp] theorem framesEvents_nil : framesEvents [] = [] := rfl

@[simp] theorem framesEvents_append (left right : List WalFrame) :
    framesEvents (left ++ right) = framesEvents left ++ framesEvents right := by
  simp [framesEvents]

section Scan

variable [Crc32] [BatchJson]

def Records (frames : List WalFrame) : Prop :=
  forall frame : WalFrame, frame ∈ frames -> IsRecord frame.value frame.bytes

theorem Records.framed {frames : List WalFrame} (h : Records frames) (frame : WalFrame)
    (hmem : frame ∈ frames) : Framed (readRecordAt ReadFaults.none) frame :=
  (h frame hmem).framed

theorem Records.append {left right : List WalFrame} (h : Records left) (hright : Records right) :
    Records (left ++ right) := by
  intro frame hmem
  rcases List.mem_append.mp hmem with hmem | hmem
  · exact h frame hmem
  · exact hright frame hmem

theorem Records.length_le {frames : List WalFrame} (h : Records frames) :
    frames.length ≤ (joined frames).length := by
  induction frames with
  | nil => exact Nat.le_refl 0
  | cons frame rest ih =>
      have hpos := (h frame List.mem_cons_self).length_pos
      have hrest := ih fun f hf => h f (List.mem_cons_of_mem _ hf)
      rw [joined_cons, List.length_append, List.length_cons]
      omega

abbrev NoRecord (tail : Bytes) : Prop :=
  EndsScan (readRecordAt ReadFaults.none) tail

theorem readRecordAt_front {events : List SimEvent} {bytes : Bytes}
    (h : IsRecord events bytes) (rest : Bytes) :
    readRecordAt ReadFaults.none (bytes ++ rest) 0 = .ok (events, bytes.length) := by
  have hread := h.framed.reads [] rest
  rw [List.nil_append, List.length_nil, Nat.zero_add] at hread
  exact hread

theorem noRecord_of_error {tail : Bytes} {e : SimError}
    (h : readRecordAt ReadFaults.none tail 0 = .error e) : NoRecord tail := by
  right
  intro before
  cases hthere : readRecordAt ReadFaults.none (before ++ tail) before.length with
  | error e' => exact ⟨e', rfl⟩
  | ok result =>
      exfalso
      rcases readRecordAt_eq_ok.mp hthere with ⟨_, bytes, hrecord, hnext, hsplit⟩
      rw [List.drop_left, hnext, ← List.drop_drop, List.drop_left] at hsplit
      rw [hsplit, readRecordAt_front hrecord] at h
      cases h

theorem noRecord_take {tail : Bytes} (h : NoRecord tail) (m : Nat) : NoRecord (tail.take m) := by
  cases hread : readRecordAt ReadFaults.none (tail.take m) 0 with
  | error e => exact noRecord_of_error hread
  | ok result =>
      exfalso
      rcases readRecordAt_eq_ok.mp hread with ⟨_, bytes, hrecord, _, hsplit⟩
      rw [List.drop_zero] at hsplit
      have hwhole : tail = bytes ++ ((tail.take m).drop result.2 ++ tail.drop m) := by
        rw [← List.append_assoc, ← hsplit, List.take_append_drop]
      have hok := readRecordAt_front hrecord ((tail.take m).drop result.2 ++ tail.drop m)
      rw [← hwhole] at hok
      rcases h with hnil | hrefuse
      · rw [hnil, List.take_nil] at hsplit
        exact List.ne_nil_of_length_pos hrecord.length_pos
          (List.append_eq_nil_iff.mp hsplit.symm).left
      · rcases hrefuse [] with ⟨e, he⟩
        rw [List.nil_append, List.length_nil, hok] at he
        cases he

/-!
## Every file is records and a rest
-/

theorem exists_records (file : Bytes) :
    exists (frames : List WalFrame) (tail : Bytes),
      file = joined frames ++ tail ∧ Records frames ∧ NoRecord tail := by
  induction hsize : file.length using Nat.strongRecOn generalizing file with
  | ind size ih =>
      cases hread : readRecordAt ReadFaults.none file 0 with
      | error e => exact ⟨[], file, rfl, nofun, noRecord_of_error hread⟩
      | ok result =>
          rcases result with ⟨events, next⟩
          rcases readRecordAt_eq_ok.mp hread with ⟨_, bytes, hrecord, hnext, hsplit⟩
          rw [List.drop_zero] at hsplit
          have hpos := hrecord.length_pos
          have hlen := congrArg List.length hsplit
          rw [List.length_append] at hlen
          rcases ih (file.drop next).length (by omega) (file.drop next) rfl with
            ⟨frames, tail, heq, hrecords, htail⟩
          refine ⟨⟨events, bytes⟩ :: frames, tail, ?_, ?_, htail⟩
          · rw [joined_cons, List.append_assoc, ← heq]
            exact hsplit
          · intro frame hmem
            rcases List.mem_cons.mp hmem with hhead | hrest
            · rw [hhead]
              exact hrecord
            · exact hrecords frame hrest

/-!
## Reading
-/

def scanned (file : Bytes) (fuel offset : Nat) : ScanResult (List SimEvent) SimError :=
  scan (readRecordAt ReadFaults.none file) file.length fuel offset

/-- The scan of records and a rest finds the records. -/
theorem scanned_records {frames : List WalFrame} {tail : Bytes} (hframes : Records frames)
    (htail : NoRecord tail) :
    exists failure : Option SimError,
      scanned (joined frames ++ tail) ((joined frames ++ tail).length + 1) 0 =
        ⟨frames.map Frame.value, (joined frames).length, failure⟩ ∧
      (failure = none <-> tail = []) := by
  have hfuel : frames.length < (joined frames ++ tail).length + 1 := by
    have hle := hframes.length_le
    rw [List.length_append]
    omega
  have hscan := @scan_frames _ _ _ _ _ [] _ _ hframes.framed htail hfuel
  simpa [scanned] using hscan

theorem readFrom_eq_scanned (file : Bytes) (fuel offset : Nat) :
    FileEventLog.readFrom {} file fuel offset =
      .ok (scanned file fuel offset).values.flatten := by
  induction fuel generalizing offset with
  | zero => rfl
  | succ fuel ih =>
      unfold FileEventLog.readFrom scanned scan
      by_cases hlt : offset < file.length
      · rw [if_pos hlt, if_pos hlt]
        cases hread : readRecordAt ReadFaults.none file offset with
        | error e => rfl
        | ok result =>
            rcases result with ⟨events, next⟩
            change (FileEventLog.readFrom {} file fuel next).bind
              (fun later => .ok (events ++ later)) = _
            rw [ih]
            rfl
      · rw [if_neg hlt, if_neg hlt]
        rfl

theorem readAllEvents_records {log : FileEventLog} {frames : List WalFrame} {tail : Bytes}
    (hframes : Records frames) (htail : NoRecord tail) (herror : log.readError = none)
    (hfile : log.file.getD [] = joined frames ++ tail) :
    log.readAllEvents {} = .ok (framesEvents frames) := by
  unfold FileEventLog.readAllEvents
  rw [herror]
  cases hpath : log.file with
  | none =>
      rw [hpath, Option.getD_none] at hfile
      rcases List.append_eq_nil_iff.mp hfile.symm with ⟨hjoined, _⟩
      have hlen := hframes.length_le
      rw [hjoined, List.length_nil, Nat.le_zero, List.length_eq_zero_iff] at hlen
      rw [hlen]
      rfl
  | some file =>
      rw [hpath, Option.getD_some] at hfile
      rcases scanned_records hframes htail with ⟨failure, hscan, _⟩
      change FileEventLog.readFrom {} file (file.length + 1) 0 = _
      rw [readFrom_eq_scanned, hfile, hscan]
      rfl

/-!
## Opening
-/

def FileEventLog.noteAll (log : FileEventLog) (batches : List (List SimEvent)) :
    Option FileEventLog :=
  batches.foldlM FileEventLog.noteEvents log

theorem recoverFrom_eq_scanned (mode : OpenMode) (file : Bytes) (fuel offset : Nat)
    (log : FileEventLog) :
    FileEventLog.recoverFrom {} mode file fuel offset log =
      (log.noteAll (scanned file fuel offset).values).map fun log' =>
        .ok (match mode, (scanned file fuel offset).failure with
          | .readOnly, some e => { log' with readError := some e }
          | _, _ => log', (scanned file fuel offset).offset) := by
  induction fuel generalizing offset log with
  | zero =>
      cases mode <;> rfl
  | succ fuel ih =>
      unfold FileEventLog.recoverFrom scanned scan
      by_cases hlt : offset < file.length
      · rw [if_pos hlt, if_pos hlt]
        cases hread : readRecordAt ReadFaults.none file offset with
        | error e => cases mode <;> rfl
        | ok result =>
            rcases result with ⟨events, next⟩
            change (log.noteEvents events).bind
                (fun log => FileEventLog.recoverFrom {} mode file fuel next log) =
              ((log.noteEvents events).bind
                (fun log => log.noteAll (scanned file fuel next).values)).map _
            cases hnote : log.noteEvents events with
            | none => rfl
            | some noted =>
                change FileEventLog.recoverFrom {} mode file fuel next noted = _
                rw [ih]
                rfl
      · rw [if_neg hlt, if_neg hlt]
        cases mode <;> rfl

omit [Crc32] [BatchJson] in
theorem noteAll_eq_some {batches : List (List SimEvent)} {log noted : FileEventLog}
    (h : log.noteAll batches = some noted) :
    noted = { log with
      nextEventId := noted.nextEventId
      lastTick := noted.lastTick
      totalEvents := noted.totalEvents } := by
  induction batches generalizing log with
  | nil =>
      cases h
      rfl
  | cons events rest ih =>
      rcases Option.bind_eq_some_iff.mp h with ⟨middle, hmiddle, hrest⟩
      have hstep : middle = { log with
          nextEventId := middle.nextEventId
          lastTick := middle.lastTick
          totalEvents := middle.totalEvents } := by
        unfold FileEventLog.noteEvents at hmiddle
        cases hlast : events.getLast? with
        | none =>
            simp only [hlast, Option.some.injEq] at hmiddle
            rw [← hmiddle]
        | some last =>
            simp only [hlast] at hmiddle
            rcases Option.bind_eq_some_iff.mp hmiddle with ⟨next, _, heq⟩
            rw [← Option.some.inj heq]
      have hlater := ih hrest
      rw [hstep] at hlater
      exact hlater

def FileEventLog.withFile (log : FileEventLog) (file : Bytes) : FileEventLog :=
  { log with file := some file, synced := file.length }

omit [Crc32] [BatchJson] in
theorem noteAll_withFile (log : FileEventLog) (file : Bytes) (batches : List (List SimEvent)) :
    (log.withFile file).noteAll batches = (log.noteAll batches).map (·.withFile file) := by
  induction batches generalizing log with
  | nil => rfl
  | cons events rest ih =>
      have hstep : (log.withFile file).noteEvents events =
          (log.noteEvents events).map (·.withFile file) := by
        unfold FileEventLog.noteEvents
        cases hlast : events.getLast? with
        | none => rfl
        | some last =>
            cases hnext : checkedSucc last.eventId.val with
            | none => simp [hnext]
            | some next =>
                simp only [hnext]
                rfl
      change ((log.withFile file).noteEvents events).bind (fun log => log.noteAll rest) = _
      rw [hstep]
      cases hnote : log.noteEvents events with
      | none =>
          unfold FileEventLog.noteAll
          rw [List.foldlM_cons, hnote]
          rfl
      | some noted =>
          change (noted.withFile file).noteAll rest = _
          unfold FileEventLog.noteAll at ih ⊢
          rw [ih, List.foldlM_cons, hnote]
          rfl

/-- Opening keeps the records and cuts off the rest. -/
theorem new_records {frames : List WalFrame} {tail : Bytes} (hframes : Records frames)
    (htail : NoRecord tail) :
    FileEventLog.new (some (joined frames ++ tail)) =
      ((FileEventLog.closed (some (joined frames))).noteAll (frames.map Frame.value)).map
        .ok := by
  rcases scanned_records hframes htail with ⟨failure, hscan, _⟩
  let file := joined frames ++ tail
  have hrecover : FileEventLog.recoverFrom {} .repair file (file.length + 1) 0
      (FileEventLog.closed (some file)) =
      ((FileEventLog.closed (some (joined frames))).noteAll (frames.map Frame.value)).map
        fun noted => .ok (noted.withFile file, (joined frames).length) := by
    have hclosed : FileEventLog.closed (some file) =
        (FileEventLog.closed (some (joined frames))).withFile file := rfl
    rw [recoverFrom_eq_scanned, hscan, hclosed, noteAll_withFile, Option.map_map]
    rfl
  change (FileEventLog.recoverFrom {} .repair file (file.length + 1) 0
    (FileEventLog.closed (some file))).bind _ = _
  rw [hrecover]
  cases hnote : (FileEventLog.closed (some (joined frames))).noteAll
      (frames.map Frame.value) with
  | none => rfl
  | some noted =>
      have hkept : noted.withFile (joined frames) = noted := by
        rw [noteAll_eq_some hnote]
        rfl
      simp only [Option.map_some, Option.bind_some, true_and]
      by_cases htrailing : (joined frames).length < file.length
      · rw [if_pos htrailing]
        have htake : (joined frames ++ tail).take (joined frames).length = joined frames :=
          List.take_left
        change some (Except.ok (FileEventLog.withFile noted
          ((joined frames ++ tail).take (joined frames).length))) = _
        rw [htake, hkept]
      · rw [if_neg htrailing]
        have htail : tail = [] := by
          rw [List.length_append] at htrailing
          exact List.eq_nil_of_length_eq_zero (by omega)
        change some (Except.ok (noted.withFile (joined frames ++ tail))) = _
        rw [htail, List.append_nil, hkept]

omit [Crc32] [BatchJson] in
theorem noteEvents_isSome {log : FileEventLog} {events : List SimEvent} :
    (log.noteEvents events).isSome = true <->
      forall last : SimEvent, events.getLast? = some last -> last.eventId.val ≠ u64Max := by
  unfold FileEventLog.noteEvents checkedSucc
  cases hlast : events.getLast? with
  | none => simp
  | some last =>
      by_cases hmax : last.eventId.val = u64Max
      · simp [hmax]
      · simp [hmax]

/-- Every record ends with an identifier that has a successor. -/
def Countable (batches : List (List SimEvent)) : Prop :=
  forall events : List SimEvent, events ∈ batches ->
    forall last : SimEvent, events.getLast? = some last -> last.eventId.val ≠ u64Max

omit [Crc32] [BatchJson] in
theorem noteAll_isSome {batches : List (List SimEvent)} {log : FileEventLog} :
    (log.noteAll batches).isSome = true <-> Countable batches := by
  induction batches generalizing log with
  | nil => simp [FileEventLog.noteAll, Countable]
  | cons events rest ih =>
      have hhead := @noteEvents_isSome log events
      have hsplit : Countable (events :: rest) <->
          (forall last : SimEvent, events.getLast? = some last -> last.eventId.val ≠ u64Max) ∧
            Countable rest := List.forall_mem_cons
      rw [hsplit, ← hhead]
      change ((log.noteEvents events).bind fun log => log.noteAll rest).isSome = true <-> _
      cases hnote : log.noteEvents events with
      | none => simp
      | some noted => simpa using @ih noted

structure Tallied (log : FileEventLog) (events : List SimEvent) : Prop where
  nextEventId : log.nextEventId.toNat = (durableLastEventId events).val.toNat + 1
  lastTick : log.lastTick = events.getLast?.map SimEvent.tick
  totalEvents : log.totalEvents = events.length

omit [Crc32] [BatchJson] in
theorem Tallied.lastEventId_eq {log : FileEventLog} {events : List SimEvent}
    (h : Tallied log events) : log.lastEventId = durableLastEventId events := by
  apply EventId.eq_of_toNat
  have hnext := h.nextEventId
  unfold FileEventLog.lastEventId
  by_cases hgt : log.nextEventId > 1
  · rw [if_pos hgt]
    change (log.nextEventId - 1).toNat = _
    rw [UInt64.toNat_sub_of_le _ _ (UInt64.le_of_lt hgt), hnext]
    rfl
  · rw [if_neg hgt]
    have hle : log.nextEventId.toNat ≤ 1 := UInt64.le_iff_toNat_le.mp (UInt64.not_lt.mp hgt)
    change 0 = _
    omega

omit [Crc32] [BatchJson] in
theorem getLast?_append_of_ne_nil (left : List SimEvent) {right : List SimEvent}
    (h : right ≠ []) :
    (left ++ right).getLast? = right.getLast? := by
  rw [List.getLast?_append]
  cases hlast : right.getLast? with
  | none => exact absurd (List.getLast?_eq_none_iff.mp hlast) h
  | some last => rfl

omit [Crc32] [BatchJson] in
theorem noteEvents_tallied {log noted : FileEventLog} {before events : List SimEvent}
    (h : Tallied log before) (hne : events ≠ []) (hnote : log.noteEvents events = some noted) :
    Tallied noted (before ++ events) := by
  have hlast := getLast?_append_of_ne_nil before hne
  unfold FileEventLog.noteEvents at hnote
  cases hfound : events.getLast? with
  | none => exact absurd (List.getLast?_eq_none_iff.mp hfound) hne
  | some last =>
      simp only [hfound] at hnote
      rw [hfound] at hlast
      rcases Option.bind_eq_some_iff.mp hnote with ⟨next, hnext, heq⟩
      rw [← Option.some.inj heq]
      refine ⟨?_, ?_, ?_⟩
      · rw [durableLastEventId, hlast]
        exact checkedSucc_eq_some.mp hnext
      · rw [hlast]
        rfl
      · change log.totalEvents + events.length = _
        rw [h.totalEvents, List.length_append]

omit [Crc32] [BatchJson] in
theorem noteAll_tallied {log noted : FileEventLog} {before : List SimEvent}
    {batches : List (List SimEvent)} (h : Tallied log before)
    (hne : forall events : List SimEvent, events ∈ batches -> events ≠ [])
    (hnote : log.noteAll batches = some noted) :
    Tallied noted (before ++ batches.flatten) := by
  induction batches generalizing log before with
  | nil =>
      cases hnote
      rw [List.flatten_nil, List.append_nil]
      exact h
  | cons events rest ih =>
      rcases Option.bind_eq_some_iff.mp hnote with ⟨middle, hmiddle, hrest⟩
      rw [List.flatten_cons, ← List.append_assoc]
      exact ih (noteEvents_tallied h (hne events List.mem_cons_self) hmiddle)
        (fun e he => hne e (List.mem_cons_of_mem _ he)) hrest

theorem new_of_countable {frames : List WalFrame} {tail : Bytes} (hframes : Records frames)
    (htail : NoRecord tail) (hcount : Countable (frames.map Frame.value)) :
    exists log : FileEventLog,
      FileEventLog.new (some (joined frames ++ tail)) = some (.ok log) ∧
        log.file = some (joined frames) ∧ log.synced = (joined frames).length ∧
        log.writer = none ∧ log.readError = none := by
  rcases Option.isSome_iff_exists.mp (noteAll_isSome.mpr hcount) with ⟨log, hnote⟩
  rw [new_records hframes htail, hnote]
  have hlog := noteAll_eq_some hnote
  refine ⟨log, rfl, ?_, ?_, ?_, ?_⟩
  all_goals rw [hlog]; rfl

theorem new_eq_some {file : Bytes} {log : FileEventLog}
    (h : FileEventLog.new (some file) = some (.ok log)) :
    exists (frames : List WalFrame) (tail : Bytes),
      file = joined frames ++ tail ∧ Records frames ∧ NoRecord tail ∧
        Countable (frames.map Frame.value) ∧ log.file = some (joined frames) ∧
        log.synced = (joined frames).length ∧ log.writer = none ∧ log.readError = none := by
  rcases exists_records file with ⟨frames, tail, hfile, hframes, htail⟩
  rw [hfile, new_records hframes htail] at h
  rcases Option.map_eq_some_iff.mp h with ⟨noted, hnote, heq⟩
  rw [Except.ok.inj heq] at hnote
  have hlog := noteAll_eq_some hnote
  refine ⟨frames, tail, hfile, hframes, htail, ?_, ?_, ?_, ?_, ?_⟩
  · rw [← @noteAll_isSome _ (FileEventLog.closed (some (joined frames))), hnote]
    rfl
  all_goals rw [hlog]; rfl

theorem new_io {path : Option Bytes} {log : FileEventLog}
    (h : FileEventLog.new path = some (.ok log)) : log.io = {} := by
  cases path with
  | none =>
      cases h
      rfl
  | some file =>
      rcases exists_records file with ⟨frames, tail, hfile, hframes, htail⟩
      rw [hfile, new_records hframes htail] at h
      rcases Option.map_eq_some_iff.mp h with ⟨noted, hnote, heq⟩
      rw [← Except.ok.inj heq, noteAll_eq_some hnote]
      rfl

end Scan

end Seej
