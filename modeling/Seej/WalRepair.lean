import Seej.WalFaults

/-!
# Repairing the log

Opening for repair keeps the longest prefix of the file that is a concatenation
of valid records.  The scan has one branch for everything that stops it, though,
and cuts the file there: a record that could not be read at the moment is treated
like one that is not there.
-/

namespace Seej

open Foundation

section Repair

variable [Crc32] [BatchJson]

/-!
## The longest valid prefix
-/

/-- The records of the longest prefix of the file that is a concatenation of valid
records. -/
structure ValidPrefix (file : Bytes) (frames : List WalFrame) : Prop where
  records : Records frames
  isPrefix : joined frames <+: file
  longest : forall others : List WalFrame, Records others -> joined others <+: file ->
    (joined others).length ≤ (joined frames).length

theorem validPrefix_of_noRecord {frames : List WalFrame} {tail : Bytes}
    (hframes : Records frames) (htail : NoRecord tail) :
    ValidPrefix (joined frames ++ tail) frames := by
  refine ⟨hframes, ⟨tail, rfl⟩, ?_⟩
  intro others hothers hlongest
  rcases hlongest with ⟨rest, hsplit⟩
  rcases prefix_of_joined hframes.framed hothers.framed htail hsplit with ⟨more, hmore⟩
  rw [← hmore, joined_append, List.length_append]
  exact Nat.le_add_right _ _

namespace ValidPrefix

variable {file : Bytes} {frames : List WalFrame}

theorem exists_tail (h : ValidPrefix file frames) :
    exists tail : Bytes, file = joined frames ++ tail ∧ NoRecord tail := by
  rcases exists_records file with ⟨found, tail, hfile, hfound, htail⟩
  rcases h.isPrefix with ⟨rest, hsplit⟩
  rw [hfile] at hsplit
  rcases prefix_of_joined hfound.framed h.records.framed htail hsplit with ⟨more, hmore⟩
  have hle := h.longest found hfound ⟨tail, hfile.symm⟩
  rw [← hmore, joined_append, List.length_append] at hle
  have hrecords : Records more := fun frame hmem => hfound frame (by
    rw [← hmore]
    exact List.mem_append_right _ hmem)
  have hlen := hrecords.length_le
  have hnone : more = [] := List.eq_nil_of_length_eq_zero (by omega)
  rw [hnone, List.append_nil] at hmore
  exact ⟨tail, by rw [hmore]; exact hfile, htail⟩

end ValidPrefix

theorem exists_validPrefix (file : Bytes) : exists frames : List WalFrame,
    ValidPrefix file frames := by
  rcases exists_records file with ⟨frames, tail, hfile, hframes, htail⟩
  rw [hfile]
  exact ⟨frames, validPrefix_of_noRecord hframes htail⟩

/-!
## Opening
-/

namespace FileEventLog

theorem readRecordAt_moves {faults : ReadFaults} {file : Bytes} {offset next : Nat}
    {events : List SimEvent} (h : readRecordAt faults file offset = .ok (events, next)) :
    offset < next := by
  rcases readRecordAt_eq_ok.mp h with ⟨_, bytes, hrecord, hnext, _⟩
  have hpos := hrecord.length_pos
  omega

/-- The loop of `recover` ends by itself: more fuel changes nothing. -/
theorem recoverFrom_fuel (mode : OpenMode) {file : Bytes} {fuel : Nat} (log : FileEventLog)
    (h : file.length < fuel) :
    recoverFrom {} mode file fuel 0 log = recoverFrom {} mode file (file.length + 1) 0 log := by
  have hscan : scanned file fuel 0 = scanned file (file.length + 1) 0 :=
    scan_fuel (fun _ _ _ => readRecordAt_moves) h (Nat.lt_succ_self _)
  rw [recoverFrom_eq_scanned, recoverFrom_eq_scanned, hscan]

structure Opened (log : FileEventLog) (frames : List WalFrame) : Prop where
  file : log.file = some (joined frames)
  readError : log.readError = none
  tallied : Tallied log (framesEvents frames)

theorem new_opened {file : Bytes} {frames : List WalFrame} (h : ValidPrefix file frames)
    (hcount : Countable (frames.map Frame.value)) :
    exists log : FileEventLog,
      new (some file) = some (.ok log) ∧ new (some (joined frames)) = some (.ok log) ∧
        Opened log frames := by
  rcases h.exists_tail with ⟨tail, hfile, htail⟩
  rcases Option.isSome_iff_exists.mp (noteAll_isSome.mpr hcount) with ⟨log, hnote⟩
  have hkept := @new_records _ _ frames [] h.records (Or.inl rfl)
  rw [List.append_nil] at hkept
  refine ⟨log, ?_, ?_, ?_⟩
  · rw [hfile, new_records h.records htail, hnote]
    rfl
  · rw [hkept, hnote]
    rfl
  · have hlog := noteAll_eq_some hnote
    have hne : forall events : List SimEvent, events ∈ frames.map Frame.value -> events ≠ [] := by
      intro events hmem
      rcases List.mem_map.mp hmem with ⟨frame, hframe, heq⟩
      rw [← heq]
      exact (h.records frame hframe).ne_nil
    have hclosed : Tallied (closed (some (joined frames))) [] := ⟨rfl, rfl, rfl⟩
    refine ⟨?_, ?_, ?_⟩
    · rw [hlog]
      rfl
    · rw [hlog]
      rfl
    · exact noteAll_tallied hclosed hne hnote

/-- Whatever the bytes of the file are, repair keeps the longest prefix of valid
records, and the log that is opened holds their events. -/
theorem new_repairs {file : Bytes}
    (hcount : forall frames : List WalFrame, Records frames -> joined frames <+: file ->
      Countable (frames.map Frame.value)) :
    exists (log : FileEventLog) (frames : List WalFrame),
      ValidPrefix file frames ∧
        (forall fuel : Nat, file.length < fuel ->
          recoverFrom {} .repair file fuel 0 (closed (some file)) =
            recoverFrom {} .repair file (file.length + 1) 0 (closed (some file))) ∧
        new (some file) = some (.ok log) ∧ log.file = some (joined frames) ∧
        log.readAllValid = .ok (framesEvents frames) ∧
        log.len = (framesEvents frames).length ∧
        log.lastEventId =
          ((framesEvents frames).getLast?.map SimEvent.eventId).getD EventId.zero ∧
        log.lastTick = (framesEvents frames).getLast?.map SimEvent.tick ∧
        new log.file = some (.ok log) := by
  rcases exists_validPrefix file with ⟨frames, hlongest⟩
  rcases new_opened hlongest (hcount frames hlongest.records hlongest.isPrefix) with
    ⟨log, hnew, hagain, hopened⟩
  refine ⟨log, frames, hlongest, fun _ => recoverFrom_fuel _ _, hnew, hopened.file, ?_,
    hopened.tallied.totalEvents, hopened.tallied.lastEventId_eq, hopened.tallied.lastTick, ?_⟩
  · apply readAllEvents_records hlongest.records (Or.inl rfl) hopened.readError
    rw [hopened.file, Option.getD_some, List.append_nil]
  · rw [hopened.file]
    exact hagain

end FileEventLog

/-!
## Scans that fail
-/

/-- No call fails that reads one of these records, up to the first one after which
the scan stops with an error or aborts. -/
def ReadsThrough (reads : Nat -> ReadFaults) : Nat -> List WalFrame -> Prop
  | _, [] => True
  | offset, frame :: rest =>
      (forall step : ReadStep, step ≠ .recordEnd -> reads offset step = none) ∧
        (reads offset .recordEnd = none -> Countable [frame.value] ->
          ReadsThrough reads (offset + frame.bytes.length) rest)

namespace FileEventLog

def fileAfter (file : Bytes) : Option (SimResult FileEventLog) -> Bytes
  | some (.ok log) => log.file.getD []
  | _ => file

theorem readRecordAt_lt {faults : ReadFaults} {file : Bytes} {offset next : Nat}
    {events : List SimEvent} (h : readRecordAt faults file offset = .ok (events, next)) :
    offset < file.length := by
  rcases readRecordAt_eq_ok.mp h with ⟨_, bytes, hrecord, _, hsplit⟩
  have hpos := hrecord.length_pos
  have hlength := congrArg List.length hsplit
  rw [List.length_drop, List.length_append] at hlength
  omega

/-- A fault never makes a record out of a rest in which none begins. -/
theorem readRecordAt_noRecord {faults : ReadFaults} {before tail : Bytes}
    (htail : NoRecord tail) (result : List SimEvent × Nat) :
    readRecordAt faults (before ++ tail) before.length ≠ .ok result := by
  intro hread
  have hlt := readRecordAt_lt hread
  rcases htail with hnil | hrefuse
  · rw [hnil, List.append_nil] at hlt
    exact Nat.lt_irrefl _ hlt
  · rcases hrefuse before with ⟨e, he⟩
    have hclear : readRecordAt ReadFaults.none (before ++ tail) before.length = .ok result :=
      readRecordAt_eq_ok.mpr ⟨fun _ _ => rfl, (readRecordAt_eq_ok.mp hread).right⟩
    rw [hclear] at he
    cases he

theorem recoverFrom_stop {faults : ScanFaults} {file : Bytes} {offset : Nat}
    (h : forall result : List SimEvent × Nat,
      readRecordAt (faults.record offset) file offset ≠ .ok result)
    (fuel : Nat) (log : FileEventLog) :
    recoverFrom faults .repair file fuel offset log = some (.ok (log, offset)) := by
  cases fuel with
  | zero => rfl
  | succ fuel =>
      unfold recoverFrom
      split
      · cases hread : readRecordAt (faults.record offset) file offset with
        | error e => rfl
        | ok result => exact absurd hread (h result)
      · rfl

theorem recoverFrom_record {faults : ScanFaults} {mode : OpenMode} {file : Bytes}
    {offset next : Nat} {events : List SimEvent}
    (hread : readRecordAt (faults.record offset) file offset = .ok (events, next))
    (fuel : Nat) (log : FileEventLog) :
    recoverFrom faults mode file (fuel + 1) offset log =
      (log.noteEvents events).bind fun noted =>
        match faults.record offset .recordEnd with
        | some e => some (.error (.persistenceError s!"Stream position error: {e}"))
        | none => recoverFrom faults mode file fuel next noted := by
  rw [recoverFrom, if_pos (readRecordAt_lt hread), hread]
  rfl

/-- The two ways in which the loop of `recover` ends: at an error or at the end of
the records, or before a record that could not be read. -/
theorem recoverFrom_cases {reads : Nat -> ReadFaults} {frames : List WalFrame}
    {before tail : Bytes} {fuel : Nat} {log : FileEventLog} (hframes : Records frames)
    (htail : NoRecord tail) (hfuel : frames.length < fuel)
    {outcome : Option (SimResult (FileEventLog × Nat))}
    (houtcome : recoverFrom { record := reads } .repair (before ++ (joined frames ++ tail)) fuel
      before.length log = outcome) :
    (ReadsThrough reads before.length frames ∧
      forall (found : FileEventLog) (offset : Nat), outcome = some (.ok (found, offset)) ->
        offset = before.length + (joined frames).length) ∨
    (¬ ReadsThrough reads before.length frames ∧
      exists (found : FileEventLog) (offset : Nat), outcome = some (.ok (found, offset)) ∧
        offset < before.length + (joined frames).length) := by
  induction frames generalizing before fuel log with
  | nil =>
      refine Or.inl ⟨trivial, ?_⟩
      intro found offset hfound
      rw [joined_nil, List.nil_append, recoverFrom_stop (readRecordAt_noRecord htail)]
        at houtcome
      cases houtcome.trans hfound
      rfl
  | cons frame rest ih =>
      have hrecord := hframes frame List.mem_cons_self
      have hsplit : before ++ (joined (frame :: rest) ++ tail) =
          (before ++ frame.bytes) ++ (joined rest ++ tail) := by
        rw [joined_cons, List.append_assoc, List.append_assoc]
      have htotal : before.length + (joined (frame :: rest)).length =
          (before ++ frame.bytes).length + (joined rest).length := by
        rw [joined_cons, List.length_append, List.length_append, Nat.add_assoc]
      cases fuel with
      | zero => exact absurd hfuel (Nat.not_lt_zero _)
      | succ fuel =>
          by_cases hclear : forall step : ReadStep, step ≠ .recordEnd ->
              reads before.length step = none
          · have hread : readRecordAt (reads before.length)
                (before ++ (joined (frame :: rest) ++ tail)) before.length =
                .ok (frame.value, (before ++ frame.bytes).length) := by
              apply readRecordAt_eq_ok.mpr
              refine ⟨hclear, frame.bytes, hrecord, List.length_append, ?_⟩
              rw [hsplit, List.drop_left, List.append_assoc, List.drop_left]
            rw [recoverFrom_record hread] at houtcome
            have hcounted := @noteEvents_isSome log frame.value
            cases hnote : log.noteEvents frame.value with
            | none =>
                rw [hnote] at houtcome hcounted
                refine Or.inl ⟨⟨hclear, ?_⟩, ?_⟩
                · intro _ hcount
                  exact absurd (hcounted.mpr (hcount _ List.mem_cons_self)) Bool.false_ne_true
                · intro found offset hfound
                  cases houtcome.trans hfound
            | some noted =>
                rw [hnote] at houtcome hcounted
                have hcount : Countable [frame.value] := by
                  intro events hmem
                  rw [List.mem_singleton.mp hmem]
                  exact hcounted.mp rfl
                cases hend : reads before.length .recordEnd with
                | some e =>
                    simp only [Option.bind_some, hend] at houtcome
                    refine Or.inl ⟨⟨hclear, fun hnone => ?_⟩, ?_⟩
                    · rw [hend] at hnone
                      cases hnone
                    · intro found offset hfound
                      cases houtcome.trans hfound
                | none =>
                    simp only [Option.bind_some, hend] at houtcome
                    rw [hsplit] at houtcome
                    have hstep : ReadsThrough reads before.length (frame :: rest) <->
                        ReadsThrough reads (before ++ frame.bytes).length rest := by
                      rw [ReadsThrough, List.length_append]
                      exact ⟨fun h => h.right hend hcount, fun h => ⟨hclear, fun _ _ => h⟩⟩
                    rw [hstep, htotal]
                    exact ih (fun f hf => hframes f (List.mem_cons_of_mem _ hf))
                      (Nat.lt_of_succ_lt_succ hfuel) houtcome
          · have hstop : forall result : List SimEvent × Nat, readRecordAt (reads before.length)
                (before ++ (joined (frame :: rest) ++ tail)) before.length ≠ .ok result :=
              fun _ hread => hclear (readRecordAt_eq_ok.mp hread).left
            rw [recoverFrom_stop hstop] at houtcome
            refine Or.inr ⟨fun h => hclear h.left, log, before.length, houtcome.symm, ?_⟩
            have hpos := hrecord.length_pos
            rw [joined_cons, List.length_append]
            omega

omit [Crc32] [BatchJson] in
theorem noteEvents_file {log noted : FileEventLog} {events : List SimEvent}
    (h : log.noteEvents events = some noted) : noted.file = log.file := by
  have hall : log.noteAll [events] = some noted := by
    change (log.noteEvents events).bind some = some noted
    rw [h]
    rfl
  rw [noteAll_eq_some hall]

theorem recoverFrom_file {faults : ScanFaults} {file : Bytes} {fuel offset finish : Nat}
    {log found : FileEventLog}
    (h : recoverFrom faults .repair file fuel offset log = some (.ok (found, finish))) :
    found.file = log.file := by
  induction fuel generalizing offset log with
  | zero =>
      cases h
      rfl
  | succ fuel ih =>
      cases hread : readRecordAt (faults.record offset) file offset with
      | error e =>
          have hstop : forall result : List SimEvent × Nat,
              readRecordAt (faults.record offset) file offset ≠ .ok result := by
            intro result hok
            cases hread.symm.trans hok
          rw [recoverFrom_stop hstop] at h
          cases h
          rfl
      | ok result =>
          rw [recoverFrom_record hread] at h
          rcases Option.bind_eq_some_iff.mp h with ⟨noted, hnote, hrest⟩
          cases hend : faults.record offset .recordEnd with
          | some e =>
              simp only [hend] at hrest
              cases hrest
          | none =>
              simp only [hend] at hrest
              exact (ih hrest).trans (noteEvents_file hnote)

theorem openWith_eq {reads : Nat -> ReadFaults} {file : Bytes} {found : FileEventLog}
    {offset : Nat}
    (h : recoverFrom { record := reads } .repair file (file.length + 1) 0 (closed (some file)) =
      some (.ok (found, offset))) :
    openWith { record := reads } .repair (some file) =
      some (.ok (if offset < file.length then
        { found with file := some (file.take offset), synced := (file.take offset).length }
        else found)) := by
  change (recoverFrom { record := reads } .repair file (file.length + 1) 0
    (closed (some file))).bind _ = _
  rw [h]
  simp only [Option.bind_some, true_and]
  by_cases hlt : offset < file.length
  · rw [if_pos hlt, if_pos hlt]
    rfl
  · rw [if_neg hlt, if_neg hlt]
    rfl

theorem fileAfter_unfinished {reads : Nat -> ReadFaults} {file : Bytes}
    (h : forall result : FileEventLog × Nat,
      recoverFrom { record := reads } .repair file (file.length + 1) 0 (closed (some file)) ≠
        some (.ok result)) :
    fileAfter file (openWith { record := reads } .repair (some file)) = file := by
  change fileAfter file ((recoverFrom { record := reads } .repair file (file.length + 1) 0
    (closed (some file))).bind _) = file
  cases houtcome : recoverFrom { record := reads } .repair file (file.length + 1) 0
      (closed (some file)) with
  | none => rfl
  | some outcome =>
      cases outcome with
      | error e => rfl
      | ok result => exact absurd houtcome (h result)

/-- A scan that fails leaves every record of the longest valid prefix where it is if and
only if no call fails that reads one of them. -/
theorem repair_keeps_records {reads : Nat -> ReadFaults} {file : Bytes}
    {frames : List WalFrame} (h : ValidPrefix file frames) :
    (((exists e : SimError,
          openWith { record := reads } .repair (some file) = some (.error e)) ∧
        fileAfter file (openWith { record := reads } .repair (some file)) = file) ∨
      joined frames <+: fileAfter file (openWith { record := reads } .repair (some file))) <->
    ReadsThrough reads 0 frames := by
  rcases h.exists_tail with ⟨tail, hfile, htail⟩
  have hfuel : frames.length < file.length + 1 := by
    have hle := h.records.length_le
    rw [hfile, List.length_append]
    omega
  have hscan := @recoverFrom_cases _ _ reads frames [] tail (file.length + 1)
    (closed (some file)) h.records htail hfuel _ rfl
  rw [List.nil_append, List.length_nil, Nat.zero_add, ← hfile] at hscan
  generalize houtcome : recoverFrom { record := reads } .repair file (file.length + 1) 0
    (closed (some file)) = outcome at hscan
  rcases hscan with ⟨hthrough, hfound⟩ | ⟨hnot, found, offset, hfound, hshort⟩
  · refine ⟨fun _ => hthrough, fun _ => Or.inr ?_⟩
    by_cases hfinished : exists result : FileEventLog × Nat, outcome = some (.ok result)
    · rcases hfinished with ⟨⟨found, offset⟩, hresult⟩
      have hoffset := hfound found offset hresult
      rw [hresult] at houtcome
      rw [openWith_eq houtcome]
      by_cases hlt : offset < file.length
      · rw [if_pos hlt]
        have htake : file.take offset = joined frames := by
          rw [hfile, hoffset, List.take_left]
        exact htake.symm ▸ List.prefix_refl _
      · rw [if_neg hlt]
        change joined frames <+: found.file.getD []
        rw [recoverFrom_file houtcome]
        exact h.isPrefix
    · rw [fileAfter_unfinished]
      · exact h.isPrefix
      · intro result hresult
        exact hfinished ⟨result, houtcome.symm.trans hresult⟩
  · refine ⟨fun hkept => ?_, fun hthrough => absurd hthrough hnot⟩
    rw [hfound] at houtcome
    have hlt : offset < file.length := by
      rw [hfile, List.length_append]
      omega
    rw [openWith_eq houtcome, if_pos hlt] at hkept
    rcases hkept with ⟨⟨e, herror⟩, _⟩ | hlongest
    · cases herror
    · have hle : (joined frames).length ≤ (file.take offset).length := hlongest.length_le
      rw [List.length_take] at hle
      omega

end FileEventLog

end Repair

/-!
## A record and garbage, and a call that fails
-/

namespace FileEventLog

def savedBatch : List SimEvent :=
  numberFrom ⟨1⟩ [tickSaved]

def savedRecord : Bytes :=
  letI := ieeeCrc32
  recordBytes 1 tickSaved.tick.val.toNat ((Json.batch savedBatch).getD [])

def tornFile : Bytes :=
  savedRecord ++ savedRecord.take 5

def seekFails (at_ : Nat) (offset : Nat) : ReadFaults :=
  fun step => if offset = at_ ∧ step = .seek then some "Input/output error (os error 5)" else none

theorem savedRecord_isRecord :
    letI := ieeeCrc32
    letI := knownBatches [savedBatch]
    IsRecord savedBatch savedRecord := by
  let _ := ieeeCrc32
  let _ := knownBatches [savedBatch]
  have hencode : encodeEventRecord savedBatch = .ok savedRecord := by decide +kernel
  exact (knownBatches_roundTrips (by decide +kernel) savedBatch).isRecord hencode

theorem new_repairs_torn :
    letI := ieeeCrc32
    letI := knownBatches [savedBatch]
    exists (log : FileEventLog) (frames : List WalFrame),
      ValidPrefix tornFile frames ∧ new (some tornFile) = some (.ok log) ∧
        log.file = some (joined frames) ∧ log.readAllValid = .ok (framesEvents frames) ∧
        new log.file = some (.ok log) := by
  let _ := ieeeCrc32
  let _ := knownBatches [savedBatch]
  have hcount : forall frames : List WalFrame, Records frames -> joined frames <+: tornFile ->
      Countable (frames.map Frame.value) := by
    intro frames hframes _ events hmem last hlast
    rcases List.mem_map.mp hmem with ⟨frame, hframe, heq⟩
    have hknown : frame.value = savedBatch :=
      List.mem_singleton.mp (hframes frame hframe).mem_known
    rw [← heq, hknown] at hlast
    cases hlast
    decide
  rcases new_repairs hcount with
    ⟨log, frames, hlongest, _, hnew, hfile, hread, _, _, _, hagain⟩
  exact ⟨log, frames, hlongest, hnew, hfile, hread, hagain⟩

theorem savedRecord_validPrefix (rest : Bytes) (hrest : rest = [] ∨ rest = savedRecord.take 5) :
    letI := ieeeCrc32
    letI := knownBatches [savedBatch]
    ValidPrefix (savedRecord ++ rest) [⟨savedBatch, savedRecord⟩] := by
  let _ := ieeeCrc32
  let _ := knownBatches [savedBatch]
  have hrecord := savedRecord_isRecord
  have htail : NoRecord rest := by
    rcases hrest with hnil | htorn
    · exact Or.inl hnil
    · rw [htorn]
      exact Or.inr (hrecord.framed.torn 5 (by decide) (by decide +kernel))
  have hframes : Records [⟨savedBatch, savedRecord⟩] := by
    intro frame hmem
    rw [List.mem_singleton.mp hmem]
    exact hrecord
  have hlongest := validPrefix_of_noRecord hframes htail
  rw [joined_cons, joined_nil, List.append_nil] at hlongest
  exact hlongest

theorem repair_keeps_records_torn :
    letI := ieeeCrc32
    letI := knownBatches [savedBatch]
    savedRecord <+: fileAfter tornFile
      (openWith { record := seekFails savedRecord.length } .repair (some tornFile)) := by
  let _ := ieeeCrc32
  let _ := knownBatches [savedBatch]
  have hlongest : ValidPrefix tornFile [⟨savedBatch, savedRecord⟩] :=
    savedRecord_validPrefix _ (Or.inr rfl)
  have hpos : savedRecord.length ≠ 0 := by decide +kernel
  have hthrough : ReadsThrough (seekFails savedRecord.length) 0 [⟨savedBatch, savedRecord⟩] := by
    refine ⟨fun step _ => ?_, fun _ _ => trivial⟩
    exact if_neg fun h => hpos h.left.symm
  rcases (repair_keeps_records hlongest).mpr hthrough with ⟨_, hfile⟩ | hkept
  · rw [hfile]
    exact ⟨_, rfl⟩
  · rw [joined_cons, joined_nil, List.append_nil] at hkept
    exact hkept

/-- The first seek fails, and the whole file is cut off. -/
theorem repair_drops_record :
    letI := ieeeCrc32
    letI := knownBatches [savedBatch]
    ValidPrefix savedRecord [⟨savedBatch, savedRecord⟩] ∧
      ¬ (((exists e : SimError,
            openWith { record := seekFails 0 } .repair (some savedRecord) = some (.error e)) ∧
          fileAfter savedRecord
            (openWith { record := seekFails 0 } .repair (some savedRecord)) = savedRecord) ∨
        joined [⟨savedBatch, savedRecord⟩] <+:
          fileAfter savedRecord
            (openWith { record := seekFails 0 } .repair (some savedRecord))) := by
  let _ := ieeeCrc32
  let _ := knownBatches [savedBatch]
  have hlongest := savedRecord_validPrefix [] (Or.inl rfl)
  rw [List.append_nil] at hlongest
  have hcut : fileAfter savedRecord
      (openWith { record := seekFails 0 } .repair (some savedRecord)) = [] := by
    decide +kernel
  have hne : savedRecord ≠ [] := by decide +kernel
  refine ⟨hlongest, ?_⟩
  rw [hcut]
  rintro (⟨_, hsame⟩ | hkept)
  · exact hne hsame.symm
  · rw [joined_cons, joined_nil, List.append_nil, List.prefix_nil] at hkept
    exact hne hkept

end FileEventLog

end Seej
