import Seej.WalCalls
import Seej.WalCodec

/-!
# Appends that fail

What is left of an append that fails, and what it does to the batches around it.
Bytes that reach the buffer are written by a later append, so whole records follow
one another; only a large record, written past the buffer and cut short, leaves a
torn piece in the middle of the file.  `Delivers` holds as long as that does not
happen, and a log that delivers gives back every acknowledged batch after any end
of its process.
-/

namespace Seej

open Foundation

structure FaultyCall where
  io : RecordIo
  call : AppendCall

section Faults

variable [Crc32] [BatchJson]

namespace FileEventLog

def faultyCall (log : FileEventLog) (input : FaultyCall) :
    Option (SimResult (List SimEvent) × FileEventLog) :=
  (log.withRecords [input.io]).call input.call

/-- The record of the call is written past the buffer and an error cuts it short. -/
def tearsRecord (log : FileEventLog) (input : FaultyCall) : Bool :=
  (log.withRecords [input.io]).canWrite &&
    (encodeEventRecord (log.numbered input.call)).toOption.any fun record =>
      log.stream.tears bufferCapacity record input.io.append

end FileEventLog

/-!
## Whole records, of which the first are durable
-/

/-- The bytes of the file and the buffer are the first `size` bytes of these records,
and the records of `kept` are synchronised and hold the acknowledged events. -/
structure Delivers (log : FileEventLog) (acked : List SimEvent) (kept rest : List WalFrame)
    (size : Nat) : Prop where
  records : Records (kept ++ rest)
  countable : Countable ((kept ++ rest).map Frame.value)
  contents : log.stream.contents = (joined (kept ++ rest)).take size
  durable : (joined kept).length ≤ log.synced
  synced : log.synced ≤ log.stream.file.length
  readError : log.readError = none
  acked : acked.Sublist (framesEvents kept)

abbrev DeliversWhole (log : FileEventLog) (acked : List SimEvent)
    (kept rest : List WalFrame) : Prop :=
  Delivers log acked kept rest (joined (kept ++ rest)).length

theorem delivers_of_new {path : Option Bytes} {log : FileEventLog}
    (h : FileEventLog.new path = some (.ok log)) :
    exists kept : List WalFrame, DeliversWhole log [] kept [] := by
  cases path with
  | none =>
      cases h
      exact ⟨[], nofun, nofun, rfl, Nat.le_refl _, Nat.le_refl _, rfl, List.nil_sublist _⟩
  | some file =>
      rcases new_eq_some h with
        ⟨frames, tail, _, hframes, _, hcount, hfile, hsynced, hwriter, herror⟩
      have hstream : log.stream.file = joined frames := by
        unfold FileEventLog.stream
        rw [hfile]
        rfl
      have hbuffer : log.stream.buffer = [] := by
        unfold FileEventLog.stream
        rw [hwriter]
        rfl
      refine ⟨frames, ?_, ?_, ?_, ?_, ?_, herror, List.nil_sublist _⟩
      · rw [List.append_nil]
        exact hframes
      · rw [List.append_nil]
        exact hcount
      · rw [List.append_nil, List.take_length, BufferedFile.contents_of_buffer_eq_nil hbuffer,
          hstream]
      · exact Nat.le_of_eq hsynced.symm
      · exact Nat.le_of_eq (hsynced.trans (congrArg List.length hstream.symm))

theorem Delivers.moved {log after : FileEventLog} {acked : List SimEvent}
    {kept rest : List WalFrame} {size : Nat} (h : Delivers log acked kept rest size)
    (hmoved : BufferedFile.Moved log.stream after.stream)
    (herror : after.readError = log.readError) : Delivers after acked kept rest size := by
  have hsynced : after.synced = log.synced := hmoved.synced
  refine ⟨h.records, h.countable, hmoved.contents.trans h.contents, ?_, ?_,
    herror.trans h.readError, h.acked⟩
  · rw [hsynced]
    exact h.durable
  · rw [hsynced]
    exact Nat.le_trans h.synced hmoved.file

/-!
## The end of a process
-/

omit [Crc32] [BatchJson] in
theorem FileEventLog.close_take (log : FileEventLog) :
    exists m : Nat, log.stream.file.length ≤ m ∧ m ≤ log.stream.contents.length ∧
      log.close.getD [] = log.stream.contents.take m := by
  cases hflush : log.stream.flush (log.io.closes.headD none) with
  | mk result b =>
      have hmoved := (BufferedFile.flush_moved hflush).left
      refine ⟨b.file.length, hmoved.file, ?_, ?_⟩
      · rw [← hmoved.contents, BufferedFile.contents, List.length_append]
        exact Nat.le_add_right _ _
      · rw [← hmoved.contents, BufferedFile.contents, List.take_left, close_flushes, hflush]

omit [Crc32] [BatchJson] in
theorem FileEventLog.left_take {log : FileEventLog}
    (hsynced : log.synced ≤ log.stream.file.length) (ending : Ending) :
    exists m : Nat, log.synced ≤ m ∧ m ≤ log.stream.contents.length ∧
      (log.left ending).getD [] = log.stream.contents.take m := by
  have hfile : log.stream.file.length ≤ log.stream.contents.length := by
    rw [BufferedFile.contents, List.length_append]
    exact Nat.le_add_right _ _
  cases ending with
  | crash cut =>
      rcases log.stream.crash_file cut hsynced with ⟨m, hlow, hhigh, htake⟩
      cases hpath : log.file with
      | none =>
          have hnil : log.stream.file = [] := by
            unfold FileEventLog.stream
            rw [hpath]
            rfl
          rw [hnil, List.length_nil] at hsynced
          refine ⟨0, hsynced, Nat.zero_le _, ?_⟩
          change (log.crash cut).getD [] = _
          unfold FileEventLog.crash
          rw [hpath, List.take_zero]
          rfl
      | some file =>
          refine ⟨m, hlow, Nat.le_trans hhigh hfile, ?_⟩
          change (log.crash cut).getD [] = _
          unfold FileEventLog.crash
          rw [hpath]
          exact htake
  | drop faults =>
      rcases FileEventLog.close_take
        { log with io := { log.io with closes := faults } } with ⟨m, hlow, hhigh, htake⟩
      exact ⟨m, Nat.le_trans hsynced hlow, hhigh, htake⟩

/-- Whatever is left of the log keeps the synchronised records. -/
theorem Delivers.left {log : FileEventLog} {acked : List SimEvent}
    {kept rest : List WalFrame} {size : Nat} (h : Delivers log acked kept rest size)
    (ending : FileEventLog.Ending) :
    exists m : Nat, (joined kept).length ≤ m ∧
      (log.left ending).getD [] = (joined (kept ++ rest)).take m := by
  rcases FileEventLog.left_take h.synced ending with ⟨m, hlow, hhigh, htake⟩
  refine ⟨min m size, ?_, ?_⟩
  · rw [h.contents, List.length_take] at hhigh
    exact Nat.le_min.mpr ⟨Nat.le_trans h.durable hlow,
      Nat.le_trans h.durable (Nat.le_trans hlow (Nat.le_trans hhigh (Nat.min_le_left _ _)))⟩
  · rw [htake, h.contents, List.take_take]

theorem new_of_prefix {kept rest : List WalFrame} {path : Option Bytes} {m : Nat}
    (hrecords : Records (kept ++ rest)) (hcount : Countable ((kept ++ rest).map Frame.value))
    (hkept : (joined kept).length ≤ m) (hpath : path.getD [] = (joined (kept ++ rest)).take m) :
    exists (reopened : FileEventLog) (more : List WalFrame),
      FileEventLog.new path = some (.ok reopened) ∧
        reopened.readAllValid = .ok (framesEvents kept ++ framesEvents more) := by
  have hrest : Records rest := fun frame hmem => hrecords frame (List.mem_append_right _ hmem)
  have hfirst : Records kept := fun frame hmem => hrecords frame (List.mem_append_left _ hmem)
  rcases take_joined rest (m - (joined kept).length) with ⟨count, tail, htake, _, htorn⟩
  have htail : NoRecord tail := endsScan_of_torn hrest.framed htorn
  have hmore : Records (rest.take count) :=
    fun frame hmem => hrest frame (List.mem_of_mem_take hmem)
  have hbytes : path.getD [] = joined (kept ++ rest.take count) ++ tail := by
    rw [hpath, joined_append, List.take_append, List.take_of_length_le hkept, htake,
      joined_append, List.append_assoc]
  have hall := hfirst.append hmore
  have hcountable : Countable ((kept ++ rest.take count).map Frame.value) := by
    intro events hmem
    rw [List.map_append, List.mem_append] at hmem
    apply hcount
    rw [List.map_append, List.mem_append]
    rcases hmem with hmem | hmem
    · exact Or.inl hmem
    · rw [List.map_take] at hmem
      exact Or.inr (List.mem_of_mem_take hmem)
  cases path with
  | none =>
      rcases List.append_eq_nil_iff.mp hbytes.symm with ⟨hjoined, _⟩
      have hlen := hall.length_le
      rw [hjoined, List.length_nil, Nat.le_zero, List.length_eq_zero_iff] at hlen
      refine ⟨FileEventLog.closed none, rest.take count, rfl, ?_⟩
      rw [← framesEvents_append, hlen]
      rfl
  | some file =>
      rw [Option.getD_some] at hbytes
      rcases new_of_countable hall htail hcountable with
        ⟨reopened, hnew, hfile, _, _, herror⟩
      refine ⟨reopened, rest.take count, by rw [hbytes]; exact hnew, ?_⟩
      rw [← framesEvents_append]
      apply readAllEvents_records hall (Or.inl rfl) herror
      rw [hfile, List.append_nil]
      rfl

/-!
## One call
-/

omit [Crc32] [BatchJson] in
theorem countable_numberFrom {start : EventId} {events : List SimEvent}
    (hbound : start.val.toNat + events.length < 2 ^ 64) :
    Countable [numberFrom start events] := by
  intro batch hmem last hlast
  rw [List.mem_singleton.mp hmem] at hlast
  rw [← numberFrom_length start] at hbound
  have hid : last.eventId.val.toNat ∈
      List.range' start.val.toNat (numberFrom start events).length := by
    rw [← (numberFrom_numbered start events).toNat_eq hbound]
    exact List.mem_map_of_mem (List.mem_of_getLast? hlast)
  rw [List.mem_range'_1] at hid
  intro hmax
  rw [hmax] at hid
  have hlt : (18446744073709551615 : Nat) < _ := hid.right
  omega

theorem Delivers.snoc {log after : FileEventLog} {acked : List SimEvent}
    {kept rest : List WalFrame} {frame : WalFrame} {size : Nat}
    (h : DeliversWhole log acked kept rest) (hrecord : IsRecord frame.value frame.bytes)
    (hcount : Countable [frame.value])
    (hcontents : after.stream.contents = joined (kept ++ rest) ++ frame.bytes.take size)
    (hfile : log.stream.file.length ≤ after.stream.file.length)
    (hsynced : after.synced = log.synced) (herror : after.readError = log.readError) :
    Delivers after acked kept (rest ++ [frame])
      ((joined (kept ++ rest)).length + size) := by
  have hjoined : joined (kept ++ (rest ++ [frame])) = joined (kept ++ rest) ++ frame.bytes := by
    rw [← List.append_assoc, joined_append]
    exact congrArg _ (List.append_nil _)
  refine ⟨?_, ?_, ?_, ?_, ?_, herror.trans h.readError, h.acked⟩
  · rw [← List.append_assoc]
    apply h.records.append
    intro other hmem
    rw [List.mem_singleton.mp hmem]
    exact hrecord
  · intro events hmem
    rw [← List.append_assoc, List.map_append, List.mem_append] at hmem
    rcases hmem with hmem | hmem
    · exact h.countable events hmem
    · exact hcount events hmem
  · rw [hcontents, hjoined, List.take_append, List.take_of_length_le (Nat.le_add_right _ _),
      Nat.add_sub_cancel_left]
  · rw [hsynced]
    exact h.durable
  · rw [hsynced]
    exact Nat.le_trans h.synced hfile

theorem Delivers.settle {log after : FileEventLog} {acked : List SimEvent}
    {kept rest : List WalFrame} (frame : WalFrame) (h : DeliversWhole log acked kept rest)
    (hrecord : IsRecord frame.value frame.bytes) (hcount : Countable [frame.value])
    (hfile : after.stream.file = joined (kept ++ rest) ++ frame.bytes)
    (hbuffer : after.stream.buffer = []) (hsynced : after.synced = after.stream.file.length)
    (herror : after.readError = log.readError) :
    DeliversWhole after (acked ++ frame.value) (kept ++ rest ++ [frame]) [] := by
  have hjoined : joined (kept ++ rest ++ [frame]) = joined (kept ++ rest) ++ frame.bytes := by
    rw [joined_append]
    exact congrArg _ (List.append_nil _)
  refine ⟨?_, ?_, ?_, ?_, ?_, herror.trans h.readError, ?_⟩
  · rw [List.append_nil]
    apply h.records.append
    intro other hmem
    rw [List.mem_singleton.mp hmem]
    exact hrecord
  · rw [List.append_nil]
    intro events hmem
    rw [List.map_append, List.mem_append] at hmem
    rcases hmem with hmem | hmem
    · exact h.countable events hmem
    · exact hcount events hmem
  · rw [List.append_nil, List.take_length, hjoined,
      BufferedFile.contents_of_buffer_eq_nil hbuffer, hfile]
  · have hcovered : after.synced = (joined (kept ++ rest ++ [frame])).length := by
      rw [hsynced, hfile, hjoined]
    exact Nat.le_of_eq hcovered.symm
  · exact Nat.le_of_eq hsynced
  · rw [framesEvents_append, framesEvents_append, List.append_assoc]
    apply h.acked.append
    have hone : framesEvents [frame] = frame.value := List.append_nil _
    rw [hone]
    exact List.sublist_append_right _ _

theorem Delivers.failed {log after : FileEventLog} {acked events : List SimEvent}
    {kept rest : List WalFrame} {record : Bytes} {e : SimError}
    (h : DeliversWhole log acked kept rest) (hrecord : IsRecord events record)
    (hcount : Countable [events]) (hwrite : log.writeRecords record = (.error e, after)) :
    exists (rest' : List WalFrame) (size : Nat),
      Delivers after acked kept rest' size ∧
        ((log.canWrite && log.stream.tears bufferCapacity record log.recordIo.append) = false ->
          size = (joined (kept ++ rest')).length) := by
  have hwhole : log.stream.contents = joined (kept ++ rest) := by
    rw [h.contents, List.take_length]
  cases hcan : log.canWrite with
  | false =>
      rcases FileEventLog.writeRecords_of_not_canWrite hcan record with ⟨e', heq⟩
      rw [heq] at hwrite
      cases hwrite
      exact ⟨rest, _, h.moved (BufferedFile.Moved.refl _) rfl, fun _ => rfl⟩
  | true =>
      rw [FileEventLog.writeRecords_of_canWrite hcan] at hwrite
      cases happend : log.stream.append bufferCapacity record log.recordIo.append with
      | mk outcome b =>
          rw [happend] at hwrite
          rcases Prod.mk.inj hwrite with ⟨houtcome, hafter⟩
          have hstream : after.stream = b := by
            rw [← hafter]
            rfl
          have herror : after.readError = log.readError := by
            rw [← hafter]
            rfl
          have hsynced : after.synced = b.synced := by
            rw [← hafter]
            rfl
          cases BufferedFile.append_appended (by decide) happend with
          | done _ _ _ => cases houtcome
          | kept hmoved =>
              rw [← hstream] at hmoved
              exact ⟨rest, _, h.moved hmoved herror, fun _ => rfl⟩
          | pending hmoved _ =>
              have hcontents : after.stream.contents =
                  joined (kept ++ rest) ++ record.take record.length := by
                rw [hstream, hmoved.contents, BufferedFile.push_contents, List.take_length,
                  hwhole]
              have hfile : log.stream.file.length ≤ after.stream.file.length := by
                rw [hstream]
                exact hmoved.file
              refine ⟨rest ++ [⟨events, record⟩], (joined (kept ++ rest)).length + record.length,
                h.snoc hrecord hcount hcontents hfile (hsynced.trans hmoved.synced) herror,
                fun _ => ?_⟩
              rw [← List.append_assoc, joined_append _ [_], List.length_append]
              exact congrArg _ (congrArg List.length (List.append_nil record).symm)
          | @torn _ k _ htears hlt hfile htorn hbuffer =>
              have hcontents : after.stream.contents =
                  joined (kept ++ rest) ++ record.take k := by
                rw [hstream, BufferedFile.contents_of_buffer_eq_nil hbuffer, hfile, hwhole]
              have hgrows : log.stream.file.length ≤ after.stream.file.length := by
                rw [hstream, hfile, BufferedFile.contents, List.append_assoc,
                  List.length_append]
                exact Nat.le_add_right _ _
              refine ⟨rest ++ [⟨events, record⟩], (joined (kept ++ rest)).length + k,
                h.snoc hrecord hcount hcontents hgrows (hsynced.trans htorn) herror, ?_⟩
              intro hnot
              rw [htears] at hnot
              cases hnot

theorem Delivers.done {log after : FileEventLog} {acked events : List SimEvent}
    {kept rest : List WalFrame} {record : Bytes}
    (h : DeliversWhole log acked kept rest) (hrecord : IsRecord events record)
    (hcount : Countable [events]) (hwrite : log.writeRecords record = (.ok (), after)) :
    DeliversWhole after (acked ++ events) (kept ++ rest ++ [⟨events, record⟩]) [] := by
  cases hcan : log.canWrite with
  | false =>
      rcases FileEventLog.writeRecords_of_not_canWrite hcan record with ⟨e', heq⟩
      rw [heq] at hwrite
      cases hwrite
  | true =>
      rw [FileEventLog.writeRecords_of_canWrite hcan] at hwrite
      cases happend : log.stream.append bufferCapacity record log.recordIo.append with
      | mk outcome b =>
          rw [happend] at hwrite
          rcases Prod.mk.inj hwrite with ⟨houtcome, hafter⟩
          rw [← hafter]
          cases BufferedFile.append_appended (by decide) happend with
          | kept _ => cases houtcome
          | pending _ _ => cases houtcome
          | torn _ _ _ _ _ => cases houtcome
          | done hfile hsynced hbuffer =>
              have hbytes : b.file = joined (kept ++ rest) ++ record := by
                rw [hfile, h.contents, List.take_length]
              exact Delivers.settle ⟨events, record⟩ h hrecord hcount hbytes hbuffer hsynced rfl

/-- What one call leaves.  Only a call that tears its record leaves a piece of it. -/
theorem Delivers.faultyCall {log after : FileEventLog} {acked : List SimEvent}
    {kept rest : List WalFrame} {input : FaultyCall} {result : SimResult (List SimEvent)}
    (h : DeliversWhole log acked kept rest)
    (hcall : log.faultyCall input = some (result, after))
    (hmax : log.nextEventId ≠ u64Max) (hround : RoundTrips (log.numbered input.call)) :
    exists (kept' rest' : List WalFrame) (size : Nat),
      Delivers after (acked ++ acknowledged [result]) kept' rest' size ∧
        (log.tearsRecord input = false -> size = (joined (kept' ++ rest')).length) := by
  have hlog : DeliversWhole (log.withRecords [input.io]) acked kept rest :=
    h.moved (BufferedFile.Moved.refl _) rfl
  cases call_called hcall with
  | nothing _ =>
      refine ⟨kept, rest, _, ?_, fun _ => rfl⟩
      rw [acknowledged_ok, List.append_nil]
      exact hlog
  | unencodable _ =>
      refine ⟨kept, rest, _, ?_, fun _ => rfl⟩
      rw [acknowledged_error, List.append_nil]
      exact hlog
  | @failed record e _ hencode hwrite hbound =>
      have hcount : Countable [log.numbered input.call] := countable_numberFrom (hbound hmax)
      rcases hlog.failed (hround.isRecord hencode) hcount hwrite with
        ⟨rest', size, hafter, hsize⟩
      refine ⟨kept, rest', size, ?_, ?_⟩
      · rw [acknowledged_error, List.append_nil]
        exact hafter
      · intro hnot
        apply hsize
        have hencode' : encodeEventRecord (log.numbered input.call) = .ok record := hencode
        rw [FileEventLog.tearsRecord, hencode'] at hnot
        exact hnot
  | @done record written next hencode hwrite hnext =>
      have hbound : log.nextEventId.toNat + input.call.events.length < 2 ^ 64 := by
        change _ = log.nextEventId.toNat + input.call.events.length at hnext
        rw [← hnext]
        exact next.toNat_lt
      have hcount : Countable [log.numbered input.call] := countable_numberFrom hbound
      have hwritten := hlog.done (hround.isRecord hencode) hcount hwrite
      refine ⟨kept ++ rest ++ [⟨log.numbered input.call, record⟩], [], _, ?_, fun _ => rfl⟩
      rw [acknowledged_ok]
      exact hwritten.moved (BufferedFile.Moved.refl _) rfl

/-- What calls leave of which only the last may tear its record. -/
theorem Delivers.run {log after : FileEventLog} {acked : List SimEvent}
    {kept rest : List WalFrame} {inputs : List FaultyCall}
    {answers : List (SimResult (List SimEvent))} (h : DeliversWhole log acked kept rest)
    (hrun : run FileEventLog.faultyCall inputs log = some (answers, after))
    (hsound : Along FileEventLog.faultyCall (fun log input =>
      log.nextEventId ≠ u64Max ∧ RoundTrips (log.numbered input.call)) inputs log)
    (htears : Along FileEventLog.faultyCall (fun log input => log.tearsRecord input = false)
      inputs.dropLast log) :
    exists (kept' rest' : List WalFrame) (size : Nat),
      Delivers after (acked ++ acknowledged answers) kept' rest' size := by
  induction inputs generalizing log acked kept rest answers with
  | nil =>
      cases hrun
      refine ⟨kept, rest, (joined (kept ++ rest)).length, ?_⟩
      rw [acknowledged_nil, List.append_nil]
      exact h
  | cons input later ih =>
      rcases run_cons.mp hrun with ⟨answer, middle, answers', hfirst, hlater, hanswers⟩
      rcases h.faultyCall hfirst hsound.left.left hsound.left.right with
        ⟨kept', rest', size, hmiddle, hwhole⟩
      have hsplit : acknowledged answers = acknowledged [answer] ++ acknowledged answers' := by
        rw [hanswers, ← acknowledged_append]
        rfl
      cases later with
      | nil =>
          cases hlater
          refine ⟨kept', rest', size, ?_⟩
          rw [hanswers]
          exact hmiddle
      | cons next others =>
          rw [hwhole htears.left] at hmiddle
          rcases ih hmiddle hlater (hsound.right _ _ hfirst) (htears.right _ _ hfirst) with
            ⟨kept'', rest'', size'', hafter⟩
          refine ⟨kept'', rest'', size'', ?_⟩
          rw [hsplit, ← List.append_assoc]
          exact hafter

namespace FileEventLog

/-- As long as no append is cut short in the middle of a large record and then
followed by another one, the end of the process loses no acknowledged event. -/
theorem acknowledged_delivered {start : Option Bytes} {opened log : FileEventLog}
    {inputs : List FaultyCall} {answers : List (SimResult (List SimEvent))}
    (hopen : new start = some (.ok opened))
    (hrun : run faultyCall inputs opened = some (answers, log))
    (hsound : Along faultyCall (fun log input =>
      log.nextEventId ≠ u64Max ∧ RoundTrips (log.numbered input.call)) inputs opened)
    (htears : Along faultyCall (fun log input => log.tearsRecord input = false)
      inputs.dropLast opened)
    (ending : Ending) :
    exists (reopened : FileEventLog) (events : List SimEvent),
      new (log.left ending) = some (.ok reopened) ∧ reopened.readAllValid = .ok events ∧
        (acknowledged answers).Sublist events := by
  rcases delivers_of_new hopen with ⟨kept, hstart⟩
  rcases hstart.run hrun hsound htears with ⟨kept', rest', size, hdelivers⟩
  rcases hdelivers.left ending with ⟨m, hkept, hpath⟩
  rcases new_of_prefix hdelivers.records hdelivers.countable hkept hpath with
    ⟨reopened, more, hnew, hread⟩
  exact ⟨reopened, _, hnew, hread,
    hdelivers.acked.trans (List.sublist_append_left _ _)⟩

end FileEventLog

end Faults

/-!
## A failed flush, and a torn record
-/

namespace FileEventLog

def tickSaved : SimEvent :=
  SimEvent.new Tick.zero (.worldSaved Tick.zero)

def pendingCalls : List FaultyCall :=
  [⟨{ append := { flush := some ⟨5, "No space left on device (os error 28)"⟩ } },
      .append tickSaved⟩,
    ⟨{}, .append tickSaved⟩]

theorem acknowledged_delivered_pending :
    letI := ieeeCrc32
    letI := knownBatches [numberFrom ⟨1⟩ [tickSaved]]
    exists (answers : List (SimResult (List SimEvent))) (log reopened : FileEventLog)
        (events : List SimEvent),
      run faultyCall pendingCalls (closed none) = some (answers, log) ∧
        acknowledged answers = numberFrom ⟨1⟩ [tickSaved] ∧
        new (log.left (.crash 0)) = some (.ok reopened) ∧ reopened.readAllValid = .ok events ∧
        (numberFrom ⟨1⟩ [tickSaved]).Sublist events := by
  let _ := ieeeCrc32
  let _ := knownBatches [numberFrom ⟨1⟩ [tickSaved]]
  have hround : forall events : List SimEvent, RoundTrips events :=
    knownBatches_roundTrips (by decide +kernel)
  have hanswers : (run faultyCall pendingCalls (closed none)).map
      (fun result => acknowledged result.1) = some (numberFrom ⟨1⟩ [tickSaved]) := by
    decide +kernel
  rcases Option.map_eq_some_iff.mp hanswers with ⟨⟨answers, log⟩, hrun, hacked⟩
  have hopen : new none = some (.ok (closed none)) := rfl
  have hbelow : checkAlong faultyCall (fun log _ => log.nextEventId != u64Max)
      pendingCalls (closed none) = true := by
    decide +kernel
  have htears : checkAlong faultyCall (fun log input => !log.tearsRecord input)
      pendingCalls.dropLast (closed none) = true := by
    decide +kernel
  have hsound : Along faultyCall (fun log input =>
      log.nextEventId ≠ u64Max ∧ RoundTrips (log.numbered input.call))
      pendingCalls (closed none) :=
    Along.of_check (fun _ _ h => ⟨bne_iff_ne.mp h, hround _⟩) hbelow
  have hwhole : Along faultyCall (fun log input => log.tearsRecord input = false)
      pendingCalls.dropLast (closed none) :=
    Along.of_check (fun _ _ h => by simpa using h) htears
  rcases acknowledged_delivered hopen hrun hsound hwhole (.crash 0) with
    ⟨reopened, events, hnew, hread, hsublist⟩
  change acknowledged answers = _ at hacked
  rw [hacked] at hsublist
  exact ⟨answers, log, reopened, events, hrun, hacked, hnew, hread, hsublist⟩

def largeBatch : List SimEvent :=
  List.replicate 155 tickSaved

def tornCalls : List FaultyCall :=
  [⟨{ append := { direct := some ⟨1, "No space left on device (os error 28)"⟩ } },
      .appendBatch largeBatch⟩,
    ⟨{}, .append tickSaved⟩]

/-- The second call is acknowledged, and its event is gone after the process ends. -/
theorem acknowledged_lost :
    letI := ieeeCrc32
    letI := knownBatches [numberFrom ⟨1⟩ largeBatch, numberFrom ⟨1⟩ [tickSaved]]
    ((run faultyCall tornCalls (closed none)).bind fun (answers, log) =>
      (new (log.left (.crash 0))).map fun reopened =>
        (answers, reopened.bind fun opened => opened.readAllValid)) =
      some
        ([.error (.persistenceError
            "Write WAL records failed: No space left on device (os error 28)"),
          .ok (numberFrom ⟨1⟩ [tickSaved])], .ok []) := by
  decide +kernel

end FileEventLog

end Seej
