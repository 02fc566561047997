import Seej.WalFaults
import Seej.WalRollback

/-!
# Appends that are interrupted

An append to a complete log may fail or be killed at any byte.  Whatever ends the
process after it, the next one finds the records that were there, or these and the new
one.
-/

namespace Seej

open Foundation

section Interrupted

variable [Crc32] [BatchJson]

/-- What a new process finds in the file of the log: these records, after the repair. -/
def Found (frames : List WalFrame) (file : Option Bytes) : Prop :=
  exists log : FileEventLog, FileEventLog.new file = some (.ok log) ∧ Holds log frames

theorem Holds.found {log : FileEventLog} {frames : List WalFrame} (h : Holds log frames)
    (ending : FileEventLog.Ending) : Found frames (log.left ending) := by
  rcases h.new_path (h.left_file ending) with ⟨reopened, hnew, hholds, _⟩
  exact ⟨reopened, hnew, hholds⟩

/-- A piece of a new record behind the records is found as a whole record or not at all. -/
theorem found_of_piece {log : FileEventLog} {frames : List WalFrame} {frame : WalFrame}
    {path : Option Bytes} {size : Nat} (h : Holds log frames)
    (hrecord : IsRecord frame.value frame.bytes)
    (hnumbered : NumberedFrom ⟨1⟩ (framesEvents (frames ++ [frame])))
    (hlength : (framesEvents (frames ++ [frame])).length + 1 < 2 ^ 64)
    (hpath : path.getD [] = joined frames ++ frame.bytes.take size) :
    Found frames path ∨ Found (frames ++ [frame]) path := by
  have hone : Records [frame] := by
    intro other hmem
    rw [List.mem_singleton.mp hmem]
    exact hrecord
  rcases Nat.lt_or_ge size frame.bytes.length with hlt | hge
  · left
    have htail : NoRecord (frame.bytes.take size) := by
      apply endsScan_of_torn hone.framed
      rcases Nat.eq_zero_or_pos size with hzero | hpos
      · left
        rw [hzero, List.take_zero]
      · exact Or.inr ⟨frame, size, List.mem_singleton_self frame, hpos, hlt, rfl⟩
    rcases new_path_holds h.records htail h.counts.numbered h.counts.length_lt hpath with
      ⟨reopened, hnew, hholds, _⟩
    exact ⟨reopened, hnew, hholds⟩
  · right
    rw [List.take_of_length_le hge] at hpath
    have hjoined : joined (frames ++ [frame]) = joined frames ++ frame.bytes := by
      rw [joined_append]
      exact congrArg _ (List.append_nil _)
    rcases new_path_holds (h.records.append hone) (Or.inl rfl) hnumbered hlength
      (hpath.trans (hjoined.symm.trans (List.append_nil _).symm)) with
      ⟨reopened, hnew, hholds, _⟩
    exact ⟨reopened, hnew, hholds⟩

theorem Holds.writeRecords_error {log after : FileEventLog} {frames : List WalFrame}
    {record : Bytes} {e : SimError} (h : Holds log frames)
    (hwrite : log.writeRecords record = (.error e, after)) :
    (joined frames).length ≤ after.synced ∧ after.synced ≤ after.stream.file.length ∧
      exists size : Nat, after.stream.contents = joined frames ++ record.take size := by
  have hcontents : log.stream.contents = joined frames :=
    (BufferedFile.contents_of_buffer_eq_nil h.buffer).trans h.file
  have hfile : log.stream.file = joined frames := h.file
  have hkept : log.stream.contents = joined frames ++ record.take 0 := by
    rw [hcontents, List.take_zero, List.append_nil]
  cases hcan : log.canWrite with
  | false =>
      rcases FileEventLog.writeRecords_of_not_canWrite hcan record with ⟨e', heq⟩
      rw [heq] at hwrite
      cases hwrite
      refine ⟨Nat.le_of_eq h.synced.symm, ?_, 0, hkept⟩
      exact Nat.le_of_eq (h.synced.trans (congrArg List.length hfile.symm))
  | true =>
      rw [FileEventLog.writeRecords_of_canWrite hcan] at hwrite
      cases happend : log.stream.append bufferCapacity record log.recordIo.append with
      | mk outcome b =>
          rw [happend] at hwrite
          rcases Prod.mk.inj hwrite with ⟨houtcome, hafter⟩
          have hstream : after.stream = b := by
            rw [← hafter]
            rfl
          have hsynced : after.synced = b.synced := by
            rw [← hafter]
            rfl
          have hbefore : log.stream.synced = (joined frames).length := h.synced
          rw [hsynced, hstream]
          cases BufferedFile.append_appended (by decide) happend with
          | done _ _ _ => cases houtcome
          | kept hmoved =>
              rw [hmoved.synced, hbefore]
              refine ⟨Nat.le_refl _, ?_, 0, hmoved.contents.trans hkept⟩
              rw [← hfile]
              exact hmoved.file
          | pending hmoved _ =>
              have hpushed : (log.stream.push record).synced = (joined frames).length := h.synced
              rw [hmoved.synced, hpushed]
              refine ⟨Nat.le_refl _, ?_, record.length, ?_⟩
              · rw [← hfile]
                exact hmoved.file
              · rw [hmoved.contents, BufferedFile.push_contents, hcontents, List.take_length]
          | @torn _ k _ _ _ htorn hsame hbuffer =>
              rw [hsame, hbefore]
              refine ⟨Nat.le_refl _, ?_, k, ?_⟩
              · rw [htorn, hcontents, List.length_append]
                exact Nat.le_add_right _ _
              · rw [BufferedFile.contents_of_buffer_eq_nil hbuffer, htorn, hcontents]

theorem appendBatch_room {log : FileEventLog} {events : List SimEvent}
    {answer : SimResult (List SimEvent) × FileEventLog} (hne : events ≠ [])
    (h : log.appendBatch events = some answer) :
    log.nextEventId.toNat + events.length < 2 ^ 64 := by
  unfold FileEventLog.appendBatch at h
  rw [if_neg hne] at h
  rcases Option.bind_eq_some_iff.mp h with ⟨⟨persisted, next⟩, hassign, _⟩
  rcases assignIds_eq_some.mp hassign with ⟨_, hnext⟩
  rw [← hnext]
  exact next.toNat_lt

/-- What is left of an append to a log that holds the records, whatever the file system
answers. -/
inductive Appending (log : FileEventLog) (frames : List WalFrame) (events : List SimEvent) :
    SimResult (List SimEvent) -> FileEventLog -> Prop where
  | unencodable {e : SimError}
      (hencode : encodeEventRecord (numberFrom ⟨log.nextEventId⟩ events) = .error e) :
      Appending log frames events (.error e) log
  | done {record : Bytes} {after : FileEventLog}
      (hencode : encodeEventRecord (numberFrom ⟨log.nextEventId⟩ events) = .ok record)
      (hholds : Holds after (frames ++ [⟨numberFrom ⟨log.nextEventId⟩ events, record⟩])) :
      Appending log frames events (.ok (numberFrom ⟨log.nextEventId⟩ events)) after
  | broken {e : SimError} {record : Bytes} {after : FileEventLog}
      (hencode : encodeEventRecord (numberFrom ⟨log.nextEventId⟩ events) = .ok record)
      (hfound : forall ending : FileEventLog.Ending, Found frames (after.left ending) ∨
        Found (frames ++ [⟨numberFrom ⟨log.nextEventId⟩ events, record⟩]) (after.left ending)) :
      Appending log frames events (.error e) after

theorem Holds.appending {log after : FileEventLog} {frames : List WalFrame}
    {events : List SimEvent} {result : SimResult (List SimEvent)} (h : Holds log frames)
    (hne : events ≠ []) (hround : RoundTrips (numberFrom ⟨log.nextEventId⟩ events))
    (happend : log.appendBatch events = some (result, after)) :
    Appending log frames events result after := by
  have hcall : log.call (.appendBatch events) = some (result, after) := happend
  have hroom := appendBatch_room hne happend
  cases call_called hcall with
  | nothing hevents => exact absurd hevents hne
  | unencodable hencode => exact Appending.unencodable hencode
  | @done record written next hencode hwrite hnext =>
      have hclean : log.clean = true :=
        (Retains.of_holds h).clean_iff.mpr ⟨rfl, h.buffer⟩
      exact Appending.done hencode ((Retains.of_holds h).recorded hclean
        (hround.isRecord hencode) hwrite hnext)
  | @failed record e written hencode hwrite _ =>
      have hrecord : IsRecord (numberFrom ⟨log.nextEventId⟩ events) record :=
        hround.isRecord hencode
      have hevents : framesEvents (frames ++ [⟨numberFrom ⟨log.nextEventId⟩ events, record⟩]) =
          framesEvents frames ++ numberFrom ⟨log.nextEventId⟩ events := by
        rw [framesEvents_append]
        exact congrArg _ (List.append_nil _)
      refine Appending.broken hencode ?_
      intro ending
      rcases h.writeRecords_error hwrite with ⟨hlow, hsynced, size, hcontents⟩
      rcases FileEventLog.left_take hsynced ending with ⟨m, hm, _, hleft⟩
      have hpiece : (after.left ending).getD [] = joined frames ++
          record.take (min (m - (joined frames).length) size) := by
        rw [hleft, hcontents, List.take_append, List.take_of_length_le (Nat.le_trans hlow hm),
          List.take_take]
      apply found_of_piece h hrecord ?_ ?_ hpiece
      · rw [hevents]
        exact h.counts.append_numbered events
      · rw [hevents, List.length_append, numberFrom_length]
        have hcounted := h.counts.nextEventId
        omega

end Interrupted

end Seej
