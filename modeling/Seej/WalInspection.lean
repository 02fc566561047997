import Seej.WalCursor

/-!
# Inspecting the log

Opening for inspection scans the file as repair does, but keeps it as it is and the error
that stopped the scan as the answer to every read.  So reads fail exactly on the files that
repair would cut, and on the others both logs say the same.
-/

namespace Seej

open Foundation

section Inspection

variable [Crc32] [BatchJson]

namespace FileEventLog

theorem openReadOnly_records {frames : List WalFrame} {tail : Bytes} (hframes : Records frames)
    (htail : NoRecord tail) :
    exists failure : Option SimError, (failure = none <-> tail = []) ∧
      openReadOnly (some (joined frames ++ tail)) =
        ((closed (some (joined frames ++ tail))).noteAll (frames.map Frame.value)).map
          fun noted => .ok { noted with readError := failure } := by
  rcases scanned_records hframes htail with ⟨failure, hscan, hfailure⟩
  refine ⟨failure, hfailure, ?_⟩
  generalize hfile : joined frames ++ tail = file at hscan ⊢
  change (recoverFrom {} .readOnly file (file.length + 1) 0 (closed (some file))).bind _ = _
  rw [recoverFrom_eq_scanned, hscan]
  cases hnote : (closed (some file)).noteAll (frames.map Frame.value) with
  | none => rfl
  | some noted =>
      have hclean : noted.readError = none := by
        rw [noteAll_eq_some hnote]
        rfl
      cases failure with
      | some e => rfl
      | none =>
          simp only [Option.map_some, Option.bind_some]
          have hsame : { noted with readError := none } = noted := by
            rw [← hclean]
          rw [hsame]
          rfl

structure Inspects (inspected repaired : FileEventLog) (file : Option Bytes) : Prop where
  keepsFile : inspected.file = file
  closes : inspected.close = file
  refuses : (exists e : SimError, inspected.readAllValid = .error e) <-> repaired.file ≠ file
  refusesFrom : forall fromId : EventId,
    (exists e : SimError, inspected.readFromEventId fromId = .error e) <-> repaired.file ≠ file
  reads : forall events : List SimEvent, inspected.readAllValid = .ok events ->
    repaired.readAllValid = .ok events
  readsFrom : forall (fromId : EventId) (events : List SimEvent),
    inspected.readFromEventId fromId = .ok events ->
      repaired.readFromEventId fromId = .ok events
  len : inspected.len = repaired.len
  lastEventId : inspected.lastEventId = repaired.lastEventId
  lastTick : inspected.lastTick = repaired.lastTick

theorem readFromEventId_eq (log : FileEventLog) (fromId : EventId) :
    log.readFromEventId fromId =
      log.readAllValid.map fun all => all.filter fun e => e.eventId > fromId := by
  unfold readFromEventId readAllValid
  cases log.readAllEvents {} <;> rfl

/-- Both ways of reading give the same answer in the same cases. -/
theorem inspects_of_reads {inspected repaired : FileEventLog} {file : Option Bytes}
    (hfile : inspected.file = file) (hwriter : inspected.writer = none)
    (hreads : (repaired.file = file ∧ inspected.readAllValid = repaired.readAllValid ∧
        exists events : List SimEvent, repaired.readAllValid = .ok events) ∨
      (repaired.file ≠ file ∧ exists e : SimError, inspected.readAllValid = .error e))
    (hnext : inspected.nextEventId = repaired.nextEventId)
    (htick : inspected.lastTick = repaired.lastTick)
    (htotal : inspected.totalEvents = repaired.totalEvents) :
    Inspects inspected repaired file := by
  have hclose : inspected.close = file := by
    unfold close closeWriter
    rw [hwriter]
    exact hfile
  have hlast : inspected.lastEventId = repaired.lastEventId := by
    unfold lastEventId
    rw [hnext]
  rcases hreads with ⟨hsame, hequal, events, hevents⟩ | ⟨hcut, e, herror⟩
  · refine ⟨hfile, hclose, ?_, ?_, ?_, ?_, htotal, hlast, htick⟩
    · rw [hequal, hevents]
      exact iff_of_false nofun (not_not.mpr hsame)
    · intro fromId
      rw [readFromEventId_eq, hequal, hevents]
      exact iff_of_false nofun (not_not.mpr hsame)
    · intro found hfound
      rw [← hequal]
      exact hfound
    · intro fromId found hfound
      rw [readFromEventId_eq, ← hequal, ← readFromEventId_eq]
      exact hfound
  · refine ⟨hfile, hclose, ?_, ?_, ?_, ?_, htotal, hlast, htick⟩
    · exact iff_of_true ⟨e, herror⟩ hcut
    · intro fromId
      rw [readFromEventId_eq, herror]
      exact iff_of_true ⟨e, rfl⟩ hcut
    · intro found hfound
      rw [herror] at hfound
      cases hfound
    · intro fromId found hfound
      rw [readFromEventId_eq, herror] at hfound
      cases hfound

theorem inspects_records {frames : List WalFrame} {tail : Bytes} (hframes : Records frames)
    (htail : NoRecord tail) (hcount : Countable (frames.map Frame.value)) :
    exists inspected repaired : FileEventLog,
      openReadOnly (some (joined frames ++ tail)) = some (.ok inspected) ∧
        new (some (joined frames ++ tail)) = some (.ok repaired) ∧
        Inspects inspected repaired (some (joined frames ++ tail)) := by
  rcases openReadOnly_records hframes htail with ⟨failure, hfailure, hopen⟩
  rcases Option.isSome_iff_exists.mp (noteAll_isSome.mpr hcount) with ⟨noted, hnote⟩
  have hkept := new_records hframes htail
  -- both scans take the same records into the counters of the same closed log
  have hnote' : (closed (some (joined frames ++ tail))).noteAll (frames.map Frame.value) =
      some (noted.withFile (joined frames ++ tail)) := by
    have hclosed : closed (some (joined frames ++ tail)) =
        (closed (some (joined frames))).withFile (joined frames ++ tail) := rfl
    rw [hclosed, noteAll_withFile, hnote]
    rfl
  rw [hnote'] at hopen
  rw [hnote] at hkept
  have hnoted := noteAll_eq_some hnote
  have hfile : noted.file = some (joined frames) := by
    rw [hnoted]
    rfl
  have hclean : noted.readError = none := by
    rw [hnoted]
    rfl
  have hwriter : noted.writer = none := by
    rw [hnoted]
    rfl
  have hrepaired : noted.readAllValid = .ok (framesEvents frames) := by
    apply readAllEvents_records hframes (Or.inl rfl) hclean
    rw [hfile, Option.getD_some, List.append_nil]
  refine ⟨_, noted, hopen, hkept, inspects_of_reads rfl hwriter ?_ rfl rfl rfl⟩
  cases failure with
  | none =>
      have hnil := hfailure.mp rfl
      subst hnil
      refine Or.inl ⟨by rw [hfile, List.append_nil], ?_, _, hrepaired⟩
      rw [hrepaired]
      exact readAllEvents_records hframes (Or.inl rfl) rfl rfl
  | some e =>
      have hne : tail ≠ [] := fun h => Option.some_ne_none e (hfailure.mpr h)
      refine Or.inr ⟨?_, e, rfl⟩
      rw [hfile]
      intro heq
      exact hne (List.append_right_eq_self.mp (Option.some.inj heq).symm)

/-- Inspection and repair abort on the same files, those with a record that ends with the
last `u64`. On every other file they agree. -/
theorem readOnly_agrees (file : Option Bytes) :
    (exists inspected repaired : FileEventLog,
      openReadOnly file = some (.ok inspected) ∧ new file = some (.ok repaired) ∧
        Inspects inspected repaired file) ∨
      (openReadOnly file = none ∧ new file = none ∧
        exists frames : List WalFrame, ValidPrefix (file.getD []) frames ∧
          ¬ Countable (frames.map Frame.value)) := by
  rcases exists_validPrefix (file.getD []) with ⟨frames, hlongest⟩
  cases file with
  | none =>
      refine Or.inl ⟨closed none, closed none, rfl, rfl, ?_⟩
      exact inspects_of_reads rfl rfl (Or.inl ⟨rfl, rfl, [], rfl⟩) rfl rfl rfl
  | some bytes =>
      rcases hlongest.exists_tail with ⟨tail, hfile, htail⟩
      rw [Option.getD_some] at hfile
      by_cases hcount : Countable (frames.map Frame.value)
      · rw [hfile]
        exact Or.inl (inspects_records hlongest.records htail hcount)
      · refine Or.inr ⟨?_, ?_, frames, hlongest, hcount⟩
        · rcases openReadOnly_records hlongest.records htail with ⟨failure, _, hopen⟩
          rw [hfile, hopen, Option.map_eq_none_iff]
          exact Option.not_isSome_iff_eq_none.mp (mt noteAll_isSome.mp hcount)
        · rcases new_cases hlongest with ⟨hyes, _⟩ | ⟨_, hnone⟩
          · exact absurd hyes hcount
          · exact hnone

end FileEventLog

end Inspection

end Seej
