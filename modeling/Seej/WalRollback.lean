import Seej.WalCalls
import Seej.WalCodec

/-!
# Appends that are rolled back

An append that fails may have brought a part of its record into the file, or left
one in the buffer, where a later flush finds it.  `Retains` says that no record
begins behind the acknowledged ones.  It is kept exactly as long as no write
completes the record of a failed append, which is what the checks of this module
look for.
-/

namespace Seej

open Foundation

section Rollback

variable [Crc32] [BatchJson]

namespace FileEventLog

/-!
## Writes that complete nothing
-/

/-- What follows the last readable record. -/
def unread (log : FileEventLog) : Bytes :=
  let file := log.file.getD []
  file.drop (scanned file (file.length + 1) 0).offset

/-- Nothing of a failed append is in the file or on its way. -/
def clean (log : FileEventLog) : Bool :=
  log.unread.isEmpty && log.stream.buffer.isEmpty

/-- No record begins behind the readable ones once `bytes` follow. -/
def completesNone (log : FileEventLog) (bytes : Bytes) : Bool :=
  match readRecordAt ReadFaults.none (log.unread ++ bytes) 0 with
  | .ok _ => false
  | .error _ => true

def flushesSafely (log : FileEventLog) (fault : Option WriteFault) : Bool :=
  log.completesNone
    (log.stream.buffer.take (BufferedFile.written fault log.stream.buffer.length))

/-- Either the record is written and synchronised where nothing is in its way, or
what gets into the file completes no record. -/
def writesSafely (log : FileEventLog) (record : Bytes) : Bool :=
  let faults := log.recordIo.append
  let bytes := log.stream.buffer ++ record
  let n := log.stream.emitted bufferCapacity record faults
  !log.canWrite || (log.clean && n == bytes.length && faults.sync.isNone) ||
    log.completesNone (bytes.take n)

def appendsSafely (log : FileEventLog) (events : List SimEvent) : Bool :=
  events.isEmpty ||
    match encodeEventRecord (numberFrom ⟨log.nextEventId⟩ events) with
    | .error _ => true
    | .ok record => log.writesSafely record

theorem appendsSafely_of_encode {log : FileEventLog} {events : List SimEvent} {record : Bytes}
    (hne : events ≠ [])
    (hencode : encodeEventRecord (numberFrom ⟨log.nextEventId⟩ events) = .ok record) :
    log.appendsSafely events = log.writesSafely record := by
  rw [appendsSafely, hencode, List.isEmpty_eq_false_iff.mpr hne, Bool.false_or]

def endsSafely (log : FileEventLog) : Ending -> Bool
  | .crash _ => true
  | .drop faults => log.flushesSafely (faults.headD none)

end FileEventLog

/-!
## Logs with the same counters
-/

structure FileEventLog.SameCounters (log after : FileEventLog) : Prop where
  nextEventId : after.nextEventId = log.nextEventId
  lastTick : after.lastTick = log.lastTick
  totalEvents : after.totalEvents = log.totalEvents
  readError : after.readError = log.readError

omit [Crc32] [BatchJson] in
theorem FileEventLog.SameCounters.counts {log after : FileEventLog}
    (h : FileEventLog.SameCounters log after) {events : List SimEvent}
    (hcounts : Counts log events) : Counts after events :=
  ⟨hcounts.numbered, by rw [h.nextEventId]; exact hcounts.nextEventId,
    by rw [h.lastTick]; exact hcounts.lastTick,
    by rw [h.totalEvents]; exact hcounts.totalEvents⟩

omit [Crc32] [BatchJson] in
theorem FileEventLog.sync_flushes (log : FileEventLog) :
    exists synced : Nat,
      log.sync.2.stream =
        { (log.stream.flush (log.io.syncs.headD {}).flush).2 with synced := synced } ∧
      (synced = log.synced ∨
        synced = (log.stream.flush (log.io.syncs.headD {}).flush).2.file.length) ∧
      FileEventLog.SameCounters log log.sync.2 := by
  unfold FileEventLog.sync
  split
  · rename_i hwriter
    have hbuffer : log.stream.buffer = [] := by
      unfold FileEventLog.stream
      rw [hwriter]
      rfl
    rw [BufferedFile.flush_of_buffer_eq_nil hbuffer]
    exact ⟨log.synced, rfl, Or.inl rfl, rfl, rfl, rfl, rfl⟩
  · have hstream : ({ log with io := { log.io with syncs := log.io.syncs.tail } } :
        FileEventLog).stream = log.stream := rfl
    simp only [hstream]
    cases hflush : log.stream.flush (log.io.syncs.headD {}).flush with
    | mk flushed b =>
        have hsynced := (BufferedFile.flush_moved hflush).left.synced
        cases flushed with
        | error e => exact ⟨b.synced, rfl, Or.inl hsynced, rfl, rfl, rfl, rfl⟩
        | ok _ =>
            cases hsync : (log.io.syncs.headD {}).sync with
            | some message =>
                exact ⟨b.synced, rfl, Or.inl hsynced, rfl, rfl, rfl, rfl⟩
            | none => exact ⟨b.file.length, rfl, Or.inr rfl, rfl, rfl, rfl, rfl⟩

/-!
## Records and a rest
-/

/-- The file is these records and a rest in which no record begins.  The records are
synchronised, and while nothing else is on its way the counters are theirs. -/
structure Retains (log : FileEventLog) (frames : List WalFrame) (tail : Bytes) : Prop where
  records : Records frames
  noRecord : NoRecord tail
  file : log.stream.file = joined frames ++ tail
  synced : (joined frames).length ≤ log.synced
  readError : log.readError = none
  numbered : NumberedFrom ⟨1⟩ (framesEvents frames)
  length_lt : (framesEvents frames).length + 1 < 2 ^ 64
  counts : tail = [] -> log.stream.buffer = [] -> Counts log (framesEvents frames)

namespace Retains

variable {log after : FileEventLog} {frames : List WalFrame} {tail : Bytes}

theorem unread (h : Retains log frames tail) : log.unread = tail := by
  rcases scanned_records h.records h.noRecord with ⟨failure, hscan, _⟩
  have hfile : log.file.getD [] = joined frames ++ tail := h.file
  unfold FileEventLog.unread
  rw [hfile]
  simp only [hscan, List.drop_left]

theorem clean_iff (h : Retains log frames tail) :
    log.clean = true <-> tail = [] ∧ log.stream.buffer = [] := by
  rw [FileEventLog.clean, h.unread, Bool.and_eq_true, List.isEmpty_iff, List.isEmpty_iff]

theorem readAllValid (h : Retains log frames tail) :
    log.readAllValid = .ok (framesEvents frames) :=
  readAllEvents_records h.records h.noRecord h.readError h.file

theorem noRecord_append (h : Retains log frames tail) {bytes : Bytes}
    (hsafe : log.completesNone bytes = true) : NoRecord (tail ++ bytes) := by
  unfold FileEventLog.completesNone at hsafe
  rw [h.unread] at hsafe
  cases hread : readRecordAt ReadFaults.none (tail ++ bytes) 0 with
  | error e => exact noRecord_of_error hread
  | ok result => simp [hread] at hsafe

theorem of_holds (h : Holds log frames) : Retains log frames [] := by
  refine ⟨h.records, Or.inl rfl, ?_, ?_, h.readError, h.counts.numbered, h.counts.length_lt,
    fun _ _ => h.counts⟩
  · rw [List.append_nil]
    exact h.file
  · exact Nat.le_of_eq h.synced.symm

theorem grow (h : Retains log frames tail) {more : Bytes}
    (hfile : after.stream.file = log.stream.file ++ more) (hsafe : NoRecord (tail ++ more))
    (hsynced : log.synced ≤ after.synced ∨ after.synced = after.stream.file.length)
    (herror : after.readError = log.readError)
    (hcounts : tail ++ more = [] -> after.stream.buffer = [] ->
      Counts after (framesEvents frames)) : Retains after frames (tail ++ more) := by
  have hwhole : after.stream.file = joined frames ++ (tail ++ more) := by
    rw [hfile, h.file, List.append_assoc]
  refine ⟨h.records, hsafe, hwhole, ?_, herror.trans h.readError, h.numbered, h.length_lt,
    hcounts⟩
  rcases hsynced with hle | hall
  · exact Nat.le_trans h.synced hle
  · rw [hall, hwhole, List.length_append]
    exact Nat.le_add_right _ _

theorem same (h : Retains log frames tail) (hstream : after.stream = log.stream)
    (herror : after.readError = log.readError)
    (hcounts : Counts log (framesEvents frames) -> Counts after (framesEvents frames)) :
    Retains after frames tail := by
  refine ⟨h.records, h.noRecord, ?_, ?_, herror.trans h.readError, h.numbered, h.length_lt, ?_⟩
  · rw [hstream]
    exact h.file
  · have hsynced : after.synced = log.synced := congrArg BufferedFile.synced hstream
    rw [hsynced]
    exact h.synced
  · intro htail hbuffer
    rw [hstream] at hbuffer
    exact hcounts (h.counts htail hbuffer)

theorem withIo (h : Retains log frames tail) (io : WalIo) :
    Retains { log with io := io } frames tail :=
  h.same rfl rfl fun hcounts =>
    ⟨hcounts.numbered, hcounts.nextEventId, hcounts.lastTick, hcounts.totalEvents⟩

/-!
## Flushes
-/

theorem flush (h : Retains log frames tail) {fault : Option WriteFault}
    (hsafe : log.flushesSafely fault = true)
    (hfile : after.stream.file = (log.stream.flush fault).2.file)
    (hcontents : after.stream.contents = log.stream.contents)
    (hsynced : log.synced ≤ after.synced ∨ after.synced = after.stream.file.length)
    (herror : after.readError = log.readError)
    (hcounts : Counts log (framesEvents frames) -> Counts after (framesEvents frames)) :
    exists tail' : Bytes, Retains after frames tail' := by
  rw [BufferedFile.flush_file] at hfile
  refine ⟨_, h.grow hfile (h.noRecord_append hsafe) hsynced herror ?_⟩
  intro hnil hbuffer
  rcases List.append_eq_nil_iff.mp hnil with ⟨htail, hmore⟩
  rw [BufferedFile.contents, BufferedFile.contents, hbuffer, hfile, hmore, List.append_nil,
    List.append_nil] at hcontents
  have hempty : log.stream.buffer = [] := by
    have hlength := congrArg List.length hcontents
    rw [List.length_append] at hlength
    exact List.eq_nil_of_length_eq_zero (by omega)
  exact hcounts (h.counts htail hempty)

theorem sync (h : Retains log frames tail)
    (hsafe : log.flushesSafely (log.io.syncs.headD {}).flush = true) :
    exists tail' : Bytes, Retains log.sync.2 frames tail' := by
  rcases FileEventLog.sync_flushes log with ⟨synced, hstream, hsynced, hcounted⟩
  have hmoved := (BufferedFile.flush_moved (b := log.stream)
    (Prod.eta (log.stream.flush (log.io.syncs.headD {}).flush)).symm).left
  refine h.flush hsafe ?_ ?_ ?_ hcounted.readError hcounted.counts
  · rw [hstream]
  · rw [hstream]
    exact hmoved.contents
  · have hafter : log.sync.2.synced = synced := congrArg BufferedFile.synced hstream
    rw [hafter, hstream]
    rcases hsynced with hsame | hall
    · exact Or.inl (Nat.le_of_eq hsame.symm)
    · exact Or.inr hall

/-!
## Appends
-/

/-- What the write of a record leaves, whether it fails or not, unless it adds a
record to a clean log. -/
theorem written (h : Retains log frames tail) {record : Bytes} {result : SimResult Unit}
    {middle : FileEventLog} (hcan : log.canWrite = true)
    (hwrite : log.writeRecords record = (result, middle))
    (hsafe : log.completesNone ((log.stream.buffer ++ record).take
      (log.stream.emitted bufferCapacity record log.recordIo.append)) = true)
    (hstream : after.stream = middle.stream) (herror : after.readError = log.readError)
    (hcounts : (forall e : SimError, result = .error e ->
        Counts log (framesEvents frames) -> Counts after (framesEvents frames)))
    (hne : record ≠ []) : exists tail' : Bytes, Retains after frames tail' := by
  rw [FileEventLog.writeRecords_of_canWrite hcan] at hwrite
  have hfile := BufferedFile.append_file log.stream record log.recordIo.append
    (by decide : 0 < bufferCapacity)
  cases happend : log.stream.append bufferCapacity record log.recordIo.append with
  | mk outcome b =>
      rw [happend] at hwrite hfile
      rcases Prod.mk.inj hwrite with ⟨hresult, hmiddle⟩
      have hafter : after.stream = b := by
        rw [hstream, ← hmiddle]
        rfl
      have hgrown : after.stream.file = b.file := congrArg BufferedFile.file hafter
      refine ⟨_, h.grow (hgrown.trans hfile) (h.noRecord_append hsafe) ?_ herror ?_⟩
      · have hsynced : after.synced = b.synced := congrArg BufferedFile.synced hafter
        rw [hsynced, hafter]
        cases BufferedFile.append_appended (by decide) happend with
        | done _ hall _ => exact Or.inr hall
        | kept hmoved => exact Or.inl (Nat.le_of_eq hmoved.synced.symm)
        | pending hmoved _ => exact Or.inl (Nat.le_of_eq hmoved.synced.symm)
        | torn _ _ _ hsame _ => exact Or.inl (Nat.le_of_eq hsame.symm)
      · intro hnil hbuffer
        rcases List.append_eq_nil_iff.mp hnil with ⟨htail, hmore⟩
        rw [hafter] at hbuffer
        rw [hmore, List.append_nil] at hfile
        -- nothing was written and nothing waits, so nothing waited before
        change b.file = log.stream.file at hfile
        cases BufferedFile.append_appended (by decide) happend with
        | done hdone _ _ =>
            rw [hfile, BufferedFile.contents, List.append_assoc] at hdone
            have hlength := congrArg List.length hdone
            have hpos := List.length_pos_iff.mpr hne
            simp only [List.length_append] at hlength
            omega
        | kept hmoved =>
            have hempty := hmoved.contents
            rw [BufferedFile.contents_of_buffer_eq_nil hbuffer, hfile, BufferedFile.contents]
              at hempty
            have hlength := congrArg List.length hempty
            rw [List.length_append] at hlength
            exact hcounts _ hresult.symm
              (h.counts htail (List.eq_nil_of_length_eq_zero (by omega)))
        | pending hmoved _ =>
            have hempty := hmoved.contents
            rw [BufferedFile.contents_of_buffer_eq_nil hbuffer, hfile,
              BufferedFile.push_contents, BufferedFile.contents] at hempty
            have hlength := congrArg List.length hempty
            have hpos := List.length_pos_iff.mpr hne
            simp only [List.length_append] at hlength
            omega
        | torn _ _ htorn _ _ =>
            rw [hfile, BufferedFile.contents, List.append_assoc] at htorn
            have hlength := congrArg List.length htorn
            simp only [List.length_append] at hlength
            exact hcounts _ hresult.symm
              (h.counts htail (List.eq_nil_of_length_eq_zero (by omega)))

theorem recorded (h : Retains log frames tail) {events : List SimEvent} {record : Bytes}
    {middle : FileEventLog} {next : UInt64} (hclean : log.clean = true)
    (hrecord : IsRecord (numberFrom ⟨log.nextEventId⟩ events) record)
    (hwrite : log.writeRecords record = (.ok (), middle))
    (hnext : next.toNat = log.nextEventId.toNat + events.length) :
    Holds (middle.counted next (numberFrom ⟨log.nextEventId⟩ events))
      (frames ++ [⟨numberFrom ⟨log.nextEventId⟩ events, record⟩]) := by
  rcases h.clean_iff.mp hclean with ⟨htail, hbuffer⟩
  have hcounts := h.counts htail hbuffer
  cases hcan : log.canWrite with
  | false =>
      rcases FileEventLog.writeRecords_of_not_canWrite hcan record with ⟨e, heq⟩
      rw [heq] at hwrite
      cases hwrite
  | true =>
      rw [FileEventLog.writeRecords_of_canWrite hcan] at hwrite
      cases happend : log.stream.append bufferCapacity record log.recordIo.append with
      | mk outcome b =>
          rw [happend] at hwrite
          rcases Prod.mk.inj hwrite with ⟨houtcome, hmiddle⟩
          rw [← hmiddle]
          cases BufferedFile.append_appended (by decide) happend with
          | kept _ => cases houtcome
          | pending _ _ => cases houtcome
          | torn _ _ _ _ _ => cases houtcome
          | done hfile hsynced hempty =>
              have hbytes : b.file = joined frames ++ record := by
                rw [hfile, BufferedFile.contents_of_buffer_eq_nil hbuffer, h.file, htail,
                  List.append_nil]
              have hne : events ≠ [] := mt numberFrom_eq_nil.mpr hrecord.ne_nil
              have hsame : FileEventLog.SameCounters log (log.takeRecordIo.withStream b) :=
                ⟨rfl, rfl, rfl, rfl⟩
              exact Holds.snoc h.records hrecord hbytes (hsynced.trans (by rw [hbytes]))
                hempty h.readError ((hsame.counts hcounts).counted hne hnext)

/-- An append adds its events or nothing. -/
theorem appendBatch (h : Retains log frames tail) {events : List SimEvent}
    {result : SimResult (List SimEvent)}
    (happend : log.appendBatch events = some (result, after))
    (hsafe : log.appendsSafely events = true)
    (hround : RoundTrips (numberFrom ⟨log.nextEventId⟩ events)) :
    exists (frames' : List WalFrame) (tail' : Bytes) (more : List SimEvent),
      Retains after frames' tail' ∧ framesEvents frames' = framesEvents frames ++ more ∧
        more.Sublist (acknowledged [result]) := by
  have hcall : log.call (.appendBatch events) = some (result, after) := happend
  have hkept (tail' : Bytes) (hafter : Retains after frames tail') :
      exists (frames' : List WalFrame) (tail' : Bytes) (more : List SimEvent),
        Retains after frames' tail' ∧ framesEvents frames' = framesEvents frames ++ more ∧
          more.Sublist (acknowledged [result]) :=
    ⟨frames, tail', [], hafter, (List.append_nil _).symm, List.nil_sublist _⟩
  cases call_called hcall with
  | nothing _ => exact hkept tail h
  | unencodable _ => exact hkept tail h
  | @failed record e _ hencode hwrite _ =>
      have hrecord := hround.isRecord hencode
      have hne : record ≠ [] := List.ne_nil_of_length_pos hrecord.length_pos
      have hevents : events ≠ [] := mt numberFrom_eq_nil.mpr hrecord.ne_nil
      rw [FileEventLog.appendsSafely_of_encode hevents hencode] at hsafe
      unfold FileEventLog.writesSafely at hsafe
      cases hcan : log.canWrite with
      | false =>
          rcases FileEventLog.writeRecords_of_not_canWrite hcan record with ⟨e', heq⟩
          rw [heq] at hwrite
          cases hwrite
          exact hkept tail (h.withIo _)
      | true =>
          have hsame : FileEventLog.SameCounters log after := by
            rw [FileEventLog.writeRecords_of_canWrite hcan] at hwrite
            rw [← (Prod.mk.inj hwrite).right]
            exact ⟨rfl, rfl, rfl, rfl⟩
          -- a write that gets out whole and is synchronised does not fail
          have hincomplete : log.completesNone ((log.stream.buffer ++ record).take
              (log.stream.emitted bufferCapacity record log.recordIo.append)) = true := by
            simp only [hcan, Bool.not_true, Bool.false_or, Bool.or_eq_true, Bool.and_eq_true,
              beq_iff_eq, Option.isNone_iff_eq_none] at hsafe
            rcases hsafe with ⟨⟨_, hall⟩, hsync⟩ | hnone
            · have hok := BufferedFile.append_of_emitted (by decide) hne hall hsync
              rw [FileEventLog.writeRecords_of_canWrite hcan, hok] at hwrite
              cases (Prod.mk.inj hwrite).left
            · exact hnone
          rcases h.written hcan hwrite hincomplete rfl hsame.readError
            (fun _ _ => hsame.counts) hne with ⟨tail', hafter⟩
          exact hkept tail' hafter
  | @done record written next hencode hwrite hnext =>
      have hrecord := hround.isRecord hencode
      have hne : record ≠ [] := List.ne_nil_of_length_pos hrecord.length_pos
      have hevents : events ≠ [] := mt numberFrom_eq_nil.mpr hrecord.ne_nil
      cases hclean : log.clean with
      | true =>
          have hholds := h.recorded hclean hrecord hwrite hnext
          refine ⟨_, [], log.numbered (.appendBatch events), of_holds hholds, ?_, ?_⟩
          · rw [framesEvents_append]
            exact congrArg _ (List.append_nil _)
          · rw [acknowledged_ok]
      | false =>
          rw [FileEventLog.appendsSafely_of_encode hevents hencode] at hsafe
          unfold FileEventLog.writesSafely at hsafe
          cases hcan : log.canWrite with
          | false =>
              rcases FileEventLog.writeRecords_of_not_canWrite hcan record with ⟨e', heq⟩
              rw [heq] at hwrite
              cases hwrite
          | true =>
              simp only [hcan, hclean, Bool.not_true, Bool.false_or, Bool.false_and] at hsafe
              have herror : written.readError = log.readError := by
                rw [FileEventLog.writeRecords_of_canWrite hcan] at hwrite
                rw [← (Prod.mk.inj hwrite).right]
                rfl
              have hafter : exists tail' : Bytes, Retains
                  (written.counted next (log.numbered (.appendBatch events))) frames tail' :=
                h.written hcan hwrite hsafe rfl herror nofun hne
              rcases hafter with ⟨tail', hafter⟩
              exact hkept tail' hafter

/-!
## The end of a process
-/

theorem left (h : Retains log frames tail) {ending : FileEventLog.Ending}
    (hsafe : log.endsSafely ending = true) :
    exists rest : Bytes, (log.left ending).getD [] = joined frames ++ rest ∧ NoRecord rest := by
  cases ending with
  | crash cut =>
      refine ⟨tail.take (max log.synced cut - (joined frames).length), ?_,
        noRecord_take h.noRecord _⟩
      have hcut : log.stream.file.take (max log.synced cut) =
          joined frames ++ tail.take (max log.synced cut - (joined frames).length) := by
        rw [h.file, List.take_append, List.take_of_length_le]
        exact Nat.le_trans h.synced (Nat.le_max_left _ _)
      rw [← hcut]
      unfold FileEventLog.left FileEventLog.crash
      cases hpath : log.file with
      | none =>
          have hnone : log.stream.file = [] := by
            unfold FileEventLog.stream
            rw [hpath]
            rfl
          rw [hnone, List.take_nil]
          rfl
      | some bytes => rfl
  | drop faults =>
      refine ⟨_, ?_, h.noRecord_append hsafe⟩
      have hclosed := FileEventLog.close_flushes
        { log with io := { log.io with closes := faults } }
      rw [← List.append_assoc, ← h.file]
      exact hclosed.trans (BufferedFile.flush_file log.stream (faults.headD none))

theorem reopen (h : Retains log frames tail) {ending : FileEventLog.Ending}
    (hsafe : log.endsSafely ending = true) :
    exists reopened : FileEventLog,
      FileEventLog.new (log.left ending) = some (.ok reopened) ∧ Holds reopened frames := by
  rcases h.left hsafe with ⟨rest, hpath, hrest⟩
  rcases new_path_holds h.records hrest h.numbered h.length_lt hpath with
    ⟨reopened, hnew, hholds, _⟩
  exact ⟨reopened, hnew, hholds⟩

end Retains

end Rollback

end Seej
