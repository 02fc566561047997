import Seej.WalCalls
import Seej.WalRepair

/-!
# Floats in the log

`serde_json` writes a float that is not finite as `null`, and refuses a `null`
where it reads a float.  A batch with such a float is accepted, written and
acknowledged like any other, but its record cannot be read: opening the log again
cuts it off together with everything that follows it.
-/

namespace Seej

open Foundation

def PropertyValue.isNonFinite : PropertyValue -> Bool
  | .float value => !value.isFinite
  | _ => false

def EventData.holdsNonFinite : EventData -> Bool
  | .entityPropertyChanged _ _ oldValue newValue =>
      oldValue.isNonFinite || newValue.isNonFinite
  | _ => false

/-- No event of the batch holds a float that is not finite. -/
def AllFinite (events : List SimEvent) : Prop :=
  forall event : SimEvent, event ∈ events -> event.data.holdsNonFinite = false

/-- `serde_json` as it is published. -/
class BatchJson.Published [BatchJson] : Prop where
  roundTrips : forall (events : List SimEvent) (bytes : Bytes),
    AllFinite events -> toVec events = .ok bytes -> fromSlice bytes = .ok events
  refusesNull : forall (events : List SimEvent) (bytes : Bytes),
    ¬ AllFinite events -> toVec events = .ok bytes -> exists e : String, fromSlice bytes = .error e

theorem allFinite_numberFrom {start : EventId} {events : List SimEvent} :
    AllFinite (numberFrom start events) <-> AllFinite events := by
  unfold AllFinite
  induction events generalizing start with
  | nil => exact Iff.rfl
  | cons event rest ih => rw [numberFrom, List.forall_mem_cons, List.forall_mem_cons, ih]

section Floats

variable [Crc32] [BatchJson]

/-!
## Records that cannot be read
-/

omit [BatchJson] in
theorem recordBytes_payload_inj {eventId tick eventId' tick' : Nat}
    {payload payload' rest rest' : Bytes} (hmax : payload.length ≤ maxWalPayloadLen)
    (hmax' : payload'.length ≤ maxWalPayloadLen)
    (h : recordBytes eventId tick payload ++ rest =
      recordBytes eventId' tick' payload' ++ rest') : payload = payload' := by
  have hlength := recordBytes_length_inj hmax hmax' h
  simp only [recordBytes, List.append_assoc] at h
  have hwidth : forall (width left right : Nat),
      (leBytes width left).length = (leBytes width right).length := by
    intro width left right
    rw [leBytes_length, leBytes_length]
  have hlengthField := (List.append_inj h (hwidth 4 _ _)).right
  have heventId := (List.append_inj hlengthField (hwidth 2 _ _)).right
  have htick := (List.append_inj heventId (hwidth 4 _ _)).right
  have hafterId := (List.append_inj htick (hwidth 8 _ _)).right
  have hafterTick := (List.append_inj hafterId (hwidth 8 _ _)).right
  exact (List.append_inj hafterTick hlength).left

/-- Whatever follows it, no record begins where this one was written. -/
theorem noRecord_of_nonFinite [BatchJson.Published] {events : List SimEvent} {record : Bytes}
    (hnot : ¬ AllFinite events) (hrecord : encodeEventRecord events = .ok record)
    (rest : Bytes) : NoRecord (record ++ rest) := by
  rcases encodeEventRecord_eq_ok.mp hrecord with ⟨last, payload, _, hjson, hlength, heq⟩
  rcases BatchJson.Published.refusesNull events payload hnot hjson with ⟨refusal, hrefuse⟩
  cases hread : readRecordAt ReadFaults.none (record ++ rest) 0 with
  | error e => exact noRecord_of_error hread
  | ok result =>
      exfalso
      rcases readRecordAt_eq_ok.mp hread with ⟨_, bytes, hfound, _, hsplit⟩
      rw [List.drop_zero, heq] at hsplit
      cases hfound with
      | mk _ hmax hback =>
          rw [← recordBytes_payload_inj hlength hmax hsplit, hrefuse] at hback
          cases hback

/-!
## Appending
-/

structure Unbuffered (log : FileEventLog) : Prop where
  io : log.io.records = []
  buffer : log.writer.getD [] = []
  readError : log.readError = none

theorem Unbuffered.call {log after : FileEventLog} {c : AppendCall} {persisted : List SimEvent}
    (h : Unbuffered log) (hcall : log.call c = some (.ok persisted, after)) :
    Unbuffered after ∧
      ((c.events = [] ∧ persisted = [] ∧ after.file = log.file) ∨
        exists record : Bytes, encodeEventRecord (log.numbered c) = .ok record ∧
          persisted = log.numbered c ∧
          after.file = some (log.file.getD [] ++ record) ∧
          log.nextEventId.toNat + c.events.length < 2 ^ 64) := by
  generalize hresult : (Except.ok persisted : SimResult (List SimEvent)) = result at hcall
  cases call_called hcall with
  | nothing hevents =>
      cases hresult
      exact ⟨h, Or.inl ⟨hevents, rfl, rfl⟩⟩
  | unencodable _ => cases hresult
  | failed _ _ _ => cases hresult
  | @done record written next hencode hwrite hnext =>
      cases hresult
      rw [FileEventLog.writeRecords_of_no_faults h.io h.buffer] at hwrite
      cases hwrite
      refine ⟨⟨h.io, rfl, h.readError⟩, Or.inr ⟨record, hencode, rfl, rfl, ?_⟩⟩
      rw [← hnext]
      exact next.toNat_lt

structure Keeps (log : FileEventLog) (frames : List WalFrame) : Prop where
  unbuffered : Unbuffered log
  records : Records frames
  countable : Countable (frames.map Frame.value)
  file : log.file.getD [] = joined frames

structure Poisoned (log : FileEventLog) : Prop where
  unbuffered : Unbuffered log
  unreadable : exists (frames : List WalFrame) (record rest : Bytes),
    log.file = some (joined frames ++ (record ++ rest)) ∧ Records frames ∧ record ≠ [] ∧
      forall more : Bytes, NoRecord (record ++ more)

theorem Keeps.call [BatchJson.Published] {log after : FileEventLog} {frames : List WalFrame}
    {c : AppendCall} {persisted : List SimEvent} (h : Keeps log frames)
    (hcall : log.call c = some (.ok persisted, after)) (hfinite : AllFinite c.events) :
    exists more : List WalFrame, Keeps after (frames ++ more) ∧ framesEvents more = persisted := by
  rcases h.unbuffered.call hcall with
    ⟨hafter, ⟨_, hpersisted, hfile⟩ | ⟨record, hencode, hpersisted, hfile, hbound⟩⟩
  · refine ⟨[], ?_, hpersisted.symm⟩
    rw [List.append_nil]
    exact ⟨hafter, h.records, h.countable, by rw [hfile]; exact h.file⟩
  · have hround : RoundTrips (log.numbered c) := fun payload hjson =>
      BatchJson.Published.roundTrips _ payload (allFinite_numberFrom.mpr hfinite) hjson
    refine ⟨[⟨log.numbered c, record⟩], ⟨hafter, h.records.append ?_, ?_, ?_⟩, ?_⟩
    · intro frame hmem
      rw [List.mem_singleton.mp hmem]
      exact hround.isRecord hencode
    · intro events hmem
      rw [List.map_append, List.mem_append] at hmem
      rcases hmem with hmem | hmem
      · exact h.countable events hmem
      · exact countable_numberFrom hbound events hmem
    · rw [hfile, Option.getD_some, h.file, joined_append, joined_cons, joined_nil,
        List.append_nil]
    · rw [hpersisted]
      exact List.append_nil _

theorem Keeps.poison [BatchJson.Published] {log after : FileEventLog} {frames : List WalFrame}
    {c : AppendCall} {persisted : List SimEvent} (h : Keeps log frames)
    (hcall : log.call c = some (.ok persisted, after)) (hnot : ¬ AllFinite c.events) :
    Poisoned after := by
  rcases h.unbuffered.call hcall with
    ⟨hafter, ⟨hnone, _, _⟩ | ⟨record, hencode, _, hfile, _⟩⟩
  · rw [hnone] at hnot
    exact absurd nofun hnot
  · have hunreadable : forall more : Bytes, NoRecord (record ++ more) :=
      noRecord_of_nonFinite (mt allFinite_numberFrom.mp hnot) hencode
    have hne : record ≠ [] := by
      rcases encodeEventRecord_eq_ok.mp hencode with ⟨last, payload, _, _, _, heq⟩
      rw [heq]
      apply List.ne_nil_of_length_pos
      rw [recordBytes_length, recordHeaderSize]
      omega
    refine ⟨hafter, frames, record, [], ?_, h.records, hne, hunreadable⟩
    rw [hfile, h.file, List.append_nil]

theorem Poisoned.call {log after : FileEventLog} {c : AppendCall} {persisted : List SimEvent}
    (h : Poisoned log) (hcall : log.call c = some (.ok persisted, after)) : Poisoned after := by
  rcases h.unreadable with ⟨frames, record, rest, hbefore, hframes, hne, hunreadable⟩
  rcases h.unbuffered.call hcall with ⟨hafter, ⟨_, _, hfile⟩ | ⟨more, _, _, hfile, _⟩⟩
  · exact ⟨hafter, frames, record, rest, hfile.trans hbefore, hframes, hne, hunreadable⟩
  · refine ⟨hafter, frames, record, rest ++ more, ?_, hframes, hne, hunreadable⟩
    rw [hfile, hbefore, Option.getD_some]
    simp only [List.append_assoc]

/-!
## Sequences of appends
-/

/-- Every call returned `Ok`. -/
def Accepts (answers : List (SimResult (List SimEvent))) : Prop :=
  forall answer : SimResult (List SimEvent), answer ∈ answers ->
    exists persisted : List SimEvent, answer = .ok persisted

theorem runCalls_cons {c : AppendCall} {rest : List AppendCall}
    {answers : List (SimResult (List SimEvent))} {log final : FileEventLog}
    (hrun : FileEventLog.runCalls (c :: rest) log = some (answers, final))
    (haccepts : Accepts answers) :
    exists (persisted : List SimEvent) (middle : FileEventLog)
        (later : List (SimResult (List SimEvent))),
      log.call c = some (.ok persisted, middle) ∧
        FileEventLog.runCalls rest middle = some (later, final) ∧ Accepts later ∧
        acknowledged answers = persisted ++ acknowledged later := by
  rcases run_cons.mp hrun with ⟨answer, middle, later, hcall, hlater, hanswers⟩
  rw [hanswers] at haccepts
  rcases haccepts answer List.mem_cons_self with ⟨persisted, hpersisted⟩
  rw [hpersisted] at hcall
  refine ⟨persisted, middle, later, hcall, hlater,
    fun answer hmem => haccepts answer (List.mem_cons_of_mem _ hmem), ?_⟩
  rw [hanswers, hpersisted]
  exact List.flatMap_cons

theorem Poisoned.run {calls : List AppendCall} {answers : List (SimResult (List SimEvent))}
    {log final : FileEventLog} (h : Poisoned log)
    (hrun : FileEventLog.runCalls calls log = some (answers, final))
    (haccepts : Accepts answers) : Poisoned final := by
  induction calls generalizing log answers with
  | nil =>
      cases hrun
      exact h
  | cons c rest ih =>
      rcases runCalls_cons hrun haccepts with ⟨_, middle, later, hcall, hlater, hok, _⟩
      exact ih (h.call hcall) hlater hok

/-- The file stays a list of records exactly as long as no append is handed a float that
is not finite. -/
theorem Keeps.run [BatchJson.Published] {calls : List AppendCall}
    {answers : List (SimResult (List SimEvent))} {log final : FileEventLog}
    {frames : List WalFrame} (h : Keeps log frames)
    (hrun : FileEventLog.runCalls calls log = some (answers, final))
    (haccepts : Accepts answers) :
    ((forall c : AppendCall, c ∈ calls -> AllFinite c.events) ∧
      exists more : List WalFrame, Keeps final (frames ++ more) ∧
        framesEvents more = acknowledged answers) ∨
    ((exists c : AppendCall, c ∈ calls ∧ ¬ AllFinite c.events) ∧ Poisoned final) := by
  induction calls generalizing log answers frames with
  | nil =>
      cases hrun
      exact Or.inl ⟨nofun, [], by rw [List.append_nil]; exact h, rfl⟩
  | cons c rest ih =>
      rcases runCalls_cons hrun haccepts with
        ⟨persisted, middle, later, hcall, hlater, hok, hacked⟩
      by_cases hfinite : AllFinite c.events
      · rcases h.call hcall hfinite with ⟨more, hmiddle, hmore⟩
        rcases ih hmiddle hlater hok with
          ⟨hall, others, hfinal, hothers⟩ | ⟨⟨bad, hmem, hbad⟩, hpoisoned⟩
        · refine Or.inl ⟨List.forall_mem_cons.mpr ⟨hfinite, hall⟩, more ++ others, ?_, ?_⟩
          · rw [← List.append_assoc]
            exact hfinal
          · rw [framesEvents_append, hmore, hothers, hacked]
        · exact Or.inr ⟨⟨bad, List.mem_cons_of_mem _ hmem, hbad⟩, hpoisoned⟩
      · exact Or.inr ⟨⟨c, List.mem_cons_self, hfinite⟩,
          (h.poison hcall hfinite).run hlater hok⟩

/-!
## Opening again
-/

theorem keeps_of_new {path : Option Bytes} {opened : FileEventLog}
    (h : FileEventLog.new path = some (.ok opened)) :
    exists frames : List WalFrame, Keeps opened frames ∧
      opened.readAllValid = .ok (framesEvents frames) := by
  cases path with
  | none =>
      cases h
      exact ⟨[], ⟨⟨rfl, rfl, rfl⟩, nofun, nofun, rfl⟩, rfl⟩
  | some file =>
      rcases new_eq_some h with
        ⟨frames, tail, _, hframes, _, hcount, hfile, _, hwriter, herror⟩
      have hio : opened.io = {} := new_io h
      refine ⟨frames, ⟨⟨by rw [hio], by rw [hwriter]; rfl, herror⟩, hframes, hcount, ?_⟩, ?_⟩
      · rw [hfile]
        rfl
      · apply readAllEvents_records hframes (Or.inl rfl) herror
        rw [hfile, Option.getD_some, List.append_nil]

theorem Keeps.reopen {log : FileEventLog} {frames : List WalFrame} (h : Keeps log frames) :
    exists reopened : FileEventLog,
      FileEventLog.new log.file = some (.ok reopened) ∧ reopened.file = log.file ∧
        reopened.readAllValid = .ok (framesEvents frames) := by
  cases hpath : log.file with
  | none =>
      have hjoined := h.file
      rw [hpath, Option.getD_none] at hjoined
      have hlen := h.records.length_le
      rw [← hjoined, List.length_nil, Nat.le_zero, List.length_eq_zero_iff] at hlen
      rw [hlen]
      exact ⟨FileEventLog.closed none, rfl, rfl, rfl⟩
  | some file =>
      have hfile := h.file
      rw [hpath, Option.getD_some] at hfile
      rcases @new_of_countable _ _ frames [] h.records (Or.inl rfl) h.countable with
        ⟨reopened, hnew, hkept, _, _, herror⟩
      rw [List.append_nil] at hnew
      refine ⟨reopened, by rw [hfile]; exact hnew, by rw [hfile]; exact hkept, ?_⟩
      apply readAllEvents_records h.records (Or.inl rfl) herror
      rw [hkept, Option.getD_some, List.append_nil]

theorem Poisoned.reopen {log reopened : FileEventLog} (h : Poisoned log)
    (hnew : FileEventLog.new log.file = some (.ok reopened)) : reopened.file ≠ log.file := by
  intro hsame
  rcases h.unreadable with ⟨frames, record, rest, hfile, hframes, hne, hunreadable⟩
  rw [hfile] at hnew hsame
  rcases new_eq_some hnew with ⟨kept, _, _, hkept, _, _, hcut, _, _, _⟩
  rw [hcut, Option.some.injEq] at hsame
  have hwhole : joined kept ++ [] = joined frames ++ (record ++ rest) := by
    rw [List.append_nil]
    exact hsame
  rcases prefix_of_joined hframes.framed hkept.framed (hunreadable rest) hwhole with
    ⟨more, hmore⟩
  rw [← hmore, joined_append] at hsame
  have hlen := congrArg List.length hsame
  have hpos := List.length_pos_iff.mpr hne
  simp only [List.length_append] at hlen
  omega

/-- After appends that were all accepted, the log is read back as a whole if and only if
no float that is not finite was appended. -/
theorem appends_readBack [BatchJson.Published] {start : Option Bytes}
    {opened log : FileEventLog} {calls : List AppendCall}
    {answers : List (SimResult (List SimEvent))} {before : List SimEvent}
    (hopen : FileEventLog.new start = some (.ok opened))
    (hbefore : opened.readAllValid = .ok before)
    (hrun : FileEventLog.runCalls calls opened = some (answers, log))
    (haccepts : Accepts answers) :
    (exists reopened : FileEventLog,
      FileEventLog.new log.file = some (.ok reopened) ∧ reopened.file = log.file ∧
        reopened.readAllValid = .ok (before ++ acknowledged answers)) <->
    (forall c : AppendCall, c ∈ calls -> AllFinite c.events) := by
  rcases keeps_of_new hopen with ⟨frames, hkeeps, hread⟩
  rw [hbefore, Except.ok.injEq] at hread
  rcases hkeeps.run hrun haccepts with ⟨hall, more, hfinal, hmore⟩ | ⟨⟨c, hmem, hnot⟩, hpoisoned⟩
  · refine ⟨fun _ => hall, fun _ => ?_⟩
    rw [hread, ← hmore, ← framesEvents_append]
    exact hfinal.reopen
  · refine ⟨?_, fun hall => absurd (hall c hmem) hnot⟩
    rintro ⟨reopened, hnew, hsame, _⟩
    exact absurd hsame (hpoisoned.reopen hnew)

end Floats

/-!
## A float that is not a number
-/

def allFinite (events : List SimEvent) : Bool :=
  events.all fun event => !event.data.holdsNonFinite

theorem allFinite_iff {events : List SimEvent} : allFinite events = true <-> AllFinite events := by
  simp [allFinite, AllFinite]

/-- `serde_json` on the batches of a list: texts with a `null` for a float are written
but not read. -/
@[reducible] def publishedBatches (known : List (List SimEvent)) : BatchJson where
  toVec := (knownBatches known).toVec
  fromSlice := (knownBatches (known.filter allFinite)).fromSlice

theorem publishedBatches_published {known : List (List SimEvent)}
    (h : forall a, a ∈ known -> forall b, b ∈ known ->
      Json.batch a = Json.batch b -> a = b) :
    @BatchJson.Published (publishedBatches known) := by
  have hreadable : forall a, a ∈ known.filter allFinite -> forall b,
      b ∈ known.filter allFinite -> Json.batch a = Json.batch b -> a = b :=
    fun a ha b hb => h a (List.mem_filter.mp ha).left b (List.mem_filter.mp hb).left
  refine @BatchJson.Published.mk (publishedBatches known) ?_ ?_
  · intro events bytes hfinite hwrite
    rcases knownBatches_toVec.mp hwrite with ⟨hmem, hbatch⟩
    have hreads := List.mem_filter.mpr ⟨hmem, allFinite_iff.mpr hfinite⟩
    exact knownBatches_roundTrips hreadable events bytes
      (knownBatches_toVec.mpr ⟨hreads, hbatch⟩)
  · intro events bytes hnot hwrite
    rcases knownBatches_toVec.mp hwrite with ⟨hmem, hbatch⟩
    cases hread : (knownBatches (known.filter allFinite)).fromSlice bytes with
    | error e => exact ⟨e, rfl⟩
    | ok other =>
        exfalso
        have hfind := knownBatches_fromSlice.mp hread
        have htext : Json.batch other = some bytes := by
          simpa using List.find?_some hfind
        rcases List.mem_filter.mp (List.mem_of_find?_eq_some hfind) with ⟨hother, hfinite⟩
        rw [h other hother events hmem (htext.trans hbatch.symm)] at hfinite
        exact hnot (allFinite_iff.mp hfinite)

namespace FileEventLog

def weightChanged : SimEvent :=
  SimEvent.new Tick.zero
    (.entityPropertyChanged ⟨1⟩ "weight" (.uint 1) (.float ⟨0x7FF8000000000000⟩))

def savedTwice : List AppendCall :=
  [.append tickSaved, .append tickSaved]

theorem appends_readBack_savedTwice :
    letI := ieeeCrc32
    letI := publishedBatches [numberFrom ⟨1⟩ [tickSaved], numberFrom ⟨2⟩ [tickSaved]]
    exists (answers : List (SimResult (List SimEvent))) (log reopened : FileEventLog),
      runCalls savedTwice (closed none) = some (answers, log) ∧
        new log.file = some (.ok reopened) ∧ reopened.file = log.file ∧
        reopened.readAllValid = .ok ([] ++ acknowledged answers) := by
  let _ := ieeeCrc32
  let _ := publishedBatches [numberFrom ⟨1⟩ [tickSaved], numberFrom ⟨2⟩ [tickSaved]]
  have _ : BatchJson.Published := publishedBatches_published (by decide +kernel)
  have hanswers : (runCalls savedTwice (closed none)).map Prod.fst =
      some [.ok (numberFrom ⟨1⟩ [tickSaved]), .ok (numberFrom ⟨2⟩ [tickSaved])] := by
    decide +kernel
  rcases Option.map_eq_some_iff.mp hanswers with ⟨⟨answers, log⟩, hrun, heq⟩
  have hopen : new none = some (.ok (closed none)) := rfl
  have haccepts : Accepts answers := by
    change answers = _ at heq
    rw [heq]
    intro answer hmem
    rcases List.mem_cons.mp hmem with hfirst | hsecond
    · exact ⟨_, hfirst⟩
    · exact ⟨_, List.mem_singleton.mp hsecond⟩
  have hfinite : forall c : AppendCall, c ∈ savedTwice -> AllFinite c.events := by
    intro c hmem
    have hcheck : savedTwice.all (fun c => allFinite c.events) = true := by decide
    exact allFinite_iff.mp (List.all_eq_true.mp hcheck c hmem)
  rcases (appends_readBack hopen rfl hrun haccepts).mpr hfinite with
    ⟨reopened, hnew, hsame, hread⟩
  exact ⟨answers, log, reopened, hrun, hnew, hsame, hread⟩

/-- Both appends are acknowledged, and opening the log again empties the file. -/
theorem appends_unread :
    letI := ieeeCrc32
    letI := publishedBatches [numberFrom ⟨1⟩ [weightChanged], numberFrom ⟨2⟩ [tickSaved]]
    ((runCalls [.append weightChanged, .append tickSaved] (closed none)).bind
        fun (answers, log) => (new log.file).map fun result =>
          (answers, result.bind fun reopened => .ok reopened.file,
            result.bind fun reopened => reopened.readAllValid)) =
      some
        ([.ok (numberFrom ⟨1⟩ [weightChanged]), .ok (numberFrom ⟨2⟩ [tickSaved])],
          .ok (some []), .ok []) := by
  decide +kernel

end FileEventLog

end Seej
