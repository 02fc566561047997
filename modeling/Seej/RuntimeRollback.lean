import Mathlib.Data.List.Nodup
import Seej.RecoveryComplete
import Seej.Rng
import Seej.RuntimeRun
import Seej.WalRollback

/-!
# Commands that are rolled back

The runtime rolls back a command whose append failed, in memory only.  As long as
no write completes the record of such a command, the log never returns an event
of it, and its identifiers are given to nobody twice.
-/

namespace Seej

open Foundation

theorem NumberedFrom.nodup {events : List SimEvent} (h : NumberedFrom ⟨1⟩ events)
    (hlen : events.length + 1 < 2 ^ 64) : (events.map SimEvent.eventId).Nodup := by
  have hone : ((⟨1⟩ : EventId)).val.toNat = 1 := rfl
  have hnumbers := h.toNat_eq (by rw [hone]; omega)
  have hnodup : (events.map (fun event => event.eventId.val.toNat)).Nodup := by
    rw [hnumbers]
    exact List.nodup_range'
  apply List.Nodup.of_map (fun id : EventId => id.val.toNat)
  rw [List.map_map]
  exact hnodup

namespace PersistentSimulation

variable {R C S : Type} [IRng R] [ISimClock C] [IWorldStore S] [SnapshotJson] [Crc32]
  [BatchJson]

/-- A save that gets as far as the log flushes it. -/
def savesSafely (ps : PersistentSimulation R C FileEventLog S) (io : SyncIo) : Bool :=
  match ps.prepareSave with
  | .error _ => true
  | .ok _ => ps.eventLog.flushesSafely io.flush

/-- No write of the step completes the record of an append that failed. -/
def proceedsSafely (ps : PersistentSimulation R C FileEventLog S) : RuntimeInput R C -> Bool
  | .command cmd records =>
      match ps.checkCommand cmd, ps.sim.processCommand cmd with
      | .ok (), some (.ok events, _) => (ps.eventLog.withRecords records).appendsSafely events
      | _, _ => true
  | .save io => ps.savesSafely io
  | .load _ => true
  | .restart ending _ _ => ps.eventLog.endsSafely ending
  | .dieInSave io last ending _ _ =>
      ps.savesSafely io && ((ps.withSyncs [io]).saveUntil last).eventLog.endsSafely ending

/-- The log of a runtime whose accepted events are `accepted`. -/
def Listing (accepted : List SimEvent) (ps : PersistentSimulation R C FileEventLog S) : Prop :=
  exists (frames : List WalFrame) (tail : Bytes),
    Retains ps.eventLog frames tail ∧ (framesEvents frames).Sublist accepted

namespace Listing

variable {accepted : List SimEvent} {ps next : PersistentSimulation R C FileEventLog S}

omit [IRng R] [ISimClock C] [IWorldStore S] [SnapshotJson] in
theorem withIo (h : Listing accepted ps) {io : WalIo}
    (hlog : next.eventLog = { ps.eventLog with io := io }) : Listing accepted next := by
  rcases h with ⟨frames, tail, hretains, hsublist⟩
  refine ⟨frames, tail, ?_, hsublist⟩
  rw [hlog]
  exact hretains.withIo io

omit [IRng R] [ISimClock C] [IWorldStore S] [SnapshotJson] in
theorem restarted (h : Listing accepted ps) {ending : FileEventLog.Ending} {rng : R} {clock : C}
    (hsafe : ps.eventLog.endsSafely ending = true)
    (hnext : ps.restarted ending rng clock = some next) : Listing accepted next := by
  rcases h with ⟨frames, tail, hretains, hsublist⟩
  rcases hretains.reopen hsafe with ⟨reopened, hnew, hholds⟩
  unfold PersistentSimulation.restarted at hnext
  rw [hnew] at hnext
  cases hnext
  exact ⟨frames, [], Retains.of_holds hholds, hsublist⟩

omit [IRng R] [ISimClock C] in
theorem committed (h : Listing accepted ps) {io : SyncIo} {world : World} {snapshot : Bytes}
    (hprepare : (ps.withSyncs [io]).prepareSave = .ok (world, snapshot))
    (hsafe : ps.savesSafely io = true)
    (hcommitted : Committed (ps.withSyncs [io]) world snapshot next.eventLog next.store) :
    Listing accepted next := by
  rcases h with ⟨frames, tail, hretains, hsublist⟩
  have hprepare' : ps.prepareSave = .ok (world, snapshot) := hprepare
  have hflush : ps.eventLog.flushesSafely io.flush = true := by
    unfold savesSafely at hsafe
    rw [hprepare'] at hsafe
    exact hsafe
  have hwith : Retains (ps.eventLog.withSyncs [io]) frames tail := hretains.withIo _
  rcases hwith.sync hflush with ⟨tail', hafter⟩
  refine ⟨frames, tail', ?_, hsublist⟩
  rw [hcommitted.eventLog_eq]
  exact hafter

theorem serve [BatchJson.Lossless] {input : RuntimeInput R C} {answer : RuntimeAnswer}
    (h : Listing accepted ps) (hsafe : ps.proceedsSafely input = true)
    (hstep : ps.serve input = some (answer, next)) :
    Listing (accepted ++ answer.events) next := by
  cases serve_eq_some.mp hstep with
  | @command cmd records result _ hprocess =>
      rcases h with ⟨frames, tail, hretains, hsublist⟩
      have hwith : Retains (ps.eventLog.withRecords records) frames tail := hretains.withIo _
      have hkept (events : List SimEvent) (hlog : next.eventLog = ps.eventLog.withRecords records) :
          Listing (accepted ++ events) next :=
        ⟨frames, tail, by rw [hlog]; exact hwith,
          hsublist.trans (List.sublist_append_left _ _)⟩
      cases processCommand_eq_some.mp hprocess with
      | refused _ => exact hkept _ rfl
      | rejected _ _ => exact hkept _ rfl
      | @committed events persisted sim eventLog hcheck hsim happend =>
          have hcheck' : ps.checkCommand cmd = .ok () := hcheck
          have hsim' : ps.sim.processCommand cmd = some (.ok events, sim) := hsim
          simp only [proceedsSafely, hcheck', hsim'] at hsafe
          have hround := (Simulation.processCommand_ok hsim).roundTrips
            ⟨(ps.eventLog.withRecords records).nextEventId⟩
          rcases hwith.appendBatch happend hsafe hround with
            ⟨frames', tail', more, hafter, hmore, hacked⟩
          refine ⟨frames', tail', hafter, ?_⟩
          rw [hmore]
          rw [acknowledged_ok] at hacked
          exact hsublist.append hacked
      | @rolledBack events e sim eventLog hcheck hsim happend =>
          have hcheck' : ps.checkCommand cmd = .ok () := hcheck
          have hsim' : ps.sim.processCommand cmd = some (.ok events, sim) := hsim
          simp only [proceedsSafely, hcheck', hsim'] at hsafe
          have hround := (Simulation.processCommand_ok hsim).roundTrips
            ⟨(ps.eventLog.withRecords records).nextEventId⟩
          rcases hwith.appendBatch happend hsafe hround with
            ⟨frames', tail', more, hafter, hmore, hacked⟩
          refine ⟨frames', tail', hafter, ?_⟩
          rw [hmore]
          rw [acknowledged_error] at hacked
          exact hsublist.append hacked
  | @save io result _ hsave =>
      have hnone : (RuntimeAnswer.save result).events = [] := rfl
      rw [hnone, List.append_nil]
      cases result with
      | error e =>
          rcases saveWorld_error hsave with hsame | ⟨_, _, hprepare, _, hcommitted⟩
          · exact h.withIo (by rw [hsame]; rfl)
          · exact h.committed hprepare hsafe hcommitted
      | ok _ =>
          rcases saveWorld_ok hsave with ⟨world, snapshot, hprepare, hcommit⟩
          exact h.committed hprepare hsafe (commitSave_ok_committed hcommit)
  | @load worldId result _ hload =>
      have hnone : (RuntimeAnswer.load result).events = [] := rfl
      rw [hnone, List.append_nil]
      rcases loadWorld_eq_some hload with ⟨_, _, hsame⟩ | ⟨_, _, _, _, hnext⟩
      · rw [hsame]
        exact h
      · rw [hnext]
        exact h
  | restart hrestart =>
      have hnone : RuntimeAnswer.started.events = [] := rfl
      rw [hnone, List.append_nil]
      exact h.restarted hsafe hrestart
  | @dieInSave io last _ _ _ _ hrestart =>
      have hnone : RuntimeAnswer.started.events = [] := rfl
      rw [hnone, List.append_nil]
      simp only [proceedsSafely, Bool.and_eq_true] at hsafe
      have hdead : Listing accepted ((ps.withSyncs [io]).saveUntil last) := by
        rcases saveUntil_cases last (ps.withSyncs [io]) with
          hsame | ⟨_, _, hprepare, hcommitted⟩
        · exact h.withIo (by rw [hsame]; rfl)
        · exact h.committed hprepare hsafe.left hcommitted
      exact hdead.restarted hsafe.right hrestart

end Listing

/-- Whatever fails on the way, as long as no write completes the record of a failed
append, the log lists events of accepted commands only, each once, and lists the
same ones to the next process. -/
theorem rolledBack_unlisted [BatchJson.Lossless] {rng : R} {clock : C} {store : S}
    {inputs : List (RuntimeInput R C)} {answers : List RuntimeAnswer}
    {ps : PersistentSimulation R C FileEventLog S}
    (hrun : run serve inputs (PersistentSimulation.new rng clock (FileEventLog.closed none) store) =
      some (answers, ps))
    (hsafe : Along serve (fun ps input => ps.proceedsSafely input = true) inputs
      (PersistentSimulation.new rng clock (FileEventLog.closed none) store)) :
    exists events : List SimEvent,
      ps.eventLog.readAllValid = .ok events ∧ events.Sublist (acceptedEvents answers) ∧
        (events.map SimEvent.eventId).Nodup ∧
        forall ending : FileEventLog.Ending, ps.eventLog.endsSafely ending = true ->
          exists reopened : FileEventLog,
            FileEventLog.new (ps.eventLog.left ending) = some (.ok reopened) ∧
              reopened.readAllValid = .ok events := by
  have hstart : Listing (acceptedEvents [])
      (PersistentSimulation.new rng clock (FileEventLog.closed none) store) :=
    ⟨[], [], Retains.of_holds (Holds.empty {}), List.Sublist.refl _⟩
  have hstep : forall (before : List RuntimeAnswer)
      (state next : PersistentSimulation R C FileEventLog S) (input : RuntimeInput R C)
      (answer : RuntimeAnswer), Listing (acceptedEvents before) state ->
      state.proceedsSafely input = true -> state.serve input = some (answer, next) ->
      Listing (acceptedEvents (before ++ [answer])) next := by
    intro before state next input answer hbefore hsafe hserve
    rw [acceptedEvents_append, acceptedEvents_single]
    exact hbefore.serve hsafe hserve
  have hend := run_along (P := fun answers ps => Listing (acceptedEvents answers) ps)
    hstep hrun hsafe hstart
  rcases hend with ⟨frames, tail, hretains, hsublist⟩
  refine ⟨framesEvents frames, hretains.readAllValid, hsublist,
    hretains.numbered.nodup hretains.length_lt, ?_⟩
  intro ending hending
  rcases hretains.reopen hending with ⟨reopened, hnew, hholds⟩
  exact ⟨reopened, hnew, hholds.readAllEvents⟩

end PersistentSimulation

/-!
## A tick that fails
-/

theorem knownBatches_lossless {known : List (List SimEvent)}
    (h : forall a, a ∈ known -> forall b, b ∈ known ->
      Json.batch a = Json.batch b -> a = b) : @BatchJson.Lossless (knownBatches known) :=
  @BatchJson.Lossless.mk (knownBatches known) fun events bytes _ hwrite =>
    knownBatches_roundTrips h events bytes hwrite

namespace PersistentSimulation

def fresh : PersistentSimulation Pcg32Rng UnlimitedClock FileEventLog MockWorldStore :=
  PersistentSimulation.new Pcg32Rng.uninitialized UnlimitedClock.new (FileEventLog.closed none)
    MockWorldStore.new

def createVale : SimCommand :=
  .createWorld ⟨"Vale", ⟨7⟩⟩

def valeGenesis : List SimEvent :=
  numberFrom ⟨1⟩ (Simulation.genesisEvents ⟨"Vale", ⟨7⟩⟩)

def valeTick : SimEvent :=
  ⟨⟨3⟩, ⟨1⟩, .tickProcessed ⟨1⟩ ⟨1⟩ 0 (some 7)⟩

def stoppedTick : List (RuntimeInput Pcg32Rng UnlimitedClock) :=
  [.command createVale [], .save {},
    .command .tick
      [{ append := { flush := some ⟨5, "No space left on device (os error 28)"⟩ } }],
    .restart (.crash 0) Pcg32Rng.uninitialized UnlimitedClock.new, .load "world_7",
    .command .tick []]

theorem rolledBack_unlisted_stoppedTick :
    letI := ieeeCrc32
    letI := knownSnapshots [valeSnapshot]
    letI := knownBatches [valeGenesis, [valeTick]]
    exists (answers : List RuntimeAnswer)
        (ps : PersistentSimulation Pcg32Rng UnlimitedClock FileEventLog MockWorldStore)
        (events : List SimEvent),
      run serve stoppedTick fresh = some (answers, ps) ∧
        acceptedEvents answers = valeGenesis ++ [valeTick] ∧
        ps.eventLog.readAllValid = .ok events ∧ events.Sublist (valeGenesis ++ [valeTick]) ∧
        (events.map SimEvent.eventId).Nodup := by
  let _ := ieeeCrc32
  let _ := knownSnapshots [valeSnapshot]
  let _ := knownBatches [valeGenesis, [valeTick]]
  have _ : BatchJson.Lossless := knownBatches_lossless (by decide +kernel)
  have hanswers : (run serve stoppedTick fresh).map (fun result => acceptedEvents result.1) =
      some (valeGenesis ++ [valeTick]) := by
    decide +kernel
  have hcheck : checkAlong serve (fun ps input => ps.proceedsSafely input) stoppedTick fresh =
      true := by
    decide +kernel
  rcases Option.map_eq_some_iff.mp hanswers with ⟨⟨answers, ps⟩, hrun, haccepted⟩
  rcases rolledBack_unlisted hrun (Along.of_check (fun _ _ h => h) hcheck) with
    ⟨events, hread, hsublist, hnodup, _⟩
  change acceptedEvents answers = _ at haccepted
  rw [haccepted] at hsublist
  exact ⟨answers, ps, events, hrun, haccepted, hread, hsublist, hnodup⟩

/-- The record of the first tick is in the file when `sync_all` fails. -/
def unsyncedTick : List (RuntimeInput Pcg32Rng UnlimitedClock) :=
  [.command createVale [],
    .command .tick [{ append := { sync := some "Input/output error (os error 5)" } }],
    .command .tick []]

/-- The failed tick is listed, and the next one has the same identifier. -/
theorem rolledBack_listed :
    letI := ieeeCrc32
    letI := knownSnapshots []
    letI := knownBatches [valeGenesis, [valeTick]]
    ((run serve unsyncedTick fresh).map fun (answers, ps) =>
      (answers, ps.eventLog.readAllValid)) =
      some
        ([.command (.ok valeGenesis),
          .command (.error (.storageError
            "Persistence error: Sync failed: Input/output error (os error 5)")),
          .command (.ok [valeTick])], .ok (valeGenesis ++ [valeTick, valeTick])) := by
  decide +kernel

end PersistentSimulation

end Seej
