import Seej.Checkpoints
import Seej.WalRollback

/-!
# Durable runs

Runs in which the appends meet no fault.  Saves may fail or die at each of their
steps.  Next to the runtime runs a history variable, the world that the accepted
commands have reached; the invariant relates it to the log, the store and the
engine, whichever of them the process still has.
-/

namespace Seej

open Foundation

/-!
## The log between commands
-/

section Log

variable [Crc32] [BatchJson] {log : FileEventLog} {frames : List WalFrame}

theorem Holds.sync (h : Holds log frames) : Holds log.sync.2 frames := by
  have hbuffer : log.stream.buffer = [] := h.buffer
  rcases FileEventLog.sync_flushes log with ⟨synced, hstream, hsynced, hcounted⟩
  rw [BufferedFile.flush_of_buffer_eq_nil hbuffer] at hstream hsynced
  constructor
  case records => exact h.records
  case file => exact (congrArg BufferedFile.file hstream).trans h.file
  case synced =>
    have hafter : log.sync.2.synced = synced := congrArg BufferedFile.synced hstream
    rw [hafter]
    rcases hsynced with hsame | hall
    · exact hsame.trans h.synced
    · exact hall.trans (congrArg List.length h.file)
  case buffer => exact (congrArg BufferedFile.buffer hstream).trans h.buffer
  case readError => exact hcounted.readError.trans h.readError
  case counts => exact hcounted.counts h.counts

theorem Holds.lists (h : Holds log frames) : Lists log (framesEvents frames) :=
  ⟨h.readAllEvents, h.counts.lastEventId_eq, h.counts.numbered, h.counts.length_lt⟩

end Log

/-!
## Worlds up to the cursor
-/

def SameUpToCursor (left right : World) : Prop :=
  exists (snapshotTick : Tick) (lastEventId : EventId),
    right = left.withCursor snapshotTick lastEventId

namespace SameUpToCursor

variable {left right : World}

theorem refl (world : World) : SameUpToCursor world world :=
  ⟨_, _, (World.withCursor_self world).symm⟩

theorem symm (h : SameUpToCursor left right) : SameUpToCursor right left := by
  rcases h with ⟨s, i, hright⟩
  rw [hright]
  exact ⟨_, _, (World.withCursor_self left).symm⟩

theorem withCursor (world : World) (s : Tick) (i : EventId) :
    SameUpToCursor world (world.withCursor s i) :=
  ⟨s, i, rfl⟩

theorem integrity (h : SameUpToCursor left right) (hleft : WorldIntegrity left) :
    WorldIntegrity right := by
  rcases h with ⟨s, i, hright⟩
  rw [hright]
  exact hleft.withCursor s i

/-- The same events lead from worlds that differ in the cursor to worlds that
differ in the cursor. -/
theorem replays (h : SameUpToCursor left right) {events : List SimEvent} {after : World}
    (hreplays : Replays right events after) :
    exists after' : World, Replays left events after' ∧ SameUpToCursor after' after := by
  rcases h.symm with ⟨s, i, hleft⟩
  rw [hleft]
  exact ⟨_, hreplays.withCursor s i, (withCursor after s i).symm⟩

end SameUpToCursor

/-!
## Sessions
-/

/-- A runtime and the world that the accepted commands have reached, which no
process needs to have in memory. -/
structure Session (R C S : Type) where
  runtime : PersistentSimulation R C FileEventLog S
  reached : Option World

namespace Session

section Serve

variable {R C S : Type} [IRng R] [ISimClock C] [IWorldStore S] [SnapshotJson] [Crc32]
  [BatchJson]

/-- The world reached after an answer. -/
def reach (reached : Option World) (runtime : PersistentSimulation R C FileEventLog S) :
    RuntimeAnswer -> Option World
  | .command (.ok _) => runtime.sim.world
  | _ => reached

def serve (session : Session R C S) (input : RuntimeInput R C) :
    Option (RuntimeAnswer × Session R C S) :=
  (session.runtime.serve input).map fun (answer, runtime) =>
    (answer, { runtime := runtime, reached := reach session.reached runtime answer })

theorem served {session next : Session R C S} {input : RuntimeInput R C}
    {answer : RuntimeAnswer} (h : session.serve input = some (answer, next)) :
    exists runtime : PersistentSimulation R C FileEventLog S,
      session.runtime.Served input answer runtime ∧
        next = { runtime := runtime, reached := reach session.reached runtime answer } := by
  rcases Option.map_eq_some_iff.mp h with ⟨⟨answer, runtime⟩, hstep, heq⟩
  cases heq
  exact ⟨runtime, PersistentSimulation.serve_eq_some.mp hstep, rfl⟩

def start (rng : R) (clock : C) (store : S) : Session R C S :=
  { runtime := PersistentSimulation.new rng clock (FileEventLog.closed none) store
    reached := none }

end Serve

end Session

/-- No step of an append fails. -/
def RuntimeInput.Quiet {R C : Type} : RuntimeInput R C -> Prop
  | .command _ records => records = []
  | _ => True

instance {R C : Type} (input : RuntimeInput R C) : Decidable input.Quiet :=
  match input with
  | .command _ records => decidable_of_iff (records.isEmpty = true) List.isEmpty_iff
  | .save _ => isTrue trivial
  | .load _ => isTrue trivial
  | .restart _ _ _ => isTrue trivial
  | .dieInSave _ _ _ _ _ => isTrue trivial

section Durable

variable {R C S : Type} [IRng R] [ISimClock C] [IWorldStore S] [SnapshotJson] [Crc32]
  [BatchJson]

/-!
## Commands on a quiet log
-/

/-- What is left of a command: nothing is changed but the log, which lists the same
events, or the events of the command are appended. -/
inductive QuietCommand (ps : PersistentSimulation R C FileEventLog S) (frames : List WalFrame)
    (c : SimCommand) :
    ApiResult (List SimEvent) -> PersistentSimulation R C FileEventLog S -> Prop where
  | failed {e : ApiError} {sim : Simulation R C} {log : FileEventLog} {frames' : List WalFrame}
      (hworld : sim.world = ps.sim.world) (hlog : Holds log frames')
      (hevents : framesEvents frames' = framesEvents frames) :
      QuietCommand ps frames c (.error e) { ps with sim := sim, eventLog := log }
  | appended {events : List SimEvent} {sim : Simulation R C} {log : FileEventLog}
      {more : List WalFrame} (hcheck : ps.checkCommand c = .ok ())
      (hloaded : (exists created : CreateWorldCmd, c = .createWorld created) ∨
        exists world : World, ps.sim.world = some world)
      (haccepted : Simulation.Accepted ps.sim c events sim) (hlog : Holds log (frames ++ more))
      (hfacts : (framesEvents more).map SimEvent.fact = events.map SimEvent.fact) :
      QuietCommand ps frames c (.ok (framesEvents more)) { ps with sim := sim, eventLog := log }

omit [SnapshotJson] in
theorem processCommand_quiet [BatchJson.Lossless]
    {ps next : PersistentSimulation R C FileEventLog S} {frames : List WalFrame}
    {c : SimCommand} {result : ApiResult (List SimEvent)} (h : Holds ps.eventLog frames)
    (hprocess : (ps.withRecords []).processCommand c = some (result, next)) :
    QuietCommand ps frames c result next := by
  have hwith : Holds (ps.withRecords []).eventLog frames := h.withIo _
  cases PersistentSimulation.processCommand_eq_some.mp hprocess with
  | refused _ => exact QuietCommand.failed rfl hwith rfl
  | @rejected e sim _ hsim =>
      exact QuietCommand.failed (Simulation.processCommand_error hsim).world hwith rfl
  | @rolledBack events e sim eventLog _ hsim happend =>
      have hround := (Simulation.processCommand_ok hsim).roundTrips
        ⟨(ps.withRecords []).eventLog.nextEventId⟩
      rcases hwith.call (c := .appendBatch events) rfl happend hround with
        ⟨more, hholds, hmore, _⟩
      refine QuietCommand.failed rfl hholds ?_
      rw [framesEvents_append, hmore]
      exact List.append_nil _
  | @committed events persisted sim eventLog hcheck hsim happend =>
      have haccepted : Simulation.Accepted ps.sim c events sim :=
        Simulation.processCommand_ok hsim
      have hround := haccepted.roundTrips ⟨(ps.withRecords []).eventLog.nextEventId⟩
      rcases hwith.call (c := .appendBatch events) rfl happend hround with
        ⟨more, hholds, hmore, _⟩
      rw [acknowledged_ok] at hmore
      have hfacts : (framesEvents more).map SimEvent.fact = events.map SimEvent.fact := by
        rw [hmore, call_numbered (c := .appendBatch events) happend]
        exact numberFrom_facts _ _
      rw [← hmore]
      exact QuietCommand.appended hcheck (Simulation.accepted_loaded hsim) haccepted hholds hfacts

omit [IRng R] [ISimClock C] [SnapshotJson] in
theorem isEmpty_of_checkCreateWorld {ps : PersistentSimulation R C FileEventLog S}
    {created : CreateWorldCmd} {journal : List SimEvent}
    (h : ps.checkCommand (.createWorld created) = .ok ())
    (hcounts : Counts ps.eventLog journal) : journal = [] := by
  unfold PersistentSimulation.checkCommand PersistentSimulation.checkCreateWorld at h
  cases hempty : IEventLog.isEmpty ps.eventLog with
  | true =>
      have htotal : ps.eventLog.totalEvents = 0 := of_decide_eq_true hempty
      rw [hcounts.totalEvents] at htotal
      exact List.length_eq_zero_iff.mp htotal
  | false =>
      rw [hempty] at h
      cases hstatus : IWorldStore.storageStatus ps.store (worldIdOfSeed created.seed) with
      | error e => simp [hstatus] at h
      | ok status => cases status <;> simp [hstatus] at h

/-!
## The invariant
-/

/-- The journal leads from the first world to the world that was reached, the store
has a checkpoint on the way, and the engine has the world or none. -/
structure Born (cmd : CreateWorldCmd) (frames : List WalFrame) (world : World)
    (session : Session R C S) : Prop where
  log : Holds session.runtime.eventLog frames
  nonempty : framesEvents frames ≠ []
  reaches : Reaches (World.new cmd.name cmd.seed) (framesEvents frames)
    (framesEvents frames).length world
  stored : Stored session.runtime.store (World.new cmd.name cmd.seed) (framesEvents frames)
  reached : exists last : World, session.reached = some last ∧ SameUpToCursor world last
  loaded : forall last : World, session.runtime.sim.world = some last ->
    SameUpToCursor world last ∧
      last.worldMeta.lastEventId.val.toNat ≤ (framesEvents frames).length

/-- No world was created yet. -/
structure Unborn (frames : List WalFrame) (session : Session R C S) : Prop where
  log : Holds session.runtime.eventLog frames
  empty : framesEvents frames = []
  store : EmptyStore session.runtime.store
  loaded : session.runtime.sim.world = none
  reached : session.reached = none

inductive Durable (session : Session R C S) : Prop where
  | unborn {frames : List WalFrame} (h : Unborn frames session)
  | born {cmd : CreateWorldCmd} {frames : List WalFrame} {world : World}
      (h : Born cmd frames world session)

namespace Born

variable {cmd : CreateWorldCmd} {frames : List WalFrame} {world : World}
  {session next : Session R C S}

omit [IRng R] [ISimClock C] in
theorem keep (h : Born cmd frames world session) {frames' : List WalFrame}
    (hlog : Holds next.runtime.eventLog frames')
    (hevents : framesEvents frames' = framesEvents frames)
    (hstored : Stored next.runtime.store (World.new cmd.name cmd.seed) (framesEvents frames))
    (hreached : next.reached = session.reached)
    (hloaded : forall last : World, next.runtime.sim.world = some last ->
      SameUpToCursor world last ∧
        last.worldMeta.lastEventId.val.toNat ≤ (framesEvents frames).length) :
    Born cmd frames' world next := by
  rw [← hevents] at hstored hloaded
  refine ⟨hlog, ?_, ?_, hstored, ?_, hloaded⟩
  · rw [hevents]
    exact h.nonempty
  · rw [hevents]
    exact h.reaches
  · rw [hreached]
    exact h.reached

omit [IRng R] [ISimClock C] in
theorem withReached (h : Born cmd frames world session) {reached : Option World}
    (hreached : exists last : World, reached = some last ∧ SameUpToCursor world last) :
    Born cmd frames world { runtime := session.runtime, reached := reached } :=
  ⟨h.log, h.nonempty, h.reaches, h.stored, hreached, h.loaded⟩

omit [IRng R] [ISimClock C] in
/-- Recovery gives the world that was reached, once there is a snapshot, from every
log of the journal. -/
theorem recovers (h : Born cmd frames world session) {worldId : String} {bytes : Bytes}
    (hload : IWorldStore.loadSnapshot session.runtime.store worldId = .ok bytes) :
    exists (snapshotTick : Tick) (n : Nat), n ≤ (framesEvents frames).length ∧
      forall eventLog : FileEventLog, Lists eventLog (framesEvents frames) ->
        loadRecoveredWorld session.runtime.store eventLog worldId =
          some (.ok (world.withCursor snapshotTick ⟨UInt64.ofNat n⟩,
            (framesEvents frames).drop n)) := by
  rw [h.stored.other worldId bytes hload]
  cases h.stored with
  | nothing hempty => exact absurd hload (hempty.snapshot worldId bytes)
  | @saved n snapshot hsaved =>
      refine ⟨snapshot.currentTick, n, hsaved.reaches.le, ?_⟩
      intro eventLog hlog
      exact hsaved.recovers (validateWorldIdResult_worldIdOfSeed cmd.seed) hlog h.reaches

/-!
### Commands
-/

omit [IWorldStore S] [SnapshotJson] [Crc32] [BatchJson] in
/-- What an accepted command on a loaded world adds to the journal. -/
theorem advance {sim after : Simulation R C} {loaded : World} {c : SimCommand}
    {events persisted : List SimEvent} {journal : List SimEvent} {first : World}
    (hreaches : Reaches first journal journal.length world)
    (hloaded : sim.world = some loaded) (hsame : SameUpToCursor world loaded)
    (haccepted : Simulation.Accepted sim c events after)
    (hfacts : persisted.map SimEvent.fact = events.map SimEvent.fact) :
    exists (world' last : World), after.world = some last ∧ SameUpToCursor world' last ∧
      last.worldMeta.lastEventId = loaded.worldMeta.lastEventId ∧
      Reaches first (journal ++ persisted) (journal ++ persisted).length world' := by
  rcases haccepted.advances hloaded (hsame.integrity hreaches.integrity) with
    ⟨last, hlast, hadvance⟩
  rcases hsame.replays hadvance.replays with ⟨world', hreplays, hsame'⟩
  refine ⟨world', last, hlast, hsame', ?_, ?_⟩
  · exact (congrArg WorldMeta.lastEventId hadvance.replays.continues.identity :)
  · refine ⟨Nat.le_refl _, ?_, hsame'.symm.integrity hadvance.integrity⟩
    have hbefore := hreaches.replays
    rw [List.take_length] at hbefore ⊢
    exact hbefore.append (hreplays.congr hfacts.symm)

theorem extend (h : Born cmd frames world session) {c : SimCommand}
    {events : List SimEvent} {loaded : World} {sim : Simulation R C} {log : FileEventLog}
    {more : List WalFrame} (hworld : session.runtime.sim.world = some loaded)
    (haccepted : Simulation.Accepted session.runtime.sim c events sim)
    (hlog : Holds log (frames ++ more))
    (hfacts : (framesEvents more).map SimEvent.fact = events.map SimEvent.fact) :
    exists world' : World, Born cmd (frames ++ more) world'
      { runtime := { session.runtime with sim := sim, eventLog := log }
        reached := sim.world } := by
  rcases h.loaded loaded hworld with ⟨hsame, hcursor⟩
  rcases advance h.reaches hworld hsame haccepted hfacts with
    ⟨world', last, hlast, hsame', hid, hreaches⟩
  have hjournal : framesEvents (frames ++ more) = framesEvents frames ++ framesEvents more :=
    framesEvents_append _ _
  refine ⟨world', ?_⟩
  constructor
  case log => exact hlog
  case nonempty =>
    rw [hjournal]
    exact fun hnil => h.nonempty (List.append_eq_nil_iff.mp hnil).left
  case reaches =>
    rw [hjournal]
    exact hreaches
  case stored =>
    rw [hjournal]
    exact h.stored.append _
  case reached => exact ⟨last, hlast, hsame'⟩
  case loaded =>
    intro final hfinal
    cases hlast.symm.trans hfinal
    rw [hid, hjournal, List.length_append]
    exact ⟨hsame', Nat.le_add_right_of_le hcursor⟩

/-- A command on a world that was created leaves the journal, or is accepted by the
engine that has the world and extends the journal. -/
theorem command [BatchJson.Lossless] (h : Born cmd frames world session)
    {c : SimCommand} {result : ApiResult (List SimEvent)}
    {runtime : PersistentSimulation R C FileEventLog S}
    (hprocess : (session.runtime.withRecords []).processCommand c = some (result, runtime)) :
    exists (frames' : List WalFrame) (world' : World),
      Born cmd frames' world'
        { runtime := runtime
          reached := Session.reach session.reached runtime (.command result) } ∧
      ((framesEvents frames' = framesEvents frames ∧ world' = world) ∨
        exists (loaded : World) (events persisted : List SimEvent),
          session.runtime.sim.world = some loaded ∧
          Simulation.Accepted session.runtime.sim c events runtime.sim ∧
          persisted.map SimEvent.fact = events.map SimEvent.fact ∧
          framesEvents frames' = framesEvents frames ++ persisted) := by
  cases processCommand_quiet h.log hprocess with
  | @failed _ sim _ frames' hworld hlog hevents =>
      refine ⟨frames', world, h.keep hlog hevents h.stored rfl ?_, Or.inl ⟨hevents, rfl⟩⟩
      intro last hlast
      exact h.loaded last (hworld ▸ hlast)
  | @appended events sim log more hcheck hloaded haccepted hlog hfacts =>
      rcases hloaded with ⟨created, hcreate⟩ | ⟨loaded, hloaded⟩
      · subst hcreate
        exact absurd (isEmpty_of_checkCreateWorld hcheck h.log.counts) h.nonempty
      · rcases h.extend hloaded haccepted hlog hfacts with ⟨world', hborn⟩
        exact ⟨frames ++ more, world', hborn, Or.inr ⟨loaded, events, framesEvents more,
          hloaded, haccepted, hfacts, framesEvents_append _ _⟩⟩

/-!
### Saves and loads
-/

omit [IRng R] [ISimClock C] in
theorem prepared (h : Born cmd frames world session) {io : SyncIo} {saved : World}
    {snapshot : Bytes}
    (hprepare : (session.runtime.withSyncs [io]).prepareSave = .ok (saved, snapshot)) :
    saved = world.savedAt (framesEvents frames).length ∧ encodeWorld saved = .ok snapshot := by
  rcases PersistentSimulation.prepareSave_eq_ok.mp hprepare with
    ⟨loaded, hworld, _, hsaved, hencode⟩
  have hlists : Lists (session.runtime.withSyncs [io]).eventLog (framesEvents frames) :=
    (h.log.withIo _).lists
  rcases (h.loaded loaded hworld).left with ⟨s, i, hloaded⟩
  refine ⟨?_, hencode⟩
  rw [hsaved, hloaded]
  exact stampForSave_eq_savedAt h.reaches.integrity hlists.lastEventId

omit [IRng R] [ISimClock C] in
/-- However far the durable steps of a save get, they leave a checkpoint. -/
theorem committed [SnapshotJson.Lossless] [AtomicWorldStore S]
    (h : Born cmd frames world session) {io : SyncIo} {saved : World} {snapshot : Bytes}
    (hprepare : (session.runtime.withSyncs [io]).prepareSave = .ok (saved, snapshot))
    {log : FileEventLog} {store : S}
    (hcommitted : PersistentSimulation.Committed (session.runtime.withSyncs [io]) saved snapshot
      log store) :
    Holds log frames ∧ Stored store (World.new cmd.name cmd.seed) (framesEvents frames) := by
  have hwith : Holds (session.runtime.withSyncs [io]).eventLog frames := h.log.withIo _
  rcases h.prepared hprepare with ⟨hsaved, hencode⟩
  subst hsaved
  have hvalid := validateWorldIdResult_worldIdOfSeed cmd.seed
  have hid : (world.savedAt (framesEvents frames).length).id = _ := h.reaches.worldId
  constructor
  · rw [hcommitted.eventLog_eq]
    exact hwith.sync
  · cases hcommitted with
    | synced _ => exact h.stored
    | replaced _ hsnapshot =>
        rw [hid] at hsnapshot
        exact h.stored.replaced hvalid rfl h.reaches hencode hsnapshot
    | mirrored _ hsnapshot hmeta =>
        rw [hid] at hsnapshot
        have hnew := AtomicWorldStore.saveSnapshot_ok _ _ _ _ hsnapshot
        have hwritten := h.stored.written hvalid rfl h.reaches hencode hsnapshot hnew
        exact Stored.saved (hwritten.mirrored hmeta)

theorem save [SnapshotJson.Lossless] [AtomicWorldStore S] (h : Born cmd frames world session)
    {io : SyncIo} {result : ApiResult Unit} {runtime : PersistentSimulation R C FileEventLog S}
    (hsave : (session.runtime.withSyncs [io]).saveWorld = (result, runtime)) :
    Born cmd frames world { runtime := runtime, reached := session.reached } := by
  have hwith : Holds (session.runtime.withSyncs [io]).eventLog frames := h.log.withIo _
  cases result with
  | error e =>
      rcases PersistentSimulation.saveWorld_error hsave with
        hsame | ⟨_, _, hprepare, hsim, hcommitted⟩
      · rw [hsame]
        exact h.keep hwith rfl h.stored rfl h.loaded
      · rcases h.committed hprepare hcommitted with ⟨hlog, hstored⟩
        refine h.keep hlog rfl hstored rfl ?_
        rw [hsim]
        exact h.loaded
  | ok _ =>
      rcases PersistentSimulation.saveWorld_ok hsave with ⟨saved, snapshot, hprepare, hcommit⟩
      rcases PersistentSimulation.commitSave_ok hcommit with ⟨_, _, _, _, hsim⟩
      rcases h.committed hprepare (PersistentSimulation.commitSave_ok_committed hcommit) with
        ⟨hlog, hstored⟩
      refine h.keep hlog rfl hstored rfl ?_
      rw [hsim, (h.prepared hprepare).left]
      intro last hlast
      cases hlast
      refine ⟨SameUpToCursor.withCursor _ _ _, Nat.le_of_eq ?_⟩
      exact EventId.ofNat_toNat h.log.counts.length_lt

theorem load (h : Born cmd frames world session) {worldId : String}
    {result : ApiResult (List SimEvent)} {runtime : PersistentSimulation R C FileEventLog S}
    (hload : session.runtime.loadWorld worldId = some (result, runtime)) :
    Born cmd frames world { runtime := runtime, reached := session.reached } := by
  rcases PersistentSimulation.loadWorld_eq_some hload with
    ⟨_, _, hsame⟩ | ⟨found, replayed, hrecovered, _, hnext⟩
  · rw [hsame]
    exact h
  · rcases loadRecoveredWorld_eq_ok.mp hrecovered with ⟨_, hselect, _⟩
    rcases selectReplay_eq_ok.mp hselect with ⟨_, ⟨bytes, hsnapshot, _⟩, _⟩
    rcases h.recovers hsnapshot with ⟨s, n, hle, hexpected⟩
    have hfound : found = world.withCursor s ⟨UInt64.ofNat n⟩ := by
      rw [hexpected _ h.log.lists] at hrecovered
      simp only [Option.some.injEq, Except.ok.injEq, Prod.mk.injEq] at hrecovered
      exact hrecovered.left.symm
    rw [hnext]
    refine h.keep h.log rfl h.stored rfl ?_
    intro last hlast
    cases hlast
    rw [hfound]
    refine ⟨SameUpToCursor.withCursor _ _ _, ?_⟩
    have hlt := h.log.counts.length_lt
    have hnat : (⟨UInt64.ofNat n⟩ : EventId).val.toNat = n := EventId.ofNat_toNat (by omega)
    show (⟨UInt64.ofNat n⟩ : EventId).val.toNat ≤ _
    rw [hnat]
    exact hle

end Born

omit [ISimClock C] [IRng R] [SnapshotJson] [IWorldStore S] in
theorem restarted_holds {ps next : PersistentSimulation R C FileEventLog S}
    {frames : List WalFrame} {ending : FileEventLog.Ending} {rng : R} {clock : C}
    (h : Holds ps.eventLog frames) (hnext : ps.restarted ending rng clock = some next) :
    Holds next.eventLog frames ∧ next.store = ps.store ∧ next.sim.world = none := by
  rcases h.new_path (h.left_file ending) with ⟨reopened, hnew, hholds, _⟩
  unfold PersistentSimulation.restarted at hnext
  rw [hnew] at hnext
  cases hnext
  exact ⟨hholds, rfl, rfl⟩

omit [IRng R] [ISimClock C] in
theorem Born.restarted {cmd : CreateWorldCmd} {frames : List WalFrame} {world : World}
    {session : Session R C S} (h : Born cmd frames world session)
    {ps next : PersistentSimulation R C FileEventLog S} {ending : FileEventLog.Ending} {rng : R}
    {clock : C} (hlog : Holds ps.eventLog frames)
    (hstored : Stored ps.store (World.new cmd.name cmd.seed) (framesEvents frames))
    (hnext : ps.restarted ending rng clock = some next) :
    Born cmd frames world { runtime := next, reached := session.reached } := by
  rcases restarted_holds hlog hnext with ⟨hholds, hstore, hworld⟩
  refine h.keep hholds rfl ?_ rfl ?_
  · rw [hstore]
    exact hstored
  · intro last hlast
    rw [hworld] at hlast
    cases hlast

/-!
### Before the world
-/

namespace Unborn

variable {frames : List WalFrame} {session next : Session R C S}

omit [IRng R] [ISimClock C] [SnapshotJson] in
theorem keep (h : Unborn frames session) {frames' : List WalFrame}
    (hlog : Holds next.runtime.eventLog frames') (hevents : framesEvents frames' = [])
    (hstore : next.runtime.store = session.runtime.store)
    (hworld : next.runtime.sim.world = none) (hreached : next.reached = session.reached) :
    Unborn frames' next := by
  refine ⟨hlog, hevents, ?_, hworld, hreached.trans h.reached⟩
  rw [hstore]
  exact h.store

omit [IRng R] [ISimClock C] in
theorem create (h : Unborn frames session) {created : CreateWorldCmd} {log : FileEventLog}
    {more : List WalFrame} {sim : Simulation R C} (hlog : Holds log (frames ++ more))
    (hsim : sim.world = some (World.new created.name created.seed))
    (hfacts : (framesEvents more).map SimEvent.fact =
      (Simulation.genesisEvents created).map SimEvent.fact) :
    Born created (frames ++ more) (World.new created.name created.seed)
      { runtime := { session.runtime with sim := sim, eventLog := log }
        reached := sim.world } := by
  have hjournal : framesEvents (frames ++ more) = framesEvents more := by
    rw [framesEvents_append, h.empty]
    rfl
  have hadvance := Simulation.genesis_advances created
  constructor
  case log => exact hlog
  case nonempty =>
    rw [hjournal]
    intro hnil
    rw [hnil] at hfacts
    cases hfacts
  case reaches =>
    rw [hjournal]
    refine ⟨Nat.le_refl _, ?_, hadvance.integrity⟩
    rw [List.take_length]
    exact hadvance.replays.congr hfacts.symm
  case stored => exact Stored.nothing h.store
  case reached => exact ⟨_, hsim, SameUpToCursor.refl _⟩
  case loaded =>
    intro last hlast
    cases hsim.symm.trans hlast
    exact ⟨SameUpToCursor.refl _, Nat.zero_le _⟩

theorem command [BatchJson.Lossless] (h : Unborn frames session) {c : SimCommand}
    {result : ApiResult (List SimEvent)} {runtime : PersistentSimulation R C FileEventLog S}
    (hprocess : (session.runtime.withRecords []).processCommand c = some (result, runtime)) :
    (exists (e : ApiError) (frames' : List WalFrame), result = .error e ∧
      Unborn frames' { runtime := runtime, reached := session.reached }) ∨
    exists (created : CreateWorldCmd) (frames' : List WalFrame), c = .createWorld created ∧
      (framesEvents frames').map SimEvent.fact =
        (Simulation.genesisEvents created).map SimEvent.fact ∧
      Born created frames' (World.new created.name created.seed)
        { runtime := runtime
          reached := Session.reach session.reached runtime (.command result) } := by
  cases processCommand_quiet h.log hprocess with
  | @failed e sim _ frames' hworld hlog hevents =>
      refine Or.inl ⟨e, frames', rfl, h.keep hlog (hevents.trans h.empty) rfl ?_ rfl⟩
      exact hworld.trans h.loaded
  | @appended events sim log more hcheck hloaded haccepted hlog hfacts =>
      rcases hloaded with ⟨created, hcreate⟩ | ⟨loaded, hloaded⟩
      · subst hcreate
        cases haccepted with
        | createWorld _ _ =>
            refine Or.inr ⟨created, frames ++ more, rfl, ?_, h.create hlog rfl hfacts⟩
            rw [framesEvents_append, h.empty]
            exact hfacts
      · rw [h.loaded] at hloaded
        cases hloaded

theorem saveWorld_eq (h : Unborn frames session) (io : SyncIo) :
    (session.runtime.withSyncs [io]).saveWorld =
      (.error .noWorldLoaded, session.runtime.withSyncs [io]) := by
  have hworld : (session.runtime.withSyncs [io]).sim.world = none := h.loaded
  unfold PersistentSimulation.saveWorld PersistentSimulation.prepareSave
  rw [hworld]

end Unborn

/-!
## Steps and runs
-/

theorem Born.serve_other [SnapshotJson.Lossless] [AtomicWorldStore S] {cmd : CreateWorldCmd}
    {frames : List WalFrame} {world : World} {session next : Session R C S}
    (h : Born cmd frames world session) {input : RuntimeInput R C} {answer : RuntimeAnswer}
    (hserve : session.serve input = some (answer, next))
    (hother : forall (c : SimCommand) (records : List RecordIo), input ≠ .command c records) :
    Born cmd frames world next := by
  rcases Session.served hserve with ⟨runtime, hserved, hnext⟩
  subst hnext
  cases hserved with
  | command _ => exact absurd rfl (hother _ _)
  | save hsave => exact h.save hsave
  | load hload => exact h.load hload
  | restart hrestart => exact h.restarted h.log h.stored hrestart
  | @dieInSave io last _ _ _ _ hrestart =>
      rcases PersistentSimulation.saveUntil_cases last (session.runtime.withSyncs [io]) with
        hsame | ⟨_, _, hprepare, hcommitted⟩
      · rw [hsame] at hrestart
        have hwith : Holds (session.runtime.withSyncs [io]).eventLog frames := h.log.withIo _
        exact h.restarted hwith h.stored hrestart
      · rcases h.committed hprepare hcommitted with ⟨hlog, hstored⟩
        exact h.restarted hlog hstored hrestart

theorem Unborn.serve_other {frames : List WalFrame} {session next : Session R C S}
    (h : Unborn frames session) {input : RuntimeInput R C} {answer : RuntimeAnswer}
    (hserve : session.serve input = some (answer, next))
    (hother : forall (c : SimCommand) (records : List RecordIo), input ≠ .command c records) :
    Unborn frames next := by
  rcases Session.served hserve with ⟨runtime, hserved, hnext⟩
  subst hnext
  cases hserved with
  | command _ => exact absurd rfl (hother _ _)
  | @save io _ _ hsave =>
      rw [h.saveWorld_eq io] at hsave
      cases hsave
      exact h.keep (h.log.withIo _) h.empty rfl h.loaded rfl
  | load hload =>
      rcases PersistentSimulation.loadWorld_eq_some hload with
        ⟨_, _, hsame⟩ | ⟨_, _, hrecovered, _, _⟩
      · rw [hsame]
        exact h
      · rcases loadRecoveredWorld_eq_ok.mp hrecovered with ⟨_, hselect, _⟩
        rcases selectReplay_eq_ok.mp hselect with ⟨_, ⟨_, hsnapshot, _⟩, _⟩
        exact absurd hsnapshot (h.store.snapshot _ _)
  | restart hrestart =>
      rcases restarted_holds h.log hrestart with ⟨hholds, hstore, hworld⟩
      exact h.keep hholds h.empty hstore hworld rfl
  | @dieInSave io last _ _ _ _ hrestart =>
      rcases PersistentSimulation.saveUntil_cases last (session.runtime.withSyncs [io]) with
        hsame | ⟨_, _, hprepare, _⟩
      · rw [hsame] at hrestart
        have hwith : Holds (session.runtime.withSyncs [io]).eventLog frames := h.log.withIo _
        rcases restarted_holds hwith hrestart with ⟨hholds, hstore, hworld⟩
        exact h.keep hholds h.empty hstore hworld rfl
      · rcases PersistentSimulation.prepareSave_eq_ok.mp hprepare with ⟨_, hworld, _⟩
        exact absurd (h.loaded.symm.trans hworld) (Option.some_ne_none _).symm

namespace Durable

variable {session next : Session R C S}

theorem serve [BatchJson.Lossless] [SnapshotJson.Lossless] [AtomicWorldStore S]
    (h : Durable session) {input : RuntimeInput R C} (hquiet : input.Quiet)
    {answer : RuntimeAnswer} (hserve : session.serve input = some (answer, next)) :
    Durable next := by
  cases input with
  | command c records =>
      have hnone : records = [] := hquiet
      subst hnone
      rcases Session.served hserve with ⟨runtime, ⟨hprocess⟩, hnext⟩
      subst hnext
      cases h with
      | unborn h =>
          rcases h.command hprocess with ⟨e, _, hresult, hunborn⟩ | ⟨_, _, _, _, hborn⟩
          · subst hresult
            exact Durable.unborn hunborn
          · exact Durable.born hborn
      | born h =>
          rcases h.command hprocess with ⟨_, _, hborn, _⟩
          exact Durable.born hborn
  | _ =>
      cases h with
      | unborn h => exact Durable.unborn (h.serve_other hserve nofun)
      | born h => exact Durable.born (h.serve_other hserve nofun)

omit [IRng R] [ISimClock C] in
theorem start {rng : R} {clock : C} {store : S} (hstore : EmptyStore store) :
    Durable (Session.start rng clock store) :=
  Durable.unborn ⟨Holds.empty {}, rfl, hstore, rfl, rfl⟩

theorem run [BatchJson.Lossless] [SnapshotJson.Lossless] [AtomicWorldStore S]
    (h : Durable session) {inputs : List (RuntimeInput R C)} {answers : List RuntimeAnswer}
    (hrun : Foundation.run Session.serve inputs session = some (answers, next))
    (hquiet : forall input : RuntimeInput R C, input ∈ inputs -> input.Quiet) :
    Durable next :=
  run_invariant_of_mem (fun _ _ _ _ hbefore hinput hserve => hbefore.serve hinput hserve)
    hrun hquiet h

end Durable

end Durable

end Seej
