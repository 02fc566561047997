import Seej.Durability
import Seej.RuntimeRollback

/-!
# Interrupted saves

A save may stop after each of its durable steps, because the process dies or
because the store answers with an error, any number of times.  Once a snapshot was
written, recovery gives back the world that the accepted commands have reached.
-/

namespace Seej

open Foundation

/-!
## Snapshots stay
-/

section Snapshots

variable {S : Type} [IWorldStore S]

def HasSnapshot (store : S) (worldId : String) : Prop :=
  exists bytes : Bytes, IWorldStore.loadSnapshot store worldId = .ok bytes

theorem HasSnapshot.saveSnapshot [AtomicWorldStore S] {store next : S} {worldId other : String}
    {snapshot : Bytes} {result : SimResult Unit} (h : HasSnapshot store worldId)
    (hsave : IWorldStore.saveSnapshot store other snapshot = (result, next)) :
    HasSnapshot next worldId := by
  by_cases heq : worldId = other
  · subst heq
    rcases AtomicWorldStore.saveSnapshot_atomic _ _ _ _ _ hsave with hnew | hsame
    · exact ⟨snapshot, hnew⟩
    · rcases h with ⟨bytes, hload⟩
      exact ⟨bytes, hsame.trans hload⟩
  · rcases h with ⟨bytes, hload⟩
    have hsame := (AtomicWorldStore.saveSnapshot_other _ _ _ _ _ hsave).left worldId heq
    exact ⟨bytes, hsame.trans hload⟩

theorem HasSnapshot.saveMeta [AtomicWorldStore S] {store next : S} {worldId : String}
    {worldMeta : WorldMeta} {result : SimResult Unit} (h : HasSnapshot store worldId)
    (hsave : IWorldStore.saveMeta store worldMeta = (result, next)) :
    HasSnapshot next worldId := by
  rcases h with ⟨bytes, hload⟩
  exact ⟨bytes, (AtomicWorldStore.saveMeta_other _ _ _ _ hsave worldId).trans hload⟩

end Snapshots

section Interrupted

variable {R C S : Type} [IRng R] [ISimClock C] [IWorldStore S] [SnapshotJson] [Crc32]
  [BatchJson]

namespace PersistentSimulation

variable {ps next : PersistentSimulation R C FileEventLog S} {worldId : String}

omit [IRng R] [ISimClock C] [SnapshotJson] in
theorem Committed.hasSnapshot [AtomicWorldStore S] {world : World} {snapshot : Bytes}
    {log : FileEventLog} {store : S} (h : Committed ps world snapshot log store)
    (hstore : HasSnapshot ps.store worldId) : HasSnapshot store worldId := by
  cases h with
  | synced _ => exact hstore
  | replaced _ hsnapshot => exact hstore.saveSnapshot hsnapshot
  | mirrored _ hsnapshot hmeta => exact (hstore.saveSnapshot hsnapshot).saveMeta hmeta

omit [IRng R] [ISimClock C] [IWorldStore S] [SnapshotJson] in
theorem restarted_store {ending : FileEventLog.Ending} {rng : R} {clock : C}
    (h : ps.restarted ending rng clock = some next) : next.store = ps.store := by
  unfold restarted at h
  split at h
  · cases h
    rfl
  · cases h

omit [IRng R] [ISimClock C] in
theorem saveUntil_hasSnapshot [AtomicWorldStore S] (last : SaveStep)
    (hstore : HasSnapshot ps.store worldId) : HasSnapshot (ps.saveUntil last).store worldId := by
  rcases saveUntil_cases last ps with hsame | ⟨_, _, _, hcommitted⟩
  · rw [hsame]
    exact hstore
  · exact hcommitted.hasSnapshot hstore

theorem saveWorld_hasSnapshot [AtomicWorldStore S] {result : ApiResult Unit}
    (hstore : HasSnapshot ps.store worldId) (h : ps.saveWorld = (result, next)) :
    HasSnapshot next.store worldId := by
  cases result with
  | error e =>
      rcases saveWorld_error h with hsame | ⟨_, _, _, _, hcommitted⟩
      · rw [hsame]
        exact hstore
      · exact hcommitted.hasSnapshot hstore
  | ok _ =>
      rcases saveWorld_ok h with ⟨_, _, _, hcommit⟩
      exact (commitSave_ok_committed hcommit).hasSnapshot hstore

theorem serve_hasSnapshot [AtomicWorldStore S] {input : RuntimeInput R C}
    {answer : RuntimeAnswer} (hstore : HasSnapshot ps.store worldId)
    (h : ps.serve input = some (answer, next)) : HasSnapshot next.store worldId := by
  cases serve_eq_some.mp h with
  | command hprocess => cases processCommand_eq_some.mp hprocess <;> exact hstore
  | @save io _ _ hsave =>
      have hwith : HasSnapshot (ps.withSyncs [io]).store worldId := hstore
      exact saveWorld_hasSnapshot hwith hsave
  | load hload =>
      rcases loadWorld_eq_some hload with ⟨_, _, hsame⟩ | ⟨_, _, _, _, hnext⟩
      · rw [hsame]
        exact hstore
      · rw [hnext]
        exact hstore
  | restart hrestart =>
      rw [restarted_store hrestart]
      exact hstore
  | @dieInSave io last _ _ _ _ hrestart =>
      have hwith : HasSnapshot (ps.withSyncs [io]).store worldId := hstore
      rw [restarted_store hrestart]
      exact saveUntil_hasSnapshot last hwith

end PersistentSimulation

theorem Session.run_hasSnapshot [AtomicWorldStore S] {inputs : List (RuntimeInput R C)}
    {answers : List RuntimeAnswer} {session next : Session R C S} {worldId : String}
    (hrun : run Session.serve inputs session = some (answers, next))
    (hstore : HasSnapshot session.runtime.store worldId) :
    HasSnapshot next.runtime.store worldId := by
  have hstep : forall (before after : Session R C S) (input : RuntimeInput R C)
      (answer : RuntimeAnswer), HasSnapshot before.runtime.store worldId ->
      before.serve input = some (answer, after) -> HasSnapshot after.runtime.store worldId := by
    intro before after input answer hbefore hserve
    rcases Session.served hserve with ⟨runtime, hserved, hnext⟩
    subst hnext
    exact PersistentSimulation.serve_hasSnapshot hbefore
      (PersistentSimulation.serve_eq_some.mpr hserved)
  exact run_invariant hstep hrun hstore

/-!
## Recovery after any interruptions
-/

omit [IRng R] [ISimClock C] in
/-- The world that was reached is in reach of recovery, in this process and in the
next one. -/
theorem Durable.recovers {session : Session R C S} {worldId : String} (h : Durable session)
    (hstore : HasSnapshot session.runtime.store worldId) :
    exists (world : World) (snapshotTick : Tick) (lastEventId : EventId)
        (replayed : List SimEvent),
      session.reached = some world ∧
      loadRecoveredWorld session.runtime.store session.runtime.eventLog worldId =
        some (.ok (world.withCursor snapshotTick lastEventId, replayed)) ∧
      forall ending : FileEventLog.Ending, exists reopened : FileEventLog,
        FileEventLog.new (session.runtime.eventLog.left ending) = some (.ok reopened) ∧
        loadRecoveredWorld session.runtime.store reopened worldId =
          some (.ok (world.withCursor snapshotTick lastEventId, replayed)) := by
  rcases hstore with ⟨bytes, hload⟩
  cases h with
  | unborn h => exact absurd hload (h.store.snapshot worldId bytes)
  | @born cmd frames world h =>
      rcases h.reached with ⟨last, hreached, hsame⟩
      rcases hsame.symm with ⟨s, i, hworld⟩
      rcases h.recovers hload with ⟨t, n, _, hrecovers⟩
      have hcursor : world.withCursor t ⟨UInt64.ofNat n⟩ =
          last.withCursor t ⟨UInt64.ofNat n⟩ := by
        rw [hworld]
        rfl
      rw [hcursor] at hrecovers
      refine ⟨last, _, _, _, hreached, hrecovers _ h.log.lists, ?_⟩
      intro ending
      rcases h.log.new_path (h.log.left_file ending) with ⟨reopened, hnew, hholds, _⟩
      exact ⟨reopened, hnew, hrecovers reopened hholds.lists⟩

/-- Whatever steps the saves get through, once a snapshot was written recovery
returns the world that the accepted commands have reached, up to its cursor; and a
save that returns an error leaves the engine as it was. -/
theorem interruptedSave_recovers [BatchJson.Lossless] [SnapshotJson.Lossless]
    [AtomicWorldStore S] {rng : R} {clock : C} {store : S} (hstore : EmptyStore store)
    {before after : List (RuntimeInput R C)} {earlier later : List RuntimeAnswer}
    {middle session : Session R C S}
    (hbefore : run Session.serve before (Session.start rng clock store) = some (earlier, middle))
    (hafter : run Session.serve after middle = some (later, session))
    (hquiet : forall input : RuntimeInput R C, input ∈ before ++ after -> input.Quiet) :
    (forall worldId : String, HasSnapshot middle.runtime.store worldId ->
      exists (world : World) (snapshotTick : Tick) (lastEventId : EventId)
          (replayed : List SimEvent),
        session.reached = some world ∧
        loadRecoveredWorld session.runtime.store session.runtime.eventLog worldId =
          some (.ok (world.withCursor snapshotTick lastEventId, replayed)) ∧
        forall ending : FileEventLog.Ending, exists reopened : FileEventLog,
          FileEventLog.new (session.runtime.eventLog.left ending) = some (.ok reopened) ∧
          loadRecoveredWorld session.runtime.store reopened worldId =
            some (.ok (world.withCursor snapshotTick lastEventId, replayed))) ∧
    (forall (io : SyncIo) (e : ApiError) (next : PersistentSimulation R C FileEventLog S),
      (session.runtime.withSyncs [io]).saveWorld = (.error e, next) ->
        next.sim = session.runtime.sim) := by
  have hmiddle := (Durable.start hstore).run hbefore fun input hmem =>
    hquiet input (List.mem_append_left after hmem)
  have hsession := hmiddle.run hafter fun input hmem =>
    hquiet input (List.mem_append_right before hmem)
  constructor
  · intro worldId hwritten
    exact hsession.recovers (Session.run_hasSnapshot hafter hwritten)
  · intro io e next hsave
    rcases PersistentSimulation.saveWorld_error hsave with hsame | ⟨_, _, _, hsim, _⟩
    · rw [hsame]
      rfl
    · exact hsim

end Interrupted

def valeTickSnapshot : WorldSnapshotDto :=
  WorldSnapshotDto.fromWorld ((World.new "Vale" ⟨7⟩).advanceTick.stampForSave ⟨3⟩)

def valeSecondTick : SimEvent :=
  ⟨⟨4⟩, ⟨2⟩, .tickProcessed ⟨2⟩ ⟨2⟩ 0 (some 7)⟩

def savedVale : List (RuntimeInput Pcg32Rng UnlimitedClock) :=
  [.command PersistentSimulation.createVale [], .save {}]

/-- The next save dies before the metadata, and the one after it before the
snapshot. -/
def interruptedVale : List (RuntimeInput Pcg32Rng UnlimitedClock) :=
  [.command .tick [], .dieInSave {} .snapshot (.crash 0) Pcg32Rng.uninitialized UnlimitedClock.new,
    .load "world_7", .command .tick [],
    .dieInSave {} .sync (.drop []) Pcg32Rng.uninitialized UnlimitedClock.new]

def unsavedVale : Session Pcg32Rng UnlimitedClock MockWorldStore :=
  Session.start Pcg32Rng.uninitialized UnlimitedClock.new MockWorldStore.new

theorem interruptedSave_recovers_vale :
    letI := ieeeCrc32
    letI := knownSnapshots [valeSnapshot, valeTickSnapshot]
    letI := knownBatches
      [PersistentSimulation.valeGenesis, [PersistentSimulation.valeTick], [valeSecondTick]]
    exists (session : Session Pcg32Rng UnlimitedClock MockWorldStore) (world : World)
        (snapshotTick : Tick) (lastEventId : EventId) (replayed : List SimEvent),
      (run Session.serve (savedVale ++ interruptedVale) unsavedVale).map Prod.snd =
        some session ∧
      session.reached = some world ∧ world.currentTick = ⟨2⟩ ∧
      loadRecoveredWorld session.runtime.store session.runtime.eventLog "world_7" =
        some (.ok (world.withCursor snapshotTick lastEventId, replayed)) := by
  let _ := ieeeCrc32
  let _ := knownSnapshots [valeSnapshot, valeTickSnapshot]
  let _ := knownBatches
    [PersistentSimulation.valeGenesis, [PersistentSimulation.valeTick], [valeSecondTick]]
  have _ : BatchJson.Lossless := knownBatches_lossless (by decide +kernel)
  have _ : SnapshotJson.Lossless := knownSnapshots_lossless (by decide +kernel)
  have hreached : (run Session.serve (savedVale ++ interruptedVale) unsavedVale).map
      (fun result => result.2.reached.map World.currentTick) = some (some ⟨2⟩) := by
    decide +kernel
  have hsnapshot : (run Session.serve savedVale unsavedVale).map
      (fun result => (result.2.runtime.store.loadSnapshot "world_7").toOption.isSome) =
        some true := by
    decide +kernel
  rcases Option.map_eq_some_iff.mp hreached with ⟨⟨answers, session⟩, hrun, htick⟩
  rcases run_append.mp hrun with ⟨middle, earlier, later, hbefore, hafter, _⟩
  have hwritten : HasSnapshot middle.runtime.store "world_7" := by
    rw [hbefore] at hsnapshot
    rcases Option.isSome_iff_exists.mp (Option.some.inj hsnapshot) with ⟨bytes, hbytes⟩
    cases hload : middle.runtime.store.loadSnapshot "world_7" with
    | ok found => exact ⟨found, hload⟩
    | error e =>
        rw [hload] at hbytes
        cases hbytes
  have hquiet : forall input : RuntimeInput Pcg32Rng UnlimitedClock,
      input ∈ savedVale ++ interruptedVale -> input.Quiet := by
    decide
  rcases (interruptedSave_recovers MockWorldStore.new_empty hbefore hafter hquiet).left
    "world_7" hwritten with ⟨world, s, i, replayed, hworld, hload, _⟩
  refine ⟨session, world, s, i, replayed, ?_, hworld, ?_, hload⟩
  · rw [hrun]
    rfl
  · change session.reached.map World.currentTick = _ at htick
    rw [hworld] at htick
    exact Option.some.inj htick

end Seej
