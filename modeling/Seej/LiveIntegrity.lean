import Seej.InterruptedSaves

/-!
# Integrity of live execution

Whatever commands, saves, loads and restarts a runtime goes through, the world that
it has in memory is coherent and has its origin zone, and the snapshots that it
writes are the ones that decoding accepts.
-/

namespace Seej

open Foundation

theorem World.new_hasZone (name : String) (seed : RngSeed) :
    (World.new name seed).hasZone ZoneId.origin = true := by
  rw [World.hasZone_iff]
  exact ⟨_, (BTreeMap.getElem?_insert _ _ _ _).trans (if_pos rfl)⟩

section LiveIntegrity

variable {R C S : Type} [IRng R] [ISimClock C] [IWorldStore S] [SnapshotJson] [Crc32]
  [BatchJson]

theorem Session.run_of_run {inputs : List (RuntimeInput R C)} {answers : List RuntimeAnswer}
    {ps next : PersistentSimulation R C FileEventLog S} (reached : Option World)
    (h : run PersistentSimulation.serve inputs ps = some (answers, next)) :
    exists reached' : Option World,
      run Session.serve inputs { runtime := ps, reached := reached } =
        some (answers, { runtime := next, reached := reached' }) := by
  induction inputs generalizing ps answers reached with
  | nil =>
      cases h
      exact ⟨reached, rfl⟩
  | cons input rest ih =>
      rcases run_cons.mp h with ⟨answer, middle, later, hfirst, hlater, hanswers⟩
      rcases ih (Session.reach reached middle answer) hlater with ⟨reached', hrest⟩
      refine ⟨reached', run_cons.mpr ⟨answer, _, later, ?_, hrest, hanswers⟩⟩
      unfold Session.serve
      rw [hfirst]
      rfl

structure LiveWorld (world : World) : Prop where
  integrity : WorldIntegrity world
  origin : world.hasZone ZoneId.origin = true

omit [IRng R] [ISimClock C] in
theorem Born.liveWorld {cmd : CreateWorldCmd} {frames : List WalFrame} {world : World}
    {session : Session R C S} (h : Born cmd frames world session) {last : World}
    (hlast : session.runtime.sim.world = some last) : LiveWorld last := by
  rcases h.loaded last hlast with ⟨⟨s, i, hsame⟩, _⟩
  rw [hsame]
  have hzones := h.reaches.replays.continues.zones
  exact ⟨h.reaches.integrity.withCursor s i, hzones _ (World.new_hasZone cmd.name cmd.seed)⟩

/-- In every state that a runtime reaches, the loaded world is coherent, a save
writes a snapshot that decodes to the world it saves, and every snapshot in the
store decodes. -/
theorem liveWorld_reached [BatchJson.Lossless] [SnapshotJson.Lossless] [AtomicWorldStore S]
    {rng : R} {clock : C} {store : S} (hstore : EmptyStore store)
    {inputs : List (RuntimeInput R C)} {answers : List RuntimeAnswer}
    {ps : PersistentSimulation R C FileEventLog S}
    (hrun : run PersistentSimulation.serve inputs
      (PersistentSimulation.new rng clock (FileEventLog.closed none) store) = some (answers, ps))
    (hquiet : forall input : RuntimeInput R C, input ∈ inputs -> input.Quiet) :
    (forall world : World, ps.sim.world = some world -> LiveWorld world) ∧
    (forall (saved : World) (snapshot : Bytes), ps.prepareSave = .ok (saved, snapshot) ->
      decodeWorld snapshot = .ok saved) ∧
    (forall (worldId : String) (snapshot : Bytes),
      IWorldStore.loadSnapshot ps.store worldId = .ok snapshot ->
        exists saved : World, decodeWorld snapshot = .ok saved) := by
  rcases Session.run_of_run none hrun with ⟨reached, hsession⟩
  have hdurable := (Durable.start hstore).run hsession hquiet
  refine ⟨?_, ?_, ?_⟩
  · intro world hworld
    cases hdurable with
    | unborn h =>
        have hnone : ps.sim.world = none := h.loaded
        rw [hnone] at hworld
        cases hworld
    | born h => exact h.liveWorld hworld
  · intro saved snapshot hprepare
    cases hdurable with
    | unborn h =>
        rcases PersistentSimulation.prepareSave_eq_ok.mp hprepare with ⟨_, hworld, _⟩
        exact absurd (h.loaded.symm.trans hworld) (Option.some_ne_none _).symm
    | born h =>
        have hwith : (ps.withSyncs [{}]).prepareSave = .ok (saved, snapshot) := hprepare
        rcases h.prepared hwith with ⟨hsaved, hencode⟩
        refine decodeWorld_encodeWorld ?_ hencode
        rw [hsaved]
        exact h.reaches.savable rfl
  · intro worldId snapshot hload
    cases hdurable with
    | unborn h => exact absurd hload (h.store.snapshot worldId snapshot)
    | born h =>
        cases h.stored with
        | nothing hempty => exact absurd hload (hempty.snapshot worldId snapshot)
        | saved hsaved =>
            rcases hsaved.snapshot with ⟨bytes, hbytes, hdecode⟩
            have hid := h.stored.other worldId snapshot hload
            rw [hid] at hload
            cases hload.symm.trans hbytes
            exact ⟨_, hdecode⟩

end LiveIntegrity

def loadedVale : List (RuntimeInput Pcg32Rng UnlimitedClock) :=
  savedVale ++ [.command .tick [], .load "world_7"]

theorem liveWorld_reached_vale :
    letI := ieeeCrc32
    letI := knownSnapshots [valeSnapshot]
    letI := knownBatches [PersistentSimulation.valeGenesis, [PersistentSimulation.valeTick]]
    exists (ps : PersistentSimulation Pcg32Rng UnlimitedClock FileEventLog MockWorldStore)
        (world : World),
      (run PersistentSimulation.serve loadedVale PersistentSimulation.fresh).map Prod.snd =
        some ps ∧
      ps.sim.world = some world ∧ world.currentTick = ⟨1⟩ ∧ LiveWorld world := by
  let _ := ieeeCrc32
  let _ := knownSnapshots [valeSnapshot]
  let _ := knownBatches [PersistentSimulation.valeGenesis, [PersistentSimulation.valeTick]]
  have _ : BatchJson.Lossless := knownBatches_lossless (by decide +kernel)
  have _ : SnapshotJson.Lossless := knownSnapshots_lossless (by decide +kernel)
  have hloaded : (run PersistentSimulation.serve loadedVale PersistentSimulation.fresh).map
      (fun result => result.2.sim.world.map World.currentTick) = some (some ⟨1⟩) := by
    decide +kernel
  rcases Option.map_eq_some_iff.mp hloaded with ⟨⟨answers, ps⟩, hrun, htick⟩
  rcases Option.map_eq_some_iff.mp htick with ⟨world, hworld, hcurrent⟩
  have hquiet : forall input : RuntimeInput Pcg32Rng UnlimitedClock,
      input ∈ loadedVale -> input.Quiet := by
    decide
  have hlive := (liveWorld_reached MockWorldStore.new_empty hrun hquiet).left world hworld
  refine ⟨ps, world, ?_, hworld, hcurrent, hlive⟩
  rw [hrun]
  rfl

end Seej
