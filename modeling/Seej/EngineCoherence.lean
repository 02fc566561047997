import Seej.RefusedCommands
import Seej.Resume

/-!
# The engine and its world

The generator and the clock live beside the world.  Whatever the commands, saves
and loads do, and whatever fails in them, a loaded world determines the rest of
the engine.
-/

namespace Seej

open Foundation

namespace Simulation

structure InStep (sim : Simulation Pcg32Rng UnlimitedClock) (world : World) : Prop where
  seed : sim.rng.seed = world.worldMeta.seed
  increment : sim.rng.increment = Pcg32Rng.incrementFromSeed world.worldMeta.seed
  state : sim.rng.state = world.rngState
  tick : sim.clock.currentTick = world.currentTick
  pendingEvents : sim.pendingEvents = []

def Coherent (sim : Simulation Pcg32Rng UnlimitedClock) : Prop :=
  forall world : World, sim.world = some world -> sim = resumed world

variable {sim next : Simulation Pcg32Rng UnlimitedClock}

theorem Coherent.inStep (h : Coherent sim) {world : World} (hworld : sim.world = some world) :
    InStep sim world := by
  rw [h world hworld]
  exact ⟨rfl, rfl, rfl, rfl, rfl⟩

theorem coherent_resumed (world : World) : Coherent (resumed world) := by
  intro loaded hloaded
  rw [Option.some.inj hloaded]

theorem coherent_of_none (h : sim.world = none) : Coherent sim := by
  intro world hworld
  rw [h] at hworld
  cases hworld

theorem coherent_loadWorldState (sim : Simulation Pcg32Rng UnlimitedClock) (world : World) :
    Coherent (sim.loadWorldState world) :=
  coherent_resumed world

theorem Accepted.coherent {cmd : SimCommand} {events : List SimEvent}
    (h : Accepted sim cmd events next) (hsim : Coherent sim) : Coherent next := by
  cases hworld : sim.world with
  | some world =>
      rw [hsim world hworld] at h
      rcases h.resumed with ⟨after, hafter⟩
      rw [hafter]
      exact coherent_resumed after
  | none =>
      -- only the creation of a world gives one to an engine without
      have hcleared : sim.clearPending.world = none := hworld
      cases h with
      | createWorld c _ => exact coherent_resumed (World.new c.name c.seed)
      | tick htick =>
          rcases cmdTick_ok htick with ⟨world, hsome⟩
          rw [hcleared] at hsome
          cases hsome
      | tickN htick =>
          have hnone := cmdTickN_invariant (P := fun s => s.world = none)
            (fun before _ hbefore hstep => by
              rw [cmdTick_of_none hbefore] at hstep
              cases hstep) htick hcleared
          exact coherent_of_none hnone
      | spawnEntity hsome _ _ =>
          rw [hworld] at hsome
          cases hsome
      | despawnEntity hsome _ =>
          rw [hworld] at hsome
          cases hsome
      | createZone hsome _ =>
          rw [hworld] at hsome
          cases hsome

end Simulation

namespace PersistentSimulation

variable {E S : Type} [IEventLog E] [IWorldStore S]
  {ps next : PersistentSimulation Pcg32Rng UnlimitedClock E S}

theorem Processed.coherent {cmd : SimCommand} {result : ApiResult (List SimEvent)}
    (h : Processed ps cmd result next) (hrest : Simulation.AtRest ps.sim)
    (hsim : Simulation.Coherent ps.sim) : Simulation.Coherent next.sim := by
  cases result with
  | error e =>
      rw [h.sim_of_error hrest]
      exact hsim
  | ok persisted =>
      cases h with
      | committed _ haccept _ => exact (Simulation.processCommand_ok haccept).coherent hsim

variable [SnapshotJson]

theorem Reached.coherent (h : ps.Reached) : Simulation.Coherent ps.sim := by
  induction h with
  | new _ _ _ _ => exact Simulation.coherent_of_none rfl
  | outside _ _ _ ih => exact ih
  | command hreached hprocess ih =>
      exact (processCommand_eq_some.mp hprocess).coherent hreached.atRest ih
  | @save ps next result _ hsave ih =>
      cases result with
      | error e =>
          rcases saveWorld_error hsave with hsame | ⟨_, _, _, hsim, _⟩
          · rw [hsame]
            exact ih
          · rw [hsim]
            exact ih
      | ok _ =>
          rcases saveWorld_ok hsave with ⟨world, _, _, hcommit⟩
          rcases commitSave_ok hcommit with ⟨_, _, _, _, hsim⟩
          rw [hsim]
          exact Simulation.coherent_loadWorldState _ world
  | load _ hload ih =>
      rcases loadWorld_eq_some hload with ⟨_, _, hsame⟩ | ⟨world, _, _, _, hnext⟩
      · rw [hsame]
        exact ih
      · rw [hnext]
        exact Simulation.coherent_loadWorldState _ world

/-- In every state that commands, saves and loads reach, over any log and any store and
whatever fails in them, the engine is in step with the world that it holds. -/
theorem engine_inStep (h : ps.Reached) {world : World} (hworld : ps.sim.world = some world) :
    Simulation.InStep ps.sim world :=
  h.coherent.inStep hworld

omit [SnapshotJson] in
theorem engine_inStep_vale :
    letI := ieeeCrc32
    letI := knownSnapshots []
    letI := knownBatches [valeGenesis, [valeTick]]
    exists (answers : List RuntimeAnswer)
        (ps : PersistentSimulation Pcg32Rng UnlimitedClock FileEventLog MockWorldStore)
        (world : World),
      run serve unsyncedTick fresh = some (answers, ps) ∧ ps.sim.world = some world ∧
        Simulation.InStep ps.sim world := by
  let _ := ieeeCrc32
  let _ := knownSnapshots []
  let _ := knownBatches [valeGenesis, [valeTick]]
  have hloaded : (run serve unsyncedTick fresh).map (fun result =>
      result.2.sim.world.isSome) = some true := by
    decide +kernel
  rcases Option.map_eq_some_iff.mp hloaded with ⟨⟨answers, ps⟩, hrun, hsome⟩
  rcases Option.isSome_iff_exists.mp hsome with ⟨world, hworld⟩
  have hreached : ps.Reached := fresh_reached.run unsyncedTick_valid hrun
  exact ⟨answers, ps, world, hrun, hworld, engine_inStep hreached hworld⟩

end PersistentSimulation

end Seej
