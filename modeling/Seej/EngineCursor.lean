import Seej.ReplayRun
import Seej.TickFrame

/-!
# The engine and the cursor

Commands read neither the snapshot tick nor the event cursor of the metadata.  A
command on a loaded world with another cursor gives the same answer and the same
engine with that cursor.
-/

namespace Seej

open Foundation

/-!
## Operations of the world
-/

namespace World

theorem allocateEntityId_withCursor (world : World) (s : Tick) (i : EventId) :
    (world.withCursor s i).allocateEntityId =
      world.allocateEntityId.map fun (id, world) => (id, world.withCursor s i) := by
  show (checkedSucc world.nextEntityId).bind _ = ((checkedSucc world.nextEntityId).bind _).map _
  cases checkedSucc world.nextEntityId <;> rfl

theorem removeEntity_withCursor (world : World) (id : EntityId) (s : Tick) (i : EventId) :
    (world.withCursor s i).removeEntity id =
      (world.removeEntity id).map fun (entity, world) => (entity, world.withCursor s i) := by
  have hsame : (world.withCursor s i).entities = world.entities := rfl
  unfold removeEntity
  rw [hsame]
  cases world.entities[id]? <;> rfl

end World

/-!
## Rules of a tick
-/

namespace TickState

variable {R : Type} [IRng R]

def withCursor (s : Tick) (i : EventId) (st : TickState R) : TickState R :=
  { st with world := st.world.withCursor s i }

omit [IRng R] in
theorem withCursor_unread (s : Tick) (i : EventId) :
    Unread (R := R) (TickState.withCursor s i) := by
  constructor
  case removed =>
    intro st id
    have hremove : (st.withCursor s i).world.removeEntity id = _ :=
      st.world.removeEntity_withCursor id s i
    show ((TickState.withCursor s i st).world.removeEntity id).map _ = _
    rw [hremove, Option.map_map]
    rfl
  all_goals
    intros
    rfl

end TickState

/-!
## Commands
-/

namespace Simulation

variable {R C : Type} [IRng R] [ISimClock C]

def withCursor (sim : Simulation R C) (s : Tick) (i : EventId) : Simulation R C :=
  { sim with world := sim.world.map fun world => world.withCursor s i }

variable {sim : Simulation R C} {world : World} (hworld : sim.world = some world)
  (s : Tick) (i : EventId)

include hworld

omit [IRng R] [ISimClock C] in
theorem withCursor_world :
    (sim.withCursor s i).world = some (world.withCursor s i) := by
  rw [withCursor, hworld]
  rfl

theorem cmdTick_withCursor :
    (sim.withCursor s i).cmdTick =
      sim.cmdTick.map fun (result, sim) => (result, sim.withCursor s i) := by
  have hsystems : TickState.runTickSystems
      ⟨(world.withCursor s i).advanceTick, (sim.withCursor s i).rng,
        (sim.withCursor s i).pendingEvents⟩ = _ :=
    (TickState.withCursor_unread s i).runTickSystems
      ⟨world.advanceTick, sim.rng, sim.pendingEvents⟩
  rw [cmdTick_eq hworld, cmdTick_eq (withCursor_world hworld s i), hsystems]
  cases TickState.runTickSystems ⟨world.advanceTick, sim.rng, sim.pendingEvents⟩ with
  | none => rfl
  | some result => rfl

theorem cmdTickN_withCursor (n : Nat) :
    (sim.withCursor s i).cmdTickN n =
      (sim.cmdTickN n).map fun (result, sim) => (result, sim.withCursor s i) := by
  induction n generalizing sim world with
  | zero => rfl
  | succ n ih =>
      unfold cmdTickN
      rw [cmdTick_withCursor hworld]
      cases htick : sim.cmdTick with
      | none => rfl
      | some answer =>
          rcases answer with ⟨result, next⟩
          cases result with
          | error e => rfl
          | ok _ =>
              rcases cmdTick_ok_world htick with ⟨after, hafter⟩
              exact ih hafter

omit [IRng R] [ISimClock C] in
theorem cmdSpawnEntity_withCursor (cmd : SpawnEntityCmd) :
    (sim.withCursor s i).cmdSpawnEntity cmd =
      (sim.cmdSpawnEntity cmd).map fun (result, sim) => (result, sim.withCursor s i) := by
  unfold cmdSpawnEntity
  simp only [hworld, withCursor_world hworld s i]
  have hzone : (world.withCursor s i).hasZone cmd.position.zone =
      world.hasZone cmd.position.zone := rfl
  rw [hzone]
  split
  · rw [World.allocateEntityId_withCursor]
    cases world.allocateEntityId with
    | none => rfl
    | some result => rfl
  · rfl

omit [IRng R] [ISimClock C] in
theorem cmdDespawnEntity_withCursor (id : EntityId) :
    (sim.withCursor s i).cmdDespawnEntity id =
      ((sim.cmdDespawnEntity id).1, (sim.cmdDespawnEntity id).2.withCursor s i) := by
  unfold cmdDespawnEntity
  simp only [hworld, withCursor_world hworld s i]
  rw [World.removeEntity_withCursor]
  cases world.removeEntity id with
  | none => rfl
  | some removed => rfl

omit [IRng R] [ISimClock C] in
theorem cmdCreateZone_withCursor (cmd : CreateZoneCmd) :
    (sim.withCursor s i).cmdCreateZone cmd =
      ((sim.cmdCreateZone cmd).1, (sim.cmdCreateZone cmd).2.withCursor s i) := by
  unfold cmdCreateZone
  simp only [hworld, withCursor_world hworld s i]
  have hzone : (world.withCursor s i).hasZone cmd.zoneId = world.hasZone cmd.zoneId := rfl
  rw [hzone]
  split <;> rfl

theorem cmdCreateWorld_withCursor (cmd : CreateWorldCmd) :
    (sim.withCursor s i).cmdCreateWorld cmd =
      ((sim.cmdCreateWorld cmd).1, (sim.cmdCreateWorld cmd).2.withCursor s i) := by
  unfold cmdCreateWorld
  simp only [hworld, withCursor_world hworld s i]
  rfl

omit hworld in
theorem finish_withCursor (before next : Simulation R C) (result : ApiResult Unit) :
    finish (before.withCursor s i).checkpoint (result, next.withCursor s i) =
      ((finish before.checkpoint (result, next)).1,
        (finish before.checkpoint (result, next)).2.withCursor s i) := by
  cases result <;> rfl

theorem processValid_withCursor (cmd : SimCommand) :
    (sim.withCursor s i).processValid cmd =
      (sim.processValid cmd).map fun (result, sim) => (result, sim.withCursor s i) := by
  unfold processValid
  cases cmd with
  | createWorld c =>
      simp only [cmdCreateWorld_withCursor hworld, finish_withCursor, Option.map_some]
  | tick =>
      simp only [cmdTick_withCursor hworld, Option.map_map]
      congr 1
      funext result
      exact finish_withCursor s i sim _ _
  | tickN n =>
      simp only [cmdTickN_withCursor hworld]
      cases sim.cmdTickN n.toNat with
      | none => rfl
      | some answer =>
          rcases answer with ⟨result, next⟩
          cases result <;> rfl
  | spawnEntity c =>
      simp only [cmdSpawnEntity_withCursor hworld, Option.map_map]
      congr 1
      funext result
      exact finish_withCursor s i sim _ _
  | despawnEntity id =>
      simp only [cmdDespawnEntity_withCursor hworld, finish_withCursor, Option.map_some]
  | createZone c =>
      simp only [cmdCreateZone_withCursor hworld, finish_withCursor, Option.map_some]

/-- The answer does not depend on the cursor. -/
theorem processCommand_withCursor (cmd : SimCommand) :
    (sim.withCursor s i).processCommand cmd =
      (sim.processCommand cmd).map fun (result, sim) => (result, sim.withCursor s i) := by
  unfold processCommand
  split
  · rfl
  · have hcleared : sim.clearPending.world = some world := hworld
    exact processValid_withCursor hcleared s i cmd

end Simulation

end Seej
