import Seej.EngineCursor
import Seej.LiveReplay

/-!
# The engine between commands

With the PCG32 generator and the unlimited clock, the engine between two commands
is a function of its world.  A load restores it from the world alone, and every
command, accepted or not, leaves it that way.
-/

namespace Seej

open Foundation

namespace Simulation

/-- The engine that a load of the world leaves, whatever it was before. -/
def resumed (world : World) : Simulation Pcg32Rng UnlimitedClock :=
  (Simulation.new Pcg32Rng.uninitialized UnlimitedClock.new).loadWorldState world

variable {sim next : Simulation Pcg32Rng UnlimitedClock} {world : World}

def SeededBy (world : World) (rng : Pcg32Rng) : Prop :=
  rng.seed = world.seed ∧ rng.increment = Pcg32Rng.incrementFromSeed world.seed

theorem SeededBy.chance {rng : Pcg32Rng} (h : SeededBy world rng) (probability : F32) :
    SeededBy world (IRng.chance rng probability).2 := by
  rcases rng with ⟨seed, state, increment⟩
  have hseed : seed = world.seed := h.left
  have hincrement : increment = Pcg32Rng.incrementFromSeed world.seed := h.right
  exact ⟨hseed, hincrement⟩

theorem seededBy_resumed (world : World) : SeededBy world (resumed world).rng :=
  ⟨rfl, rfl⟩

theorem cmdTick_resumed (hsim : sim.clearPending = resumed world)
    (h : sim.cmdTick = some (.ok (), next)) :
    exists after : World, next.clearPending = resumed after := by
  have hworld : sim.world = some world := (congrArg Simulation.world hsim :)
  have hrng : sim.rng = (resumed world).rng := (congrArg Simulation.rng hsim :)
  rcases (cmdTick_eq_ok hworld).mp h with ⟨processed, st, hsystems, hnext⟩
  rcases TickState.runTickSystems_journaled hsystems with ⟨_, hjournal⟩
  have hseed : st.world.seed = world.seed :=
    (congrArg WorldMeta.seed hjournal.replays.continues.identity :)
  have hseeded : SeededBy world st.rng := by
    apply hjournal.draws.invariant
    · intro rng probability hbefore
      exact hbefore.chance probability
    · rw [hrng]
      exact seededBy_resumed world
  have hgenerator : st.rng = (resumed { st.world with rngState := IRng.state st.rng }).rng := by
    rcases hrng' : st.rng with ⟨seed, state, increment⟩
    rw [hrng'] at hseeded
    have hseedOf : seed = st.world.seed := hseeded.left.trans hseed.symm
    have hincrement : increment = Pcg32Rng.incrementFromSeed st.world.seed := by
      rw [hseed]
      exact hseeded.right
    rw [hseedOf, hincrement]
    rfl
  have hclock : ISimClock.setTick sim.clock world.advanceTick.currentTick =
      (resumed st.world).clock := by
    show UnlimitedClock.mk _ = UnlimitedClock.mk _
    rw [hjournal.tick]
  refine ⟨{ st.world with rngState := IRng.state st.rng }, ?_⟩
  rw [hnext]
  show Simulation.mk (some _) st.rng (ISimClock.setTick sim.clock _) [] = _
  rw [hclock]
  exact congrArg (fun rng => Simulation.mk _ rng _ []) hgenerator

theorem withWorld_resumed {after : World} (hseed : after.seed = world.seed)
    (hstate : after.rngState = world.rngState) (htick : after.currentTick = world.currentTick) :
    (resumed world).withWorld after = resumed after := by
  unfold withWorld resumed loadWorldState
  rw [hstate, htick, show after.worldMeta.seed = world.worldMeta.seed from hseed]

/-- An accepted command leaves the engine that its world determines. -/
theorem Accepted.resumed {cmd : SimCommand} {events : List SimEvent}
    (h : Accepted (Simulation.resumed world) cmd events next) :
    exists after : World, next = Simulation.resumed after := by
  have hcleared : (Simulation.resumed world).clearPending.clearPending =
      Simulation.resumed world := rfl
  generalize hsim : Simulation.resumed world = sim at h
  have hworld : sim.world = some world := by
    rw [← hsim]
    rfl
  cases h with
  | createWorld c hnone =>
      rw [hnone] at hworld
      cases hworld
  | tick htick =>
      rw [hsim] at hcleared
      exact cmdTick_resumed (hcleared.trans hsim.symm) htick
  | tickN htick =>
      rw [hsim] at hcleared
      apply cmdTickN_invariant (P := fun s => exists after : World,
        s.clearPending = Simulation.resumed after) _ htick
      · exact ⟨world, hcleared.trans hsim.symm⟩
      · rintro before last ⟨middle, hmiddle⟩ hstep
        exact cmdTick_resumed hmiddle hstep
  | spawnEntity hloaded hzone hid =>
      cases hloaded.symm.trans hworld
      have hallocated := (World.allocateEntityId_eq_some hid).right.right
      rw [← hsim, hallocated]
      exact ⟨_, withWorld_resumed rfl rfl rfl⟩
  | despawnEntity hloaded hremove =>
      cases hloaded.symm.trans hworld
      have hremoved := (World.removeEntity_eq_some hremove).right
      rw [← hsim, hremoved]
      exact ⟨_, withWorld_resumed rfl rfl rfl⟩
  | createZone hloaded hzone =>
      cases hloaded.symm.trans hworld
      rw [← hsim]
      exact ⟨_, withWorld_resumed rfl rfl rfl⟩

theorem Rejected.resumed (h : Rejected (Simulation.resumed world) next) :
    next = Simulation.resumed world := by
  generalize hsim : Simulation.resumed world = sim at h
  cases h with
  | untouched => rfl
  | cleared =>
      rw [← hsim]
      rfl
  | rolledBack =>
      rw [← hsim]
      rfl

/-!
## Engines without a world

No command but `CreateWorld` is accepted without a world, and what it leaves is
determined by the command.
-/

def observe (sim : Simulation Pcg32Rng UnlimitedClock) (cmd : SimCommand) :
    Option ((ApiResult (List SimEvent) × Option World) × Simulation Pcg32Rng UnlimitedClock) :=
  (sim.processCommand cmd).map fun (result, next) => ((result, next.world), next)

/-- The answer to a valid command without a world. -/
def unloadedAnswer : SimCommand -> ApiResult (List SimEvent)
  | .createWorld c => .ok (genesisEvents c)
  | .tickN n => if n.toNat = 0 then .ok [] else .error .noWorldLoaded
  | _ => .error .noWorldLoaded

def UnloadedNext : SimCommand -> Simulation Pcg32Rng UnlimitedClock -> Prop
  | .createWorld c, next => next = Simulation.resumed (World.new c.name c.seed)
  | _, next => next.world = none

theorem processValid_unloaded (hworld : sim.world = none) (cmd : SimCommand) :
    exists next : Simulation Pcg32Rng UnlimitedClock,
      processValid sim.clearPending cmd = some (unloadedAnswer cmd, next) ∧
        UnloadedNext cmd next := by
  have hcleared : sim.clearPending.world = none := hworld
  cases cmd with
  | createWorld c =>
      refine ⟨sim.afterCreateWorld c, ?_, rfl⟩
      simp only [processValid, cmdCreateWorld, hcleared]
      rfl
  | tick =>
      refine ⟨sim.clearPending.restoreCheckpoint sim.clearPending.checkpoint, ?_, hworld⟩
      simp only [processValid, cmdTick_of_none hcleared]
      rfl
  | tickN n =>
      refine ⟨sim.clearPending, ?_, hworld⟩
      unfold processValid unloadedAnswer
      cases hn : n.toNat with
      | zero =>
          simp only [hn]
          rfl
      | succ m =>
          simp only [hn, cmdTickN, cmdTick_of_none hcleared, bind, Option.bind]
          rfl
  | spawnEntity c =>
      refine ⟨sim.clearPending.restoreCheckpoint sim.clearPending.checkpoint, ?_, hworld⟩
      simp only [processValid, cmdSpawnEntity, hcleared]
      rfl
  | despawnEntity id =>
      refine ⟨sim.clearPending.restoreCheckpoint sim.clearPending.checkpoint, ?_, hworld⟩
      simp only [processValid, cmdDespawnEntity, hcleared]
      rfl
  | createZone c =>
      refine ⟨sim.clearPending.restoreCheckpoint sim.clearPending.checkpoint, ?_, hworld⟩
      simp only [processValid, cmdCreateZone, hcleared]
      rfl

def SameHistory (left right : Simulation Pcg32Rng UnlimitedClock) : Prop :=
  (left.world = none ∧ right.world = none) ∨ left = right

theorem UnloadedNext.same {cmd : SimCommand}
    {left right : Simulation Pcg32Rng UnlimitedClock} (hleft : UnloadedNext cmd left)
    (hright : UnloadedNext cmd right) : SameHistory left right := by
  cases cmd with
  | createWorld c => exact Or.inr (Eq.trans hleft (Eq.symm hright))
  | tick => exact Or.inl ⟨hleft, hright⟩
  | tickN n => exact Or.inl ⟨hleft, hright⟩
  | spawnEntity c => exact Or.inl ⟨hleft, hright⟩
  | despawnEntity id => exact Or.inl ⟨hleft, hright⟩
  | createZone c => exact Or.inl ⟨hleft, hright⟩

theorem SameHistory.world_eq {left right : Simulation Pcg32Rng UnlimitedClock}
    (h : SameHistory left right) : left.world = right.world := by
  rcases h with ⟨hleft, hright⟩ | hsame
  · rw [hleft, hright]
  · rw [hsame]

theorem SameHistory.observe {left right : Simulation Pcg32Rng UnlimitedClock}
    (h : SameHistory left right) (cmd : SimCommand) :
    Agree SameHistory (left.observe cmd) (right.observe cmd) := by
  rcases h with ⟨hleft, hright⟩ | hsame
  · unfold Simulation.observe processCommand
    cases hvalid : validateSimCommand cmd with
    | error errors =>
        simp only [Option.map_some, hleft, hright]
        exact Agree.stepped (Or.inl ⟨hleft, hright⟩)
    | ok _ =>
        rcases processValid_unloaded hleft cmd with ⟨leftNext, hleftRun, hleftNext⟩
        rcases processValid_unloaded hright cmd with ⟨rightNext, hrightRun, hrightNext⟩
        have hnext : SameHistory leftNext rightNext := hleftNext.same hrightNext
        unfold clearPending at hleftRun hrightRun
        simp only [hleftRun, hrightRun, Option.map_some, hnext.world_eq]
        exact Agree.stepped hnext
  · rw [hsame]
    cases right.observe cmd with
    | none => exact Agree.aborted
    | some result => exact Agree.stepped (Or.inr rfl)

/-- Engines without a world answer every list of commands alike and hold the same world
after each of them, whatever their generators and clocks were. -/
theorem commands_determine_history {left right : Simulation Pcg32Rng UnlimitedClock}
    (hleft : left.world = none) (hright : right.world = none) (commands : List SimCommand) :
    (run Simulation.observe commands left).map Prod.fst =
      (run Simulation.observe commands right).map Prod.fst := by
  have hstart : SameHistory left right := Or.inl ⟨hleft, hright⟩
  have hstep : forall (state image : Simulation Pcg32Rng UnlimitedClock) (cmd : SimCommand),
      SameHistory state image -> True -> Agree SameHistory (state.observe cmd)
        (image.observe cmd) :=
    fun _ _ cmd h _ => SameHistory.observe h cmd
  have halong : Along Simulation.observe (fun _ _ => True) commands right :=
    Along.of_forall fun _ _ => trivial
  exact (run_simulation hstep hstart halong).outputs_eq

def worn : Simulation Pcg32Rng UnlimitedClock :=
  { world := none
    rng := (Pcg32Rng.new ⟨99⟩).advance
    clock := ⟨⟨41⟩⟩
    pendingEvents := [] }

theorem commands_determine_history_worn :
    (run Simulation.observe [.tick, .createWorld ⟨"Vale", ⟨7⟩⟩, .tickN 3] worn).map Prod.fst =
      (run Simulation.observe [.tick, .createWorld ⟨"Vale", ⟨7⟩⟩, .tickN 3]
        (Simulation.new Pcg32Rng.uninitialized UnlimitedClock.new)).map Prod.fst :=
  commands_determine_history rfl rfl _

end Simulation

end Seej
