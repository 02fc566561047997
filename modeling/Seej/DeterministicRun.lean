import Seej.CommandLemmas
import Seej.Determinism
import Seej.Foundation.Agenda
import Seej.Foundation.Checks
import Seej.Rng

/-!
# Determinism runner

The runner creates a world, feeds it a schedule of commands tick by tick, and
takes hashes on the way.  It sorts the schedule first and walks it with a cursor;
what it does depends only on the order of the commands within each tick.
-/

namespace Seej

open Foundation

structure Checkpoint where
  tick : Tick
  hash : StateHash
deriving DecidableEq

structure ScheduledCommand where
  tick : Tick
  command : SimCommand

/-- `s.tick.as_u64()`. -/
def ScheduledCommand.due (s : ScheduledCommand) : Nat := s.tick.val.toNat

structure DeterministicRunConfig where
  seed : RngSeed
  worldName : String
  inputs : List ScheduledCommand
  totalTicks : UInt64
  checkpointEvery : UInt64

structure DeterministicRunResult where
  checkpoints : List Checkpoint
  finalTick : Tick

/-!
## Runner

A run keeps the list of what it has done, each step with the iteration of the
loop over the ticks that it belongs to.  The list is read by no function; a panic
hands it over instead of a result.
-/

inductive RunStep where
  | input (tickNum : Nat) (scheduled : ScheduledCommand)
  | tick (tickNum : Nat)
  | checkpoint (tickNum : Nat)

namespace RunStep

def scheduled? : RunStep -> Option ScheduledCommand
  | .input _ scheduled => some scheduled
  | _ => none

def command? : RunStep -> Option SimCommand
  | .input _ scheduled => some scheduled.command
  | .tick _ => some .tick
  | .checkpoint _ => none

end RunStep

structure RunState (R C H : Type) where
  sim : Simulation R C
  hasher : H
  /-- Each checkpoint with the iteration that took it. -/
  checkpoints : List (Nat × Checkpoint)
  steps : List RunStep

section Runner

variable {R C H : Type} [IRng R] [ISimClock C] [IStateHasher H]

namespace RunState

/-- `sim.process_command(..).expect(..)`. -/
def perform (st : RunState R C H) (step : RunStep) (command : SimCommand) :
    Except (List RunStep) (RunState R C H) :=
  match st.sim.processCommand command with
  | some (.ok _, sim) => .ok { st with sim := sim, steps := st.steps ++ [step] }
  | _ => .error (st.steps ++ [step])

/-- The `while` loop: `inputs` is the schedule from `input_idx` on. -/
def performDue (tickNum : Nat) : List ScheduledCommand -> RunState R C H ->
    Except (List RunStep) (List ScheduledCommand × RunState R C H)
  | [], st => .ok ([], st)
  | input :: rest, st =>
      if input.due ≤ tickNum then do
        let st <- st.perform (.input tickNum input) input.command
        performDue tickNum rest st
      else .ok (input :: rest, st)

def pushCheckpoint (st : RunState R C H) (tickNum : Nat) : RunState R C H :=
  match st.sim.world with
  | some world =>
      let (hash, hasher) := computeCanonicalHash world st.hasher
      { st with
        hasher := hasher
        checkpoints := st.checkpoints ++ [(tickNum, ⟨world.currentTick, hash⟩)]
        steps := st.steps ++ [.checkpoint tickNum] }
  | none => st

end RunState

namespace DeterministicRunConfig

def shouldCheckpoint (config : DeterministicRunConfig) (tickNum : Nat) : Bool :=
  decide (0 < config.checkpointEvery) &&
    decide ((tickNum + 1) % config.checkpointEvery.toNat = 0)

def runTick (config : DeterministicRunConfig) (tickNum : Nat)
    (inputs : List ScheduledCommand) (st : RunState R C H) :
    Except (List RunStep) (List ScheduledCommand × RunState R C H) := do
  let (inputs, st) <- st.performDue tickNum inputs
  let st <- st.perform (.tick tickNum) .tick
  if config.shouldCheckpoint tickNum ∨ tickNum + 1 = config.totalTicks.toNat then
    return (inputs, st.pushCheckpoint tickNum)
  else
    return (inputs, st)

def runTicks (config : DeterministicRunConfig) :
    Nat -> List ScheduledCommand -> RunState R C H ->
      Except (List RunStep) (List ScheduledCommand × RunState R C H)
  | 0, inputs, st => .ok (inputs, st)
  | n + 1, inputs, st => do
      let (inputs, st) <- config.runTicks n inputs st
      config.runTick n inputs st

def createCommand (config : DeterministicRunConfig) : SimCommand :=
  .createWorld { name := config.worldName, seed := config.seed }

def createWorld (config : DeterministicRunConfig) (rng : R) (clock : C) (hasher : H) :
    Except (List RunStep) (RunState R C H) :=
  match (Simulation.new rng clock).processCommand config.createCommand with
  | some (.ok _, sim) => .ok { sim := sim, hasher := hasher, checkpoints := [], steps := [] }
  | _ => .error []

def runLoop (config : DeterministicRunConfig) (rng : R) (clock : C) (hasher : H) :
    Except (List RunStep) (RunState R C H) := do
  let st <- config.createWorld rng clock hasher
  let inputs := sortByKey ScheduledCommand.due config.inputs
  let (_, st) <- config.runTicks config.totalTicks.toNat inputs st
  return st

end DeterministicRunConfig

/-- The result and the hasher after the run; `none` is a panic. -/
def runDeterministic (config : DeterministicRunConfig) (rng : R) (clock : C) (hasher : H) :
    Option (DeterministicRunResult × H) :=
  match config.runLoop rng clock hasher with
  | .ok st =>
      let finalTick :=
        match st.sim.world with
        | some world => world.currentTick
        | none => Tick.zero
      some ({ checkpoints := st.checkpoints.map Prod.snd, finalTick := finalTick }, st.hasher)
  | .error _ => none

end Runner

/-- The loop over the pairs of checkpoints. -/
def verifyCheckpoints : List Checkpoint -> List Checkpoint -> Except Tick Unit
  | a :: restA, b :: restB =>
      if a.tick ≠ b.tick then .error (if a.tick ≤ b.tick then a.tick else b.tick)
      else if a.hash ≠ b.hash then .error a.tick
      else verifyCheckpoints restA restB
  | _, _ => .ok ()

def verifyDeterminism (runA runB : DeterministicRunResult) : Except Tick Unit :=
  if runA.checkpoints.length ≠ runB.checkpoints.length then .error Tick.zero
  else verifyCheckpoints runA.checkpoints runB.checkpoints

/-!
## Commands in order
-/

namespace Simulation

variable {R C : Type} [IRng R] [ISimClock C]

def acceptOne (sim : Simulation R C) (cmd : SimCommand) : Option (Simulation R C) :=
  match sim.processCommand cmd with
  | some (.ok _, next) => some next
  | _ => none

def acceptAll (sim : Simulation R C) (cmds : List SimCommand) : Option (Simulation R C) :=
  cmds.foldlM acceptOne sim

/-- Every command but the last one is accepted. -/
def RefusesLast (sim : Simulation R C) (cmds : List SimCommand) : Prop :=
  exists (done : List SimCommand) (last : SimCommand) (before : Simulation R C),
    cmds = done ++ [last] ∧ sim.acceptAll done = some before ∧ before.acceptOne last = none

variable {sim middle next : Simulation R C} {left right cmds : List SimCommand}
  {cmd : SimCommand}

theorem acceptAll_append :
    sim.acceptAll (left ++ right) = (sim.acceptAll left).bind (fun s => s.acceptAll right) := by
  unfold acceptAll
  exact List.foldlM_append

theorem acceptAll_singleton (h : sim.acceptOne cmd = some next) :
    sim.acceptAll [cmd] = some next := by
  unfold acceptAll
  rw [List.foldlM_cons, h]
  rfl

theorem acceptAll_trans (hleft : sim.acceptAll left = some middle)
    (hright : middle.acceptAll right = some next) :
    sim.acceptAll (left ++ right) = some next := by
  rw [acceptAll_append, hleft]
  exact hright

theorem RefusesLast.singleton (h : sim.acceptOne cmd = none) : sim.RefusesLast [cmd] :=
  ⟨[], cmd, sim, rfl, rfl, h⟩

theorem RefusesLast.after (hleft : sim.acceptAll left = some middle)
    (h : middle.RefusesLast right) : sim.RefusesLast (left ++ right) := by
  rcases h with ⟨done, last, before, hright, hdone, hlast⟩
  have hall : sim.acceptAll (left ++ done) = some before := acceptAll_trans hleft hdone
  exact ⟨left ++ done, last, before, by rw [hright, List.append_assoc], hall, hlast⟩

/-- Nothing that goes on behind a refused command is accepted. -/
theorem RefusesLast.acceptAll_eq_none (h : sim.RefusesLast left) (hstart : left <+: cmds) :
    sim.acceptAll cmds = none := by
  rcases h with ⟨done, last, before, hleft, hdone, hlast⟩
  rcases hstart with ⟨rest, hcmds⟩
  rw [← hcmds, hleft, List.append_assoc, acceptAll_append, hdone, Option.bind_some,
    List.singleton_append]
  unfold acceptAll
  rw [List.foldlM_cons, hlast]
  rfl

end Simulation

/-!
## Plan

What a run does, written down from the configuration alone.  The engine after an
iteration is a new one that was given the command which creates the world and the
commands planned up to there, and a checkpoint is taken of its world.
-/

namespace DeterministicRunConfig

/-- The number of the iteration, counted from one, is a multiple of a positive
`checkpoint_every`, or the iteration is the last one. -/
def takesCheckpoint (config : DeterministicRunConfig) (tickNum : Nat) : Prop :=
  (0 < config.checkpointEvery.toNat ∧ config.checkpointEvery.toNat ∣ tickNum + 1) ∨
    tickNum + 1 = config.totalTicks.toNat

instance (config : DeterministicRunConfig) (tickNum : Nat) :
    Decidable (config.takesCheckpoint tickNum) := by
  unfold takesCheckpoint
  infer_instance

def inputsAt (config : DeterministicRunConfig) (tickNum : Nat) : List ScheduledCommand :=
  dueAt ScheduledCommand.due tickNum config.inputs

def plannedTick (config : DeterministicRunConfig) (tickNum : Nat) : List RunStep :=
  (config.inputsAt tickNum).map (RunStep.input tickNum) ++
    ([.tick tickNum] ++
      if config.takesCheckpoint tickNum then [.checkpoint tickNum] else [])

/-- The steps of the first iterations. -/
def planned (config : DeterministicRunConfig) (n : Nat) : List RunStep :=
  (List.range n).flatMap config.plannedTick

def checkpointTicks (config : DeterministicRunConfig) (n : Nat) : List Nat :=
  (List.range n).filter (fun tickNum => decide (config.takesCheckpoint tickNum))

def plannedCommands (config : DeterministicRunConfig) (n : Nat) : List SimCommand :=
  config.createCommand :: (List.range n).flatMap (fun tickNum =>
    (config.inputsAt tickNum).map ScheduledCommand.command ++ [.tick])

section Planned

variable {R C H : Type} [IRng R] [ISimClock C] [IStateHasher H]

def plannedSim (config : DeterministicRunConfig) (rng : R) (clock : C) (n : Nat) :
    Option (Simulation R C) :=
  (Simulation.new rng clock).acceptAll (config.plannedCommands n)

def plannedCheckpoint (config : DeterministicRunConfig) (rng : R) (clock : C)
    (taken : List Checkpoint × H) (tickNum : Nat) : Option (List Checkpoint × H) := do
  let sim <- config.plannedSim rng clock (tickNum + 1)
  let world <- sim.world
  let (hash, hasher) := computeCanonicalHash world taken.snd
  return (taken.fst ++ [⟨world.currentTick, hash⟩], hasher)

def plannedCheckpoints (config : DeterministicRunConfig) (rng : R) (clock : C) (hasher : H)
    (n : Nat) : Option (List Checkpoint × H) :=
  (config.checkpointTicks n).foldlM (config.plannedCheckpoint rng clock) ([], hasher)

/-- What the runner returns, and the hasher; `none` if a command is not accepted. -/
def plannedResult (config : DeterministicRunConfig) (rng : R) (clock : C) (hasher : H) :
    Option (DeterministicRunResult × H) := do
  let sim <- config.plannedSim rng clock config.totalTicks.toNat
  let world <- sim.world
  let (checkpoints, hasher) <-
    config.plannedCheckpoints rng clock hasher config.totalTicks.toNat
  return ({ checkpoints := checkpoints, finalTick := world.currentTick }, hasher)

end Planned

end DeterministicRunConfig

/-!
## What one call does
-/

theorem Simulation.processCommand_keeps_world {R C : Type} [IRng R] [ISimClock C]
    {sim next : Simulation R C} {cmd : SimCommand} {events : List SimEvent}
    (h : sim.processCommand cmd = some (.ok events, next))
    (hworld : sim.world.isSome = true) : next.world.isSome = true := by
  cases Simulation.processCommand_ok h with
  | createWorld c hnone =>
      rw [hnone] at hworld
      cases hworld
  | tick htick =>
      rcases Simulation.cmdTick_ok_world htick with ⟨world, hnext⟩
      exact Option.isSome_iff_exists.mpr ⟨world, hnext⟩
  | tickN htick =>
      have hkeeps : forall before after : Simulation R C, before.world.isSome = true ->
          before.cmdTick = some (.ok (), after) -> after.world.isSome = true := by
        intro before after _ hstep
        rcases Simulation.cmdTick_ok_world hstep with ⟨world, hafter⟩
        exact Option.isSome_iff_exists.mpr ⟨world, hafter⟩
      have hnext := Simulation.cmdTickN_invariant hkeeps htick hworld
      exact hnext
  | spawnEntity _ _ _ => rfl
  | despawnEntity _ _ => rfl
  | createZone _ _ => rfl

section Runs

variable {R C H : Type}

namespace RunState

variable [IRng R] [ISimClock C]

/-- The run went on by some steps and took no checkpoint. -/
structure Advanced (st next : RunState R C H) (done : List RunStep) : Prop where
  steps : next.steps = st.steps ++ done
  sim : st.sim.acceptAll (done.filterMap RunStep.command?) = some next.sim
  checkpoints : next.checkpoints = st.checkpoints
  hasher : next.hasher = st.hasher
  loaded : st.sim.world.isSome = true -> next.sim.world.isSome = true

structure Stopped (st : RunState R C H) (plan done tried : List RunStep) : Prop where
  steps : tried = st.steps ++ done
  part : done <+: plan
  refused : st.sim.RefusesLast (done.filterMap RunStep.command?)

theorem Advanced.refl (st : RunState R C H) : Advanced st st [] :=
  ⟨(List.append_nil st.steps).symm, rfl, rfl, rfl, fun h => h⟩

theorem Advanced.trans {st middle next : RunState R C H} {left right : List RunStep}
    (h : Advanced st middle left) (h' : Advanced middle next right) :
    Advanced st next (left ++ right) := by
  constructor
  · rw [h'.steps, h.steps, List.append_assoc]
  · rw [List.filterMap_append]
    exact Simulation.acceptAll_trans h.sim h'.sim
  · rw [h'.checkpoints, h.checkpoints]
  · rw [h'.hasher, h.hasher]
  · intro hst
    exact h'.loaded (h.loaded hst)

theorem Stopped.after {st middle : RunState R C H} {left right done steps : List RunStep}
    (h : Advanced st middle left) (h' : Stopped middle right done steps) :
    Stopped st (left ++ right) (left ++ done) steps := by
  constructor
  · rw [h'.steps, h.steps, List.append_assoc]
  · exact (List.prefix_append_right_inj left).mpr h'.part
  · rw [List.filterMap_append]
    exact Simulation.RefusesLast.after h.sim h'.refused

theorem Stopped.mono {st : RunState R C H} {plan more done steps : List RunStep}
    (h : Stopped st plan done steps) : Stopped st (plan ++ more) done steps :=
  ⟨h.steps, h.part.trans (List.prefix_append plan more), h.refused⟩

theorem perform_ok {st next : RunState R C H} {step : RunStep} {command : SimCommand}
    (hcommand : step.command? = some command) (h : st.perform step command = .ok next) :
    Advanced st next [step] := by
  unfold perform at h
  split at h
  · case h_1 events sim hprocess =>
      cases h
      have haccept : st.sim.acceptOne command = some sim := by
        unfold Simulation.acceptOne
        rw [hprocess]
      have hsim : st.sim.acceptAll ([step].filterMap RunStep.command?) = some sim := by
        rw [List.filterMap_cons_some hcommand]
        exact Simulation.acceptAll_singleton haccept
      exact ⟨rfl, hsim, rfl, rfl, Simulation.processCommand_keeps_world hprocess⟩
  · cases h

theorem perform_error {st : RunState R C H} {step : RunStep} {command : SimCommand}
    {steps : List RunStep} (hcommand : step.command? = some command)
    (h : st.perform step command = .error steps) : Stopped st [step] [step] steps := by
  have hrefused : st.sim.acceptOne command = none ∧ steps = st.steps ++ [step] := by
    unfold perform at h
    unfold Simulation.acceptOne
    split at h
    · cases h
    · cases h
      exact ⟨rfl, rfl⟩
  constructor
  · exact hrefused.right
  · exact List.prefix_refl [step]
  · rw [List.filterMap_cons_some hcommand]
    exact Simulation.RefusesLast.singleton hrefused.left

variable {tickNum : Nat} {due later : List ScheduledCommand}

theorem performDue_ok {st next : RunState R C H} {rest : List ScheduledCommand}
    (hdue : forall a : ScheduledCommand, a ∈ due -> a.due ≤ tickNum)
    (hlater : forall a : ScheduledCommand, a ∈ later -> tickNum < a.due)
    (h : st.performDue tickNum (due ++ later) = .ok (rest, next)) :
    rest = later ∧ Advanced st next (due.map (RunStep.input tickNum)) := by
  induction due generalizing st with
  | nil =>
      rw [List.nil_append] at h
      cases later with
      | nil =>
          cases h
          exact ⟨rfl, Advanced.refl _⟩
      | cons a more =>
          have ha : tickNum < a.due := hlater a List.mem_cons_self
          rw [performDue, if_neg (Nat.not_le_of_lt ha)] at h
          cases h
          exact ⟨rfl, Advanced.refl _⟩
  | cons a more ih =>
      rw [List.cons_append, performDue, if_pos (hdue a List.mem_cons_self), bind_eq_ok] at h
      rcases h with ⟨middle, hperform, hrest⟩
      rcases ih (fun b hb => hdue b (List.mem_cons_of_mem a hb)) hrest with ⟨heq, hadvanced⟩
      exact ⟨heq, (perform_ok rfl hperform).trans hadvanced⟩

theorem performDue_error {st : RunState R C H} {steps : List RunStep}
    (hdue : forall a : ScheduledCommand, a ∈ due -> a.due ≤ tickNum)
    (hlater : forall a : ScheduledCommand, a ∈ later -> tickNum < a.due)
    (h : st.performDue tickNum (due ++ later) = .error steps) :
    exists done : List RunStep, Stopped st (due.map (RunStep.input tickNum)) done steps := by
  induction due generalizing st with
  | nil =>
      rw [List.nil_append] at h
      cases later with
      | nil => cases h
      | cons a more =>
          have ha : tickNum < a.due := hlater a List.mem_cons_self
          rw [performDue, if_neg (Nat.not_le_of_lt ha)] at h
          cases h
  | cons a more ih =>
      rw [List.cons_append, performDue, if_pos (hdue a List.mem_cons_self), bind_eq_error] at h
      rw [List.map_cons]
      rcases h with hperform | ⟨middle, hperform, hrest⟩
      · exact ⟨_, (perform_error rfl hperform).mono⟩
      · rcases ih (fun b hb => hdue b (List.mem_cons_of_mem a hb)) hrest with ⟨done, hstopped⟩
        exact ⟨_, hstopped.after (perform_ok rfl hperform)⟩

omit [IRng R] [ISimClock C] in
theorem pushCheckpoint_eq [IStateHasher H] (tickNum : Nat) {st : RunState R C H} {world : World}
    (hworld : st.sim.world = some world) :
    st.pushCheckpoint tickNum =
      { st with
        hasher := (computeCanonicalHash world st.hasher).snd
        checkpoints := st.checkpoints ++
          [(tickNum, ⟨world.currentTick, (computeCanonicalHash world st.hasher).fst⟩)]
        steps := st.steps ++ [.checkpoint tickNum] } := by
  unfold pushCheckpoint
  rw [hworld]

end RunState

/-!
## What the loop does
-/

namespace DeterministicRunConfig

open RunState

variable {config : DeterministicRunConfig}

theorem shouldCheckpoint_eq_true (tickNum : Nat) :
    config.shouldCheckpoint tickNum = true <->
      0 < config.checkpointEvery.toNat ∧ config.checkpointEvery.toNat ∣ tickNum + 1 := by
  unfold shouldCheckpoint
  rw [Bool.and_eq_true, decide_eq_true_eq, decide_eq_true_eq, Nat.dvd_iff_mod_eq_zero]
  rfl

def scheduleFrom (config : DeterministicRunConfig) (tickNum : Nat) : List ScheduledCommand :=
  dueFrom ScheduledCommand.due tickNum (sortByKey ScheduledCommand.due config.inputs)

theorem scheduleFrom_zero :
    config.scheduleFrom 0 = sortByKey ScheduledCommand.due config.inputs :=
  dueFrom_of_forall_le (fun _ _ => Nat.zero_le _)

theorem scheduleFrom_eq_append (tickNum : Nat) :
    config.scheduleFrom tickNum =
      config.inputsAt tickNum ++ config.scheduleFrom (tickNum + 1) := by
  unfold scheduleFrom inputsAt
  rw [dueFrom_eq_append (sortByKey_sorted config.inputs), dueAt_sortByKey, dueAfter_eq_dueFrom]

theorem due_of_mem_inputsAt {tickNum : Nat} {a : ScheduledCommand}
    (h : a ∈ config.inputsAt tickNum) : a.due ≤ tickNum :=
  le_of_eq (mem_of_mem_dueAt h).right

theorem due_of_mem_scheduleFrom {tickNum : Nat} {a : ScheduledCommand}
    (h : a ∈ config.scheduleFrom (tickNum + 1)) : tickNum < a.due := by
  unfold scheduleFrom at h
  rw [← dueAfter_eq_dueFrom] at h
  exact lt_of_mem_dueAfter h

theorem planned_succ (n : Nat) :
    config.planned (n + 1) = config.planned n ++ config.plannedTick n := by
  unfold planned
  rw [List.range_succ, List.flatMap_append, List.flatMap_singleton]

theorem checkpointTicks_succ (n : Nat) :
    config.checkpointTicks (n + 1) =
      config.checkpointTicks n ++ if config.takesCheckpoint n then [n] else [] := by
  unfold checkpointTicks
  rw [List.range_succ, List.filter_append]
  by_cases h : config.takesCheckpoint n
  · simp [h]
  · simp [h]

theorem plannedCommands_eq (n : Nat) :
    config.plannedCommands n =
      config.createCommand :: (config.planned n).filterMap RunStep.command? := by
  have hturn : forall tickNum : Nat, (config.plannedTick tickNum).filterMap RunStep.command? =
      (config.inputsAt tickNum).map ScheduledCommand.command ++ [.tick] := by
    intro tickNum
    have hinputs : ((config.inputsAt tickNum).map (RunStep.input tickNum)).filterMap
        RunStep.command? = (config.inputsAt tickNum).map ScheduledCommand.command := by
      rw [List.filterMap_map, ← List.filterMap_eq_map]
      rfl
    unfold plannedTick
    rw [List.filterMap_append, hinputs]
    by_cases h : config.takesCheckpoint tickNum
    · simp [h, RunStep.command?]
    · simp [h, RunStep.command?]
  unfold plannedCommands planned
  rw [List.filterMap_flatMap]
  simp only [hturn]

variable [IRng R] [ISimClock C] [IStateHasher H] {rng : R} {clock : C} {hasher : H}

/-- A run before an iteration: it has done what was planned up to here. -/
structure OnPlan (config : DeterministicRunConfig) (rng : R) (clock : C) (hasher : H) (n : Nat)
    (inputs : List ScheduledCommand) (st : RunState R C H) : Prop where
  inputs : inputs = config.scheduleFrom n
  steps : st.steps = config.planned n
  sim : config.plannedSim rng clock n = some st.sim
  checkpoints : st.checkpoints.map Prod.fst = config.checkpointTicks n
  taken : config.plannedCheckpoints rng clock hasher n =
    some (st.checkpoints.map Prod.snd, st.hasher)
  loaded : st.sim.world.isSome = true

theorem createWorld_ok {st : RunState R C H}
    (h : config.createWorld rng clock hasher = .ok st) :
    OnPlan config rng clock hasher 0 (sortByKey ScheduledCommand.due config.inputs) st := by
  unfold createWorld at h
  split at h
  · case h_1 events sim hprocess =>
      cases h
      have hworld : sim.world.isSome = true := by
        cases Simulation.processCommand_ok hprocess
        rfl
      have hsim : config.plannedSim rng clock 0 = some sim := by
        apply Simulation.acceptAll_singleton
        unfold Simulation.acceptOne
        rw [hprocess]
      exact ⟨scheduleFrom_zero.symm, rfl, hsim, rfl, rfl, hworld⟩
  · cases h

omit [IStateHasher H] in
theorem createWorld_error {steps : List RunStep}
    (h : config.createWorld rng clock hasher = .error steps) :
    steps = [] ∧ (Simulation.new rng clock).acceptOne config.createCommand = none := by
  unfold createWorld at h
  unfold Simulation.acceptOne
  split at h
  · cases h
  · cases h
    exact ⟨rfl, rfl⟩

theorem plannedSim_trans {n m : Nat} {steps : List RunStep} {sim next : Simulation R C}
    (hsim : config.plannedSim rng clock n = some sim)
    (hsteps : config.planned m = config.planned n ++ steps)
    (hnext : sim.acceptAll (steps.filterMap RunStep.command?) = some next) :
    config.plannedSim rng clock m = some next := by
  unfold plannedSim at hsim ⊢
  rw [plannedCommands_eq] at hsim ⊢
  rw [hsteps, List.filterMap_append, ← List.cons_append]
  exact Simulation.acceptAll_trans hsim hnext

theorem plannedCheckpoints_succ (n : Nat) :
    config.plannedCheckpoints rng clock hasher (n + 1) =
      if config.takesCheckpoint n then
        (config.plannedCheckpoints rng clock hasher n).bind
          (fun taken => config.plannedCheckpoint rng clock taken n)
      else config.plannedCheckpoints rng clock hasher n := by
  unfold plannedCheckpoints
  rw [checkpointTicks_succ]
  by_cases h : config.takesCheckpoint n
  · rw [if_pos h, if_pos h, List.foldlM_append]
    simp only [List.foldlM_cons, List.foldlM_nil, bind_pure]
    rfl
  · rw [if_neg h, if_neg h, List.append_nil]

/-- One iteration keeps to the plan. -/
theorem runTick_ok {n : Nat} {inputs inputs' : List ScheduledCommand}
    {st next : RunState R C H} (hplan : OnPlan config rng clock hasher n inputs st)
    (h : config.runTick n inputs st = .ok (inputs', next)) :
    OnPlan config rng clock hasher (n + 1) inputs' next := by
  unfold runTick at h
  rw [hplan.inputs, scheduleFrom_eq_append, bind_eq_ok] at h
  rcases h with ⟨⟨rest, due⟩, hdue, h⟩
  rcases performDue_ok (fun _ => due_of_mem_inputsAt) (fun _ => due_of_mem_scheduleFrom) hdue with
    ⟨hrest, hadvanced⟩
  rw [bind_eq_ok] at h
  rcases h with ⟨ticked, htick, h⟩
  have hall := hadvanced.trans (perform_ok rfl htick)
  have hloaded := hall.loaded hplan.loaded
  have hdecision : config.takesCheckpoint n <->
      config.shouldCheckpoint n = true ∨ n + 1 = config.totalTicks.toNat := by
    rw [shouldCheckpoint_eq_true]
    rfl
  have hcommands : (config.plannedTick n).filterMap RunStep.command? =
      ((config.inputsAt n).map (RunStep.input n) ++ [RunStep.tick n]).filterMap
        RunStep.command? := by
    unfold plannedTick
    by_cases htakes : config.takesCheckpoint n
    · simp [htakes, RunStep.command?]
    · simp [htakes]
  have hsim : config.plannedSim rng clock (n + 1) = some ticked.sim := by
    apply plannedSim_trans hplan.sim (planned_succ n)
    rw [hcommands]
    exact hall.sim
  by_cases htakes : config.takesCheckpoint n
  · rw [if_pos (hdecision.mp htakes)] at h
    rcases Option.isSome_iff_exists.mp hloaded with ⟨world, hworld⟩
    rw [pushCheckpoint_eq n hworld] at h
    cases h
    constructor
    · exact hrest
    · rw [hall.steps, hplan.steps, planned_succ, plannedTick, if_pos htakes]
      simp only [List.append_assoc]
    · exact hsim
    · rw [List.map_append, hall.checkpoints, hplan.checkpoints, checkpointTicks_succ,
        if_pos htakes]
      rfl
    · rw [plannedCheckpoints_succ, if_pos htakes, hplan.taken, Option.bind_some,
        plannedCheckpoint, hsim, List.map_append, hall.checkpoints, hall.hasher]
      simp only [Option.bind_eq_bind, Option.bind_some, hworld]
      rfl
    · exact hloaded
  · rw [if_neg (fun hyes => htakes (hdecision.mpr hyes))] at h
    cases h
    constructor
    · exact hrest
    · rw [hall.steps, hplan.steps, planned_succ, plannedTick, if_neg htakes, List.append_nil]
    · exact hsim
    · rw [hall.checkpoints, hplan.checkpoints, checkpointTicks_succ, if_neg htakes,
        List.append_nil]
    · rw [plannedCheckpoints_succ, if_neg htakes, hplan.taken, hall.checkpoints, hall.hasher]
    · exact hloaded

theorem runTick_error {n : Nat} {inputs : List ScheduledCommand} {st : RunState R C H}
    {steps : List RunStep} (hplan : OnPlan config rng clock hasher n inputs st)
    (h : config.runTick n inputs st = .error steps) :
    exists done : List RunStep, Stopped st (config.plannedTick n) done steps := by
  unfold runTick at h
  rw [hplan.inputs, scheduleFrom_eq_append, bind_eq_error] at h
  rw [plannedTick]
  rcases h with hdue | ⟨⟨rest, due⟩, hdue, h⟩
  · rcases performDue_error (fun _ => due_of_mem_inputsAt)
      (fun _ => due_of_mem_scheduleFrom) hdue with ⟨done, hstopped⟩
    exact ⟨done, hstopped.mono⟩
  · rcases performDue_ok (fun _ => due_of_mem_inputsAt) (fun _ => due_of_mem_scheduleFrom)
      hdue with ⟨_, hadvanced⟩
    rw [bind_eq_error] at h
    rcases h with htick | ⟨ticked, _, h⟩
    · exact ⟨_, (perform_error rfl htick).mono.after hadvanced⟩
    · split at h
      · cases h
      · cases h

/-- Any number of iterations keeps to the plan. -/
theorem runTicks_ok {n : Nat} {inputs inputs' : List ScheduledCommand}
    {st next : RunState R C H} (hplan : OnPlan config rng clock hasher 0 inputs st)
    (h : config.runTicks n inputs st = .ok (inputs', next)) :
    OnPlan config rng clock hasher n inputs' next := by
  induction n generalizing inputs' next with
  | zero =>
      cases h
      exact hplan
  | succ n ih =>
      rw [runTicks, bind_eq_ok] at h
      rcases h with ⟨⟨middle, before⟩, hbefore, hlast⟩
      exact runTick_ok (ih hbefore) hlast

/-- A run that panics has tried a part of its plan and was refused at the end of it. -/
structure StopsOnPlan (config : DeterministicRunConfig) (rng : R) (clock : C)
    (n : Nat) (steps : List RunStep) : Prop where
  part : steps <+: config.planned n
  refused : (Simulation.new rng clock).RefusesLast
    (config.createCommand :: steps.filterMap RunStep.command?)

omit [IStateHasher H] in
theorem StopsOnPlan.plannedSim_eq_none {n : Nat} {steps : List RunStep}
    (h : StopsOnPlan config rng clock n steps) : config.plannedSim rng clock n = none := by
  apply h.refused.acceptAll_eq_none
  rw [plannedCommands_eq, List.prefix_cons_inj]
  exact h.part.filterMap _

theorem runTicks_error {n : Nat} {inputs : List ScheduledCommand} {st : RunState R C H}
    {steps : List RunStep} (hplan : OnPlan config rng clock hasher 0 inputs st)
    (h : config.runTicks n inputs st = .error steps) : StopsOnPlan config rng clock n steps := by
  induction n with
  | zero => cases h
  | succ n ih =>
      rw [runTicks, bind_eq_error] at h
      rcases h with hbefore | ⟨⟨middle, before⟩, hbefore, hlast⟩
      · have hstops := ih hbefore
        constructor
        · rw [planned_succ]
          exact hstops.part.trans (List.prefix_append _ _)
        · exact hstops.refused
      · have hmiddle := runTicks_ok hplan hbefore
        rcases runTick_error hmiddle hlast with ⟨done, hstopped⟩
        constructor
        · rw [hstopped.steps, hmiddle.steps, planned_succ, List.prefix_append_right_inj]
          exact hstopped.part
        · have hsim := hmiddle.sim
          unfold plannedSim at hsim
          rw [plannedCommands_eq] at hsim
          rw [hstopped.steps, hmiddle.steps, List.filterMap_append, ← List.cons_append]
          exact hstopped.refused.after hsim

theorem runLoop_ok {st : RunState R C H} (h : config.runLoop rng clock hasher = .ok st) :
    exists inputs : List ScheduledCommand,
      OnPlan config rng clock hasher config.totalTicks.toNat inputs st := by
  unfold runLoop at h
  rw [bind_eq_ok] at h
  rcases h with ⟨start, hcreate, h⟩
  rw [bind_eq_ok] at h
  rcases h with ⟨⟨rest, final⟩, hticks, h⟩
  cases h
  exact ⟨rest, runTicks_ok (createWorld_ok hcreate) hticks⟩

theorem runLoop_error {steps : List RunStep}
    (h : config.runLoop rng clock hasher = .error steps) :
    StopsOnPlan config rng clock config.totalTicks.toNat steps := by
  unfold runLoop at h
  rw [bind_eq_error] at h
  rcases h with hcreate | ⟨start, hcreate, h⟩
  · rcases createWorld_error hcreate with ⟨hsteps, hrefused⟩
    rw [hsteps]
    exact ⟨List.nil_prefix, Simulation.RefusesLast.singleton hrefused⟩
  · rw [bind_eq_error] at h
    rcases h with hticks | ⟨⟨rest, final⟩, _, h⟩
    · exact runTicks_error (createWorld_ok hcreate) hticks
    · cases h

/-!
## Inputs in another order
-/

theorem runTicks_inputs (reordered : List ScheduledCommand) (n : Nat)
    (inputs : List ScheduledCommand) (st : RunState R C H) :
    { config with inputs := reordered }.runTicks n inputs st = config.runTicks n inputs st := by
  induction n with
  | zero => rfl
  | succ n ih =>
      rw [runTicks, runTicks, ih]
      rfl

/-- The loop sees the inputs only through the sorted schedule. -/
theorem runLoop_inputs {reordered : List ScheduledCommand}
    (h : SameAgenda ScheduledCommand.due reordered config.inputs) (rng : R) (clock : C)
    (hasher : H) :
    { config with inputs := reordered }.runLoop rng clock hasher =
      config.runLoop rng clock hasher := by
  unfold runLoop
  simp only [runTicks_inputs, h.sortByKey_eq]
  rfl

/-!
## The inputs of a run
-/

theorem filterMap_scheduled_plannedTick (tickNum : Nat) :
    (config.plannedTick tickNum).filterMap RunStep.scheduled? = config.inputsAt tickNum := by
  have hinputs : ((config.inputsAt tickNum).map (RunStep.input tickNum)).filterMap
      RunStep.scheduled? = config.inputsAt tickNum := by
    rw [List.filterMap_map]
    exact List.filterMap_some
  unfold plannedTick
  rw [List.filterMap_append, hinputs]
  by_cases h : config.takesCheckpoint tickNum
  · simp [h, RunStep.scheduled?]
  · simp [h, RunStep.scheduled?]

theorem filterMap_scheduled_planned (n : Nat) :
    ((config.planned n).filterMap RunStep.scheduled?).Perm
      (config.inputs.filter (fun a => decide (a.due < n))) := by
  have hturns : (config.planned n).filterMap RunStep.scheduled? =
      (List.range n).flatMap (fun tickNum => dueAt ScheduledCommand.due tickNum config.inputs) := by
    unfold planned
    rw [List.filterMap_flatMap]
    simp only [filterMap_scheduled_plannedTick]
    rfl
  rw [hturns]
  exact flatMap_dueAt_perm n config.inputs

end DeterministicRunConfig

open DeterministicRunConfig

variable [IRng R] [ISimClock C] [IStateHasher H]

/-- The runner returns what is planned, and panics if a planned command is not
accepted. -/
theorem runDeterministic_eq (config : DeterministicRunConfig) (rng : R) (clock : C)
    (hasher : H) :
    runDeterministic config rng clock hasher = config.plannedResult rng clock hasher := by
  unfold runDeterministic plannedResult
  cases hrun : config.runLoop rng clock hasher with
  | error steps =>
      rw [(runLoop_error hrun).plannedSim_eq_none]
      rfl
  | ok st =>
      rcases runLoop_ok hrun with ⟨inputs, hplan⟩
      rcases Option.isSome_iff_exists.mp hplan.loaded with ⟨world, hworld⟩
      rw [hplan.sim, hplan.taken]
      simp only [Option.bind_eq_bind, Option.bind_some, hworld]
      rfl

/-- Only the order within each tick matters, and a run does what is planned: the
inputs of an iteration in their order, its tick, and its checkpoint if it has one.
The engine has processed exactly the commands of these steps, and the result is read
from the worlds that they make. -/
theorem runDeterministic_follows_plan (config : DeterministicRunConfig)
    (reordered : List ScheduledCommand)
    (h : SameAgenda ScheduledCommand.due reordered config.inputs) (rng : R) (clock : C)
    (hasher : H) :
    runDeterministic { config with inputs := reordered } rng clock hasher =
        runDeterministic config rng clock hasher ∧
      runDeterministic config rng clock hasher = config.plannedResult rng clock hasher ∧
      match config.runLoop rng clock hasher with
      | .error steps =>
          runDeterministic config rng clock hasher = none ∧
            steps <+: config.planned config.totalTicks.toNat ∧
            (Simulation.new rng clock).RefusesLast
              (config.createCommand :: steps.filterMap RunStep.command?)
      | .ok st =>
          st.steps = config.planned config.totalTicks.toNat ∧
            (Simulation.new rng clock).acceptAll
              (config.createCommand :: st.steps.filterMap RunStep.command?) = some st.sim ∧
            (st.steps.filterMap RunStep.scheduled?).Perm
              (config.inputs.filter (fun a => decide (a.due < config.totalTicks.toNat))) ∧
            st.checkpoints.map Prod.fst = config.checkpointTicks config.totalTicks.toNat ∧
            (st.checkpoints.map Prod.fst).Nodup ∧
            exists world : World, st.sim.world = some world ∧
              runDeterministic config rng clock hasher =
                some ({ checkpoints := st.checkpoints.map Prod.snd,
                        finalTick := world.currentTick }, st.hasher) := by
  constructor
  · unfold runDeterministic
    rw [runLoop_inputs h]
  constructor
  · exact runDeterministic_eq config rng clock hasher
  · cases hrun : config.runLoop rng clock hasher with
    | error steps =>
        have hstops := runLoop_error hrun
        constructor
        · unfold runDeterministic
          rw [hrun]
        · exact ⟨hstops.part, hstops.refused⟩
    | ok st =>
        rcases runLoop_ok hrun with ⟨inputs, hplan⟩
        rcases Option.isSome_iff_exists.mp hplan.loaded with ⟨world, hworld⟩
        constructor
        · exact hplan.steps
        constructor
        · rw [hplan.steps, ← plannedCommands_eq]
          exact hplan.sim
        constructor
        · rw [hplan.steps]
          exact filterMap_scheduled_planned config.totalTicks.toNat
        constructor
        · exact hplan.checkpoints
        constructor
        · rw [hplan.checkpoints]
          exact List.nodup_range.filter _
        · exists world
          constructor
          · exact hworld
          · unfold runDeterministic
            rw [hrun]
            simp only [hworld]

end Runs

/-- Two inputs that are listed against the order of their ticks. -/
theorem runDeterministic_two_inputs :
    let late : ScheduledCommand := ⟨⟨7⟩, .tickN 3⟩
    let early : ScheduledCommand := ⟨⟨2⟩, .createZone ⟨⟨5⟩, none⟩⟩
    let config : DeterministicRunConfig :=
      { seed := ⟨42⟩, worldName := "Test World", inputs := [early, late],
        totalTicks := 10, checkpointEvery := 5 }
    runDeterministic { config with inputs := [late, early] } Pcg32Rng.uninitialized
        UnlimitedClock.new (Recorder.mk []) =
      runDeterministic config Pcg32Rng.uninitialized UnlimitedClock.new (Recorder.mk []) := by
  intro late early config
  have hdue : late.due ≠ early.due := by decide
  exact (runDeterministic_follows_plan config [late, early] (SameAgenda.swap hdue [])
    Pcg32Rng.uninitialized UnlimitedClock.new (Recorder.mk [])).left

/-!
## Comparison of two runs
-/

/-- The first checkpoints that differ are those of the reported tick. -/
inductive Diverges : List Checkpoint -> List Checkpoint -> Tick -> Prop where
  | later {a : Checkpoint} {restA restB : List Checkpoint} {tick : Tick}
      (h : Diverges restA restB tick) : Diverges (a :: restA) (a :: restB) tick
  | here {a b : Checkpoint} {restA restB : List Checkpoint} (hne : a ≠ b) :
      Diverges (a :: restA) (b :: restB) (if a.tick ≤ b.tick then a.tick else b.tick)

theorem Diverges.irrefl {checkpoints : List Checkpoint} {tick : Tick} :
    ¬ Diverges checkpoints checkpoints tick := by
  intro h
  induction checkpoints with
  | nil => cases h
  | cons a rest ih =>
      cases h with
      | later h => exact ih h
      | here hne => exact hne rfl

theorem verifyCheckpoints_cases {left right : List Checkpoint}
    (hlength : left.length = right.length) :
    (verifyCheckpoints left right = .ok () ∧ left = right) ∨
      exists tick : Tick, verifyCheckpoints left right = .error tick ∧
        Diverges left right tick := by
  induction left generalizing right with
  | nil =>
      cases List.eq_nil_of_length_eq_zero hlength.symm
      exact Or.inl ⟨rfl, rfl⟩
  | cons a restA ih =>
      cases right with
      | nil => cases hlength
      | cons b restB =>
          rw [verifyCheckpoints]
          by_cases htick : a.tick = b.tick
          · rw [if_neg (not_not.mpr htick)]
            by_cases hhash : a.hash = b.hash
            · rw [if_neg (not_not.mpr hhash)]
              have hsame : a = b := by
                cases a
                cases b
                cases htick
                cases hhash
                rfl
              subst hsame
              rcases ih (Nat.succ.inj hlength) with ⟨hok, hrest⟩ | ⟨tick, hfailed, hrest⟩
              · exact Or.inl ⟨hok, congrArg (List.cons a) hrest⟩
              · exact Or.inr ⟨tick, hfailed, Diverges.later hrest⟩
            · have hne : a ≠ b := fun heq => hhash (congrArg Checkpoint.hash heq)
              have hhere : Diverges (a :: restA) (b :: restB) _ := Diverges.here hne
              rw [← htick, ite_self] at hhere
              rw [if_pos hhash]
              exact Or.inr ⟨a.tick, rfl, hhere⟩
          · have hne : a ≠ b := fun heq => htick (congrArg Checkpoint.tick heq)
            rw [if_pos htick]
            exact Or.inr ⟨_, rfl, Diverges.here hne⟩

/-- Two runs are found alike exactly if they have the same checkpoints.  Otherwise the
tick of the first difference is reported, or tick `0` for another number of
checkpoints. -/
theorem verifyDeterminism_iff (runA runB : DeterministicRunResult) :
    (verifyDeterminism runA runB = .ok () <-> runA.checkpoints = runB.checkpoints) ∧
      (runA.checkpoints.length = runB.checkpoints.length -> forall tick : Tick,
        verifyDeterminism runA runB = .error tick ->
          Diverges runA.checkpoints runB.checkpoints tick) := by
  unfold verifyDeterminism
  by_cases hlength : runA.checkpoints.length = runB.checkpoints.length
  · rw [if_neg (not_not.mpr hlength)]
    rcases verifyCheckpoints_cases hlength with ⟨hok, hsame⟩ | ⟨first, hfailed, hdiverges⟩
    · rw [hok]
      exact ⟨iff_of_true rfl hsame, fun _ _ h => nomatch h⟩
    · rw [hfailed]
      constructor
      · refine iff_of_false (fun h => nomatch h) ?_
        intro hsame
        rw [hsame] at hdiverges
        exact hdiverges.irrefl
      · intro _ tick htick
        cases htick
        exact hdiverges
  · rw [if_pos hlength]
    constructor
    · exact iff_of_false (fun h => nomatch h) fun hsame => hlength (congrArg List.length hsame)
    · exact fun h => absurd h hlength

/-- Runs on schedules that agree within each tick are found alike. -/
theorem verifyDeterminism_reordered {R C H : Type} [IRng R] [ISimClock C] [IStateHasher H]
    {config : DeterministicRunConfig} {reordered : List ScheduledCommand}
    (h : SameAgenda ScheduledCommand.due reordered config.inputs) {rng : R} {clock : C}
    {hasher hasherA hasherB : H} {runA runB : DeterministicRunResult}
    (hrunA : runDeterministic { config with inputs := reordered } rng clock hasher =
      some (runA, hasherA))
    (hrunB : runDeterministic config rng clock hasher = some (runB, hasherB)) :
    verifyDeterminism runA runB = .ok () := by
  apply (verifyDeterminism_iff runA runB).left.mpr
  have hsame : some (runA, hasherA) = some (runB, hasherB) := by
    rw [← hrunA, ← hrunB]
    unfold runDeterministic
    rw [DeterministicRunConfig.runLoop_inputs h]
  cases hsame
  rfl

end Seej
