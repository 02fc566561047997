import Seej.Simulation

/-!
# What a command does

The inversion of `process_command`: an accepted command is one of six cases, and
a rejected one leaves the engine as the rollback left it.  The proofs about
commands start from here and do not unfold the handlers.
-/

namespace Seej

open Foundation

namespace Simulation

variable {R C : Type} [IRng R] [ISimClock C]

def clearPending (sim : Simulation R C) : Simulation R C :=
  { sim with pendingEvents := [] }

def withWorld (sim : Simulation R C) (world : World) : Simulation R C :=
  { sim with world := some world, pendingEvents := [] }

/-!
## Accepted commands
-/

/-- The events that `CreateWorld` returns. -/
def genesisEvents (cmd : CreateWorldCmd) : List SimEvent :=
  [SimEvent.new Tick.zero (.worldCreated (World.new cmd.name cmd.seed).id cmd.name cmd.seed),
    SimEvent.new Tick.zero (.zoneCreated ZoneId.origin (some "Origin"))]

/-- The engine after `CreateWorld`. -/
def afterCreateWorld (sim : Simulation R C) (cmd : CreateWorldCmd) : Simulation R C :=
  { world := some (World.new cmd.name cmd.seed)
    rng := IRng.restoreSeeded sim.rng cmd.seed cmd.seed.val
    clock := ISimClock.setTick sim.clock Tick.zero
    pendingEvents := [] }

inductive Accepted (sim : Simulation R C) :
    SimCommand -> List SimEvent -> Simulation R C -> Prop where
  | createWorld (cmd : CreateWorldCmd) (hworld : sim.world = none) :
      Accepted sim (.createWorld cmd) (genesisEvents cmd) (sim.afterCreateWorld cmd)
  | tick {next : Simulation R C} (htick : sim.clearPending.cmdTick = some (.ok (), next)) :
      Accepted sim .tick next.pendingEvents next.clearPending
  | tickN {n : UInt32} {next : Simulation R C}
      (htick : sim.clearPending.cmdTickN n.toNat = some (.ok (), next)) :
      Accepted sim (.tickN n) next.pendingEvents next.clearPending
  | spawnEntity {cmd : SpawnEntityCmd} {world allocated : World} {id : EntityId}
      (hworld : sim.world = some world) (hzone : world.hasZone cmd.position.zone = true)
      (hid : world.allocateEntityId = some (id, allocated)) :
      Accepted sim (.spawnEntity cmd)
        [SimEvent.new world.currentTick
          (.entitySpawned id cmd.kind cmd.position cmd.properties)]
        (sim.withWorld (allocated.addEntity
          (Entity.new id cmd.kind cmd.position world.currentTick cmd.properties)))
  | despawnEntity {id : EntityId} {world removed : World} {entity : Entity}
      (hworld : sim.world = some world)
      (hremove : world.removeEntity id = some (entity, removed)) :
      Accepted sim (.despawnEntity id)
        [SimEvent.new world.currentTick (.entityDespawned id .command)]
        (sim.withWorld removed)
  | createZone {cmd : CreateZoneCmd} {world : World} (hworld : sim.world = some world)
      (hzone : world.hasZone cmd.zoneId = false) :
      Accepted sim (.createZone cmd)
        [SimEvent.new world.currentTick (.zoneCreated cmd.zoneId cmd.name)]
        (sim.withWorld (world.addZone (Zone.new cmd.zoneId cmd.name)))

/-- What is left of a failed command: the untouched engine, or the rollback of
the engine with its buffer emptied. -/
inductive Rejected (sim : Simulation R C) : Simulation R C -> Prop where
  | untouched : Rejected sim sim
  | cleared : Rejected sim sim.clearPending
  | rolledBack : Rejected sim (sim.clearPending.restoreCheckpoint sim.checkpoint)

/-!
## One tick
-/

def afterTick (sim : Simulation R C) (world : World) (processed : UInt32) (st : TickState R) :
    Simulation R C :=
  { world := some { st.world with rngState := IRng.state st.rng }
    rng := st.rng
    clock := ISimClock.setTick sim.clock world.advanceTick.currentTick
    pendingEvents := st.pendingEvents ++ [SimEvent.new st.world.currentTick
      (.tickProcessed world.advanceTick.currentTick world.advanceTick.simTime processed
        (some (IRng.state st.rng)))] }

/-- A tick of a loaded world fails only where a counter overflows. -/
theorem cmdTick_eq {sim : Simulation R C} {world : World} (hworld : sim.world = some world) :
    sim.cmdTick =
      (TickState.runTickSystems ⟨world.advanceTick, sim.rng, sim.pendingEvents⟩).map
        fun (processed, st) => (.ok (), sim.afterTick world processed st) := by
  unfold cmdTick
  simp only [hworld]
  cases TickState.runTickSystems ⟨world.advanceTick, sim.rng, sim.pendingEvents⟩ <;> rfl

theorem cmdTick_eq_ok {sim next : Simulation R C} {world : World}
    (hworld : sim.world = some world) :
    sim.cmdTick = some (.ok (), next) <->
      exists (processed : UInt32) (st : TickState R),
        TickState.runTickSystems ⟨world.advanceTick, sim.rng, sim.pendingEvents⟩ =
          some (processed, st) ∧
        next = sim.afterTick world processed st := by
  rw [cmdTick_eq hworld, Option.map_eq_some_iff]
  constructor
  · rintro ⟨⟨processed, st⟩, hsystems, heq⟩
    exact ⟨processed, st, hsystems, (Prod.mk.inj heq).right.symm⟩
  · rintro ⟨processed, st, hsystems, hnext⟩
    exact ⟨(processed, st), hsystems, by rw [hnext]⟩

theorem cmdTick_of_none {sim : Simulation R C} (hworld : sim.world = none) :
    sim.cmdTick = some (.error .noWorldLoaded, sim) := by
  unfold cmdTick
  simp only [hworld]

theorem cmdTick_error {sim next : Simulation R C} {e : ApiError}
    (h : sim.cmdTick = some (.error e, next)) : sim.world = none ∧ next = sim := by
  cases hworld : sim.world with
  | none =>
      rw [cmdTick_of_none hworld] at h
      cases h
      exact ⟨rfl, rfl⟩
  | some world =>
      rw [cmdTick_eq hworld] at h
      rcases Option.map_eq_some_iff.mp h with ⟨_, _, heq⟩
      cases heq

theorem cmdTick_ok {sim next : Simulation R C} (h : sim.cmdTick = some (.ok (), next)) :
    exists world : World, sim.world = some world := by
  cases hworld : sim.world with
  | none =>
      rw [cmdTick_of_none hworld] at h
      cases h
  | some world => exact ⟨world, rfl⟩

theorem cmdTick_ok_world {sim next : Simulation R C}
    (h : sim.cmdTick = some (.ok (), next)) :
    exists world : World, next.world = some world := by
  rcases cmdTick_ok h with ⟨world, hworld⟩
  rcases (cmdTick_eq_ok hworld).mp h with ⟨processed, st, _, hnext⟩
  rw [hnext]
  exact ⟨_, rfl⟩

/-!
## Handlers that fail change nothing
-/

/-- The only error of the loop is a missing world, found at its first step. -/
theorem cmdTickN_error {n : Nat} {sim next : Simulation R C} {e : ApiError}
    (h : sim.cmdTickN n = some (.error e, next)) : sim.world = none ∧ next = sim := by
  induction n generalizing sim with
  | zero => simp [cmdTickN] at h
  | succ n ih =>
      unfold cmdTickN at h
      cases htick : sim.cmdTick with
      | none => simp [htick] at h
      | some result =>
          rcases result with ⟨outcome, after⟩
          cases outcome with
          | error e' =>
              simp only [htick, bind, Option.bind, Option.some.injEq, Prod.mk.injEq] at h
              rw [← h.right]
              exact cmdTick_error htick
          | ok _ =>
              simp only [htick, bind, Option.bind] at h
              rcases cmdTick_ok_world htick with ⟨world, hworld⟩
              rw [(ih h).left] at hworld
              cases hworld

theorem cmdTickN_invariant {P : Simulation R C -> Prop}
    (hstep : forall before after : Simulation R C,
      P before -> before.cmdTick = some (.ok (), after) -> P after)
    {n : Nat} {sim next : Simulation R C} (h : sim.cmdTickN n = some (.ok (), next))
    (hsim : P sim) : P next := by
  induction n generalizing sim with
  | zero =>
      simp only [cmdTickN, Option.some.injEq, Prod.mk.injEq] at h
      rw [← h.right]
      exact hsim
  | succ n ih =>
      unfold cmdTickN at h
      cases htick : sim.cmdTick with
      | none => simp [htick] at h
      | some result =>
          rcases result with ⟨outcome, after⟩
          cases outcome with
          | error e => simp [htick] at h
          | ok _ =>
              simp only [htick, bind, Option.bind] at h
              exact ih h (hstep sim after hsim htick)

theorem cmdCreateWorld_error {sim next : Simulation R C} {cmd : CreateWorldCmd}
    {e : ApiError} (h : sim.cmdCreateWorld cmd = (.error e, next)) : next = sim := by
  unfold cmdCreateWorld at h
  split at h
  · exact (Prod.mk.inj h).right.symm
  · simp at h

omit [IRng R] [ISimClock C] in
theorem cmdSpawnEntity_error {sim next : Simulation R C} {cmd : SpawnEntityCmd}
    {e : ApiError} (h : sim.cmdSpawnEntity cmd = some (.error e, next)) : next = sim := by
  unfold cmdSpawnEntity at h
  split at h
  · exact (Prod.mk.inj (Option.some_inj.mp h)).right.symm
  · rename_i world _
    split at h
    · cases hid : world.allocateEntityId <;> simp [hid] at h
    · exact (Prod.mk.inj (Option.some_inj.mp h)).right.symm

omit [IRng R] [ISimClock C] in
theorem cmdDespawnEntity_error {sim next : Simulation R C} {id : EntityId}
    {e : ApiError} (h : sim.cmdDespawnEntity id = (.error e, next)) : next = sim := by
  unfold cmdDespawnEntity at h
  split at h
  · exact (Prod.mk.inj h).right.symm
  · split at h
    · exact (Prod.mk.inj h).right.symm
    · simp at h

omit [IRng R] [ISimClock C] in
theorem cmdCreateZone_error {sim next : Simulation R C} {cmd : CreateZoneCmd}
    {e : ApiError} (h : sim.cmdCreateZone cmd = (.error e, next)) : next = sim := by
  unfold cmdCreateZone at h
  split at h
  · exact (Prod.mk.inj h).right.symm
  · split at h
    · exact (Prod.mk.inj h).right.symm
    · simp at h

/-!
## Inversion
-/

theorem processValid_ok {sim next : Simulation R C} {cmd : SimCommand}
    {events : List SimEvent}
    (h : processValid sim.clearPending cmd = some (.ok events, next)) :
    Accepted sim cmd events next := by
  unfold processValid at h
  cases cmd with
  | createWorld c =>
      cases hworld : sim.world with
      | some world => simp [cmdCreateWorld, clearPending, hworld, finish] at h
      | none =>
          simp only [cmdCreateWorld, clearPending, hworld, finish, Option.some.injEq,
            Prod.mk.injEq, Except.ok.injEq] at h
          rcases h with ⟨hevents, hnext⟩
          have hacc : Accepted sim (.createWorld c) _ _ := Accepted.createWorld c hworld
          rw [← hevents, ← hnext]
          exact hacc
  | tick =>
      cases htick : sim.clearPending.cmdTick with
      | none => simp [htick] at h
      | some result =>
          rcases result with ⟨outcome, after⟩
          cases outcome with
          | error e => simp [htick, finish] at h
          | ok _ =>
              simp only [htick, Option.map_some, finish, Option.some.injEq, Prod.mk.injEq,
                Except.ok.injEq] at h
              rw [← h.left, ← h.right]
              exact Accepted.tick htick
  | tickN n =>
      cases htick : sim.clearPending.cmdTickN n.toNat with
      | none => simp [htick] at h
      | some result =>
          rcases result with ⟨outcome, after⟩
          cases outcome with
          | error e => simp [htick] at h
          | ok _ =>
              simp only [htick, finish, Option.some.injEq, Prod.mk.injEq,
                Except.ok.injEq] at h
              rw [← h.left, ← h.right]
              exact Accepted.tickN htick
  | spawnEntity c =>
      cases hworld : sim.world with
      | none => simp [cmdSpawnEntity, clearPending, hworld, finish] at h
      | some world =>
          by_cases hzone : world.hasZone c.position.zone = true
          · cases hid : world.allocateEntityId with
            | none => simp [cmdSpawnEntity, clearPending, hworld, hzone, hid] at h
            | some allocated =>
                rcases allocated with ⟨id, after⟩
                have htick : after.currentTick = world.currentTick := by
                  rw [(World.allocateEntityId_eq_some hid).right.right]
                simp only [cmdSpawnEntity, clearPending, hworld, hzone, hid, if_true, bind,
                  Option.bind, pure, Option.map_some, finish, Option.some.injEq,
                  Prod.mk.injEq, Except.ok.injEq] at h
                rw [← h.left, ← h.right]
                have hacc := Accepted.spawnEntity hworld hzone hid
                rw [← htick] at hacc
                exact hacc
          · simp [cmdSpawnEntity, clearPending, hworld, hzone, finish] at h
  | despawnEntity id =>
      cases hworld : sim.world with
      | none => simp [cmdDespawnEntity, clearPending, hworld, finish] at h
      | some world =>
          cases hremove : world.removeEntity id with
          | none => simp [cmdDespawnEntity, clearPending, hworld, hremove, finish] at h
          | some found =>
              rcases found with ⟨entity, removed⟩
              have htick : removed.currentTick = world.currentTick := by
                rw [(World.removeEntity_eq_some hremove).right]
              simp only [cmdDespawnEntity, clearPending, hworld, hremove, finish,
                Option.some.injEq, Prod.mk.injEq, Except.ok.injEq] at h
              rw [← h.left, ← h.right]
              have hacc := Accepted.despawnEntity hworld hremove
              rw [← htick] at hacc
              exact hacc
  | createZone c =>
      cases hworld : sim.world with
      | none => simp [cmdCreateZone, clearPending, hworld, finish] at h
      | some world =>
          by_cases hzone : world.hasZone c.zoneId = true
          · simp [cmdCreateZone, clearPending, hworld, hzone, finish] at h
          · rw [Bool.not_eq_true] at hzone
            simp only [cmdCreateZone, clearPending, hworld, hzone, Bool.false_eq_true, if_false,
              finish, Option.some.injEq, Prod.mk.injEq, Except.ok.injEq] at h
            rw [← h.left, ← h.right]
            exact Accepted.createZone hworld hzone

theorem processCommand_ok {sim next : Simulation R C} {cmd : SimCommand}
    {events : List SimEvent} (h : sim.processCommand cmd = some (.ok events, next)) :
    Accepted sim cmd events next := by
  unfold processCommand at h
  split at h
  · simp at h
  · exact processValid_ok h

theorem accepted_loaded {sim next : Simulation R C} {cmd : SimCommand}
    {events : List SimEvent} (h : sim.processCommand cmd = some (.ok events, next)) :
    (exists c : CreateWorldCmd, cmd = .createWorld c) ∨
      exists world : World, sim.world = some world := by
  cases processCommand_ok h with
  | createWorld c _ => exact Or.inl ⟨c, rfl⟩
  | tick htick =>
      rcases cmdTick_ok htick with ⟨world, hworld⟩
      exact Or.inr ⟨world, hworld⟩
  | @tickN n _ htick =>
      right
      cases hworld : sim.world with
      | some world => exact ⟨world, rfl⟩
      | none =>
          exfalso
          cases hcount : n.toNat with
          | zero =>
              have hzero : n = 0 := UInt32.toNat_inj.mp hcount
              rw [hzero] at h
              cases h
          | succ k =>
              have hcleared : sim.clearPending.world = none := hworld
              rw [hcount, cmdTickN, cmdTick_of_none hcleared] at htick
              cases htick
  | spawnEntity hworld _ _ => exact Or.inr ⟨_, hworld⟩
  | despawnEntity hworld _ => exact Or.inr ⟨_, hworld⟩
  | createZone hworld _ => exact Or.inr ⟨_, hworld⟩

theorem finish_error {sim next : Simulation R C} {e : ApiError}
    {result : ApiResult Unit × Simulation R C}
    (hsame : forall (e' : ApiError) (after : Simulation R C),
      result = (.error e', after) -> after = sim)
    (h : finish sim.checkpoint result = (.error e, next)) :
    next = sim.restoreCheckpoint sim.checkpoint := by
  rcases result with ⟨outcome, after⟩
  cases outcome with
  | ok _ => simp [finish] at h
  | error e' =>
      simp only [finish, Prod.mk.injEq] at h
      rw [← h.right, hsame e' after rfl]

theorem processValid_error {sim next : Simulation R C} {cmd : SimCommand} {e : ApiError}
    (h : processValid sim cmd = some (.error e, next)) :
    next = sim ∨ next = sim.restoreCheckpoint sim.checkpoint := by
  unfold processValid at h
  cases cmd with
  | createWorld c =>
      exact Or.inr (finish_error (fun _ _ => cmdCreateWorld_error) (Option.some_inj.mp h))
  | tick =>
      rcases Option.map_eq_some_iff.mp h with ⟨result, htick, hfinish⟩
      refine Or.inr (finish_error (fun _ _ herror => ?_) hfinish)
      rw [herror] at htick
      exact (cmdTick_error htick).right
  | tickN n =>
      cases htick : sim.cmdTickN n.toNat with
      | none => simp [htick] at h
      | some result =>
          rcases result with ⟨outcome, after⟩
          cases outcome with
          | ok _ => simp [htick, finish] at h
          | error e' =>
              simp only [htick, Option.some.injEq, Prod.mk.injEq] at h
              rw [← h.right, (cmdTickN_error htick).right]
              exact Or.inl rfl
  | spawnEntity c =>
      rcases Option.map_eq_some_iff.mp h with ⟨result, hspawn, hfinish⟩
      refine Or.inr (finish_error (fun _ _ herror => ?_) hfinish)
      rw [herror] at hspawn
      exact cmdSpawnEntity_error hspawn
  | despawnEntity id =>
      exact Or.inr (finish_error (fun _ _ => cmdDespawnEntity_error) (Option.some_inj.mp h))
  | createZone c =>
      exact Or.inr (finish_error (fun _ _ => cmdCreateZone_error) (Option.some_inj.mp h))

theorem processCommand_error {sim next : Simulation R C} {cmd : SimCommand} {e : ApiError}
    (h : sim.processCommand cmd = some (.error e, next)) : Rejected sim next := by
  unfold processCommand at h
  split at h
  · simp only [Option.some.injEq, Prod.mk.injEq] at h
    rw [← h.right]
    exact Rejected.untouched
  · rcases processValid_error h with hnext | hnext
    · rw [hnext]
      exact Rejected.cleared
    · rw [hnext]
      exact Rejected.rolledBack

theorem Rejected.world {sim next : Simulation R C} (h : Rejected sim next) :
    next.world = sim.world := by
  cases h <;> rfl

end Simulation

end Seej
