import Seej.Foundation.Transition
import Seej.CommandLemmas
import Seej.Rng
import Seej.TickJournal

/-!
# Live execution and replay

An accepted command on a loaded world returns events that replay that world to
the world it leaves.  The tick is the hard case: its events are stamped with the
next tick, and the first of them moves the clock during replay as `advance_tick`
moved it before the rules ran.
-/

namespace Seej

open Foundation

/-!
## Moving the clock by the first event
-/

theorem setClock_self {world : World} (h : WorldIntegrity world) :
    world.setClock world.currentTick = world := by
  have hmeta : { world.worldMeta with
      currentTick := world.currentTick
      simTime := SimTime.fromTicks world.currentTick } = world.worldMeta := by
    rw [← h.sim_time, ← h.meta_time, ← h.meta_tick]
  rw [World.setClock, hmeta, ← h.sim_time]

theorem advanceTo_next {world : World} (h : WorldIntegrity world) :
    advanceTo world world.currentTick.next = world.advanceTick := by
  by_cases hmax : world.currentTick.val = u64Max
  · have hsame : world.currentTick.next = world.currentTick := by
      unfold Tick.next saturatingSucc
      rw [if_pos hmax]
    rw [World.advanceTick, hsame, advanceTo_self, setClock_self h]
  · exact if_pos (lt_saturatingSucc hmax)

theorem applyEvent_next {world next : World} {event : SimEvent} (h : WorldIntegrity world)
    (htick : event.tick = world.currentTick.next) (hlife : event.data.isLifecycle = false)
    (happly : applyEvent world.advanceTick event = accept next) :
    applyEvent world event = accept next := by
  have hmoved : world.advanceTick.currentTick = event.tick := htick.symm
  rcases (applyEvent_eq_accept hlife).mp happly with ⟨hgate, hinterpret⟩
  apply (applyEvent_eq_accept hlife).mpr
  constructor
  · cases hdata : event.data with
    | tickProcessed tick simTime processed rngStateAfter =>
        rw [gateEvent_tickProcessed hdata] at hgate ⊢
        refine ⟨hgate.left, hgate.right.left, hgate.right.right.left, Or.inr ?_⟩
        rw [← htick, hgate.right.left]
    | _ => simp [gateEvent, hdata, htick]
  · rw [← hmoved, advanceTo_self] at hinterpret
    rw [htick, advanceTo_next h]
    exact hinterpret

/-- The first event of the next tick does what `advance_tick` did. -/
theorem Replays.of_advanceTick {world next : World} {event : SimEvent}
    {rest : List SimEvent} (h : WorldIntegrity world)
    (htick : event.tick = world.currentTick.next) (hlife : event.data.isLifecycle = false)
    (hreplay : Replays world.advanceTick (event :: rest) next) :
    Replays world (event :: rest) next := by
  rcases Replays.cons_iff.mp hreplay with ⟨middle, happly, hrest⟩
  exact Replays.cons (applyEvent_next h htick hlife happly) hrest

/-!
## One tick
-/

namespace Simulation

variable {R C : Type} [IRng R] [ISimClock C]

def tickEvent (world : World) (processed : UInt32) : SimEvent :=
  SimEvent.new world.currentTick
    (.tickProcessed world.currentTick (SimTime.fromTicks world.currentTick) processed
      (some world.rngState))

structure Ticked (sim next : Simulation R C) (world after : World)
    (events : List SimEvent) : Prop where
  loaded : next.world = some after
  pending : next.pendingEvents = sim.pendingEvents ++ events
  replays : Replays world events after
  tick : after.currentTick = world.currentTick.next
  rngState : after.rngState = IRng.state next.rng
  draws : Draws sim.rng next.rng
  clock : next.clock = ISimClock.setTick sim.clock after.currentTick
  shape : exists (systemic : List SimEvent) (processed : UInt32),
    events = systemic ++ [tickEvent after processed] ∧
      forall event : SimEvent, event ∈ systemic ->
        event.tick = after.currentTick ∧ event.data.isSystemic = true

theorem applyEvent_tickEvent (world : World) (state : UInt64) (processed : UInt32) :
    applyEvent world (tickEvent { world with rngState := state } processed) =
      accept { world with rngState := state } := by
  apply (applyEvent_eq_accept rfl).mpr
  constructor
  · exact (gateEvent_tickProcessed rfl).mpr ⟨rfl, rfl, rfl, Or.inl rfl⟩
  · have hself : (tickEvent { world with rngState := state } processed).tick =
        world.currentTick := rfl
    rw [hself, advanceTo_self]
    change applyTickProcessed world world.currentTick _ (some state) = _
    exact (applyTickProcessed_iff (UInt64.lt_irrefl _)).mpr ⟨state, rfl, rfl⟩

theorem cmdTick_ticked {sim next : Simulation R C} {world : World}
    (hworld : sim.world = some world) (hintegrity : WorldIntegrity world)
    (h : sim.cmdTick = some (.ok (), next)) :
    exists (after : World) (events : List SimEvent), Ticked sim next world after events := by
  rcases (cmdTick_eq_ok hworld).mp h with ⟨processed, st, hsystems, hnext⟩
  rcases TickState.runTickSystems_journaled hsystems with ⟨systemic, hjournal⟩
  have htick : st.world.currentTick = world.currentTick.next := hjournal.tick
  let after : World := { st.world with rngState := IRng.state st.rng }
  have hlast : Replays world.advanceTick (systemic ++ [tickEvent after processed]) after :=
    hjournal.replays.snoc (applyEvent_tickEvent st.world (IRng.state st.rng) processed)
  have hclosing : tickEvent after processed =
      SimEvent.new st.world.currentTick
        (.tickProcessed world.advanceTick.currentTick world.advanceTick.simTime processed
          (some (IRng.state st.rng))) := by
    have hafter : after.currentTick = st.world.currentTick := rfl
    rw [tickEvent, hafter, htick]
    rfl
  refine ⟨after, systemic ++ [tickEvent after processed], ?_⟩
  constructor
  case loaded =>
    rw [hnext]
    rfl
  case pending =>
    rw [hnext, ← List.append_assoc, ← hjournal.pending, hclosing]
    rfl
  case replays =>
    cases systemic with
    | nil => exact hlast.of_advanceTick hintegrity htick rfl
    | cons event rest =>
        have hhead := hjournal.systemic event List.mem_cons_self
        exact hlast.of_advanceTick hintegrity hhead.left
          (EventData.not_lifecycle_of_systemic hhead.right)
  case tick => exact htick
  case rngState =>
    rw [hnext]
    rfl
  case draws =>
    rw [hnext]
    exact hjournal.draws
  case clock =>
    rw [hnext]
    change ISimClock.setTick sim.clock world.currentTick.next =
      ISimClock.setTick sim.clock st.world.currentTick
    rw [htick]
  case shape =>
    refine ⟨systemic, processed, rfl, ?_⟩
    intro event hmem
    have hsystemic := hjournal.systemic event hmem
    exact ⟨hsystemic.left.trans htick.symm, hsystemic.right⟩

theorem Ticked.integrity {sim next : Simulation R C} {world after : World}
    {events : List SimEvent} (h : Ticked sim next world after events)
    (hworld : WorldIntegrity world) : WorldIntegrity after := by
  apply h.replays.integrity hworld
  rcases h.shape with ⟨systemic, processed, hevents, hsystemic⟩
  intro event hmem
  rw [hevents] at hmem
  rcases List.mem_append.mp hmem with hmem | hmem
  · exact EventData.not_spawnsInvalid_of_systemic (hsystemic event hmem).right
  · rw [List.mem_singleton.mp hmem]
    exact id

/-!
## Accepted commands
-/

structure Advances (world after : World) (events : List SimEvent) : Prop where
  replays : Replays world events after
  integrity : WorldIntegrity after

theorem cmdTickN_advances {n : Nat} {sim next : Simulation R C} {world : World}
    (hworld : sim.world = some world) (hintegrity : WorldIntegrity world)
    (h : sim.cmdTickN n = some (.ok (), next)) :
    exists (after : World) (events : List SimEvent),
      next.world = some after ∧ next.pendingEvents = sim.pendingEvents ++ events ∧
        Advances world after events := by
  apply cmdTickN_invariant (P := fun s => exists (after : World) (events : List SimEvent),
    s.world = some after ∧ s.pendingEvents = sim.pendingEvents ++ events ∧
      Advances world after events) _ h
  · exact ⟨world, [], hworld, (List.append_nil _).symm, Replays.nil world, hintegrity⟩
  · rintro before last ⟨middle, events, hmiddle, hpending, hadvance⟩ htick
    rcases cmdTick_ticked hmiddle hadvance.integrity htick with ⟨after, later, hticked⟩
    refine ⟨after, events ++ later, hticked.loaded, ?_, ?_, ?_⟩
    · rw [hticked.pending, hpending, List.append_assoc]
    · exact hadvance.replays.append hticked.replays
    · exact hticked.integrity hadvance.integrity

/-- A non-lifecycle event of the current tick that is not a `TickProcessed` is
interpreted as it is. -/
theorem applyEvent_current {world next : World} {data : EventData}
    (hlife : data.isLifecycle = false)
    (hgate : gateEvent world (SimEvent.new world.currentTick data) = .ok ())
    (h : interpretEvent world (SimEvent.new world.currentTick data) = accept next) :
    applyEvent world (SimEvent.new world.currentTick data) = accept next := by
  apply (applyEvent_eq_accept hlife).mpr
  refine ⟨hgate, ?_⟩
  have hself : (SimEvent.new world.currentTick data).tick = world.currentTick := rfl
  rw [hself, advanceTo_self]
  exact h

theorem single_advances {world next : World} {data : EventData} (h : WorldIntegrity world)
    (hplain : ¬ data.spawnsInvalid)
    (hevent : applyEvent world (SimEvent.new world.currentTick data) = accept next) :
    Advances world next [SimEvent.new world.currentTick data] :=
  ⟨Replays.single hevent, applyEvent_integrity h hplain hevent⟩

/-- The allocator hands out an identifier that no entity has. -/
theorem nextEntityId_fresh {world : World} (h : WorldIntegrity world) :
    world.entities[(⟨world.nextEntityId⟩ : EntityId)]? = none := by
  cases hfound : world.entities[(⟨world.nextEntityId⟩ : EntityId)]? with
  | none => rfl
  | some entity => exact absurd (h.entity_below _ entity hfound) (UInt64.lt_irrefl _)

theorem spawn_advances {world allocated : World} {id : EntityId} {cmd : SpawnEntityCmd}
    (h : WorldIntegrity world) (hzone : world.hasZone cmd.position.zone = true)
    (hid : world.allocateEntityId = some (id, allocated)) :
    Advances world
      (allocated.addEntity
        (Entity.new id cmd.kind cmd.position world.currentTick cmd.properties))
      [SimEvent.new world.currentTick
        (.entitySpawned id cmd.kind cmd.position cmd.properties)] := by
  rcases World.allocateEntityId_eq_some hid with ⟨hval, hnat, hallocated⟩
  rcases (World.hasZone_iff _ _).mp hzone with ⟨zone, hfound⟩
  have hfresh : world.entities[id]? = none := by
    rw [hval]
    exact nextEntityId_fresh h
  have hnext : nextAfterSpawn world id = some allocated.nextEntityId := by
    rw [hval]
    unfold nextAfterSpawn
    rw [if_pos (UInt64.le_refl _)]
    exact checkedSucc_eq_some.mpr hnat
  have hevent : applyEvent world (SimEvent.new world.currentTick
      (.entitySpawned id cmd.kind cmd.position cmd.properties)) =
      accept (allocated.addEntity
        (Entity.new id cmd.kind cmd.position world.currentTick cmd.properties)) := by
    apply applyEvent_current rfl
    · simp [gateEvent, SimEvent.new]
    · apply applyEntitySpawned_iff.mpr
      refine ⟨zone, hfound, Or.inr ⟨hfresh, allocated.nextEntityId, hnext, ?_⟩⟩
      rw [hallocated]
      rfl
  refine single_advances h ?_ hevent
  rw [hval]
  exact h.next_valid

theorem despawn_advances {world removed : World} {id : EntityId} {entity : Entity}
    (h : WorldIntegrity world) (hremove : world.removeEntity id = some (entity, removed)) :
    Advances world removed
      [SimEvent.new world.currentTick (.entityDespawned id .command)] := by
  have hevent : applyEvent world (SimEvent.new world.currentTick
      (.entityDespawned id .command)) = accept removed := by
    apply applyEvent_current rfl
    · simp [gateEvent, SimEvent.new]
    · exact applyEntityDespawned_iff.mpr ⟨entity, hremove⟩
  exact single_advances h (fun hinvalid => hinvalid) hevent

theorem createZone_advances {world : World} {cmd : CreateZoneCmd}
    (h : WorldIntegrity world) (hzone : world.hasZone cmd.zoneId = false) :
    Advances world (world.addZone (Zone.new cmd.zoneId cmd.name))
      [SimEvent.new world.currentTick (.zoneCreated cmd.zoneId cmd.name)] := by
  have hnew : world.zones[cmd.zoneId]? = none := by
    rw [World.hasZone, Std.ExtTreeMap.contains_eq_isSome_getElem?] at hzone
    exact Option.not_isSome_iff_eq_none.mp (by rw [hzone]; exact Bool.false_ne_true)
  have hevent : applyEvent world (SimEvent.new world.currentTick
      (.zoneCreated cmd.zoneId cmd.name)) =
      accept (world.addZone (Zone.new cmd.zoneId cmd.name)) := by
    apply applyEvent_current rfl
    · simp [gateEvent, SimEvent.new]
    · exact applyZoneCreated_iff.mpr (Or.inl ⟨hnew, rfl⟩)
  exact single_advances h (fun hinvalid => hinvalid) hevent

/-- The events of `CreateWorld` find their world already made. -/
theorem genesis_advances (cmd : CreateWorldCmd) :
    Advances (World.new cmd.name cmd.seed) (World.new cmd.name cmd.seed)
      (genesisEvents cmd) := by
  have hcreated : applyEvent (World.new cmd.name cmd.seed) (SimEvent.new Tick.zero
      (.worldCreated (World.new cmd.name cmd.seed).id cmd.name cmd.seed)) =
      accept (World.new cmd.name cmd.seed) := by
    change applyEvent (World.new cmd.name cmd.seed)
      (SimEvent.new (World.new cmd.name cmd.seed).currentTick _) = _
    apply applyEvent_current rfl
    · simp [gateEvent, SimEvent.new]
    · exact applyWorldCreated_iff.mpr ⟨⟨rfl, rfl, rfl⟩, rfl⟩
  have hzone : applyEvent (World.new cmd.name cmd.seed) (SimEvent.new Tick.zero
      (.zoneCreated ZoneId.origin (some "Origin"))) =
      accept (World.new cmd.name cmd.seed) := by
    change applyEvent (World.new cmd.name cmd.seed)
      (SimEvent.new (World.new cmd.name cmd.seed).currentTick _) = _
    apply applyEvent_current rfl
    · simp [gateEvent, SimEvent.new]
    · change applyZoneCreated (World.new cmd.name cmd.seed) ZoneId.origin (some "Origin") =
        accept (World.new cmd.name cmd.seed)
      apply applyZoneCreated_iff.mpr
      refine Or.inr ⟨Zone.new ZoneId.origin (some "Origin"), ?_, rfl, rfl, rfl, rfl⟩
      exact (BTreeMap.getElem?_insert _ _ _ _).trans (if_pos rfl)
  exact ⟨Replays.cons hcreated (Replays.single hzone), WorldIntegrity.new cmd.name cmd.seed⟩

theorem Accepted.advances {sim next : Simulation R C} {cmd : SimCommand}
    {events : List SimEvent} {world : World} (h : Accepted sim cmd events next)
    (hworld : sim.world = some world) (hintegrity : WorldIntegrity world) :
    exists after : World, next.world = some after ∧ Advances world after events := by
  have hcleared : sim.clearPending.world = some world := hworld
  cases h with
  | createWorld c hnone =>
      rw [hnone] at hworld
      cases hworld
  | tick htick =>
      rcases cmdTick_ticked hcleared hintegrity htick with ⟨after, events, hticked⟩
      refine ⟨after, hticked.loaded, ?_, hticked.integrity hintegrity⟩
      rw [hticked.pending]
      exact hticked.replays
  | tickN htick =>
      rcases cmdTickN_advances hcleared hintegrity htick with
        ⟨after, events, hloaded, hpending, hadvance⟩
      refine ⟨after, hloaded, ?_⟩
      rw [hpending]
      exact hadvance
  | spawnEntity hloaded hzone hid =>
      rw [hloaded] at hworld
      cases hworld
      exact ⟨_, rfl, spawn_advances hintegrity hzone hid⟩
  | despawnEntity hloaded hremove =>
      rw [hloaded] at hworld
      cases hworld
      exact ⟨_, rfl, despawn_advances hintegrity hremove⟩
  | createZone hloaded hzone =>
      rw [hloaded] at hworld
      cases hworld
      exact ⟨_, rfl, createZone_advances hintegrity hzone⟩

/-!
## Runs of commands
-/

def runCommands : List SimCommand -> Simulation R C ->
    Option (List (ApiResult (List SimEvent)) × Simulation R C) :=
  run processCommand

def Intact (sim : Simulation R C) : Prop :=
  forall world : World, sim.world = some world -> WorldIntegrity world

theorem cmdTick_intact {sim next : Simulation R C} (hsim : sim.Intact)
    (h : sim.cmdTick = some (.ok (), next)) : next.Intact := by
  rcases cmdTick_ok h with ⟨world, hworld⟩
  rcases cmdTick_ticked hworld (hsim world hworld) h with ⟨after, events, hticked⟩
  intro final hfinal
  rw [hticked.loaded] at hfinal
  cases hfinal
  exact hticked.integrity (hsim world hworld)

theorem Accepted.intact {sim next : Simulation R C} {cmd : SimCommand}
    {events : List SimEvent} (h : Accepted sim cmd events next) (hsim : sim.Intact) :
    next.Intact := by
  have hcleared : sim.clearPending.Intact := hsim
  intro final hfinal
  cases h with
  | createWorld c _ =>
      cases hfinal
      exact WorldIntegrity.new c.name c.seed
  | tick htick =>
      exact cmdTick_intact hcleared htick final hfinal
  | tickN htick =>
      exact cmdTickN_invariant (fun _ _ => cmdTick_intact) htick hcleared final hfinal
  | spawnEntity hloaded hzone hid =>
      cases hfinal
      exact (spawn_advances (hsim _ hloaded) hzone hid).integrity
  | despawnEntity hloaded hremove =>
      cases hfinal
      exact (despawn_advances (hsim _ hloaded) hremove).integrity
  | createZone hloaded hzone =>
      cases hfinal
      exact (createZone_advances (hsim _ hloaded) hzone).integrity

theorem processCommand_intact {sim next : Simulation R C} {cmd : SimCommand}
    {result : ApiResult (List SimEvent)} (hsim : sim.Intact)
    (h : sim.processCommand cmd = some (result, next)) : next.Intact := by
  cases result with
  | ok events => exact (processCommand_ok h).intact hsim
  | error e =>
      intro world hworld
      rw [(processCommand_error h).world] at hworld
      exact hsim world hworld

omit [IRng R] [ISimClock C] in
theorem new_intact (rng : R) (clock : C) : (Simulation.new rng clock).Intact := by
  intro world h
  cases h

theorem runCommands_intact {cmds : List SimCommand} {rng : R} {clock : C}
    {results : List (ApiResult (List SimEvent))} {sim : Simulation R C}
    (h : runCommands cmds (Simulation.new rng clock) = some (results, sim)) : sim.Intact :=
  run_invariant (fun _ _ _ _ hs hstep => processCommand_intact hs hstep) h
    (new_intact rng clock)

/-- The events of an accepted command replay the world before it to the world
after it, and the events of `CreateWorld` leave the new world as it is. -/
theorem processCommand_replays {cmds : List SimCommand} {rng : R} {clock : C}
    {results : List (ApiResult (List SimEvent))} {sim next : Simulation R C}
    {cmd : SimCommand} {events : List SimEvent}
    (hreach : runCommands cmds (Simulation.new rng clock) = some (results, sim))
    (hok : sim.processCommand cmd = some (.ok events, next)) :
    (forall world : World, sim.world = some world ->
      exists after : World, next.world = some after ∧
        replayEvents world events = some (.ok events.length, after)) ∧
    (forall c : CreateWorldCmd, cmd = .createWorld c ->
      next.world = some (World.new c.name c.seed) ∧
        replayEvents (World.new c.name c.seed) events =
          some (.ok events.length, World.new c.name c.seed)) := by
  have haccepted := processCommand_ok hok
  constructor
  · intro world hworld
    have hintegrity := runCommands_intact hreach world hworld
    rcases haccepted.advances hworld hintegrity with ⟨after, hafter, hadvance⟩
    exact ⟨after, hafter, replayEvents_eq_ok.mpr ⟨rfl, hadvance.replays⟩⟩
  · intro c hcmd
    subst hcmd
    cases haccepted with
    | createWorld _ hnone =>
        exact ⟨rfl, replayEvents_eq_ok.mpr ⟨rfl, (genesis_advances c).replays⟩⟩

/-- A creature is spawned before two ticks. -/
theorem processCommand_replays_tickN :
    exists (sim next : Simulation Pcg32Rng UnlimitedClock) (events : List SimEvent),
      sim.processCommand (.tickN 2) = some (.ok events, next) ∧
      forall world : World, sim.world = some world ->
        exists after : World, next.world = some after ∧
          replayEvents world events = some (.ok events.length, after) := by
  have hruns : ((runCommands
      [.createWorld ⟨"Vale", ⟨7⟩⟩,
        .spawnEntity ⟨WorldPos.origin, .creature, ⟨none, none, some 3⟩⟩]
      (Simulation.new Pcg32Rng.uninitialized UnlimitedClock.new)).bind fun reached =>
        (reached.2.processCommand (.tickN 2)).bind fun answer =>
          answer.1.toOption).isSome = true := by
    decide
  rcases Option.isSome_iff_exists.mp hruns with ⟨events, hevents⟩
  rcases Option.bind_eq_some_iff.mp hevents with ⟨⟨results, sim⟩, hreach, hanswer⟩
  rcases Option.bind_eq_some_iff.mp hanswer with ⟨⟨outcome, next⟩, hok, houtcome⟩
  cases outcome with
  | error e => cases houtcome
  | ok found => exact ⟨sim, next, found, hok, (processCommand_replays hreach hok).left⟩

end Simulation

end Seej
