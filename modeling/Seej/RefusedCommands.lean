import Seej.RuntimeRollback

/-!
# Refused commands

A command that is refused leaves no trace.  A handler that fails has changed
nothing, a checkpoint brings the generator and the clock back, and the runtime
touches the log only for a command that the engine has accepted.
-/

namespace Seej

open Foundation

/-!
## What a checkpoint brings back
-/

/-- A generator that its saved seed and state determine.  `Valid` holds of what the
constructors and the methods of the generator give. -/
class RestorableRng (R : Type) [IRng R] where
  Valid : R -> Prop
  valid_chance (rng : R) (probability : F32) (h : Valid rng) :
    Valid (IRng.chance rng probability).2
  valid_restoreSeeded (rng : R) (seed : RngSeed) (state : UInt64) (h : Valid rng) :
    Valid (IRng.restoreSeeded rng seed state)
  restoreSeeded_self (rng : R) (h : Valid rng) :
    IRng.restoreSeeded rng (IRng.seed rng) (IRng.state rng) = rng
  restoreSeeded_chance (rng : R) (probability : F32) (seed : RngSeed) (state : UInt64) :
    IRng.restoreSeeded (IRng.chance rng probability).2 seed state =
      IRng.restoreSeeded rng seed state
  restoreSeeded_restoreSeeded (rng : R) (seed seed' : RngSeed) (state state' : UInt64) :
    IRng.restoreSeeded (IRng.restoreSeeded rng seed state) seed' state' =
      IRng.restoreSeeded rng seed' state'

/-- A clock that its tick determines. -/
class RestorableClock (C : Type) [ISimClock C] where
  Valid : C -> Prop
  valid_setTick (clock : C) (tick : Tick) (h : Valid clock) :
    Valid (ISimClock.setTick clock tick)
  setTick_self (clock : C) (h : Valid clock) :
    ISimClock.setTick clock (ISimClock.currentTick clock) = clock
  setTick_setTick (clock : C) (tick tick' : Tick) :
    ISimClock.setTick (ISimClock.setTick clock tick) tick' = ISimClock.setTick clock tick'

namespace Pcg32Rng

theorem restoreSeeded_eq (rng : Pcg32Rng) (seed : RngSeed) (state : UInt64) :
    IRng.restoreSeeded rng seed state =
      { seed := seed, state := state, increment := incrementFromSeed seed } := rfl

theorem chance_rng (rng : Pcg32Rng) (probability : F32) :
    (IRng.chance rng probability).2 = rng.advance := rfl

theorem advance_seed (rng : Pcg32Rng) : rng.advance.seed = rng.seed := by
  rcases rng with ⟨seed, state, increment⟩
  exact Eq.refl seed

theorem advance_increment (rng : Pcg32Rng) : rng.advance.increment = rng.increment := by
  rcases rng with ⟨seed, state, increment⟩
  exact Eq.refl increment

def Seeded (rng : Pcg32Rng) : Prop :=
  rng.increment = incrementFromSeed rng.seed

theorem uninitialized_seeded : uninitialized.Seeded := rfl

end Pcg32Rng

instance : RestorableRng Pcg32Rng where
  Valid := Pcg32Rng.Seeded
  valid_chance rng probability h := by
    unfold Pcg32Rng.Seeded
    rw [Pcg32Rng.chance_rng, Pcg32Rng.advance_increment, Pcg32Rng.advance_seed]
    exact h
  valid_restoreSeeded _ _ _ _ := rfl
  restoreSeeded_self := by
    rintro ⟨seed, state, increment⟩ h
    have hincrement : increment = Pcg32Rng.incrementFromSeed seed := h
    rw [hincrement]
    rfl
  restoreSeeded_chance _ _ _ _ := by
    rw [Pcg32Rng.restoreSeeded_eq, Pcg32Rng.restoreSeeded_eq]
  restoreSeeded_restoreSeeded _ _ _ _ _ := rfl

instance : RestorableClock UnlimitedClock where
  Valid _ := True
  valid_setTick _ _ _ := trivial
  setTick_self _ _ := rfl
  setTick_setTick _ _ _ := rfl

/-!
## The engine
-/

namespace Simulation

variable {R C : Type} [IRng R] [ISimClock C] [RestorableRng R] [RestorableClock C]

structure AtRest (sim : Simulation R C) : Prop where
  rng : RestorableRng.Valid sim.rng
  clock : RestorableClock.Valid sim.clock
  pendingEvents : sim.pendingEvents = []

structure MovedSince (sim next : Simulation R C) : Prop where
  rng : RestorableRng.Valid next.rng
  clock : RestorableClock.Valid next.clock
  restoreSeeded (seed : RngSeed) (state : UInt64) :
    IRng.restoreSeeded next.rng seed state = IRng.restoreSeeded sim.rng seed state
  setTick (tick : Tick) : ISimClock.setTick next.clock tick = ISimClock.setTick sim.clock tick

namespace MovedSince

variable {sim middle next : Simulation R C}

theorem refl (h : AtRest sim) : MovedSince sim sim :=
  ⟨h.rng, h.clock, fun _ _ => rfl, fun _ => rfl⟩

theorem atRest (h : MovedSince sim next) (hpending : next.pendingEvents = []) : AtRest next :=
  ⟨h.rng, h.clock, hpending⟩

theorem congr (h : MovedSince sim middle) (hrng : next.rng = middle.rng)
    (hclock : next.clock = middle.clock) : MovedSince sim next := by
  constructor
  case rng => exact hrng ▸ h.rng
  case clock => exact hclock ▸ h.clock
  case restoreSeeded =>
    rw [hrng]
    exact h.restoreSeeded
  case setTick =>
    rw [hclock]
    exact h.setTick

theorem draws (h : MovedSince sim middle) (hdraws : Draws middle.rng next.rng)
    (hclock : next.clock = middle.clock) : MovedSince sim next := by
  have hdrawn : RestorableRng.Valid next.rng ∧ forall (seed : RngSeed) (state : UInt64),
      IRng.restoreSeeded next.rng seed state = IRng.restoreSeeded sim.rng seed state := by
    apply hdraws.invariant (P := fun rng => RestorableRng.Valid rng ∧
      forall (seed : RngSeed) (state : UInt64),
        IRng.restoreSeeded rng seed state = IRng.restoreSeeded sim.rng seed state)
    · rintro rng probability ⟨hvalid, hsame⟩
      refine ⟨RestorableRng.valid_chance rng probability hvalid, ?_⟩
      intro seed state
      rw [RestorableRng.restoreSeeded_chance, hsame]
    · exact ⟨h.rng, h.restoreSeeded⟩
  constructor
  case rng => exact hdrawn.left
  case clock => exact hclock ▸ h.clock
  case restoreSeeded => exact hdrawn.right
  case setTick =>
    rw [hclock]
    exact h.setTick

theorem tick (h : MovedSince sim middle) (hrng : next.rng = middle.rng) {tick : Tick}
    (hclock : next.clock = ISimClock.setTick middle.clock tick) : MovedSince sim next := by
  constructor
  case rng => exact hrng ▸ h.rng
  case clock =>
    rw [hclock]
    exact RestorableClock.valid_setTick _ _ h.clock
  case restoreSeeded =>
    rw [hrng]
    exact h.restoreSeeded
  case setTick =>
    intro later
    rw [hclock, RestorableClock.setTick_setTick, h.setTick]

theorem restored (h : MovedSince sim middle) {seed : RngSeed} {state : UInt64} {tick : Tick}
    (hrng : next.rng = IRng.restoreSeeded middle.rng seed state)
    (hclock : next.clock = ISimClock.setTick middle.clock tick) : MovedSince sim next := by
  constructor
  case rng =>
    rw [hrng]
    exact RestorableRng.valid_restoreSeeded _ _ _ h.rng
  case clock =>
    rw [hclock]
    exact RestorableClock.valid_setTick _ _ h.clock
  case restoreSeeded =>
    intro seed' state'
    rw [hrng, RestorableRng.restoreSeeded_restoreSeeded, h.restoreSeeded]
  case setTick =>
    intro later
    rw [hclock, RestorableClock.setTick_setTick, h.setTick]

/-- The checkpoint of an engine at rest brings it back. -/
theorem rollback (h : MovedSince sim next) (hrest : AtRest sim) :
    next.restoreCheckpoint sim.checkpoint = sim := by
  unfold restoreCheckpoint checkpoint
  rw [h.restoreSeeded, h.setTick, RestorableRng.restoreSeeded_self _ hrest.rng,
    RestorableClock.setTick_self _ hrest.clock, ← hrest.pendingEvents]

end MovedSince

variable {sim next : Simulation R C}

theorem MovedSince.cmdTick {before after : Simulation R C} (h : MovedSince sim before)
    (htick : before.cmdTick = some (.ok (), after)) : MovedSince sim after := by
  rcases cmdTick_ok htick with ⟨world, hworld⟩
  rcases (cmdTick_eq_ok hworld).mp htick with ⟨processed, st, hsystems, hafter⟩
  rcases TickState.runTickSystems_journaled hsystems with ⟨_, hjournal⟩
  have hdrawn : MovedSince sim { before with rng := st.rng } := h.draws hjournal.draws rfl
  rw [hafter]
  exact hdrawn.tick rfl rfl

theorem AtRest.clearPending (h : AtRest sim) : sim.clearPending = sim := by
  unfold Simulation.clearPending
  rw [← h.pendingEvents]

theorem Accepted.movedSince {cmd : SimCommand} {events : List SimEvent}
    (h : Accepted sim cmd events next) (hrest : AtRest sim) :
    MovedSince sim next ∧ next.pendingEvents = [] := by
  have hrefl := MovedSince.refl hrest
  have hcleared : MovedSince sim sim.clearPending := hrefl.congr rfl rfl
  cases h with
  | createWorld c _ => exact ⟨hrefl.restored rfl rfl, rfl⟩
  | tick htick => exact ⟨(hcleared.cmdTick htick).congr rfl rfl, rfl⟩
  | tickN htick =>
      have hlast := cmdTickN_invariant (P := MovedSince sim)
        (fun _ _ hbefore hstep => hbefore.cmdTick hstep) htick hcleared
      exact ⟨hlast.congr rfl rfl, rfl⟩
  | spawnEntity _ _ _ => exact ⟨hrefl.congr rfl rfl, rfl⟩
  | despawnEntity _ _ => exact ⟨hrefl.congr rfl rfl, rfl⟩
  | createZone _ _ => exact ⟨hrefl.congr rfl rfl, rfl⟩

/-- A rejected command leaves an engine at rest as it was. -/
theorem Rejected.eq (h : Rejected sim next) (hrest : AtRest sim) : next = sim := by
  cases h with
  | untouched => rfl
  | cleared => exact hrest.clearPending
  | rolledBack =>
      rw [hrest.clearPending]
      exact (MovedSince.refl hrest).rollback hrest

/-- The engines that the methods of the engine give.  `worldMut` and `rngMut` are what a
holder of the references that `world_mut` and `rng` return may do. -/
inductive Reached : Simulation R C -> Prop where
  | new {rng : R} {clock : C} (hrng : RestorableRng.Valid rng)
      (hclock : RestorableClock.Valid clock) : Reached (Simulation.new rng clock)
  | command {sim next : Simulation R C} {cmd : SimCommand}
      {result : ApiResult (List SimEvent)} (h : Reached sim)
      (hprocess : sim.processCommand cmd = some (result, next)) : Reached next
  | loadWorldState {sim : Simulation R C} (h : Reached sim) (world : World) :
      Reached (sim.loadWorldState world)
  | clearWorld {sim : Simulation R C} (h : Reached sim) : Reached sim.clearWorld
  | restoreCheckpoint {sim : Simulation R C} (h : Reached sim)
      (checkpoint : SimulationCheckpoint) : Reached (sim.restoreCheckpoint checkpoint)
  | worldMut {sim : Simulation R C} (h : Reached sim) (world : World) :
      Reached { sim with world := some world }
  | rngMut {sim : Simulation R C} (h : Reached sim) {rng : R}
      (hrng : RestorableRng.Valid rng) : Reached { sim with rng := rng }

theorem Reached.atRest (h : Reached sim) : AtRest sim := by
  induction h with
  | new hrng hclock => exact ⟨hrng, hclock, rfl⟩
  | @command sim next cmd result _ hprocess ih =>
      cases result with
      | error e =>
          rw [(processCommand_error hprocess).eq ih]
          exact ih
      | ok events =>
          have hmoved := (processCommand_ok hprocess).movedSince ih
          exact hmoved.left.atRest hmoved.right
  | loadWorldState _ world ih =>
      exact ((MovedSince.refl ih).restored rfl rfl).atRest rfl
  | @clearWorld sim _ ih =>
      have hmoved : MovedSince sim sim.clearWorld := (MovedSince.refl ih).tick rfl rfl
      exact hmoved.atRest rfl
  | restoreCheckpoint _ checkpoint ih =>
      exact ((MovedSince.refl ih).restored rfl rfl).atRest rfl
  | worldMut _ world ih => exact ⟨ih.rng, ih.clock, ih.pendingEvents⟩
  | rngMut _ hrng ih => exact ⟨hrng, ih.clock, ih.pendingEvents⟩

end Simulation

/-!
## The runtime
-/

namespace PersistentSimulation

section Steps

variable {R C E S : Type} [IRng R] [ISimClock C] [IEventLog E] [IWorldStore S]
  [RestorableRng R] [RestorableClock C] {ps next : PersistentSimulation R C E S}
  {cmd : SimCommand}

/-- The engine after a command that the runtime answers with an error, whatever the log
did. -/
theorem Processed.sim_of_error {e : ApiError} (h : Processed ps cmd (.error e) next)
    (hrest : Simulation.AtRest ps.sim) : next.sim = ps.sim := by
  cases h with
  | refused _ => rfl
  | rejected _ hsim => exact (Simulation.processCommand_error hsim).eq hrest
  | rolledBack _ hsim _ =>
      exact ((Simulation.processCommand_ok hsim).movedSince hrest).left.rollback hrest

theorem Processed.atRest {result : ApiResult (List SimEvent)} (h : Processed ps cmd result next)
    (hrest : Simulation.AtRest ps.sim) : Simulation.AtRest next.sim := by
  cases result with
  | error e =>
      rw [h.sim_of_error hrest]
      exact hrest
  | ok persisted =>
      cases h with
      | committed _ hsim _ =>
          have hmoved := (Simulation.processCommand_ok hsim).movedSince hrest
          exact hmoved.left.atRest hmoved.right

theorem atRest_loadWorldState {sim : Simulation R C} (hrest : Simulation.AtRest sim)
    (world : World) : Simulation.AtRest (sim.loadWorldState world) :=
  ((Simulation.MovedSince.refl hrest).restored rfl rfl).atRest rfl

variable [SnapshotJson]

theorem saveWorld_atRest {result : ApiResult Unit} (h : ps.saveWorld = (result, next))
    (hrest : Simulation.AtRest ps.sim) : Simulation.AtRest next.sim := by
  cases result with
  | error e =>
      rcases saveWorld_error h with hsame | ⟨_, _, _, hsim, _⟩
      · rw [hsame]
        exact hrest
      · rw [hsim]
        exact hrest
  | ok _ =>
      rcases saveWorld_ok h with ⟨world, _, _, hcommit⟩
      rcases commitSave_ok hcommit with ⟨_, _, _, _, hsim⟩
      rw [hsim]
      exact atRest_loadWorldState hrest world

theorem loadWorld_atRest {worldId : String} {result : ApiResult (List SimEvent)}
    (h : ps.loadWorld worldId = some (result, next)) (hrest : Simulation.AtRest ps.sim) :
    Simulation.AtRest next.sim := by
  rcases loadWorld_eq_some h with ⟨_, _, hsame⟩ | ⟨world, _, _, _, hnext⟩
  · rw [hsame]
    exact hrest
  · rw [hnext]
    exact atRest_loadWorldState hrest world

/-- The runtimes that calls reach.  `outside` is what happens to the log and the store
between two calls, which includes the answers that the file system has ready for the
next one. -/
inductive Reached : PersistentSimulation R C E S -> Prop where
  | new {rng : R} {clock : C} (hrng : RestorableRng.Valid rng)
      (hclock : RestorableClock.Valid clock) (eventLog : E) (store : S) :
      Reached (PersistentSimulation.new rng clock eventLog store)
  | outside {ps : PersistentSimulation R C E S} (h : Reached ps) (eventLog : E) (store : S) :
      Reached { ps with eventLog := eventLog, store := store }
  | command {ps next : PersistentSimulation R C E S} {cmd : SimCommand}
      {result : ApiResult (List SimEvent)} (h : Reached ps)
      (hprocess : ps.processCommand cmd = some (result, next)) : Reached next
  | save {ps next : PersistentSimulation R C E S} {result : ApiResult Unit} (h : Reached ps)
      (hsave : ps.saveWorld = (result, next)) : Reached next
  | load {ps next : PersistentSimulation R C E S} {worldId : String}
      {result : ApiResult (List SimEvent)} (h : Reached ps)
      (hload : ps.loadWorld worldId = some (result, next)) : Reached next

theorem Reached.atRest (h : ps.Reached) : Simulation.AtRest ps.sim := by
  induction h with
  | new hrng hclock _ _ => exact ⟨hrng, hclock, rfl⟩
  | outside _ _ _ ih => exact ih
  | command _ hprocess ih => exact (processCommand_eq_some.mp hprocess).atRest ih
  | save _ hsave ih => exact saveWorld_atRest hsave ih
  | load _ hload ih => exact loadWorld_atRest hload ih

end Steps

variable {R C S : Type} [IRng R] [ISimClock C] [IWorldStore S] [SnapshotJson] [Crc32]
  [BatchJson] [RestorableRng R] [RestorableClock C]
  {ps next : PersistentSimulation R C FileEventLog S} {cmd : SimCommand}

/-- The generators and clocks of the processes that follow are built by their
constructors. -/
def ValidInput : RuntimeInput R C -> Prop
  | .restart _ rng clock => RestorableRng.Valid rng ∧ RestorableClock.Valid clock
  | .dieInSave _ _ _ rng clock => RestorableRng.Valid rng ∧ RestorableClock.Valid clock
  | _ => True

theorem restarted_reached {ending : FileEventLog.Ending} {rng : R} {clock : C}
    (h : ps.restarted ending rng clock = some next) (hrng : RestorableRng.Valid rng)
    (hclock : RestorableClock.Valid clock) : next.Reached := by
  unfold restarted at h
  split at h
  · cases h
    exact Reached.new hrng hclock _ _
  · cases h

theorem Reached.serve {input : RuntimeInput R C} {answer : RuntimeAnswer} (h : ps.Reached)
    (hinput : ValidInput input) (hserve : ps.serve input = some (answer, next)) :
    next.Reached := by
  cases serve_eq_some.mp hserve with
  | @command _ records _ _ hprocess =>
      exact (h.outside (ps.eventLog.withRecords records) ps.store).command hprocess
  | @save io _ _ hsave =>
      exact (h.outside (ps.eventLog.withSyncs [io]) ps.store).save hsave
  | load hload => exact h.load hload
  | restart hrestart => exact restarted_reached hrestart hinput.left hinput.right
  | dieInSave hrestart => exact restarted_reached hrestart hinput.left hinput.right

theorem Reached.run {inputs : List (RuntimeInput R C)} {answers : List RuntimeAnswer}
    (h : ps.Reached) (hinputs : forall input : RuntimeInput R C, input ∈ inputs ->
      ValidInput input) (hrun : Foundation.run PersistentSimulation.serve inputs ps =
        some (answers, next)) : next.Reached :=
  run_invariant_of_mem (fun _ _ _ _ hbefore hinput hserve => hbefore.serve hinput hserve)
    hrun hinputs h

/-- The engine accepts the command and its batch has a record, which the file system does
not take. -/
def WriteFails (ps : PersistentSimulation R C FileEventLog S) (cmd : SimCommand) : Prop :=
  exists (events : List SimEvent) (sim : Simulation R C) (record : Bytes) (e : SimError)
    (written : FileEventLog),
    ps.checkCommand cmd = .ok () ∧ ps.sim.processCommand cmd = some (.ok events, sim) ∧
      encodeEventRecord (numberFrom ⟨ps.eventLog.nextEventId⟩ events) = .ok record ∧
      ps.eventLog.writeRecords record = (.error e, written)

omit [SnapshotJson] [RestorableRng R] [RestorableClock C] in
theorem Processed.eventLog_of_error {e : ApiError} (h : Processed ps cmd (.error e) next)
    (hwrites : ¬ ps.WriteFails cmd) : next.eventLog = ps.eventLog := by
  cases h with
  | refused _ => rfl
  | rejected _ _ => rfl
  | @rolledBack events e sim eventLog hcheck hsim happend =>
      have hcall : ps.eventLog.call (.appendBatch events) = some (.error e, eventLog) := happend
      generalize hanswer : (Except.error e : SimResult (List SimEvent)) = answer at hcall
      cases call_called hcall with
      | nothing _ => rfl
      | unencodable _ => rfl
      | failed hencode hwrite _ =>
          exact absurd ⟨events, sim, _, _, _, hcheck, hsim, hencode, hwrite⟩ hwrites
      | done _ _ _ => cases hanswer

omit [SnapshotJson] [RestorableRng R] [RestorableClock C] in
theorem Processed.store_eq {result : ApiResult (List SimEvent)}
    (h : Processed ps cmd result next) : next.store = ps.store := by
  cases h <;> rfl

/-- A command that the engine refuses leaves the engine as it was, and one that the runtime
answers with an error leaves the store, the engine and, unless a write failed, the log:
`withRecords` only sets what the file system answers. -/
theorem refused_leaves_no_trace {sim : Simulation R C} (hsim : sim.Reached)
    (hps : ps.Reached) :
    (forall (cmd : SimCommand) (e : ApiError) (after : Simulation R C),
      sim.processCommand cmd = some (.error e, after) ->
        after = sim ∧ after.pendingEvents = []) ∧
      forall (cmd : SimCommand) (records : List RecordIo) (e : ApiError)
        (after : PersistentSimulation R C FileEventLog S),
        (ps.withRecords records).processCommand cmd = some (.error e, after) ->
          after.sim = ps.sim ∧ after.sim.pendingEvents = [] ∧ after.store = ps.store ∧
            (¬ (ps.withRecords records).WriteFails cmd ->
              after.eventLog = ps.eventLog.withRecords records) := by
  constructor
  · intro cmd e after hprocess
    have hsame := (Simulation.processCommand_error hprocess).eq hsim.atRest
    exact ⟨hsame, hsame ▸ hsim.atRest.pendingEvents⟩
  · intro cmd records e after hprocess
    have hprocessed := processCommand_eq_some.mp hprocess
    have hsame : after.sim = ps.sim := hprocessed.sim_of_error hps.atRest
    exact ⟨hsame, hsame ▸ hps.atRest.pendingEvents, hprocessed.store_eq,
      hprocessed.eventLog_of_error⟩

theorem fresh_reached : fresh.Reached :=
  Reached.new Pcg32Rng.uninitialized_seeded trivial (FileEventLog.closed none)
    MockWorldStore.new

omit [SnapshotJson] [Crc32] [BatchJson] in
theorem unsyncedTick_valid (input : RuntimeInput Pcg32Rng UnlimitedClock)
    (hmem : input ∈ unsyncedTick) : ValidInput input := by
  simp only [unsyncedTick, List.mem_cons, List.not_mem_nil, or_false] at hmem
  rcases hmem with h | h | h
  all_goals
    rw [h]
    trivial

omit [SnapshotJson] [Crc32] [BatchJson] in
theorem refused_leaves_no_trace_vale :
    letI := ieeeCrc32
    letI := knownSnapshots []
    letI := knownBatches [valeGenesis, [valeTick]]
    exists (answers : List RuntimeAnswer)
        (ps after : PersistentSimulation Pcg32Rng UnlimitedClock FileEventLog MockWorldStore),
      Foundation.run serve unsyncedTick fresh = some (answers, ps) ∧
        (ps.withRecords []).processCommand (.despawnEntity ⟨9⟩) =
          some (.error (.entityNotFound ⟨9⟩), after) ∧
        after.sim = ps.sim ∧ after.store = ps.store ∧
        after.eventLog = ps.eventLog.withRecords [] := by
  let _ := ieeeCrc32
  let _ := knownSnapshots []
  let _ := knownBatches [valeGenesis, [valeTick]]
  have hanswer : (Foundation.run serve unsyncedTick fresh).bind (fun result =>
      ((result.2.withRecords []).processCommand (.despawnEntity ⟨9⟩)).map Prod.fst) =
      some (.error (.entityNotFound ⟨9⟩)) := by
    decide +kernel
  rcases Option.bind_eq_some_iff.mp hanswer with ⟨⟨answers, ps⟩, hrun, hmap⟩
  rcases Option.map_eq_some_iff.mp hmap with ⟨⟨result, after⟩, hprocess, hresult⟩
  change result = _ at hresult
  rw [hresult] at hprocess
  have hps : ps.Reached := fresh_reached.run unsyncedTick_valid hrun
  have hsim : Simulation.Reached (Simulation.new Pcg32Rng.uninitialized UnlimitedClock.new) :=
    Simulation.Reached.new Pcg32Rng.uninitialized_seeded trivial
  rcases (refused_leaves_no_trace hsim hps).right _ [] _ _ hprocess with
    ⟨hengine, _, hstore, hlog⟩
  refine ⟨answers, ps, after, hrun, hprocess, hengine, hstore, hlog ?_⟩
  rintro ⟨events, sim, _, _, _, hcheck, haccepted, _, _⟩
  generalize hrefusal : (Except.error (.entityNotFound ⟨9⟩) : ApiResult (List SimEvent)) =
    answer at hprocess
  cases processCommand_eq_some.mp hprocess with
  | refused hrefused =>
      rw [hcheck] at hrefused
      cases hrefused
  | rejected _ hrejected =>
      rw [haccepted] at hrejected
      cases hrejected
  | committed _ _ _ => cases hrefusal
  | rolledBack _ _ _ => cases hrefusal

end PersistentSimulation

end Seej
