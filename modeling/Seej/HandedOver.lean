import Seej.Decoding
import Seej.InterruptedSaves
import Seej.ReplaySafety
import Seej.TickFrame

/-!
# What the engine hands over

Whatever fails in a run, the log is only ever given events of the engine, and the engine
spawns nothing under the reserved identifier: its allocator starts above it and is moved
upwards only, by its commands and by replays alike.
-/

namespace Seej

open Foundation

/-!
## The allocator
-/

/-- The allocator of a loaded world does not give out the reserved identifier. -/
def Simulation.Allocates {R C : Type} (sim : Simulation R C) : Prop :=
  forall world : World, sim.world = some world -> world.nextEntityId ≠ 0

theorem nextEntityId_kept :
    TickState.KeptByTicks fun world : World => world.nextEntityId ≠ 0 where
  updated := fun _ _ _ _ h => h
  removed := by
    intro world next id entity hremove h
    rw [(World.removeEntity_eq_some hremove).right]
    exact h

namespace Simulation

variable {R C : Type} [IRng R] [ISimClock C] {sim next : Simulation R C}

theorem Allocates.cmdTick (h : Allocates sim) (htick : sim.cmdTick = some (.ok (), next)) :
    Allocates next := by
  rcases cmdTick_ok htick with ⟨world, hworld⟩
  rcases (cmdTick_eq_ok hworld).mp htick with ⟨processed, st, hsystems, hnext⟩
  rcases TickState.runTickSystems_eq_some hsystems with ⟨middle, hloop, hst⟩
  have hmiddle := nextEntityId_kept.processEntities (h world hworld) hloop
  intro after hafter
  rw [hnext] at hafter
  cases hafter
  rw [hst]
  exact nextEntityId_kept.cleanUp hmiddle

theorem Accepted.allocates {cmd : SimCommand} {events : List SimEvent}
    (h : Accepted sim cmd events next) (hsim : Allocates sim) : Allocates next := by
  have hcleared : Allocates sim.clearPending := hsim
  cases h with
  | createWorld c _ =>
      intro world hworld
      cases hworld
      exact (WorldIntegrity.new c.name c.seed).next_valid
  | @tick ticked htick =>
      have hticked : Allocates ticked := hcleared.cmdTick htick
      exact hticked
  | @tickN n ticked htick =>
      have hticked : Allocates ticked := cmdTickN_invariant (P := Allocates)
        (fun _ _ hbefore hstep => hbefore.cmdTick hstep) htick hcleared
      exact hticked
  | @spawnEntity cmd world allocated id hworld _ hid =>
      rcases World.allocateEntityId_eq_some hid with ⟨_, hsucc, _⟩
      intro after hafter
      cases hafter
      show allocated.nextEntityId ≠ 0
      intro hzero
      rw [hzero] at hsucc
      cases hsucc
  | despawnEntity hworld hremove =>
      intro after hafter
      cases hafter
      exact nextEntityId_kept.removed _ _ _ _ hremove (hsim _ hworld)
  | @createZone cmd world hworld _ =>
      have hbefore : world.nextEntityId ≠ 0 := hsim world hworld
      intro after hafter
      cases hafter
      exact hbefore

theorem Accepted.not_spawnsInvalid {cmd : SimCommand} {events : List SimEvent}
    (h : Accepted sim cmd events next) (hsim : Allocates sim) {event : SimEvent}
    (hmem : event ∈ events) : ¬ event.data.spawnsInvalid := by
  have hnone : forall event : SimEvent, event ∈ sim.clearPending.pendingEvents ->
      ¬ event.data.spawnsInvalid := nofun
  cases h with
  | createWorld c _ =>
      rcases List.mem_cons.mp hmem with hfirst | hrest
      · rw [hfirst]
        exact id
      · rw [List.mem_singleton.mp hrest]
        exact id
  | tick htick =>
      exact cmdTick_data (P := fun data => ¬ data.spawnsInvalid)
        (fun _ => EventData.not_spawnsInvalid_of_systemic) (fun _ _ _ _ => id) hnone htick
        event hmem
  | tickN htick =>
      exact cmdTickN_data (P := fun data => ¬ data.spawnsInvalid)
        (fun _ => EventData.not_spawnsInvalid_of_systemic) (fun _ _ _ _ => id) hnone htick
        event hmem
  | spawnEntity hworld _ hid =>
      rw [List.mem_singleton.mp hmem, (World.allocateEntityId_eq_some hid).left]
      exact hsim _ hworld
  | despawnEntity _ _ =>
      rw [List.mem_singleton.mp hmem]
      exact id
  | createZone _ _ =>
      rw [List.mem_singleton.mp hmem]
      exact id

end Simulation

theorem Interpreted.nextEntityId_ne {world next : World} {tick : Tick} {data : EventData}
    (h : Interpreted world tick data next) (hworld : world.nextEntityId ≠ 0) :
    next.nextEntityId ≠ 0 := by
  cases h with
  | @entitySpawned id kind position properties zone n _ _ hnext =>
      have hle := UInt64.le_iff_toNat_le.mp (nextAfterSpawn_eq_some hnext).left
      show n ≠ 0
      intro hzero
      rw [hzero] at hle
      exact hworld (UInt64.toNat_inj.mp (Nat.le_zero.mp hle))
  | entityDespawned reason hremove =>
      exact nextEntityId_kept.removed _ _ _ _ hremove hworld
  | @entityMoved id target entity _ _ _ _ _ _ =>
      have hnext : (moveEntity world id entity.position target).nextEntityId =
          world.nextEntityId := by
        unfold moveEntity
        split <;> rfl
      rw [hnext]
      exact hworld
  | _ => exact hworld

theorem applyEvent_nextEntityId_ne {world next : World} {event : SimEvent}
    (h : applyEvent world event = accept next) (hworld : world.nextEntityId ≠ 0) :
    next.nextEntityId ≠ 0 := by
  cases hlife : event.data.isLifecycle with
  | true =>
      rw [applyEvent_of_lifecycle hlife h]
      exact hworld
  | false =>
      apply ((applyEvent_eq_interpreted hlife).mp h).right.nextEntityId_ne
      rw [advanceTo_nextEntityId]
      exact hworld

theorem Replays.nextEntityId_ne {world next : World} {events : List SimEvent}
    (h : Replays world events next) (hworld : world.nextEntityId ≠ 0) :
    next.nextEntityId ≠ 0 := by
  induction h with
  | nil _ => exact hworld
  | cons happly _ ih => exact ih (applyEvent_nextEntityId_ne happly hworld)

/-!
## Runs
-/

section Runs

variable {R C S : Type} [IRng R] [ISimClock C] [IWorldStore S] [SnapshotJson] [Crc32]
  [BatchJson]

namespace PersistentSimulation

variable {ps next : PersistentSimulation R C FileEventLog S}

omit [SnapshotJson] [Crc32] [BatchJson] in
theorem Processed.allocates {E : Type} [IEventLog E] {ps next : PersistentSimulation R C E S}
    {cmd : SimCommand} {result : ApiResult (List SimEvent)} (h : Processed ps cmd result next)
    (hsim : ps.sim.Allocates) : next.sim.Allocates := by
  cases h with
  | refused _ => exact hsim
  | rejected _ hreject =>
      intro world hworld
      exact hsim world ((Simulation.processCommand_error hreject).world ▸ hworld)
  | committed _ haccept _ => exact (Simulation.processCommand_ok haccept).allocates hsim
  | rolledBack _ _ _ => exact hsim

omit [Crc32] [BatchJson] in
theorem loadRecoveredWorld_nextEntityId_ne {E : Type} [IEventLog E] {store : S} {eventLog : E}
    {worldId : String} {world : World} {replayed : List SimEvent}
    (h : loadRecoveredWorld store eventLog worldId = some (.ok (world, replayed))) :
    world.nextEntityId ≠ 0 := by
  rcases loadRecoveredWorld_eq_ok.mp h with ⟨snapshot, hselect, hreplays⟩
  rcases selectReplay_eq_ok.mp hselect with ⟨_, ⟨bytes, _, hdecode⟩, _⟩
  exact hreplays.nextEntityId_ne (savable_of_decoded hdecode).integrity.next_valid

omit [IRng R] [ISimClock C] [IWorldStore S] [SnapshotJson] in
theorem restarted_allocates {ending : FileEventLog.Ending} {rng : R} {clock : C}
    (h : ps.restarted ending rng clock = some next) : next.sim.Allocates := by
  unfold restarted at h
  split at h
  · cases h
    exact nofun
  · cases h

theorem Served.allocates {input : RuntimeInput R C} {answer : RuntimeAnswer}
    (h : ps.Served input answer next) (hsim : ps.sim.Allocates) : next.sim.Allocates := by
  cases h with
  | @command cmd records result _ hprocess =>
      have hwith : (ps.withRecords records).sim.Allocates := hsim
      exact (processCommand_eq_some.mp hprocess).allocates hwith
  | @save io result _ hsave =>
      cases result with
      | error e =>
          rcases saveWorld_error hsave with hsame | ⟨_, _, _, hkept, _⟩
          · rw [hsame]
            exact hsim
          · rw [hkept]
            exact hsim
      | ok _ =>
          rcases saveWorld_ok hsave with ⟨saved, _, hprepare, hcommit⟩
          rcases prepareSave_eq_ok.mp hprepare with ⟨loaded, hloaded, _, hsaved, _⟩
          rcases commitSave_ok hcommit with ⟨_, _, _, _, hkept⟩
          have hbefore : loaded.nextEntityId ≠ 0 := hsim loaded hloaded
          intro world hworld
          rw [hkept] at hworld
          cases hworld
          rw [hsaved]
          exact hbefore
  | load hload =>
      rcases loadWorld_eq_some hload with ⟨_, _, hsame⟩ | ⟨world, _, hrecovered, _, hnext⟩
      · rw [hsame]
        exact hsim
      · have hworld : world.nextEntityId ≠ 0 := loadRecoveredWorld_nextEntityId_ne hrecovered
        rw [hnext]
        intro loaded hloaded
        cases hloaded
        exact hworld
  | restart hrestart => exact restarted_allocates hrestart
  | dieInSave hrestart => exact restarted_allocates hrestart

end PersistentSimulation

/-- In the run over the inputs the engine gives the log an event with this tick and data,
which may be written, refused or lost. -/
inductive HandedOver : Session R C S -> List (RuntimeInput R C) -> SimEvent -> Prop where
  | now {session : Session R C S} {cmd : SimCommand} {records : List RecordIo}
      {rest : List (RuntimeInput R C)} {events : List SimEvent} {sim : Simulation R C}
      {event : SimEvent} (hcheck : session.runtime.checkCommand cmd = .ok ())
      (hsim : session.runtime.sim.processCommand cmd = some (.ok events, sim))
      (hmem : event.fact ∈ events.map SimEvent.fact) :
      HandedOver session (.command cmd records :: rest) event
  | later {session next : Session R C S} {input : RuntimeInput R C}
      {rest : List (RuntimeInput R C)} {answer : RuntimeAnswer} {event : SimEvent}
      (hserve : session.serve input = some (answer, next))
      (hrest : HandedOver next rest event) : HandedOver session (input :: rest) event

theorem HandedOver.not_spawnsInvalid {session : Session R C S}
    {inputs : List (RuntimeInput R C)} {event : SimEvent} (h : HandedOver session inputs event)
    (hsession : session.runtime.sim.Allocates) : ¬ event.data.spawnsInvalid := by
  induction h with
  | now _ hsim hmem =>
      rcases List.mem_map.mp hmem with ⟨original, horiginal, hfact⟩
      have hdata : original.data = _ := congrArg Prod.snd hfact
      intro hspawn
      apply (Simulation.processCommand_ok hsim).not_spawnsInvalid hsession horiginal
      rw [hdata]
      exact hspawn
  | later hserve _ ih =>
      rcases Session.served hserve with ⟨runtime, hserved, hnext⟩
      apply ih
      rw [hnext]
      exact hserved.allocates hsession

/-!
## Intact logs
-/

/-- The file of the log is whole, so that repair cuts nothing, and lists events of the run
alone. -/
structure IntactWal (session : Session R C S) (inputs : List (RuntimeInput R C))
    (file : Option Bytes) (log : FileEventLog) (events : List SimEvent) : Prop where
  opened : FileEventLog.new file = some (.ok log)
  whole : log.file = file
  listed : log.readAllValid = .ok events
  own : forall event : SimEvent, event ∈ events -> HandedOver session inputs event

omit [SnapshotJson] in
theorem PersistentSimulation.processCommand_handed
    {ps next : PersistentSimulation R C FileEventLog S} {cmd : SimCommand}
    {persisted : List SimEvent} (h : ps.processCommand cmd = some (.ok persisted, next)) :
    exists (events : List SimEvent) (sim : Simulation R C),
      ps.checkCommand cmd = .ok () ∧ ps.sim.processCommand cmd = some (.ok events, sim) ∧
        persisted.map SimEvent.fact = events.map SimEvent.fact := by
  cases processCommand_eq_some.mp h with
  | @committed events _ sim _ hcheck hsim happend =>
      refine ⟨events, sim, hcheck, hsim, ?_⟩
      rw [call_numbered (c := .appendBatch events) happend]
      exact numberFrom_facts _ _

omit [IRng R] [ISimClock C] [IWorldStore S] [SnapshotJson] in
theorem Holds.framesEvents_eq {log : FileEventLog} {frames frames' : List WalFrame}
    (h : Holds log frames) (h' : Holds log frames') :
    framesEvents frames = framesEvents frames' := by
  have hread := h.lists.read
  rw [h'.lists.read] at hread
  exact (Except.ok.inj hread).symm

namespace Durable

variable [BatchJson.Lossless] [SnapshotJson.Lossless] [AtomicWorldStore S]
  {session next : Session R C S} {frames : List WalFrame}

omit [BatchJson.Lossless] in
theorem other_lists (h : Durable session) (hlog : Holds session.runtime.eventLog frames)
    {input : RuntimeInput R C} {answer : RuntimeAnswer}
    (hserve : session.serve input = some (answer, next))
    (hother : forall (c : SimCommand) (records : List RecordIo), input ≠ .command c records) :
    exists frames' : List WalFrame, Holds next.runtime.eventLog frames' ∧
      framesEvents frames' = framesEvents frames := by
  cases h with
  | unborn h => exact ⟨_, (h.serve_other hserve hother).log, h.log.framesEvents_eq hlog⟩
  | born h => exact ⟨_, (h.serve_other hserve hother).log, h.log.framesEvents_eq hlog⟩

theorem serve_handed (h : Durable session) (hlog : Holds session.runtime.eventLog frames)
    {input : RuntimeInput R C} (hquiet : input.Quiet) {answer : RuntimeAnswer}
    (hserve : session.serve input = some (answer, next)) (rest : List (RuntimeInput R C)) :
    exists frames' : List WalFrame, Holds next.runtime.eventLog frames' ∧
      forall event : SimEvent, event ∈ framesEvents frames' ->
        event ∈ framesEvents frames ∨ HandedOver session (input :: rest) event := by
  cases input with
  | command c records =>
      have hnone : records = [] := hquiet
      subst hnone
      rcases Session.served hserve with ⟨runtime, ⟨hprocess⟩, hnext⟩
      subst hnext
      cases processCommand_quiet hlog hprocess with
      | failed _ hholds hevents =>
          refine ⟨_, hholds, ?_⟩
          rw [hevents]
          exact fun _ => Or.inl
      | @appended events sim log more _ _ _ hholds _ =>
          refine ⟨_, hholds, ?_⟩
          intro event hmem
          rw [framesEvents_append] at hmem
          rcases List.mem_append.mp hmem with hold | hnew
          · exact Or.inl hold
          · rcases PersistentSimulation.processCommand_handed hprocess with
              ⟨handed, after, hcheck, hsim, hfacts⟩
            apply Or.inr
            apply HandedOver.now hcheck hsim
            rw [← hfacts]
            exact List.mem_map_of_mem hnew
  | _ =>
      rcases h.other_lists hlog hserve nofun with ⟨frames', hholds, hevents⟩
      refine ⟨frames', hholds, ?_⟩
      rw [hevents]
      exact fun _ => Or.inl

theorem run_handed {inputs : List (RuntimeInput R C)} {answers : List RuntimeAnswer}
    (h : Durable session) (hlog : Holds session.runtime.eventLog frames)
    (hrun : Foundation.run Session.serve inputs session = some (answers, next))
    (hquiet : forall input : RuntimeInput R C, input ∈ inputs -> input.Quiet) :
    exists frames' : List WalFrame, Holds next.runtime.eventLog frames' ∧
      forall event : SimEvent, event ∈ framesEvents frames' ->
        event ∈ framesEvents frames ∨ HandedOver session inputs event := by
  induction inputs generalizing session frames answers with
  | nil =>
      cases hrun
      exact ⟨frames, hlog, fun _ => Or.inl⟩
  | cons input rest ih =>
      rcases run_cons.mp hrun with ⟨answer, middle, later, hserve, hlater, _⟩
      have hfirst : input.Quiet := hquiet input List.mem_cons_self
      rcases h.serve_handed hlog hfirst hserve rest with ⟨between, hbetween, hstep⟩
      rcases ih (h.serve hfirst hserve) hbetween hlater
        (fun other hmem => hquiet other (List.mem_cons_of_mem _ hmem)) with
        ⟨frames', hholds, hrest⟩
      refine ⟨frames', hholds, ?_⟩
      intro event hmem
      rcases hrest event hmem with hold | hnew
      · exact hstep event hold
      · exact Or.inr (HandedOver.later hserve hnew)

end Durable

omit [IRng R] [ISimClock C] [IWorldStore S] [SnapshotJson] in
/-- A file that is nothing but records is kept by repair. -/
theorem Holds.new_whole {log : FileEventLog} {frames : List WalFrame} {path : Option Bytes}
    (h : Holds log frames) (hpath : path.getD [] = joined frames) :
    exists reopened : FileEventLog, FileEventLog.new path = some (.ok reopened) ∧
      Holds reopened frames ∧ reopened.file = path := by
  rcases h.new_path hpath with ⟨reopened, hnew, hholds, _⟩
  refine ⟨reopened, hnew, hholds, ?_⟩
  cases path with
  | none =>
      cases hnew
      rfl
  | some bytes =>
      rcases new_holds h.records (Or.inl rfl) h.counts.numbered h.counts.length_lt with
        ⟨found, hfound, _, _, _, hfile⟩
      rw [← hpath, Option.getD_some] at hfound hfile
      rw [List.append_nil, hnew] at hfound
      cases hfound
      exact hfile

theorem intactWal_of_quiet [BatchJson.Lossless] [SnapshotJson.Lossless] [AtomicWorldStore S]
    {rng : R} {clock : C} {store : S} (hstore : EmptyStore store)
    {inputs : List (RuntimeInput R C)} {answers : List RuntimeAnswer} {session : Session R C S}
    (hrun : run Session.serve inputs (Session.start rng clock store) = some (answers, session))
    (hquiet : forall input : RuntimeInput R C, input ∈ inputs -> input.Quiet)
    (ending : FileEventLog.Ending) :
    exists (log : FileEventLog) (events : List SimEvent),
      IntactWal (Session.start rng clock store) inputs (session.runtime.eventLog.left ending)
        log events := by
  rcases (Durable.start hstore).run_handed (Holds.empty {}) hrun hquiet with
    ⟨frames, hholds, hhanded⟩
  rcases hholds.new_whole (hholds.left_file ending) with ⟨log, hnew, hlog, hfile⟩
  refine ⟨log, framesEvents frames, hnew, hfile, hlog.lists.read, ?_⟩
  intro event hmem
  rcases hhanded event hmem with hnone | hevent
  · cases hnone
  · exact hevent

end Runs

end Seej
