import Seej.JsonLength
import Seej.LifeCycle
import Seej.LiveIntegrity
import Seej.TickBatches

/-!
# Ticks that fit into a record

A tick is one batch and a batch is one record of bounded length.  How much a tick
pushes is decided by the population, which has no bound, so whether a loaded world
can tick is decided by what a record and the counters can hold.
-/

namespace Seej

open Foundation

namespace TickState

variable {R : Type}

/-!
## Rules keep the population
-/

/-- A part of a tick that neither adds nor removes an entity and pushes at most so many
events. -/
structure Tends (limit : Nat) (st next : TickState R) : Prop where
  present : forall id : EntityId, id ∈ next.world.entities <-> id ∈ st.world.entities
  size : next.world.entities.size = st.world.entities.size
  pending : next.pendingEvents.length ≤ st.pendingEvents.length + limit

namespace Tends

theorem same {st next : TickState R} (limit : Nat) (hworld : next.world = st.world)
    (hpending : next.pendingEvents = st.pendingEvents) : Tends limit st next := by
  constructor
  case present => exact fun id => by rw [hworld]
  case size => rw [hworld]
  case pending =>
    rw [hpending]
    exact Nat.le_add_right _ _

theorem trans {left right : Nat} {first second third : TickState R}
    (hleft : Tends left first second) (hright : Tends right second third) :
    Tends (left + right) first third := by
  constructor
  case present => exact fun id => (hright.present id).trans (hleft.present id)
  case size => exact hright.size.trans hleft.size
  case pending =>
    have hfirst := hleft.pending
    have hsecond := hright.pending
    omega

theorem worn (st : TickState R) (rng : R) (entityId : EntityId) (f : Entity -> Entity)
    (data : EventData) : Tends 1 st (st.worn rng entityId f data) := by
  constructor
  case present =>
    intro id
    show id ∈ st.world.entities.modify entityId f <-> _
    exact Std.ExtTreeMap.mem_modify
  case size => exact Std.ExtTreeMap.size_modify
  case pending =>
    show (st.pendingEvents ++ [_]).length ≤ _
    rw [List.length_append]
    exact Nat.le_refl _

theorem kill (st : TickState R) (entityId : EntityId) : Tends 1 st (st.kill entityId) := by
  unfold TickState.kill
  split
  · exact worn st st.rng entityId _ _
  · exact same 1 rfl rfl

theorem kill_if (st : TickState R) (entityId : EntityId) (c : Prop) [Decidable c] :
    Tends 1 st (if c then st.kill entityId else st) := by
  split
  · exact kill st entityId
  · exact same 1 rfl rfl

end Tends

variable [IRng R]

theorem depleteResource_tends (st : TickState R) (entityId : EntityId) (amount : UInt32) :
    Tends 2 st (st.depleteResource entityId amount) := by
  unfold depleteResource
  split
  · split
    · rename_i rng _
      exact (Tends.worn st rng entityId _ _).trans (Tends.kill_if _ entityId _)
    · exact Tends.same 2 rfl rfl
  · exact Tends.same 2 rfl rfl

theorem degradeCreature_tends (st : TickState R) (entityId : EntityId) (health : UInt32) :
    Tends 2 st (st.degradeCreature entityId health) := by
  unfold degradeCreature
  split
  · split
    · rename_i rng _
      cases hentity : st.world.entities[entityId]? with
      | none =>
          simp only [hentity]
          have hdrawn : Tends 1 st { st with rng := rng } := Tends.same 1 rfl rfl
          exact hdrawn.trans (Tends.kill_if _ entityId _)
      | some entity =>
          simp only [hentity]
          exact (Tends.worn st rng entityId _ _).trans (Tends.kill_if _ entityId _)
    · exact Tends.same 2 rfl rfl
  · exact Tends.same 2 rfl rfl

theorem applyRule_tends (st : TickState R) (entityId : EntityId) (entity : Entity) :
    Tends 2 st (st.applyRule entityId entity) := by
  unfold applyRule
  split
  · split
    · exact depleteResource_tends st entityId _
    · exact Tends.same 2 rfl rfl
  · split
    · exact degradeCreature_tends st entityId _
    · exact Tends.same 2 rfl rfl
  · exact Tends.same 2 rfl rfl

theorem processEntities_tends {ids : List EntityId} {count processed : UInt32}
    {st next : TickState R} (h : processEntities ids count st = some (processed, next)) :
    Tends (2 * ids.length) st next := by
  induction ids generalizing count st with
  | nil =>
      cases h
      exact Tends.same 0 rfl rfl
  | cons entityId rest ih =>
      rw [List.length_cons, Nat.mul_succ, Nat.add_comm]
      rcases processEntities_cons h with ⟨_, hrest⟩ | ⟨entity, succ, _, hrest⟩
      · exact (Tends.same 2 rfl rfl).trans (ih hrest)
      · exact (applyRule_tends st entityId entity).trans (ih hrest)

theorem processEntities_eq_none {ids : List EntityId} {count : UInt32} {st : TickState R}
    (hpresent : forall id : EntityId, id ∈ ids -> id ∈ st.world.entities) :
    processEntities ids count st = none <-> 2 ^ 32 ≤ count.toNat + ids.length := by
  induction ids generalizing count st with
  | nil =>
      have hlt : count.toNat < 2 ^ 32 := count.toNat_lt
      simp only [processEntities, List.length_nil, reduceCtorEq, false_iff]
      omega
  | cons entityId rest ih =>
      rcases (BTreeMap.mem_iff _ _).mp (hpresent entityId List.mem_cons_self) with
        ⟨entity, hentity⟩
      unfold processEntities
      simp only [hentity]
      cases hcount : checkedSucc32 count with
      | none =>
          have hmax := checkedSucc32_eq_none.mp hcount
          simp only [bind, Option.bind, List.length_cons, true_iff]
          omega
      | some succ =>
          have hsucc := checkedSucc32_toNat hcount
          have hrest : processEntities rest succ (st.applyRule entityId entity) = none <-> _ :=
            ih fun id hmem => ((applyRule_tends st entityId entity).present id).mpr
              (hpresent id (List.mem_cons_of_mem _ hmem))
          simp only [bind, Option.bind, List.length_cons]
          rw [hrest]
          omega

omit [IRng R] in
theorem removeDead_pending (ids : List EntityId) (st : TickState R) :
    (removeDead ids st).pendingEvents.length ≤ st.pendingEvents.length + ids.length := by
  induction ids generalizing st with
  | nil => exact Nat.le_refl _
  | cons id rest ih =>
      unfold removeDead
      rw [List.length_cons]
      split
      · rename_i world _
        let removed : TickState R :=
          ({ st with world := world } : TickState R).push (.entityDespawned id .death)
        have hpushed : removed.pendingEvents.length = st.pendingEvents.length + 1 :=
          List.length_append
        have hrest := ih removed
        rw [hpushed, Nat.add_assoc, Nat.add_comm 1] at hrest
        exact hrest
      · have hrest := ih st
        omega

end TickState

theorem World.filter_length_le (world : World) (p : Entity -> Bool) :
    ((BTreeMap.values world.entities).filter p).length ≤ world.entities.size := by
  refine Nat.le_trans (List.length_filter_le _ _) (Nat.le_of_eq ?_)
  rw [BTreeMap.values, List.length_map]
  exact Std.ExtTreeMap.length_toList

namespace TickState

variable {R : Type} [IRng R]

theorem runTickSystems_eq_none {st : TickState R} (hintegrity : WorldIntegrity st.world) :
    st.runTickSystems = none <-> 2 ^ 32 ≤ st.world.activeEntities.length := by
  have hloop : processEntities (st.world.activeEntities.map Entity.id) 0 st = none <-> _ :=
    processEntities_eq_none fun id hmem => by
      rcases (BTreeMap.mem_keys_filter hintegrity.entity_key).mp hmem with ⟨entity, hentity, _⟩
      exact (BTreeMap.mem_iff _ _).mpr ⟨entity, hentity⟩
  rw [List.length_map, UInt32.toNat_zero, Nat.zero_add] at hloop
  rw [← hloop, runTickSystems_eq, Option.map_eq_none_iff]

/-- A tick pushes at most three events for an entity. -/
theorem runTickSystems_pending {st next : TickState R} {processed : UInt32}
    (h : st.runTickSystems = some (processed, next)) :
    next.pendingEvents.length ≤ st.pendingEvents.length + 3 * st.world.entities.size := by
  rcases runTickSystems_eq_some h with ⟨middle, hloop, hnext⟩
  have htends := processEntities_tends hloop
  have hactive : st.world.activeEntities.length ≤ _ :=
    st.world.filter_length_le Entity.isActive
  have hpending := htends.pending
  have hclean : middle.cleanUp.pendingEvents.length ≤
      middle.pendingEvents.length + st.world.entities.size := by
    unfold cleanUp
    split
    · have hremove := removeDead_pending
        (((BTreeMap.values middle.world.entities).filter Entity.isDead).map Entity.id) middle
      have hdead := middle.world.filter_length_le Entity.isDead
      rw [List.length_map] at hremove
      rw [htends.size] at hdead
      omega
    · exact Nat.le_add_right _ _
  rw [List.length_map] at hpending
  rw [hnext]
  omega

end TickState

/-!
## The answer to a tick
-/

namespace Simulation

variable {R C : Type} [IRng R] [ISimClock C] {sim : Simulation R C} {world : World}

def tickEvents (sim : Simulation R C) : List SimEvent :=
  match sim.clearPending.cmdTick with
  | some (_, next) => next.pendingEvents
  | none => []

theorem cmdTick_eq_none (hworld : sim.world = some world) (hintegrity : WorldIntegrity world) :
    sim.cmdTick = none <-> 2 ^ 32 ≤ world.activeEntities.length := by
  have hadvanced : WorldIntegrity world.advanceTick := hintegrity.setClock _
  rw [cmdTick_eq hworld, Option.map_eq_none_iff]
  exact TickState.runTickSystems_eq_none hadvanced

theorem tickEvents_length (hworld : sim.world = some world) :
    sim.tickEvents.length ≤ 3 * world.entities.size + 1 := by
  have hworld' : sim.clearPending.world = some world := hworld
  unfold tickEvents
  rw [cmdTick_eq hworld']
  cases hsystems : TickState.runTickSystems
      ⟨world.advanceTick, sim.clearPending.rng, sim.clearPending.pendingEvents⟩ with
  | none => exact Nat.zero_le _
  | some result =>
      rcases result with ⟨processed, st⟩
      have hpending : st.pendingEvents.length ≤ 0 + 3 * world.entities.size :=
        TickState.runTickSystems_pending hsystems
      show (st.pendingEvents ++ [_]).length ≤ _
      rw [List.length_append, List.length_singleton]
      omega

end Simulation

section Capacity

variable {R C S : Type} [IRng R] [ISimClock C] [IWorldStore S] [SnapshotJson] [Crc32]
  [BatchJson]

/-- The counters and a record can hold what a tick makes of this world. -/
structure TickFits (ps : PersistentSimulation R C FileEventLog S) (world : World) : Prop where
  counted : world.activeEntities.length < 2 ^ 32
  numbered : ps.eventLog.nextEventId.toNat + ps.sim.tickEvents.length < 2 ^ 64
  encoded : exists payload : Bytes,
    BatchJson.toVec (numberFrom ⟨ps.eventLog.nextEventId⟩ ps.sim.tickEvents) = .ok payload ∧
      payload.length ≤ maxWalPayloadLen

inductive TickOutcome (ps : PersistentSimulation R C FileEventLog S) (world : World) :
    Option (RuntimeAnswer × PersistentSimulation R C FileEventLog S) -> Prop where
  | aborted (hfull : 2 ^ 32 ≤ world.activeEntities.length ∨
      2 ^ 64 ≤ ps.eventLog.nextEventId.toNat + ps.sim.tickEvents.length) :
      TickOutcome ps world none
  | refused {e : SimError} {sim : Simulation R C} (hne : ps.sim.tickEvents ≠ [])
      (hencode : encodeEventRecord
        (numberFrom ⟨ps.eventLog.nextEventId⟩ ps.sim.tickEvents) = .error e) :
      TickOutcome ps world (some (.command (.error (storageError e)),
        { ps with
          sim := sim.restoreCheckpoint ps.sim.checkpoint
          eventLog := ps.eventLog.withRecords [] }))
  | accepted {next : PersistentSimulation R C FileEventLog S} (hfits : TickFits ps world) :
      TickOutcome ps world (some (.command (.ok
        (numberFrom ⟨ps.eventLog.nextEventId⟩ ps.sim.tickEvents)), next))

omit [SnapshotJson] [Crc32] [BatchJson] in
theorem Simulation.processCommand_tick_none {sim : Simulation R C}
    (h : sim.clearPending.cmdTick = none) : sim.processCommand .tick = none := by
  show sim.clearPending.cmdTick.map (finish _) = _
  rw [h]
  rfl

omit [SnapshotJson] in
theorem processCommand_of_abort {ps : PersistentSimulation R C FileEventLog S} {cmd : SimCommand}
    (hcheck : ps.checkCommand cmd = .ok ())
    (h : ps.sim.processCommand cmd = none ∨ exists (events : List SimEvent)
      (sim : Simulation R C), ps.sim.processCommand cmd = some (.ok events, sim) ∧
        IEventLog.appendBatch ps.eventLog events = none) : ps.processCommand cmd = none := by
  unfold PersistentSimulation.processCommand
  rcases h with hsim | ⟨events, sim, hsim, happend⟩
  · simp only [hcheck, hsim]
  · simp only [hcheck, hsim, happend]

theorem serve_tickOutcome {ps : PersistentSimulation R C FileEventLog S} {world : World}
    (hbuffer : ps.eventLog.writer.getD [] = []) (hworld : ps.sim.world = some world)
    (hintegrity : WorldIntegrity world) : TickOutcome ps world (ps.serve (.command .tick [])) := by
  have hcleared : ps.sim.clearPending.world = some world := hworld
  have hcounter := Simulation.cmdTick_eq_none hcleared hintegrity
  have hwith : (ps.withRecords []).eventLog.writer.getD [] = [] := hbuffer
  cases htick : ps.sim.clearPending.cmdTick with
  | none =>
      have habort : (ps.withRecords []).processCommand .tick = none :=
        processCommand_of_abort rfl (Or.inl (Simulation.processCommand_tick_none htick))
      have hserve : ps.serve (.command .tick []) = none := Option.map_eq_none_iff.mpr habort
      rw [hserve]
      exact TickOutcome.aborted (Or.inl (hcounter.mp htick))
  | some result =>
      rcases result with ⟨outcome, next⟩
      cases outcome with
      | error e =>
          rw [(Simulation.cmdTick_error htick).left] at hcleared
          cases hcleared
      | ok _ =>
          have hevents : ps.sim.tickEvents = next.pendingEvents := by
            unfold Simulation.tickEvents
            rw [htick]
          have hcounted : world.activeEntities.length < 2 ^ 32 := by
            refine Nat.not_le.mp fun hle => ?_
            rw [hcounter.mpr hle] at htick
            cases htick
          have hsim : ps.sim.processCommand .tick =
              some (.ok ps.sim.tickEvents, next.clearPending) := by
            rw [hevents]
            exact Simulation.processCommand_tick htick
          have hne : ps.sim.tickEvents ≠ [] := by
            rw [hevents]
            exact Simulation.cmdTick_pending_ne_nil htick
          have happend : IEventLog.appendBatch (ps.withRecords []).eventLog
              ps.sim.tickEvents = _ :=
            appendBatch_of_room rfl hwith hne
          by_cases hroom : ps.eventLog.nextEventId.toNat + ps.sim.tickEvents.length < 2 ^ 64
          · cases hencode : encodeEventRecord
                (numberFrom ⟨(ps.withRecords []).eventLog.nextEventId⟩ ps.sim.tickEvents) with
            | error e =>
                replace happend := happend.trans (if_pos hroom)
                rw [hencode] at happend
                have hserve : ps.serve (.command .tick []) = some _ :=
                  PersistentSimulation.serve_eq_some.mpr (PersistentSimulation.Served.command
                    (PersistentSimulation.processCommand_eq_some.mpr
                      (PersistentSimulation.Processed.rolledBack rfl hsim happend)))
                rw [hserve]
                exact TickOutcome.refused hne hencode
            | ok record =>
                have hserve := serve_accepted hbuffer rfl hsim hne hroom hencode
                rw [hserve]
                exact TickOutcome.accepted ⟨hcounted, hroom,
                  (encodeEventRecord_isOk (mt numberFrom_eq_nil.mp hne)).mp ⟨record, hencode⟩⟩
          · have habort : (ps.withRecords []).processCommand .tick = none :=
              processCommand_of_abort rfl
                (Or.inr ⟨_, _, hsim, happend.trans (if_neg hroom)⟩)
            have hserve : ps.serve (.command .tick []) = none :=
              Option.map_eq_none_iff.mpr habort
            rw [hserve]
            exact TickOutcome.aborted (Or.inr (Nat.not_lt.mp hroom))

namespace TickOutcome

variable {ps : PersistentSimulation R C FileEventLog S} {world : World}
  {result : Option (RuntimeAnswer × PersistentSimulation R C FileEventLog S)}

omit [IWorldStore S] [SnapshotJson] in
theorem accepted_iff (h : TickOutcome ps world result) :
    (exists (events : List SimEvent) (next : PersistentSimulation R C FileEventLog S),
      result = some (.command (.ok events), next)) <-> TickFits ps world := by
  cases h with
  | aborted hfull =>
      refine iff_of_false (fun ⟨_, _, h⟩ => nomatch h) ?_
      intro hfits
      have hcounted := hfits.counted
      have hnumbered := hfits.numbered
      omega
  | @refused e sim hne hencode =>
      refine iff_of_false (fun ⟨_, _, h⟩ => nomatch h) ?_
      intro hfits
      rcases (encodeEventRecord_isOk (mt numberFrom_eq_nil.mp hne)).mpr hfits.encoded with
        ⟨record, hrecord⟩
      cases hrecord.symm.trans hencode
  | accepted hfits => exact iff_of_true ⟨_, _, rfl⟩ hfits

omit [IWorldStore S] [SnapshotJson] in
theorem error (h : TickOutcome ps world result) {e : ApiError}
    {next : PersistentSimulation R C FileEventLog S}
    (hresult : result = some (.command (.error e), next)) :
    next.sim.world = ps.sim.world ∧ next.eventLog = ps.eventLog.withRecords [] ∧
      next.store = ps.store := by
  cases h with
  | aborted _ => cases hresult
  | refused _ _ =>
      cases hresult
      exact ⟨rfl, rfl, rfl⟩
  | accepted _ => cases hresult

end TickOutcome

/-- In every state that a runtime reaches, a tick of the loaded world is one of these. -/
theorem reached_tickOutcome [BatchJson.Lossless] [SnapshotJson.Lossless] [AtomicWorldStore S]
    {rng : R} {clock : C} {store : S} (hstore : EmptyStore store)
    {inputs : List (RuntimeInput R C)} {answers : List RuntimeAnswer}
    {ps : PersistentSimulation R C FileEventLog S} {world : World}
    (hrun : run PersistentSimulation.serve inputs
      (PersistentSimulation.new rng clock (FileEventLog.closed none) store) = some (answers, ps))
    (hquiet : forall input : RuntimeInput R C, input ∈ inputs -> input.Quiet)
    (hworld : ps.sim.world = some world) :
    TickOutcome ps world (ps.serve (.command .tick [])) := by
  rcases Session.run_of_run none hrun with ⟨reached, hsession⟩
  rcases ((Durable.start hstore).run hsession hquiet).holds with ⟨frames, hlog⟩
  have hlive := (liveWorld_reached hstore hrun hquiet).left world hworld
  exact serve_tickOutcome hlog.buffer hworld hlive.integrity

/-- A loaded world can tick if and only if the tick fits.  A tick that is refused leaves
the world, the log and the store as they are. -/
theorem tick_accepted_iff [BatchJson.Lossless] [SnapshotJson.Lossless] [AtomicWorldStore S]
    {rng : R} {clock : C} {store : S} (hstore : EmptyStore store)
    {inputs : List (RuntimeInput R C)} {answers : List RuntimeAnswer}
    {ps : PersistentSimulation R C FileEventLog S} {world : World}
    (hrun : run PersistentSimulation.serve inputs
      (PersistentSimulation.new rng clock (FileEventLog.closed none) store) = some (answers, ps))
    (hquiet : forall input : RuntimeInput R C, input ∈ inputs -> input.Quiet)
    (hworld : ps.sim.world = some world) :
    ((exists (events : List SimEvent) (next : PersistentSimulation R C FileEventLog S),
        ps.serve (.command .tick []) = some (.command (.ok events), next)) <->
      TickFits ps world) ∧
    forall (e : ApiError) (next : PersistentSimulation R C FileEventLog S),
      ps.serve (.command .tick []) = some (.command (.error e), next) ->
        next.sim.world = some world ∧ next.eventLog = ps.eventLog.withRecords [] ∧
          next.store = ps.store := by
  have houtcome := reached_tickOutcome hstore hrun hquiet hworld
  refine ⟨houtcome.accepted_iff, ?_⟩
  intro e next hserve
  rw [← hworld]
  exact houtcome.error hserve

end Capacity

def lastOre : SpawnEntityCmd :=
  { position := ⟨ZoneId.origin, ⟨1, 2, 0⟩⟩
    kind := .resource
    properties := { name := none, amount := some 1, health := none } }

def lastOreSpawned : List SimEvent :=
  [⟨⟨3⟩, ⟨0⟩, .entitySpawned ⟨1⟩ .resource lastOre.position lastOre.properties⟩]

def lastOreTick : List SimEvent :=
  [⟨⟨4⟩, ⟨1⟩, .resourceDepleted ⟨1⟩ 1 0⟩,
    ⟨⟨5⟩, ⟨1⟩, .entityStateChanged ⟨1⟩ .active .dead⟩,
    ⟨⟨6⟩, ⟨1⟩, .tickProcessed ⟨1⟩ ⟨1⟩ 1 (some 7655465419508447818)⟩]

theorem tick_accepted_iff_vale :
    letI := ieeeCrc32
    letI := knownSnapshots []
    letI := knownBatches [PersistentSimulation.valeGenesis, lastOreSpawned, lastOreTick]
    exists (ps : PersistentSimulation Pcg32Rng UnlimitedClock FileEventLog MockWorldStore)
        (world : World),
      (run PersistentSimulation.serve
        [.command PersistentSimulation.createVale [], .command (.spawnEntity lastOre) []]
        PersistentSimulation.fresh).map Prod.snd = some ps ∧
      ps.sim.world = some world ∧ ps.sim.tickEvents.length = 3 ∧ TickFits ps world := by
  let _ := ieeeCrc32
  let _ := knownSnapshots []
  let _ := knownBatches [PersistentSimulation.valeGenesis, lastOreSpawned, lastOreTick]
  have _ : BatchJson.Lossless := knownBatches_lossless (by decide +kernel)
  have _ : SnapshotJson.Lossless := knownSnapshots_lossless (by decide +kernel)
  have hanswer : ((run PersistentSimulation.serve
      [.command PersistentSimulation.createVale [], .command (.spawnEntity lastOre) []]
      PersistentSimulation.fresh).bind fun spawned =>
        spawned.2.sim.world.bind fun _ => (spawned.2.serve (.command .tick [])).map fun ticked =>
          (spawned.2.sim.tickEvents.length, ticked.1)) =
        some (3, .command (.ok lastOreTick)) := by
    decide +kernel
  rcases Option.bind_eq_some_iff.mp hanswer with ⟨⟨answers, ps⟩, hrun, hloaded⟩
  rcases Option.bind_eq_some_iff.mp hloaded with ⟨world, hworld, hticked⟩
  rcases Option.map_eq_some_iff.mp hticked with ⟨⟨answer, next⟩, hserve, hpair⟩
  have hlength : ps.sim.tickEvents.length = 3 := congrArg Prod.fst hpair
  have hevents : answer = .command (.ok lastOreTick) := congrArg Prod.snd hpair
  have hfits := (tick_accepted_iff MockWorldStore.new_empty hrun (by decide) hworld).left.mp
    ⟨_, next, hserve.trans (by rw [← hevents])⟩
  refine ⟨ps, world, ?_, hworld, hlength, hfits⟩
  rw [hrun]
  rfl

/-!
## Small populations
-/

section Few

variable {R C S : Type} [IRng R] [ISimClock C] [IWorldStore S] [SnapshotJson] [Crc32]
  [BatchJson]

/-- `serde_json` writes the compact text. -/
class BatchJson.Texts [BatchJson] : Prop where
  toVec_text : forall (events : List SimEvent) (bytes : Bytes),
    Json.batch events = some bytes -> toVec events = .ok bytes

omit [SnapshotJson] [Crc32] in
theorem payload_of_short [BatchJson.Texts] {events : List SimEvent} {limit : Nat}
    (hne : events ≠ []) (hshort : forall e : SimEvent, e ∈ events ->
      exists bytes : Bytes, Json.event e = some bytes ∧ bytes.length ≤ limit)
    (hfits : (limit + 1) * events.length + 36 ≤ maxWalPayloadLen) :
    exists payload : Bytes, BatchJson.toVec events = .ok payload ∧
      payload.length ≤ maxWalPayloadLen := by
  rcases Json.batch_length_le hne hshort with ⟨bytes, hbatch, hle⟩
  exact ⟨bytes, BatchJson.Texts.toVec_text _ _ hbatch, Nat.le_trans hle hfits⟩

omit [IWorldStore S] [SnapshotJson] [Crc32] [BatchJson] in
theorem Simulation.tickEvents_data {sim : Simulation R C} {world : World}
    (hworld : sim.world = some world) (hintegrity : WorldIntegrity world) {e : SimEvent}
    (hmem : e ∈ sim.tickEvents) :
    e.data.isSystemic = true ∨ exists (after : World) (processed : UInt32),
      e = tickEvent after processed := by
  have hcleared : sim.clearPending.world = some world := hworld
  unfold tickEvents at hmem
  split at hmem
  · rename_i result next htick
    cases result with
    | error _ =>
        rw [(cmdTick_error htick).left] at hcleared
        cases hcleared
    | ok _ =>
        rcases cmdTick_ticked hcleared hintegrity htick with ⟨after, events, hticked⟩
        rcases hticked.shape with ⟨systemic, processed, hevents, hsystemic⟩
        have hpending : next.pendingEvents = [] ++ events := hticked.pending
        rw [hpending, List.nil_append, hevents] at hmem
        rcases List.mem_append.mp hmem with hmem | hlast
        · exact Or.inl (hsystemic e hmem).right
        · exact Or.inr ⟨after, processed, List.mem_singleton.mp hlast⟩
  · cases hmem

omit [IWorldStore S] [SnapshotJson] [Crc32] [BatchJson] in
theorem Simulation.tickEvents_short {sim : Simulation R C} {world : World}
    (hworld : sim.world = some world) (hintegrity : WorldIntegrity world) (start : EventId)
    {e : SimEvent} (hmem : e ∈ numberFrom start sim.tickEvents) :
    exists bytes : Bytes, Json.event e = some bytes ∧ bytes.length ≤ 300 := by
  have hfacts : e.fact ∈ sim.tickEvents.map SimEvent.fact := by
    rw [← numberFrom_facts start]
    exact List.mem_map_of_mem hmem
  rcases List.mem_map.mp hfacts with ⟨pushed, hpushed, hfact⟩
  have hdata : pushed.data = e.data := (Prod.mk.inj hfact).right
  rcases tickEvents_data hworld hintegrity hpushed with hsystemic | ⟨after, processed, hlast⟩
  · rw [hdata] at hsystemic
    rcases Json.systemic_length hsystemic with ⟨bytes, hevent, hlength⟩
    exact ⟨bytes, hevent, Nat.le_trans hlength (by decide)⟩
  · rw [hlast] at hdata
    rcases e with ⟨id, t, data⟩
    cases hdata
    exact Json.tickProcessed_length id t _ _ processed _

/-- A world of at most eighteen thousand entities can tick. -/
theorem tick_accepted_of_few [BatchJson.Lossless] [BatchJson.Texts] [SnapshotJson.Lossless]
    [AtomicWorldStore S] {rng : R} {clock : C} {store : S} (hstore : EmptyStore store)
    {inputs : List (RuntimeInput R C)} {answers : List RuntimeAnswer}
    {ps : PersistentSimulation R C FileEventLog S} {world : World}
    (hrun : run PersistentSimulation.serve inputs
      (PersistentSimulation.new rng clock (FileEventLog.closed none) store) = some (answers, ps))
    (hquiet : forall input : RuntimeInput R C, input ∈ inputs -> input.Quiet)
    (hworld : ps.sim.world = some world) (hfew : world.entities.size ≤ 18000)
    (hnumbered : ps.eventLog.nextEventId.toNat + 3 * world.entities.size + 1 < 2 ^ 64) :
    exists (events : List SimEvent) (next : PersistentSimulation R C FileEventLog S),
      ps.serve (.command .tick []) = some (.command (.ok events), next) := by
  have hintegrity := ((liveWorld_reached hstore hrun hquiet).left world hworld).integrity
  apply (reached_tickOutcome hstore hrun hquiet hworld).accepted_iff.mpr
  have hlength := Simulation.tickEvents_length hworld
  constructor
  case counted =>
    have hactive : world.activeEntities.length ≤ _ := world.filter_length_le Entity.isActive
    omega
  case numbered => omega
  case encoded =>
    by_cases hne : ps.sim.tickEvents = []
    · rw [hne]
      exact ⟨_, BatchJson.Texts.toVec_text [] _ rfl, by decide⟩
    · refine payload_of_short (mt numberFrom_eq_nil.mp hne) (fun e hmem =>
        Simulation.tickEvents_short hworld hintegrity ⟨ps.eventLog.nextEventId⟩ hmem) ?_
      rw [numberFrom_length]
      unfold maxWalPayloadLen
      omega

end Few

end Seej
