import Seej.JsonReading
import Seej.TickCapacity

/-!
# A population that cannot tick

Nothing bounds the number of entities: a spawn is accepted as long as the identifiers
last.  Where every resource is worn in one tick, the batch of the tick is longer than
a record may be, and the tick is refused from then on.
-/

namespace Seej

open Foundation

/-!
## Spawning
-/

theorem Simulation.processCommand_spawn {R C : Type} [IRng R] [ISimClock C]
    {sim : Simulation R C} {world allocated : World} {id : EntityId} {cmd : SpawnEntityCmd}
    (hworld : sim.world = some world) (hzone : world.hasZone cmd.position.zone = true)
    (hid : world.allocateEntityId = some (id, allocated)) :
    sim.processCommand (.spawnEntity cmd) =
      some (.ok [SimEvent.new world.currentTick
          (.entitySpawned id cmd.kind cmd.position cmd.properties)],
        sim.withWorld (allocated.addEntity
          (Entity.new id cmd.kind cmd.position world.currentTick cmd.properties))) := by
  have htick : allocated.currentTick = world.currentTick := by
    rw [(World.allocateEntityId_eq_some hid).right.right]
  have hcleared : sim.clearPending.world = some world := hworld
  show (sim.clearPending.cmdSpawnEntity cmd).map (finish _) = _
  unfold cmdSpawnEntity
  simp only [hcleared, hzone, hid, if_true, bind, Option.bind, pure, Option.map_some]
  rw [← htick]
  rfl

def oreProperties : EntityProperties :=
  { name := none, amount := some 5, health := none }

def spawnOre : SimCommand :=
  .spawnEntity ⟨WorldPos.origin, .resource, oreProperties⟩

/-- A world with so many resources and nothing else. -/
structure Ores (count : Nat) (world : World) : Prop where
  integrity : WorldIntegrity world
  origin : world.hasZone ZoneId.origin = true
  nextEntityId : world.nextEntityId.toNat = count + 1
  size : world.entities.size = count
  ore : forall (id : EntityId) (entity : Entity), world.entities[id]? = some entity ->
    entity.state = .active ∧ entity.kind = .resource ∧ entity.properties.amount = some 5

namespace Ores

variable {count : Nat} {world : World}

theorem new (name : String) (seed : RngSeed) : Ores 0 (World.new name seed) := by
  constructor
  case integrity => exact WorldIntegrity.new name seed
  case origin => exact World.new_hasZone name seed
  case nextEntityId => rfl
  case size => exact Std.ExtTreeMap.size_empty
  case ore =>
    intro id entity hentity
    simp [World.new] at hentity

theorem spawn (h : Ores count world) (hroom : count + 2 < 2 ^ 64) :
    exists (id : EntityId) (allocated : World),
      world.allocateEntityId = some (id, allocated) ∧
        Ores (count + 1) (allocated.addEntity
          (Entity.new id .resource WorldPos.origin world.currentTick oreProperties)) := by
  have hnext := h.nextEntityId
  have hchecked : checkedSucc world.nextEntityId = some (world.nextEntityId + 1) :=
    checkedSucc_of_lt (by omega)
  let id : EntityId := ⟨world.nextEntityId⟩
  let allocated : World := { world with nextEntityId := world.nextEntityId + 1 }
  let entity := Entity.new id .resource WorldPos.origin world.currentTick oreProperties
  have hid : world.allocateEntityId = some (id, allocated) := by
    unfold World.allocateEntityId
    rw [hchecked]
    rfl
  have hadvance : Simulation.Advances world (allocated.addEntity entity) _ :=
    @Simulation.spawn_advances world allocated id ⟨WorldPos.origin, .resource, oreProperties⟩
      h.integrity h.origin hid
  refine ⟨id, allocated, hid, ?_⟩
  constructor
  case integrity => exact hadvance.integrity
  case origin => exact hadvance.replays.continues.zones _ h.origin
  case nextEntityId =>
    show (world.nextEntityId + 1).toNat = _
    rw [checkedSucc_eq_some.mp hchecked, hnext]
  case size =>
    show (world.entities.insert id entity).size = _
    have hfresh : ¬ world.entities.contains id = true := by
      rw [Std.ExtTreeMap.contains_iff_mem, BTreeMap.mem_iff,
        Simulation.nextEntityId_fresh h.integrity]
      exact fun ⟨_, hsome⟩ => nomatch hsome
    rw [Std.ExtTreeMap.size_insert, if_neg hfresh, h.size]
  case ore =>
    intro other found hfound
    rw [World.addEntity_getElem?] at hfound
    split at hfound
    · rw [← Option.some.inj hfound]
      exact ⟨rfl, rfl, rfl⟩
    · exact h.ore other found hfound

end Ores

/-!
## Wearing every resource
-/

/-- A generator whose draws are all zero. -/
structure ZeroRng where
  seed : RngSeed
  state : UInt64

instance : IRng ZeroRng where
  seed := ZeroRng.seed
  state := ZeroRng.state
  restore rng state := { rng with state := state }
  restoreSeeded _ seed state := { seed := seed, state := state }
  nextU32 rng := (0, rng)

namespace TickState

theorem chance_zero (rng : ZeroRng) : IRng.chance rng depletionChance = (true, rng) := by
  have hhit : depletionChance.exceedsDraw 0 = true := by decide
  show (depletionChance.exceedsDraw 0, rng) = _
  rw [hhit]

theorem Journaled.pending_le {R : Type} [IRng R] {st next : TickState R} (h : Journaled st next) :
    st.pendingEvents.length ≤ next.pendingEvents.length := by
  rcases h with ⟨events, hjournal⟩
  rw [hjournal.pending, List.length_append]
  exact Nat.le_add_right _ _

theorem depleteResource_pending (st : TickState ZeroRng) (entityId : EntityId) {amount : UInt32}
    (hpos : amount > 0) :
    st.pendingEvents.length + 1 ≤ (st.depleteResource entityId amount).pendingEvents.length := by
  let after := st.worn st.rng entityId
    (fun e => { e with properties := { e.properties with amount := some (amount - 1) } })
    (.resourceDepleted entityId 1 (amount - 1))
  have hafter : after.pendingEvents.length = st.pendingEvents.length + 1 := List.length_append
  have hworn : st.depleteResource entityId amount =
      if amount - 1 = 0 then after.kill entityId else after := by
    unfold depleteResource
    rw [if_pos hpos, chance_zero]
    rfl
  rw [hworn, ← hafter]
  exact (kill_if_journaled after entityId _).pending_le

theorem processEntities_pending {ids : List EntityId} {count processed : UInt32}
    {st next : TickState ZeroRng} (hnodup : ids.Nodup)
    (hores : forall id : EntityId, id ∈ ids -> exists entity : Entity,
      st.world.entities[id]? = some entity ∧ entity.state = .active ∧ entity.kind = .resource ∧
        entity.properties.amount = some 5)
    (h : processEntities ids count st = some (processed, next)) :
    st.pendingEvents.length + ids.length ≤ next.pendingEvents.length := by
  induction ids generalizing count st with
  | nil =>
      cases h
      exact Nat.le_refl _
  | cons entityId rest ih =>
      rcases List.nodup_cons.mp hnodup with ⟨hnew, hnodup⟩
      rcases hores entityId List.mem_cons_self with ⟨entity, hentity, hactive, hkind, hamount⟩
      rcases processEntities_cons h with ⟨hnone, _⟩ | ⟨found, succ, hfound, hloop⟩
      · cases hentity.symm.trans hnone
      · cases hentity.symm.trans hfound
        have hrule := applyRule_told st hentity hactive
        have hworn : st.pendingEvents.length + 1 ≤
            (st.applyRule entityId entity).pendingEvents.length := by
          unfold applyRule
          rw [hkind]
          simp only [hamount]
          exact depleteResource_pending st entityId (by decide)
        have hrest := ih hnodup (by
          intro id hmem
          have hne : entityId ≠ id := fun heq => hnew (heq ▸ hmem)
          rw [hrule.others id hne]
          exact hores id (List.mem_cons_of_mem _ hmem)) hloop
        rw [List.length_cons]
        omega

end TickState

theorem Ores.tickEvents_length {C : Type} [ISimClock C] {sim : Simulation ZeroRng C}
    {world : World} {count : Nat} (h : Ores count world) (hworld : sim.world = some world)
    (hcount : count < 2 ^ 32) : count ≤ sim.tickEvents.length := by
  have hcleared : sim.clearPending.world = some world := hworld
  let ids := world.advanceTick.activeEntities.map Entity.id
  have hadvanced : WorldIntegrity world.advanceTick := h.integrity.setClock _
  have hnodup : ids.Nodup := entityIds_nodup hadvanced Entity.isActive
  have hall : world.advanceTick.activeEntities = BTreeMap.values world.entities := by
    refine List.filter_eq_self.mpr fun entity hmem => ?_
    rcases (BTreeMap.mem_values _ _).mp hmem with ⟨id, hentity⟩
    exact decide_eq_true (h.ore id entity hentity).left
  have hlength : ids.length = count := by
    rw [List.length_map, hall, BTreeMap.values, List.length_map, Std.ExtTreeMap.length_toList,
      h.size]
  have hores : forall id : EntityId, id ∈ ids -> exists entity : Entity,
      world.entities[id]? = some entity ∧ entity.state = .active ∧ entity.kind = .resource ∧
        entity.properties.amount = some 5 := by
    intro id hmem
    rcases (BTreeMap.mem_keys_filter hadvanced.entity_key).mp hmem with ⟨entity, hentity, _⟩
    exact ⟨entity, hentity, h.ore id entity hentity⟩
  unfold Simulation.tickEvents
  rw [Simulation.cmdTick_eq hcleared, TickState.runTickSystems_eq]
  cases hloop : TickState.processEntities ids 0
      ⟨world.advanceTick, sim.clearPending.rng, sim.clearPending.pendingEvents⟩ with
  | none =>
      have hfull := (TickState.processEntities_eq_none (by
        intro id hmem
        rcases hores id hmem with ⟨entity, hentity, _⟩
        exact (BTreeMap.mem_iff _ _).mpr ⟨entity, hentity⟩)).mp hloop
      rw [hlength, UInt32.toNat_zero] at hfull
      omega
  | some result =>
      rcases result with ⟨processed, middle⟩
      have hpushed := TickState.processEntities_pending hnodup hores hloop
      have hclean := (TickState.cleanUp_journaled middle).pending_le
      show count ≤ (middle.cleanUp.pendingEvents ++ [_]).length
      rw [List.length_append]
      omega

/-!
## The runtime of a growing population
-/

theorem spawnOre_length (id : EventId) (t : Tick) (entity : EntityId) :
    exists bytes : Bytes,
      Json.event ⟨id, t, .entitySpawned entity .resource WorldPos.origin oreProperties⟩ =
        some bytes ∧ bytes.length ≤ 300 := by
  let data : EventData := .entitySpawned entity .resource WorldPos.origin oreProperties
  have hshort : exists text : Bytes, Json.eventData data = some text ∧ text.length ≤ 231 := by
    refine ⟨_, rfl, ?_⟩
    rw [Json.variant_length _ (List.cons_ne_nil _ _)]
    show 13 + (9 + (Json.number entity.val.toNat).length + 4 +
      (4 + (Json.entityKind .resource).length + 4 +
        (8 + (Json.position WorldPos.origin).length + 4 +
          (10 + (Json.properties oreProperties).length + 4 + 0)))) + 6 ≤ _
    have hentity := Json.uint64_length entity.val
    have hkind : (Json.entityKind .resource).length ≤ 10 := by decide +kernel
    have hposition : (Json.position WorldPos.origin).length ≤ 50 := by decide +kernel
    have hproperties : (Json.properties oreProperties).length ≤ 50 := by decide +kernel
    omega
  rcases hshort with ⟨text, htext, hlength⟩
  exact Json.event_length_le htext hlength

section Crowd

variable [SnapshotJson] [Crc32] [BatchJson]

structure Crowded (count : Nat)
    (ps : PersistentSimulation ZeroRng UnlimitedClock FileEventLog MockWorldStore) : Prop where
  world : exists world : World, ps.sim.world = some world ∧ Ores count world
  pending : ps.sim.pendingEvents = []
  records : ps.eventLog.io.records = []
  buffer : ps.eventLog.writer.getD [] = []
  nextEventId : ps.eventLog.nextEventId.toNat = count + 3

def zeroed : PersistentSimulation ZeroRng UnlimitedClock FileEventLog MockWorldStore :=
  PersistentSimulation.new ⟨⟨0⟩, 0⟩ UnlimitedClock.new (FileEventLog.closed none)
    MockWorldStore.new

theorem crowded_create [BatchJson.Texts] :
    exists (events : List SimEvent)
        (ps : PersistentSimulation ZeroRng UnlimitedClock FileEventLog MockWorldStore),
      zeroed.serve (.command PersistentSimulation.createVale []) =
        some (.command (.ok events), ps) ∧ Crowded 0 ps := by
  let cmd : CreateWorldCmd := ⟨"Vale", ⟨7⟩⟩
  have hencode : exists record : Bytes,
      encodeEventRecord (numberFrom ⟨zeroed.eventLog.nextEventId⟩
        (Simulation.genesisEvents cmd)) = .ok record := by
    refine (encodeEventRecord_isOk (List.cons_ne_nil _ _)).mpr
      (payload_of_short (List.cons_ne_nil _ _) ?_ (by decide : (300 + 1) * 2 + 36 ≤ _))
    intro e hmem
    rcases List.mem_cons.mp hmem with hfirst | hlast
    · rw [hfirst]
      exact ⟨_, rfl, by decide +kernel⟩
    · rw [List.mem_singleton.mp hlast]
      exact ⟨_, rfl, by decide +kernel⟩
  rcases hencode with ⟨record, hrecord⟩
  have hcreate : zeroed.sim.processCommand PersistentSimulation.createVale =
      some (.ok (Simulation.genesisEvents cmd), zeroed.sim.afterCreateWorld cmd) := rfl
  have hserve := serve_accepted rfl rfl hcreate (List.cons_ne_nil _ _) (by decide) hrecord
  refine ⟨_, _, hserve, ?_⟩
  constructor
  case world => exact ⟨_, rfl, Ores.new "Vale" ⟨7⟩⟩
  case pending => rfl
  case records => rfl
  case buffer => rfl
  case nextEventId => rfl

theorem crowded_spawn [BatchJson.Texts] {count : Nat}
    {ps : PersistentSimulation ZeroRng UnlimitedClock FileEventLog MockWorldStore}
    (h : Crowded count ps) (hroom : count + 4 < 2 ^ 64) :
    exists (events : List SimEvent)
        (next : PersistentSimulation ZeroRng UnlimitedClock FileEventLog MockWorldStore),
      ps.serve (.command spawnOre []) = some (.command (.ok events), next) ∧
        Crowded (count + 1) next := by
  rcases h.world with ⟨world, hworld, hores⟩
  rcases hores.spawn (by omega) with ⟨id, allocated, hid, hafter⟩
  let spawned : SimEvent := SimEvent.new world.currentTick
    (.entitySpawned id .resource WorldPos.origin oreProperties)
  let numbered := numberFrom ⟨ps.eventLog.nextEventId⟩ [spawned]
  have hnext := h.nextEventId
  have hencode : exists record : Bytes, encodeEventRecord numbered = .ok record := by
    refine (encodeEventRecord_isOk (List.cons_ne_nil _ _)).mpr
      (payload_of_short (List.cons_ne_nil _ _) ?_ (by decide : (300 + 1) * 1 + 36 ≤ _))
    intro e hmem
    rw [List.mem_singleton.mp hmem]
    exact spawnOre_length _ _ id
  rcases hencode with ⟨record, hrecord⟩
  have hspawn : ps.sim.processCommand spawnOre = _ :=
    Simulation.processCommand_spawn hworld hores.origin hid
  have hserve := serve_accepted h.buffer rfl hspawn (List.cons_ne_nil _ _)
    (by rw [hnext, List.length_singleton]; omega) hrecord
  refine ⟨_, _, hserve, ?_⟩
  constructor
  case world => exact ⟨_, rfl, hafter⟩
  case pending => rfl
  case records => rfl
  case buffer => rfl
  case nextEventId =>
    show (UInt64.ofNat (ps.eventLog.nextEventId.toNat + 1)).toNat = _
    have hlt : ps.eventLog.nextEventId.toNat + 1 < 2 ^ 64 := by omega
    rw [UInt64.toNat_ofNat_of_lt' hlt]
    omega

theorem crowded_spawns [BatchJson.Texts] {n count : Nat}
    {ps : PersistentSimulation ZeroRng UnlimitedClock FileEventLog MockWorldStore}
    (h : Crowded count ps) (hroom : count + n + 4 < 2 ^ 64) :
    exists (answers : List RuntimeAnswer)
        (next : PersistentSimulation ZeroRng UnlimitedClock FileEventLog MockWorldStore),
      run PersistentSimulation.serve (List.replicate n (.command spawnOre [])) ps =
        some (answers, next) ∧
      (forall answer : RuntimeAnswer, answer ∈ answers ->
        exists events : List SimEvent, answer = .command (.ok events)) ∧
      Crowded (count + n) next := by
  induction n generalizing count ps with
  | zero => exact ⟨[], ps, rfl, nofun, h⟩
  | succ n ih =>
      rcases crowded_spawn h (by omega) with ⟨events, middle, hserve, hmiddle⟩
      rcases ih hmiddle (by omega) with ⟨answers, next, hrun, haccepted, hnext⟩
      refine ⟨.command (.ok events) :: answers, next, ?_, ?_, ?_⟩
      · rw [List.replicate_succ]
        exact run_cons.mpr ⟨_, middle, answers, hserve, hrun, rfl⟩
      · intro answer hmem
        rcases List.mem_cons.mp hmem with hfirst | hmem
        · exact ⟨events, hfirst⟩
        · exact haccepted answer hmem
      · rw [Nat.add_right_comm] at hnext
        exact hnext

/-- A crowd whose events do not fit into a record cannot tick, and the refused tick leaves
the runtime as it was. -/
theorem crowded_refused [BatchJson.Texts] {count : Nat}
    {ps : PersistentSimulation ZeroRng UnlimitedClock FileEventLog MockWorldStore}
    (h : Crowded count ps) (hmany : maxWalPayloadLen < 30 * count) (hcount : count < 2 ^ 32) :
    exists e : SimError,
      ps.serve (.command .tick []) = some (.command (.error (storageError e)), ps) := by
  rcases h.world with ⟨world, hworld, hores⟩
  have hleast := hores.tickEvents_length hworld hcount
  have hmost := Simulation.tickEvents_length hworld
  have houtcome := serve_tickOutcome h.buffer hworld hores.integrity
  generalize ps.serve (.command .tick []) = result at houtcome
  cases houtcome with
  | aborted hfull =>
      have hactive : world.activeEntities.length ≤ _ := world.filter_length_le Entity.isActive
      rw [hores.size] at hactive hmost
      rw [h.nextEventId] at hfull
      omega
  | @refused e sim hne hencode =>
      refine ⟨e, ?_⟩
      have hsim : sim.restoreCheckpoint ps.sim.checkpoint = ps.sim := by
        show Simulation.mk ps.sim.world ps.sim.rng ps.sim.clock [] = ps.sim
        rw [← h.pending]
      have hlog : ps.eventLog.withRecords [] = ps.eventLog := by
        unfold FileEventLog.withRecords
        rw [← h.records]
      rw [hsim, hlog]
  | accepted hfits =>
      rcases hfits.encoded with ⟨payload, hjson, hlength⟩
      have hne : ps.sim.tickEvents ≠ [] := by
        intro hnil
        rw [hnil] at hleast
        have hzero : count = 0 := Nat.le_zero.mp hleast
        rw [hzero] at hmany
        exact absurd hmany (Nat.not_lt_zero _)
      rcases Json.batch_length_le (mt numberFrom_eq_nil.mp hne) (fun e hmem =>
        Simulation.tickEvents_short hworld hores.integrity ⟨ps.eventLog.nextEventId⟩ hmem) with
        ⟨bytes, hbatch, _⟩
      have htext := BatchJson.Texts.toVec_text _ _ hbatch
      cases hjson.symm.trans htext
      have hge := Json.batch_length_ge hbatch
      rw [numberFrom_length] at hge
      omega

end Crowd

open Classical in
/-- `serde_json`, which writes the text of every batch, and reads from a text the batch
without a float that has it. -/
@[reducible] noncomputable def textBatches : BatchJson where
  toVec events :=
    match Json.batch events with
    | some bytes => .ok bytes
    | none => .error "the text of a float is not modelled"
  fromSlice bytes :=
    if h : exists events : List SimEvent,
        Json.Floatless events ∧ Json.batch events = some bytes then
      .ok h.choose
    else .error "not the text of a batch"

theorem textBatches_toVec {events : List SimEvent} {bytes : Bytes} :
    textBatches.toVec events = .ok bytes <-> Json.batch events = some bytes := by
  show (match Json.batch events with
    | some bytes => Except.ok bytes
    | none => .error _) = _ <-> _
  cases Json.batch events <;> simp

theorem textBatches_texts : @BatchJson.Texts textBatches :=
  @BatchJson.Texts.mk textBatches fun _ _ => textBatches_toVec.mpr

theorem textBatches_lossless : @BatchJson.Lossless textBatches := by
  refine @BatchJson.Lossless.mk textBatches ?_
  intro events bytes hfloatless hwrite
  have htext := textBatches_toVec.mp hwrite
  have hexists : exists other : List SimEvent,
      Json.Floatless other ∧ Json.batch other = some bytes := ⟨events, hfloatless, htext⟩
  rcases hexists.choose_spec with ⟨hplain, hsame⟩
  have hread : textBatches.fromSlice bytes = .ok hexists.choose := dif_pos hexists
  exact hread.trans
    (congrArg Except.ok (Json.batch_inj hplain hfloatless (hsame.trans htext.symm)))

/-- After six hundred thousand spawns no tick is accepted any more. -/
theorem tick_refused_forever :
    letI := ieeeCrc32
    letI := knownSnapshots []
    letI := textBatches
    BatchJson.Lossless ∧ exists (answers : List RuntimeAnswer) (e : SimError)
        (ps : PersistentSimulation ZeroRng UnlimitedClock FileEventLog MockWorldStore),
      run PersistentSimulation.serve
        (.command PersistentSimulation.createVale [] ::
          List.replicate 600000 (.command spawnOre [])) zeroed = some (answers, ps) ∧
      (forall answer : RuntimeAnswer, answer ∈ answers ->
        exists events : List SimEvent, answer = .command (.ok events)) ∧
      ps.sim.world.isSome = true ∧
      ps.serve (.command .tick []) = some (.command (.error (storageError e)), ps) := by
  let _ := ieeeCrc32
  let _ := knownSnapshots []
  let _ := textBatches
  have _ : BatchJson.Texts := textBatches_texts
  rcases crowded_create with ⟨genesis, created, hcreate, hcreated⟩
  rcases crowded_spawns (n := 600000) hcreated (by decide) with
    ⟨answers, ps, hrun, haccepted, hcrowded⟩
  rcases crowded_refused hcrowded (by decide) (by decide) with ⟨e, hrefused⟩
  rcases hcrowded.world with ⟨world, hworld, _⟩
  refine ⟨textBatches_lossless, .command (.ok genesis) :: answers, e, ps, ?_, ?_, ?_,
    hrefused⟩
  · exact run_cons.mpr ⟨_, created, answers, hcreate, hrun, rfl⟩
  · intro answer hmem
    rcases List.mem_cons.mp hmem with hfirst | hmem
    · exact ⟨genesis, hfirst⟩
    · exact haccepted answer hmem
  · rw [hworld]
    rfl

end Seej
