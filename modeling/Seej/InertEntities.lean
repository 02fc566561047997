import Seej.TickBatches

/-!
# Inert entities

A tick draws from one generator for every entity that can decay, in the order of
the identifiers.  An entity that cannot decay takes no draw, so the ticks of a world
with it and of the world without it stay side by side.
-/

namespace Seej

open Foundation

/-!
## The world without an entity
-/

/-- No rule of a tick wears the entity. -/
def Entity.CannotDecay (entity : Entity) : Prop :=
  entity.kind = .item ∨ entity.kind = .structure ∨ entity.state ≠ .active ∨
    (entity.kind = .resource ∧
      (entity.properties.amount = none ∨ entity.properties.amount = some 0)) ∨
    (entity.kind = .creature ∧
      (entity.properties.health = none ∨ entity.properties.health = some 0))

namespace Zone

theorem removeEntity_of_not_mem {zone : Zone} {id : EntityId} (h : id ∉ zone.entities) :
    zone.removeEntity id = zone := by
  have hfilter : zone.entities.filter (fun e => e != id) = zone.entities := by
    apply List.filter_eq_self.mpr
    intro other hmem
    exact bne_iff_ne.mpr fun heq => h (heq ▸ hmem)
  unfold removeEntity
  rw [hfilter]

theorem removeEntity_addEntity {zone : Zone} {id : EntityId} (h : id ∉ zone.entities) :
    (zone.addEntity id).removeEntity id = zone := by
  have hlast : (zone.entities ++ [id]).filter (fun e => e != id) =
      (zone.removeEntity id).entities := by
    simp [removeEntity]
  unfold addEntity
  rw [if_neg h, removeEntity]
  show { zone with entities := (zone.entities ++ [id]).filter (fun e => e != id) } = zone
  rw [hlast, removeEntity_of_not_mem h]

theorem removeEntity_comm (zone : Zone) (id other : EntityId) :
    (zone.removeEntity id).removeEntity other = (zone.removeEntity other).removeEntity id := by
  unfold removeEntity
  simp only [List.filter_filter, Bool.and_comm]

end Zone

namespace World

/-- The world as it is without an entity, also in the lists of the zones. -/
def without (world : World) (id : EntityId) : World :=
  { world with
    entities := world.entities.erase id
    zones := world.zones.map fun _ zone => zone.removeEntity id }

/-- Entities are stored under their identifiers. -/
def KeyedById (world : World) : Prop :=
  forall (id : EntityId) (entity : Entity), world.entities[id]? = some entity -> entity.id = id

/-- The entity map and the lists of the zones agree. -/
structure CoherentIndexes (world : World) : Prop where
  entity_key : world.KeyedById
  zone_key : forall (zoneId : ZoneId) (zone : Zone),
    world.zones[zoneId]? = some zone -> zone.id = zoneId
  entity_zone : forall (id : EntityId) (entity : Entity),
    world.entities[id]? = some entity -> world.hasZone entity.position.zone = true
  zone_nodup : forall (zoneId : ZoneId) (zone : Zone),
    world.zones[zoneId]? = some zone -> zone.entities.Nodup
  zone_index : forall (zoneId : ZoneId) (zone : Zone),
    world.zones[zoneId]? = some zone -> forall id : EntityId,
      id ∈ zone.entities <->
        exists entity : Entity,
          world.entities[id]? = some entity ∧ entity.position.zone = zoneId

theorem without_getElem? (world : World) (id other : EntityId) :
    (world.without id).entities[other]? =
      if id = other then none else world.entities[other]? :=
  BTreeMap.getElem?_erase _ _ _

theorem without_zones_getElem? (world : World) (id : EntityId) (zoneId : ZoneId) :
    (world.without id).zones[zoneId]? =
      world.zones[zoneId]?.map fun zone => zone.removeEntity id :=
  Std.ExtTreeMap.getElem?_map

theorem without_updateEntity (world : World) {id other : EntityId} (hne : other ≠ id)
    (f : Entity -> Entity) :
    (world.without id).updateEntity other f = (world.updateEntity other f).without id := by
  have hentities : ((world.without id).updateEntity other f).entities =
      ((world.updateEntity other f).without id).entities := by
    apply Std.ExtTreeMap.ext_getElem?
    intro k
    rw [updateEntity_getElem?, without_getElem?, without_getElem?, updateEntity_getElem?]
    by_cases hk : id = k
    · rw [if_pos hk, if_pos hk, if_neg (fun heq => hne (heq.trans hk.symm))]
    · rw [if_neg hk, if_neg hk]
  exact congrArg (fun entities => { world.without id with entities := entities }) hentities

theorem without_removeEntity (world : World) {id other : EntityId} (hne : other ≠ id) :
    (world.without id).removeEntity other =
      (world.removeEntity other).map fun found => (found.1, found.2.without id) := by
  have hlookup : (world.without id).entities[other]? = world.entities[other]? := by
    rw [without_getElem?, if_neg (Ne.symm hne)]
  unfold removeEntity
  rw [hlookup]
  cases world.entities[other]? with
  | none => rfl
  | some entity =>
      have hentities : (world.without id).entities.erase other =
          (world.entities.erase other).erase id := by
        apply Std.ExtTreeMap.ext_getElem?
        intro k
        rw [BTreeMap.getElem?_erase, without_getElem?, BTreeMap.getElem?_erase,
          BTreeMap.getElem?_erase]
        split <;> split <;> rfl
      have hzones : (world.without id).zones.modify entity.position.zone
            (fun zone => zone.removeEntity other) =
          (world.zones.modify entity.position.zone (fun zone => zone.removeEntity other)).map
            fun _ zone => zone.removeEntity id := by
        apply Std.ExtTreeMap.ext_getElem?
        intro k
        rw [BTreeMap.getElem?_modify, without_zones_getElem?, Std.ExtTreeMap.getElem?_map,
          BTreeMap.getElem?_modify]
        split
        · cases world.zones[k]? with
          | none => rfl
          | some zone => exact congrArg some (zone.removeEntity_comm id other)
        · rfl
      simp only [Option.map_some, hentities, hzones]
      rfl

/-- A new entity leaves no trace but itself. -/
theorem addEntity_without {world : World} (h : world.CoherentIndexes) {entity : Entity}
    (hfresh : world.entities[entity.id]? = none) :
    (world.addEntity entity).without entity.id = world := by
  have hunlisted : forall (zoneId : ZoneId) (zone : Zone),
      world.zones[zoneId]? = some zone -> entity.id ∉ zone.entities := by
    intro zoneId zone hzone hmem
    rcases (h.zone_index zoneId zone hzone entity.id).mp hmem with ⟨found, hfound, _⟩
    rw [hfresh] at hfound
    cases hfound
  have hentities : (world.addEntity entity).entities.erase entity.id = world.entities := by
    apply Std.ExtTreeMap.ext_getElem?
    intro k
    rw [BTreeMap.getElem?_erase, addEntity_getElem?]
    by_cases hk : entity.id = k
    · rw [if_pos hk, ← hk, hfresh]
    · rw [if_neg hk, if_neg hk]
  have hzones : (world.addEntity entity).zones.map
      (fun _ zone => zone.removeEntity entity.id) = world.zones := by
    apply Std.ExtTreeMap.ext_getElem?
    intro k
    rw [Std.ExtTreeMap.getElem?_map, addEntity_zones_getElem?]
    cases hzone : world.zones[k]? with
    | none => simp
    | some zone =>
        have hnot := hunlisted k zone hzone
        split
        · exact congrArg some (Zone.removeEntity_addEntity hnot)
        · exact congrArg some (Zone.removeEntity_of_not_mem hnot)
  unfold without
  rw [hentities, hzones]
  rfl

end World

theorem WorldIntegrity.coherentIndexes {world : World} (h : WorldIntegrity world) :
    world.CoherentIndexes := by
  constructor
  case entity_key => exact h.entity_key
  case zone_key => exact h.zone_key
  case entity_zone =>
    intro id entity hentity
    exact (world.hasZone_iff _).mpr (h.entity_zone id entity hentity)
  case zone_nodup => exact h.zone_nodup
  case zone_index => exact h.zone_index

namespace World

namespace KeyedById

variable {world : World} (h : world.KeyedById)

include h

theorem addEntity (entity : Entity) : (world.addEntity entity).KeyedById := by
  intro id found hfound
  rw [addEntity_getElem?] at hfound
  split at hfound
  · rename_i hid
    cases hfound
    exact hid
  · exact h id found hfound

theorem entityIds_without (id : EntityId) (p : Entity -> Bool) :
    ((BTreeMap.values (world.without id).entities).filter p).map Entity.id =
      (((BTreeMap.values world.entities).filter p).map Entity.id).filter
        (fun other => decide (other ≠ id)) := by
  show ((BTreeMap.values (world.entities.erase id)).filter p).map Entity.id = _
  rw [BTreeMap.values_erase h, List.filter_map, List.filter_filter, List.filter_filter]
  simp only [Function.comp_def, Bool.and_comm]

end KeyedById

end World

theorem keyedById_kept : TickState.KeptByTicks World.KeyedById := by
  constructor
  case updated =>
    intro world id f hf h other entity hentity
    rw [World.updateEntity_getElem?] at hentity
    split at hentity
    · rcases Option.map_eq_some_iff.mp hentity with ⟨old, hold, heq⟩
      rw [← heq, (hf old).left]
      exact h other old hold
    · exact h other entity hentity
  case removed =>
    intro world next id entity hremove h other found hfound
    rw [(World.removeEntity_eq_some hremove).right] at hfound
    rw [BTreeMap.getElem?_erase] at hfound
    split at hfound
    · cases hfound
    · exact h other found hfound

/-!
## Rules of a tick
-/

namespace TickState

variable {R : Type}

def without (id : EntityId) (st : TickState R) : TickState R :=
  { st with world := st.world.without id }

/-- The rules for the other entities do not see that one is missing. -/
theorem without_unreadAt (id : EntityId) :
    UnreadAt (R := R) (fun other => other ≠ id) (TickState.without id) := by
  constructor
  case rng => exact fun _ => rfl
  case lookup =>
    intro st other hne
    exact (st.world.without_getElem? id other).trans (if_neg (Ne.symm hne))
  case drawn => exact fun _ _ => rfl
  case updated =>
    intro st other f hne
    exact congrArg (fun world => { st with world := world })
      (st.world.without_updateEntity hne f)
  case removed =>
    intro st other hne
    show ((st.world.without id).removeEntity other).map _ = _
    rw [st.world.without_removeEntity hne, Option.map_map]
    rfl
  case pushed => exact fun _ _ => rfl

/-- The entity put where it may be already. -/
def planted (entity : Entity) (st : TickState R) : TickState R :=
  { st with
    world := { st.world with entities := st.world.entities.insert entity.id entity } }

theorem planted_eq_self {entity : Entity} {st : TickState R} :
    st.planted entity = st <-> st.world.entities[entity.id]? = some entity := by
  constructor
  · intro h
    have hentities : st.world.entities.insert entity.id entity = st.world.entities :=
      congrArg (fun st => st.world.entities) h
    rw [← hentities, BTreeMap.getElem?_insert, if_pos rfl]
  · intro h
    have hentities : st.world.entities.insert entity.id entity = st.world.entities := by
      apply Std.ExtTreeMap.ext_getElem?
      intro k
      rw [BTreeMap.getElem?_insert]
      split
      · rename_i hk
        rw [← hk, h]
      · rfl
    unfold planted
    rw [hentities]

theorem planted_unreadAt (entity : Entity) :
    UnreadAt (R := R) (fun other => other ≠ entity.id) (TickState.planted entity) := by
  constructor
  case rng => exact fun _ => rfl
  case lookup =>
    intro st other hne
    exact (BTreeMap.getElem?_insert _ _ _ _).trans (if_neg (Ne.symm hne))
  case drawn => exact fun _ _ => rfl
  case updated =>
    intro st other f hne
    have hentities : (st.world.entities.insert entity.id entity).modify other f =
        (st.world.entities.modify other f).insert entity.id entity := by
      apply Std.ExtTreeMap.ext_getElem?
      intro k
      rw [BTreeMap.getElem?_modify, BTreeMap.getElem?_insert, BTreeMap.getElem?_insert,
        BTreeMap.getElem?_modify]
      by_cases hk : entity.id = k
      · rw [if_pos hk, if_neg (fun heq => hne (heq.trans hk.symm)), if_pos hk]
      · rw [if_neg hk, if_neg hk]
    exact congrArg (fun entities => TickState.mk { st.world with entities := entities } _ _)
      hentities
  case removed =>
    intro st other hne
    have hlookup : (st.planted entity).world.entities[other]? = st.world.entities[other]? :=
      (BTreeMap.getElem?_insert _ _ _ _).trans (if_neg (Ne.symm hne))
    unfold World.removeEntity
    rw [hlookup]
    cases st.world.entities[other]? with
    | none => rfl
    | some found =>
        have hentities : (st.world.entities.insert entity.id entity).erase other =
            (st.world.entities.erase other).insert entity.id entity := by
          apply Std.ExtTreeMap.ext_getElem?
          intro k
          rw [BTreeMap.getElem?_erase, BTreeMap.getElem?_insert, BTreeMap.getElem?_insert,
            BTreeMap.getElem?_erase]
          by_cases hk : entity.id = k
          · rw [if_pos hk, if_neg (fun heq => hne (heq.trans hk.symm)), if_pos hk]
          · rw [if_neg hk, if_neg hk]
        exact congrArg (fun entities => some (TickState.mk
          { st.world with entities := entities, zones := _ } _ _)) hentities
  case pushed => exact fun _ _ => rfl

variable {entity : Entity} {st : TickState R}

theorem removeDead_keeps (hthere : st.world.entities[entity.id]? = some entity)
    {ids : List EntityId} (hids : forall id : EntityId, id ∈ ids -> id ≠ entity.id) :
    (removeDead ids st).world.entities[entity.id]? = some entity := by
  have hplanted := (planted_unreadAt entity).removeDead st hids
  rw [planted_eq_self.mpr hthere] at hplanted
  exact planted_eq_self.mp hplanted.symm

variable [IRng R]

theorem applyRule_keeps (hthere : st.world.entities[entity.id]? = some entity)
    {other : EntityId} (hne : other ≠ entity.id) (found : Entity) :
    (st.applyRule other found).world.entities[entity.id]? = some entity := by
  have hplanted := (planted_unreadAt entity).applyRule st hne found
  rw [planted_eq_self.mpr hthere] at hplanted
  exact planted_eq_self.mp hplanted.symm

theorem applyRule_of_cannotDecay (hinert : entity.CannotDecay) (hactive : entity.isActive = true)
    (st : TickState R) : st.applyRule entity.id entity = st := by
  unfold applyRule
  rcases hinert with hkind | hkind | hstate | ⟨hkind, hamount | hamount⟩ |
    ⟨hkind, hhealth | hhealth⟩
  · rw [hkind]
  · rw [hkind]
  · exact absurd (of_decide_eq_true hactive) hstate
  · rw [hkind, hamount]
  · rw [hkind, hamount]
    rfl
  · rw [hkind, hhealth]
  · rw [hkind, hhealth]
    rfl

/-- The loop on the world without the entity does the same for the others. -/
theorem processEntities_without (hinert : entity.CannotDecay) {ids : List EntityId}
    (hactive : entity.id ∈ ids -> entity.isActive = true) {count fewer processed : UInt32}
    (hle : fewer.toNat ≤ count.toNat) {next : TickState R}
    (hthere : st.world.entities[entity.id]? = some entity)
    (h : processEntities ids count st = some (processed, next)) :
    next.world.entities[entity.id]? = some entity ∧
      exists others : UInt32,
        processEntities (ids.filter fun other => decide (other ≠ entity.id)) fewer
          (st.without entity.id) = some (others, next.without entity.id) := by
  induction ids generalizing count fewer st with
  | nil =>
      cases h
      exact ⟨hthere, fewer, rfl⟩
  | cons id rest ih =>
      have hrest : entity.id ∈ rest -> entity.isActive = true :=
        fun hmem => hactive (List.mem_cons_of_mem _ hmem)
      by_cases hid : id = entity.id
      · -- the entity itself is counted, and nothing else happens
        rw [hid, processEntities, hthere] at h
        rcases Option.bind_eq_some_iff.mp h with ⟨succ, hsucc, hlater⟩
        rw [applyRule_of_cannotDecay hinert (hactive (hid ▸ List.mem_cons_self)) st] at hlater
        rw [List.filter_cons_of_neg (by simp [hid])]
        have hcount := checkedSucc32_toNat hsucc
        exact ih hrest (by omega) hthere hlater
      · have hlookup := (without_unreadAt entity.id).lookup st id hid
        rw [List.filter_cons_of_pos (by simp [hid])]
        rw [processEntities] at h ⊢
        rw [hlookup]
        cases hfound : st.world.entities[id]? with
        | none =>
            rw [hfound] at h
            exact ih hrest hle hthere h
        | some found =>
            rw [hfound] at h
            rcases Option.bind_eq_some_iff.mp h with ⟨succ, hsucc, hlater⟩
            rcases checkedSucc32_of_le hsucc hle with ⟨fewer', hfewer, hle'⟩
            rcases ih hrest hle' (applyRule_keeps hthere hid found) hlater with
              ⟨hthere', others, hothers⟩
            refine ⟨hthere', others, ?_⟩
            rw [hfewer]
            show processEntities _ fewer' ((st.without entity.id).applyRule id found) = _
            rw [(without_unreadAt entity.id).applyRule st hid found]
            exact hothers

omit [IRng R] in
theorem cleanUp_without (halive : entity.state ≠ .dead) (hkeyed : st.world.KeyedById)
    (hthere : st.world.entities[entity.id]? = some entity) :
    (st.without entity.id).cleanUp = st.cleanUp.without entity.id ∧
      st.cleanUp.world.entities[entity.id]? = some entity := by
  have hothers : forall id : EntityId,
      id ∈ ((BTreeMap.values st.world.entities).filter Entity.isDead).map Entity.id ->
        id ≠ entity.id := by
    intro id hmem heq
    rcases (BTreeMap.mem_keys_filter hkeyed).mp hmem with ⟨found, hfound, hdead⟩
    rw [heq, hthere] at hfound
    cases hfound
    exact halive (of_decide_eq_true hdead)
  have hids := hkeyed.entityIds_without entity.id Entity.isDead
  rw [List.filter_eq_self.mpr fun id hmem => decide_eq_true (hothers id hmem)] at hids
  unfold cleanUp
  by_cases htick : st.world.currentTick.val % 100 = 0
  · rw [if_pos htick, if_pos (show (st.without entity.id).world.currentTick.val % 100 = 0
      from htick)]
    constructor
    · show removeDead (((BTreeMap.values (st.world.without entity.id).entities).filter
        Entity.isDead).map Entity.id) (st.without entity.id) = _
      rw [hids]
      exact (without_unreadAt entity.id).removeDead st hothers
    · exact removeDead_keeps hthere hothers
  · rw [if_neg htick, if_neg (show ¬ (st.without entity.id).world.currentTick.val % 100 = 0
      from htick)]
    exact ⟨rfl, hthere⟩

theorem runTickSystems_without (hinert : entity.CannotDecay) (halive : entity.state ≠ .dead)
    (hkeyed : st.world.KeyedById) (hthere : st.world.entities[entity.id]? = some entity)
    {processed : UInt32} {next : TickState R}
    (h : st.runTickSystems = some (processed, next)) :
    next.world.KeyedById ∧ next.world.entities[entity.id]? = some entity ∧
      exists others : UInt32,
        (st.without entity.id).runTickSystems = some (others, next.without entity.id) := by
  rcases runTickSystems_eq_some h with ⟨middle, hloop, hnext⟩
  have hactive : entity.id ∈ st.world.activeEntities.map Entity.id -> entity.isActive = true := by
    intro hmem
    rcases (BTreeMap.mem_keys_filter hkeyed).mp hmem with ⟨found, hfound, hactive⟩
    rw [hthere] at hfound
    cases hfound
    exact hactive
  have hmiddle : middle.world.KeyedById := keyedById_kept.processEntities hkeyed hloop
  rcases processEntities_without hinert hactive (Nat.le_refl _) hthere hloop with
    ⟨hthere', others, hothers⟩
  rcases cleanUp_without halive hmiddle hthere' with ⟨hclean, hlast⟩
  rw [hnext]
  refine ⟨keyedById_kept.cleanUp hmiddle, hlast, others, ?_⟩
  rw [runTickSystems_eq]
  have hids : (st.without entity.id).world.activeEntities.map Entity.id = _ :=
    hkeyed.entityIds_without entity.id Entity.isActive
  rw [hids]
  show (processEntities ((st.world.activeEntities.map Entity.id).filter _) 0 _).map _ = _
  rw [hothers]
  exact congrArg (fun st => some (others, st)) hclean

end TickState

/-!
## Ticks of two worlds
-/

/-- The data of an event but for the number of processed entities. -/
def EventData.uncounted : EventData -> EventData
  | .tickProcessed tick simTime _ rngStateAfter => .tickProcessed tick simTime 0 rngStateAfter
  | data => data

def SimEvent.uncounted (event : SimEvent) : SimEvent :=
  { event with data := event.data.uncounted }

namespace Simulation

variable {R C : Type} [IRng R] [ISimClock C] {sim next other : Simulation R C}
  {entity : Entity}

/-- Two engines of which the first has one entity more. -/
structure Beside (entity : Entity) (sim other : Simulation R C) (world : World) : Prop where
  loaded : sim.world = some world
  without : other.world = some (world.without entity.id)
  there : world.entities[entity.id]? = some entity
  keyed : world.KeyedById
  rng : other.rng = sim.rng
  clock : other.clock = sim.clock
  events : other.pendingEvents.map SimEvent.uncounted =
    sim.pendingEvents.map SimEvent.uncounted

theorem Beside.cmdTick {world : World} (h : Beside entity sim other world)
    (hinert : entity.CannotDecay) (halive : entity.state ≠ .dead)
    (htick : sim.cmdTick = some (.ok (), next)) :
    exists (next' : Simulation R C) (after : World),
      other.cmdTick = some (.ok (), next') ∧ Beside entity next next' after := by
  rcases (cmdTick_eq_ok h.loaded).mp htick with ⟨processed, st, hsystems, hnext⟩
  -- the events that are pending already are no part of the tick
  have hpending (sim : Simulation R C) (world : World) :
      TickState.runTickSystems ⟨world, sim.rng, sim.pendingEvents⟩ =
        (TickState.runTickSystems ⟨world, sim.rng, []⟩).map fun counted =>
          (counted.1, counted.2.withPending sim.pendingEvents) := by
    have happend : (TickState.mk world sim.rng sim.pendingEvents) =
        TickState.withPending sim.pendingEvents ⟨world, sim.rng, []⟩ :=
      congrArg (TickState.mk world sim.rng) (List.append_nil _).symm
    rw [happend]
    exact (TickState.withPending_unread sim.pendingEvents).runTickSystems _
  rw [hpending] at hsystems
  rcases Option.map_eq_some_iff.mp hsystems with ⟨⟨count, own⟩, hown, heq⟩
  rcases Prod.mk.inj heq with ⟨_, hst⟩
  have hkeyed : (⟨world.advanceTick, sim.rng, []⟩ : TickState R).world.KeyedById := h.keyed
  have hbefore : (⟨world.advanceTick, sim.rng, []⟩ : TickState R).world.entities[entity.id]? =
      some entity := h.there
  rcases TickState.runTickSystems_without hinert halive hkeyed hbefore hown with
    ⟨hkeyed', hthere, others, hothers⟩
  have hsystems' : TickState.runTickSystems
      ⟨(world.without entity.id).advanceTick, other.rng, other.pendingEvents⟩ =
        some (others, (own.without entity.id).withPending other.pendingEvents) := by
    rw [hpending, h.rng]
    show (TickState.runTickSystems (TickState.without entity.id
      ⟨world.advanceTick, sim.rng, []⟩)).map _ = _
    rw [hothers]
    rfl
  refine ⟨_, { own.world with rngState := IRng.state own.rng },
    (cmdTick_eq_ok h.without).mpr ⟨others, _, hsystems', rfl⟩, ?_⟩
  rw [hnext, ← hst]
  constructor
  case loaded => rfl
  case without => rfl
  case there => exact hthere
  case keyed => exact hkeyed'
  case rng => rfl
  case clock =>
    show ISimClock.setTick other.clock _ = ISimClock.setTick sim.clock _
    rw [h.clock]
    rfl
  case events =>
    show ((other.pendingEvents ++ own.pendingEvents) ++ [_]).map SimEvent.uncounted =
      ((sim.pendingEvents ++ own.pendingEvents) ++ [_]).map SimEvent.uncounted
    rw [List.map_append, List.map_append, List.map_append, List.map_append, h.events]
    rfl

theorem Beside.cmdTickN {world : World} (h : Beside entity sim other world)
    (hinert : entity.CannotDecay) (halive : entity.state ≠ .dead) {n : Nat}
    (hticks : sim.cmdTickN n = some (.ok (), next)) :
    exists (next' : Simulation R C) (after : World),
      other.cmdTickN n = some (.ok (), next') ∧ Beside entity next next' after := by
  induction n generalizing sim other world with
  | zero =>
      cases hticks
      exact ⟨other, world, rfl, h⟩
  | succ n ih =>
      rw [Simulation.cmdTickN] at hticks ⊢
      cases htick : sim.cmdTick with
      | none => simp [htick] at hticks
      | some answer =>
          rcases answer with ⟨result, middle⟩
          cases result with
          | error e => simp [htick] at hticks
          | ok _ =>
              simp only [htick, bind, Option.bind] at hticks
              rcases h.cmdTick hinert halive htick with ⟨middle', after, htick', hmiddle⟩
              simp only [htick', bind, Option.bind]
              exact ih hmiddle hticks

/-- Ticks of a world and of the same world without an entity that is alive and cannot
decay, wherever the entity stands in the list of its zone, draw the same numbers.  They
leave the other entities and the lists of the zones alike and the entity as it was, and
their events differ in the numbers of processed entities only. -/
theorem ticks_without {larger : World} (hkeyed : larger.KeyedById)
    (hthere : larger.entities[entity.id]? = some entity) (hinert : entity.CannotDecay)
    (halive : entity.state ≠ .dead) (hworld : sim.world = some (larger.without entity.id))
    {n : Nat}
    (hticks : ({ sim with world := some larger } : Simulation R C).cmdTickN n =
      some (.ok (), next)) :
    exists (other : Simulation R C) (last : World),
      sim.cmdTickN n = some (.ok (), other) ∧ other.rng = next.rng ∧
        next.world = some last ∧ other.world = some (last.without entity.id) ∧
        last.entities[entity.id]? = some entity ∧
        other.pendingEvents.map SimEvent.uncounted =
          next.pendingEvents.map SimEvent.uncounted := by
  have hstart : Beside entity { sim with world := some larger } sim larger := by
    constructor
    case loaded => rfl
    case without => exact hworld
    case there => exact hthere
    case keyed => exact hkeyed
    all_goals rfl
  rcases hstart.cmdTickN hinert halive hticks with ⟨other, last, hother, hbeside⟩
  exact ⟨other, last, hother, hbeside.rng, hbeside.loaded, hbeside.without, hbeside.there,
    hbeside.events⟩

/-- The same for a world and for the world with the entity added to it. -/
theorem inert_entity_unobserved {world : World} (hcoherent : world.CoherentIndexes)
    (hfresh : world.entities[entity.id]? = none) (hinert : entity.CannotDecay)
    (halive : entity.state ≠ .dead) (hworld : sim.world = some world) {n : Nat}
    (hticks : ({ sim with world := some (world.addEntity entity) } : Simulation R C).cmdTickN n =
      some (.ok (), next)) :
    exists (other : Simulation R C) (last : World),
      sim.cmdTickN n = some (.ok (), other) ∧ other.rng = next.rng ∧
        next.world = some last ∧ other.world = some (last.without entity.id) ∧
        last.entities[entity.id]? = some entity ∧
        other.pendingEvents.map SimEvent.uncounted =
          next.pendingEvents.map SimEvent.uncounted := by
  have hthere : (world.addEntity entity).entities[entity.id]? = some entity := by
    rw [World.addEntity_getElem?, if_pos rfl]
  apply ticks_without (hcoherent.entity_key.addEntity entity) hthere hinert halive ?_ hticks
  rw [World.addEntity_without hcoherent hfresh]
  exact hworld

def exhausted : Entity :=
  Entity.new ⟨9⟩ .resource WorldPos.origin Tick.zero ⟨none, some 0, none⟩

/-- It is put beside a creature. -/
theorem inert_entity_unobserved_exhausted :
    exists (sim next other : Simulation Pcg32Rng UnlimitedClock) (world last : World),
      sim.world = some world ∧
        ({ sim with world := some (world.addEntity exhausted) } :
          Simulation Pcg32Rng UnlimitedClock).cmdTickN 2 = some (.ok (), next) ∧
        sim.cmdTickN 2 = some (.ok (), other) ∧ other.rng = next.rng ∧
        next.world = some last ∧ other.world = some (last.without ⟨9⟩) := by
  have hruns : ((runCommands
      [.createWorld ⟨"Vale", ⟨7⟩⟩,
        .spawnEntity ⟨WorldPos.origin, .creature, ⟨none, none, some 3⟩⟩]
      (Simulation.new Pcg32Rng.uninitialized UnlimitedClock.new)).bind fun reached =>
        reached.2.world.bind fun world =>
          if world.entities[exhausted.id]? = none then
            (({ reached.2 with world := some (world.addEntity exhausted) } :
              Simulation Pcg32Rng UnlimitedClock).cmdTickN 2).bind fun answer =>
                answer.1.toOption
          else none).isSome = true := by
    decide
  rcases Option.isSome_iff_exists.mp hruns with ⟨_, hresult⟩
  rcases Option.bind_eq_some_iff.mp hresult with ⟨⟨results, sim⟩, hreach, hanswer⟩
  rcases Option.bind_eq_some_iff.mp hanswer with ⟨world, hworld, hrest⟩
  change sim.world = some world at hworld
  split at hrest
  · rename_i hfresh
    rcases Option.bind_eq_some_iff.mp hrest with ⟨⟨outcome, next⟩, hticks, houtcome⟩
    cases outcome with
    | error e => cases houtcome
    | ok _ =>
        have hcoherent := (runCommands_intact hreach world hworld).coherentIndexes
        have hinert : exhausted.CannotDecay :=
          Or.inr (Or.inr (Or.inr (Or.inl ⟨rfl, Or.inr rfl⟩)))
        have halive : exhausted.state ≠ .dead := EntityState.noConfusion
        rcases inert_entity_unobserved hcoherent hfresh hinert halive hworld hticks with
          ⟨other, last, hother, hrng, hlast, hwithout, _, _⟩
        exact ⟨sim, next, other, world, last, hworld, hticks, hother, hrng, hlast, hwithout⟩
  · cases hrest

end Simulation

end Seej
