import Seej.EntityHistory

/-!
# The life cycle of entities

Every rule of a tick, every removal and every command keeps the chronicle of the
world.  What the events of a run say about one entity is therefore a life.
-/

namespace Seej

open Foundation

/-!
## The rules of a tick
-/

theorem entityIds_nodup {world : World} (h : WorldIntegrity world) (p : Entity -> Bool) :
    (((BTreeMap.values world.entities).filter p).map Entity.id).Nodup := by
  have hkeys : (BTreeMap.values world.entities).map Entity.id =
      world.entities.toList.map Prod.fst := by
    rw [BTreeMap.values, List.map_map]
    apply List.map_congr_left
    intro pair hmem
    exact h.entity_key pair.1 pair.2 (Std.ExtTreeMap.mem_toList_iff_getElem?_eq_some.mp hmem)
  have hnodup : ((BTreeMap.values world.entities).map Entity.id).Nodup := by
    rw [hkeys]
    exact List.pairwise_map.mpr (BTreeMap.toList_nodup_keys world.entities)
  exact hnodup.sublist (List.filter_sublist.map Entity.id)

/-- At every hundredth tick there is no dead entity. -/
def Swept (world : World) : Prop :=
  world.currentTick.val % 100 = 0 -> forall (id : EntityId) (entity : Entity),
    world.entities[id]? = some entity -> entity.state ≠ .dead

theorem Swept.change {world after : World} {id : EntityId} {left : Option Entity}
    (h : Swept world) (htick : after.currentTick = world.currentTick)
    (hlookup : forall other : EntityId, after.entities[other]? =
      if id = other then left else world.entities[other]?)
    (hleft : forall entity : Entity, left = some entity -> entity.state ≠ .dead) :
    Swept after := by
  intro hhundredth other found hfound
  rw [htick] at hhundredth
  rw [hlookup] at hfound
  by_cases heq : id = other
  · rw [if_pos heq] at hfound
    exact hleft found hfound
  · rw [if_neg heq] at hfound
    exact h hhundredth other found hfound

namespace TickState

variable {R : Type}

/-- The pushed events tell what became of the entities. -/
structure Tells (st next : TickState R) (events : List SimEvent) : Prop where
  pending : next.pendingEvents = st.pendingEvents ++ events
  tick : next.world.currentTick = st.world.currentTick
  chronicle : forall facts : List (Tick × EventData), Chronicle facts st.world ->
    Chronicle (facts ++ events.map SimEvent.fact) next.world

def Told (st next : TickState R) : Prop :=
  exists events : List SimEvent, Tells st next events

namespace Told

theorem same {st next : TickState R} (hworld : next.world = st.world)
    (hpending : next.pendingEvents = st.pendingEvents) : Told st next := by
  refine ⟨[], ?_, ?_, ?_⟩
  · rw [hpending, List.append_nil]
  · rw [hworld]
  · intro facts h
    rw [hworld, List.map_nil, List.append_nil]
    exact h

theorem trans {first second third : TickState R} (hleft : Told first second)
    (hright : Told second third) : Told first third := by
  rcases hleft with ⟨left, hleft⟩
  rcases hright with ⟨right, hright⟩
  refine ⟨left ++ right, ?_, hright.tick.trans hleft.tick, ?_⟩
  · rw [hright.pending, hleft.pending, List.append_assoc]
  · intro facts h
    rw [List.map_append, ← List.append_assoc]
    exact hright.chronicle _ (hleft.chronicle facts h)

end Told

/-- The same for one entity, where no other is touched. -/
structure ToldOf (entityId : EntityId) (st next : TickState R) : Prop where
  told : Told st next
  others : forall other : EntityId, entityId ≠ other ->
    next.world.entities[other]? = st.world.entities[other]?

theorem ToldOf.same {entityId : EntityId} {st next : TickState R}
    (hworld : next.world = st.world) (hpending : next.pendingEvents = st.pendingEvents) :
    ToldOf entityId st next := by
  refine ⟨Told.same hworld hpending, ?_⟩
  intro other _
  rw [hworld]

theorem kill_eq (st : TickState R) {entityId : EntityId} {entity : Entity}
    (hentity : st.world.entities[entityId]? = some entity) :
    st.kill entityId =
      ({ st with
        world := st.world.updateEntity entityId (fun e => { e with state := .dead }) } :
          TickState R).push (.entityStateChanged entityId entity.state .dead) := by
  unfold kill
  rw [hentity]

/-- A wear that ends above zero, and one that ends at zero with the death of the entity. -/
theorem worn_told (st : TickState R) (rng : R) {entityId : EntityId} {entity : Entity}
    {value : UInt32} {f : Entity -> Entity}
    (hentity : st.world.entities[entityId]? = some entity) (hactive : entity.state = .active)
    (hvalue : vital entity.kind entity.properties = some value) (hpos : 0 < value)
    (hkind : (f entity).kind = entity.kind) (hstate : (f entity).state = entity.state)
    (hworn : vital (f entity).kind (f entity).properties = some (value - 1)) :
    ToldOf entityId st
      (let st := st.worn rng entityId f (wearEvent entity.kind entityId value)
      if value - 1 = 0 then st.kill entityId else st) := by
  let tick := st.world.currentTick
  let wearing := SimEvent.new tick (wearEvent entity.kind entityId value)
  have hworld : forall other : EntityId,
      (st.world.updateEntity entityId f).entities[other]? =
        if entityId = other then some (f entity) else st.world.entities[other]? := by
    intro other
    rw [World.updateEntity_getElem?]
    split
    · rename_i heq
      rw [← heq, hentity]
      rfl
    · rfl
  have hdies := dies_wearEvent tick entity.kind entityId value
  have hnamed := namedEntity_wearEvent entity.kind entityId value
  have hlasts : forall other : EntityId,
      wearEvent entity.kind entityId value ≠ .entityDespawned other .death := by
    intro other
    cases entity.kind <;> exact EventData.noConfusion
  by_cases hzero : value - 1 = 0
  · simp only [if_pos hzero]
    have hkilled : (st.worn rng entityId f
        (wearEvent entity.kind entityId value)).world.entities[entityId]? = some (f entity) := by
      show (st.world.updateEntity entityId f).entities[entityId]? = _
      rw [hworld, if_pos rfl]
    rw [kill_eq _ hkilled, hstate, hactive]
    have hdead : forall other : EntityId,
        ((st.world.updateEntity entityId f).updateEntity entityId
          (fun e => { e with state := .dead })).entities[other]? =
        if entityId = other then some { f entity with state := .dead }
          else st.world.entities[other]? := by
      intro other
      rw [World.updateEntity_getElem?, hworld]
      split <;> rfl
    refine ⟨⟨[wearing, SimEvent.new tick (.entityStateChanged entityId .active .dead)],
      List.append_assoc _ _ _, rfl, ?_⟩, fun other hne => (hdead other).trans (if_neg hne)⟩
    intro facts h
    have hlives := h.lives entityId
    rw [hentity] at hlives
    refine h.change hentity ?hnamed (hlives.wearsOut hactive hvalue hpos hzero rfl) hdead rfl
      ?hprompt ?hdeaths
    case hnamed =>
      intro fact hmem
      rcases List.mem_cons.mp hmem with hfirst | hmem
      · rw [hfirst]
        exact hnamed
      · rw [List.mem_singleton.mp hmem]
        rfl
    case hprompt =>
      rw [if_pos hzero] at hdies
      exact Prompt.pair hdies rfl
    case hdeaths =>
      intro fact hmem other hdespawned
      rcases List.mem_cons.mp hmem with hfirst | hmem
      · rw [hfirst] at hdespawned
        exact absurd hdespawned (hlasts other)
      · rw [List.mem_singleton.mp hmem] at hdespawned
        cases hdespawned
  · simp only [if_neg hzero]
    refine ⟨⟨[wearing], rfl, rfl, ?_⟩, fun other hne => (hworld other).trans (if_neg hne)⟩
    intro facts h
    have hlives := h.lives entityId
    rw [hentity] at hlives
    rw [if_neg hzero] at hdies
    exact h.change_once hentity hnamed
      (hlives.wears hactive hvalue hpos hzero hkind hworn (hstate.trans hactive)) hworld rfl
      hdies fun other hdespawned => absurd hdespawned (hlasts other)

theorem removeDead_told {ids : List EntityId} {st : TickState R} (hnodup : ids.Nodup)
    (hdead : forall id : EntityId, id ∈ ids -> forall entity : Entity,
      st.world.entities[id]? = some entity -> entity.state = .dead)
    (htick : st.world.currentTick.val % 100 = 0) :
    Told st (removeDead ids st) ∧ forall (id : EntityId) (entity : Entity),
      (removeDead ids st).world.entities[id]? = some entity ->
        id ∉ ids ∧ st.world.entities[id]? = some entity := by
  induction ids generalizing st with
  | nil => exact ⟨Told.same rfl rfl, fun id entity hentity => ⟨List.not_mem_nil, hentity⟩⟩
  | cons first rest ih =>
      rcases List.nodup_cons.mp hnodup with ⟨hnew, hnodup⟩
      unfold removeDead
      cases hremove : st.world.removeEntity first with
      | none =>
          have hnone := (World.removeEntity_eq_none _ _).mp hremove
          rcases ih hnodup (fun id hmem => hdead id (List.mem_cons_of_mem _ hmem)) htick with
            ⟨htold, hleft⟩
          refine ⟨htold, ?_⟩
          intro id entity hentity
          rcases hleft id entity hentity with ⟨hnot, hbefore⟩
          refine ⟨?_, hbefore⟩
          intro hmem
          rcases List.mem_cons.mp hmem with hfirst | hmem
          · rw [hfirst, hnone] at hbefore
            cases hbefore
          · exact hnot hmem
      | some found =>
          rcases found with ⟨entity, world⟩
          rcases World.removeEntity_eq_some hremove with ⟨hentity, hworld⟩
          have hlookup : forall other : EntityId, world.entities[other]? =
              if first = other then none else st.world.entities[other]? := by
            intro other
            rw [hworld]
            exact BTreeMap.getElem?_erase _ _ _
          have hkept : world.currentTick = st.world.currentTick := by rw [hworld]
          let removed : TickState R :=
            ({ st with world := world } : TickState R).push (.entityDespawned first .death)
          have hstep : Told st removed := by
            refine ⟨[SimEvent.new world.currentTick (.entityDespawned first .death)], rfl,
              hkept, ?_⟩
            intro facts h
            have hlives := h.lives first
            rw [hentity] at hlives
            apply h.change_once hentity rfl ?_ hlookup (by rw [hworld]) rfl
            · intro other _
              show world.currentTick.val % 100 = 0
              rw [hkept]
              exact htick
            · exact hlives.removed (Or.inr ⟨rfl, hdead first List.mem_cons_self entity hentity⟩)
          have hrest : Told removed (removeDead rest removed) ∧ _ := ih hnodup
            (by
              intro id hmem later hlater
              have hne : first ≠ id := fun heq => hnew (heq ▸ hmem)
              have hlater' : world.entities[id]? = some later := hlater
              rw [hlookup, if_neg hne] at hlater'
              exact hdead id (List.mem_cons_of_mem _ hmem) later hlater')
            (by
              show world.currentTick.val % 100 = 0
              rw [hkept]
              exact htick)
          refine ⟨hstep.trans hrest.left, ?_⟩
          intro id later hlater
          rcases hrest.right id later hlater with ⟨hnot, hbefore⟩
          have hbefore' : world.entities[id]? = some later := hbefore
          rw [hlookup] at hbefore'
          by_cases hfirst : first = id
          · rw [if_pos hfirst] at hbefore'
            cases hbefore'
          · rw [if_neg hfirst] at hbefore'
            refine ⟨?_, hbefore'⟩
            intro hmem
            rcases List.mem_cons.mp hmem with heq | hmem
            · exact hfirst heq.symm
            · exact hnot hmem

theorem cleanUp_told {st : TickState R} (hintegrity : WorldIntegrity st.world) :
    Told st st.cleanUp ∧ Swept st.cleanUp.world := by
  unfold cleanUp
  split
  · rename_i htick
    rcases removeDead_told (entityIds_nodup hintegrity Entity.isDead)
      (by
        intro id hmem entity hentity
        rcases (BTreeMap.mem_keys_filter hintegrity.entity_key).mp hmem with
          ⟨found, hfound, hdead⟩
        cases hfound.symm.trans hentity
        exact of_decide_eq_true hdead) htick with ⟨htold, hleft⟩
    refine ⟨htold, ?_⟩
    intro _ id entity hentity hdead
    rcases hleft id entity hentity with ⟨hnot, hbefore⟩
    apply hnot
    apply (BTreeMap.mem_keys_filter hintegrity.entity_key).mpr
    exact ⟨entity, hbefore, decide_eq_true hdead⟩
  · rename_i htick
    exact ⟨Told.same rfl rfl, fun hswept => absurd hswept htick⟩

section Rules

variable [IRng R]

theorem wearBy_told (st : TickState R) (chance : F32) {entityId : EntityId} {entity : Entity}
    {value : UInt32} {f : Entity -> Entity}
    (hentity : st.world.entities[entityId]? = some entity) (hactive : entity.state = .active)
    (hvalue : vital entity.kind entity.properties = some value)
    (hkind : (f entity).kind = entity.kind) (hstate : (f entity).state = entity.state)
    (hworn : vital (f entity).kind (f entity).properties = some (value - 1)) :
    ToldOf entityId st
      (st.wearBy chance entityId value f (wearEvent entity.kind entityId value)) := by
  unfold wearBy
  split
  · rename_i hpos
    split
    · rename_i rng _
      exact worn_told st rng hentity hactive hvalue hpos hkind hstate hworn
    · exact ToldOf.same rfl rfl
  · exact ToldOf.same rfl rfl

theorem applyRule_told (st : TickState R) {entityId : EntityId} {entity : Entity}
    (hentity : st.world.entities[entityId]? = some entity) (hactive : entity.state = .active) :
    ToldOf entityId st (st.applyRule entityId entity) := by
  unfold applyRule
  split
  · rename_i hkind
    split
    · rename_i amount hamount
      have hvital : vital entity.kind entity.properties = some amount := by
        rw [hkind]
        exact hamount
      have htold := wearBy_told st depletionChance (f := fun e =>
        { e with properties := { e.properties with amount := some (amount - 1) } })
        hentity hactive hvital rfl rfl (by rw [hkind]; rfl)
      rw [hkind] at htold
      exact htold
    · exact ToldOf.same rfl rfl
  · rename_i hkind
    split
    · rename_i health hhealth
      have hvital : vital entity.kind entity.properties = some health := by
        rw [hkind]
        exact hhealth
      have htold := wearBy_told st degradationChance (f := fun e =>
        { e with properties := { e.properties with health := some (health - 1) } })
        hentity hactive hvital rfl rfl (by rw [hkind]; rfl)
      rw [hkind] at htold
      rw [degradeCreature_eq st hentity]
      exact htold
    · exact ToldOf.same rfl rfl
  · exact ToldOf.same rfl rfl

/-- The rule of one entity leaves the entities still to come as they are. -/
theorem processEntities_told {ids : List EntityId} {count processed : UInt32}
    {st next : TickState R} (hnodup : ids.Nodup)
    (hactive : forall id : EntityId, id ∈ ids -> forall entity : Entity,
      st.world.entities[id]? = some entity -> entity.state = .active)
    (h : processEntities ids count st = some (processed, next)) : Told st next := by
  induction ids generalizing count st with
  | nil =>
      cases h
      exact Told.same rfl rfl
  | cons entityId rest ih =>
      rcases List.nodup_cons.mp hnodup with ⟨hnew, hnodup⟩
      rcases processEntities_cons h with ⟨_, hrest⟩ | ⟨entity, succ, hentity, hrest⟩
      · exact ih hnodup (fun id hmem => hactive id (List.mem_cons_of_mem _ hmem)) hrest
      · have hrule := applyRule_told st hentity
          (hactive entityId List.mem_cons_self entity hentity)
        refine hrule.told.trans (ih hnodup ?_ hrest)
        intro id hmem later hlater
        have hne : entityId ≠ id := fun heq => hnew (heq ▸ hmem)
        rw [hrule.others id hne] at hlater
        exact hactive id (List.mem_cons_of_mem _ hmem) later hlater

theorem runTickSystems_told {st next : TickState R} {processed : UInt32}
    (hintegrity : WorldIntegrity st.world)
    (h : st.runTickSystems = some (processed, next)) : Told st next ∧ Swept next.world := by
  rcases runTickSystems_eq_some h with ⟨middle, hloop, hnext⟩
  have hmiddle : WorldIntegrity middle.world := by
    rcases processEntities_journaled hloop with ⟨events, hjournal⟩
    refine hjournal.replays.integrity hintegrity ?_
    intro event hmem
    exact EventData.not_spawnsInvalid_of_systemic (hjournal.systemic event hmem).right
  have hactive : forall id : EntityId, id ∈ st.world.activeEntities.map Entity.id ->
      forall entity : Entity, st.world.entities[id]? = some entity -> entity.state = .active := by
    intro id hmem entity hentity
    rcases (BTreeMap.mem_keys_filter hintegrity.entity_key).mp hmem with ⟨found, hfound, hactive⟩
    cases hfound.symm.trans hentity
    exact of_decide_eq_true hactive
  have hrules := processEntities_told (entityIds_nodup hintegrity Entity.isActive) hactive hloop
  rcases cleanUp_told hmiddle with ⟨hclean, hswept⟩
  rw [hnext]
  exact ⟨hrules.trans hclean, hswept⟩

end Rules

end TickState

/-!
## Commands
-/

theorem Chronicle.congr {facts : List (Tick × EventData)} {world after : World}
    (h : Chronicle facts world) (hentities : after.entities = world.entities)
    (hnext : after.nextEntityId = world.nextEntityId) : Chronicle facts after := by
  have hsilent : Chronicle (facts ++ []) after := h.silent nofun hentities hnext
  rw [List.append_nil] at hsilent
  exact hsilent

theorem Chronicle.new (name : String) (seed : RngSeed) : Chronicle [] (World.new name seed) := by
  constructor
  case lives => exact fun id => Lives.absent LifeStory.unborn
  case fresh => exact fun _ _ => rfl
  case prompt => exact Prompt.of_none nofun
  case deaths => exact nofun

namespace Simulation

variable {R C : Type} [IRng R] [ISimClock C] {sim next : Simulation R C} {world : World}

/-- The events tell how one world became another, and the other is swept. -/
structure Chronicles (world after : World) (events : List SimEvent) : Prop where
  chronicle : forall facts : List (Tick × EventData), Chronicle facts world ->
    Chronicle (facts ++ events.map SimEvent.fact) after
  swept : Swept world -> Swept after

theorem Chronicles.trans {first second third : World} {left right : List SimEvent}
    (hleft : Chronicles first second left) (hright : Chronicles second third right) :
    Chronicles first third (left ++ right) := by
  constructor
  case chronicle =>
    intro facts h
    rw [List.map_append, ← List.append_assoc]
    exact hright.chronicle _ (hleft.chronicle facts h)
  case swept => exact fun h => hright.swept (hleft.swept h)

theorem cmdTick_chronicles (hworld : sim.world = some world) (hintegrity : WorldIntegrity world)
    (h : sim.cmdTick = some (.ok (), next)) :
    exists (after : World) (events : List SimEvent), next.world = some after ∧
      next.pendingEvents = sim.pendingEvents ++ events ∧ Chronicles world after events ∧
        Swept after := by
  rcases (cmdTick_eq_ok hworld).mp h with ⟨processed, st, hsystems, hnext⟩
  have hadvanced : WorldIntegrity world.advanceTick := hintegrity.setClock _
  rcases TickState.runTickSystems_told hadvanced hsystems with ⟨⟨systemic, htells⟩, hswept⟩
  let closing := SimEvent.new st.world.currentTick
    (.tickProcessed world.advanceTick.currentTick world.advanceTick.simTime processed
      (some (IRng.state st.rng)))
  rw [hnext]
  refine ⟨{ st.world with rngState := IRng.state st.rng }, systemic ++ [closing], rfl, ?_, ?_,
    hswept⟩
  · show st.pendingEvents ++ _ = _
    rw [htells.pending, List.append_assoc]
  · refine ⟨?_, fun _ => hswept⟩
    intro facts hfacts
    have hmoved : Chronicle facts world.advanceTick := hfacts.congr rfl rfl
    rw [List.map_append, ← List.append_assoc]
    refine (htells.chronicle facts hmoved).silent ?_ rfl rfl
    intro fact hmem
    rw [List.mem_singleton.mp hmem]
    rfl

theorem cmdTickN_chronicles {n : Nat} (hworld : sim.world = some world)
    (hintegrity : WorldIntegrity world) (h : sim.cmdTickN n = some (.ok (), next)) :
    exists (after : World) (events : List SimEvent), next.world = some after ∧
      next.pendingEvents = sim.pendingEvents ++ events ∧ Chronicles world after events := by
  let P (s : Simulation R C) : Prop := exists (after : World) (events : List SimEvent),
    s.world = some after ∧ WorldIntegrity after ∧
      s.pendingEvents = sim.pendingEvents ++ events ∧ Chronicles world after events
  have hstep : forall before last : Simulation R C, P before ->
      before.cmdTick = some (.ok (), last) -> P last := by
    rintro before last ⟨middle, events, hmiddle, hinvariant, hpending, htold⟩ htick
    rcases cmdTick_chronicles hmiddle hinvariant htick with
      ⟨after, later, hafter, hlater, hchronicles, _⟩
    rcases cmdTick_ticked hmiddle hinvariant htick with ⟨last', _, hticked⟩
    cases hafter.symm.trans hticked.loaded
    refine ⟨after, events ++ later, hafter, hticked.integrity hinvariant, ?_,
      htold.trans hchronicles⟩
    rw [hlater, hpending, List.append_assoc]
  have hstart : P sim := by
    refine ⟨world, [], hworld, hintegrity, (List.append_nil _).symm, ?_, id⟩
    intro facts hfacts
    rw [List.map_nil, List.append_nil]
    exact hfacts
  rcases cmdTickN_invariant hstep h hstart with ⟨after, events, hafter, _, hpending, htold⟩
  exact ⟨after, events, hafter, hpending, htold⟩

theorem spawn_chronicles {allocated : World} {id : EntityId} {cmd : SpawnEntityCmd}
    (hid : world.allocateEntityId = some (id, allocated)) :
    Chronicles world
      (allocated.addEntity
        (Entity.new id cmd.kind cmd.position world.currentTick cmd.properties))
      [SimEvent.new world.currentTick
        (.entitySpawned id cmd.kind cmd.position cmd.properties)] := by
  rcases World.allocateEntityId_eq_some hid with ⟨hval, hnat, hallocated⟩
  let entity := Entity.new id cmd.kind cmd.position world.currentTick cmd.properties
  have hlookup : forall other : EntityId, (allocated.addEntity entity).entities[other]? =
      if id = other then some entity else world.entities[other]? := by
    intro other
    rw [World.addEntity_getElem?, hallocated]
    rfl
  have hlt : world.nextEntityId < allocated.nextEntityId := by
    rw [UInt64.lt_iff_toNat_lt, hnat]
    exact Nat.lt_succ_self _
  constructor
  case chronicle =>
    intro facts h
    apply h.extend id
    case hnamed =>
      intro fact hmem
      rw [List.mem_singleton.mp hmem]
      rfl
    case hlives =>
      -- an identifier that was not allocated names nothing
      rw [hlookup, if_pos rfl, h.fresh id (by rw [hval]; exact UInt64.le_refl _)]
      exact Lives.spawned cmd.kind cmd.position world.currentTick cmd.properties
    case hother =>
      intro other hne
      rw [hlookup, if_neg hne]
    case hnext => exact UInt64.le_of_lt hlt
    case hbelow =>
      rw [hval]
      exact hlt
    case hprompt => exact Prompt.single rfl
    case hdeaths =>
      intro fact hmem other hdespawned
      rw [List.mem_singleton.mp hmem] at hdespawned
      cases hdespawned
  case swept =>
    intro hswept
    refine hswept.change (by rw [hallocated]; rfl) hlookup ?_
    intro found hfound
    cases hfound
    exact EntityState.noConfusion

theorem despawn_chronicles {removed : World} {id : EntityId} {entity : Entity}
    (hremove : world.removeEntity id = some (entity, removed)) :
    Chronicles world removed
      [SimEvent.new world.currentTick (.entityDespawned id .command)] := by
  rcases World.removeEntity_eq_some hremove with ⟨hentity, hremoved⟩
  have hlookup : forall other : EntityId, removed.entities[other]? =
      if id = other then none else world.entities[other]? := by
    intro other
    rw [hremoved]
    exact BTreeMap.getElem?_erase _ _ _
  have hnext : removed.nextEntityId = world.nextEntityId := by rw [hremoved]
  constructor
  case chronicle =>
    intro facts h
    have hlives := h.lives id
    rw [hentity] at hlives
    exact h.change_once hentity rfl (hlives.removed (Or.inl rfl)) hlookup hnext rfl nofun
  case swept =>
    intro hswept
    exact hswept.change (by rw [hremoved]) hlookup nofun

theorem silent_chronicles {after : World} {events : List SimEvent}
    (hunnamed : forall event : SimEvent, event ∈ events -> event.data.namedEntity = none)
    (hentities : after.entities = world.entities)
    (hnext : after.nextEntityId = world.nextEntityId)
    (htick : after.currentTick = world.currentTick) : Chronicles world after events := by
  constructor
  case chronicle =>
    intro facts h
    refine h.silent ?_ hentities hnext
    intro fact hmem
    rcases List.mem_map.mp hmem with ⟨event, hin, heq⟩
    rw [← heq]
    exact hunnamed event hin
  case swept =>
    intro hswept hhundredth
    rw [htick] at hhundredth
    rw [hentities]
    exact hswept hhundredth

theorem Accepted.chronicles {c : SimCommand} {events : List SimEvent}
    (h : Accepted sim c events next) (hworld : sim.world = some world)
    (hintegrity : WorldIntegrity world) :
    exists after : World, next.world = some after ∧ Chronicles world after events := by
  have hcleared : sim.clearPending.world = some world := hworld
  cases h with
  | createWorld c hnone =>
      rw [hnone] at hworld
      cases hworld
  | tick htick =>
      rcases cmdTick_chronicles hcleared hintegrity htick with
        ⟨after, events, hafter, hpending, hchronicles, _⟩
      rw [hpending]
      exact ⟨after, hafter, hchronicles⟩
  | tickN htick =>
      rcases cmdTickN_chronicles hcleared hintegrity htick with
        ⟨after, events, hafter, hpending, hchronicles⟩
      rw [hpending]
      exact ⟨after, hafter, hchronicles⟩
  | spawnEntity hloaded _ hid =>
      cases hloaded.symm.trans hworld
      exact ⟨_, rfl, spawn_chronicles hid⟩
  | despawnEntity hloaded hremove =>
      cases hloaded.symm.trans hworld
      exact ⟨_, rfl, despawn_chronicles hremove⟩
  | createZone hloaded _ =>
      cases hloaded.symm.trans hworld
      refine ⟨_, rfl, silent_chronicles ?_ rfl rfl rfl⟩
      intro event hmem
      rw [List.mem_singleton.mp hmem]
      rfl

/-!
## Runs
-/

def returnedEvents (results : List (ApiResult (List SimEvent))) : List SimEvent :=
  results.flatMap fun
    | .ok events => events
    | .error _ => []

structure Recorded (results : List (ApiResult (List SimEvent))) (sim : Simulation R C) :
    Prop where
  intact : sim.Intact
  unloaded : sim.world = none -> returnedEvents results = []
  chronicle : forall world : World, sim.world = some world ->
    Chronicle ((returnedEvents results).map SimEvent.fact) world ∧ Swept world

theorem Recorded.step {results : List (ApiResult (List SimEvent))} {cmd : SimCommand}
    {result : ApiResult (List SimEvent)} (h : Recorded results sim)
    (hprocess : sim.processCommand cmd = some (result, next)) :
    Recorded (results ++ [result]) next := by
  have hintact := processCommand_intact h.intact hprocess
  have hreturned : returnedEvents (results ++ [result]) =
      returnedEvents results ++ returnedEvents [result] := List.flatMap_append
  cases result with
  | error e =>
      have hsame := (processCommand_error hprocess).world
      have hnothing : returnedEvents [.error e] = [] := rfl
      rw [hnothing, List.append_nil] at hreturned
      refine ⟨hintact, ?_, ?_⟩
      · rw [hreturned, hsame]
        exact h.unloaded
      · rw [hreturned, hsame]
        exact h.chronicle
  | ok events =>
      have haccepted := processCommand_ok hprocess
      have hadded : returnedEvents [.ok events] = events := List.append_nil _
      rw [hadded] at hreturned
      rcases accepted_loaded hprocess with ⟨created, hcreate⟩ | ⟨world, hworld⟩
      · subst hcreate
        cases haccepted with
        | createWorld _ hnone =>
            refine ⟨hintact, nofun, ?_⟩
            intro world hworld
            cases hworld
            rw [hreturned, h.unloaded hnone, List.nil_append]
            constructor
            · have hnew := Chronicle.new created.name created.seed
              refine hnew.silent ?_ rfl rfl
              intro fact hmem
              rcases List.mem_cons.mp hmem with hfirst | hmem
              · rw [hfirst]
                rfl
              · rw [List.mem_singleton.mp hmem]
                rfl
            · exact fun _ => nofun
      · rcases haccepted.chronicles hworld (h.intact world hworld) with
          ⟨after, hafter, hchronicles⟩
        rcases h.chronicle world hworld with ⟨hchronicle, hswept⟩
        refine ⟨hintact, ?_, ?_⟩
        · intro hnone
          rw [hafter] at hnone
          cases hnone
        · intro last hlast
          cases hafter.symm.trans hlast
          rw [hreturned, List.map_append]
          exact ⟨hchronicles.chronicle _ hchronicle, hchronicles.swept hswept⟩

theorem runCommands_recorded {cmds : List SimCommand} {rng : R} {clock : C}
    {results : List (ApiResult (List SimEvent))}
    (hrun : runCommands cmds (Simulation.new rng clock) = some (results, sim)) :
    Recorded results sim := by
  have hstart : Recorded [] (Simulation.new rng clock) := ⟨new_intact rng clock, fun _ => rfl, nofun⟩
  have halong : Along processCommand (fun _ _ => True) cmds (Simulation.new rng clock) :=
    Along.of_forall fun _ _ => trivial
  exact run_along (P := Recorded) (fun _ _ _ _ _ hbefore _ hprocess => hbefore.step hprocess)
    hrun halong hstart

omit [IRng R] [ISimClock C] in
theorem Recorded.exists_chronicle {results : List (ApiResult (List SimEvent))}
    (h : Recorded results sim) :
    exists world : World, Chronicle ((returnedEvents results).map SimEvent.fact) world := by
  cases hworld : sim.world with
  | none =>
      rw [h.unloaded hworld]
      exact ⟨_, Chronicle.new "" ⟨0⟩⟩
  | some world => exact ⟨world, (h.chronicle world hworld).left⟩

theorem cmdTickN_swept {n : Nat} (hintact : sim.Intact)
    (hswept : forall world : World, sim.world = some world -> Swept world)
    (h : sim.cmdTickN n = some (.ok (), next)) :
    forall world : World, next.world = some world -> Swept world := by
  let P (s : Simulation R C) : Prop :=
    s.Intact ∧ forall world : World, s.world = some world -> Swept world
  have hstep : forall before after : Simulation R C, P before ->
      before.cmdTick = some (.ok (), after) -> P after := by
    intro before after hbefore htick
    refine ⟨cmdTick_intact hbefore.left htick, ?_⟩
    rcases cmdTick_ok htick with ⟨loaded, hloaded⟩
    rcases cmdTick_chronicles hloaded (hbefore.left loaded hloaded) htick with
      ⟨last, _, hlast, _, _, hclean⟩
    intro world hworld
    cases hlast.symm.trans hworld
    exact hclean
  exact (cmdTickN_invariant (P := P) hstep h ⟨hintact, hswept⟩).right

/-- In every run the events that name one entity tell a life; a count that reaches zero
is followed at once by the death; an entity is removed for its death only at a tick
divisible by `100`; and no dead entity is left after such a tick, also inside `TickN`. -/
theorem run_lifeCycle {cmds : List SimCommand} {rng : R} {clock : C}
    {results : List (ApiResult (List SimEvent))}
    (hrun : runCommands cmds (Simulation.new rng clock) = some (results, sim)) :
    let facts := (returnedEvents results).map SimEvent.fact
    (forall id : EntityId, LifeStory id (ofEntity id facts)) ∧
    Prompt dies facts ∧
    (forall fact : Tick × EventData, fact ∈ facts -> forall id : EntityId,
      fact.2 = .entityDespawned id .death -> fact.1.val % 100 = 0) ∧
    (forall (n : Nat) (after : Simulation R C) (world : World),
      sim.clearPending.cmdTickN n = some (.ok (), after) -> after.world = some world ->
        Swept world) := by
  have hrecorded := runCommands_recorded hrun
  rcases hrecorded.exists_chronicle with ⟨_, hchronicle⟩
  refine ⟨fun id => (hchronicle.lives id).story, hchronicle.prompt, hchronicle.deaths, ?_⟩
  intro n after world hticks
  have hcleared : sim.clearPending.Intact := hrecorded.intact
  exact cmdTickN_swept hcleared (fun loaded hloaded =>
    (hrecorded.chronicle loaded hloaded).right) hticks world

/-- A creature is degraded once, and removed by a command. -/
theorem run_lifeCycle_creature :
    exists (results : List (ApiResult (List SimEvent)))
        (sim : Simulation Pcg32Rng UnlimitedClock),
      runCommands
        [.createWorld ⟨"Vale", ⟨7⟩⟩,
          .spawnEntity ⟨WorldPos.origin, .creature, ⟨none, none, some 3⟩⟩, .tickN 2,
          .despawnEntity ⟨1⟩]
        (Simulation.new Pcg32Rng.uninitialized UnlimitedClock.new) = some (results, sim) ∧
      ofEntity ⟨1⟩ ((returnedEvents results).map SimEvent.fact) =
        [.entitySpawned ⟨1⟩ .creature WorldPos.origin ⟨none, none, some 3⟩,
          .entityDegraded ⟨1⟩ 3 2, .entityDespawned ⟨1⟩ .command] ∧
      forall id : EntityId,
        LifeStory id (ofEntity id ((returnedEvents results).map SimEvent.fact)) := by
  have hlife : (runCommands
      [.createWorld ⟨"Vale", ⟨7⟩⟩,
        .spawnEntity ⟨WorldPos.origin, .creature, ⟨none, none, some 3⟩⟩, .tickN 2,
        .despawnEntity ⟨1⟩]
      (Simulation.new Pcg32Rng.uninitialized UnlimitedClock.new)).map (fun reached =>
        ofEntity ⟨1⟩ ((returnedEvents reached.1).map SimEvent.fact)) =
      some [.entitySpawned ⟨1⟩ .creature WorldPos.origin ⟨none, none, some 3⟩,
        .entityDegraded ⟨1⟩ 3 2, .entityDespawned ⟨1⟩ .command] := by
    decide
  rcases Option.map_eq_some_iff.mp hlife with ⟨⟨results, sim⟩, hrun, htold⟩
  exact ⟨results, sim, hrun, htold, (run_lifeCycle hrun).left⟩

end Simulation

end Seej
