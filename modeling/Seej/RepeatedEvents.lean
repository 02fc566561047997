import Seej.ReplaySafety

/-!
# Events that are delivered twice

An event either takes away what it needs to be accepted, or sets what it sets once and
for all.  So the second delivery of an event is refused or changes nothing.
-/

namespace Seej

open Foundation

/-!
## Updates that set a value
-/

theorem World.updateEntity_updateEntity (world : World) (id : EntityId) {f : Entity -> Entity}
    (hf : forall e : Entity, f (f e) = f e) :
    (world.updateEntity id f).updateEntity id f = world.updateEntity id f := by
  have hentities : (world.entities.modify id f).modify id f = world.entities.modify id f := by
    apply Std.ExtTreeMap.ext_getElem?
    intro other
    rw [BTreeMap.getElem?_modify, BTreeMap.getElem?_modify]
    by_cases hid : id = other
    · cases hentity : world.entities[other]? <;> simp [hid, hf]
    · simp [hid]
  unfold World.updateEntity
  rw [hentities]

theorem World.updateZone_updateZone (world : World) (id : ZoneId) {f : Zone -> Zone}
    (hf : forall z : Zone, f (f z) = f z) :
    (world.updateZone id f).updateZone id f = world.updateZone id f := by
  have hzones : (world.zones.modify id f).modify id f = world.zones.modify id f := by
    apply Std.ExtTreeMap.ext_getElem?
    intro other
    rw [BTreeMap.getElem?_modify, BTreeMap.getElem?_modify]
    by_cases hid : id = other
    · cases hzone : world.zones[other]? <;> simp [hid, hf]
    · simp [hid]
  unfold World.updateZone
  rw [hzones]

theorem setEntityProperty_idempotent {property : String} {newValue : PropertyValue}
    {f : Entity -> Entity} (h : setEntityProperty property newValue = .ok f) (e : Entity) :
    f (f e) = f e := by
  unfold setEntityProperty at h
  split at h
  · cases newValue <;> cases h
    rfl
  · split at h
    · cases newValue <;> cases h
      rfl
    · split at h
      · cases newValue <;> cases h
        rfl
      · cases h

/-!
## The second delivery
-/

theorem moveEntity_self (world : World) (entityId : EntityId) (position : WorldPos) :
    moveEntity world entityId position position =
      world.updateEntity entityId fun e => { e with position := position } := by
  unfold moveEntity
  rw [if_neg (not_not.mpr rfl)]

theorem moveEntity_entity {world : World} {entityId : EntityId} {source target : WorldPos}
    {entity : Entity}
    (h : (moveEntity world entityId source target).entities[entityId]? = some entity) :
    entity.position = target := by
  unfold moveEntity at h
  rw [World.updateEntity_getElem?, if_pos rfl] at h
  rcases Option.map_eq_some_iff.mp h with ⟨before, _, heq⟩
  rw [← heq]

/-- What is accepted a second time changes nothing. -/
theorem Interpreted.again {world next final : World} {tick : Tick} {data : EventData}
    (h : Interpreted world tick data next) (hagain : Interpreted next tick data final) :
    final = next := by
  cases h with
  | worldCreated _ =>
      cases hagain
      rfl
  | tickProcessed _ _ _ =>
      cases hagain
      rfl
  | @zoneCreated zoneId name _ =>
      have hzone : (world.addZone (Zone.new zoneId name)).zones[zoneId]? =
          some (Zone.new zoneId name) := by
        rw [World.addZone_getElem?]
        exact if_pos rfl
      cases hagain with
      | zoneCreated _ hnew =>
          rw [hzone] at hnew
          cases hnew
      | zoneRepeated _ _ _ => rfl
  | @zoneRepeated zoneId zone hzone _ _ =>
      generalize zone.name = name at hagain
      cases hagain with
      | zoneCreated _ hnew =>
          rw [hzone] at hnew
          cases hnew
      | zoneRepeated _ _ _ => rfl
  | zoneLoaded _ =>
      cases hagain
      exact World.updateZone_updateZone world _ fun _ => rfl
  | zoneUnloaded _ =>
      cases hagain
      exact World.updateZone_updateZone world _ fun _ => rfl
  | @entitySpawned entityId kind position properties zone n _ _ _ =>
      have hspawned : ({ world with nextEntityId := n }.addEntity
          (Entity.new entityId kind position tick properties)).entities[entityId]? =
          some (Entity.new entityId kind position tick properties) := by
        rw [World.addEntity_getElem?]
        exact if_pos rfl
      cases hagain with
      | entitySpawned _ _ _ hfresh _ =>
          rw [hspawned] at hfresh
          cases hfresh
      | spawnRepeated _ _ _ _ => rfl
  | spawnRepeated _ hexisting _ _ =>
      cases hagain with
      | entitySpawned _ _ _ hfresh _ =>
          rw [hexisting] at hfresh
          cases hfresh
      | spawnRepeated _ _ _ _ => rfl
  | entityDespawned _ hremove =>
      rcases World.removeEntity_eq_some hremove with ⟨_, hnext⟩
      cases hagain with
      | entityDespawned _ hremove' =>
          have hgone := (World.removeEntity_eq_some hremove').left
          rw [hnext] at hgone
          change (world.entities.erase _)[_]? = _ at hgone
          rw [BTreeMap.getElem?_erase, if_pos rfl] at hgone
          cases hgone
  | @entityMoved entityId target entity sourceZone targetZone _ _ _ _ =>
      generalize hsource : entity.position = source at hagain ⊢
      cases hagain with
      | entityMoved hentity _ _ _ =>
          -- the source of the second move is where the first one put the entity
          have htarget := moveEntity_entity hentity
          rw [htarget, moveEntity_self, moveEntity_self]
          exact World.updateEntity_updateEntity world entityId fun _ => rfl
  | @entityStateChanged entityId newState entity _ =>
      generalize entity.state = oldState at hagain
      cases hagain with
      | entityStateChanged _ _ => exact World.updateEntity_updateEntity world _ fun _ => rfl
  | entityPropertyChanged _ _ hset =>
      cases hagain with
      | entityPropertyChanged _ _ hset' =>
          rw [hset] at hset'
          rw [← Except.ok.inj hset']
          exact World.updateEntity_updateEntity world _ (setEntityProperty_idempotent hset)
  | resourceDepleted _ _ _ =>
      cases hagain
      exact World.updateEntity_updateEntity world _ fun _ => rfl
  | entityDegraded _ _ _ =>
      cases hagain
      exact World.updateEntity_updateEntity world _ fun _ => rfl

theorem Interpreted.spawned {world next : World} {tick : Tick} {entityId : EntityId}
    {kind : EntityKind} {position : WorldPos} {properties : EntityProperties}
    (h : Interpreted world tick (.entitySpawned entityId kind position properties) next) :
    exists entity : Entity, next.entities[entityId]? = some entity := by
  cases h with
  | entitySpawned _ _ _ _ _ =>
      exact ⟨_, (World.addEntity_getElem? _ _ _).trans (if_pos rfl)⟩
  | spawnRepeated _ hexisting _ _ => exact ⟨_, hexisting⟩

/-- The second delivery of an accepted event is refused or changes nothing. -/
theorem applyEvent_twice {world next : World} {event : SimEvent}
    (h : applyEvent world event = accept next) :
    applyEvent next event = accept next ∨
      exists message : String, applyEvent next event = refuse message := by
  cases hlife : event.data.isLifecycle with
  | true =>
      have hsame := applyEvent_of_lifecycle hlife h
      left
      rw [hsame] at h ⊢
      exact h
  | false =>
      rcases (applyEvent_eq_interpreted hlife).mp h with ⟨hgate, hfirst⟩
      have hclock : advanceTo next event.tick = next := by
        rw [← advanceTo_currentTick (gateEvent_tick hgate), ← hfirst.kept.currentTick,
          advanceTo_self]
      cases hagain : applyEvent next event with
      | none =>
          -- only the spawn of a new entity aborts, and the entity is there by now
          exfalso
          rw [applyEvent_of_not_lifecycle hlife, applyGated, hclock] at hagain
          cases hgate' : gateEvent next event with
          | error message => simp [hgate'] at hagain
          | ok _ =>
              simp only [hgate'] at hagain
              rcases interpretEvent_eq_none hlife hagain with
                ⟨entityId, kind, position, properties, hdata, _, hfresh, _⟩
              rw [hdata] at hfirst
              rcases hfirst.spawned with ⟨entity, hentity⟩
              rw [hfresh] at hentity
              cases hentity
      | some result =>
          cases result with
          | error message => exact Or.inr ⟨message, rfl⟩
          | ok final =>
              have hsecond := ((applyEvent_eq_interpreted hlife).mp hagain).right
              rw [hclock] at hsecond
              rw [hfirst.again hsecond]
              exact Or.inl rfl

theorem applyEvent_twice_spawn_five :
    exists next : World,
      applyEvent (World.new "Vale" ⟨7⟩) (spawnAtOrigin 5) = accept next ∧
        (applyEvent next (spawnAtOrigin 5) = accept next ∨
          exists message : String, applyEvent next (spawnAtOrigin 5) = refuse message) :=
  ⟨_, rfl, @applyEvent_twice (World.new "Vale" ⟨7⟩) _ _ rfl⟩

end Seej
