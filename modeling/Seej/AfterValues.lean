import Seej.ReplayRun

/-!
# Recorded values

Some events record the new value of one field of an entity.  Replaying them stores
that value and touches no other field, with one exception: an amount or a health is
recorded in 64 bits and stored in 32, and the cast between them drops the high ones.
-/

namespace Seej

open Foundation

/-!
## Fields
-/

inductive EntityField where
  | position
  | state
  | property (name : String)
deriving DecidableEq

inductive FieldValue where
  | position (value : WorldPos)
  | state (value : EntityState)
  | property (value : PropertyValue)
deriving DecidableEq

def EntityField.read : EntityField -> Entity -> Option FieldValue
  | .position, entity => some (.position entity.position)
  | .state, entity => some (.state entity.state)
  | .property name, entity => (entityPropertyValue entity name).toOption.map .property

namespace EventData

def after : EventData -> Option (EntityId × EntityField × FieldValue)
  | .entityMoved id _ target => some (id, .position, .position target)
  | .entityStateChanged id _ newState => some (id, .state, .state newState)
  | .entityPropertyChanged id property _ newValue =>
      some (id, .property property, .property newValue)
  | .resourceDepleted id _ remaining =>
      some (id, .property "amount", .property (.uint remaining.toUInt64))
  | .entityDegraded id _ newHealth =>
      some (id, .property "health", .property (.uint newHealth.toUInt64))
  | _ => none

def before : EventData -> Option (EntityId × EntityField × FieldValue)
  | .entityMoved id source _ => some (id, .position, .position source)
  | .entityStateChanged id oldState _ => some (id, .state, .state oldState)
  | .entityPropertyChanged id property oldValue _ =>
      some (id, .property property, .property oldValue)
  | .resourceDepleted id amount remaining =>
      some (id, .property "amount",
        .property (.uint (remaining.toUInt64 + amount.toUInt64)))
  | .entityDegraded id oldHealth _ =>
      some (id, .property "health", .property (.uint oldHealth.toUInt64))
  | _ => none

def Truncated : EventData -> Prop
  | .entityPropertyChanged _ property _ (.uint value) =>
      (property = "amount" ∨ property = "health") ∧ 2 ^ 32 ≤ value.toNat
  | _ => False

end EventData

/-- The checks of an event that remain once its old value was found: those of the zones
that a move names and of the type of a new property. -/
def PassesRest (world : World) : EventData -> Prop
  | .entityMoved id source target =>
      (exists zone : Zone, world.zones[source.zone]? = some zone ∧ id ∈ zone.entities) ∧
        exists zone : Zone, world.zones[target.zone]? = some zone
  | .entityPropertyChanged _ property _ newValue =>
      exists f : Entity -> Entity, setEntityProperty property newValue = .ok f
  | _ => True

structure HoldsValue (world next : World) (tick : Tick) (id : EntityId) (field : EntityField)
    (value : FieldValue) : Prop where
  entity : exists found entity : Entity,
    world.entities[id]? = some found ∧ next.entities[id]? = some entity ∧
      field.read entity = some value ∧
      (forall other : EntityField, other ≠ field -> other.read entity = other.read found) ∧
      entity.id = found.id ∧ entity.kind = found.kind ∧ entity.createdAt = found.createdAt
  others : forall other : EntityId, other ≠ id -> next.entities[other]? = world.entities[other]?
  following : forall event : SimEvent, event.tick = tick ->
    event.data.before = some (id, field, value) ->
      ((exists final : World, applyEvent next event = accept final) <->
        PassesRest next event.data)

/-!
## Properties
-/

def storedProperty (property : String) : PropertyValue -> PropertyValue
  | .uint v => if property = "name" then .uint v else .uint v.toUInt32.toUInt64
  | value => value

/-- An update that stores a value in one field and keeps the rest. -/
structure Sets (f : Entity -> Entity) (field : EntityField) (value : FieldValue) : Prop where
  read : forall e : Entity, field.read (f e) = some value
  other : forall (e : Entity) (other : EntityField), other ≠ field -> other.read (f e) = other.read e
  keeps : forall e : Entity, (f e).id = e.id ∧ (f e).kind = e.kind ∧ (f e).createdAt = e.createdAt

theorem sets_position (target : WorldPos) :
    Sets (fun e => { e with position := target }) .position (.position target) := by
  refine ⟨fun _ => rfl, ?_, fun _ => ⟨rfl, rfl, rfl⟩⟩
  intro e other hne
  cases other with
  | position => exact absurd rfl hne
  | state => rfl
  | property name => rfl

theorem sets_state (newState : EntityState) :
    Sets (fun e => { e with state := newState }) .state (.state newState) := by
  refine ⟨fun _ => rfl, ?_, fun _ => ⟨rfl, rfl, rfl⟩⟩
  intro e other hne
  cases other with
  | position => rfl
  | state => exact absurd rfl hne
  | property name => rfl

theorem sets_field (field : String) (set : EntityProperties -> EntityProperties)
    {value : PropertyValue}
    (hread : forall e : Entity,
      entityPropertyValue { e with properties := set e.properties } field = .ok value)
    (hother : forall (e : Entity) (name : String), name ≠ field ->
      entityPropertyValue { e with properties := set e.properties } name =
        entityPropertyValue e name) :
    Sets (fun e => { e with properties := set e.properties }) (.property field)
      (.property value) := by
  refine ⟨?_, ?_, fun _ => ⟨rfl, rfl, rfl⟩⟩
  · intro e
    simp only [EntityField.read, hread]
    rfl
  · intro e other hne
    cases other with
    | position => rfl
    | state => rfl
    | property name =>
        have hname : name ≠ field := fun h => hne (congrArg EntityField.property h)
        simp only [EntityField.read, hother e name hname]

theorem sets_amount (n : UInt32) :
    Sets (fun e => { e with properties := { e.properties with amount := some n } })
      (.property "amount") (.property (.uint n.toUInt64)) :=
  sets_field "amount" (fun properties => { properties with amount := some n })
    (fun _ => rfl) fun _ name hname => by simp [entityPropertyValue, hname]

theorem sets_health (n : UInt32) :
    Sets (fun e => { e with properties := { e.properties with health := some n } })
      (.property "health") (.property (.uint n.toUInt64)) :=
  sets_field "health" (fun properties => { properties with health := some n })
    (fun _ => rfl) fun _ name hname => by simp [entityPropertyValue, hname]

theorem sets_property {property : String} {newValue : PropertyValue} {f : Entity -> Entity}
    (h : setEntityProperty property newValue = .ok f) :
    Sets f (.property property) (.property (storedProperty property newValue)) := by
  unfold setEntityProperty at h
  split at h
  · rename_i hname
    subst hname
    cases newValue <;> cases h
    exact sets_field "name" (fun properties => { properties with name := _ }) (fun _ => rfl)
      fun _ name hname => by simp [entityPropertyValue, hname]
  · rename_i hname
    split at h
    · rename_i hamount
      subst hamount
      cases newValue <;> cases h
      exact sets_amount _
    · split at h
      · rename_i hhealth
        subst hhealth
        cases newValue <;> cases h
        exact sets_health _
      · cases h

theorem toUInt32_toUInt64 {v : UInt64} : v.toUInt32.toUInt64 = v <-> v.toNat < 2 ^ 32 := by
  rw [← UInt64.toNat_inj, UInt32.toNat_toUInt64, UInt64.toNat_toUInt32]
  exact Nat.mod_eq_iff_lt (by decide)

theorem storedProperty_eq_iff {id : EntityId} {property : String} {oldValue newValue : PropertyValue}
    {f : Entity -> Entity} (h : setEntityProperty property newValue = .ok f) :
    storedProperty property newValue = newValue <->
      ¬ (EventData.entityPropertyChanged id property oldValue newValue).Truncated := by
  unfold setEntityProperty at h
  cases newValue with
  | uint v =>
      split at h
      · cases h
      · rename_i hname
        have hfield : property = "amount" ∨ property = "health" := by
          split at h
          · rename_i hamount
            exact Or.inl hamount
          · split at h
            · rename_i hhealth
              exact Or.inr hhealth
            · cases h
        simp only [storedProperty, if_neg hname, PropertyValue.uint.injEq, toUInt32_toUInt64,
          EventData.Truncated, hfield, true_and, Nat.not_le]
  | _ => simp [storedProperty, EventData.Truncated]

theorem read_property {entity : Entity} {name : String} {value : PropertyValue} :
    (EntityField.property name).read entity = some (.property value) <->
      entityPropertyValue entity name = .ok value := by
  unfold EntityField.read
  cases hvalue : entityPropertyValue entity name <;> simp [Except.toOption, hvalue]

theorem read_amount {entity : Entity} {value : UInt64} :
    (EntityField.property "amount").read entity = some (.property (.uint value)) <->
      exists n : UInt32, entity.properties.amount = some n ∧ n.toUInt64 = value := by
  rw [read_property]
  cases hamount : entity.properties.amount <;> simp [entityPropertyValue, hamount]

theorem read_health {entity : Entity} {value : UInt64} :
    (EntityField.property "health").read entity = some (.property (.uint value)) <->
      exists n : UInt32, entity.properties.health = some n ∧ n.toUInt64 = value := by
  rw [read_property]
  cases hhealth : entity.properties.health <;> simp [entityPropertyValue, hhealth]

/-!
## The event that follows
-/

/-- What an event of the current tick with an old value is up to. -/
theorem applyEvent_iff_of_before {world final : World} {event : SimEvent}
    (htick : event.tick = world.currentTick) (hbefore : event.data.before ≠ none) :
    applyEvent world event = accept final <->
      Interpreted world event.tick event.data final := by
  have hlife : event.data.isLifecycle = false := by
    cases hdata : event.data <;> simp [hdata, EventData.before, EventData.isLifecycle] at hbefore ⊢
  have hgate : gateEvent world event = .ok () := by
    cases hdata : event.data <;> simp [hdata, EventData.before, gateEvent, htick] at hbefore ⊢
  rw [applyEvent_eq_interpreted hlife, htick, advanceTo_self]
  exact and_iff_right hgate

/-- An event that finds its old value is accepted if it passes its other checks. -/
theorem interpreted_iff_of_before {world : World} {tick : Tick} {data : EventData} {id : EntityId}
    {field : EntityField} {value : FieldValue} {entity : Entity}
    (hentity : world.entities[id]? = some entity) (hread : field.read entity = some value)
    (hbefore : data.before = some (id, field, value)) :
    (exists final : World, Interpreted world tick data final) <-> PassesRest world data := by
  constructor
  · rintro ⟨final, hfinal⟩
    cases hfinal with
    | entityMoved _ hsource htarget hmem => exact ⟨⟨_, hsource, hmem⟩, _, htarget⟩
    | entityPropertyChanged _ _ hset => exact ⟨_, hset⟩
    | _ => trivial
  · intro hrest
    cases data with
    | entityMoved id' source target =>
        simp only [EventData.before, Option.some.injEq, Prod.mk.injEq] at hbefore
        rcases hbefore with ⟨hid, hfield, hvalue⟩
        subst hid hfield hvalue
        rcases hrest with ⟨⟨sourceZone, hsource, hmem⟩, targetZone, htarget⟩
        have hposition : entity.position = source := by simpa [EntityField.read] using hread
        subst hposition
        exact ⟨_, Interpreted.entityMoved hentity hsource htarget hmem⟩
    | entityStateChanged id' oldState newState =>
        simp only [EventData.before, Option.some.injEq, Prod.mk.injEq] at hbefore
        rcases hbefore with ⟨hid, hfield, hvalue⟩
        subst hid hfield hvalue
        have hstate : entity.state = oldState := by simpa [EntityField.read] using hread
        subst hstate
        exact ⟨_, Interpreted.entityStateChanged newState hentity⟩
    | entityPropertyChanged id' property oldValue newValue =>
        simp only [EventData.before, Option.some.injEq, Prod.mk.injEq] at hbefore
        rcases hbefore with ⟨hid, hfield, hvalue⟩
        subst hid hfield hvalue
        rcases hrest with ⟨f, hset⟩
        exact ⟨_, Interpreted.entityPropertyChanged hentity (read_property.mp hread) hset⟩
    | resourceDepleted id' amount remaining =>
        simp only [EventData.before, Option.some.injEq, Prod.mk.injEq] at hbefore
        rcases hbefore with ⟨hid, hfield, hvalue⟩
        subst hid hfield hvalue
        rcases read_amount.mp hread with ⟨n, hamount, hn⟩
        -- the sum is taken in 64 bits, and what is stored fits into 32
        have hsum := congrArg UInt64.toNat hn
        rw [UInt32.toNat_toUInt64, UInt64.toNat_add, UInt32.toNat_toUInt64,
          UInt32.toNat_toUInt64] at hsum
        have hlt := n.toNat_lt
        have hremaining := remaining.toNat_lt
        have hspent := amount.toNat_lt
        have hsize : remaining.toNat + amount.toNat < UInt32.size := by
          change _ < 2 ^ 32
          omega
        refine ⟨_, Interpreted.resourceDepleted hentity hsize ?_⟩
        rw [hamount]
        congr 1
        rw [← UInt32.toNat_inj, UInt32.toNat_add]
        omega
    | entityDegraded id' oldHealth newHealth =>
        simp only [EventData.before, Option.some.injEq, Prod.mk.injEq] at hbefore
        rcases hbefore with ⟨hid, hfield, hvalue⟩
        subst hid hfield hvalue
        rcases read_health.mp hread with ⟨n, hhealth, hn⟩
        have heq : n = oldHealth := by
          rw [← UInt32.toNat_inj, ← UInt32.toNat_toUInt64, ← UInt32.toNat_toUInt64, hn]
        subst heq
        exact ⟨_, Interpreted.entityDegraded newHealth hentity hhealth⟩
    | _ => cases hbefore

/-!
## The event itself
-/

/-- An event that records a value updates one entity, and stores the value unless it is
truncated. -/
theorem Interpreted.sets {world next : World} {tick : Tick} {data : EventData} {id : EntityId}
    {field : EntityField} {value : FieldValue} (h : Interpreted world tick data next)
    (hafter : data.after = some (id, field, value)) :
    exists (entity : Entity) (f : Entity -> Entity) (stored : FieldValue),
      world.entities[id]? = some entity ∧ next.entities = world.entities.modify id f ∧
        Sets f field stored ∧ (stored = value <-> ¬ data.Truncated) := by
  cases h with
  | @entityMoved entityId target entity sourceZone targetZone hentity _ _ _ =>
      simp only [EventData.after, Option.some.injEq, Prod.mk.injEq] at hafter
      rcases hafter with ⟨hid, hfield, hvalue⟩
      subst hid hfield hvalue
      refine ⟨entity, _, _, hentity, ?_, sets_position target, iff_of_true rfl id⟩
      unfold moveEntity
      split <;> rfl
  | entityStateChanged newState hentity =>
      simp only [EventData.after, Option.some.injEq, Prod.mk.injEq] at hafter
      rcases hafter with ⟨hid, hfield, hvalue⟩
      subst hid hfield hvalue
      exact ⟨_, _, _, hentity, rfl, sets_state newState, iff_of_true rfl id⟩
  | entityPropertyChanged hentity _ hset =>
      simp only [EventData.after, Option.some.injEq, Prod.mk.injEq] at hafter
      rcases hafter with ⟨hid, hfield, hvalue⟩
      subst hid hfield hvalue
      refine ⟨_, _, _, hentity, rfl, sets_property hset, ?_⟩
      rw [FieldValue.property.injEq]
      exact storedProperty_eq_iff hset
  | @resourceDepleted entityId amount remaining entity hentity _ _ =>
      simp only [EventData.after, Option.some.injEq, Prod.mk.injEq] at hafter
      rcases hafter with ⟨hid, hfield, hvalue⟩
      subst hid hfield hvalue
      exact ⟨_, _, _, hentity, rfl, sets_amount remaining, iff_of_true rfl id⟩
  | entityDegraded newHealth hentity _ =>
      simp only [EventData.after, Option.some.injEq, Prod.mk.injEq] at hafter
      rcases hafter with ⟨hid, hfield, hvalue⟩
      subst hid hfield hvalue
      exact ⟨_, _, _, hentity, rfl, sets_health newHealth, iff_of_true rfl id⟩
  | _ => cases hafter

/-- An accepted event that records a value stores it exactly when the value is not
truncated. -/
theorem applyEvent_stored_iff {world next : World} {event : SimEvent} {id : EntityId}
    {field : EntityField} {value : FieldValue} (h : applyEvent world event = accept next)
    (hafter : event.data.after = some (id, field, value)) :
    HoldsValue world next event.tick id field value <-> ¬ event.data.Truncated := by
  have hlife : event.data.isLifecycle = false := by
    cases hdata : event.data <;> simp [hdata, EventData.after, EventData.isLifecycle] at hafter ⊢
  rcases (applyEvent_eq_interpreted hlife).mp h with ⟨hgate, hinterpreted⟩
  rcases hinterpreted.sets hafter with ⟨found, f, stored, hfound, hentities, hsets, hstored⟩
  rw [advanceTo_entities] at hfound hentities
  have hentity : next.entities[id]? = some (f found) := by
    rw [hentities, BTreeMap.getElem?_modify, if_pos rfl, hfound, Option.map_some]
  constructor
  · intro hall
    rcases hall.entity with ⟨_, entity, _, hthere, hread, _⟩
    rw [hentity] at hthere
    rw [← Option.some.inj hthere, hsets.read] at hread
    exact hstored.mp (Option.some.inj hread)
  · intro hfits
    have hread : field.read (f found) = some value := by
      rw [hsets.read, hstored.mpr hfits]
    refine ⟨⟨found, f found, hfound, hentity, hread, hsets.other found, hsets.keeps found⟩, ?_, ?_⟩
    · intro other hne
      rw [hentities, BTreeMap.getElem?_modify, if_neg (Ne.symm hne)]
    · intro following htick hbefore
      have hclock : following.tick = next.currentTick := by
        rw [htick, hinterpreted.kept.currentTick, advanceTo_currentTick (gateEvent_tick hgate)]
      have hsome : following.data.before ≠ none := by
        rw [hbefore]
        exact Option.some_ne_none _
      rw [exists_congr fun _ => applyEvent_iff_of_before hclock hsome]
      exact interpreted_iff_of_before hentity hread hbefore

def quarry : World :=
  (World.new "Vale" ⟨7⟩).addEntity
    (Entity.new ⟨1⟩ .resource WorldPos.origin Tick.zero ⟨none, some 5, none⟩)

def amountChanged (oldAmount newAmount : UInt64) : SimEvent :=
  ⟨⟨4⟩, Tick.zero, .entityPropertyChanged ⟨1⟩ "amount" (.uint oldAmount) (.uint newAmount)⟩

theorem applyEvent_stored_iff_quarry :
    exists next : World, applyEvent quarry (amountChanged 5 3) = accept next ∧
      HoldsValue quarry next Tick.zero ⟨1⟩ (.property "amount") (.property (.uint 3)) := by
  refine ⟨_, rfl, ?_⟩
  apply (@applyEvent_stored_iff quarry _ (amountChanged 5 3) _ _ _ rfl rfl).mpr
  rintro ⟨_, hlarge⟩
  exact absurd hlarge (by decide)

/-- The amount `2 ^ 32` is stored as `0`, and the event that goes on from it is refused. -/
theorem amount_truncated :
    exists next : World, applyEvent quarry (amountChanged 5 4294967296) = accept next ∧
      (next.entities[(⟨1⟩ : EntityId)]?.map fun e => e.properties.amount) = some (some 0) ∧
      ¬ HoldsValue quarry next Tick.zero ⟨1⟩ (.property "amount") (.property (.uint 4294967296)) ∧
      applyEvent next (amountChanged 4294967296 7) =
        refuse "EntityPropertyChanged old_value mismatch for E1.amount: event old UInt(4294967296), current UInt(0)" := by
  refine ⟨_, rfl, by decide +kernel, ?_, rfl⟩
  intro h
  rcases h.entity with ⟨_, entity, _, hentity, hread, _⟩
  cases hentity
  revert hread
  decide

end Seej
