import Mathlib.Logic.Relation
import Seej.Simulation
import Seej.ReplayIntegrity
import Seej.ReplayRun

/-!
# The journal of a tick

The tick rules and the event applier are two interpreters of one world.
`Journaled` relates the engine before and after a part of a tick: the events that
were pushed replay the world, and the generator moved by draws alone.  It is
closed under composition, so the whole tick follows from its single pushes.
-/

namespace Seej

open Foundation

/-!
## Generators moved by draws
-/

/-- The second generator is reached from the first by calls to `chance`. -/
def Draws {R : Type} [IRng R] : R -> R -> Prop :=
  Relation.ReflTransGen (fun before after =>
    exists probability : F32, after = (IRng.chance before probability).2)

theorem Draws.chance {R : Type} [IRng R] {rng after : R} {probability : F32} {hit : Bool}
    (h : IRng.chance rng probability = (hit, after)) : Draws rng after :=
  Relation.ReflTransGen.single ⟨probability, by rw [h]⟩

theorem Draws.invariant {R : Type} [IRng R] {P : R -> Prop}
    (hstep : forall (rng : R) (probability : F32), P rng -> P (IRng.chance rng probability).2)
    {before after : R} (h : Draws before after) (hbefore : P before) : P after := by
  induction h with
  | refl =>
      exact hbefore
  | tail _ hlast ih =>
      rcases hlast with ⟨probability, heq⟩
      rw [heq]
      exact hstep _ probability ih

/-!
## Events of a tick
-/

def EventData.isSystemic : EventData -> Bool
  | .resourceDepleted _ _ _ => true
  | .entityDegraded _ _ _ => true
  | .entityStateChanged _ _ _ => true
  | .entityDespawned _ reason => reason = .death
  | _ => false

theorem EventData.not_lifecycle_of_systemic {data : EventData}
    (h : data.isSystemic = true) : data.isLifecycle = false := by
  cases data <;> simp [isSystemic, isLifecycle] at h ⊢

theorem EventData.not_spawnsInvalid_of_systemic {data : EventData}
    (h : data.isSystemic = true) : ¬ data.spawnsInvalid := by
  cases data <;> simp [isSystemic, spawnsInvalid] at h ⊢

theorem applyEvent_systemic {world : World} {data : EventData}
    (h : data.isSystemic = true) :
    applyEvent world (SimEvent.new world.currentTick data) =
      interpretEvent world (SimEvent.new world.currentTick data) := by
  have hgate : gateEvent world (SimEvent.new world.currentTick data) = .ok () := by
    cases data <;> simp [EventData.isSystemic, gateEvent, SimEvent.new] at h ⊢
  rw [applyEvent_of_not_lifecycle (EventData.not_lifecycle_of_systemic h), applyGated, hgate]
  change interpretEvent (advanceTo world world.currentTick) _ = _
  rw [advanceTo_self]

def World.activeEntities (world : World) : List Entity :=
  (BTreeMap.values world.entities).filter Entity.isActive

/-!
## Journals
-/

namespace TickState

variable {R : Type} [IRng R]

/-- The events explain what the engine did to the world. -/
structure Journals (st next : TickState R) (events : List SimEvent) : Prop where
  pending : next.pendingEvents = st.pendingEvents ++ events
  replays : Replays st.world events next.world
  tick : next.world.currentTick = st.world.currentTick
  systemic : forall event : SimEvent, event ∈ events ->
    event.tick = st.world.currentTick ∧ event.data.isSystemic = true
  draws : Draws st.rng next.rng

/-- A part of a tick that journals what it does. -/
def Journaled (st next : TickState R) : Prop :=
  exists events : List SimEvent, Journals st next events

namespace Journaled

theorem draw (st : TickState R) {rng : R} (h : Draws st.rng rng) :
    Journaled st { st with rng := rng } :=
  ⟨[], {
    pending := (List.append_nil _).symm
    replays := Replays.nil _
    tick := rfl
    systemic := by
      intro event hmem
      cases hmem
    draws := h }⟩

theorem refl (st : TickState R) : Journaled st st :=
  draw st Relation.ReflTransGen.refl

theorem trans {first second third : TickState R} (hleft : Journaled first second)
    (hright : Journaled second third) : Journaled first third := by
  rcases hleft with ⟨left, hleft⟩
  rcases hright with ⟨right, hright⟩
  exact ⟨left ++ right, {
    pending := by rw [hright.pending, hleft.pending, List.append_assoc]
    replays := hleft.replays.append hright.replays
    tick := hright.tick.trans hleft.tick
    systemic := by
      intro event h
      rcases List.mem_append.mp h with hmem | hmem
      · exact hleft.systemic event hmem
      · rw [← hleft.tick]
        exact hright.systemic event hmem
    draws := hleft.draws.trans hright.draws }⟩

/-- Pushing the event that explains the new world. -/
theorem push (st : TickState R) (world : World) (data : EventData)
    (hsystemic : data.isSystemic = true) (htick : world.currentTick = st.world.currentTick)
    (happly : interpretEvent st.world (SimEvent.new st.world.currentTick data) =
      accept world) :
    Journaled st ({ st with world := world }.push data) :=
  ⟨[SimEvent.new st.world.currentTick data], {
    pending := by
      change st.pendingEvents ++ [SimEvent.new world.currentTick data] = _
      rw [htick]
    replays := Replays.single ((applyEvent_systemic hsystemic).trans happly)
    tick := htick
    systemic := by
      intro event h
      rw [List.mem_singleton.mp h]
      exact ⟨rfl, hsystemic⟩
    draws := Relation.ReflTransGen.refl }⟩

end Journaled

/-!
## The wear of an entity

The rule of a resource and the rule of a creature are the same rule of another field.
-/

def worn (st : TickState R) (rng : R) (entityId : EntityId) (f : Entity -> Entity)
    (data : EventData) : TickState R :=
  ({ st with rng := rng, world := st.world.updateEntity entityId f } : TickState R).push data

def wearBy (st : TickState R) (chance : F32) (entityId : EntityId) (value : UInt32)
    (f : Entity -> Entity) (data : EventData) : TickState R :=
  if value > 0 then
    match IRng.chance st.rng chance with
    | (true, rng) =>
        let st := st.worn rng entityId f data
        if value - 1 = 0 then st.kill entityId else st
    | (false, rng) => { st with rng := rng }
  else st

theorem depleteResource_eq (st : TickState R) (entityId : EntityId) (amount : UInt32) :
    st.depleteResource entityId amount =
      st.wearBy depletionChance entityId amount (fun e =>
        { e with properties := { e.properties with amount := some (amount - 1) } })
        (.resourceDepleted entityId 1 (amount - 1)) :=
  rfl

theorem degradeCreature_eq (st : TickState R) {entityId : EntityId} {entity : Entity}
    (hentity : st.world.entities[entityId]? = some entity) (health : UInt32) :
    st.degradeCreature entityId health =
      st.wearBy degradationChance entityId health (fun e =>
        { e with properties := { e.properties with health := some (health - 1) } })
        (.entityDegraded entityId health (health - 1)) := by
  unfold degradeCreature
  simp only [hentity]
  rfl

/-!
## The rules journal what they change
-/

theorem kill_journaled (st : TickState R) (entityId : EntityId) :
    Journaled st (st.kill entityId) := by
  unfold kill
  cases hentity : st.world.entities[entityId]? with
  | none =>
      exact Journaled.refl st
  | some entity =>
      exact Journaled.push st _ (.entityStateChanged entityId entity.state .dead) rfl rfl
        (applyEntityStateChanged_iff.mpr ⟨entity, hentity, rfl, rfl⟩)

theorem kill_if_journaled (st : TickState R) (entityId : EntityId) (c : Prop)
    [Decidable c] : Journaled st (if c then st.kill entityId else st) := by
  split
  · exact kill_journaled st entityId
  · exact Journaled.refl st

theorem toNat_pred {n : UInt32} (h : n > 0) :
    (n - 1).toNat + 1 = n.toNat ∧ n - 1 + 1 = n := by
  have hpos : 0 < n.toNat := UInt32.lt_iff_toNat_lt.mp h
  have hone : (1 : UInt32).toNat = 1 := rfl
  have hle : (1 : UInt32) ≤ n := by
    rw [UInt32.le_iff_toNat_le, hone]
    exact hpos
  have hsub : (n - 1).toNat = n.toNat - 1 := by
    rw [UInt32.toNat_sub_of_le _ _ hle, hone]
  exact ⟨by omega, UInt32.sub_add_cancel n 1⟩

theorem wearBy_journaled (st : TickState R) (chance : F32) {entityId : EntityId}
    {value : UInt32} {f : Entity -> Entity} {data : EventData}
    (hsystemic : data.isSystemic = true)
    (hexplain : value > 0 ->
      interpretEvent st.world (SimEvent.new st.world.currentTick data) =
        accept (st.world.updateEntity entityId f)) :
    Journaled st (st.wearBy chance entityId value f data) := by
  unfold wearBy
  split
  · rename_i hpos
    split
    · rename_i rng hdraw
      have hmoved := Journaled.draw st (Draws.chance hdraw)
      have hpush := Journaled.push { st with rng := rng } _ data hsystemic (by rfl)
        (hexplain hpos)
      exact (hmoved.trans hpush).trans (kill_if_journaled _ entityId _)
    · rename_i rng hdraw
      exact Journaled.draw st (Draws.chance hdraw)
  · exact Journaled.refl st

theorem depleteResource_journaled (st : TickState R) {entityId : EntityId} {entity : Entity}
    {amount : UInt32} (hentity : st.world.entities[entityId]? = some entity)
    (hamount : entity.properties.amount = some amount) :
    Journaled st (st.depleteResource entityId amount) := by
  rw [depleteResource_eq]
  apply wearBy_journaled st depletionChance rfl
  intro hpos
  have hone : (1 : UInt32).toNat = 1 := rfl
  have hlt : amount.toNat < UInt32.size := amount.toNat_lt
  refine applyResourceDepleted_iff.mpr ⟨entity, hentity, ?_, ?_, rfl⟩
  · rw [hone, (toNat_pred hpos).left]
    exact hlt
  · rw [(toNat_pred hpos).right]
    exact hamount

theorem degradeCreature_journaled (st : TickState R) {entityId : EntityId} {entity : Entity}
    {health : UInt32} (hentity : st.world.entities[entityId]? = some entity)
    (hhealth : entity.properties.health = some health) :
    Journaled st (st.degradeCreature entityId health) := by
  rw [degradeCreature_eq st hentity]
  apply wearBy_journaled st degradationChance rfl
  intro _
  exact applyEntityDegraded_iff.mpr ⟨entity, hentity, hhealth, rfl⟩

theorem applyRule_journaled (st : TickState R) {entityId : EntityId} {entity : Entity}
    (hentity : st.world.entities[entityId]? = some entity) :
    Journaled st (st.applyRule entityId entity) := by
  unfold applyRule
  split
  · split
    · rename_i amount hamount
      exact depleteResource_journaled st hentity hamount
    · exact Journaled.refl st
  · split
    · rename_i health hhealth
      exact degradeCreature_journaled st hentity hhealth
    · exact Journaled.refl st
  · exact Journaled.refl st

theorem processEntities_cons {entityId : EntityId} {rest : List EntityId}
    {count processed : UInt32} {st next : TickState R}
    (h : processEntities (entityId :: rest) count st = some (processed, next)) :
    (st.world.entities[entityId]? = none ∧
      processEntities rest count st = some (processed, next)) ∨
    exists (entity : Entity) (succ : UInt32), st.world.entities[entityId]? = some entity ∧
      processEntities rest succ (st.applyRule entityId entity) = some (processed, next) := by
  unfold processEntities at h
  split at h
  · rename_i hnone
    exact Or.inl ⟨hnone, h⟩
  · rename_i entity hentity
    rcases Option.bind_eq_some_iff.mp h with ⟨succ, _, hrest⟩
    exact Or.inr ⟨entity, succ, hentity, hrest⟩

theorem processEntities_journaled {ids : List EntityId} {count processed : UInt32}
    {st next : TickState R} (h : processEntities ids count st = some (processed, next)) :
    Journaled st next := by
  induction ids generalizing count st with
  | nil =>
      cases h
      exact Journaled.refl _
  | cons entityId rest ih =>
      rcases processEntities_cons h with ⟨_, hrest⟩ | ⟨entity, succ, hentity, hrest⟩
      · exact ih hrest
      · exact (applyRule_journaled st hentity).trans (ih hrest)

theorem removeDead_journaled (ids : List EntityId) (st : TickState R) :
    Journaled st (removeDead ids st) := by
  induction ids generalizing st with
  | nil =>
      exact Journaled.refl st
  | cons id rest ih =>
      unfold removeDead
      split
      · rename_i entity world hremove
        have htick : world.currentTick = st.world.currentTick := by
          rw [(World.removeEntity_eq_some hremove).right]
        have hpush := Journaled.push st world (.entityDespawned id .death) rfl htick
          (applyEntityDespawned_iff.mpr ⟨entity, hremove⟩)
        exact hpush.trans (ih _)
      · exact ih st

theorem cleanUp_journaled (st : TickState R) : Journaled st st.cleanUp := by
  unfold cleanUp
  split
  · exact removeDead_journaled _ st
  · exact Journaled.refl st

/-- The loop over the active entities, and the cleanup after it. -/
theorem runTickSystems_eq (st : TickState R) :
    st.runTickSystems =
      (processEntities (st.world.activeEntities.map Entity.id) 0 st).map fun (processed, st) =>
        (processed, st.cleanUp) := by
  show (processEntities (st.world.activeEntities.map Entity.id) 0 st).bind _ = _
  cases processEntities (st.world.activeEntities.map Entity.id) 0 st <;> rfl

theorem runTickSystems_eq_some {st next : TickState R} {processed : UInt32}
    (h : st.runTickSystems = some (processed, next)) :
    exists middle : TickState R,
      processEntities (st.world.activeEntities.map Entity.id) 0 st = some (processed, middle) ∧
        next = middle.cleanUp := by
  rw [runTickSystems_eq] at h
  rcases Option.map_eq_some_iff.mp h with ⟨⟨count, middle⟩, hloop, heq⟩
  rcases Prod.mk.inj heq with ⟨hcount, hnext⟩
  rw [← hcount]
  exact ⟨middle, hloop, hnext.symm⟩

theorem runTickSystems_journaled {st next : TickState R} {processed : UInt32}
    (h : st.runTickSystems = some (processed, next)) : Journaled st next := by
  rcases runTickSystems_eq_some h with ⟨middle, hloop, hnext⟩
  rw [hnext]
  exact (processEntities_journaled hloop).trans (cleanUp_journaled middle)

end TickState

end Seej
