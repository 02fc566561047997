import Seej.CommandLemmas

/-!
# What a tick does not read

A change of the engine that the rules of a tick neither read nor undo may be made
before the tick or after it.  The events that are already pending are such a change,
and so are the fields of the metadata that only recovery reads.
-/

namespace Seej

open Foundation

namespace TickState

variable {R : Type}

/-- A change that commutes with every step of a tick. -/
structure Unread (change : TickState R -> TickState R) : Prop where
  rng : forall st : TickState R, (change st).rng = st.rng
  entities : forall st : TickState R, (change st).world.entities = st.world.entities
  currentTick : forall st : TickState R,
    (change st).world.currentTick = st.world.currentTick
  drawn : forall (st : TickState R) (rng : R),
    { change st with rng := rng } = change { st with rng := rng }
  updated : forall (st : TickState R) (id : EntityId) (f : Entity -> Entity),
    { change st with world := (change st).world.updateEntity id f } =
      change { st with world := st.world.updateEntity id f }
  removed : forall (st : TickState R) (id : EntityId),
    ((change st).world.removeEntity id).map (fun found => { change st with world := found.2 }) =
      (st.world.removeEntity id).map fun found => change { st with world := found.2 }
  pushed : forall (st : TickState R) (data : EventData),
    (change st).push data = change (st.push data)

/-- A change that commutes with what a step of a tick does to a visible entity. -/
structure UnreadAt (visible : EntityId -> Prop) (change : TickState R -> TickState R) :
    Prop where
  rng : forall st : TickState R, (change st).rng = st.rng
  lookup : forall (st : TickState R) (id : EntityId), visible id ->
    (change st).world.entities[id]? = st.world.entities[id]?
  drawn : forall (st : TickState R) (rng : R),
    { change st with rng := rng } = change { st with rng := rng }
  updated : forall (st : TickState R) (id : EntityId) (f : Entity -> Entity), visible id ->
    { change st with world := (change st).world.updateEntity id f } =
      change { st with world := st.world.updateEntity id f }
  removed : forall (st : TickState R) (id : EntityId), visible id ->
    ((change st).world.removeEntity id).map (fun found => { change st with world := found.2 }) =
      (st.world.removeEntity id).map fun found => change { st with world := found.2 }
  pushed : forall (st : TickState R) (data : EventData),
    (change st).push data = change (st.push data)

theorem Unread.at {change : TickState R -> TickState R} (h : Unread change) :
    UnreadAt (fun _ => True) change := by
  constructor
  case rng => exact h.rng
  case lookup =>
    intro st id _
    rw [h.entities]
  case drawn => exact h.drawn
  case updated => exact fun st id f _ => h.updated st id f
  case removed => exact fun st id _ => h.removed st id
  case pushed => exact h.pushed

namespace UnreadAt

variable {visible : EntityId -> Prop} {change : TickState R -> TickState R}
  (h : UnreadAt visible change) (st : TickState R) {entityId : EntityId}
  (hid : visible entityId)

include h hid

theorem kill : (change st).kill entityId = change (st.kill entityId) := by
  unfold TickState.kill
  rw [h.lookup _ _ hid]
  cases st.world.entities[entityId]? with
  | none => rfl
  | some entity => rw [← h.pushed, ← h.updated _ _ _ hid]

theorem worn (rng : R) (f : Entity -> Entity) (data : EventData) :
    ({ change st with
        rng := rng
        world := (change st).world.updateEntity entityId f } : TickState R).push data =
      change (({ st with rng := rng, world := st.world.updateEntity entityId f } :
        TickState R).push data) := by
  have hdrawn := h.updated { st with rng := rng } entityId f hid
  rw [← h.drawn] at hdrawn
  rw [← h.pushed, ← hdrawn]

theorem kill_if (c : Prop) [Decidable c] :
    (if c then (change st).kill entityId else change st) =
      change (if c then st.kill entityId else st) := by
  split
  · exact h.kill st hid
  · rfl

variable [IRng R]

theorem depleteResource (amount : UInt32) :
    (change st).depleteResource entityId amount =
      change (st.depleteResource entityId amount) := by
  unfold TickState.depleteResource
  rw [h.rng]
  split
  · cases IRng.chance st.rng depletionChance with
    | mk hit rng =>
        cases hit with
        | false => exact h.drawn st rng
        | true =>
            simp only [h.worn _ hid]
            exact h.kill_if _ hid _
  · rfl

theorem degradeCreature (health : UInt32) :
    (change st).degradeCreature entityId health =
      change (st.degradeCreature entityId health) := by
  unfold TickState.degradeCreature
  rw [h.rng]
  split
  · cases IRng.chance st.rng degradationChance with
    | mk hit rng =>
        cases hit with
        | false => exact h.drawn st rng
        | true =>
            simp only [h.lookup _ _ hid]
            cases st.world.entities[entityId]? with
            | none =>
                simp only [h.drawn]
                exact h.kill_if _ hid _
            | some entity =>
                simp only [h.worn _ hid]
                exact h.kill_if _ hid _
  · rfl

theorem applyRule (entity : Entity) :
    (change st).applyRule entityId entity = change (st.applyRule entityId entity) := by
  unfold TickState.applyRule
  split
  · split
    · exact h.depleteResource st hid _
    · rfl
  · split
    · exact h.degradeCreature st hid _
    · rfl
  · rfl

omit hid [IRng R] in
theorem removeDead {ids : List EntityId} (hids : forall id : EntityId, id ∈ ids -> visible id) :
    TickState.removeDead ids (change st) = change (TickState.removeDead ids st) := by
  induction ids generalizing st with
  | nil => rfl
  | cons id rest ih =>
      have hrest : forall other : EntityId, other ∈ rest -> visible other :=
        fun other hmem => hids other (List.mem_cons_of_mem _ hmem)
      unfold TickState.removeDead
      have hremoved := h.removed st id (hids id List.mem_cons_self)
      cases hfound : st.world.removeEntity id with
      | none =>
          rw [hfound] at hremoved
          rw [Option.map_eq_none_iff.mp hremoved]
          exact ih st hrest
      | some found =>
          rcases found with ⟨entity, world⟩
          rw [hfound] at hremoved
          rcases Option.map_eq_some_iff.mp hremoved with ⟨⟨entity', world'⟩, hfound', heq⟩
          rw [hfound']
          simp only at heq ⊢
          rw [heq, h.pushed]
          exact ih _ hrest

end UnreadAt

namespace Unread

variable {change : TickState R -> TickState R} (h : Unread change) (st : TickState R)
  [IRng R]

include h

theorem processEntities (entityIds : List EntityId) (processed : UInt32) :
    TickState.processEntities entityIds processed (change st) =
      (TickState.processEntities entityIds processed st).map fun (count, st) =>
        (count, change st) := by
  induction entityIds generalizing processed st with
  | nil => rfl
  | cons entityId rest ih =>
      unfold TickState.processEntities
      rw [h.entities]
      cases st.world.entities[entityId]? with
      | none => exact ih st processed
      | some entity =>
          cases hcount : checkedSucc32 processed with
          | none => simp
          | some count =>
              simp only [bind, Option.bind, h.at.applyRule st trivial]
              exact ih _ count

omit [IRng R] in
theorem cleanUp : (change st).cleanUp = change st.cleanUp := by
  unfold TickState.cleanUp
  rw [h.currentTick, h.entities]
  split
  · exact h.at.removeDead st fun _ _ => trivial
  · rfl

theorem runTickSystems :
    (change st).runTickSystems =
      st.runTickSystems.map fun (count, st) => (count, change st) := by
  unfold TickState.runTickSystems
  simp only [h.entities, h.processEntities]
  cases TickState.processEntities (((BTreeMap.values st.world.entities).filter Entity.isActive).map
      Entity.id) 0 st with
  | none => rfl
  | some result =>
      rcases result with ⟨count, after⟩
      show some (count, (change after).cleanUp) = some (count, _)
      rw [h.cleanUp]

end Unread

/-!
## What a tick keeps
-/

/-- A property of worlds that the two ways in which a tick changes a world keep. -/
structure KeptByTicks (P : World -> Prop) : Prop where
  updated : forall (world : World) (id : EntityId) (f : Entity -> Entity),
    (forall entity : Entity, (f entity).id = entity.id ∧
      (f entity).position = entity.position) -> P world -> P (world.updateEntity id f)
  removed : forall (world next : World) (id : EntityId) (entity : Entity),
    world.removeEntity id = some (entity, next) -> P world -> P next

namespace KeptByTicks

variable {P : World -> Prop} (hkept : KeptByTicks P) {st : TickState R} (hst : P st.world)

include hkept hst

theorem kill (entityId : EntityId) : P (st.kill entityId).world := by
  unfold TickState.kill
  split
  · exact hkept.updated _ _ _ (fun _ => ⟨rfl, rfl⟩) hst
  · exact hst

theorem kill_if (entityId : EntityId) (c : Prop) [Decidable c] :
    P (if c then st.kill entityId else st).world := by
  split
  · exact hkept.kill hst entityId
  · exact hst

variable [IRng R]

theorem depleteResource (entityId : EntityId) (amount : UInt32) :
    P (st.depleteResource entityId amount).world := by
  unfold TickState.depleteResource
  split
  · split
    · refine hkept.kill_if ?_ entityId _
      exact hkept.updated _ _ _ (fun _ => ⟨rfl, rfl⟩) hst
    · exact hst
  · exact hst

theorem degradeCreature (entityId : EntityId) (health : UInt32) :
    P (st.degradeCreature entityId health).world := by
  unfold TickState.degradeCreature
  split
  · split
    · refine hkept.kill_if ?_ entityId _
      split
      · exact hkept.updated _ _ _ (fun _ => ⟨rfl, rfl⟩) hst
      · exact hst
    · exact hst
  · exact hst

theorem applyRule (entityId : EntityId) (entity : Entity) :
    P (st.applyRule entityId entity).world := by
  unfold TickState.applyRule
  split
  · split
    · exact hkept.depleteResource hst entityId _
    · exact hst
  · split
    · exact hkept.degradeCreature hst entityId _
    · exact hst
  · exact hst

theorem processEntities {ids : List EntityId} {count processed : UInt32} {next : TickState R}
    (h : TickState.processEntities ids count st = some (processed, next)) : P next.world := by
  induction ids generalizing count st with
  | nil =>
      cases h
      exact hst
  | cons entityId rest ih =>
      unfold TickState.processEntities at h
      split at h
      · exact ih hst h
      · rename_i entity _
        rcases Option.bind_eq_some_iff.mp h with ⟨succ, _, hrest⟩
        exact ih (hkept.applyRule hst entityId entity) hrest

omit [IRng R] in
theorem removeDead (ids : List EntityId) : P (TickState.removeDead ids st).world := by
  induction ids generalizing st with
  | nil => exact hst
  | cons id rest ih =>
      unfold TickState.removeDead
      split
      · rename_i entity world hremove
        have hnext : P (({ st with world := world } : TickState R).push
            (.entityDespawned id .death)).world := hkept.removed _ _ _ _ hremove hst
        exact ih hnext
      · exact ih hst

omit [IRng R] in
theorem cleanUp : P st.cleanUp.world := by
  unfold TickState.cleanUp
  split
  · exact hkept.removeDead hst _
  · exact hst

end KeptByTicks

end TickState

end Seej
