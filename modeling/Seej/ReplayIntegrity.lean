import Seej.Integrity
import Seej.ReplayRun

/-!
# Replay and world integrity

An accepted event keeps the integrity of the world unless it spawns an entity
under one of the two identifiers that the applier does not guard against: the
reserved `0`, and the largest `u64`, whose successor overflows the allocator.
-/

namespace Seej

open Foundation

theorem WorldIntegrity.advanceTo {world : World} (h : WorldIntegrity world) (tick : Tick) :
    WorldIntegrity (advanceTo world tick) := by
  unfold Seej.advanceTo
  split
  · exact h.setClock tick
  · exact h

/-!
## Identifiers and properties of the applier
-/

theorem nextAfterSpawn_eq_some {world : World} {entityId : EntityId} {n : UInt64}
    (h : nextAfterSpawn world entityId = some n) :
    world.nextEntityId ≤ n ∧ entityId.val < n := by
  unfold nextAfterSpawn at h
  split at h
  · rename_i hge
    have hn := checkedSucc_eq_some.mp h
    rw [UInt64.le_iff_toNat_le, UInt64.lt_iff_toNat_lt]
    have hge' := UInt64.le_iff_toNat_le.mp hge
    omega
  · rename_i hlt
    cases h
    exact ⟨UInt64.le_refl _, UInt64.not_le.mp hlt⟩

theorem nextAfterSpawn_eq_none {world : World} {entityId : EntityId} :
    nextAfterSpawn world entityId = none <-> entityId.val = u64Max := by
  unfold nextAfterSpawn checkedSucc
  constructor
  · intro h
    split at h
    · split at h
      · assumption
      · cases h
    · cases h
  · intro h
    have hle : world.nextEntityId ≤ u64Max := by
      have hlt := world.nextEntityId.toNat_lt
      have hmax : u64Max.toNat = 18446744073709551615 := rfl
      rw [UInt64.le_iff_toNat_le, hmax]
      omega
    rw [h, if_pos hle, if_pos rfl]

theorem setEntityProperty_keeps {property : String} {newValue : PropertyValue}
    {f : Entity -> Entity} (h : setEntityProperty property newValue = .ok f) (e : Entity) :
    (f e).id = e.id ∧ (f e).position.zone = e.position.zone := by
  unfold setEntityProperty at h
  split at h
  · split at h <;> cases h
    exact ⟨rfl, rfl⟩
  · split at h
    · split at h <;> cases h
      exact ⟨rfl, rfl⟩
    · split at h
      · split at h <;> cases h
        exact ⟨rfl, rfl⟩
      · cases h

/-!
## Accepted events
-/

/-- An `EntitySpawned` under the reserved identifier `0`. -/
def EventData.spawnsInvalid : EventData -> Prop
  | .entitySpawned entityId _ _ _ => entityId.val = 0
  | _ => False

theorem Interpreted.integrity {world next : World} {tick : Tick} {data : EventData}
    (h : Interpreted world tick data next) (hworld : WorldIntegrity world)
    (hspawn : ¬ data.spawnsInvalid) : WorldIntegrity next := by
  cases h with
  | worldCreated _ => exact hworld
  | tickProcessed _ _ state => exact hworld.setRngState state
  | zoneCreated name hnew => exact hworld.addZone _ name hnew
  | zoneRepeated _ _ _ => exact hworld
  | zoneLoaded _ => exact hworld.updateZone _ (fun _ => rfl) (fun _ => rfl)
  | zoneUnloaded _ => exact hworld.updateZone _ (fun _ => rfl) (fun _ => rfl)
  | entitySpawned kind properties hzone hfresh hnext =>
      have hbounds := nextAfterSpawn_eq_some hnext
      exact (hworld.raiseNextEntityId hbounds.left).addEntity _ hfresh hspawn hbounds.right
        hzone
  | spawnRepeated _ _ _ _ => exact hworld
  | entityDespawned _ hremove => exact hworld.removeEntity hremove
  | @entityMoved entityId target entity _ _ hentity _ htarget _ =>
      unfold moveEntity
      by_cases hsame : entity.position.zone = target.zone
      · rw [if_neg (not_not.mpr hsame)]
        apply hworld.updateEntity
        intro e he
        cases hentity.symm.trans he
        exact ⟨rfl, hsame.symm⟩
      · rw [if_pos hsame]
        exact hworld.moveEntity hentity htarget hsame
  | entityStateChanged _ _ => exact hworld.updateEntity _ (fun _ _ => ⟨rfl, rfl⟩)
  | entityPropertyChanged _ _ hset =>
      exact hworld.updateEntity _ (fun e _ => setEntityProperty_keeps hset e)
  | resourceDepleted _ _ _ => exact hworld.updateEntity _ (fun _ _ => ⟨rfl, rfl⟩)
  | entityDegraded _ _ _ => exact hworld.updateEntity _ (fun _ _ => ⟨rfl, rfl⟩)

theorem applyEvent_integrity {world next : World} {event : SimEvent}
    (h : WorldIntegrity world) (hspawn : ¬ event.data.spawnsInvalid)
    (hok : applyEvent world event = accept next) : WorldIntegrity next := by
  cases hlife : event.data.isLifecycle with
  | true =>
      rw [applyEvent_of_lifecycle hlife hok]
      exact h
  | false =>
      exact ((applyEvent_eq_interpreted hlife).mp hok).right.integrity
        (h.advanceTo event.tick) hspawn

/-- A replay that spawns nothing under the reserved identifier keeps integrity. -/
theorem Replays.integrity {world next : World} {events : List SimEvent}
    (h : Replays world events next) (hworld : WorldIntegrity world)
    (hspawn : forall event : SimEvent, event ∈ events -> ¬ event.data.spawnsInvalid) :
    WorldIntegrity next := by
  induction h with
  | nil world =>
      exact hworld
  | cons happly _ ih =>
      apply ih
      · exact applyEvent_integrity hworld (hspawn _ List.mem_cons_self) happly
      · intro event hmem
        exact hspawn event (List.mem_cons_of_mem _ hmem)

end Seej
