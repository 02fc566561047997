import Seej.World

/-!
# World integrity

The entity map, the per-zone index, the identifier allocator and the copies of
the clock are maintained by separate operations.  `WorldIntegrity` says that
they agree, in the terms of the checks made when a snapshot is decoded, and each
operation on a world is shown to keep it.
-/

namespace Seej

open Foundation

structure WorldIntegrity (world : World) : Prop where
  entity_key : forall (id : EntityId) (entity : Entity),
    world.entities[id]? = some entity -> entity.id = id
  entity_valid : forall (id : EntityId) (entity : Entity),
    world.entities[id]? = some entity -> id.val ≠ 0
  entity_below : forall (id : EntityId) (entity : Entity),
    world.entities[id]? = some entity -> id.val < world.nextEntityId
  next_valid : world.nextEntityId ≠ 0
  zone_key : forall (zoneId : ZoneId) (zone : Zone),
    world.zones[zoneId]? = some zone -> zone.id = zoneId
  entity_zone : forall (id : EntityId) (entity : Entity),
    world.entities[id]? = some entity ->
      exists zone : Zone, world.zones[entity.position.zone]? = some zone
  zone_nodup : forall (zoneId : ZoneId) (zone : Zone),
    world.zones[zoneId]? = some zone -> zone.entities.Nodup
  zone_index : forall (zoneId : ZoneId) (zone : Zone),
    world.zones[zoneId]? = some zone -> forall id : EntityId,
      id ∈ zone.entities <->
        exists entity : Entity,
          world.entities[id]? = some entity ∧ entity.position.zone = zoneId
  sim_time : world.simTime = SimTime.fromTicks world.currentTick
  meta_tick : world.worldMeta.currentTick = world.currentTick
  meta_time : world.worldMeta.simTime = world.simTime

namespace WorldIntegrity

/-!
## Genesis
-/

theorem new (name : String) (seed : RngSeed) : WorldIntegrity (World.new name seed) := by
  have hentities : forall id : EntityId, (World.new name seed).entities[id]? = none := by
    intro id
    simp [World.new]
  have hzones : forall (zoneId : ZoneId) (zone : Zone),
      (World.new name seed).zones[zoneId]? = some zone ->
        zoneId = ZoneId.origin ∧ zone = Zone.new ZoneId.origin (some "Origin") := by
    intro zoneId zone h
    simp only [World.new, BTreeMap.getElem?_insert] at h
    split at h
    · rename_i hzone
      exact ⟨hzone.symm, (Option.some_inj.mp h).symm⟩
    · simp at h
  constructor
  case entity_key | entity_valid | entity_below | entity_zone =>
    intro id entity h
    rw [hentities] at h
    cases h
  case next_valid => exact (by decide : (1 : UInt64) ≠ 0)
  case zone_key =>
    intro zoneId zone h
    rcases hzones zoneId zone h with ⟨hid, hzone⟩
    rw [hid, hzone]
    rfl
  case zone_nodup =>
    intro zoneId zone h
    rw [(hzones zoneId zone h).right]
    exact List.nodup_nil
  case zone_index =>
    intro zoneId zone h id
    rw [(hzones zoneId zone h).right]
    constructor
    · intro hmem
      cases hmem
    · intro hex
      rcases hex with ⟨entity, hentity, _⟩
      rw [hentities] at hentity
      cases hentity
  case sim_time | meta_tick | meta_time => rfl

/-!
## Operations that leave the indexes alone
-/

theorem setClock {world : World} (h : WorldIntegrity world) (tick : Tick) :
    WorldIntegrity (world.setClock tick) :=
  { h with sim_time := rfl, meta_tick := rfl, meta_time := rfl }

theorem setRngState {world : World} (h : WorldIntegrity world) (state : UInt64) :
    WorldIntegrity { world with rngState := state } :=
  { h with }

theorem raiseNextEntityId {world : World} (h : WorldIntegrity world) {next : UInt64}
    (hle : world.nextEntityId ≤ next) :
    WorldIntegrity { world with nextEntityId := next } :=
  { h with
    entity_below := fun id entity hid =>
      UInt64.lt_of_lt_of_le (h.entity_below id entity hid) hle
    next_valid := by
      intro hzero
      apply h.next_valid
      change next = 0 at hzero
      rw [hzero] at hle
      exact UInt64.le_zero_iff.mp hle }

theorem updateEntity {world : World} (h : WorldIntegrity world) (id : EntityId)
    {f : Entity -> Entity}
    (hf : forall e : Entity, world.entities[id]? = some e ->
      (f e).id = e.id ∧ (f e).position.zone = e.position.zone) :
    WorldIntegrity (world.updateEntity id f) := by
  -- every entity found after the update comes from one found before it
  have hback : forall (other : EntityId) (entity : Entity),
      (world.updateEntity id f).entities[other]? = some entity ->
        exists old : Entity, world.entities[other]? = some old ∧
          entity.id = old.id ∧ entity.position.zone = old.position.zone := by
    intro other entity hother
    rw [World.updateEntity_getElem?] at hother
    split at hother
    · rename_i heq
      subst heq
      rcases Option.map_eq_some_iff.mp hother with ⟨old, hold, hfold⟩
      subst hfold
      exact ⟨old, hold, (hf old hold).left, (hf old hold).right⟩
    · exact ⟨entity, hother, rfl, rfl⟩
  have hforth : forall (other : EntityId) (old : Entity),
      world.entities[other]? = some old ->
        exists entity : Entity, (world.updateEntity id f).entities[other]? = some entity ∧
          entity.position.zone = old.position.zone := by
    intro other old hold
    rw [World.updateEntity_getElem?, hold]
    split
    · rename_i heq
      subst heq
      exact ⟨f old, rfl, (hf old hold).right⟩
    · exact ⟨old, rfl, rfl⟩
  exact
    { h with
      entity_key := by
        intro other entity hother
        rcases hback other entity hother with ⟨old, hold, hkey, _⟩
        rw [hkey]
        exact h.entity_key other old hold
      entity_valid := by
        intro other entity hother
        rcases hback other entity hother with ⟨old, hold, _, _⟩
        exact h.entity_valid other old hold
      entity_below := by
        intro other entity hother
        rcases hback other entity hother with ⟨old, hold, _, _⟩
        exact h.entity_below other old hold
      entity_zone := by
        intro other entity hother
        rcases hback other entity hother with ⟨old, hold, _, hz⟩
        rw [hz]
        exact h.entity_zone other old hold
      zone_index := by
        intro zoneId zone hz other
        rw [h.zone_index zoneId zone hz other]
        constructor
        · intro hex
          rcases hex with ⟨old, hold, hpos⟩
          rcases hforth other old hold with ⟨entity, hentity, heq⟩
          exact ⟨entity, hentity, heq.trans hpos⟩
        · intro hex
          rcases hex with ⟨entity, hentity, hpos⟩
          rcases hback other entity hentity with ⟨old, hold, _, heq⟩
          exact ⟨old, hold, heq.symm.trans hpos⟩ }

theorem updateZone {world : World} (h : WorldIntegrity world) (id : ZoneId)
    {f : Zone -> Zone} (hid : forall z, (f z).id = z.id)
    (hentities : forall z, (f z).entities = z.entities) :
    WorldIntegrity (world.updateZone id f) := by
  have hback : forall (other : ZoneId) (zone : Zone),
      (world.updateZone id f).zones[other]? = some zone ->
        exists old : Zone, world.zones[other]? = some old ∧
          zone.id = old.id ∧ zone.entities = old.entities := by
    intro other zone hother
    rw [World.updateZone_getElem?] at hother
    split at hother
    · rcases Option.map_eq_some_iff.mp hother with ⟨old, hold, hf⟩
      subst hf
      exact ⟨old, hold, hid old, hentities old⟩
    · exact ⟨zone, hother, rfl, rfl⟩
  exact
    { h with
      zone_key := by
        intro other zone hother
        rcases hback other zone hother with ⟨old, hold, hkey, _⟩
        rw [hkey]
        exact h.zone_key other old hold
      entity_zone := by
        intro other entity hother
        rcases h.entity_zone other entity hother with ⟨zone, hzone⟩
        rw [World.updateZone_getElem?, hzone]
        split
        · exact ⟨f zone, rfl⟩
        · exact ⟨zone, rfl⟩
      zone_nodup := by
        intro other zone hother
        rcases hback other zone hother with ⟨old, hold, _, hlist⟩
        rw [hlist]
        exact h.zone_nodup other old hold
      zone_index := by
        intro other zone hother entityId
        rcases hback other zone hother with ⟨old, hold, _, hlist⟩
        rw [hlist]
        exact h.zone_index other old hold entityId }

theorem addZone {world : World} (h : WorldIntegrity world) (zoneId : ZoneId)
    (name : Option String) (hnew : world.zones[zoneId]? = none) :
    WorldIntegrity (world.addZone (Zone.new zoneId name)) := by
  have hback : forall (other : ZoneId) (zone : Zone),
      (world.addZone (Zone.new zoneId name)).zones[other]? = some zone ->
        (other = zoneId ∧ zone = Zone.new zoneId name) ∨
          world.zones[other]? = some zone := by
    intro other zone hother
    rw [World.addZone_getElem?] at hother
    split at hother
    · rename_i heq
      exact Or.inl ⟨heq.symm, (Option.some_inj.mp hother).symm⟩
    · exact Or.inr hother
  have hempty : forall (id : EntityId) (entity : Entity),
      world.entities[id]? = some entity -> entity.position.zone ≠ zoneId := by
    intro id entity hid heq
    rcases h.entity_zone id entity hid with ⟨zone, hzone⟩
    rw [heq, hnew] at hzone
    cases hzone
  exact
    { h with
      zone_key := by
        intro other zone hother
        rcases hback other zone hother with ⟨heq, hzone⟩ | hold
        · rw [heq, hzone]
          rfl
        · exact h.zone_key other zone hold
      entity_zone := by
        intro id entity hid
        rcases h.entity_zone id entity hid with ⟨zone, hzone⟩
        rw [World.addZone_getElem?, if_neg (fun heq => hempty id entity hid heq.symm)]
        exact ⟨zone, hzone⟩
      zone_nodup := by
        intro other zone hother
        rcases hback other zone hother with ⟨_, hzone⟩ | hold
        · rw [hzone]
          exact List.nodup_nil
        · exact h.zone_nodup other zone hold
      zone_index := by
        intro other zone hother id
        rcases hback other zone hother with ⟨heq, hzone⟩ | hold
        · rw [heq, hzone]
          constructor
          · intro hmem
            cases hmem
          · intro hex
            rcases hex with ⟨entity, hentity, hpos⟩
            exact absurd hpos (hempty id entity hentity)
        · exact h.zone_index other zone hold id }

/-!
## Operations that move entities between indexes
-/

theorem addEntity {world : World} (h : WorldIntegrity world) (entity : Entity)
    (hfresh : world.entities[entity.id]? = none) (hvalid : entity.id.val ≠ 0)
    (hbelow : entity.id.val < world.nextEntityId) {zone : Zone}
    (hzone : world.zones[entity.position.zone]? = some zone) :
    WorldIntegrity (world.addEntity entity) := by
  have hentity : forall (id : EntityId) (found : Entity),
      (world.addEntity entity).entities[id]? = some found ->
        (id = entity.id ∧ found = entity) ∨ world.entities[id]? = some found := by
    intro id found hid
    rw [World.addEntity_getElem?] at hid
    split at hid
    · rename_i heq
      exact Or.inl ⟨heq.symm, (Option.some_inj.mp hid).symm⟩
    · exact Or.inr hid
  have hzones : forall (zoneId : ZoneId) (found : Zone),
      (world.addEntity entity).zones[zoneId]? = some found ->
        exists old : Zone, world.zones[zoneId]? = some old ∧
          found = if entity.position.zone = zoneId then old.addEntity entity.id else old := by
    intro zoneId found hid
    rw [World.addEntity_zones_getElem?] at hid
    split at hid
    · rcases Option.map_eq_some_iff.mp hid with ⟨old, hold, hf⟩
      rename_i heq
      exact ⟨old, hold, by rw [if_pos heq, hf]⟩
    · rename_i hne
      exact ⟨found, hid, by rw [if_neg hne]⟩
  exact
    { h with
      entity_key := by
        intro id found hid
        rcases hentity id found hid with ⟨heq, hfound⟩ | hold
        · rw [hfound, heq]
        · exact h.entity_key id found hold
      entity_valid := by
        intro id found hid
        rcases hentity id found hid with ⟨heq, _⟩ | hold
        · rw [heq]
          exact hvalid
        · exact h.entity_valid id found hold
      entity_below := by
        intro id found hid
        rcases hentity id found hid with ⟨heq, _⟩ | hold
        · rw [heq]
          exact hbelow
        · exact h.entity_below id found hold
      zone_key := by
        intro zoneId found hid
        rcases hzones zoneId found hid with ⟨old, hold, hfound⟩
        rw [hfound]
        split
        · rw [Zone.addEntity_id]
          exact h.zone_key zoneId old hold
        · exact h.zone_key zoneId old hold
      entity_zone := by
        intro id found hid
        have hex : exists old : Zone, world.zones[found.position.zone]? = some old := by
          rcases hentity id found hid with ⟨_, hfound⟩ | hold
          · rw [hfound]
            exact ⟨zone, hzone⟩
          · exact h.entity_zone id found hold
        rcases hex with ⟨old, hold⟩
        rw [World.addEntity_zones_getElem?, hold]
        split
        · exact ⟨old.addEntity entity.id, rfl⟩
        · exact ⟨old, rfl⟩
      zone_nodup := by
        intro zoneId found hid
        rcases hzones zoneId found hid with ⟨old, hold, hfound⟩
        rw [hfound]
        split
        · exact Zone.nodup_addEntity _ (h.zone_nodup zoneId old hold)
        · exact h.zone_nodup zoneId old hold
      zone_index := by
        intro zoneId found hid id
        rcases hzones zoneId found hid with ⟨old, hold, hfound⟩
        have hindex := h.zone_index zoneId old hold id
        rw [hfound, World.addEntity_getElem?]
        by_cases hpos : entity.position.zone = zoneId
        · rw [if_pos hpos, Zone.mem_addEntity, hindex]
          by_cases hnew : entity.id = id
          · simp [hnew, hpos]
          · simp [hnew, Ne.symm hnew]
        · rw [if_neg hpos, hindex]
          by_cases hnew : entity.id = id
          · subst hnew
            simp [hfresh, hpos]
          · simp [hnew] }

theorem removeEntity {world next : World} (h : WorldIntegrity world) {id : EntityId}
    {entity : Entity} (hremove : world.removeEntity id = some (entity, next)) :
    WorldIntegrity next := by
  rcases World.removeEntity_eq_some hremove with ⟨hentity, hnext⟩
  subst hnext
  have hentities : forall (other : EntityId) (found : Entity),
      (world.entities.erase id)[other]? = some found ->
        id ≠ other ∧ world.entities[other]? = some found := by
    intro other found hother
    rw [BTreeMap.getElem?_erase] at hother
    split at hother
    · cases hother
    · rename_i hne
      exact ⟨hne, hother⟩
  have hzones : forall (zoneId : ZoneId) (found : Zone),
      (world.zones.modify entity.position.zone
          (fun zone => zone.removeEntity id))[zoneId]? = some found ->
        exists old : Zone, world.zones[zoneId]? = some old ∧
          found = if entity.position.zone = zoneId then old.removeEntity id else old := by
    intro zoneId found hid
    rw [BTreeMap.getElem?_modify] at hid
    split at hid
    · rcases Option.map_eq_some_iff.mp hid with ⟨old, hold, hf⟩
      rename_i heq
      exact ⟨old, hold, by rw [if_pos heq, hf]⟩
    · rename_i hne
      exact ⟨found, hid, by rw [if_neg hne]⟩
  exact
    { h with
      entity_key := by
        intro other found hother
        exact h.entity_key other found (hentities other found hother).right
      entity_valid := by
        intro other found hother
        exact h.entity_valid other found (hentities other found hother).right
      entity_below := by
        intro other found hother
        exact h.entity_below other found (hentities other found hother).right
      zone_key := by
        intro zoneId found hid
        rcases hzones zoneId found hid with ⟨old, hold, hfound⟩
        rw [hfound]
        split
        · exact h.zone_key zoneId old hold
        · exact h.zone_key zoneId old hold
      entity_zone := by
        intro other found hother
        rcases h.entity_zone other found (hentities other found hother).right with ⟨old, hold⟩
        change exists zone : Zone, (world.zones.modify entity.position.zone
          (fun zone => zone.removeEntity id))[found.position.zone]? = some zone
        rw [BTreeMap.getElem?_modify, hold]
        split
        · exact ⟨old.removeEntity id, rfl⟩
        · exact ⟨old, rfl⟩
      zone_nodup := by
        intro zoneId found hid
        rcases hzones zoneId found hid with ⟨old, hold, hfound⟩
        rw [hfound]
        split
        · exact Zone.nodup_removeEntity _ (h.zone_nodup zoneId old hold)
        · exact h.zone_nodup zoneId old hold
      zone_index := by
        intro zoneId found hid other
        rcases hzones zoneId found hid with ⟨old, hold, hfound⟩
        have hindex := h.zone_index zoneId old hold other
        rw [hfound]
        change other ∈ _ <-> exists e : Entity,
          (world.entities.erase id)[other]? = some e ∧ e.position.zone = zoneId
        rw [BTreeMap.getElem?_erase]
        by_cases hpos : entity.position.zone = zoneId
        · rw [if_pos hpos, Zone.mem_removeEntity, hindex]
          by_cases hother : id = other
          · simp [hother]
          · simp [hother, Ne.symm hother]
        · rw [if_neg hpos, hindex]
          by_cases hother : id = other
          · subst hother
            simp [hentity, hpos]
          · simp [hother] }

end WorldIntegrity

/-!
## Moving an entity between zones
-/

/-- Between two zones, a move is a removal followed by an insertion. -/
theorem World.move_eq_remove_add {world : World} {id : EntityId} {entity : Entity}
    (hkey : entity.id = id) (hentity : world.entities[id]? = some entity)
    (target : WorldPos) :
    exists removed : World, world.removeEntity id = some (entity, removed) ∧
      ((world.updateZone entity.position.zone (fun zone => zone.removeEntity id)).updateZone
          target.zone (fun zone => zone.addEntity id)).updateEntity id
          (fun e => { e with position := target }) =
        removed.addEntity { entity with position := target } := by
  have hremove : world.removeEntity id = some (entity,
      { world with
        entities := world.entities.erase id
        zones := world.zones.modify entity.position.zone
          (fun zone => zone.removeEntity id) }) := by
    simp only [World.removeEntity, hentity]
  refine ⟨_, hremove, ?_⟩
  have hentities : world.entities.modify id (fun e => { e with position := target }) =
      (world.entities.erase id).insert entity.id { entity with position := target } := by
    apply Std.ExtTreeMap.ext_getElem?
    intro other
    rw [BTreeMap.getElem?_modify, BTreeMap.getElem?_insert, BTreeMap.getElem?_erase]
    by_cases heq : id = other
    · rw [if_pos heq, if_pos (hkey.trans heq), ← heq, hentity]
      rfl
    · rw [if_neg heq, if_neg (fun h => heq (hkey.symm.trans h)), if_neg heq]
  simp only [World.updateEntity, World.updateZone, World.addEntity, hentities, hkey]

theorem WorldIntegrity.moveEntity {world : World} (h : WorldIntegrity world)
    {id : EntityId} {entity : Entity} (hentity : world.entities[id]? = some entity)
    {target : WorldPos} {zone : Zone} (htarget : world.zones[target.zone]? = some zone)
    (hzone : entity.position.zone ≠ target.zone) :
    WorldIntegrity
      (((world.updateZone entity.position.zone (fun z => z.removeEntity id)).updateZone
        target.zone (fun z => z.addEntity id)).updateEntity id
        (fun e => { e with position := target })) := by
  have hkey := h.entity_key id entity hentity
  rcases World.move_eq_remove_add hkey hentity target with ⟨removed, hremove, hmove⟩
  rw [hmove]
  have hremoved := World.removeEntity_eq_some hremove
  have hnone : removed.entities[entity.id]? = none := by
    rw [hremoved.right, hkey]
    change (world.entities.erase id)[id]? = none
    rw [BTreeMap.getElem?_erase, if_pos rfl]
  have hthere : removed.zones[target.zone]? = some zone := by
    rw [hremoved.right]
    change (world.zones.modify entity.position.zone
      (fun z => z.removeEntity id))[target.zone]? = some zone
    rw [BTreeMap.getElem?_modify, if_neg hzone, htarget]
  have hnext : removed.nextEntityId = world.nextEntityId := by
    rw [hremoved.right]
  apply (h.removeEntity hremove).addEntity { entity with position := target } hnone
    (hkey ▸ h.entity_valid id entity hentity) _ hthere
  rw [hnext]
  exact hkey ▸ h.entity_below id entity hentity

end Seej
