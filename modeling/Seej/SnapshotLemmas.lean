import Seej.Integrity
import Seej.Snapshot

/-!
# What decoding accepts

The validation of a snapshot succeeds exactly on the coherent ones: the current
format, a snapshot tick equal to the clock, and world integrity.  A world with
these properties survives encoding and decoding unchanged.
-/

namespace Seej

open Foundation

namespace WorldSnapshotDto

/-!
## Copies
-/

theorem toWorld_fromWorld (world : World) : (fromWorld world).toWorld = world := by
  have hentities := BTreeMap.map_map_eq_self world.entities EntityDto.fromEntity
    EntityDto.toEntity (fun _ => rfl)
  have hzones := BTreeMap.map_map_eq_self world.zones ZoneDto.fromZone
    ZoneDto.toZone (fun _ => rfl)
  simp only [toWorld, fromWorld, hentities, hzones]

theorem toWorld_entities (snapshot : WorldSnapshotDto) (id : EntityId) :
    snapshot.toWorld.entities[id]? = (snapshot.entities[id]?).map EntityDto.toEntity :=
  Std.ExtTreeMap.getElem?_map

theorem toWorld_zones (snapshot : WorldSnapshotDto) (zoneId : ZoneId) :
    snapshot.toWorld.zones[zoneId]? = (snapshot.zones[zoneId]?).map ZoneDto.toZone :=
  Std.ExtTreeMap.getElem?_map

/-!
## Identifiers
-/

theorem foldl_max_lt {ids : List UInt64} {start bound : UInt64} :
    ids.foldl (fun largest id => if largest < id then id else largest) start < bound <->
      start < bound ∧ forall id : UInt64, id ∈ ids -> id < bound := by
  induction ids generalizing start with
  | nil => simp
  | cons id rest ih =>
      rw [List.foldl_cons, ih, List.forall_mem_cons]
      split
      · rename_i hlt
        constructor
        · intro h
          exact ⟨UInt64.lt_trans hlt h.left, h.left, h.right⟩
        · intro h
          exact h.right
      · rename_i hge
        constructor
        · intro h
          exact ⟨h.left, UInt64.lt_of_le_of_lt (UInt64.not_lt.mp hge) h.left, h.right⟩
        · intro h
          exact ⟨h.left, h.right.right⟩

theorem validateEntityIds_eq_ok {snapshot : WorldSnapshotDto} :
    snapshot.validateEntityIds = .ok () <->
      snapshot.nextEntityId ≠ 0 ∧
        forall (id : EntityId) (entity : EntityDto), snapshot.entities[id]? = some entity ->
          id.val < snapshot.nextEntityId ∧ entity.id = id ∧ id.val ≠ 0 := by
  unfold validateEntityIds
  rw [check_bind_eq_ok, ensure_eq_ok, check_bind_eq_ok, ensure_eq_ok, checkAll_eq_ok,
    UInt64.not_le, maxEntityId, foldl_max_lt]
  simp only [check_bind_eq_ok, ensure_eq_ok, List.forall_mem_map,
    Std.ExtTreeMap.mem_keys, Prod.forall, Std.ExtTreeMap.mem_toList_iff_getElem?_eq_some]
  constructor
  · intro h
    rcases h with ⟨hzero, ⟨_, hbelow⟩, hentries⟩
    refine ⟨hzero, ?_⟩
    intro id entity hfound
    rcases hentries id entity hfound with ⟨hkey, hvalid⟩
    refine ⟨?_, hkey.symm, ?_⟩
    · exact hbelow id ((BTreeMap.mem_iff _ _).mpr ⟨entity, hfound⟩)
    · simpa [EntityId.isValid] using hvalid
  · intro h
    rcases h with ⟨hzero, hentries⟩
    refine ⟨hzero, ⟨UInt64.pos_iff_ne_zero.mpr hzero, ?_⟩, ?_⟩
    · intro id hmem
      rcases (BTreeMap.mem_iff _ _).mp hmem with ⟨entity, hfound⟩
      exact (hentries id entity hfound).left
    · intro id entity hfound
      rcases hentries id entity hfound with ⟨_, hkey, hvalid⟩
      exact ⟨hkey.symm, by simpa [EntityId.isValid] using hvalid⟩

theorem validateZoneIds_eq_ok {snapshot : WorldSnapshotDto} :
    snapshot.validateZoneIds = .ok () <->
      forall (zoneId : ZoneId) (zone : ZoneDto),
        snapshot.zones[zoneId]? = some zone -> zone.id = zoneId := by
  unfold validateZoneIds
  rw [checkAll_eq_ok]
  simp only [ensure_eq_ok, Prod.forall, Std.ExtTreeMap.mem_toList_iff_getElem?_eq_some]
  constructor
  · intro h zoneId zone hfound
    exact (h zoneId zone hfound).symm
  · intro h zoneId zone hfound
    exact (h zoneId zone hfound).symm

/-!
## The zone index
-/

theorem expectedIn_insert (expected : BTreeMap ZoneId (BTreeSet EntityId))
    (zoneId other : ZoneId) (ids : BTreeSet EntityId) :
    expectedIn (expected.insert zoneId ids) other =
      if zoneId = other then ids else expectedIn expected other := by
  unfold expectedIn
  rw [BTreeMap.getElem?_insert]
  split <;> rfl

theorem expectedIn_erase (expected : BTreeMap ZoneId (BTreeSet EntityId))
    (zoneId other : ZoneId) :
    expectedIn (expected.erase zoneId) other =
      if zoneId = other then ∅ else expectedIn expected other := by
  unfold expectedIn
  rw [BTreeMap.getElem?_erase]
  split <;> rfl

theorem expectedIn_empty (zoneId : ZoneId) :
    expectedIn (∅ : BTreeMap ZoneId (BTreeSet EntityId)) zoneId = ∅ := by
  simp [expectedIn]

/-- The index of a list of entities extends the one it starts from, and every
zone it names exists. -/
theorem expectedByZone_eq_ok {snapshot : WorldSnapshotDto}
    {entries : List (EntityId × EntityDto)}
    {expected result : BTreeMap ZoneId (BTreeSet EntityId)}
    (h : expectedByZone snapshot entries expected = .ok result) :
    (forall entry : EntityId × EntityDto, entry ∈ entries ->
      entry.2.position.zone ∈ snapshot.zones) ∧
    (forall zoneId : ZoneId, zoneId ∈ result -> zoneId ∈ expected ∨ zoneId ∈ snapshot.zones) ∧
    (forall (zoneId : ZoneId) (id : EntityId), id ∈ expectedIn result zoneId <->
      id ∈ expectedIn expected zoneId ∨
        exists entry : EntityId × EntityDto, entry ∈ entries ∧ entry.1 = id ∧
          entry.2.position.zone = zoneId) := by
  induction entries generalizing expected with
  | nil =>
      cases h
      simp only [List.not_mem_nil, false_and, exists_false, or_false, false_implies,
        implies_true, true_and, and_true]
      exact fun _ hkey => Or.inl hkey
  | cons entry rest ih =>
      rcases entry with ⟨entityId, entity⟩
      rw [expectedByZone, check_bind_eq_ok, ensure_eq_ok] at h
      rcases h with ⟨hzone, hrest⟩
      rcases ih hrest with ⟨hzones, hkeys, hmem⟩
      refine ⟨?_, ?_, ?_⟩
      · intro entry hentry
        rcases List.mem_cons.mp hentry with heq | hlater
        · rw [heq]
          exact hzone
        · exact hzones entry hlater
      · intro zoneId hkey
        rcases hkeys zoneId hkey with hinsert | hin
        · rcases Std.ExtTreeMap.mem_insert.mp hinsert with heq | hold
          · rw [← Std.LawfulEqOrd.eq_of_compare heq]
            exact Or.inr hzone
          · exact Or.inl hold
        · exact Or.inr hin
      · intro zoneId id
        rw [hmem, expectedIn_insert]
        by_cases hsame : entity.position.zone = zoneId
        · rw [if_pos hsame, BTreeSet.mem_insert, hsame]
          simp [hsame, or_assoc, or_left_comm, eq_comm]
        · rw [if_neg hsame]
          simp [hsame]

theorem expectedByZone_of_zones {snapshot : WorldSnapshotDto}
    {entries : List (EntityId × EntityDto)}
    (h : forall entry : EntityId × EntityDto, entry ∈ entries ->
      entry.2.position.zone ∈ snapshot.zones)
    (expected : BTreeMap ZoneId (BTreeSet EntityId)) :
    exists result : BTreeMap ZoneId (BTreeSet EntityId),
      expectedByZone snapshot entries expected = .ok result := by
  induction entries generalizing expected with
  | nil =>
      exact ⟨expected, rfl⟩
  | cons entry rest ih =>
      rcases entry with ⟨entityId, entity⟩
      have hhead := h _ List.mem_cons_self
      have htail := fun e he => h e (List.mem_cons_of_mem _ he)
      rcases ih htail (expected.insert entity.position.zone
        ((expectedIn expected entity.position.zone).insert entityId)) with ⟨result, hresult⟩
      refine ⟨result, ?_⟩
      rw [expectedByZone, check_bind_eq_ok, ensure_eq_ok]
      exact ⟨hhead, hresult⟩

theorem actualEntities_eq_ok {snapshot : WorldSnapshotDto} {zoneId : ZoneId}
    {ids : List EntityId} {actual result : BTreeSet EntityId} :
    actualEntities snapshot zoneId ids actual = .ok result <->
      ids.Nodup ∧
      (forall id : EntityId, id ∈ ids -> id ∉ actual ∧
        exists entity : EntityDto, snapshot.entities[id]? = some entity ∧
          entity.position.zone = zoneId) ∧
      (forall id : EntityId, id ∈ result <-> id ∈ actual ∨ id ∈ ids) := by
  induction ids generalizing actual with
  | nil =>
      simp only [actualEntities, Except.ok.injEq, List.nodup_nil, List.not_mem_nil, or_false,
        true_and, false_implies, implies_true]
      constructor
      · intro h
        rw [h]
        exact fun _ => Iff.rfl
      · intro h
        exact Std.ExtTreeSet.ext_mem (fun id => (h id).symm)
  | cons id rest ih =>
      rw [actualEntities, check_bind_eq_ok, ensure_eq_ok, List.nodup_cons, List.forall_mem_cons]
      cases hentity : snapshot.entities[id]? with
      | none => simp
      | some entity =>
          simp only [check_bind_eq_ok, ensure_eq_ok, ih, BTreeSet.mem_insert, List.mem_cons,
            Option.some.injEq, exists_eq_left']
          constructor
          · intro h
            rcases h with ⟨hfresh, hpos, hnodup, hrest, hresult⟩
            refine ⟨⟨?_, hnodup⟩, ⟨⟨hfresh, hpos⟩, ?_⟩, ?_⟩
            · intro hmem
              exact (hrest id hmem).left (Or.inl rfl)
            · intro other hmem
              have hother := hrest other hmem
              exact ⟨fun hin => hother.left (Or.inr hin), hother.right⟩
            · intro other
              rw [hresult other]
              grind
          · intro h
            rcases h with ⟨⟨hnew, hnodup⟩, ⟨⟨hfresh, hpos⟩, hrest⟩, hresult⟩
            refine ⟨hfresh, hpos, hnodup, ?_, ?_⟩
            · intro other hmem
              have hother := hrest other hmem
              refine ⟨?_, hother.right⟩
              intro hin
              rcases hin with heq | hin
              · rw [heq] at hmem
                exact hnew hmem
              · exact hother.left hin
            · intro other
              rw [hresult other]
              grind

def IndexesZone (snapshot : WorldSnapshotDto) (zoneId : ZoneId) (zone : ZoneDto) : Prop :=
  zone.entities.Nodup ∧ forall id : EntityId, id ∈ zone.entities <->
    exists entity : EntityDto, snapshot.entities[id]? = some entity ∧
      entity.position.zone = zoneId

theorem actualEntities_expected {snapshot : WorldSnapshotDto} {zoneId : ZoneId}
    {zone : ZoneDto} {expected : BTreeSet EntityId}
    (hexpected : forall id : EntityId, id ∈ expected <->
      exists entity : EntityDto, snapshot.entities[id]? = some entity ∧
        entity.position.zone = zoneId) :
    actualEntities snapshot zoneId zone.entities ∅ = .ok expected <->
      snapshot.IndexesZone zoneId zone := by
  rw [actualEntities_eq_ok, IndexesZone]
  constructor
  · intro h
    refine ⟨h.left, ?_⟩
    intro id
    rw [← hexpected id, h.right.right id]
    simp
  · intro h
    refine ⟨h.left, ?_, ?_⟩
    · intro id hmem
      exact ⟨by simp, (h.right id).mp hmem⟩
    · intro id
      rw [hexpected id, h.right id]
      simp

/-- Each zone is compared with its own set, since the keys are distinct, and is
then taken out of the index. -/
theorem checkZones_eq_ok {snapshot : WorldSnapshotDto} {entries : List (ZoneId × ZoneDto)}
    (hdistinct : entries.Pairwise (fun a b => a.1 ≠ b.1))
    {expected : BTreeMap ZoneId (BTreeSet EntityId)}
    (hexpected : forall entry : ZoneId × ZoneDto, entry ∈ entries ->
      forall id : EntityId, id ∈ expectedIn expected entry.1 <->
        exists entity : EntityDto, snapshot.entities[id]? = some entity ∧
          entity.position.zone = entry.1)
    {result : BTreeMap ZoneId (BTreeSet EntityId)} :
    checkZones snapshot entries expected = .ok result <->
      (forall entry : ZoneId × ZoneDto, entry ∈ entries ->
        snapshot.IndexesZone entry.1 entry.2) ∧
      result = entries.foldl (fun index entry => index.erase entry.1) expected := by
  induction entries generalizing expected with
  | nil => simp [checkZones, eq_comm]
  | cons entry rest ih =>
      rcases entry with ⟨zoneId, zone⟩
      rcases List.pairwise_cons.mp hdistinct with ⟨hhead, htail⟩
      have hlater : forall later : ZoneId × ZoneDto, later ∈ rest ->
          forall id : EntityId, id ∈ expectedIn (expected.erase zoneId) later.1 <->
            exists entity : EntityDto, snapshot.entities[id]? = some entity ∧
              entity.position.zone = later.1 := by
        intro later hmem id
        rw [expectedIn_erase, if_neg (hhead later hmem)]
        exact hexpected later (List.mem_cons_of_mem _ hmem) id
      have hzone : actualEntities snapshot zoneId zone.entities ∅ =
          .ok (expectedIn expected zoneId) <-> snapshot.IndexesZone zoneId zone :=
        actualEntities_expected (hexpected (zoneId, zone) List.mem_cons_self)
      rw [checkZones, bind_eq_ok, List.forall_mem_cons, List.foldl_cons]
      constructor
      · intro h
        rcases h with ⟨actual, hactual, hrest⟩
        rw [check_bind_eq_ok, ensure_eq_ok, ih htail hlater] at hrest
        rw [hrest.left, hzone] at hactual
        exact ⟨⟨hactual, hrest.right.left⟩, hrest.right.right⟩
      · intro h
        refine ⟨_, hzone.mpr h.left.left, ?_⟩
        rw [check_bind_eq_ok, ensure_eq_ok, ih htail hlater]
        exact ⟨rfl, h.left.right, h.right⟩

theorem mem_foldl_erase {entries : List (ZoneId × ZoneDto)} {zoneId : ZoneId}
    {expected : BTreeMap ZoneId (BTreeSet EntityId)} :
    zoneId ∈ entries.foldl (fun index entry => index.erase entry.1) expected <->
      zoneId ∈ expected ∧ forall entry : ZoneId × ZoneDto, entry ∈ entries ->
        entry.1 ≠ zoneId := by
  induction entries generalizing expected with
  | nil => simp
  | cons entry rest ih =>
      rw [List.foldl_cons, ih, List.forall_mem_cons, Std.ExtTreeMap.mem_erase,
        Ne, Std.LawfulEqCmp.compare_eq_iff_eq]
      constructor
      · intro h
        exact ⟨h.left.right, h.left.left, h.right⟩
      · intro h
        exact ⟨⟨h.right.left, h.left⟩, h.right.right⟩

theorem validateZoneEntityIndex_eq_ok {snapshot : WorldSnapshotDto} :
    snapshot.validateZoneEntityIndex = .ok () <->
      (forall (id : EntityId) (entity : EntityDto), snapshot.entities[id]? = some entity ->
        entity.position.zone ∈ snapshot.zones) ∧
      (forall (zoneId : ZoneId) (zone : ZoneDto), snapshot.zones[zoneId]? = some zone ->
        snapshot.IndexesZone zoneId zone) := by
  -- the index built from all entities, whenever the first loop succeeds
  have hindex : forall expected : BTreeMap ZoneId (BTreeSet EntityId),
      expectedByZone snapshot snapshot.entities.toList ∅ = .ok expected ->
        (forall zoneId : ZoneId, zoneId ∈ expected -> zoneId ∈ snapshot.zones) ∧
        forall (zoneId : ZoneId) (id : EntityId), id ∈ expectedIn expected zoneId <->
          exists entity : EntityDto, snapshot.entities[id]? = some entity ∧
            entity.position.zone = zoneId := by
    intro expected h
    rcases expectedByZone_eq_ok h with ⟨_, hkeys, hmem⟩
    refine ⟨?_, ?_⟩
    · intro zoneId hkey
      rcases hkeys zoneId hkey with hempty | hzone
      · simp at hempty
      · exact hzone
    · intro zoneId id
      rw [hmem, expectedIn_empty]
      simp [Std.ExtTreeMap.mem_toList_iff_getElem?_eq_some]
  have hdistinct := BTreeMap.toList_nodup_keys snapshot.zones
  unfold validateZoneEntityIndex
  rw [bind_eq_ok]
  constructor
  · intro h
    rcases h with ⟨expected, hexpected, hrest⟩
    rcases bind_eq_ok.mp hrest with ⟨remaining, hcheck, _⟩
    have hmem := (hindex expected hexpected).right
    rw [checkZones_eq_ok hdistinct (fun entry _ => hmem entry.1)] at hcheck
    refine ⟨?_, ?_⟩
    · intro id entity hfound
      exact (expectedByZone_eq_ok hexpected).left (id, entity)
        (Std.ExtTreeMap.mem_toList_iff_getElem?_eq_some.mpr hfound)
    · intro zoneId zone hfound
      exact hcheck.left (zoneId, zone)
        (Std.ExtTreeMap.mem_toList_iff_getElem?_eq_some.mpr hfound)
  · intro h
    rcases h with ⟨hzones, hindexes⟩
    have hentries : forall entry : EntityId × EntityDto, entry ∈ snapshot.entities.toList ->
        entry.2.position.zone ∈ snapshot.zones := by
      intro entry hentry
      exact hzones entry.1 entry.2 (Std.ExtTreeMap.mem_toList_iff_getElem?_eq_some.mp hentry)
    rcases expectedByZone_of_zones hentries ∅ with ⟨expected, hexpected⟩
    have hmem := (hindex expected hexpected).right
    refine ⟨expected, hexpected, ?_⟩
    rw [bind_eq_ok]
    refine ⟨_, (checkZones_eq_ok hdistinct (fun entry _ => hmem entry.1)).mpr
      ⟨?_, rfl⟩, ?_⟩
    · intro entry hentry
      exact hindexes entry.1 entry.2 (Std.ExtTreeMap.mem_toList_iff_getElem?_eq_some.mp hentry)
    · -- every key of the index is the key of a zone, so nothing is left
      have hnone : snapshot.zones.toList.foldl (fun index entry => index.erase entry.1)
          expected = ∅ := by
        apply Std.ExtTreeMap.eq_empty_iff_forall_not_mem.mpr
        intro zoneId hleft
        rcases mem_foldl_erase.mp hleft with ⟨hkey, hall⟩
        rcases (BTreeMap.mem_iff _ _).mp ((hindex expected hexpected).left zoneId hkey) with
          ⟨zone, hfound⟩
        exact hall (zoneId, zone) (Std.ExtTreeMap.mem_toList_iff_getElem?_eq_some.mpr hfound)
          rfl
      rw [hnone, Std.ExtTreeMap.toList_eq_nil_iff.mpr rfl]

/-!
## The whole validation
-/

theorem validateSnapshot_eq_ok {snapshot : WorldSnapshotDto} :
    snapshot.validateSnapshot = .ok () <->
      snapshot.worldMeta.formatVersion = WorldMeta.currentFormatVersion ∧
      snapshot.worldMeta.snapshotTick = snapshot.currentTick ∧
      WorldIntegrity snapshot.toWorld := by
  unfold validateSnapshot
  simp only [check_bind_eq_ok, ensure_eq_ok, validateEntityIds_eq_ok, validateZoneIds_eq_ok,
    validateZoneEntityIndex_eq_ok]
  constructor
  · rintro ⟨hformat, hmeta, hsnapshot, htime, hsim, ⟨hnext, hids⟩, hzoneIds, hzones, hindex⟩
    refine ⟨hformat, hsnapshot, ?_⟩
    have hentity : forall (id : EntityId) (entity : Entity),
        snapshot.toWorld.entities[id]? = some entity ->
          exists dto : EntityDto, snapshot.entities[id]? = some dto ∧
            dto.toEntity = entity := by
      intro id entity h
      rw [toWorld_entities] at h
      exact Option.map_eq_some_iff.mp h
    have hzone : forall (zoneId : ZoneId) (zone : Zone),
        snapshot.toWorld.zones[zoneId]? = some zone ->
          exists dto : ZoneDto, snapshot.zones[zoneId]? = some dto ∧ dto.toZone = zone := by
      intro zoneId zone h
      rw [toWorld_zones] at h
      exact Option.map_eq_some_iff.mp h
    constructor
    case entity_key =>
      intro id entity h
      rcases hentity id entity h with ⟨dto, hdto, heq⟩
      rw [← heq]
      exact (hids id dto hdto).right.left
    case entity_valid =>
      intro id entity h
      rcases hentity id entity h with ⟨dto, hdto, _⟩
      exact (hids id dto hdto).right.right
    case entity_below =>
      intro id entity h
      rcases hentity id entity h with ⟨dto, hdto, _⟩
      exact (hids id dto hdto).left
    case next_valid => exact hnext
    case zone_key =>
      intro zoneId zone h
      rcases hzone zoneId zone h with ⟨dto, hdto, heq⟩
      rw [← heq]
      exact hzoneIds zoneId dto hdto
    case entity_zone =>
      intro id entity h
      rcases hentity id entity h with ⟨dto, hdto, heq⟩
      rcases (BTreeMap.mem_iff _ _).mp (hzones id dto hdto) with ⟨zone, hfound⟩
      rw [← heq, toWorld_zones]
      exact ⟨zone.toZone, Option.map_eq_some_iff.mpr ⟨zone, hfound, rfl⟩⟩
    case zone_nodup =>
      intro zoneId zone h
      rcases hzone zoneId zone h with ⟨dto, hdto, heq⟩
      rw [← heq]
      exact (hindex zoneId dto hdto).left
    case zone_index =>
      intro zoneId zone h id
      rcases hzone zoneId zone h with ⟨dto, hdto, heq⟩
      rw [← heq]
      refine ((hindex zoneId dto hdto).right id).trans ?_
      simp only [toWorld_entities, Option.map_eq_some_iff, exists_exists_and_eq_and]
      rfl
    case sim_time => exact hsim
    case meta_tick => exact hmeta
    case meta_time => exact htime
  · rintro ⟨hformat, hsnapshot, h⟩
    have hentity : forall (id : EntityId) (dto : EntityDto),
        snapshot.entities[id]? = some dto ->
          snapshot.toWorld.entities[id]? = some dto.toEntity := by
      intro id dto hdto
      rw [toWorld_entities, hdto]
      rfl
    have hzone : forall (zoneId : ZoneId) (dto : ZoneDto),
        snapshot.zones[zoneId]? = some dto ->
          snapshot.toWorld.zones[zoneId]? = some dto.toZone := by
      intro zoneId dto hdto
      rw [toWorld_zones, hdto]
      rfl
    refine ⟨hformat, h.meta_tick, hsnapshot, h.meta_time, h.sim_time, ⟨h.next_valid, ?_⟩,
      ?_, ?_, ?_⟩
    · intro id dto hdto
      have hfound := hentity id dto hdto
      exact ⟨h.entity_below id _ hfound, h.entity_key id _ hfound,
        h.entity_valid id _ hfound⟩
    · intro zoneId dto hdto
      exact h.zone_key zoneId _ (hzone zoneId dto hdto)
    · intro id dto hdto
      rcases h.entity_zone id _ (hentity id dto hdto) with ⟨zone, hfound⟩
      rw [toWorld_zones] at hfound
      rcases Option.map_eq_some_iff.mp hfound with ⟨zoneDto, hzoneDto, _⟩
      exact (BTreeMap.mem_iff _ _).mpr ⟨zoneDto, hzoneDto⟩
    · intro zoneId dto hdto
      refine ⟨h.zone_nodup zoneId _ (hzone zoneId dto hdto), ?_⟩
      intro id
      refine (h.zone_index zoneId _ (hzone zoneId dto hdto) id).trans ?_
      simp only [toWorld_entities, Option.map_eq_some_iff, exists_exists_and_eq_and]
      rfl

end WorldSnapshotDto

/-!
## Worlds that a save writes
-/

/-- The worlds that decoding accepts. -/
structure Savable (world : World) : Prop where
  format : world.worldMeta.formatVersion = WorldMeta.currentFormatVersion
  snapshotTick : world.worldMeta.snapshotTick = world.currentTick
  integrity : WorldIntegrity world

section Codec

variable [SnapshotJson]

theorem decodeWorld_eq_ok {data : Bytes} {world : World} :
    decodeWorld data = .ok world <->
      exists snapshot : WorldSnapshotDto, SnapshotJson.fromSlice data = .ok snapshot ∧
        Savable snapshot.toWorld ∧ world = snapshot.toWorld := by
  unfold decodeWorld
  cases hslice : SnapshotJson.fromSlice data with
  | error e => simp
  | ok snapshot =>
      simp only [check_bind_eq_ok, WorldSnapshotDto.validateSnapshot_eq_ok, pure, Except.pure,
        Except.ok.injEq, exists_eq_left']
      constructor
      · rintro ⟨⟨hformat, htick, hintegrity⟩, hworld⟩
        exact ⟨⟨hformat, htick, hintegrity⟩, hworld.symm⟩
      · rintro ⟨hsavable, hworld⟩
        exact ⟨⟨hsavable.format, hsavable.snapshotTick, hsavable.integrity⟩, hworld.symm⟩

theorem encodeWorld_eq_ok {world : World} {data : Bytes} :
    encodeWorld world = .ok data <->
      SnapshotJson.toVec (WorldSnapshotDto.fromWorld world) = .ok data := by
  unfold encodeWorld
  cases SnapshotJson.toVec (WorldSnapshotDto.fromWorld world) with
  | error e => simp
  | ok bytes => simp

/-- Saving and loading again gives the same world. -/
theorem decodeWorld_encodeWorld [SnapshotJson.Lossless] {world : World} {data : Bytes}
    (hsavable : Savable world) (h : encodeWorld world = .ok data) :
    decodeWorld data = .ok world := by
  have hslice := SnapshotJson.Lossless.fromSlice_toVec _ _ (encodeWorld_eq_ok.mp h)
  apply decodeWorld_eq_ok.mpr
  refine ⟨_, hslice, ?_, (WorldSnapshotDto.toWorld_fromWorld world).symm⟩
  rw [WorldSnapshotDto.toWorld_fromWorld]
  exact hsavable

end Codec

end Seej
