import Mathlib.Data.List.Perm.Subperm
import Seej.CommandLine
import Seej.Weathering

/-!
# The report of `status`

The breakdown of a world is the exact count of its entities by kind, as long as the counts
fit their `i32`.  After any ticks the counts are bounded by what the creation has spawned.
-/

namespace Seej

open Foundation

/-!
## The breakdown
-/

def kindCount (kind : EntityKind) (entities : List Entity) : Nat :=
  (entities.filter fun entity => entity.kind = kind).length

theorem kindCount_cons (kind : EntityKind) (entity : Entity) (rest : List Entity) :
    kindCount kind (entity :: rest) =
      (if entity.kind = kind then 1 else 0) + kindCount kind rest := by
  unfold kindCount
  rw [List.filter_cons]
  split
  · rename_i h
    rw [if_pos (of_decide_eq_true h), List.length_cons, Nat.add_comm]
  · rename_i h
    rw [if_neg (of_decide_eq_false (Bool.eq_false_iff.mpr h)), Nat.zero_add]

theorem kindCount_sum (entities : List Entity) :
    kindCount .resource entities + kindCount .creature entities + kindCount .item entities +
      kindCount .structure entities = entities.length := by
  induction entities with
  | nil => rfl
  | cons entity rest ih =>
      rw [List.length_cons, ← ih]
      simp only [kindCount_cons]
      cases entity.kind <;> simp only [reduceCtorEq, if_true, if_false] <;> omega

namespace Breakdown

def counter (b : Breakdown) : EntityKind -> Int32
  | .resource => b.resources
  | .creature => b.creatures
  | .item => b.items
  | .structure => b.structures

theorem ext_counter {b b' : Breakdown}
    (h : forall kind : EntityKind, (b.counter kind).toInt = (b'.counter kind).toInt) : b = b' := by
  have hsame (kind : EntityKind) : b.counter kind = b'.counter kind := Int32.toInt_inj.mp (h kind)
  cases b
  cases b'
  have hresource := hsame .resource
  have hcreature := hsame .creature
  have hitem := hsame .item
  have hstructure := hsame .structure
  simp only [counter] at hresource hcreature hitem hstructure
  rw [hresource, hcreature, hitem, hstructure]

def set (b : Breakdown) (kind : EntityKind) (n : Int32) : Breakdown :=
  match kind with
  | .resource => { b with resources := n }
  | .creature => { b with creatures := n }
  | .item => { b with items := n }
  | .structure => { b with structures := n }

theorem counter_set (b : Breakdown) (kind other : EntityKind) (n : Int32) :
    (b.set kind n).counter other = if kind = other then n else b.counter other := by
  cases kind <;> cases other <;> rfl

theorem count_eq (b : Breakdown) (kind : EntityKind) :
    b.count kind = (checkedAddI32 (b.counter kind) 1).map (b.set kind) := by
  cases kind <;> rfl

theorem count_eq_some {b next : Breakdown} {kind : EntityKind} :
    b.count kind = some next <-> forall other : EntityKind,
      (next.counter other).toInt =
        (b.counter other).toInt + if kind = other then 1 else 0 := by
  have hone : (1 : Int32).toInt = 1 := rfl
  rw [count_eq, Option.map_eq_some_iff]
  constructor
  · rintro ⟨n, hn, hnext⟩ other
    have hexact := checkedAddI32_eq_some.mp hn
    rw [← hnext, counter_set]
    split
    · rename_i hsame
      rw [hexact, hone, hsame]
    · exact (Int.add_zero _).symm
  · intro h
    have hexact := h kind
    rw [if_pos rfl, ← hone] at hexact
    refine ⟨next.counter kind, checkedAddI32_eq_some.mpr hexact, ext_counter ?_⟩
    intro other
    rw [counter_set]
    split
    · rename_i hsame
      rw [hsame]
    · rename_i hother
      rw [h other, if_neg hother, Int.add_zero]

/-- The loop ends with the exact counts, and overflows where a counter cannot hold its
own. -/
theorem countAll_eq_some {b total : Breakdown} {entities : List Entity} :
    b.countAll entities = some total <-> forall kind : EntityKind,
      (total.counter kind).toInt = (b.counter kind).toInt + kindCount kind entities := by
  induction entities generalizing b with
  | nil =>
      constructor
      · intro h kind
        cases h
        exact (Int.add_zero _).symm
      · intro h
        have hsame : b = total := ext_counter fun kind => by
          rw [h kind]
          exact (Int.add_zero _).symm
        exact congrArg some hsame
  | cons entity rest ih =>
      show (b.count entity.kind).bind _ = _ <-> _
      rw [Option.bind_eq_some_iff]
      constructor
      · rintro ⟨next, hnext, hrest⟩ kind
        rw [ih.mp hrest kind, count_eq_some.mp hnext kind, kindCount_cons]
        split <;> omega
      · intro h
        have htotal := h entity.kind
        rw [kindCount_cons, if_pos rfl] at htotal
        have hhigh := Int32.toInt_lt (total.counter entity.kind)
        have hlow := Int32.le_toInt (b.counter entity.kind)
        have hfits : FitsI32 ((b.counter entity.kind).toInt + (1 : Int32).toInt) := by
          have hone : (1 : Int32).toInt = 1 := rfl
          rw [hone]
          constructor <;> omega
        rcases checkedAddI32_exact hfits with ⟨n, hn, _⟩
        have hnext : b.count entity.kind = some (b.set entity.kind n) := by
          rw [count_eq, hn]
          rfl
        refine ⟨_, hnext, ih.mpr ?_⟩
        intro kind
        rw [h kind, count_eq_some.mp hnext kind, kindCount_cons]
        split <;> omega

end Breakdown

/-!
## The counts of a creation
-/

def spawnCount (kind : EntityKind) (spawned : List SpawnEntityCmd) : Nat :=
  (spawned.filter fun spawn => spawn.kind = kind).length

theorem spawnCount_append (kind : EntityKind) (left right : List SpawnEntityCmd) :
    spawnCount kind (left ++ right) = spawnCount kind left + spawnCount kind right := by
  unfold spawnCount
  rw [List.filter_append, List.length_append]

theorem spawnCount_placements {place : UInt32 -> Option SpawnEntityCmd} {kind : EntityKind}
    {shift : Int} (hplace : forall i : UInt32, exists cmd : SpawnEntityCmd,
      place i = some cmd ∧ Placed kind shift i cmd) (count : Nat) (other : EntityKind) :
    spawnCount other (placements place count) = if kind = other then count else 0 := by
  have hkind (cmd : SpawnEntityCmd) (hmem : cmd ∈ placements place count) : cmd.kind = kind := by
    rcases placements_mem hplace hmem with ⟨_, hplaced⟩
    exact hplaced.kind
  have hlength : (placements place count).length = count := by
    apply placements_length
    intro i
    rcases hplace i with ⟨cmd, hcmd, _⟩
    exact ⟨cmd, hcmd⟩
  unfold spawnCount
  split
  · rename_i hsame
    rw [List.filter_eq_self.mpr, hlength]
    intro cmd hmem
    exact decide_eq_true ((hkind cmd hmem).trans hsame)
  · rename_i hother
    rw [List.filter_eq_nil_iff.mpr]
    · rfl
    · intro cmd hmem hcmd
      exact hother ((hkind cmd hmem).symm.trans (of_decide_eq_true hcmd))

theorem spawnCount_initialEntities (resources creatures : UInt32) (kind : EntityKind) :
    spawnCount kind (initialEntities resources creatures) =
      (if EntityKind.resource = kind then resources.toNat else 0) +
        if EntityKind.creature = kind then creatures.toNat else 0 := by
  unfold initialEntities
  rw [spawnCount_append, spawnCount_placements resourceAt_placed,
    spawnCount_placements creatureAt_placed]

namespace Accounts

variable {spawned : List SpawnEntityCmd} {facts : List (Tick × EventData)} {world : World}

/-- No kind has more entities than were spawned of it. -/
theorem kindCount_le (h : Accounts spawned facts world) (hintegrity : WorldIntegrity world)
    (kind : EntityKind) :
    kindCount kind (BTreeMap.values world.entities) ≤ spawnCount kind spawned := by
  let ids : List EntityId := ((BTreeMap.values world.entities).filter
    fun entity => entity.kind = kind).map Entity.id
  let spawnedIds : List EntityId := (spawned.zipIdx.filter
    fun numbered => numbered.1.kind = kind).map fun numbered => ⟨UInt64.ofNat (numbered.2 + 1)⟩
  have hnodup : ids.Nodup := entityIds_nodup hintegrity _
  have hsubset : ids ⊆ spawnedIds := by
    intro id hmem
    rcases (BTreeMap.mem_keys_filter hintegrity.entity_key).mp hmem with ⟨entity, hentity, hkind⟩
    rcases h.entities id entity hentity with ⟨spawn, hspawn, hsame⟩
    unfold numbered at hspawn
    split at hspawn
    · cases hspawn
    · rename_i hne
      have hpos : 0 < id.val.toNat := by
        apply Nat.pos_of_ne_zero
        exact fun hzero => hne (UInt64.toNat_inj.mp hzero)
      apply List.mem_map.mpr
      refine ⟨(spawn, id.val.toNat - 1), List.mem_filter.mpr ⟨?_, ?_⟩, ?_⟩
      · exact List.mem_zipIdx_iff_getElem?.mpr hspawn
      · have hspawned : spawn.kind = entity.kind := hsame.kind.symm
        exact decide_eq_true (hspawned.trans (of_decide_eq_true hkind))
      · show (⟨UInt64.ofNat (id.val.toNat - 1 + 1)⟩ : EntityId) = id
        rw [Nat.sub_add_cancel hpos, UInt64.ofNat_toNat]
  have hlength : spawnedIds.length = spawnCount kind spawned := by
    have hspawns := List.filter_map (f := Prod.fst) (p := fun spawn : SpawnEntityCmd =>
      decide (spawn.kind = kind)) (l := spawned.zipIdx)
    rw [List.zipIdx_map_fst] at hspawns
    unfold spawnCount
    rw [hspawns, List.length_map, List.length_map]
    rfl
  calc
    kindCount kind (BTreeMap.values world.entities) = ids.length := (List.length_map _).symm
    _ ≤ spawnedIds.length := (hnodup.subperm hsubset).length_le
    _ = spawnCount kind spawned := hlength

theorem zoneCount (h : Accounts spawned facts world) : world.zoneCount = 1 := by
  have hkeys : forall zoneId : ZoneId, zoneId ∈ world.zones.toList.map Prod.fst <->
      zoneId = ZoneId.origin := by
    intro zoneId
    have hzone := h.zones zoneId
    constructor
    · intro hmem
      rcases List.mem_map.mp hmem with ⟨⟨key, zone⟩, hpair, hkey⟩
      have hkey' : key = zoneId := hkey
      subst hkey'
      have hthere := Std.ExtTreeMap.mem_toList_iff_getElem?_eq_some.mp hpair
      by_contra hother
      rw [hthere, if_neg hother] at hzone
      cases hzone
    · intro horigin
      rw [if_pos horigin] at hzone
      rcases Option.map_eq_some_iff.mp hzone with ⟨zone, hthere, _⟩
      exact List.mem_map.mpr
        ⟨(zoneId, zone), Std.ExtTreeMap.mem_toList_iff_getElem?_eq_some.mpr hthere, rfl⟩
  have hnodup : (world.zones.toList.map Prod.fst).Nodup :=
    List.pairwise_map.mpr (BTreeMap.toList_nodup_keys world.zones)
  have hperm : List.Perm (world.zones.toList.map Prod.fst) [ZoneId.origin] := by
    apply (List.perm_ext_iff_of_nodup hnodup (List.nodup_singleton _)).mpr
    intro zoneId
    rw [hkeys, List.mem_singleton]
  have hlength := hperm.length_eq
  rw [List.length_map, Std.ExtTreeMap.length_toList] at hlength
  exact hlength

end Accounts

theorem World.entityCount_eq (world : World) :
    world.entityCount = (BTreeMap.values world.entities).length := by
  unfold World.entityCount BTreeMap.values
  rw [List.length_map, Std.ExtTreeMap.length_toList]

theorem toString_of_toInt {x : Int32} {n : Nat} (h : x.toInt = n) : toString x = toString n := by
  show toString x.toInt = _
  rw [h]
  rfl

/-- The lines of a created world: the world at a tick, its journal and cursor, and its
counts. -/
def createdLines (name : String) (seed : UInt64) (tick : Tick) (snapshotTick : Tick)
    (lastEventId walEventCount active resources creatures : Nat) : List String :=
  ["=== World Status ===",
    s!"ID:              world_{seed}",
    s!"Name:            {name}",
    s!"Seed:            {seed}",
    s!"Current Tick:    {tick}",
    s!"Sim Time:        {SimTime.fromTicks tick}",
    "Created Tick:    T0",
    "",
    "=== Crash Recovery Info ===",
    s!"Snapshot Tick:   {snapshotTick}",
    s!"Last Event ID:   EV{lastEventId}",
    s!"WAL Events:      {walEventCount}",
    "",
    "=== Statistics ===",
    s!"Total Entities:  {resources + creatures}",
    s!"Active Entities: {active}",
    "Zones:           1",
    "",
    "=== Entity Breakdown ===",
    s!"Resources:  {resources}",
    s!"Creatures:  {creatures}",
    "Items:      0",
    "Structures: 0"]

theorem exists_int32 {count : Nat} (h : count < 2 ^ 31) :
    exists x : Int32, x.toInt = (count : Int) := by
  have hfits : FitsI32 (count : Int) := by
    constructor <;> omega
  exists Int32.ofInt count
  rw [Int32.toInt_ofInt]
  exact hfits.bmod

theorem Accounts.countAll {resources creatures : UInt32} {facts : List (Tick × EventData)}
    {world : World} (h : Accounts (initialEntities resources creatures) facts world)
    (hintegrity : WorldIntegrity world) (hresources : resources.toNat < 2 ^ 31)
    (hcreatures : creatures.toNat < 2 ^ 31) :
    exists (r c : Int32) (found born : Nat), r.toInt = found ∧ c.toInt = born ∧
      found ≤ resources.toNat ∧ born ≤ creatures.toNat ∧
      Breakdown.zero.countAll (BTreeMap.values world.entities) = some ⟨r, c, 0, 0⟩ ∧
      world.entityCount = found + born := by
  have hle (kind : EntityKind) := h.kindCount_le hintegrity kind
  have hresource := hle .resource
  have hcreature := hle .creature
  have hitem := hle .item
  have hstructure := hle .structure
  simp only [spawnCount_initialEntities, reduceCtorEq, if_true, if_false, Nat.add_zero,
    Nat.zero_add, Nat.le_zero] at hresource hcreature hitem hstructure
  rcases exists_int32 (Nat.lt_of_le_of_lt hresource hresources) with ⟨r, hr⟩
  rcases exists_int32 (Nat.lt_of_le_of_lt hcreature hcreatures) with ⟨c, hc⟩
  refine ⟨r, c, _, _, hr, hc, hresource, hcreature, ?_, ?_⟩
  · apply Breakdown.countAll_eq_some.mpr
    intro kind
    have hzero : (Breakdown.zero.counter kind).toInt = 0 := by
      cases kind <;> rfl
    rw [hzero, Int.zero_add]
    cases kind with
    | resource => exact hr
    | creature => exact hc
    | item =>
        rw [hitem]
        rfl
    | _ =>
        rw [hstructure]
        rfl
  · rw [World.entityCount_eq, ← kindCount_sum, hitem, hstructure]
    rfl

theorem worldMeta_eq {world first : World} (hintegrity : WorldIntegrity world)
    (hidentity : world.worldMeta.identity = first.worldMeta.identity) :
    world.worldMeta = { first.worldMeta with
      currentTick := world.currentTick
      simTime := SimTime.fromTicks world.currentTick } := by
  have htick := hintegrity.meta_tick
  have htime := hintegrity.meta_time.trans hintegrity.sim_time
  have hclock : world.worldMeta = { world.worldMeta.identity with
      currentTick := world.currentTick
      simTime := SimTime.fromTicks world.currentTick } := by
    rw [← htime, ← htick]
    rfl
  rw [hclock, hidentity]
  rfl

/-- `status` prints the exact counts of a world whose entities are those of a creation. -/
theorem statusOf_created {name : String} {seed : UInt64} {resources creatures : UInt32}
    {facts : List (Tick × EventData)} {world : World} {t : Tick} {n k : Nat}
    (h : Accounts (initialEntities resources creatures) facts world)
    (hintegrity : WorldIntegrity world)
    (hidentity : world.worldMeta.identity = (World.new name ⟨seed⟩).worldMeta.identity)
    (hn : n + 1 < 2 ^ 64) (hresources : resources.toNat < 2 ^ 31)
    (hcreatures : creatures.toNat < 2 ^ 31) :
    exists found born : Nat, found ≤ resources.toNat ∧ born ≤ creatures.toNat ∧
      statusOf (world.withCursor t ⟨UInt64.ofNat n⟩) k =
        some (.ok (createdLines name seed world.currentTick t n k world.activeEntityCount
          found born)) := by
  rcases h.countAll hintegrity hresources hcreatures with
    ⟨r, c, found, born, hr, hc, hresource, hcreature, hcounted, htotal⟩
  refine ⟨found, born, hresource, hcreature, ?_⟩
  have hentities : (world.withCursor t ⟨UInt64.ofNat n⟩).entities = world.entities := rfl
  have htotal' : (world.withCursor t ⟨UInt64.ofNat n⟩).entityCount = found + born := htotal
  have hactive : (world.withCursor t ⟨UInt64.ofNat n⟩).activeEntityCount =
    world.activeEntityCount := rfl
  have hzones : (world.withCursor t ⟨UInt64.ofNat n⟩).zoneCount = 1 := h.zoneCount
  have hmeta : (world.withCursor t ⟨UInt64.ofNat n⟩).worldMeta = { world.worldMeta with
      snapshotTick := t
      lastEventId := ⟨UInt64.ofNat n⟩ } := rfl
  have hcursor : toString (⟨UInt64.ofNat n⟩ : EventId) = s!"EV{n}" := by
    show "EV" ++ toString (UInt64.ofNat n).toNat = _
    rw [UInt64.toNat_ofNat_of_lt' (Nat.lt_of_succ_lt hn)]
    rfl
  have hborn : "Created Tick:    T0" = s!"Created Tick:    {Tick.zero}" := by decide
  have hone : "Zones:           1" = s!"Zones:           {1}" := by decide
  have hitems : "Items:      0" = s!"Items:      {(0 : Int32)}" := by decide
  have hstructures : "Structures: 0" = s!"Structures: {(0 : Int32)}" := by decide
  unfold statusOf
  rw [hentities, hcounted]
  refine congrArg (fun lines => some (Except.ok lines)) ?_
  unfold statusLines createdLines
  rw [htotal', hactive, hzones, hmeta, hcursor, worldMeta_eq hintegrity hidentity,
    toString_of_toInt hr, toString_of_toInt hc, hborn, hone, hitems, hstructures]
  rfl

end Seej
