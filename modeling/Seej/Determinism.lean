import Seej.Foundation.SelfDelimiting
import Seej.Snapshot

/-!
# Canonical state hash

The bytes that the canonical hash feeds to a hasher, field by field.  The stream
has no separators: fields of fixed width, tags and lengths tell it apart, and so
worlds that feed the same bytes are the same.
-/

namespace Seej

open Foundation

structure StateHash where
  val : UInt64
deriving DecidableEq

namespace StateHash

def zero : StateHash := ⟨0⟩

end StateHash

class IStateHasher (H : Type) where
  /-- Start a new hash computation. -/
  reset : H -> H
  /-- Feed bytes into the hash. -/
  update : H -> Bytes -> H
  finalize : H -> StateHash

/-!
## Feeding the hasher
-/

def entityKindByte : EntityKind -> UInt8
  | .resource => 0
  | .creature => 1
  | .item => 2
  | .structure => 3

def entityStateByte : EntityState -> UInt8
  | .active => 0
  | .dormant => 1
  | .dead => 2

def asBytes (s : String) : Bytes :=
  s.toByteArray.data.toList

section Feed

variable {H : Type} [IStateHasher H]

def writeU8 (hasher : H) (value : UInt8) : H :=
  IStateHasher.update hasher [value]

def writeU32 (hasher : H) (value : UInt32) : H :=
  IStateHasher.update hasher (leBytes 4 value.toNat)

def writeI32 (hasher : H) (value : Int32) : H :=
  IStateHasher.update hasher (leBytes 4 value.toUInt32.toNat)

def writeU64 (hasher : H) (value : UInt64) : H :=
  IStateHasher.update hasher (leBytes 8 value.toNat)

def writeLen (hasher : H) (len : Nat) : H :=
  writeU64 hasher (UInt64.ofNat len)

def writeStr (hasher : H) (value : String) : H :=
  let hasher := writeLen hasher (asBytes value).length
  IStateHasher.update hasher (asBytes value)

def writeOptStr (hasher : H) : Option String -> H
  | some value => writeStr (writeU8 hasher 1) value
  | none => writeU8 hasher 0

def writeOptU32 (hasher : H) : Option UInt32 -> H
  | some value => writeU32 (writeU8 hasher 1) value
  | none => writeU8 hasher 0

def writeEntity (hasher : H) (entry : EntityId × Entity) : H :=
  let (id, entity) := entry
  let hasher := writeU64 hasher id.val
  let hasher := writeU64 hasher entity.id.val
  let hasher := writeU8 hasher (entityKindByte entity.kind)
  let hasher := writeU8 hasher (entityStateByte entity.state)
  let hasher := writeU32 hasher entity.position.zone.val
  let hasher := writeI32 hasher entity.position.pos.x
  let hasher := writeI32 hasher entity.position.pos.y
  let hasher := writeI32 hasher entity.position.pos.z
  let hasher := writeU64 hasher entity.createdAt.val
  let hasher := writeOptStr hasher entity.properties.name
  let hasher := writeOptU32 hasher entity.properties.amount
  writeOptU32 hasher entity.properties.health

def writeZone (hasher : H) (entry : ZoneId × Zone) : H :=
  let (id, zone) := entry
  let hasher := writeU32 hasher id.val
  let hasher := writeU32 hasher zone.id.val
  let hasher := writeOptStr hasher zone.name
  let hasher := writeU8 hasher (if zone.loaded then 1 else 0)
  let hasher := writeLen hasher zone.entities.length
  zone.entities.foldl (fun hasher entityId => writeU64 hasher entityId.val) hasher

def computeCanonicalHash (world : World) (hasher : H) : StateHash × H :=
  let hasher := IStateHasher.reset hasher
  let hasher := writeStr hasher world.worldMeta.worldId
  let hasher := writeStr hasher world.worldMeta.name
  let hasher := writeU64 hasher world.worldMeta.seed.val
  let hasher := writeU64 hasher world.worldMeta.currentTick.val
  let hasher := writeU64 hasher world.worldMeta.simTime.units
  let hasher := writeU64 hasher world.worldMeta.createdTick.val
  let hasher := writeU64 hasher world.worldMeta.snapshotTick.val
  let hasher := writeU64 hasher world.worldMeta.lastEventId.val
  let hasher := writeU32 hasher world.worldMeta.formatVersion
  let hasher := writeU64 hasher world.currentTick.val
  let hasher := writeU64 hasher world.simTime.units
  let hasher := writeU64 hasher world.rngState
  let hasher := writeU64 hasher world.nextEntityId
  let hasher := writeLen hasher world.entities.size
  let hasher := world.entities.toList.foldl writeEntity hasher
  let hasher := writeLen hasher world.zones.size
  let hasher := world.zones.toList.foldl writeZone hasher
  (IStateHasher.finalize hasher, hasher)

end Feed

/-!
## The bytes fed

Every field has its bytes, and the hasher is fed one after the other.
-/

structure Recorder where
  fed : Bytes

instance : IStateHasher Recorder where
  reset _ := ⟨[]⟩
  update recorder bytes := ⟨recorder.fed ++ bytes⟩
  finalize _ := StateHash.zero

def canonicalBytes (world : World) : Bytes :=
  (computeCanonicalHash world (⟨[]⟩ : Recorder)).2.fed

def u32Bytes (value : UInt32) : Bytes := leBytes 4 value.toNat

def i32Bytes (value : Int32) : Bytes := leBytes 4 value.toUInt32.toNat

def u64Bytes (value : UInt64) : Bytes := leBytes 8 value.toNat

def lenBytes (len : Nat) : Bytes := u64Bytes (UInt64.ofNat len)

def strBytes (value : String) : Bytes :=
  lenBytes (asBytes value).length ++ asBytes value

def optBytes {α : Type} (bytes : α -> Bytes) : Option α -> Bytes
  | some value => 1 :: bytes value
  | none => [0]

def listBytes {α : Type} (bytes : α -> Bytes) (items : List α) : Bytes :=
  lenBytes items.length ++ items.flatMap bytes

def positionBytes (p : WorldPos) : Bytes :=
  u32Bytes p.zone.val ++ (i32Bytes p.pos.x ++ (i32Bytes p.pos.y ++ i32Bytes p.pos.z))

def propertiesBytes (p : EntityProperties) : Bytes :=
  optBytes strBytes p.name ++ (optBytes u32Bytes p.amount ++ optBytes u32Bytes p.health)

def entityBytes (entry : EntityId × Entity) : Bytes :=
  u64Bytes entry.1.val ++ (u64Bytes entry.2.id.val ++ ([entityKindByte entry.2.kind] ++
    ([entityStateByte entry.2.state] ++ (positionBytes entry.2.position ++
      (u64Bytes entry.2.createdAt.val ++ propertiesBytes entry.2.properties)))))

def zoneBytes (entry : ZoneId × Zone) : Bytes :=
  u32Bytes entry.1.val ++ (u32Bytes entry.2.id.val ++ (optBytes strBytes entry.2.name ++
    ([if entry.2.loaded then 1 else 0] ++
      listBytes (fun id : EntityId => u64Bytes id.val) entry.2.entities)))

def metaBytes (m : WorldMeta) : Bytes :=
  strBytes m.worldId ++ (strBytes m.name ++ (u64Bytes m.seed.val ++
    (u64Bytes m.currentTick.val ++ (u64Bytes m.simTime.units ++ (u64Bytes m.createdTick.val ++
      (u64Bytes m.snapshotTick.val ++ (u64Bytes m.lastEventId.val ++
        u32Bytes m.formatVersion)))))))

def worldBytes (world : World) : Bytes :=
  metaBytes world.worldMeta ++ (u64Bytes world.currentTick.val ++
    (u64Bytes world.simTime.units ++ (u64Bytes world.rngState ++
      (u64Bytes world.nextEntityId ++ (listBytes entityBytes world.entities.toList ++
        listBytes zoneBytes world.zones.toList)))))

namespace Recorder

variable (r : Recorder)

@[simp] theorem reset_fed : (IStateHasher.reset r).fed = [] := rfl

@[simp] theorem writeU8_fed (value : UInt8) : (writeU8 r value).fed = r.fed ++ [value] := rfl

@[simp] theorem writeU32_fed (value : UInt32) :
    (writeU32 r value).fed = r.fed ++ u32Bytes value := rfl

@[simp] theorem writeI32_fed (value : Int32) :
    (writeI32 r value).fed = r.fed ++ i32Bytes value := rfl

@[simp] theorem writeU64_fed (value : UInt64) :
    (writeU64 r value).fed = r.fed ++ u64Bytes value := rfl

@[simp] theorem writeLen_fed (len : Nat) : (writeLen r len).fed = r.fed ++ lenBytes len := rfl

@[simp] theorem writeStr_fed (value : String) :
    (writeStr r value).fed = r.fed ++ strBytes value :=
  List.append_assoc _ _ _

@[simp] theorem writeOptStr_fed (value : Option String) :
    (writeOptStr r value).fed = r.fed ++ optBytes strBytes value := by
  cases value with
  | none => rfl
  | some s => simp [writeOptStr, optBytes]

@[simp] theorem writeOptU32_fed (value : Option UInt32) :
    (writeOptU32 r value).fed = r.fed ++ optBytes u32Bytes value := by
  cases value with
  | none => rfl
  | some n => simp [writeOptU32, optBytes]

theorem foldl_fed {α : Type} {write : Recorder -> α -> Recorder} {bytes : α -> Bytes}
    (hwrite : forall (r : Recorder) (a : α), (write r a).fed = r.fed ++ bytes a)
    (items : List α) : (items.foldl write r).fed = r.fed ++ items.flatMap bytes := by
  induction items generalizing r with
  | nil => exact (List.append_nil _).symm
  | cons item rest ih =>
      rw [List.foldl_cons, ih, hwrite, List.flatMap_cons, List.append_assoc]

theorem writeEntity_fed (entry : EntityId × Entity) :
    (writeEntity r entry).fed = r.fed ++ entityBytes entry := by
  simp [writeEntity, entityBytes, positionBytes, propertiesBytes]

theorem writeZone_fed (entry : ZoneId × Zone) :
    (writeZone r entry).fed = r.fed ++ zoneBytes entry := by
  have hloop : forall (r : Recorder) (id : EntityId),
      (writeU64 r id.val).fed = r.fed ++ u64Bytes id.val := fun r id => writeU64_fed r id.val
  simp [writeZone, zoneBytes, listBytes, foldl_fed _ hloop]

end Recorder

theorem canonicalBytes_eq (world : World) : canonicalBytes world = worldBytes world := by
  unfold canonicalBytes computeCanonicalHash
  simp only [Recorder.foldl_fed _ Recorder.writeEntity_fed,
    Recorder.foldl_fed _ Recorder.writeZone_fed, Recorder.writeLen_fed, Recorder.writeU64_fed,
    Recorder.writeU32_fed, Recorder.writeStr_fed, Recorder.reset_fed, worldBytes, metaBytes,
    listBytes, Std.ExtTreeMap.length_toList, List.append_assoc, List.nil_append]

/-!
## Reading the stream in one way
-/

theorem u8_selfDelimiting {α : Type} {byte : α -> UInt8}
    (hinj : forall a b : α, byte a = byte b -> a = b) :
    SelfDelimiting (fun _ : α => True) (fun a => [byte a]) :=
  SelfDelimiting.of_width (fun _ => rfl) fun a b _ _ h => hinj a b (List.cons.inj h).left

theorem u32_selfDelimiting : SelfDelimiting (fun _ : UInt32 => True) u32Bytes :=
  SelfDelimiting.of_width (fun _ => leBytes_length 4 _) fun a b _ _ h =>
    UInt32.toNat_inj.mp (leBytes_inj a.toNat_lt b.toNat_lt h)

theorem i32_selfDelimiting : SelfDelimiting (fun _ : Int32 => True) i32Bytes :=
  u32_selfDelimiting.comap fun a b h => by
    cases a
    cases b
    exact congrArg Int32.ofUInt32 h

theorem u64_selfDelimiting : SelfDelimiting (fun _ : UInt64 => True) u64Bytes :=
  SelfDelimiting.of_width (fun _ => leBytes_length 8 _) fun a b _ _ h =>
    UInt64.toNat_inj.mp (leBytes_inj a.toNat_lt b.toNat_lt h)

theorem len_selfDelimiting : SelfDelimiting (fun len : Nat => len < 2 ^ 64) lenBytes := by
  refine SelfDelimiting.of_width (fun _ => leBytes_length 8 _) ?_
  intro m n hm hn h
  have hcast := u64_selfDelimiting.injective trivial trivial h
  have hnat := congrArg UInt64.toNat hcast
  rw [UInt64.toNat_ofNat', UInt64.toNat_ofNat', Nat.mod_eq_of_lt hm, Nat.mod_eq_of_lt hn] at hnat
  exact hnat

theorem asBytes_inj {s t : String} (h : asBytes s = asBytes t) : s = t := by
  apply String.toByteArray_inj.mp
  apply ByteArray.ext
  exact Array.toList_inj.mp h

def ShortString (s : String) : Prop :=
  (asBytes s).length < 2 ^ 64

theorem str_selfDelimiting : SelfDelimiting ShortString strBytes := by
  have hbyte : SelfDelimiting (fun _ : UInt8 => True) (fun byte => [byte]) :=
    u8_selfDelimiting fun _ _ h => h
  have hbytes : SelfDelimiting (fun bytes : Bytes => bytes.length < 2 ^ 64)
      (fun bytes => lenBytes bytes.length ++ bytes) := by
    intro a b ha hb rest rest' h
    apply hbyte.counted len_selfDelimiting a b ⟨ha, fun _ _ => trivial⟩ ⟨hb, fun _ _ => trivial⟩
    simpa using h
  exact hbytes.comap fun _ _ => asBytes_inj

def ShortOption (name : Option String) : Prop :=
  forall s : String, name = some s -> ShortString s

theorem opt_selfDelimiting {α : Type} {valid : α -> Prop} {bytes : α -> Bytes}
    (h : SelfDelimiting valid bytes) :
    SelfDelimiting (fun o : Option α => forall a : α, o = some a -> valid a) (optBytes bytes) := by
  have htags : (0 : UInt8) ≠ 1 := by decide
  intro x y hx hy rest rest' heq
  apply h.option htags x y hx hy rest rest'
  cases x <;> cases y <;> exact heq

theorem list_selfDelimiting {α : Type} {valid : α -> Prop} {bytes : α -> Bytes}
    (h : SelfDelimiting valid bytes) :
    SelfDelimiting (fun items : List α => items.length < 2 ^ 64 ∧
      forall a : α, a ∈ items -> valid a) (listBytes bytes) :=
  h.counted len_selfDelimiting

theorem entityKindByte_inj {a b : EntityKind} (h : entityKindByte a = entityKindByte b) :
    a = b := by
  cases a <;> cases b <;> first | rfl | exact absurd h (by decide)

theorem entityStateByte_inj {a b : EntityState} (h : entityStateByte a = entityStateByte b) :
    a = b := by
  cases a <;> cases b <;> first | rfl | exact absurd h (by decide)

theorem position_selfDelimiting : SelfDelimiting (fun _ : WorldPos => True) positionBytes := by
  have hfields : forall p q : WorldPos,
      (p.zone.val, p.pos.x, p.pos.y, p.pos.z) = (q.zone.val, q.pos.x, q.pos.y, q.pos.z) ->
        p = q := by
    rintro ⟨⟨_⟩, ⟨_, _, _⟩⟩ ⟨⟨_⟩, ⟨_, _, _⟩⟩ h
    cases h
    rfl
  exact ((u32_selfDelimiting.pair (i32_selfDelimiting.pair
    (i32_selfDelimiting.pair i32_selfDelimiting))).comap hfields).mono
      fun _ _ => ⟨trivial, trivial, trivial, trivial⟩

theorem properties_selfDelimiting :
    SelfDelimiting (fun p : EntityProperties => ShortOption p.name) propertiesBytes := by
  have hfields : forall p q : EntityProperties,
      (p.name, p.amount, p.health) = (q.name, q.amount, q.health) -> p = q := by
    rintro ⟨_, _, _⟩ ⟨_, _, _⟩ h
    cases h
    rfl
  have hu32 := opt_selfDelimiting u32_selfDelimiting
  exact (((opt_selfDelimiting str_selfDelimiting).pair (hu32.pair hu32)).comap hfields).mono
    fun _ h => ⟨h, fun _ _ => trivial, fun _ _ => trivial⟩

theorem entity_selfDelimiting :
    SelfDelimiting (fun entry : EntityId × Entity => ShortOption entry.2.properties.name)
      entityBytes := by
  have hfields : forall a b : EntityId × Entity,
      (a.1.val, a.2.id.val, a.2.kind, a.2.state, a.2.position, a.2.createdAt.val,
          a.2.properties) =
        (b.1.val, b.2.id.val, b.2.kind, b.2.state, b.2.position, b.2.createdAt.val,
          b.2.properties) -> a = b := by
    rintro ⟨⟨_⟩, ⟨⟨_⟩, _, _, _, ⟨_⟩, _⟩⟩ ⟨⟨_⟩, ⟨⟨_⟩, _, _, _, ⟨_⟩, _⟩⟩ h
    cases h
    rfl
  have hkind := u8_selfDelimiting (fun a b => @entityKindByte_inj a b)
  have hstate := u8_selfDelimiting (fun a b => @entityStateByte_inj a b)
  exact ((u64_selfDelimiting.pair (u64_selfDelimiting.pair (hkind.pair (hstate.pair
    (position_selfDelimiting.pair (u64_selfDelimiting.pair
      properties_selfDelimiting)))))).comap hfields).mono
        fun _ h => ⟨trivial, trivial, trivial, trivial, trivial, trivial, h⟩

def ShortZone (zone : Zone) : Prop :=
  ShortOption zone.name ∧ zone.entities.length < 2 ^ 64

theorem zone_selfDelimiting :
    SelfDelimiting (fun entry : ZoneId × Zone => ShortZone entry.2) zoneBytes := by
  have hfields : forall a b : ZoneId × Zone,
      (a.1.val, a.2.id.val, a.2.name, a.2.loaded, a.2.entities) =
        (b.1.val, b.2.id.val, b.2.name, b.2.loaded, b.2.entities) -> a = b := by
    rintro ⟨⟨_⟩, ⟨⟨_⟩, _, _, _⟩⟩ ⟨⟨_⟩, ⟨⟨_⟩, _, _, _⟩⟩ h
    cases h
    rfl
  have hloaded : SelfDelimiting (fun _ : Bool => True)
      (fun loaded => [if loaded then (1 : UInt8) else 0]) :=
    u8_selfDelimiting fun a b h => by
      cases a <;> cases b <;> first | rfl | exact absurd h (by decide)
  have hid : SelfDelimiting (fun _ : EntityId => True) (fun id => u64Bytes id.val) :=
    u64_selfDelimiting.comap fun a b h => congrArg EntityId.mk h
  exact ((u32_selfDelimiting.pair (u32_selfDelimiting.pair
    ((opt_selfDelimiting str_selfDelimiting).pair (hloaded.pair
      (list_selfDelimiting hid))))).comap hfields).mono
        fun _ h => ⟨trivial, trivial, h.left, trivial, h.right, fun _ _ => trivial⟩

theorem meta_selfDelimiting :
    SelfDelimiting (fun m : WorldMeta => ShortString m.worldId ∧ ShortString m.name)
      metaBytes := by
  have hfields : forall a b : WorldMeta,
      (a.worldId, a.name, a.seed.val, a.currentTick.val, a.simTime.units, a.createdTick.val,
          a.snapshotTick.val, a.lastEventId.val, a.formatVersion) =
        (b.worldId, b.name, b.seed.val, b.currentTick.val, b.simTime.units,
          b.createdTick.val, b.snapshotTick.val, b.lastEventId.val, b.formatVersion) ->
        a = b := by
    rintro ⟨_, _, ⟨_⟩, ⟨_⟩, ⟨_⟩, ⟨_⟩, ⟨_⟩, ⟨_⟩, _⟩ ⟨_, _, ⟨_⟩, ⟨_⟩, ⟨_⟩, ⟨_⟩, ⟨_⟩, ⟨_⟩, _⟩ h
    cases h
    rfl
  exact ((str_selfDelimiting.pair (str_selfDelimiting.pair (u64_selfDelimiting.pair
    (u64_selfDelimiting.pair (u64_selfDelimiting.pair (u64_selfDelimiting.pair
      (u64_selfDelimiting.pair (u64_selfDelimiting.pair
        u32_selfDelimiting)))))))).comap hfields).mono
          fun _ h => ⟨h.left, h.right, trivial, trivial, trivial, trivial, trivial, trivial,
            trivial⟩

/-- No string and no collection of the world is longer than its length field can say. -/
structure WithinLengths (world : World) : Prop where
  worldId : ShortString world.worldMeta.worldId
  name : ShortString world.worldMeta.name
  entities : world.entities.size < 2 ^ 64
  entity : forall entry : EntityId × Entity, entry ∈ world.entities.toList ->
    ShortOption entry.2.properties.name
  zones : world.zones.size < 2 ^ 64
  zone : forall entry : ZoneId × Zone, entry ∈ world.zones.toList -> ShortZone entry.2

theorem world_selfDelimiting : SelfDelimiting WithinLengths worldBytes := by
  have hfields : forall a b : World,
      (a.worldMeta, a.currentTick.val, a.simTime.units, a.rngState, a.nextEntityId,
          a.entities.toList, a.zones.toList) =
        (b.worldMeta, b.currentTick.val, b.simTime.units, b.rngState, b.nextEntityId,
          b.entities.toList, b.zones.toList) -> a = b := by
    rintro ⟨_, ⟨_⟩, ⟨_⟩, _, _, _, _⟩ ⟨_, ⟨_⟩, ⟨_⟩, _, _, _, _⟩ h
    simp only [Prod.mk.injEq, Std.ExtTreeMap.toList_inj] at h
    rcases h with ⟨hmeta, htick, htime, hrng, hnext, hentities, hzones⟩
    rw [hmeta, htick, htime, hrng, hnext, hentities, hzones]
  have hsize : forall {κ ν : Type} [Ord κ] [Std.TransOrd κ] {m : BTreeMap κ ν},
      m.size < 2 ^ 64 -> m.toList.length < 2 ^ 64 := by
    intro κ ν _ _ m h
    rw [Std.ExtTreeMap.length_toList]
    exact h
  exact ((meta_selfDelimiting.pair (u64_selfDelimiting.pair (u64_selfDelimiting.pair
    (u64_selfDelimiting.pair (u64_selfDelimiting.pair
      ((list_selfDelimiting entity_selfDelimiting).pair
        (list_selfDelimiting zone_selfDelimiting))))))).comap hfields).mono
          fun _ h => ⟨⟨h.worldId, h.name⟩, trivial, trivial, trivial, trivial,
            ⟨hsize h.entities, h.entity⟩, hsize h.zones, h.zone⟩

/-- Worlds that feed the same bytes to the hasher are the same. -/
theorem canonicalBytes_injective {a b : World} (ha : WithinLengths a) (hb : WithinLengths b)
    (h : canonicalBytes a = canonicalBytes b) : a = b := by
  rw [canonicalBytes_eq, canonicalBytes_eq] at h
  exact world_selfDelimiting.injective ha hb h

/-!
## The order of insertion
-/

def shortString (s : String) : Bool :=
  (asBytes s).length < 2 ^ 64

def World.withinLengths (world : World) : Bool :=
  shortString world.worldMeta.worldId && shortString world.worldMeta.name &&
    decide (world.entities.size < 2 ^ 64) &&
    world.entities.toList.all (fun entry => entry.2.properties.name.all shortString) &&
    decide (world.zones.size < 2 ^ 64) &&
    world.zones.toList.all (fun entry =>
      entry.2.name.all shortString && decide (entry.2.entities.length < 2 ^ 64))

theorem shortString_iff {s : String} : shortString s = true <-> ShortString s :=
  decide_eq_true_iff

theorem shortOption_of_all {name : Option String} (h : name.all shortString = true) :
    ShortOption name := by
  intro s hs
  rw [hs] at h
  exact shortString_iff.mp h

theorem WithinLengths.of_check {world : World} (h : world.withinLengths = true) :
    WithinLengths world := by
  simp only [World.withinLengths, Bool.and_eq_true, decide_eq_true_eq, List.all_eq_true] at h
  rcases h with ⟨⟨⟨⟨⟨hid, hname⟩, hentities⟩, hentity⟩, hzones⟩, hzone⟩
  exact ⟨shortString_iff.mp hid, shortString_iff.mp hname, hentities,
    fun entry hmem => shortOption_of_all (hentity entry hmem), hzones,
    fun entry hmem => ⟨shortOption_of_all (hzone entry hmem).left, (hzone entry hmem).right⟩⟩

def hamlets (first second : ZoneId) : World :=
  let world := World.new "Vale" ⟨7⟩
  let world := world.addZone (Zone.new first none)
  let world := world.addZone (Zone.new second none)
  world.addEntity (Entity.new ⟨1⟩ .resource ⟨⟨2⟩, Position.origin⟩ Tick.zero
    { name := some "Ore", amount := some 5, health := none })

theorem canonicalBytes_injective_hamlets : hamlets ⟨1⟩ ⟨2⟩ = hamlets ⟨2⟩ ⟨1⟩ := by
  have hfirst : (hamlets ⟨1⟩ ⟨2⟩).withinLengths = true := by decide +kernel
  have hsecond : (hamlets ⟨2⟩ ⟨1⟩).withinLengths = true := by decide +kernel
  have hbytes : canonicalBytes (hamlets ⟨1⟩ ⟨2⟩) = canonicalBytes (hamlets ⟨2⟩ ⟨1⟩) := by
    decide +kernel
  exact canonicalBytes_injective (WithinLengths.of_check hfirst) (WithinLengths.of_check hsecond)
    hbytes

end Seej
