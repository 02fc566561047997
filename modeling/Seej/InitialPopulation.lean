import Seej.ServerHistory

/-!
# Initial population

The entities that `create` puts into a new world.  They are numbered in the order of
their spawns, and no two of them share a cell, whatever their number.
-/

namespace Seej

open Foundation

/-!
## Entities of a new world
-/

def SpawnEntityCmd.entity (spawn : SpawnEntityCmd) (id : EntityId) : Entity :=
  Entity.new id spawn.kind spawn.position Tick.zero spawn.properties

/-- The spawn with the number of an identifier, from `1`. -/
def numbered (spawned : List SpawnEntityCmd) (id : EntityId) : Option SpawnEntityCmd :=
  if id.val = 0 then none else spawned[id.val.toNat - 1]?

theorem numbered_snoc {spawned : List SpawnEntityCmd} {id : EntityId}
    (hid : id.val.toNat = spawned.length + 1) (spawn : SpawnEntityCmd) (other : EntityId) :
    numbered (spawned ++ [spawn]) other =
      if id = other then some spawn else numbered spawned other := by
  unfold numbered
  by_cases hsame : id = other
  · subst hsame
    have hne : id.val ≠ 0 := by
      intro hzero
      rw [hzero] at hid
      cases hid
    rw [if_neg hne, if_pos rfl, hid, Nat.add_sub_cancel, List.getElem?_concat_length]
  · rw [if_neg hsame]
    by_cases hzero : other.val = 0
    · rw [if_pos hzero, if_pos hzero]
    · rw [if_neg hzero, if_neg hzero]
      have hpos : 0 < other.val.toNat := by
        apply Nat.pos_of_ne_zero
        exact fun hnone => hzero (UInt64.toNat_inj.mp hnone)
      have hindex : other.val.toNat - 1 ≠ spawned.length := by
        intro heq
        apply hsame
        have hval : id.val.toNat = other.val.toNat := by omega
        exact congrArg EntityId.mk (UInt64.toNat_inj.mp hval)
      rcases Nat.lt_or_gt_of_ne hindex with hlt | hgt
      · rw [List.getElem?_append_left hlt]
      · have hlong : (spawned ++ [spawn]).length ≤ other.val.toNat - 1 := by
          rw [List.length_append]
          exact hgt
        rw [List.getElem?_eq_none (Nat.le_of_lt hgt), List.getElem?_eq_none hlong]

/-- The world holds the entities of these spawns and no others, numbered from `1`. -/
structure PeopledBy (spawned : List SpawnEntityCmd) (world : World) : Prop where
  tick : world.currentTick = Tick.zero
  next : world.nextEntityId.toNat = spawned.length + 1
  entities : forall id : EntityId, world.entities[id]? =
    if id.val = 0 then none else (spawned[id.val.toNat - 1]?).map fun spawn => spawn.entity id

theorem numbered_map {β : Type} (spawned : List SpawnEntityCmd) (id : EntityId)
    (f : SpawnEntityCmd -> β) : (numbered spawned id).map f =
      if id.val = 0 then none else (spawned[id.val.toNat - 1]?).map f := by
  unfold numbered
  split <;> rfl

theorem PeopledBy.new (name : String) (seed : RngSeed) : PeopledBy [] (World.new name seed) := by
  constructor
  case tick => rfl
  case next => rfl
  case entities =>
    intro id
    have hnone : (World.new name seed).entities[id]? = none := rfl
    rw [hnone]
    split
    · rfl
    · rfl

theorem PeopledBy.spawn {spawned : List SpawnEntityCmd} {world allocated : World}
    (h : PeopledBy spawned world) {spawn : SpawnEntityCmd} {id : EntityId}
    (hid : world.allocateEntityId = some (id, allocated)) :
    PeopledBy (spawned ++ [spawn]) (allocated.addEntity
      (Entity.new id spawn.kind spawn.position world.currentTick spawn.properties)) := by
  rcases World.allocateEntityId_eq_some hid with ⟨hnumber, hnext, hallocated⟩
  have hplace : id.val.toNat = spawned.length + 1 := by
    rw [hnumber]
    exact h.next
  constructor
  case tick =>
    rw [hallocated]
    exact h.tick
  case next =>
    rw [List.length_append]
    show allocated.nextEntityId.toNat = _
    rw [hnext, h.next]
    rfl
  case entities =>
    intro other
    rw [World.addEntity_getElem?, h.tick, ← numbered_map, numbered_snoc hplace]
    have hid' : (Entity.new id spawn.kind spawn.position Tick.zero spawn.properties).id = id := rfl
    rw [hid']
    split
    case isTrue hsame =>
      subst hsame
      rfl
    case isFalse hother =>
      rw [hallocated, numbered_map]
      exact h.entities other

section Created

variable [Crc32] [BatchJson]

theorem PeopledBy.after {spawned : List SpawnEntityCmd} {c next : Ledger}
    (h : PeopledBy spawned c.world) {spawn : SpawnEntityCmd}
    (hafter : c.after (.spawnEntity spawn) = some next) :
    PeopledBy (spawned ++ [spawn]) next.world := by
  rcases Ledger.after_eq_some hafter with ⟨events, _, hprocess, _, _⟩
  generalize hsim : Simulation.resumed next.world = sim at hprocess
  cases Simulation.processCommand_ok hprocess with
  | spawnEntity hworld _ hid =>
      cases hworld
      have hnext := Option.some.inj (congrArg Simulation.world hsim)
      rw [hnext]
      exact h.spawn hid

theorem PeopledBy.afterAll {before spawned : List SpawnEntityCmd} {first c : Ledger}
    (h : PeopledBy before first.world)
    (hafter : first.afterAll (spawned.map SimCommand.spawnEntity) = some c) :
    PeopledBy (before ++ spawned) c.world := by
  induction spawned generalizing before first with
  | nil =>
      cases hafter
      rw [List.append_nil]
      exact h
  | cons spawn rest ih =>
      rcases Option.bind_eq_some_iff.mp hafter with ⟨middle, hone, hrest⟩
      rw [List.append_cons]
      exact ih (h.after hone) hrest

theorem Settled.peopledBy {cmd : CreateWorldCmd} {spawned : List SpawnEntityCmd} {c : Ledger}
    (h : Settled cmd spawned c) : PeopledBy spawned c.world := by
  rcases h.reached with ⟨first, hgenesis, hreached⟩
  have hfirst : first.world = World.new cmd.name cmd.seed := by
    unfold Ledger.genesis Ledger.write at hgenesis
    split at hgenesis
    · cases hgenesis
    · cases hgenesis
      rfl
  have hnew : PeopledBy [] first.world := by
    rw [hfirst]
    exact PeopledBy.new _ _
  exact hnew.afterAll hreached

end Created

theorem PeopledBy.apart {spawned : List SpawnEntityCmd} {world : World}
    (h : PeopledBy spawned world)
    (hapart : spawned.Pairwise fun left right => left.position ≠ right.position)
    {id id' : EntityId} {entity entity' : Entity} (hentity : world.entities[id]? = some entity)
    (hentity' : world.entities[id']? = some entity')
    (hsame : entity.position = entity'.position) : id = id' := by
  have hplace {id : EntityId} {entity : Entity} (hsome : world.entities[id]? = some entity) :
      0 < id.val.toNat ∧ exists spawn : SpawnEntityCmd,
        spawned[id.val.toNat - 1]? = some spawn ∧ spawn.position = entity.position := by
    rw [h.entities id] at hsome
    split at hsome
    · cases hsome
    · rename_i hne
      rcases Option.map_eq_some_iff.mp hsome with ⟨spawn, hspawn, heq⟩
      refine ⟨?_, spawn, hspawn, ?_⟩
      · exact Nat.pos_of_ne_zero fun hzero => hne (UInt64.toNat_inj.mp hzero)
      · rw [← heq]
        rfl
  rcases hplace hentity with ⟨hpos, spawn, hspawn, hposition⟩
  rcases hplace hentity' with ⟨hpos', spawn', hspawn', hposition'⟩
  rcases List.getElem?_eq_some_iff.mp hspawn with ⟨hlt, hget⟩
  rcases List.getElem?_eq_some_iff.mp hspawn' with ⟨hlt', hget'⟩
  have hequal : spawned[id.val.toNat - 1].position = spawned[id'.val.toNat - 1].position := by
    rw [hget, hget', hposition, hposition', hsame]
  have hindex : id.val.toNat - 1 = id'.val.toNat - 1 := by
    rcases Nat.lt_trichotomy (id.val.toNat - 1) (id'.val.toNat - 1) with hless | heq | hmore
    · exact absurd hequal (List.pairwise_iff_getElem.mp hapart _ _ hlt hlt' hless)
    · exact heq
    · exact absurd hequal.symm (List.pairwise_iff_getElem.mp hapart _ _ hlt' hlt hmore)
  have hval : id.val.toNat = id'.val.toNat := by omega
  exact congrArg EntityId.mk (UInt64.toNat_inj.mp hval)

/-!
## Cells of the grid
-/

namespace Placed

variable {kind : EntityKind} {shift : Int} {i j : UInt32} {left right : SpawnEntityCmd}

theorem number_eq (hleft : Placed kind shift i left) (hright : Placed kind shift j right)
    (h : left.position = right.position) : i = j := by
  have hx := hleft.x
  have hy := hleft.y
  rw [h, hright.x] at hx
  rw [h, hright.y] at hy
  have hsame : i.toInt32 = j.toInt32 := by
    apply Int32.toInt_inj.mp
    have hsplit := Int.tmod_add_mul_tdiv i.toInt32.toInt 10
    have hsplit' := Int.tmod_add_mul_tdiv j.toInt32.toInt 10
    omega
  rw [← UInt32.toUInt32_toInt32 i, hsame, UInt32.toUInt32_toInt32]

end Placed

theorem placements_apart {place : UInt32 -> Option SpawnEntityCmd} {kind : EntityKind}
    {shift : Int} (hplace : forall i : UInt32, exists cmd : SpawnEntityCmd,
      place i = some cmd ∧ Placed kind shift i cmd) {count : Nat} (hcount : count < 2 ^ 32) :
    (placements place count).Pairwise fun left right => left.position ≠ right.position := by
  unfold placements
  rw [List.pairwise_filterMap]
  have hrange : (List.range count).Pairwise (fun i j => i < j ∧ j < count) := by
    rw [List.pairwise_iff_getElem]
    intro i j hi hj hlt
    rw [List.getElem_range, List.getElem_range]
    rw [List.length_range] at hj
    exact ⟨hlt, hj⟩
  apply hrange.imp
  rintro i j ⟨hij, hj⟩ left hleft right hright hsame
  rcases hplace (UInt32.ofNat i) with ⟨left', hleft', hplacedLeft⟩
  rcases hplace (UInt32.ofNat j) with ⟨right', hright', hplacedRight⟩
  cases hleft.symm.trans hleft'
  cases hright.symm.trans hright'
  have heq := congrArg UInt32.toNat (hplacedLeft.number_eq hplacedRight hsame)
  rw [UInt32.toNat_ofNat_of_lt' (Nat.lt_trans hij (Nat.lt_trans hj hcount)),
    UInt32.toNat_ofNat_of_lt' (Nat.lt_trans hj hcount)] at heq
  exact Nat.ne_of_lt hij heq

theorem placements_length {place : UInt32 -> Option SpawnEntityCmd}
    (hplace : forall i : UInt32, exists cmd : SpawnEntityCmd, place i = some cmd) (count : Nat) :
    (placements place count).length = count := by
  induction count with
  | zero => rfl
  | succ count ih =>
      rcases hplace (UInt32.ofNat count) with ⟨last, hlast⟩
      rw [placements_succ hlast, List.length_append, ih]
      rfl

theorem placements_mem {place : UInt32 -> Option SpawnEntityCmd} {kind : EntityKind}
    {shift : Int} (hplace : forall i : UInt32, exists cmd : SpawnEntityCmd,
      place i = some cmd ∧ Placed kind shift i cmd) {count : Nat} {cmd : SpawnEntityCmd}
    (hmem : cmd ∈ placements place count) : exists i : UInt32, Placed kind shift i cmd := by
  rcases List.mem_filterMap.mp hmem with ⟨i, _, hi⟩
  rcases hplace (UInt32.ofNat i) with ⟨cmd', hcmd', hplaced⟩
  cases hi.symm.trans hcmd'
  exact ⟨UInt32.ofNat i, hplaced⟩

theorem initialEntities_length (resources creatures : UInt32) :
    (initialEntities resources creatures).length = resources.toNat + creatures.toNat := by
  have hresource (i : UInt32) : exists cmd : SpawnEntityCmd, resourceAt i = some cmd := by
    rcases resourceAt_placed i with ⟨cmd, hcmd, _⟩
    exact ⟨cmd, hcmd⟩
  have hcreature (i : UInt32) : exists cmd : SpawnEntityCmd, creatureAt i = some cmd := by
    rcases creatureAt_placed i with ⟨cmd, hcmd, _⟩
    exact ⟨cmd, hcmd⟩
  unfold initialEntities
  rw [List.length_append, placements_length hresource, placements_length hcreature]

/-- Creatures stand between the resources, so no cell is taken twice. -/
theorem initialEntities_apart (resources creatures : UInt32) :
    (initialEntities resources creatures).Pairwise fun left right =>
      left.position ≠ right.position := by
  unfold initialEntities
  rw [List.pairwise_append]
  refine ⟨placements_apart resourceAt_placed resources.toNat_lt,
    placements_apart creatureAt_placed creatures.toNat_lt, ?_⟩
  intro left hleft right hright hsame
  rcases placements_mem resourceAt_placed hleft with ⟨i, hi⟩
  rcases placements_mem creatureAt_placed hright with ⟨j, hj⟩
  have hx := hi.x
  rw [hsame, hj.x] at hx
  omega

section Results

variable [MetaJson] [SnapshotJson] [Crc32] [BatchJson]

/-- A created world has exactly its initial entities, numbered one after the other, and
no two of them stand on one cell. -/
theorem created_world_population [MetaJson.Lossless] [SnapshotJson.Lossless]
    [BatchJson.Lossless] {name : String} {seed : UInt64} {resources creatures : UInt32}
    {io : ServerIo} {dir made : DataDir} (hempty : dir.worlds = ∅)
    (hmade : cmdCreate io dir name seed resources creatures = (.returned (), made)) :
    exists world : World, Recovers made s!"world_{seed}" world ∧
      PeopledBy (initialEntities resources creatures) world ∧
      world.nextEntityId.toNat = resources.toNat + creatures.toNat + 1 ∧
      forall (id id' : EntityId) (entity entity' : Entity),
        world.entities[id]? = some entity -> world.entities[id']? = some entity' ->
        entity.position = entity'.position -> id = id' := by
  rcases (cmdCreate_leaves hempty hmade).returns rfl with ⟨c, hdisk, hcompleted⟩
  have hpeopled := hcompleted.settled.peopledBy
  refine ⟨c.world, hdisk.recovers, hpeopled, ?_, ?_⟩
  · rw [hpeopled.next, initialEntities_length]
  · intro id id' entity entity' hentity hentity' hsame
    exact hpeopled.apart (initialEntities_apart resources creatures) hentity hentity' hsame

end Results

def valeOre : SimEvent :=
  ⟨⟨3⟩, ⟨0⟩, .entitySpawned ⟨1⟩ .resource ⟨ZoneId.origin, ⟨0, 0, 0⟩⟩
    { name := some "Resource_0", amount := some 100, health := none }⟩

def valeBeast : SimEvent :=
  ⟨⟨4⟩, ⟨0⟩, .entitySpawned ⟨2⟩ .creature ⟨ZoneId.origin, ⟨5, 5, 0⟩⟩
    { name := some "Creature_0", amount := none, health := some 100 }⟩

def townBatches : List (List SimEvent) :=
  [PersistentSimulation.valeGenesis, [valeOre], [valeBeast]]

def valeTown : World :=
  ({ World.new "Vale" ⟨7⟩ with nextEntityId := 3 }.addEntity
    (Entity.new ⟨1⟩ .resource ⟨ZoneId.origin, ⟨0, 0, 0⟩⟩ Tick.zero
      { name := some "Resource_0", amount := some 100, health := none })).addEntity
    (Entity.new ⟨2⟩ .creature ⟨ZoneId.origin, ⟨5, 5, 0⟩⟩ Tick.zero
      { name := some "Creature_0", amount := none, health := some 100 })

def townSnapshots : List WorldSnapshotDto :=
  [valeSnapshot, WorldSnapshotDto.fromWorld (valeTown.stampForSave ⟨4⟩)]

theorem townBatches_lossless : @BatchJson.Lossless (knownBatches townBatches) :=
  knownBatches_lossless (by decide +kernel)

theorem townSnapshots_lossless : @SnapshotJson.Lossless (knownSnapshots townSnapshots) :=
  knownSnapshots_lossless (by decide +kernel)

theorem townMetas_lossless : @MetaJson.Lossless
    (knownMetas (townSnapshots.map WorldSnapshotDto.worldMeta)) :=
  knownMetas_lossless (by decide +kernel)

theorem created_world_population_vale :
    letI := ieeeCrc32
    letI := knownMetas (townSnapshots.map WorldSnapshotDto.worldMeta)
    letI := knownSnapshots townSnapshots
    letI := knownBatches townBatches
    exists (made : DataDir) (world : World),
      cmdCreate {} emptyDir "Vale" 7 1 1 = (.returned (), made) ∧
      Recovers made "world_7" world ∧ PeopledBy (initialEntities 1 1) world ∧
      world.nextEntityId.toNat = 3 := by
  let _ := ieeeCrc32
  let _ := knownMetas (townSnapshots.map WorldSnapshotDto.worldMeta)
  let _ := knownSnapshots townSnapshots
  let _ := knownBatches townBatches
  have _ : BatchJson.Lossless := townBatches_lossless
  have _ : SnapshotJson.Lossless := townSnapshots_lossless
  have _ : MetaJson.Lossless := townMetas_lossless
  have hended : (cmdCreate {} emptyDir "Vale" 7 1 1).1 = .returned () := by decide +kernel
  rcases hmade : cmdCreate {} emptyDir "Vale" 7 1 1 with ⟨ended, made⟩
  rw [hmade] at hended
  have hreturned : ended = .returned () := hended
  subst hreturned
  rcases created_world_population rfl hmade with ⟨world, hrecovers, hpeopled, hnext, _⟩
  rw [vale_id] at hrecovers
  exact ⟨made, world, rfl, hrecovers, hpeopled, hnext⟩

section Genesis

variable [MetaJson] [SnapshotJson] [Crc32] [BatchJson]

/-- Once the genesis is saved, whatever ends the creation leaves a world that is listed
and that a new process loads, with the first of its entities. -/
theorem saved_genesis_survives [MetaJson.Lossless] [SnapshotJson.Lossless]
    [BatchJson.Lossless] {name : String} {seed : UInt64} {resources creatures : UInt32}
    {io : ServerIo} {dir final : DataDir} {runtime : ServerRuntime FilesystemStore}
    {host : Host} {ended : Ended String PanicSite Unit} (hempty : dir.worlds = ∅)
    (hopened : createSimulation io.opening dir s!"world_{seed}" = .returned runtime)
    (hgenesis : foundWorld name seed ⟨runtime, io.calls⟩ = (.returned (), host))
    (hcreate : cmdCreate io dir name seed resources creatures = (ended, final)) :
    final.store.exist s!"world_{seed}" = true ∧
    exists (spawned : List SpawnEntityCmd) (world : World),
      spawned <+: initialEntities resources creatures ∧
      (ended = .returned () -> spawned = initialEntities resources creatures) ∧
      Recovers final s!"world_{seed}" world ∧ PeopledBy spawned world := by
  rcases createSimulation_blank hempty io.opening ⟨name, ⟨seed⟩⟩ with
    ⟨e, hfailed⟩ | ⟨runtime', hreturned, hblank⟩
  · cases hopened.symm.trans hfailed
  · cases hopened.symm.trans hreturned
    rcases foundWorld_triple.returned (hblank io.calls) hgenesis with
      ⟨first, hsettled, hgoing, hdocuments⟩
    rcases hpopulate : populate resources creatures host with ⟨ended', last⟩
    cases (cmdCreate_founded hopened hgenesis hpopulate).symm.trans hcreate
    constructor
    · have hlisted : Listed s!"world_{seed}" last := by
        rcases hdocuments with ⟨_, _, _, _, _, hmeta⟩
        have hstart : Listed s!"world_{seed}" host := by
          apply FilesystemStore.exist_iff.mpr
          refine ⟨validateWorldIdResult_worldIdOfSeed ⟨seed⟩, ?_⟩
          exact Option.isSome_iff_exists.mpr ⟨_, hmeta⟩
        cases ended with
        | returned _ => exact populate_listed.returned hstart hpopulate
        | stopped _ => exact populate_listed.stopped hstart hpopulate
      apply FilesystemStore.exist_of_read hlisted
      unfold Directory.read
      rw [dir.left_same _ last.runtime io.ending _ _ (Or.inl rfl)]
      exact id
    · rcases AfterCreation.populated ⟨first, hsettled, hgoing⟩ hpopulate dir io.ending with
        ⟨⟨spawned, c, hspawned, hbegun, hdisk⟩, hafter⟩
      cases ended with
      | stopped reason =>
          exact ⟨spawned, c.world, hspawned, nofun, hdisk.recovers, hbegun.peopledBy⟩
      | returned _ =>
          rcases hafter.returns rfl with ⟨c', hdisk', hcompleted⟩
          exact ⟨_, c'.world, List.prefix_rfl, fun _ => rfl, hdisk'.recovers,
            hcompleted.settled.peopledBy⟩

end Genesis

def killedCreation : ServerIo :=
  { calls := [{}, {}, { killed := some .sync }], ending := .crash 0 }

theorem saved_genesis_survives_vale :
    letI := ieeeCrc32
    letI := knownMetas (townSnapshots.map WorldSnapshotDto.worldMeta)
    letI := knownSnapshots townSnapshots
    letI := knownBatches townBatches
    exists (final : DataDir) (spawned : List SpawnEntityCmd) (world : World),
      cmdCreate killedCreation emptyDir "Vale" 7 1 1 = (.stopped .killed, final) ∧
      final.store.exist "world_7" = true ∧ spawned <+: initialEntities 1 1 ∧
      Recovers final "world_7" world ∧ PeopledBy spawned world := by
  let _ := ieeeCrc32
  let _ := knownMetas (townSnapshots.map WorldSnapshotDto.worldMeta)
  let _ := knownSnapshots townSnapshots
  let _ := knownBatches townBatches
  have _ : BatchJson.Lossless := townBatches_lossless
  have _ : SnapshotJson.Lossless := townSnapshots_lossless
  have _ : MetaJson.Lossless := townMetas_lossless
  have hended : (cmdCreate killedCreation emptyDir "Vale" 7 1 1).1 = .stopped .killed := by
    decide +kernel
  have hfounds : (createSimulation killedCreation.opening emptyDir "world_7").value.map
      (fun runtime => (foundWorld "Vale" 7 ⟨runtime, killedCreation.calls⟩).1) =
        some (.returned ()) := by
    decide +kernel
  rcases hcreate : cmdCreate killedCreation emptyDir "Vale" 7 1 1 with ⟨ended, final⟩
  rw [hcreate] at hended
  have hkilled : ended = .stopped .killed := hended
  subst hkilled
  rw [← vale_id] at hfounds
  cases hopened : createSimulation killedCreation.opening emptyDir s!"world_{(7 : UInt64)}" with
  | stopped reason =>
      rw [hopened] at hfounds
      cases hfounds
  | returned runtime =>
      rw [hopened] at hfounds
      rcases hgenesis : foundWorld "Vale" 7 ⟨runtime, killedCreation.calls⟩ with ⟨founded, host⟩
      have hfounded : founded = .returned () := by
        have hfirst : (foundWorld "Vale" 7 ⟨runtime, killedCreation.calls⟩).1 = .returned () :=
          Option.some.inj hfounds
        rw [hgenesis] at hfirst
        exact hfirst
      subst hfounded
      rcases saved_genesis_survives rfl hopened hgenesis hcreate with
        ⟨hlisted, spawned, world, hspawned, _, hrecovers, hpeopled⟩
      rw [vale_id] at hlisted hrecovers
      exact ⟨final, spawned, world, rfl, hlisted, hspawned, hrecovers, hpeopled⟩

end Seej
