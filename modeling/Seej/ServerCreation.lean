import Seej.ServerCalls
import Seej.StoreInspection

/-!
# Creation of a world by the server

`create` saves the genesis of a world before it spawns the initial entities.  From then
on, whatever stops it leaves a world that is listed and that the next process can load,
with the first of its entities.
-/

namespace Seej

open Foundation

/-!
## The grid of the initial entities
-/

/-- No cell of the grid overflows, also where the cast of the number is negative. -/
theorem gridPosition_exact (i : UInt32) : exists x y : Int32, gridPosition i = some (x, y) ∧
    x.toInt = i.toInt32.toInt.tmod 10 * 10 ∧ y.toInt = i.toInt32.toInt.tdiv 10 * 10 ∧
    x.toInt + 5 < 2 ^ 31 ∧ y.toInt + 5 < 2 ^ 31 := by
  have hten : (10 : Int32).toInt = 10 := rfl
  have hlow := Int32.le_toInt i.toInt32
  have hhigh := Int32.toInt_lt i.toInt32
  have hcolumn : (i.toInt32.toInt.tmod 10).natAbs = i.toInt32.toInt.natAbs % 10 :=
    Int.natAbs_tmod _ 10
  have hrow : (i.toInt32.toInt.tdiv 10).natAbs = i.toInt32.toInt.natAbs / 10 :=
    Int.natAbs_tdiv _ 10
  have hmod : (i.toInt32 % 10).toInt = i.toInt32.toInt.tmod 10 := Int32.toInt_mod _ _
  have hdiv : (i.toInt32 / 10).toInt = i.toInt32.toInt.tdiv 10 := by
    rw [Int32.toInt_div, hten]
    apply FitsI32.bmod
    unfold FitsI32
    omega
  have hx : FitsI32 ((i.toInt32 % 10).toInt * (10 : Int32).toInt) := by
    rw [hmod, hten]
    unfold FitsI32
    omega
  have hy : FitsI32 ((i.toInt32 / 10).toInt * (10 : Int32).toInt) := by
    rw [hdiv, hten]
    unfold FitsI32
    omega
  rcases checkedMulI32_exact hx with ⟨x, hxeq, hxval⟩
  rcases checkedMulI32_exact hy with ⟨y, hyeq, hyval⟩
  rw [hmod, hten] at hxval
  rw [hdiv, hten] at hyval
  refine ⟨x, y, ?_, hxval, hyval, ?_, ?_⟩
  · unfold gridPosition
    rw [hxeq, hyeq]
    rfl
  · omega
  · omega

structure Placed (kind : EntityKind) (shift : Int) (i : UInt32) (cmd : SpawnEntityCmd) :
    Prop where
  kind : cmd.kind = kind
  zone : cmd.position.zone = ZoneId.origin
  x : cmd.position.pos.x.toInt = i.toInt32.toInt.tmod 10 * 10 + shift
  y : cmd.position.pos.y.toInt = i.toInt32.toInt.tdiv 10 * 10 + shift

theorem resourceAt_placed (i : UInt32) : exists cmd : SpawnEntityCmd,
    resourceAt i = some cmd ∧ Placed .resource 0 i cmd := by
  rcases gridPosition_exact i with ⟨x, y, hgrid, hx, hy, _⟩
  unfold resourceAt
  rw [hgrid]
  refine ⟨_, rfl, rfl, rfl, ?_, ?_⟩
  · rw [Int.add_zero]
    exact hx
  · rw [Int.add_zero]
    exact hy

theorem creatureAt_placed (i : UInt32) : exists cmd : SpawnEntityCmd,
    creatureAt i = some cmd ∧ Placed .creature 5 i cmd := by
  have hfive : (5 : Int32).toInt = 5 := rfl
  rcases gridPosition_exact i with ⟨x, y, hgrid, hx, hy, hxlt, hylt⟩
  have hlow (z : Int32) : -2 ^ 31 ≤ z.toInt + (5 : Int32).toInt := by
    have hz := Int32.le_toInt z
    omega
  rcases @checkedAddI32_exact x 5 ⟨hlow x, hxlt⟩ with ⟨x', hxeq, hxval⟩
  rcases @checkedAddI32_exact y 5 ⟨hlow y, hylt⟩ with ⟨y', hyeq, hyval⟩
  unfold creatureAt
  rw [hgrid]
  simp only [bind, Option.bind, hxeq, hyeq]
  refine ⟨_, rfl, rfl, rfl, ?_, ?_⟩
  · rw [← hx]
    exact hxval
  · rw [← hy]
    exact hyval

/-!
## The population
-/

def placements (place : UInt32 -> Option SpawnEntityCmd) (count : Nat) : List SpawnEntityCmd :=
  (List.range count).filterMap fun i => place (UInt32.ofNat i)

def initialEntities (resources creatures : UInt32) : List SpawnEntityCmd :=
  placements resourceAt resources.toNat ++ placements creatureAt creatures.toNat

theorem placements_succ {place : UInt32 -> Option SpawnEntityCmd} {i : Nat}
    {cmd : SpawnEntityCmd} (h : place (UInt32.ofNat i) = some cmd) :
    placements place (i + 1) = placements place i ++ [cmd] := by
  unfold placements
  rw [List.range_succ, List.filterMap_append, List.filterMap_cons, h]
  rfl

theorem placements_mono (place : UInt32 -> Option SpawnEntityCmd) {i n : Nat} (h : i ≤ n) :
    placements place i <+: placements place n := by
  apply List.IsPrefix.filterMap
  rw [List.prefix_iff_eq_take, List.length_range, List.take_range, Nat.min_eq_left h]

section Creating

variable [Crc32] [BatchJson]

structure Settled (cmd : CreateWorldCmd) (spawned : List SpawnEntityCmd) (c : Ledger) :
    Prop where
  reached : exists first : Ledger, Ledger.genesis cmd = some first ∧
    first.afterAll (spawned.map SimCommand.spawnEntity) = some c
  tick : c.tick = 0

namespace Settled

variable {cmd : CreateWorldCmd} {spawned : List SpawnEntityCmd} {c next : Ledger}

theorem paced (h : Settled cmd spawned c) : c.Paced := by
  show c.tick ≤ _
  rw [h.tick]
  exact Nat.zero_le _

theorem unique (h : Settled cmd spawned c) (h' : Settled cmd spawned next) : c = next := by
  rcases h.reached with ⟨first, hgenesis, hafter⟩
  rcases h'.reached with ⟨first', hgenesis', hafter'⟩
  cases hgenesis.symm.trans hgenesis'
  exact Option.some.inj (hafter.symm.trans hafter')

theorem genesis (h : Ledger.genesis cmd = some c) : Settled cmd [] c := by
  refine ⟨⟨c, h, rfl⟩, ?_⟩
  unfold Ledger.genesis Ledger.write at h
  split at h
  · cases h
  · cases h
    rfl

theorem spawn (h : Settled cmd spawned c) {spawn : SpawnEntityCmd}
    (hafter : c.after (.spawnEntity spawn) = some next) :
    Settled cmd (spawned ++ [spawn]) next := by
  constructor
  case reached =>
    rcases h.reached with ⟨first, hgenesis, hreached⟩
    refine ⟨first, hgenesis, ?_⟩
    rw [List.map_append]
    exact Ledger.afterAll_snoc hreached hafter
  case tick =>
    rcases Ledger.after_eq_some hafter with ⟨events, _, hprocess, _, _⟩
    generalize hsim : Simulation.resumed next.world = sim at hprocess
    cases Simulation.processCommand_ok hprocess with
    | spawnEntity hworld _ hid =>
        cases hworld
        rcases World.allocateEntityId_eq_some hid with ⟨_, _, hallocated⟩
        have hnext := Option.some.inj (congrArg Simulation.world hsim)
        show next.world.currentTick.val.toNat = 0
        rw [hnext, ← h.tick, hallocated]
        rfl

end Settled

end Creating

/-!
## The genesis
-/

section Hosts

variable [MetaJson] [SnapshotJson] [Crc32] [BatchJson]

/-- A process in an empty data directory. -/
structure Blank (host : Host) : Prop where
  log : Holds host.runtime.eventLog []
  store : EmptyStore host.runtime.store

def NoSnapshot (cmd : CreateWorldCmd) (store : FilesystemStore) : Prop :=
  forall bytes : Bytes, IWorldStore.loadSnapshot store cmd.worldId ≠ .ok bytes

def Populated (cmd : CreateWorldCmd) (spawned : List SpawnEntityCmd) (host : Host) : Prop :=
  exists c : Ledger, Settled cmd spawned c ∧ Going cmd c 0 host

def CreationLeaves (cmd : CreateWorldCmd) (spawns : List SpawnEntityCmd) (host : Host) : Prop :=
  Leaves cmd (fun _ c => exists spawned : List SpawnEntityCmd, spawned <+: spawns ∧
    Settled cmd spawned c) host

variable {cmd : CreateWorldCmd} {c : Ledger} {host : Host}

omit [SnapshotJson] [Crc32] [BatchJson] in
theorem NoSnapshot.of_empty {store : FilesystemStore} (h : EmptyStore store) :
    NoSnapshot cmd store :=
  h.snapshot cmd.worldId

omit [SnapshotJson] [Crc32] [BatchJson] in
theorem NoSnapshot.congr {store next : FilesystemStore} (h : NoSnapshot cmd store)
    (hsame : IWorldStore.loadSnapshot next cmd.worldId =
      IWorldStore.loadSnapshot store cmd.worldId) : NoSnapshot cmd next := by
  intro bytes hload
  exact h bytes (hsame.symm.trans hload)

theorem Host.found_triple [BatchJson.Lossless] :
    Triple Blank (Host.processCommand (.createWorld cmd))
      (fun _ host => exists c : Ledger, Settled cmd [] c ∧ Follows cmd c host.runtime ∧
        NoSnapshot cmd host.runtime.store)
      (fun reason host => OnlyInCommand reason ∧ NoSnapshot cmd host.runtime.store) := by
  constructor
  intro host hblank
  have hnone : NoSnapshot cmd host.runtime.store := NoSnapshot.of_empty hblank.store
  unfold Host.processCommand
  simp only [Host.nextCall]
  cases hprocess : (host.runtime.withRecords (host.calls.headD {}).records).processCommand
      (.createWorld cmd) with
  | none =>
      refine ⟨?_, hnone⟩
      rintro site hsite
      cases hsite
      rfl
  | some answer =>
      rcases answer with ⟨result, runtime⟩
      have hfounded := Follows.found hblank.log hblank.store _ hprocess
      have hstore : runtime.store = host.runtime.store := by
        cases hfounded with
        | refused _ hstore => exact hstore
        | founded _ _ hstore => exact hstore
        | broken _ _ hstore _ => exact hstore
      rw [← hstore] at hnone
      apply Host.answer_meets
      · intro persisted hresult
        subst hresult
        cases hfounded with
        | @founded _ c _ hgenesis h _ => exact ⟨c, Settled.genesis hgenesis, h, hnone⟩
      · intro reason hreason
        exact ⟨hreason, hnone⟩

/-- The genesis is saved, or there is no snapshot, or it is found as it was to be saved. -/
theorem foundWorld_triple [MetaJson.Lossless] [SnapshotJson.Lossless] [BatchJson.Lossless]
    {name : String} {seed : UInt64} :
    Triple Blank (foundWorld name seed)
      (fun _ host => exists c : Ledger, Settled ⟨name, ⟨seed⟩⟩ [] c ∧
        Going ⟨name, ⟨seed⟩⟩ c 0 host ∧
        Documents c (host.runtime.store.names (CreateWorldCmd.worldId ⟨name, ⟨seed⟩⟩)))
      (fun reason host => OnlyInCommand reason ∧
        (NoSnapshot ⟨name, ⟨seed⟩⟩ host.runtime.store ∨
          CreationLeaves ⟨name, ⟨seed⟩⟩ [] host)) := by
  unfold foundWorld
  refine Triple.bind (fun _ host => exists c : Ledger, Settled ⟨name, ⟨seed⟩⟩ [] c ∧
    Follows ⟨name, ⟨seed⟩⟩ c host.runtime ∧ NoSnapshot ⟨name, ⟨seed⟩⟩ host.runtime.store) ?_ ?_
  · apply Triple.mapError
    refine Host.found_triple.weaken (fun _ h => h) (fun _ _ h => h) ?_
    rintro reason host ⟨hreason, hnone⟩
    exact ⟨hreason.mapped, Or.inl hnone⟩
  · intro _
    refine Triple.bind (fun _ host => exists c : Ledger, Settled ⟨name, ⟨seed⟩⟩ [] c ∧
      Follows ⟨name, ⟨seed⟩⟩ c host.runtime ∧
      NoSnapshot ⟨name, ⟨seed⟩⟩ host.runtime.store) ?_ ?_
    · constructor
      rintro host ⟨c, hsettled, hfollows, hnone⟩
      rcases hfollows.engine.world with ⟨_, _, hworld⟩
      unfold Host.world
      rw [hworld]
      exact ⟨c, hsettled, hfollows, hnone⟩
    · intro _
      apply Triple.mapError
      constructor
      rintro host ⟨c, hsettled, hfollows, hnone⟩
      apply Ended.Meets.weaken hfollows.saveWorld
      · rintro _ after ⟨hgoing, hdocuments⟩
        rw [hsettled.tick] at hgoing
        exact ⟨c, hsettled, hgoing, hdocuments⟩
      · rintro reason after ⟨hreason, hunsaved⟩
        refine ⟨hreason.mapped, ?_⟩
        rcases hunsaved.snapshot with hsame | hnew
        · exact Or.inl (hnone.congr hsame)
        · right
          refine ⟨c.tick, hnew, ?_⟩
          intro ending
          exact ⟨c, ⟨[], List.prefix_rfl, hsettled⟩, Nat.le_refl _, hunsaved.rests ending⟩

/-!
## Spawning
-/

theorem spawnNumber_triple [BatchJson.Lossless] {spawned spawns : List SpawnEntityCmd}
    {place : UInt32 -> Option SpawnEntityCmd} {failure : String} {i : Nat}
    {spawn : SpawnEntityCmd} (hplace : place (UInt32.ofNat i) = some spawn)
    (hbefore : spawned <+: spawns) (hspawns : spawned ++ [spawn] <+: spawns) :
    Triple (Populated cmd spawned) (spawnNumber place failure i)
      (fun _ => Populated cmd (spawned ++ [spawn]))
      (fun reason host => OnlyInCommand reason ∧ CreationLeaves cmd spawns host) := by
  unfold spawnNumber
  rw [hplace]
  refine Triple.bind (fun spawn' host => spawn' = spawn ∧ Populated cmd spawned host)
    (Triple.ret fun _ h => ⟨rfl, h⟩) ?_
  intro spawn'
  refine Triple.bind (fun _ => Populated cmd (spawned ++ [spawn])) ?_
    fun _ => Triple.ret fun _ h => h
  apply Triple.mapError
  constructor
  rintro host ⟨hsame, c, hsettled, hgoing⟩
  subst hsame
  have htriple : Triple (Going cmd c 0) (Host.processCommand (.spawnEntity spawn')) _ _ :=
    Host.processCommand_triple rfl fun after hafter _ => by
      rw [hsettled.tick, (hsettled.spawn hafter).tick]
  apply Ended.Meets.weaken (htriple.meets host hgoing)
  · rintro _ state ⟨after, hafter, _, hgoing'⟩
    exact ⟨after, hsettled.spawn hafter, hgoing'⟩
  · rintro reason state ⟨hreason, hleaves⟩
    refine ⟨hreason.mapped, hleaves.mono ?_⟩
    rintro low c' ⟨_, hc⟩
    rcases hc with hsame | ⟨hafter, _⟩
    · rw [hsame]
      exact ⟨spawned, hbefore, hsettled⟩
    · exact ⟨_, hspawns, hsettled.spawn hafter⟩

theorem spawnAll_triple [BatchJson.Lossless] {spawned spawns : List SpawnEntityCmd}
    {place : UInt32 -> Option SpawnEntityCmd} {failure : String} {count : Nat}
    (hplace : forall i : UInt32, exists spawn : SpawnEntityCmd, place i = some spawn)
    (hspawns : spawned ++ placements place count <+: spawns) :
    Triple (Populated cmd spawned) (Process.forRange (spawnNumber place failure) 0 count)
      (fun _ => Populated cmd (spawned ++ placements place count))
      (fun reason host => OnlyInCommand reason ∧ CreationLeaves cmd spawns host) := by
  let invariant (i : Nat) : Host -> Prop := Populated cmd (spawned ++ placements place i)
  have hall : Triple (invariant 0) (Process.forRange (spawnNumber place failure) 0 count)
      (fun _ => invariant (0 + count))
      (fun reason host => OnlyInCommand reason ∧ CreationLeaves cmd spawns host) := by
    apply Triple.forRange
    intro i _ hi
    rw [Nat.zero_add] at hi
    rcases hplace (UInt32.ofNat i) with ⟨spawn, hspawn⟩
    have hnext : spawned ++ placements place (i + 1) =
        spawned ++ placements place i ++ [spawn] := by
      rw [placements_succ hspawn, List.append_assoc]
    have hupTo {n : Nat} (hle : n ≤ count) : spawned ++ placements place n <+: spawns :=
      ((List.prefix_append_right_inj spawned).mpr (placements_mono place hle)).trans hspawns
    have hafter := hupTo hi
    rw [hnext] at hafter
    show Triple (Populated cmd (spawned ++ placements place i)) _
      (fun _ => Populated cmd (spawned ++ placements place (i + 1))) _
    rw [hnext]
    exact spawnNumber_triple hspawn (hupTo (Nat.le_of_lt hi)) hafter
  rw [Nat.zero_add] at hall
  have hstart : invariant 0 = Populated cmd spawned :=
    congrArg (Populated cmd) (List.append_nil spawned)
  rw [hstart] at hall
  exact hall

theorem populate_triple [MetaJson.Lossless] [SnapshotJson.Lossless] [BatchJson.Lossless]
    {resources creatures : UInt32} :
    Triple (Populated cmd []) (populate resources creatures)
      (fun _ host => exists c : Ledger,
        Settled cmd (initialEntities resources creatures) c ∧
        Going cmd c 0 host ∧ Documents c (host.runtime.store.names cmd.worldId))
      (fun reason host => OnlyInCommand reason ∧
        CreationLeaves cmd (initialEntities resources creatures) host) := by
  have hresource (i : UInt32) : exists spawn : SpawnEntityCmd, resourceAt i = some spawn := by
    rcases resourceAt_placed i with ⟨spawn, hspawn, _⟩
    exact ⟨spawn, hspawn⟩
  have hcreature (i : UInt32) : exists spawn : SpawnEntityCmd, creatureAt i = some spawn := by
    rcases creatureAt_placed i with ⟨spawn, hspawn, _⟩
    exact ⟨spawn, hspawn⟩
  unfold populate
  refine Triple.bind _ (spawnAll_triple hresource (List.prefix_append _ _)) ?_
  intro _
  refine Triple.bind _ (spawnAll_triple hcreature List.prefix_rfl) ?_
  intro _
  apply Triple.mapError
  constructor
  rintro host ⟨c, hsettled, hgoing⟩
  apply Ended.Meets.weaken (Host.saveWorld_triple.meets host hgoing)
  · rintro _ after ⟨hsaved, hdocuments⟩
    rw [hsettled.tick] at hsaved
    exact ⟨c, hsettled, hsaved, hdocuments⟩
  · rintro reason after ⟨hreason, hleaves⟩
    refine ⟨hreason.mapped, hleaves.mono ?_⟩
    rintro low c' ⟨_, hc⟩
    rw [hc]
    exact ⟨_, List.prefix_rfl, hsettled⟩

/-!
## Listing
-/

/-- The world is among those of `list_worlds`. -/
def Listed (worldId : String) (host : Host) : Prop :=
  host.runtime.store.exist worldId = true

variable {worldId : String}

omit [MetaJson] [SnapshotJson] [Crc32] [BatchJson] in
theorem FilesystemStore.exist_of_read {store next : FilesystemStore}
    (h : store.exist worldId = true)
    (hread : ((store.names worldId).read "meta.json").isSome = true ->
      ((next.names worldId).read "meta.json").isSome = true) : next.exist worldId = true := by
  rcases exist_iff.mp h with ⟨hvalid, hsome⟩
  exact exist_iff.mpr ⟨hvalid, hread hsome⟩

omit [SnapshotJson] [Crc32] [BatchJson] in
theorem FilesystemStore.exist_committed {R C E : Type} [IEventLog E]
    {ps : PersistentSimulation R C E FilesystemStore} {saved : World} {snapshot : Bytes}
    {log : E} {next : FilesystemStore}
    (hcommitted : PersistentSimulation.Committed ps saved snapshot log next)
    (h : ps.store.exist worldId = true) : next.exist worldId = true := by
  have hsnapshot {store : FilesystemStore} {result : SimResult Unit}
      (hsave : IWorldStore.saveSnapshot ps.store saved.id snapshot = (result, store)) :
      store.exist worldId = true := by
    have hsaved := ps.store.saveSnapshot_saved saved.id snapshot
    rw [show ps.store.saveSnapshot saved.id snapshot = (result, store) from hsave] at hsaved
    apply exist_of_read h
    rw [hsaved.read_other worldId (by decide) (by decide)]
    exact id
  rcases hcommitted.store_cases with hsame | ⟨result, hsave⟩ | ⟨middle, result, hsave, hmeta⟩
  · rw [hsame]
    exact h
  · exact hsnapshot hsave
  · have hsaved := middle.saveMeta_saved saved.worldMeta
    rw [show middle.saveMeta saved.worldMeta = (result, next) from hmeta] at hsaved
    apply exist_of_read (hsnapshot hsave)
    intro hsome
    by_cases hother : worldId = saved.worldMeta.worldId
    · subst hother
      rcases hsaved.read_self (by decide) with ⟨_, _, _, hread⟩ | hread
      · rw [hread]
        rfl
      · rw [hread]
        exact hsome
    · rw [hsaved.names_other hother]
      exact hsome

omit [SnapshotJson] in
theorem Host.processCommand_listed {command : SimCommand} :
    Triple (Listed worldId) (Host.processCommand command) (fun _ => Listed worldId)
      (fun _ => Listed worldId) := by
  constructor
  intro host h
  unfold Host.processCommand
  simp only [Host.nextCall]
  cases hprocess : (host.runtime.withRecords (host.calls.headD {}).records).processCommand
      command with
  | none => exact h
  | some answer =>
      rcases answer with ⟨result, runtime⟩
      have hstore : runtime.store = host.runtime.store :=
        (PersistentSimulation.processCommand_eq_some.mp hprocess).store
      have hlisted : Listed worldId { runtime := runtime, calls := host.calls.tail } := by
        unfold Listed
        rw [hstore]
        exact h
      exact Host.answer_meets (fun _ _ => hlisted) (fun _ _ => hlisted)

theorem Host.saveWorld_listed :
    Triple (Listed worldId) Host.saveWorld (fun _ => Listed worldId)
      (fun _ => Listed worldId) := by
  constructor
  intro host h
  unfold Host.saveWorld
  simp only [Host.nextCall]
  cases hkilled : (host.calls.headD {}).killed with
  | some last =>
      rcases PersistentSimulation.saveUntil_cases last
        (({ host with calls := host.calls.tail } : Host).readyToSave (host.calls.headD {})) with
        hsame | ⟨_, _, _, hcommitted⟩
      · show ((({ host with calls := host.calls.tail } : Host).readyToSave
          (host.calls.headD {})).saveUntil last).store.exist worldId = true
        rw [hsame]
        exact h
      · exact FilesystemStore.exist_committed hcommitted h
  | none =>
      simp only
      cases hsave : (({ host with calls := host.calls.tail } : Host).readyToSave
          (host.calls.headD {})).saveWorld with
      | mk result runtime =>
          have hlisted : Listed worldId { runtime := runtime, calls := host.calls.tail } := by
            rcases PersistentSimulation.saveWorld_cases hsave with
              hsame | ⟨_, _, _, hcommitted⟩
            · show runtime.store.exist worldId = true
              rw [hsame]
              exact h
            · exact FilesystemStore.exist_committed hcommitted h
          exact Host.answer_meets (fun _ _ => hlisted) (fun _ _ => hlisted)

omit [SnapshotJson] in
theorem spawnAll_listed {place : UInt32 -> Option SpawnEntityCmd} {failure : String}
    {count : Nat} :
    Triple (Listed worldId) (Process.forRange (spawnNumber place failure) 0 count)
      (fun _ => Listed worldId) (fun _ => Listed worldId) := by
  refine @Triple.forRange _ _ _ _ _ (fun _ => Listed worldId) 0 count ?_
  intro i _ _
  unfold spawnNumber
  refine Triple.bind (fun _ => Listed worldId) ?_ ?_
  · exact Triple.orPanic (fun _ _ _ h => h) (fun _ _ h => h)
  · intro spawn
    refine Triple.bind (fun _ => Listed worldId) ?_ fun _ => Triple.ret fun _ h => h
    exact Triple.mapError Host.processCommand_listed

theorem populate_listed {resources creatures : UInt32} :
    Triple (Listed worldId) (populate resources creatures) (fun _ => Listed worldId)
      (fun _ => Listed worldId) := by
  unfold populate
  refine Triple.bind _ spawnAll_listed fun _ => ?_
  refine Triple.bind _ spawnAll_listed fun _ => ?_
  exact Triple.mapError Host.saveWorld_listed

end Hosts

end Seej
