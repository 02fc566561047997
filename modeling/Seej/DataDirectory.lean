import Seej.ServerCreation
import Seej.ServerRuns

/-!
# The data directory between processes

What one process of the server leaves in the data directory is what the next one opens.
A run leaves a later ledger of the world, and a creation its first ledgers.
-/

namespace Seej

open Foundation

def DataDir.store (dir : DataDir) : FilesystemStore :=
  { basePath := dir.basePath, worlds := dir.worlds, saves := [] }

theorem CreateWorldCmd.worldId_valid (cmd : CreateWorldCmd) :
    validateWorldIdResult cmd.worldId = .ok () :=
  validateWorldIdResult_worldIdOfSeed cmd.seed

section Directories

variable [MetaJson] [SnapshotJson] [Crc32] [BatchJson]

/-!
## Opening a data directory
-/

/-- The data directory holds the ledger of a world, with a snapshot since a tick. -/
structure OnDisk (cmd : CreateWorldCmd) (c : Ledger) (low : Nat) (dir : DataDir) : Prop where
  rests : Rests cmd c (dir.logFile cmd.worldId) dir.store
  since : SnapshotSince low dir.store cmd.worldId
  low_le : low ≤ c.tick

omit [MetaJson] [SnapshotJson] in
/-- A process that opens its log without a fault in reading a record starts as one without
any fault, or does not start. -/
theorem createSimulation_unharmed {io : OpenIo} (h : io.log.ReadsRecords) (dir : DataDir)
    (worldId : String) :
    createSimulation io dir worldId = createSimulation {} dir worldId ∨
      exists e : String, createSimulation io dir worldId = .stopped (.failed e) := by
  unfold createSimulation FilesystemStore.new
  cases io.createDir with
  | some e => exact Or.inr ⟨_, rfl⟩
  | none =>
      simp only
      cases FilesystemStore.eventsDir ⟨dir.basePath, dir.worlds, []⟩ worldId with
      | error e => exact Or.inl rfl
      | ok path =>
          simp only
          rcases FileEventLog.openWith_unharmed h (dir.logFile worldId) with hsame | ⟨e, herror⟩
          · rw [hsame]
            exact Or.inl rfl
          · rw [herror]
            exact Or.inr ⟨_, rfl⟩

omit [MetaJson] [SnapshotJson] in
theorem createSimulation_found {dir : DataDir} {worldId : String} {frames : List WalFrame}
    (hvalid : validateWorldIdResult worldId = .ok ())
    (hfound : Found frames (dir.logFile worldId)) :
    exists runtime : ServerRuntime FilesystemStore,
      createSimulation {} dir worldId = .returned runtime ∧ Holds runtime.eventLog frames ∧
        FilesystemStore.SameDocuments runtime.store dir.store := by
  rcases hfound with ⟨log, hnew, hholds⟩
  have hopened : FileEventLog.openWith {} .repair (dir.logFile worldId) = some (.ok log) := hnew
  unfold createSimulation FilesystemStore.new
  simp only
  unfold FilesystemStore.eventsDir
  rw [FilesystemStore.worldDir_of_valid hvalid, hopened]
  exact ⟨_, rfl, hholds, FilesystemStore.showLog_same _ _ _⟩

theorem OnDisk.opened {cmd : CreateWorldCmd} {c : Ledger} {low : Nat} {dir : DataDir}
    (h : OnDisk cmd c low dir) {runtime : ServerRuntime FilesystemStore}
    (hlog : Holds runtime.eventLog c.frames)
    (hsame : FilesystemStore.SameDocuments runtime.store dir.store) (calls : List CallIo) :
    Opened cmd c low { runtime := runtime, calls := calls } :=
  ⟨h.rests.archived.same hsame, hlog, hsame.since h.since, h.low_le⟩

/-!
## Leaving a data directory
-/

omit [MetaJson] [SnapshotJson] [Crc32] [BatchJson] in
theorem DataDir.left_same (dir : DataDir) (worldId : String)
    (runtime : ServerRuntime FilesystemStore) (ending : FileEventLog.Ending) :
    FilesystemStore.SameDocuments (dir.left worldId runtime ending).store runtime.store :=
  runtime.store.showLog_same worldId _

omit [MetaJson] [SnapshotJson] in
theorem Found.file {frames : List WalFrame} {file : Option Bytes} (h : Found frames file)
    (hne : framesEvents frames ≠ []) : exists content : Bytes, file = some content := by
  cases file with
  | some content => exact ⟨content, rfl⟩
  | none =>
      rcases h with ⟨log, hnew, hholds⟩
      have hnothing : (none : Option Bytes).getD [] = joined ([] : List WalFrame) := rfl
      rcases (Holds.empty {}).new_path hnothing with ⟨log', hnew', hempty, _⟩
      cases hnew.symm.trans hnew'
      have hlength := hholds.counts.nextEventId.symm.trans hempty.counts.nextEventId
      exact absurd (List.eq_nil_of_length_eq_zero (Nat.succ.inj hlength)) hne

omit [MetaJson] [SnapshotJson] [Crc32] [BatchJson] in
theorem DataDir.left_logFile (dir : DataDir) (worldId : String)
    (runtime : ServerRuntime FilesystemStore) {ending : FileEventLog.Ending} {content : Bytes}
    (h : runtime.eventLog.left ending = some content) :
    (dir.left worldId runtime ending).logFile worldId = some content := by
  show ((runtime.store.showLog worldId (runtime.eventLog.left ending)).names worldId).read
    "events" = some content
  rw [h]
  have hworlds : (runtime.store.showLog worldId (some content)).worlds =
      runtime.store.worlds.insert worldId _ := rfl
  unfold Directory.read
  rw [FilesystemStore.names_of_worlds hworlds, if_pos rfl, Function.update_self]
  rfl

theorem Leaves.onDisk {cmd : CreateWorldCmd} {property : Nat -> Ledger -> Prop} {host : Host}
    (h : Leaves cmd property host) (dir : DataDir) (ending : FileEventLog.Ending) :
    exists (c : Ledger) (low : Nat), property low c ∧
      OnDisk cmd c low (dir.left cmd.worldId host.runtime ending) := by
  rcases h with ⟨low, hsince, hleft⟩
  rcases hleft ending with ⟨c, hproperty, hle, harchived, hfound⟩
  have hsame := dir.left_same cmd.worldId host.runtime ending
  rcases hfound.file harchived.nonempty with ⟨content, hcontent⟩
  refine ⟨c, low, hproperty, ⟨harchived.same hsame, ?_⟩, hsame.since hsince, hle⟩
  rw [DataDir.left_logFile _ _ _ hcontent, ← hcontent]
  exact hfound

theorem Going.left_logFile {cmd : CreateWorldCmd} {c : Ledger} {low : Nat} {host : Host}
    (h : Going cmd c low host) (dir : DataDir) (ending : FileEventLog.Ending) :
    (dir.left cmd.worldId host.runtime ending).logFile cmd.worldId = some (joined c.frames) := by
  have hfile := h.follows.log.left_file ending
  rcases (h.follows.log.found ending).file h.follows.archived.nonempty with ⟨content, hcontent⟩
  rw [hcontent] at hfile
  have hjoined : content = joined c.frames := hfile
  rw [DataDir.left_logFile _ _ _ hcontent, hjoined]

omit [Crc32] [BatchJson] in
theorem Documents.left {c : Ledger} {worldId : String}
    {runtime : ServerRuntime FilesystemStore}
    (h : Documents c (runtime.store.names worldId)) (dir : DataDir)
    (ending : FileEventLog.Ending) :
    Documents c ((dir.left worldId runtime ending).store.names worldId) := by
  have hsame := dir.left_same worldId runtime ending
  rcases h with ⟨snapshot, text, hencode, htext, hsnapshot, hmeta⟩
  refine ⟨snapshot, text, hencode, htext, ?_, ?_⟩
  · rw [← hsnapshot]
    unfold Directory.read
    rw [hsame worldId _ (Or.inr rfl)]
  · rw [← hmeta]
    unfold Directory.read
    rw [hsame worldId _ (Or.inl rfl)]

/-!
## `run` on a data directory
-/

structure Finished (cmd : CreateWorldCmd) (first : Ledger) (ticks : Nat)
    (summary : RunSummary) (c : Ledger) (dir : DataDir) : Prop where
  later : Later first ticks c
  documents : Documents c (dir.store.names cmd.worldId)
  log : dir.logFile cmd.worldId = some (joined c.frames)
  ticksRun : summary.ticksRun.toNat = ticks
  startTick : summary.startTick = first.world.currentTick
  finalTick : summary.finalTick = c.world.currentTick

structure AfterRun (cmd : CreateWorldCmd) (first : Ledger) (lag : Nat)
    (maxTicks saveInterval : UInt64) (passes : Nat) (ended : Ended String PanicSite RunSummary)
    (c : Ledger) (low : Nat) (dir : DataDir) : Prop where
  onDisk : OnDisk cmd c low dir
  later : exists ticks : Nat, Later first ticks c
  fresh : 0 < saveInterval -> c.tick ≤ low + lag + saveInterval.toNat
  panics : forall site : PanicSite, ended = .stopped (.panicked site) -> site = .command
  returns : forall summary : RunSummary, ended = .returned summary ->
    low = c.tick ∧ Finished cmd first (ranTicks maxTicks passes) summary c dir

theorem OnDisk.run [MetaJson.Lossless] [SnapshotJson.Lossless] [BatchJson.Lossless]
    {cmd : CreateWorldCmd} {first : Ledger} {low : Nat} {dir final : DataDir}
    (h : OnDisk cmd first low dir) (hpaced : first.Paced) {io : ServerIo} (hreads : io.ReadsLog)
    {maxTicks saveInterval : UInt64} {passes : Nat}
    {ended : Ended String PanicSite RunSummary}
    (hrun : cmdRun io dir cmd.worldId maxTicks saveInterval passes = (ended, final)) :
    exists (c : Ledger) (low' : Nat),
      AfterRun cmd first (first.tick - low) maxTicks saveInterval passes ended c low' final := by
  have hlag : first.tick ≤ low + (first.tick - low) :=
    Nat.le_of_eq (Nat.add_sub_cancel' h.low_le).symm
  unfold cmdRun withSimulation at hrun
  rcases createSimulation_unharmed hreads dir cmd.worldId with hunharmed | ⟨e, hfailed⟩
  case inr =>
    rw [hfailed] at hrun
    cases hrun
    exact ⟨first, low, h, ⟨0, Later.refl hpaced⟩,
      fun _ => Nat.le_trans hlag (Nat.le_add_right _ _), nofun, nofun⟩
  case inl =>
    rcases createSimulation_found cmd.worldId_valid h.rests.found with
      ⟨runtime, hreturned, hlog, hsame⟩
    rw [hunharmed, hreturned] at hrun
    have hopened := h.opened hlog hsame io.calls
    simp only at hrun
    rcases hworld : runWorld cmd.worldId maxTicks saveInterval passes ⟨runtime, io.calls⟩ with
      ⟨ended', host⟩
    rw [hworld] at hrun
    cases hrun
    cases ended' with
    | stopped reason =>
        rcases (runWorld_triple hpaced).stopped hopened hworld with ⟨hreason, hleaves⟩
        rcases hleaves.onDisk dir io.ending with ⟨c, low', ⟨hlater, hfresh⟩, hdisk⟩
        refine ⟨c, low', hdisk, hlater, hfresh, ?_, nofun⟩
        intro site hsite
        cases hsite
        exact hreason site rfl
    | returned summary =>
        rcases (runWorld_triple hpaced).returned hopened hworld with ⟨c, hend⟩
        have hleaves : Leaves cmd (fun low' c' => low' = c.tick ∧ c' = c) host :=
          hend.going.leaves ⟨rfl, rfl⟩
        rcases hleaves.onDisk dir io.ending with ⟨c', low', ⟨hlow, hc⟩, hdisk⟩
        subst hc
        subst hlow
        refine ⟨c', c'.tick, hdisk, ⟨_, hend.later⟩, ?_, nofun, ?_⟩
        · intro _
          exact Nat.le_trans (Nat.le_add_right _ _) (Nat.le_add_right _ _)
        · rintro summary' hsummary
          cases hsummary
          exact ⟨rfl, hend.later, hend.documents.left dir io.ending,
            hend.going.left_logFile dir io.ending, hend.ticksRun, hend.startTick,
            hend.finalTick⟩

/-!
## `create` in an empty data directory
-/

structure Completed (cmd : CreateWorldCmd) (spawns : List SpawnEntityCmd) (c : Ledger)
    (dir : DataDir) : Prop where
  settled : Settled cmd spawns c
  documents : Documents c (dir.store.names cmd.worldId)
  log : dir.logFile cmd.worldId = some (joined c.frames)

def Begun (cmd : CreateWorldCmd) (spawns : List SpawnEntityCmd) (dir : DataDir) : Prop :=
  exists (spawned : List SpawnEntityCmd) (c : Ledger), spawned <+: spawns ∧
    Settled cmd spawned c ∧ OnDisk cmd c 0 dir

theorem CreationLeaves.begun {cmd : CreateWorldCmd} {spawns : List SpawnEntityCmd} {host : Host}
    (h : CreationLeaves cmd spawns host) (dir : DataDir) (ending : FileEventLog.Ending) :
    Begun cmd spawns (dir.left cmd.worldId host.runtime ending) := by
  rcases h.onDisk dir ending with ⟨c, low, ⟨spawned, hspawned, hsettled⟩, hdisk⟩
  exact ⟨spawned, c, hspawned, hsettled, hdisk.rests, hdisk.since.mono (Nat.zero_le _),
    Nat.zero_le _⟩

omit [SnapshotJson] in
theorem createSimulation_blank {dir : DataDir} (hempty : dir.worlds = ∅) (io : OpenIo)
    (cmd : CreateWorldCmd) :
    (exists e : String, createSimulation io dir cmd.worldId = .stopped (.failed e)) ∨
      exists runtime : ServerRuntime FilesystemStore,
        createSimulation io dir cmd.worldId = .returned runtime ∧
          forall calls : List CallIo, Blank { runtime := runtime, calls := calls } := by
  have hstore : EmptyStore dir.store := FilesystemStore.empty_of_no_worlds hempty
  have hnone : dir.logFile cmd.worldId = none := by
    unfold DataDir.logFile
    rw [hempty]
    rfl
  have hopened : FileEventLog.openWith io.log .repair (dir.logFile cmd.worldId) =
      some (.ok (FileEventLog.closed none)) := by
    rw [hnone]
    rfl
  unfold createSimulation FilesystemStore.new
  cases io.createDir with
  | some e => exact Or.inl ⟨_, rfl⟩
  | none =>
      right
      simp only
      unfold FilesystemStore.eventsDir
      rw [FilesystemStore.worldDir_of_valid cmd.worldId_valid, hopened]
      have hsame : FilesystemStore.SameDocuments (dir.store.showLog cmd.worldId none) dir.store :=
        FilesystemStore.showLog_same _ _ _
      exact ⟨_, rfl, fun _ => ⟨Holds.empty {}, hsame.emptyStore hstore⟩⟩

structure AfterCreation (cmd : CreateWorldCmd) (spawns : List SpawnEntityCmd)
    (ended : Ended String PanicSite Unit) (dir : DataDir) : Prop where
  left : NoSnapshot cmd dir.store ∨ Begun cmd spawns dir
  panics : forall site : PanicSite, ended = .stopped (.panicked site) -> site = .command
  returns : ended = .returned () -> exists c : Ledger,
    OnDisk cmd c 0 dir ∧ Completed cmd spawns c dir

theorem AfterCreation.populated [MetaJson.Lossless] [SnapshotJson.Lossless]
    [BatchJson.Lossless] {cmd : CreateWorldCmd} {resources creatures : UInt32} {host last : Host}
    (h : Populated cmd [] host) {ended : Ended String PanicSite Unit}
    (hpopulate : populate resources creatures host = (ended, last)) (dir : DataDir)
    (ending : FileEventLog.Ending) :
    Begun cmd (initialEntities resources creatures) (dir.left cmd.worldId last.runtime ending) ∧
      AfterCreation cmd (initialEntities resources creatures) ended
        (dir.left cmd.worldId last.runtime ending) := by
  cases ended with
  | stopped reason =>
      rcases populate_triple.stopped h hpopulate with ⟨hreason, hleaves⟩
      have hbegun := CreationLeaves.begun hleaves dir ending
      refine ⟨hbegun, Or.inr hbegun, ?_, nofun⟩
      intro site hsite
      cases hsite
      exact hreason site rfl
  | returned value =>
      rcases populate_triple.returned h hpopulate with ⟨c, hsettled, hgoing, hdocuments⟩
      have hleaves : Leaves cmd (fun low' c' => low' = 0 ∧ c' = c) last :=
        hgoing.leaves ⟨rfl, rfl⟩
      rcases hleaves.onDisk dir ending with ⟨c', low', ⟨hlow, hc⟩, hdisk⟩
      subst hlow
      subst hc
      have hbegun : Begun cmd (initialEntities resources creatures)
          (dir.left cmd.worldId last.runtime ending) :=
        ⟨_, c', List.prefix_rfl, hsettled, hdisk⟩
      exact ⟨hbegun, Or.inr hbegun, nofun, fun _ => ⟨c', hdisk, hsettled,
        hdocuments.left dir ending, hgoing.left_logFile dir ending⟩⟩

section Parts

variable {io : ServerIo} {dir : DataDir} {name : String} {seed : UInt64}
  {resources creatures : UInt32} {runtime : ServerRuntime FilesystemStore} {host : Host}

theorem cmdCreate_stopped {reason : Stop String PanicSite}
    (hopened : createSimulation io.opening dir s!"world_{seed}" = .returned runtime)
    (hgenesis : foundWorld name seed ⟨runtime, io.calls⟩ = (.stopped reason, host)) :
    cmdCreate io dir name seed resources creatures =
      (.stopped reason, dir.left s!"world_{seed}" host.runtime io.ending) := by
  have hsplit : createWorld name seed resources creatures ⟨runtime, io.calls⟩ =
      Process.andThen (foundWorld name seed) (fun _ => populate resources creatures)
        ⟨runtime, io.calls⟩ := rfl
  unfold Process.andThen at hsplit
  rw [hgenesis] at hsplit
  unfold cmdCreate withSimulation
  rw [hopened]
  simp only
  rw [hsplit]

theorem cmdCreate_founded {ended : Ended String PanicSite Unit} {last : Host}
    (hopened : createSimulation io.opening dir s!"world_{seed}" = .returned runtime)
    (hgenesis : foundWorld name seed ⟨runtime, io.calls⟩ = (.returned (), host))
    (hpopulate : populate resources creatures host = (ended, last)) :
    cmdCreate io dir name seed resources creatures =
      (ended, dir.left s!"world_{seed}" last.runtime io.ending) := by
  have hsplit : createWorld name seed resources creatures ⟨runtime, io.calls⟩ =
      Process.andThen (foundWorld name seed) (fun _ => populate resources creatures)
        ⟨runtime, io.calls⟩ := rfl
  unfold Process.andThen at hsplit
  rw [hgenesis] at hsplit
  simp only at hsplit
  rw [hpopulate] at hsplit
  unfold cmdCreate withSimulation
  rw [hopened]
  simp only
  rw [hsplit]

end Parts

theorem cmdCreate_leaves [MetaJson.Lossless] [SnapshotJson.Lossless] [BatchJson.Lossless]
    {dir final : DataDir} (hempty : dir.worlds = ∅) {io : ServerIo} {name : String}
    {seed : UInt64} {resources creatures : UInt32} {ended : Ended String PanicSite Unit}
    (hcreate : cmdCreate io dir name seed resources creatures = (ended, final)) :
    AfterCreation ⟨name, ⟨seed⟩⟩ (initialEntities resources creatures) ended final := by
  rcases createSimulation_blank hempty io.opening ⟨name, ⟨seed⟩⟩ with
    ⟨e, hfailed⟩ | ⟨runtime, hopened, hblank⟩
  · have hstarted : createSimulation io.opening dir s!"world_{seed}" = .stopped (.failed e) :=
      hfailed
    unfold cmdCreate withSimulation at hcreate
    rw [hstarted] at hcreate
    cases hcreate
    have hstore : EmptyStore dir.store := FilesystemStore.empty_of_no_worlds hempty
    exact ⟨Or.inl (NoSnapshot.of_empty hstore), nofun, nofun⟩
  · rcases hgenesis : foundWorld name seed ⟨runtime, io.calls⟩ with ⟨founded, host⟩
    cases founded with
    | stopped reason =>
        cases (cmdCreate_stopped hopened hgenesis).symm.trans hcreate
        rcases foundWorld_triple.stopped (hblank io.calls) hgenesis with ⟨hreason, hleft⟩
        refine ⟨?_, ?_, nofun⟩
        · rcases hleft with hnone | hleaves
          · left
            exact hnone.congr ((dir.left_same _ host.runtime io.ending).loadSnapshot _)
          · right
            rcases CreationLeaves.begun hleaves dir io.ending with ⟨spawned, c, hspawned, h⟩
            rw [List.prefix_nil.mp hspawned] at h
            exact ⟨[], c, List.nil_prefix, h⟩
        · intro site hsite
          cases hsite
          exact hreason site rfl
    | returned _ =>
        rcases foundWorld_triple.returned (hblank io.calls) hgenesis with
          ⟨c, hsettled, hgoing, _⟩
        rcases hpopulate : populate resources creatures host with ⟨ended', last⟩
        cases (cmdCreate_founded hopened hgenesis hpopulate).symm.trans hcreate
        exact (AfterCreation.populated ⟨c, hsettled, hgoing⟩ hpopulate dir io.ending).right

end Directories

end Seej
