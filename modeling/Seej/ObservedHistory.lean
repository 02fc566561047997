import Seej.CommandLine
import Seej.DumpedWorld
import Seej.ServerHistory
import Seej.StatusReport
import Seej.WalInspection

/-!
# Observing a history

What the command line prints of a world after any history of the server.  It opens the log
for inspection, so it shows the world that the next process recovers, or refuses because a
stopped process has left a torn log.
-/

namespace Seej

open Foundation

section Observation

variable [MetaJson] [SnapshotJson] [Crc32] [BatchJson] [Lowercase]

/-!
## What the commands print
-/

def Commands.answer (events : List SimEvent) (world : World) :
    Commands -> Option (Except String (List String))
  | .status _ => statusOf world events.length
  | .events _ count fromTick => some (.ok (eventLines count (filterFromTick fromTick events)))
  | .entity _ entityId => some (entityOf entityId world)
  | .entities _ kind => some (.ok (entitiesOf kind world))
  | .zones _ => some (.ok (zonesOf world))

def Reopens (dir : DataDir) (worldId : String) (events replayed : List SimEvent)
    (world : World) : Prop :=
  exists runtime next : ServerRuntime FilesystemStore,
    createSimulation {} dir worldId = .returned runtime ∧
    runtime.eventLog.readAllValid = .ok events ∧
    runtime.loadWorld worldId = some (.ok replayed, next) ∧ next.sim.world = some world

inductive Inspected (dir : DataDir) (worldId : String) (events replayed : List SimEvent)
    (world : World) : Prop where
  | whole {log : FileEventLog}
      (hopen : FileEventLog.openReadOnly (dir.logFile worldId) = some (.ok log))
      (hlen : log.len = events.length) (hread : log.readAllValid = .ok events)
      (hload : loadWorldWithReplayed (.ok dir.store) (dir.logFile worldId) worldId =
        some (.ok (world, replayed)))
  | torn {log : FileEventLog} {e : SimError} {message : String}
      (hopen : FileEventLog.openReadOnly (dir.logFile worldId) = some (.ok log))
      (hread : log.readAllValid = .error e)
      (hload : loadWorldWithReplayed (.ok dir.store) (dir.logFile worldId) worldId =
        some (.error message))

omit [Lowercase] in
theorem loadWorld_of_replayed {dir : DataDir} {worldId : String}
    {loaded : Except String (World × List SimEvent)}
    (h : loadWorldWithReplayed (.ok dir.store) (dir.logFile worldId) worldId = some loaded) :
    loadWorld (.ok dir.store) (dir.logFile worldId) worldId = some (loaded.map Prod.fst) := by
  unfold loadWorld
  rw [h]
  rfl

namespace Inspected

variable {dir : DataDir} {worldId : String} {events replayed : List SimEvent} {world : World}

theorem runCommand_whole {log : FileEventLog} (hvalid : validateWorldIdResult worldId = .ok ())
    (hfile : (dir.logFile worldId).isSome)
    (hopen : FileEventLog.openReadOnly (dir.logFile worldId) = some (.ok log))
    (hlen : log.len = events.length) (hread : log.readAllValid = .ok events)
    (hload : loadWorldWithReplayed (.ok dir.store) (dir.logFile worldId) worldId =
      some (.ok (world, replayed))) {command : Commands} (hcommand : command.world = worldId) :
    runCommand {} dir command = command.answer events world := by
  have hnew : FilesystemStore.new dir.basePath dir.worlds none = .ok dir.store := rfl
  have hloaded := loadWorld_of_replayed hload
  unfold runCommand
  rw [hcommand]
  cases command with
  | status id =>
      have hid : id = worldId := hcommand
      subst hid
      have hcount : walEventCount false (dir.logFile id) = some events.length := by
        unfold walEventCount
        rw [if_pos (Or.inl hfile), hopen, ← hlen]
        rfl
      simp only [hnew, cmdStatus, hloaded, hvalid, hcount]
      rfl
  | events id count fromTick =>
      have hid : id = worldId := hcommand
      subst hid
      simp only [hnew, cmdEvents, hvalid, hopen, Option.map_some, hread]
      rfl
  | entity id entityId =>
      have hid : id = worldId := hcommand
      subst hid
      simp only [hnew, cmdEntity, hloaded]
      rfl
  | entities id kind =>
      have hid : id = worldId := hcommand
      subst hid
      simp only [hnew, cmdEntities, hloaded]
      rfl
  | zones id =>
      have hid : id = worldId := hcommand
      subst hid
      simp only [hnew, cmdZones, hloaded]
      rfl

theorem runCommand_torn {log : FileEventLog} {e : SimError} {message : String}
    (hvalid : validateWorldIdResult worldId = .ok ())
    (hopen : FileEventLog.openReadOnly (dir.logFile worldId) = some (.ok log))
    (hread : log.readAllValid = .error e)
    (hload : loadWorldWithReplayed (.ok dir.store) (dir.logFile worldId) worldId =
      some (.error message)) {command : Commands} (hcommand : command.world = worldId) :
    exists e : String, runCommand {} dir command = some (.error e) := by
  have hnew : FilesystemStore.new dir.basePath dir.worlds none = .ok dir.store := rfl
  have hloaded := loadWorld_of_replayed hload
  unfold runCommand
  rw [hcommand]
  cases command with
  | status id =>
      have hid : id = worldId := hcommand
      subst hid
      exists message
      simp only [hnew, cmdStatus, hloaded]
      rfl
  | events id count fromTick =>
      have hid : id = worldId := hcommand
      subst hid
      simp only [hnew, cmdEvents, hvalid, hopen, Option.map_some, hread]
      exact ⟨_, rfl⟩
  | entity id entityId =>
      have hid : id = worldId := hcommand
      subst hid
      exists message
      simp only [hnew, cmdEntity, hloaded]
      rfl
  | entities id kind =>
      have hid : id = worldId := hcommand
      subst hid
      exists message
      simp only [hnew, cmdEntities, hloaded]
      rfl
  | zones id =>
      have hid : id = worldId := hcommand
      subst hid
      exists message
      simp only [hnew, cmdZones, hloaded]
      rfl

/-- All commands answer from the same world and journal, or all of them fail. -/
theorem commands (h : Inspected dir worldId events replayed world)
    (hvalid : validateWorldIdResult worldId = .ok ()) (hfile : (dir.logFile worldId).isSome) :
    (forall command : Commands, command.world = worldId ->
      runCommand {} dir command = command.answer events world) ∨
    ((exists (log : FileEventLog) (e : SimError),
      FileEventLog.openReadOnly (dir.logFile worldId) = some (.ok log) ∧
        log.readAllValid = .error e) ∧
      forall command : Commands, command.world = worldId ->
        exists e : String, runCommand {} dir command = some (.error e)) := by
  cases h with
  | whole hopen hlen hread hload =>
      left
      intro command hcommand
      exact runCommand_whole hvalid hfile hopen hlen hread hload hcommand
  | torn hopen hread hload =>
      right
      constructor
      · exact ⟨_, _, hopen, hread⟩
      · intro command hcommand
        exact runCommand_torn hvalid hopen hread hload hcommand

end Inspected

/-!
## Data directories
-/

omit [Crc32] [BatchJson] [Lowercase] in
theorem loadRecoveredWorld_same {E : Type} [IEventLog E] {left right : FilesystemStore}
    (h : FilesystemStore.SameDocuments left right) (eventLog : E) (worldId : String) :
    loadRecoveredWorld left eventLog worldId = loadRecoveredWorld right eventLog worldId := by
  have hsnapshot : IWorldStore.loadSnapshot left worldId = IWorldStore.loadSnapshot right worldId :=
    h.loadSnapshot worldId
  have hmeta : IWorldStore.loadMeta left worldId = IWorldStore.loadMeta right worldId :=
    h.loadMeta worldId
  unfold loadRecoveredWorld selectReplay checkRecoveredMeta
  rw [hsnapshot, hmeta]

omit [Lowercase] in
/-- A log that cannot be read is not recovered from. -/
theorem loadWorldWithReplayed_torn {store : FilesystemStore} {file : Option Bytes}
    {worldId : String} {log : FileEventLog} {e : SimError}
    (hvalid : validateWorldIdResult worldId = .ok ())
    (hopen : FileEventLog.openReadOnly file = some (.ok log))
    (hread : log.readAllValid = .error e) :
    exists message : String,
      loadWorldWithReplayed (.ok store) file worldId = some (.error message) := by
  have hrefused : exists e' : SimError, selectReplay store log worldId = .error e' := by
    cases hselect : selectReplay store log worldId with
    | error e' => exact ⟨e', rfl⟩
    | ok found =>
        rcases found with ⟨world, replayed⟩
        rcases selectReplay_eq_ok.mp hselect with ⟨_, _, _, _, events, hevents, _⟩
        have hread' : log.readAllValid = .ok events := hevents
        rw [hread] at hread'
        cases hread'
  rcases hrefused with ⟨e', hselect⟩
  exists recoveryMessage worldId e'
  unfold loadWorldWithReplayed loadRecoveredWorld
  simp only [hvalid, hopen, hselect]
  rfl

structure Observed (cmd : CreateWorldCmd) (c : Ledger) (dir : DataDir) (t : Tick) (n : Nat) :
    Prop where
  le : n ≤ (framesEvents c.frames).length
  saved : Documents c (dir.store.names cmd.worldId) ->
    t = c.world.currentTick ∧ n = (framesEvents c.frames).length
  reopens : Reopens dir cmd.worldId (framesEvents c.frames) ((framesEvents c.frames).drop n)
    (c.world.withCursor t ⟨UInt64.ofNat n⟩)
  inspected : Inspected dir cmd.worldId (framesEvents c.frames)
    ((framesEvents c.frames).drop n) (c.world.withCursor t ⟨UInt64.ofNat n⟩)
  readable : dir.logFile cmd.worldId = some (joined c.frames) ->
    exists log : FileEventLog,
      FileEventLog.openReadOnly (dir.logFile cmd.worldId) = some (.ok log) ∧
        log.readAllValid = .ok (framesEvents c.frames)

omit [Lowercase] in
theorem OnDisk.observed [SnapshotJson.Lossless] {cmd : CreateWorldCmd} {c : Ledger} {low : Nat}
    {dir : DataDir} (h : OnDisk cmd c low dir) :
    exists (t : Tick) (n : Nat), Observed cmd c dir t n := by
  rcases h.since.hasSnapshot with ⟨bytes, hload⟩
  rcases h.rests.archived.recovers hload with ⟨saved, t, n, hdecode, hle, htick, hrecovers⟩
  rcases h.rests.found with ⟨log, hnew, hholds⟩
  have hlt := hholds.counts.length_lt
  have hevents : log.readAllValid = .ok (framesEvents c.frames) := hholds.lists.read
  rcases FileEventLog.readOnly_agrees (dir.logFile cmd.worldId) with
    ⟨inspected, repaired, hopen, hrepaired, hagree⟩ | ⟨_, hnone, _⟩
  case inr => cases hnew.symm.trans hnone
  cases hnew.symm.trans hrepaired
  refine ⟨t, n, ?_⟩
  constructor
  case le => exact hle
  case saved =>
    rintro ⟨snapshot, _, hencode, _, hsnapshot, _⟩
    have hfound : dir.store.loadSnapshot cmd.worldId = .ok snapshot :=
      FilesystemStore.loadSnapshot_eq_ok.mpr ⟨cmd.worldId_valid, hsnapshot⟩
    have hbytes : bytes = snapshot := by
      cases hload.symm.trans hfound
      rfl
    subst hbytes
    have hsame := Except.ok.inj (hdecode.symm.trans (h.rests.archived.decode hencode))
    have hmeta := congrArg World.worldMeta hsame
    constructor
    · rw [← htick]
      exact (congrArg WorldMeta.snapshotTick hmeta :)
    · have hcursor := EventId.ofNat_toNat hlt
      have hcursor' := EventId.ofNat_toNat (Nat.lt_of_le_of_lt (Nat.succ_le_succ hle) hlt)
      rw [← hcursor, ← hcursor']
      exact (congrArg (fun worldMeta => worldMeta.lastEventId.val.toNat) hmeta :)
  case reopens =>
    rcases createSimulation_found cmd.worldId_valid h.rests.found with
      ⟨runtime, hreturned, hlog, hsame⟩
    have hrecovered : loadRecoveredWorld runtime.store runtime.eventLog cmd.worldId = _ :=
      (loadRecoveredWorld_same hsame _ _).trans (hrecovers runtime.eventLog hlog.lists)
    exact ⟨runtime, _, hreturned, hlog.lists.read,
      PersistentSimulation.loadWorld_recovered hrecovered, rfl⟩
  case inspected =>
    cases hread : inspected.readAllValid with
    | error e =>
        rcases loadWorldWithReplayed_torn cmd.worldId_valid hopen hread with ⟨message, htorn⟩
        exact Inspected.torn hopen hread htorn
    | ok events =>
        have hsame : inspected.readAllValid = log.readAllValid :=
          hread.trans (hagree.reads events hread).symm
        have hlast : IEventLog.lastEventId inspected = IEventLog.lastEventId log :=
          hagree.lastEventId
        apply Inspected.whole hopen
        · rw [hagree.len]
          exact hholds.counts.totalEvents
        · exact hsame.trans hevents
        · apply (loadWorldWithReplayed_eq_ok hopen).mpr
          exact (loadRecoveredWorld_congr hsame hlast _ _).trans (hrecovers log hholds.lists)
  case readable =>
    intro hwhole
    refine ⟨inspected, hopen, ?_⟩
    have hkept : log.file = dir.logFile cmd.worldId := by
      rw [hwhole] at hnew ⊢
      rcases new_eq_some hnew with ⟨frames, _, _, _, _, _, hfile, _⟩
      have hjoined := hholds.file
      rw [hfile] at hjoined ⊢
      exact congrArg some hjoined
    cases hread : inspected.readAllValid with
    | error e => exact absurd hkept (hagree.refuses.mp ⟨e, hread⟩)
    | ok events => rw [← hagree.reads events hread, hevents]

/-!
## Histories
-/

omit [MetaJson] [SnapshotJson] [Crc32] [BatchJson] [Lowercase] in
/-- There was no run, or the last one ended by itself. -/
def EndedWell (answers : List (Ended String PanicSite RunSummary)) : Prop :=
  forall ended : Ended String PanicSite RunSummary, answers.getLast? = some ended ->
    exists summary : RunSummary, ended = .returned summary

structure HistoryLeft (cmd : CreateWorldCmd) (spawned : List SpawnEntityCmd)
    (answers : List (Ended String PanicSite RunSummary)) (first c : Ledger) (low : Nat)
    (final : DataDir) : Prop where
  settled : Settled cmd spawned first
  onDisk : OnDisk cmd c low final
  later : exists ticks : Nat, Later first ticks c
  endedWell : EndedWell answers -> Documents c (final.store.names cmd.worldId) ∧
    final.logFile cmd.worldId = some (joined c.frames)
  finalTick : forall summary : RunSummary, answers.getLast? = some (.returned summary) ->
    summary.finalTick = c.world.currentTick

section History

variable [MetaJson.Lossless] [SnapshotJson.Lossless] [BatchJson.Lossless] {name : String}
  {seed : UInt64} {resources creatures : UInt32} {io : ServerIo} {dir made final : DataDir}
  {runs : List ServerRun} {answers : List (Ended String PanicSite RunSummary)}

omit [Lowercase] in
theorem history_left (hempty : dir.worlds = ∅)
    (hmade : cmdCreate io dir name seed resources creatures = (.returned (), made))
    (hrun : run (serveRun s!"world_{seed}") runs made = some (answers, final))
    (hreads : AllReadLog runs) :
    exists (first c : Ledger) (low : Nat),
      HistoryLeft ⟨name, ⟨seed⟩⟩ (initialEntities resources creatures) answers first c low
        final := by
  rcases (cmdCreate_leaves hempty hmade).returns rfl with ⟨first, hdisk, hcompleted⟩
  cases runs with
  | nil =>
      cases hrun
      refine ⟨first, first, 0, hcompleted.settled, hdisk,
        ⟨0, Later.refl hcompleted.settled.paced⟩, ?_, nofun⟩
      intro _
      exact ⟨hcompleted.documents, hcompleted.log⟩
  | cons input rest =>
      rcases hdisk.history hcompleted.settled.paced hreads hrun with ⟨c, low, hafter⟩
      refine ⟨first, c, low, hcompleted.settled, hafter.onDisk, hafter.later, ?_, ?_⟩
      · intro hwell
        rcases run_cons.mp hrun with ⟨answer, _, later, _, _, hanswers⟩
        have hne : answers ≠ [] := by
          rw [hanswers]
          exact List.cons_ne_nil _ _
        rcases hwell _ (List.getLast?_eq_some_getLast hne) with ⟨summary, hsummary⟩
        rcases hafter.last summary (by rw [List.getLast?_eq_some_getLast hne, hsummary]) with
          ⟨_, _, hleft⟩
        exact hleft
      · intro summary hlast
        exact (hafter.last summary hlast).right.left

/-- After every history the command line shows what the next process recovers, or refuses
every command, and that only after a run that was stopped. -/
theorem history_inspected (hempty : dir.worlds = ∅)
    (hmade : cmdCreate io dir name seed resources creatures = (.returned (), made))
    (hrun : run (serveRun s!"world_{seed}") runs made = some (answers, final))
    (hreads : AllReadLog runs) :
    exists (events replayed : List SimEvent) (world : World),
      Reopens final s!"world_{seed}" events replayed world ∧
      ((forall command : Commands, command.world = s!"world_{seed}" ->
          runCommand {} final command = command.answer events world) ∨
        (¬ EndedWell answers ∧ forall command : Commands, command.world = s!"world_{seed}" ->
          exists e : String, runCommand {} final command = some (.error e))) := by
  rcases history_left hempty hmade hrun hreads with ⟨first, c, low, hleft⟩
  rcases hleft.onDisk.observed with ⟨t, n, hobserved⟩
  rcases hleft.onDisk.rests.found.file hleft.onDisk.rests.archived.nonempty with ⟨_, hfile⟩
  refine ⟨_, _, _, hobserved.reopens, ?_⟩
  rcases hobserved.inspected.commands (CreateWorldCmd.worldId_valid ⟨name, ⟨seed⟩⟩)
    (Option.isSome_of_eq_some hfile) with hwhole | ⟨⟨log, e, hopen, hread⟩, htorn⟩
  · exact Or.inl hwhole
  · right
    refine ⟨?_, htorn⟩
    intro hwell
    rcases hobserved.readable (hleft.endedWell hwell).right with ⟨log', hopen', hread'⟩
    cases hopen.symm.trans hopen'
    cases hread.symm.trans hread'

/-- After a history that ended well `status` shows the world at the tick that was reached:
saved there, with a cursor at the end of the journal, and with no entities but those that
are left of the creation. -/
theorem status_after_history (hempty : dir.worlds = ∅)
    (hmade : cmdCreate io dir name seed resources creatures = (.returned (), made))
    (hrun : run (serveRun s!"world_{seed}") runs made = some (answers, final))
    (hreads : AllReadLog runs) (hwell : EndedWell answers) (hresources : resources.toNat < 2 ^ 31)
    (hcreatures : creatures.toNat < 2 ^ 31) :
    exists (events : List SimEvent) (world : World) (found born : Nat),
      Reopens final s!"world_{seed}" events [] world ∧
      found ≤ resources.toNat ∧ born ≤ creatures.toNat ∧
      (forall summary : RunSummary, answers.getLast? = some (.returned summary) ->
        world.currentTick = summary.finalTick) ∧
      runCommand {} final (.status s!"world_{seed}") =
        some (.ok (createdLines name seed world.currentTick world.currentTick events.length
          events.length world.activeEntityCount found born)) := by
  rcases history_left hempty hmade hrun hreads with ⟨first, c, low, hleft⟩
  rcases hleft.later with ⟨_, hlater⟩
  rcases hleft.endedWell hwell with ⟨hdocuments, hlog⟩
  rcases hleft.onDisk.observed with ⟨t, n, hobserved⟩
  rcases hobserved.saved hdocuments with ⟨ht, hn⟩
  subst ht
  subst hn
  have hreopens := hobserved.reopens
  rw [List.drop_length] at hreopens
  have hreaches := hleft.onDisk.rests.archived.reaches
  rcases hleft.onDisk.rests.found with ⟨log, _, hholds⟩
  rcases statusOf_created (t := c.world.currentTick) (k := (framesEvents c.frames).length)
    (hleft.settled.accounts hlater) hreaches.integrity hreaches.identity
    hholds.counts.length_lt hresources hcreatures with ⟨found, born, hfound, hborn, hlines⟩
  refine ⟨_, _, found, born, hreopens, hfound, hborn, ?_, ?_⟩
  · intro summary hlast
    exact (hleft.finalTick summary hlast).symm
  · rcases hobserved.inspected.commands (CreateWorldCmd.worldId_valid ⟨name, ⟨seed⟩⟩)
      (Option.isSome_of_eq_some hlog) with hwhole | ⟨⟨log, e, hopen, hread⟩, _⟩
    · exact (hwhole (.status s!"world_{seed}") rfl).trans hlines
    · rcases hobserved.readable hlog with ⟨log', hopen', hread'⟩
      cases hopen.symm.trans hopen'
      cases hread.symm.trans hread'

end History

end Observation

end Seej
