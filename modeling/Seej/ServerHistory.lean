import Seej.DataDirectory

/-!
# Histories of a data directory

A history creates a world and runs it any number of times, each time for any number of
ticks, with any faults of the file system but one and killed at any moment.  The documents
of the world depend on none of this, but only on the tick that was reached.  The exception
is a record that cannot be read while the log is opened, which is cut off.
-/

namespace Seej

open Foundation

section Histories

variable [MetaJson] [SnapshotJson] [Crc32] [BatchJson]

/-!
## Any number of runs
-/

structure ServerRun where
  io : ServerIo := {}
  maxTicks : UInt64
  saveInterval : UInt64
  passes : Nat

def serveRun (worldId : String) (dir : DataDir) (input : ServerRun) :
    Option (Ended String PanicSite RunSummary × DataDir) :=
  some (cmdRun input.io dir worldId input.maxTicks input.saveInterval input.passes)

def AllReadLog (runs : List ServerRun) : Prop :=
  forall input : ServerRun, input ∈ runs -> input.io.ReadsLog

def intervals : List ServerRun -> Nat
  | [] => 0
  | input :: rest => input.saveInterval.toNat + intervals rest

omit [MetaJson] [SnapshotJson] in
theorem Later.trans {first c next : Ledger} {m n : Nat} (h : Later first m c)
    (hnext : Later c n next) : Later first (m + n) next := by
  constructor
  case ticks =>
    rw [List.replicate_add, Ledger.afterAll_append, h.ticks]
    exact hnext.ticks
  case paced => exact hnext.paced
  case currentTick => rw [hnext.currentTick, h.currentTick, Nat.add_assoc]

structure AfterRuns (cmd : CreateWorldCmd) (first : Ledger) (lag : Nat)
    (runs : List ServerRun) (answers : List (Ended String PanicSite RunSummary))
    (c : Ledger) (low : Nat) (dir : DataDir) : Prop where
  onDisk : OnDisk cmd c low dir
  later : exists ticks : Nat, Later first ticks c
  fresh : (forall input : ServerRun, input ∈ runs -> 0 < input.saveInterval) ->
    c.tick ≤ low + lag + intervals runs
  panics : forall (answer : Ended String PanicSite RunSummary) (site : PanicSite),
    answer ∈ answers -> answer = .stopped (.panicked site) -> site = .command
  last : forall summary : RunSummary, answers.getLast? = some (.returned summary) ->
    low = c.tick ∧ summary.finalTick = c.world.currentTick ∧
      Documents c (dir.store.names cmd.worldId) ∧
      dir.logFile cmd.worldId = some (joined c.frames)

omit [MetaJson] [SnapshotJson] [Crc32] [BatchJson] in
theorem intervals_append (runs more : List ServerRun) :
    intervals (runs ++ more) = intervals runs + intervals more := by
  induction runs with
  | nil => exact (Nat.zero_add _).symm
  | cons input rest ih =>
      show input.saveInterval.toNat + intervals (rest ++ more) = _
      rw [ih, ← Nat.add_assoc]
      rfl

theorem OnDisk.history [MetaJson.Lossless] [SnapshotJson.Lossless] [BatchJson.Lossless]
    {cmd : CreateWorldCmd} {runs : List ServerRun} {first : Ledger} {low : Nat}
    {dir final : DataDir} {answers : List (Ended String PanicSite RunSummary)}
    (h : OnDisk cmd first low dir) (hpaced : first.Paced) (hreads : AllReadLog runs)
    (hrun : Foundation.run (serveRun cmd.worldId) runs dir = some (answers, final)) :
    exists (c : Ledger) (low' : Nat),
      AfterRuns cmd first (first.tick - low) runs answers c low' final := by
  -- The last run starts where the runs before it ended, so the list grows at its end.
  induction runs using List.reverseRecOn generalizing final answers with
  | nil =>
      cases hrun
      refine ⟨first, low, h, ⟨0, Later.refl hpaced⟩, ?_, nofun, nofun⟩
      intro _
      rw [Nat.add_sub_cancel' h.low_le]
      exact Nat.le_refl _
  | append_singleton before input ih =>
      rcases run_append.mp hrun with ⟨middle, earlier, one, hbefore, hone, hanswers⟩
      rcases run_cons.mp hone with ⟨answer, last, _, hlast, hnil, hsingle⟩
      cases hnil
      subst hsingle
      rcases ih (fun other hmem => hreads other (List.mem_append_left _ hmem)) hbefore with
        ⟨c, low', hafter⟩
      rcases hafter.later with ⟨m, hm⟩
      have hread : input.io.ReadsLog :=
        hreads input (List.mem_append_right _ List.mem_cons_self)
      rcases hafter.onDisk.run hm.paced hread (Option.some.inj hlast) with ⟨next, low'', hran⟩
      rcases hran.later with ⟨n, hn⟩
      refine ⟨next, low'', hran.onDisk, ⟨m + n, hm.trans hn⟩, ?_, ?_, ?_⟩
      · intro hpos
        have hthere := hafter.fresh fun other hmem => hpos other (List.mem_append_left _ hmem)
        have hhere := hran.fresh (hpos input (List.mem_append_right _ List.mem_cons_self))
        have hone : intervals [input] = input.saveInterval.toNat := Nat.add_zero _
        rw [intervals_append, hone]
        omega
      · rw [hanswers]
        intro other site hmem hsite
        rcases List.mem_append.mp hmem with hearlier | hsame
        · exact hafter.panics other site hearlier hsite
        · rw [List.mem_singleton.mp hsame] at hsite
          exact hran.panics site hsite
      · rw [hanswers, List.getLast?_append_of_ne_nil _ (List.cons_ne_nil _ _)]
        intro summary hsummary
        rcases hran.returns summary (Option.some.inj hsummary) with ⟨hlow, hfinished⟩
        exact ⟨hlow, hfinished.finalTick, hfinished.documents, hfinished.log⟩

/-!
## What histories leave
-/

def Recovers (dir : DataDir) (worldId : String) (world : World) : Prop :=
  exists (runtime next : ServerRuntime FilesystemStore) (replayed : List SimEvent) (s : Tick)
    (i : EventId), createSimulation {} dir worldId = .returned runtime ∧
      runtime.loadWorld worldId = some (.ok replayed, next) ∧
      next.sim.world = some (world.withCursor s i)

theorem OnDisk.recovers {cmd : CreateWorldCmd} {c : Ledger} {low : Nat} {dir : DataDir}
    (h : OnDisk cmd c low dir) : Recovers dir cmd.worldId c.world := by
  rcases createSimulation_found cmd.worldId_valid h.rests.found with
    ⟨runtime, hreturned, hlog, hsame⟩
  have hopened := h.opened hlog hsame []
  rcases Follows.load hopened.archived hopened.log hopened.since.hasSnapshot with
    ⟨replayed, next, hload, _, hfollows⟩
  rcases hfollows.engine.world with ⟨s, i, hworld⟩
  exact ⟨runtime, next, replayed, s, i, hreturned, hload, hworld⟩

omit [Crc32] [BatchJson] in
theorem Documents.unique {c : Ledger} {left right : Directory String UInt8}
    (h : Documents c left) (h' : Documents c right) {document : String}
    (hdocument : IsDocument document) : left.read document = right.read document := by
  rcases h with ⟨snapshot, text, hencode, htext, hsnapshot, hmeta⟩
  rcases h' with ⟨snapshot', text', hencode', htext', hsnapshot', hmeta'⟩
  cases hencode.symm.trans hencode'
  cases htext.symm.trans htext'
  rcases hdocument with hname | hname
  · rw [hname, hmeta, hmeta']
  · rw [hname, hsnapshot, hsnapshot']

omit [Crc32] [BatchJson] in
theorem Documents.loadMeta [MetaJson.Lossless] {c : Ledger} {store : FilesystemStore}
    {worldId : String} (h : Documents c (store.names worldId))
    (hvalid : validateWorldIdResult worldId = .ok ()) :
    store.loadMeta worldId =
      .ok (c.world.savedAt (framesEvents c.frames).length).worldMeta := by
  rcases h with ⟨_, text, _, htext, _, hmeta⟩
  rw [FilesystemStore.loadMeta_eq, hvalid, hmeta]
  exact FilesystemStore.decodeMeta_encoded htext

theorem Documents.worldLine [MetaJson.Lossless] {cmd : CreateWorldCmd} {c : Ledger}
    {low : Nat} {dir : DataDir} (h : Documents c (dir.store.names cmd.worldId))
    (hdisk : OnDisk cmd c low dir) {reads : String -> ReadIo}
    (hreads : reads cmd.worldId = {}) :
    worldLine dir.store reads cmd.worldId =
      s!"  {cmd.worldId} - '{cmd.name}' (tick {c.world.currentTick}, seed {cmd.seed.val})" := by
  have hreaches := hdisk.rests.archived.reaches
  have hload : dir.store.loadMetaWith {} cmd.worldId = _ := h.loadMeta cmd.worldId_valid
  generalize hsaved : (c.world.savedAt (framesEvents c.frames).length).worldMeta = saved at hload
  have hname : saved.name = cmd.name := by
    rw [← hsaved]
    exact (congrArg WorldMeta.name hreaches.identity :)
  have hseed : saved.seed = cmd.seed := by
    rw [← hsaved]
    exact (congrArg WorldMeta.seed hreaches.identity :)
  have htick : saved.currentTick = c.world.currentTick := by
    rw [← hsaved]
    exact hreaches.integrity.meta_tick
  unfold Seej.worldLine
  rw [hreads, hload]
  simp only
  rw [hname, hseed, htick]

theorem Documents.listed [MetaJson.Lossless] {cmd : CreateWorldCmd} {c : Ledger}
    {low : Nat} {dir : DataDir} (h : Documents c (dir.store.names cmd.worldId))
    (hdisk : OnDisk cmd c low dir) {reads : String -> ReadIo}
    (hreads : reads cmd.worldId = {}) {entries : List String}
    (hentries : entries.Perm dir.worlds.keys) :
    exists lines : List String, cmdList none none reads entries dir = .ok lines ∧
      s!"  {cmd.worldId} - '{cmd.name}' (tick {c.world.currentTick}, seed {cmd.seed.val})" ∈
        lines := by
  have hmeta : ((dir.store.names cmd.worldId).read "meta.json").isSome = true := by
    rcases h with ⟨_, _, _, _, _, hread⟩
    rw [hread]
    rfl
  have hexist : dir.store.exist cmd.worldId = true :=
    FilesystemStore.exist_iff.mpr ⟨cmd.worldId_valid, hmeta⟩
  have hentry : cmd.worldId ∈ entries :=
    hentries.mem_iff.mpr (Std.ExtTreeMap.mem_keys.mpr (FilesystemStore.mem_of_read hmeta))
  have hlisted : cmd.worldId ∈
      (entries.filter dir.store.exist).mergeSort (fun a b => a ≤ b) :=
    List.mem_mergeSort.mpr (List.mem_filter.mpr ⟨hentry, hexist⟩)
  have hnonempty : ((entries.filter dir.store.exist).mergeSort
      (fun a b => a ≤ b)).isEmpty = false := by
    rw [List.isEmpty_eq_false_iff]
    exact List.ne_nil_of_mem hlisted
  have hopened : FilesystemStore.new dir.basePath dir.worlds none = .ok dir.store := rfl
  unfold cmdList FilesystemStore.listWorlds
  simp only [hopened, hnonempty]
  refine ⟨_, rfl, List.mem_cons_of_mem _ ?_⟩
  rw [← h.worldLine hdisk hreads]
  exact List.mem_map_of_mem hlisted

/-- Whatever faults, limits, intervals, failed runs and kills two histories of a world
have, after shutdowns at the same tick the directories of the world hold the same bytes. -/
theorem same_tick_same_files [MetaJson.Lossless] [SnapshotJson.Lossless] [BatchJson.Lossless]
    {name : String} {seed : UInt64} {resources creatures : UInt32} {io io' : ServerIo}
    {dir dir' made made' final final' : DataDir} {runs runs' : List ServerRun}
    {answers answers' : List (Ended String PanicSite RunSummary)}
    {summary summary' : RunSummary}
    (hempty : dir.worlds = ∅) (hempty' : dir'.worlds = ∅)
    (hmade : cmdCreate io dir name seed resources creatures = (.returned (), made))
    (hmade' : cmdCreate io' dir' name seed resources creatures = (.returned (), made'))
    (hrun : run (serveRun s!"world_{seed}") runs made = some (answers, final))
    (hrun' : run (serveRun s!"world_{seed}") runs' made' = some (answers', final'))
    (hreads : AllReadLog runs) (hreads' : AllReadLog runs')
    (hlast : answers.getLast? = some (.returned summary))
    (hlast' : answers'.getLast? = some (.returned summary'))
    (htick : summary.finalTick = summary'.finalTick) (document : String)
    (hdocument : document = "meta.json" ∨ document = "snapshot.json" ∨ document = "events") :
    (final.store.names s!"world_{seed}").read document =
      (final'.store.names s!"world_{seed}").read document := by
  rcases (cmdCreate_leaves hempty hmade).returns rfl with ⟨first, hdisk, hcompleted⟩
  rcases (cmdCreate_leaves hempty' hmade').returns rfl with ⟨first', hdisk', hcompleted'⟩
  have hfirst : first = first' := hcompleted.settled.unique hcompleted'.settled
  subst hfirst
  have hpaced := hcompleted.settled.paced
  rcases hdisk.history hpaced hreads hrun with ⟨c, low, hafter⟩
  rcases hdisk'.history hpaced hreads' hrun' with ⟨c', low', hafter'⟩
  rcases hafter.later with ⟨_, hlater⟩
  rcases hafter'.later with ⟨_, hlater'⟩
  rcases hafter.last summary hlast with ⟨_, hfinal, hdocuments, hlog⟩
  rcases hafter'.last summary' hlast' with ⟨_, hfinal', hdocuments', hlog'⟩
  have hsame : c = c' := hlater.unique hlater' (hfinal.symm.trans (htick.trans hfinal'))
  subst hsame
  rcases hdocument with hname | hname | hname
  · exact hdocuments.unique hdocuments' (Or.inl hname)
  · exact hdocuments.unique hdocuments' (Or.inr hname)
  · rw [hname]
    exact hlog.trans hlog'.symm

def historyEnds (dir : DataDir) (name : String) (seed : UInt64) (runs : List ServerRun) :
    Ended String PanicSite Unit × Option (List (Ended String PanicSite RunSummary)) :=
  let (ended, made) := cmdCreate {} dir name seed 0 0
  (ended, (run (serveRun s!"world_{seed}") runs made).map Prod.fst)

theorem historyEnds_eq {dir : DataDir}
    {name : String} {seed : UInt64} {runs : List ServerRun}
    {answers : List (Ended String PanicSite RunSummary)}
    (h : historyEnds dir name seed runs = (.returned (), some answers)) :
    exists made final : DataDir, cmdCreate {} dir name seed 0 0 = (.returned (), made) ∧
      run (serveRun s!"world_{seed}") runs made = some (answers, final) := by
  unfold historyEnds at h
  rcases hmade : cmdCreate {} dir name seed 0 0 with ⟨ended, made⟩
  rw [hmade] at h
  rcases Prod.mk.inj h with ⟨hended, hanswers⟩
  rcases Option.map_eq_some_iff.mp hanswers with ⟨⟨answers', final⟩, hrun, heq⟩
  subst hended
  subst heq
  exact ⟨made, final, rfl, hrun⟩

end Histories

def valeSecondSnapshot : WorldSnapshotDto :=
  WorldSnapshotDto.fromWorld ((World.new "Vale" ⟨7⟩).advanceTick.advanceTick.stampForSave ⟨4⟩)

def valeSnapshots : List WorldSnapshotDto :=
  [valeSnapshot, valeTickSnapshot, valeSecondSnapshot]

def valeMetas : List WorldMeta :=
  valeSnapshots.map WorldSnapshotDto.worldMeta

def emptyDir : DataDir :=
  { basePath := "data", worlds := ∅ }

def steadyRuns : List ServerRun :=
  [{ maxTicks := 2, saveInterval := 1, passes := 5 }]

/-- The first run is killed after its tick, the second one fails to read the log that it
has opened, and the third one is told to end. -/
def killedRuns : List ServerRun :=
  [{ io := { calls := [{}, { killed := some .sync }], ending := .crash 0 }
     maxTicks := 0
     saveInterval := 1
     passes := 9 },
    { io := { calls := [{ reads := { log := { record := FileEventLog.seekFails 0 } } }] }
      maxTicks := 0
      saveInterval := 1
      passes := 9 },
    { maxTicks := 0, saveInterval := 8, passes := 1 }]

theorem steadyRuns_readLog : AllReadLog steadyRuns := by
  intro input hmem
  rw [List.mem_singleton.mp hmem]
  exact fun _ _ _ => rfl

theorem killedRuns_readLog : AllReadLog killedRuns := by
  intro input hmem
  simp only [killedRuns, List.mem_cons, List.not_mem_nil, or_false] at hmem
  rcases hmem with heq | heq | heq
  · rw [heq]
    exact fun _ _ _ => rfl
  · rw [heq]
    exact fun _ _ _ => rfl
  · rw [heq]
    exact fun _ _ _ => rfl

theorem valeSnapshots_lossless : @SnapshotJson.Lossless (knownSnapshots valeSnapshots) :=
  knownSnapshots_lossless (by decide +kernel)

theorem valeMetas_lossless : @MetaJson.Lossless (knownMetas valeMetas) :=
  knownMetas_lossless (by decide +kernel)

theorem vale_id : s!"world_{(7 : UInt64)}" = "world_7" := by decide

def readFailure : String :=
  "Failed to load world: Storage error: Corrupted state: WAL cursor does not match durable tail: announced last_event_id EV3 != durable last_event_id EV0"

def killedEnds : List (Ended String PanicSite RunSummary) :=
  [.stopped .killed, .stopped (.failed readFailure), .returned ⟨1, ⟨1⟩, ⟨2⟩⟩]

theorem killedRuns_end :
    letI := ieeeCrc32
    letI := knownMetas valeMetas
    letI := knownSnapshots valeSnapshots
    letI := knownBatches
      [PersistentSimulation.valeGenesis, [PersistentSimulation.valeTick], [valeSecondTick]]
    historyEnds emptyDir "Vale" 7 killedRuns =
      (.returned (), some killedEnds) := by
  decide +kernel

theorem same_tick_same_files_vale :
    letI := ieeeCrc32
    letI := knownMetas valeMetas
    letI := knownSnapshots valeSnapshots
    letI := knownBatches
      [PersistentSimulation.valeGenesis, [PersistentSimulation.valeTick], [valeSecondTick]]
    exists (made made' final final' : DataDir),
      cmdCreate {} emptyDir "Vale" 7 0 0 = (.returned (), made) ∧
      run (serveRun "world_7") steadyRuns made =
        some ([.returned ⟨2, ⟨0⟩, ⟨2⟩⟩], final) ∧
      cmdCreate {} emptyDir "Vale" 7 0 0 = (.returned (), made') ∧
      run (serveRun "world_7") killedRuns made' =
        some (killedEnds, final') ∧
      (final.store.names "world_7").read "snapshot.json" =
        (final'.store.names "world_7").read "snapshot.json" := by
  let _ := ieeeCrc32
  let _ := knownMetas valeMetas
  let _ := knownSnapshots valeSnapshots
  let _ := knownBatches
    [PersistentSimulation.valeGenesis, [PersistentSimulation.valeTick], [valeSecondTick]]
  have _ : BatchJson.Lossless := knownBatches_lossless (by decide +kernel)
  have _ : SnapshotJson.Lossless := valeSnapshots_lossless
  have _ : MetaJson.Lossless := valeMetas_lossless
  have hsteady : historyEnds emptyDir "Vale" 7 steadyRuns =
      (.returned (), some [.returned ⟨2, ⟨0⟩, ⟨2⟩⟩]) := by
    decide +kernel
  rcases historyEnds_eq hsteady with ⟨made, final, hmade, hrun⟩
  rcases historyEnds_eq killedRuns_end with ⟨made', final', hmade', hrun'⟩
  have hsame := same_tick_same_files rfl rfl hmade hmade' hrun hrun' steadyRuns_readLog
    killedRuns_readLog rfl rfl rfl
    "snapshot.json" (Or.inr (Or.inl rfl))
  rw [vale_id] at hrun hrun' hsame
  exact ⟨made, made', final, final', hmade, hrun, hmade', hrun', hsame⟩

section Recovery

variable [MetaJson] [SnapshotJson] [Crc32] [BatchJson]

/-- However the runs of a history ended, none of them panicked outside the engine, the
world is there, and its snapshot is behind by no more than the intervals of the runs. -/
theorem history_recovers [MetaJson.Lossless] [SnapshotJson.Lossless] [BatchJson.Lossless]
    {name : String} {seed : UInt64} {resources creatures : UInt32} {io : ServerIo}
    {dir made final : DataDir} {runs : List ServerRun}
    {answers : List (Ended String PanicSite RunSummary)} (hempty : dir.worlds = ∅)
    (hmade : cmdCreate io dir name seed resources creatures = (.returned (), made))
    (hrun : run (serveRun s!"world_{seed}") runs made = some (answers, final))
    (hreads : AllReadLog runs)
    (hpos : forall input : ServerRun, input ∈ runs -> 0 < input.saveInterval) :
    (forall (answer : Ended String PanicSite RunSummary) (site : PanicSite),
      answer ∈ answers -> answer = .stopped (.panicked site) -> site = .command) ∧
    exists (world saved : World) (bytes : Bytes),
      Recovers final s!"world_{seed}" world ∧
      final.store.loadSnapshot s!"world_{seed}" = .ok bytes ∧ decodeWorld bytes = .ok saved ∧
      world.currentTick.val.toNat ≤ saved.currentTick.val.toNat + intervals runs := by
  rcases (cmdCreate_leaves hempty hmade).returns rfl with ⟨first, hdisk, hcompleted⟩
  rcases hdisk.history hcompleted.settled.paced hreads hrun with ⟨c, low, hafter⟩
  refine ⟨hafter.panics, ?_⟩
  rcases hafter.onDisk.since with ⟨bytes, saved, hload, hdecode, hlow⟩
  refine ⟨c.world, saved, bytes, hafter.onDisk.recovers, hload, hdecode, ?_⟩
  have hfresh := hafter.fresh hpos
  have hzero : first.tick = 0 := hcompleted.settled.tick
  rw [hzero] at hfresh
  exact Nat.le_trans hfresh (Nat.add_le_add_right hlow _)

end Recovery

theorem history_recovers_vale :
    letI := ieeeCrc32
    letI := knownMetas valeMetas
    letI := knownSnapshots valeSnapshots
    letI := knownBatches
      [PersistentSimulation.valeGenesis, [PersistentSimulation.valeTick], [valeSecondTick]]
    exists (made final : DataDir) (world saved : World) (bytes : Bytes),
      run (serveRun "world_7") killedRuns made =
        some (killedEnds, final) ∧
      Recovers final "world_7" world ∧
      final.store.loadSnapshot "world_7" = .ok bytes ∧ decodeWorld bytes = .ok saved ∧
      world.currentTick.val.toNat ≤ saved.currentTick.val.toNat + 10 := by
  let _ := ieeeCrc32
  let _ := knownMetas valeMetas
  let _ := knownSnapshots valeSnapshots
  let _ := knownBatches
    [PersistentSimulation.valeGenesis, [PersistentSimulation.valeTick], [valeSecondTick]]
  have _ : BatchJson.Lossless := knownBatches_lossless (by decide +kernel)
  have _ : SnapshotJson.Lossless := valeSnapshots_lossless
  have _ : MetaJson.Lossless := valeMetas_lossless
  rcases historyEnds_eq killedRuns_end with ⟨made, final, hmade, hrun⟩
  have hpos : forall input : ServerRun, input ∈ killedRuns -> 0 < input.saveInterval := by
    intro input hmem
    simp only [killedRuns, List.mem_cons, List.not_mem_nil, or_false] at hmem
    rcases hmem with heq | heq | heq
    · rw [heq]
      decide
    · rw [heq]
      decide
    · rw [heq]
      decide
  rcases history_recovers rfl hmade hrun killedRuns_readLog hpos with
    ⟨_, world, saved, bytes, hrecovers, hload, hdecode, hle⟩
  rw [vale_id] at hrun hrecovers hload
  exact ⟨made, final, world, saved, bytes, hrun, hrecovers, hload, hdecode, hle⟩

section Listing

variable [MetaJson] [SnapshotJson] [Crc32] [BatchJson]

/-- A run that ends by itself after any history has made as many ticks as it was to make,
from the tick where the run before it ended, and `list` prints the tick it ended at. -/
theorem finished_run_listed [MetaJson.Lossless] [SnapshotJson.Lossless] [BatchJson.Lossless]
    {name : String} {seed : UInt64} {resources creatures : UInt32} {io : ServerIo}
    {dir made middle final : DataDir} {runs : List ServerRun} {last : ServerRun}
    {answers : List (Ended String PanicSite RunSummary)} {summary : RunSummary}
    (hempty : dir.worlds = ∅)
    (hmade : cmdCreate io dir name seed resources creatures = (.returned (), made))
    (hrun : run (serveRun s!"world_{seed}") runs made = some (answers, middle))
    (hlast : serveRun s!"world_{seed}" middle last = some (.returned summary, final))
    (hreads : AllReadLog runs) (hread : last.io.ReadsLog) :
    summary.ticksRun.toNat = ranTicks last.maxTicks last.passes ∧
    summary.finalTick.val.toNat =
      summary.startTick.val.toNat + ranTicks last.maxTicks last.passes ∧
    (forall earlier : RunSummary, answers.getLast? = some (.returned earlier) ->
      summary.startTick = earlier.finalTick) ∧
    forall (reads : String -> ReadIo) (entries : List String),
      reads s!"world_{seed}" = {} -> entries.Perm final.worlds.keys ->
      exists lines : List String, cmdList none none reads entries final = .ok lines ∧
        s!"  world_{seed} - '{name}' (tick {summary.finalTick}, seed {seed})" ∈ lines := by
  rcases (cmdCreate_leaves hempty hmade).returns rfl with ⟨first, hdisk, hcompleted⟩
  rcases hdisk.history hcompleted.settled.paced hreads hrun with ⟨c, low, hafter⟩
  rcases hafter.later with ⟨_, hlater⟩
  rcases hafter.onDisk.run hlater.paced hread (Option.some.inj hlast) with ⟨next, low', hran⟩
  rcases hran.returns summary rfl with ⟨_, hfinished⟩
  refine ⟨hfinished.ticksRun, ?_, ?_, ?_⟩
  · rw [hfinished.finalTick, hfinished.startTick]
    exact hfinished.later.currentTick
  · intro earlier hearlier
    rcases hafter.last earlier hearlier with ⟨_, hfinal, _⟩
    rw [hfinished.startTick, hfinal]
  · intro reads entries hquiet hentries
    rw [hfinished.finalTick]
    exact hfinished.documents.listed hran.onDisk hquiet hentries

end Listing

theorem finished_run_listed_vale :
    letI := ieeeCrc32
    letI := knownMetas valeMetas
    letI := knownSnapshots valeSnapshots
    letI := knownBatches
      [PersistentSimulation.valeGenesis, [PersistentSimulation.valeTick], [valeSecondTick]]
    exists (made middle final : DataDir),
      run (serveRun "world_7") [{ maxTicks := 1, saveInterval := 1, passes := 4 }] made =
        some ([.returned ⟨1, ⟨0⟩, ⟨1⟩⟩], middle) ∧
      serveRun "world_7" middle { maxTicks := 1, saveInterval := 0, passes := 4 } =
        some (.returned ⟨1, ⟨1⟩, ⟨2⟩⟩, final) ∧
      exists lines : List String, cmdList none none (fun _ => {}) final.worlds.keys final =
          .ok lines ∧
        "  world_7 - 'Vale' (tick T2, seed 7)" ∈ lines := by
  let _ := ieeeCrc32
  let _ := knownMetas valeMetas
  let _ := knownSnapshots valeSnapshots
  let _ := knownBatches
    [PersistentSimulation.valeGenesis, [PersistentSimulation.valeTick], [valeSecondTick]]
  have _ : BatchJson.Lossless := knownBatches_lossless (by decide +kernel)
  have _ : SnapshotJson.Lossless := valeSnapshots_lossless
  have _ : MetaJson.Lossless := valeMetas_lossless
  have hends : historyEnds emptyDir "Vale" 7
      ([{ maxTicks := 1, saveInterval := 1, passes := 4 }] ++
        [{ maxTicks := 1, saveInterval := 0, passes := 4 }]) =
      (.returned (), some [.returned ⟨1, ⟨0⟩, ⟨1⟩⟩, .returned ⟨1, ⟨1⟩, ⟨2⟩⟩]) := by
    decide +kernel
  rcases historyEnds_eq hends with ⟨made, final, hmade, hruns⟩
  rcases run_cons.mp hruns with ⟨first, middle, later, hfirst, hrest, hanswers⟩
  rcases run_cons.mp hrest with ⟨second, last, _, hsecond, hnil, hlater⟩
  cases hnil
  subst hlater
  cases hanswers
  have hrun : run (serveRun s!"world_{(7 : UInt64)}")
      [{ maxTicks := 1, saveInterval := 1, passes := 4 }] made =
        some ([.returned ⟨1, ⟨0⟩, ⟨1⟩⟩], middle) :=
    run_cons.mpr ⟨_, middle, [], hfirst, rfl, rfl⟩
  have hreads : AllReadLog [{ maxTicks := 1, saveInterval := 1, passes := 4 }] := by
    intro input hmem
    rw [List.mem_singleton.mp hmem]
    exact fun _ _ _ => rfl
  have hlisted := finished_run_listed rfl hmade hrun hsecond hreads fun _ _ _ => rfl
  rcases hlisted.right.right.right (fun _ => {}) final.worlds.keys rfl (List.Perm.refl _) with
    ⟨lines, hprinted, hline⟩
  have htext : (fun (name : String) (tick : Tick) (seed : UInt64) =>
      s!"  world_{seed} - '{name}' (tick {tick}, seed {seed})") "Vale" ⟨2⟩ 7 =
        "  world_7 - 'Vale' (tick T2, seed 7)" := by
    decide
  rw [← htext]
  rw [vale_id] at hrun hsecond
  exact ⟨made, middle, final, hrun, hsecond, lines, hprinted, hline⟩

end Seej
