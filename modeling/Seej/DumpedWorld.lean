import Seej.HandedOver
import Seej.WalInspection
import Seej.WorldDump

/-!
# Dumps and saves

The command line takes the cursor from the events that it replayed, a save takes it from
the counter of the log.  Recovery lets a world through only if the two agree.
-/

namespace Seej

open Foundation

/-!
## The cursor
-/

theorem Replays.lastEventId_eq {world next : World} {events : List SimEvent}
    (h : Replays world events next) :
    next.worldMeta.lastEventId = world.worldMeta.lastEventId := by
  have hidentity := congrArg WorldMeta.lastEventId h.continues.identity
  exact hidentity

section Cursor

variable {E S : Type} [IEventLog E] [IWorldStore S] [SnapshotJson] {store : S} {eventLog : E}
  {worldId : String} {snapshot world : World} {events replayed : List SimEvent}

/-- The last event behind the cursor of a snapshot is the last of the log, and without
such an event the snapshot has the last cursor already. -/
theorem RecoveredFrom.stampForDump_eq
    (h : RecoveredFrom store eventLog worldId snapshot events world replayed)
    (hannounced : IEventLog.lastEventId eventLog = durableLastEventId events) :
    world.stampForDump replayed = world.stampForSave (IEventLog.lastEventId eventLog) := by
  have hcursor := (replayEvents_eq_ok.mp h.applied).right.lastEventId_eq
  unfold World.stampForDump World.stampForSave
  rw [h.suffix, List.getLast?_drop]
  split
  · rename_i last hlast
    split at hlast
    · cases hlast
    · have hid : IEventLog.lastEventId eventLog = last.eventId := by
        rw [hannounced, durableLastEventId, hlast]
        rfl
      rw [hid]
  · rename_i hlast
    have hall : events.length ≤ snapshot.worldMeta.lastEventId.val.toNat := by
      split at hlast
      · assumption
      · rw [List.getLast?_eq_none_iff] at hlast
        rw [hlast]
        exact Nat.zero_le _
    have hid : world.worldMeta.lastEventId = IEventLog.lastEventId eventLog := by
      apply EventId.eq_of_toNat
      rw [hcursor, h.log_announced]
      exact Nat.le_antisymm h.cursor_le hall
    rw [hid]

theorem stampForDump_eq_stampForSave
    (hlast : (IEventLog.lastEventId eventLog).val.toNat + 1 < 2 ^ 64)
    (h : loadRecoveredWorld store eventLog worldId = some (.ok (world, replayed))) :
    world.stampForDump replayed = world.stampForSave (IEventLog.lastEventId eventLog) ∧
      validateWalCoversSnapshot world.worldMeta.lastEventId
        (IEventLog.lastEventId eventLog) = .ok () := by
  rcases loadRecoveredWorld_eq_ok.mp h with ⟨snapshot, hselect, hreplays⟩
  rcases selectReplay_eq_ok.mp hselect with
    ⟨_, _, _, _, events, hread, htail, hnumbered, hcovers, _, _⟩
  have hsize : forall found : List SimEvent, IEventLog.readAllValid eventLog = .ok found ->
      found.length + 1 < 2 ^ 64 := by
    intro found hfound
    rw [hread] at hfound
    rw [← Except.ok.inj hfound]
    exact hnumbered.length_lt (htail ▸ hlast)
  rcases recoveredFrom_of_ok hsize h with ⟨snapshot', events', hfrom⟩
  have hevents : events' = events := by
    have hread' := hfrom.log_read
    rw [hread] at hread'
    exact (Except.ok.inj hread').symm
  subst hevents
  constructor
  · exact hfrom.stampForDump_eq htail
  · rw [hreplays.lastEventId_eq, htail]
    exact hcovers

end Cursor

/-- A recovered world can be saved under its identifier, unless the log spawns an entity
under the reserved one. -/
theorem savable_of_recovered {E S : Type} [IEventLog E] [IWorldStore S] [SnapshotJson]
    {store : S} {eventLog : E} {worldId : String} {world : World} {events replayed : List SimEvent}
    (h : loadRecoveredWorld store eventLog worldId = some (.ok (world, replayed)))
    (hread : IEventLog.readAllValid eventLog = .ok events)
    (hspawns : forall event : SimEvent, event ∈ events -> ¬ event.data.spawnsInvalid)
    (last : EventId) :
    Savable (world.stampForSave last) ∧ (world.stampForSave last).id = worldId := by
  rcases loadRecoveredWorld_eq_ok.mp h with ⟨snapshot, hselect, hreplays⟩
  rcases selectReplay_eq_ok.mp hselect with
    ⟨_, ⟨bytes, _, hdecode⟩, hid, _, found, hfound, _, _, _, hreplayed, _⟩
  rw [hread] at hfound
  cases hfound
  have hsnapshot : Savable snapshot := savable_of_decoded hdecode
  have hintegrity : WorldIntegrity world := by
    apply hreplays.integrity hsnapshot.integrity
    intro event hmem
    rw [hreplayed] at hmem
    exact hspawns event (List.mem_of_mem_filter hmem)
  have hidentity := hreplays.continues.identity
  constructor
  · apply savable_stampForSave hintegrity
    exact (congrArg WorldMeta.formatVersion hidentity).trans hsnapshot.format
  · exact (congrArg WorldMeta.worldId hidentity).trans hid

/-!
## The log
-/

/-- Recovery asks the log for its events and its counter only. -/
theorem loadRecoveredWorld_congr {E E' S : Type} [IEventLog E] [IEventLog E'] [IWorldStore S]
    [SnapshotJson] {left : E} {right : E'}
    (hread : IEventLog.readAllValid left = IEventLog.readAllValid right)
    (hlast : IEventLog.lastEventId left = IEventLog.lastEventId right) (store : S)
    (worldId : String) :
    loadRecoveredWorld store left worldId = loadRecoveredWorld store right worldId := by
  unfold loadRecoveredWorld selectReplay
  rw [hread, hlast]

section Log

variable [Crc32] [BatchJson]

namespace FileEventLog

omit [Crc32] [BatchJson] in
theorem lastEventId_lt (log : FileEventLog) : log.lastEventId.val.toNat + 1 < 2 ^ 64 := by
  unfold lastEventId
  split
  · rename_i hgt
    have hlt := log.nextEventId.toNat_lt
    have hone : (1 : UInt64).toNat = 1 := rfl
    have hle : 1 < log.nextEventId.toNat := UInt64.lt_iff_toNat_lt.mp hgt
    have hsub : (log.nextEventId - 1).toNat = log.nextEventId.toNat - 1 :=
      UInt64.toNat_sub_of_le _ _ (UInt64.le_of_lt hgt)
    show (log.nextEventId - 1).toNat + 1 < 2 ^ 64
    omega
  · decide

/-- On a file that repair keeps, inspection recovers what the repaired log recovers. -/
theorem openReadOnly_whole (S : Type) [IWorldStore S] [SnapshotJson] {file : Option Bytes}
    {repaired : FileEventLog} (hnew : new file = some (.ok repaired))
    (hwhole : repaired.file = file) :
    exists inspected : FileEventLog, openReadOnly file = some (.ok inspected) ∧
      forall (store : S) (worldId : String),
        loadRecoveredWorld store inspected worldId =
          loadRecoveredWorld store repaired worldId := by
  rcases readOnly_agrees file with ⟨inspected, found, hopen, hfound, hagree⟩ | ⟨_, hnone, _⟩
  · rw [hnew] at hfound
    cases hfound
    have hread : inspected.readAllValid = repaired.readAllValid := by
      cases hread : inspected.readAllValid with
      | error e => exact absurd hwhole (hagree.refuses.mp ⟨e, hread⟩)
      | ok events => exact (hagree.reads events hread).symm
    have hlast : IEventLog.lastEventId inspected = IEventLog.lastEventId repaired :=
      hagree.lastEventId
    exact ⟨inspected, hopen, loadRecoveredWorld_congr hread hlast⟩
  · rw [hnew] at hnone
    cases hnone

end FileEventLog

end Log

/-!
## The document
-/

theorem mapError_eq_ok {ε ε' α : Type} {f : ε -> ε'} {result : Except ε α} {a : α} :
    result.mapError f = .ok a <-> result = .ok a := by
  cases result <;> simp [Except.mapError]

/-- The target takes what it is given. -/
def DumpTarget.Writable : DumpTarget -> Prop
  | .file (some _) => False
  | _ => True

theorem DumpTarget.write_eq_ok {target : DumpTarget} {json text : Bytes}
    (h : target.write json = .ok text) : text = json ++ [10] ∨ text = json := by
  cases target with
  | stdout => exact Or.inl (Except.ok.inj h).symm
  | file fault =>
      cases fault with
      | none => exact Or.inr (Except.ok.inj h).symm
      | some _ => cases h

theorem DumpTarget.Writable.write {target : DumpTarget} (h : target.Writable) (json : Bytes) :
    exists text : Bytes, target.write json = .ok text := by
  cases target with
  | stdout => exact ⟨_, rfl⟩
  | file fault =>
      cases fault with
      | none => exact ⟨_, rfl⟩
      | some _ => exact absurd h id

section Document

variable {S : Type} [IWorldStore S] [SnapshotJson] [ValueJson] [Crc32] [BatchJson]

omit [ValueJson] in
theorem loadWorldWithReplayed_eq_ok {store : S} {file : Option Bytes} {log : FileEventLog}
    (hopen : FileEventLog.openReadOnly file = some (.ok log)) {worldId : String}
    {found : World × List SimEvent} :
    loadWorldWithReplayed (.ok store) file worldId = some (.ok found) <->
      loadRecoveredWorld store log worldId = some (.ok found) := by
  unfold loadWorldWithReplayed
  rw [hopen]
  cases hvalid : validateWorldIdResult worldId with
  | ok _ =>
      simp only [Option.map_eq_some_iff]
      constructor
      · rintro ⟨recovered, hrecovered, hfound⟩
        rw [hrecovered, mapError_eq_ok.mp hfound]
      · intro h
        exact ⟨_, h, rfl⟩
  | error e =>
      simp only [Option.some.injEq]
      constructor
      · nofun
      · intro h
        rcases loadRecoveredWorld_eq_ok.mp h with ⟨_, hselect, _⟩
        rw [(selectReplay_eq_ok.mp hselect).left] at hvalid
        cases hvalid

theorem cmdDump_eq_ok {opened : SimResult S} {file : Option Bytes} {worldId : String}
    {target : DumpTarget} {pretty : Bool} {text : Bytes} :
    cmdDump opened file worldId target pretty = some (.ok text) <->
      exists (world : World) (replayed : List SimEvent) (bytes json : Bytes),
        loadWorldWithReplayed opened file worldId = some (.ok (world, replayed)) ∧
          encodeWorld (world.stampForDump replayed) = .ok bytes ∧
          formatJson pretty bytes = .ok json ∧ target.write json = .ok text := by
  unfold cmdDump
  rw [Option.map_eq_some_iff]
  constructor
  · rintro ⟨loaded, hload, h⟩
    rcases bind_eq_ok.mp h with ⟨⟨world, replayed⟩, hloaded, h⟩
    rcases bind_eq_ok.mp h with ⟨bytes, hencode, h⟩
    rcases bind_eq_ok.mp h with ⟨json, hformat, hwrite⟩
    rw [hloaded] at hload
    exact ⟨world, replayed, bytes, json, hload, mapError_eq_ok.mp hencode, hformat, hwrite⟩
  · rintro ⟨world, replayed, bytes, json, hload, hencode, hformat, hwrite⟩
    refine ⟨_, hload, ?_⟩
    apply bind_eq_ok.mpr
    refine ⟨_, rfl, bind_eq_ok.mpr ⟨bytes, mapError_eq_ok.mpr hencode, ?_⟩⟩
    exact bind_eq_ok.mpr ⟨json, hformat, hwrite⟩

variable [ValueJson.Keeps]

omit [IWorldStore S] [Crc32] [BatchJson] in
theorem formatJson_of_toVec {snapshot : WorldSnapshotDto} {bytes : Bytes}
    (h : SnapshotJson.toVec snapshot = .ok bytes) (pretty : Bool) :
    exists json : Bytes, formatJson pretty bytes = .ok json ∧
      SnapshotJson.fromSlice json = .ok snapshot ∧
      SnapshotJson.fromSlice (json ++ [10]) = .ok snapshot := by
  rcases ValueJson.Keeps.reprints snapshot bytes h with ⟨value, hvalue, hprints⟩
  rcases hprints pretty with ⟨json, hprint, hjson, hline⟩
  refine ⟨json, ?_, hjson, hline⟩
  unfold formatJson
  rw [hvalue]
  exact mapError_eq_ok.mpr hprint

omit [Crc32] [BatchJson] in
theorem decodeWorld_printed {world : World} (hworld : Savable world) {bytes json text : Bytes}
    {pretty : Bool} {target : DumpTarget} (hencode : encodeWorld world = .ok bytes)
    (hformat : formatJson pretty bytes = .ok json) (hwrite : target.write json = .ok text) :
    decodeWorld text = .ok world := by
  rcases formatJson_of_toVec (encodeWorld_eq_ok.mp hencode) pretty with
    ⟨found, hfound, hjson, hline⟩
  rw [hformat] at hfound
  cases hfound
  have hslice : SnapshotJson.fromSlice text = .ok (WorldSnapshotDto.fromWorld world) := by
    rcases DumpTarget.write_eq_ok hwrite with htext | htext
    · rw [htext]
      exact hline
    · rw [htext]
      exact hjson
  apply decodeWorld_eq_ok.mpr
  refine ⟨_, hslice, ?_, ?_⟩
  · rw [WorldSnapshotDto.toWorld_fromWorld]
    exact hworld
  · rw [WorldSnapshotDto.toWorld_fromWorld]

end Document

/-!
## Loading and saving
-/

section Saving

variable {R C S : Type} [IRng R] [ISimClock C] [IWorldStore S] [SnapshotJson] [Crc32]
  [BatchJson]

namespace PersistentSimulation

/-- `load_world` succeeds, and a `save_world` that follows prepares this world; if none of
its durable steps fails, the new snapshot decodes to it. -/
def SavesAs (ps : PersistentSimulation R C FileEventLog S) (worldId : String)
    (world : World) : Prop :=
  exists (replayed : List SimEvent) (loaded : PersistentSimulation R C FileEventLog S),
    ps.loadWorld worldId = some (.ok replayed, loaded) ∧
      forall io : SyncIo,
        (exists snapshot : Bytes,
          (loaded.withSyncs [io]).prepareSave = .ok (world, snapshot)) ∧
        forall saved : PersistentSimulation R C FileEventLog S,
          (loaded.withSyncs [io]).saveWorld = (.ok (), saved) ->
            exists bytes : Bytes, IWorldStore.loadSnapshot saved.store worldId = .ok bytes ∧
              decodeWorld bytes = .ok world

variable {ps : PersistentSimulation R C FileEventLog S} {worldId : String} {world : World}
  {replayed : List SimEvent}

theorem loadWorld_of_recovered
    (h : loadRecoveredWorld ps.store ps.eventLog worldId = some (.ok (world, replayed))) :
    ps.loadWorld worldId =
      some (.ok replayed, { ps with sim := ps.sim.loadWorldState world }) := by
  unfold loadWorld
  rw [h]

theorem savesAs_of_recovered [SnapshotJson.Lossless] [AtomicWorldStore S]
    (h : loadRecoveredWorld ps.store ps.eventLog worldId = some (.ok (world, replayed)))
    {events : List SimEvent} (hread : ps.eventLog.readAllValid = .ok events)
    (hspawns : forall event : SimEvent, event ∈ events -> ¬ event.data.spawnsInvalid)
    {bytes : Bytes}
    (hencode : encodeWorld (world.stampForSave (IEventLog.lastEventId ps.eventLog)) = .ok bytes) :
    ps.SavesAs worldId (world.stampForSave (IEventLog.lastEventId ps.eventLog)) := by
  rcases stampForDump_eq_stampForSave ps.eventLog.lastEventId_lt h with ⟨_, hcovers⟩
  rcases savable_of_recovered h hread hspawns (IEventLog.lastEventId ps.eventLog) with
    ⟨hsavable, hid⟩
  refine ⟨replayed, _, loadWorld_of_recovered h, ?_⟩
  intro io
  have hprepare : (({ ps with sim := ps.sim.loadWorldState world } :
      PersistentSimulation R C FileEventLog S).withSyncs [io]).prepareSave =
        .ok (world.stampForSave (IEventLog.lastEventId ps.eventLog), bytes) :=
    prepareSave_eq_ok.mpr ⟨world, rfl, hcovers, rfl, hencode⟩
  refine ⟨⟨bytes, hprepare⟩, ?_⟩
  intro saved hsave
  rcases saveWorld_ok hsave with ⟨found, snapshot, hprepared, hcommit⟩
  rw [hprepare] at hprepared
  cases hprepared
  rcases commitSave_ok hcommit with ⟨store, _, hsnapshot, hmeta, _⟩
  rw [hid] at hsnapshot
  refine ⟨bytes, ?_, decodeWorld_encodeWorld hsavable hencode⟩
  rw [AtomicWorldStore.saveMeta_other _ _ _ _ hmeta worldId]
  exact AtomicWorldStore.saveSnapshot_ok _ _ _ _ hsnapshot

variable [SnapshotJson.Lossless] [AtomicWorldStore S] [ValueJson] [ValueJson.Keeps]
  {file : Option Bytes} {target : DumpTarget} {pretty : Bool}

section Dumped

variable (hnew : FileEventLog.new file = some (.ok ps.eventLog))
  (hwhole : ps.eventLog.file = file) {events : List SimEvent}
  (hread : ps.eventLog.readAllValid = .ok events)
  (hspawns : forall event : SimEvent, event ∈ events -> ¬ event.data.spawnsInvalid)

include hnew hwhole hread hspawns

theorem savesAs_of_dumped {text : Bytes}
    (h : cmdDump (.ok ps.store) file worldId target pretty = some (.ok text)) :
    exists world : World, decodeWorld text = .ok world ∧ ps.SavesAs worldId world := by
  rcases FileEventLog.openReadOnly_whole S hnew hwhole with ⟨inspected, hopen, hrecovers⟩
  rcases cmdDump_eq_ok.mp h with ⟨world, replayed, bytes, json, hload, hencode, hformat, hwrite⟩
  have hrecovered := (loadWorldWithReplayed_eq_ok hopen).mp hload
  rw [hrecovers] at hrecovered
  rcases stampForDump_eq_stampForSave ps.eventLog.lastEventId_lt hrecovered with ⟨hstamp, _⟩
  rcases savable_of_recovered hrecovered hread hspawns (IEventLog.lastEventId ps.eventLog) with
    ⟨hsavable, _⟩
  rw [hstamp] at hencode
  exact ⟨_, decodeWorld_printed hsavable hencode hformat hwrite,
    savesAs_of_recovered hrecovered hread hspawns hencode⟩

omit [SnapshotJson.Lossless] [AtomicWorldStore S] in
theorem dumped_of_savesAs (h : ps.SavesAs worldId world) (htarget : target.Writable)
    (pretty : Bool) :
    exists text : Bytes, cmdDump (.ok ps.store) file worldId target pretty = some (.ok text) ∧
      decodeWorld text = .ok world := by
  rcases FileEventLog.openReadOnly_whole S hnew hwhole with ⟨inspected, hopen, hrecovers⟩
  rcases h with ⟨replayed, loaded, hload, hsaves⟩
  rcases loadWorld_eq_some hload with ⟨_, herror, _⟩ | ⟨found, events', hrecovered, _, hloaded⟩
  · cases herror
  · rcases (hsaves {}).left with ⟨bytes, hprepare⟩
    rcases prepareSave_eq_ok.mp hprepare with ⟨held, hheld, _, hworld, hencode⟩
    rw [hloaded] at hheld hworld
    cases hheld
    rcases stampForDump_eq_stampForSave ps.eventLog.lastEventId_lt hrecovered with ⟨hstamp, _⟩
    rcases savable_of_recovered hrecovered hread hspawns (IEventLog.lastEventId ps.eventLog) with
      ⟨hsavable, _⟩
    have hsaved : world = found.stampForSave (IEventLog.lastEventId ps.eventLog) := hworld
    subst hsaved
    rcases formatJson_of_toVec (encodeWorld_eq_ok.mp hencode) pretty with ⟨json, hformat, _⟩
    rcases htarget.write json with ⟨text, hwrite⟩
    refine ⟨text, ?_, decodeWorld_printed hsavable hencode hformat hwrite⟩
    apply cmdDump_eq_ok.mpr
    refine ⟨found, events', bytes, json, ?_, ?_, hformat, hwrite⟩
    · rw [loadWorldWithReplayed_eq_ok hopen, hrecovers]
      exact hrecovered
    · rw [hstamp]
      exact hencode

end Dumped

end PersistentSimulation

theorem IntactWal.not_spawnsInvalid {rng : R} {clock : C} {store : S}
    {inputs : List (RuntimeInput R C)} {file : Option Bytes} {log : FileEventLog}
    {events : List SimEvent}
    (h : IntactWal (Session.start rng clock store) inputs file log events) (event : SimEvent)
    (hmem : event ∈ events) : ¬ event.data.spawnsInvalid := by
  apply (h.own event hmem).not_spawnsInvalid
  exact nofun

variable [BatchJson.Lossless] [SnapshotJson.Lossless] [AtomicWorldStore S] {rng : R} {clock : C}
  {store : S} {inputs : List (RuntimeInput R C)} {answers : List RuntimeAnswer}
  {session : Session R C S}

theorem quiet_savesAs (hstore : EmptyStore store)
    (hrun : run Session.serve inputs (Session.start rng clock store) = some (answers, session))
    (hquiet : forall input : RuntimeInput R C, input ∈ inputs -> input.Quiet)
    {worldId : String} (hwritten : HasSnapshot session.runtime.store worldId)
    (ending : FileEventLog.Ending) (rng' : R) (clock' : C) :
    exists (reopened loaded : PersistentSimulation R C FileEventLog S)
        (events replayed : List SimEvent),
      session.runtime.restarted ending rng' clock' = some reopened ∧
      IntactWal (Session.start rng clock store) inputs (session.runtime.eventLog.left ending)
        reopened.eventLog events ∧
      reopened.loadWorld worldId = some (.ok replayed, loaded) ∧
      ((forall snapshot : WorldSnapshotDto,
          exists bytes : Bytes, SnapshotJson.toVec snapshot = .ok bytes) ->
        exists world : World, reopened.SavesAs worldId world) := by
  have hdurable := (Durable.start hstore).run hrun hquiet
  rcases intactWal_of_quiet hstore hrun hquiet ending with ⟨log, events, hintact⟩
  rcases hdurable.recovers hwritten with ⟨last, s, i, replayed, _, _, hreopens⟩
  rcases hreopens ending with ⟨found, hnew, hrecovered⟩
  rw [hintact.opened] at hnew
  cases hnew
  let reopened : PersistentSimulation R C FileEventLog S :=
    PersistentSimulation.new rng' clock' log session.runtime.store
  have hrestart : session.runtime.restarted ending rng' clock' = some reopened := by
    unfold PersistentSimulation.restarted
    rw [hintact.opened]
  have hreopened : loadRecoveredWorld reopened.store reopened.eventLog worldId =
      some (.ok (last.withCursor s i, replayed)) := hrecovered
  refine ⟨reopened, _, events, replayed, hrestart, hintact,
    PersistentSimulation.loadWorld_of_recovered hreopened, ?_⟩
  intro htotal
  rcases htotal (WorldSnapshotDto.fromWorld
    ((last.withCursor s i).stampForSave (IEventLog.lastEventId log))) with ⟨bytes, hwrite⟩
  exact ⟨_, PersistentSimulation.savesAs_of_recovered hreopened hintact.listed
    hintact.not_spawnsInvalid (encodeWorld_eq_ok.mpr hwrite)⟩

/-- Whatever files a run leaves, with failures and crashes anywhere: if the log is intact,
a dump prints a document exactly if a load followed by a save writes a snapshot, and both
decode to the same world.  A run in which no append fails leaves the log intact, and once
it holds a snapshot both succeed. -/
theorem dump_savesAs [ValueJson] [ValueJson.Keeps]
    (hrun : run Session.serve inputs (Session.start rng clock store) = some (answers, session))
    (ending : FileEventLog.Ending) (worldId : String) (rng' : R) (clock' : C) :
    (forall (reopened : PersistentSimulation R C FileEventLog S) (events : List SimEvent),
      session.runtime.restarted ending rng' clock' = some reopened ->
      IntactWal (Session.start rng clock store) inputs (session.runtime.eventLog.left ending)
        reopened.eventLog events ->
      forall (target : DumpTarget) (pretty : Bool),
        (forall text : Bytes,
          cmdDump (.ok session.runtime.store) (session.runtime.eventLog.left ending) worldId
            target pretty = some (.ok text) ->
          exists world : World,
            decodeWorld text = .ok world ∧ reopened.SavesAs worldId world) ∧
        (target.Writable -> forall world : World, reopened.SavesAs worldId world ->
          exists text : Bytes,
            cmdDump (.ok session.runtime.store) (session.runtime.eventLog.left ending) worldId
              target pretty = some (.ok text) ∧ decodeWorld text = .ok world)) ∧
    (EmptyStore store -> (forall input : RuntimeInput R C, input ∈ inputs -> input.Quiet) ->
      HasSnapshot session.runtime.store worldId ->
        exists (reopened loaded : PersistentSimulation R C FileEventLog S)
            (events replayed : List SimEvent),
          session.runtime.restarted ending rng' clock' = some reopened ∧
          IntactWal (Session.start rng clock store) inputs
            (session.runtime.eventLog.left ending) reopened.eventLog events ∧
          reopened.loadWorld worldId = some (.ok replayed, loaded) ∧
          ((forall snapshot : WorldSnapshotDto,
              exists bytes : Bytes, SnapshotJson.toVec snapshot = .ok bytes) ->
            exists world : World, reopened.SavesAs worldId world)) := by
  constructor
  · intro reopened events hrestart hintact target pretty
    rw [← PersistentSimulation.restarted_store hrestart]
    constructor
    · intro text hdump
      exact PersistentSimulation.savesAs_of_dumped hintact.opened hintact.whole hintact.listed
        hintact.not_spawnsInvalid hdump
    · intro htarget world hsaves
      exact PersistentSimulation.dumped_of_savesAs hintact.opened hintact.whole hintact.listed
        hintact.not_spawnsInvalid hsaves htarget pretty
  · intro hstore hquiet hwritten
    exact quiet_savesAs hstore hrun hquiet hwritten ending rng' clock'

end Saving

def dumpedVale : List (RuntimeInput Pcg32Rng UnlimitedClock) :=
  savedVale ++ [.command .tick []]

theorem dump_savesAs_vale :
    letI := ieeeCrc32
    letI := knownDocuments [valeSnapshot, valeTickSnapshot]
    letI := knownValues [valeSnapshot, valeTickSnapshot]
    letI := knownBatches [PersistentSimulation.valeGenesis, [PersistentSimulation.valeTick]]
    exists (session : Session Pcg32Rng UnlimitedClock MockWorldStore)
        (reopened : PersistentSimulation Pcg32Rng UnlimitedClock FileEventLog MockWorldStore)
        (text : Bytes) (world : World),
      (run Session.serve dumpedVale unsavedVale).map Prod.snd = some session ∧
      session.runtime.restarted (.crash 0) Pcg32Rng.uninitialized UnlimitedClock.new =
        some reopened ∧
      cmdDump (.ok session.runtime.store) (session.runtime.eventLog.left (.crash 0)) "world_7"
        .stdout false = some (.ok text) ∧
      decodeWorld text = .ok world ∧ world.worldMeta.lastEventId = ⟨3⟩ ∧
      world.worldMeta.snapshotTick = ⟨1⟩ ∧ reopened.SavesAs "world_7" world := by
  let _ := ieeeCrc32
  let _ := knownDocuments [valeSnapshot, valeTickSnapshot]
  let _ := knownValues [valeSnapshot, valeTickSnapshot]
  let _ := knownBatches [PersistentSimulation.valeGenesis, [PersistentSimulation.valeTick]]
  have hdocuments : forall a, a ∈ [valeSnapshot, valeTickSnapshot] ->
      forall b, b ∈ [valeSnapshot, valeTickSnapshot] ->
      forall bytes, bytes ∈ Json.printings a -> bytes ∈ Json.printings b -> a = b := by
    decide +kernel
  have _ : BatchJson.Lossless := knownBatches_lossless (by decide +kernel)
  have _ : SnapshotJson.Lossless := knownDocuments_lossless hdocuments
  have _ : ValueJson.Keeps := knownValues_keeps hdocuments
  have hdumped : (run Session.serve dumpedVale unsavedVale).bind (fun result =>
      (cmdDump (.ok result.2.runtime.store) (result.2.runtime.eventLog.left (.crash 0))
        "world_7" .stdout false).bind fun dumped => dumped.toOption.bind fun text =>
          (decodeWorld text).toOption.map fun world =>
            (world.worldMeta.lastEventId, world.worldMeta.snapshotTick)) =
        some (⟨3⟩, ⟨1⟩) := by
    decide +kernel
  have hquiet : forall input : RuntimeInput Pcg32Rng UnlimitedClock,
      input ∈ dumpedVale -> input.Quiet := by
    decide
  rcases Option.bind_eq_some_iff.mp hdumped with ⟨⟨answers, session⟩, hrun, hprinted⟩
  rcases Option.bind_eq_some_iff.mp hprinted with ⟨dumped, hdump, hread⟩
  rcases Option.bind_eq_some_iff.mp hread with ⟨text, htext, hdecoded⟩
  rcases Option.map_eq_some_iff.mp hdecoded with ⟨world, hworld, hcursor⟩
  cases dumped with
  | error e => cases htext
  | ok printed =>
      cases htext
      rcases intactWal_of_quiet MockWorldStore.new_empty hrun hquiet (.crash 0) with
        ⟨log, events, hintact⟩
      let reopened : PersistentSimulation Pcg32Rng UnlimitedClock FileEventLog MockWorldStore :=
        PersistentSimulation.new Pcg32Rng.uninitialized UnlimitedClock.new log
          session.runtime.store
      have hrestart : session.runtime.restarted (.crash 0) Pcg32Rng.uninitialized
          UnlimitedClock.new = some reopened := by
        unfold PersistentSimulation.restarted
        rw [hintact.opened]
      rcases ((dump_savesAs hrun (.crash 0) "world_7" Pcg32Rng.uninitialized
        UnlimitedClock.new).left reopened events hrestart hintact .stdout false).left text hdump
        with ⟨found, hfound, hsaves⟩
      rw [hfound] at hworld
      cases hworld
      refine ⟨session, reopened, text, world, ?_, hrestart, hdump, hfound,
        congrArg Prod.fst hcursor, congrArg Prod.snd hcursor, hsaves⟩
      rw [hrun]
      rfl

end Seej
