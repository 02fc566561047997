import Seej.Ledgers
import Seej.Server

/-!
# Calls of the server

A triple for each call that a process of the server makes on its runtime.  The process
follows the ledger of its world, and whatever stops it in a call leaves a ledger
that the next process finds.
-/

namespace Seej

open Foundation

/-!
## Snapshots since a tick
-/

section Snapshots

variable {S : Type} [IWorldStore S] [SnapshotJson]

/-- The snapshot of the world is not older than the given tick. -/
def SnapshotSince (low : Nat) (store : S) (worldId : String) : Prop :=
  exists (bytes : Bytes) (saved : World), IWorldStore.loadSnapshot store worldId = .ok bytes ∧
    decodeWorld bytes = .ok saved ∧ low ≤ saved.currentTick.val.toNat

namespace SnapshotSince

variable {low : Nat} {store next : S} {worldId : String}

theorem hasSnapshot (h : SnapshotSince low store worldId) : HasSnapshot store worldId := by
  rcases h with ⟨bytes, _, hload, _⟩
  exact ⟨bytes, hload⟩

theorem congr (h : SnapshotSince low store worldId)
    (hsame : IWorldStore.loadSnapshot next worldId = IWorldStore.loadSnapshot store worldId) :
    SnapshotSince low next worldId := by
  rcases h with ⟨bytes, saved, hload, hrest⟩
  exact ⟨bytes, saved, hsame.trans hload, hrest⟩

theorem mono {low' : Nat} (h : SnapshotSince low store worldId) (hle : low' ≤ low) :
    SnapshotSince low' store worldId := by
  rcases h with ⟨bytes, saved, hload, hdecode, hlow⟩
  exact ⟨bytes, saved, hload, hdecode, Nat.le_trans hle hlow⟩

variable {R C : Type} [Crc32] [BatchJson]

omit [Crc32] [BatchJson] in
/-- The steps of a save keep the snapshot of a world or replace it by the saved one. -/
theorem of_committed [AtomicWorldStore S] {E : Type} [IEventLog E]
    {ps : PersistentSimulation R C E S} {saved : World} {snapshot : Bytes} {log : E}
    (hcommitted : PersistentSimulation.Committed ps saved snapshot log next)
    (hdecode : decodeWorld snapshot = .ok saved) (worldId : String) :
    IWorldStore.loadSnapshot next worldId = IWorldStore.loadSnapshot ps.store worldId ∨
      SnapshotSince saved.currentTick.val.toNat next worldId := by
  have hreplaced {store' : S} {result : SimResult Unit}
      (hsave : IWorldStore.saveSnapshot ps.store saved.id snapshot = (result, store')) :
      IWorldStore.loadSnapshot store' worldId = IWorldStore.loadSnapshot ps.store worldId ∨
        SnapshotSince saved.currentTick.val.toNat store' worldId := by
    by_cases heq : worldId = saved.id
    · subst heq
      rcases AtomicWorldStore.saveSnapshot_atomic _ _ _ _ _ hsave with hnew | hsame
      · exact Or.inr ⟨snapshot, saved, hnew, hdecode, Nat.le_refl _⟩
      · exact Or.inl hsame
    · exact Or.inl ((AtomicWorldStore.saveSnapshot_other _ _ _ _ _ hsave).left worldId heq)
  cases hcommitted with
  | synced _ => exact Or.inl rfl
  | replaced _ hsnapshot => exact hreplaced hsnapshot
  | mirrored _ hsnapshot hmeta =>
      have hsame := AtomicWorldStore.saveMeta_other _ _ _ _ hmeta worldId
      rcases hreplaced hsnapshot with hold | hnew
      · exact Or.inl (hsame.trans hold)
      · exact Or.inr (hnew.congr hsame)

end SnapshotSince

end Snapshots

/-!
## Processes that follow a ledger
-/

abbrev CreateWorldCmd.worldId (cmd : CreateWorldCmd) : String :=
  (World.new cmd.name cmd.seed).id

abbrev Ledger.tick (c : Ledger) : Nat :=
  c.world.currentTick.val.toNat

def OnlyInCommand {ε : Type} (reason : Stop ε PanicSite) : Prop :=
  forall site : PanicSite, reason = .panicked site -> site = .command

theorem OnlyInCommand.mapped {ε ε' : Type} {reason : Stop ε PanicSite} {f : ε -> ε'}
    (h : OnlyInCommand reason) : OnlyInCommand (reason.mapError f) := by
  intro site hsite
  cases reason with
  | failed e => cases hsite
  | panicked site' =>
      cases hsite
      exact h site rfl
  | killed => cases hsite

section Hosts

variable [MetaJson] [SnapshotJson] [Crc32] [BatchJson]

structure Going (cmd : CreateWorldCmd) (c : Ledger) (low : Nat) (host : Host) : Prop where
  follows : Follows cmd c host.runtime
  since : SnapshotSince low host.runtime.store cmd.worldId
  low_le : low ≤ c.tick

structure Opened (cmd : CreateWorldCmd) (c : Ledger) (low : Nat) (host : Host) : Prop where
  archived : Archived cmd c host.runtime.store
  log : Holds host.runtime.eventLog c.frames
  since : SnapshotSince low host.runtime.store cmd.worldId
  low_le : low ≤ c.tick

/-- However the process ends here, the next one finds a ledger with the property. -/
def Leaves (cmd : CreateWorldCmd) (property : Nat -> Ledger -> Prop) (host : Host) : Prop :=
  exists low : Nat, SnapshotSince low host.runtime.store cmd.worldId ∧
    forall ending : FileEventLog.Ending, exists c : Ledger, property low c ∧ low ≤ c.tick ∧
      Rests cmd c (host.runtime.eventLog.left ending) host.runtime.store

def Documents (c : Ledger) (d : Directory String UInt8) : Prop :=
  exists (snapshot : Bytes) (text : String),
    encodeWorld (c.world.savedAt (framesEvents c.frames).length) = .ok snapshot ∧
    MetaJson.toStringPretty (c.world.savedAt (framesEvents c.frames).length).worldMeta =
      .ok text ∧
    d.read "snapshot.json" = some snapshot ∧ d.read "meta.json" = some (textBytes text)

variable {cmd : CreateWorldCmd} {c : Ledger} {low : Nat} {host : Host}

theorem Opened.leaves (h : Opened cmd c low host) {property : Nat -> Ledger -> Prop}
    (hproperty : property low c) : Leaves cmd property host :=
  ⟨low, h.since, fun ending => ⟨c, hproperty, h.low_le, h.archived, h.log.found ending⟩⟩

theorem Going.opened (h : Going cmd c low host) : Opened cmd c low host :=
  ⟨h.follows.archived, h.follows.log, h.since, h.low_le⟩

theorem Going.leaves (h : Going cmd c low host) {property : Nat -> Ledger -> Prop}
    (hproperty : property low c) : Leaves cmd property host :=
  h.opened.leaves hproperty

theorem Leaves.mono {property property' : Nat -> Ledger -> Prop}
    (h : Leaves cmd property host)
    (himp : forall (low : Nat) (c : Ledger), property low c -> property' low c) :
    Leaves cmd property' host := by
  rcases h with ⟨low, hsince, hleft⟩
  refine ⟨low, hsince, ?_⟩
  intro ending
  rcases hleft ending with ⟨c, hproperty, hrest⟩
  exact ⟨c, himp low c hproperty, hrest⟩

/-!
## The end of a call
-/

omit [MetaJson] [SnapshotJson] [Crc32] [BatchJson] in
theorem Host.answer_meets {α : Type} {returns : α -> Host -> Prop}
    {stops : Stop ApiError PanicSite -> Host -> Prop} {io : CallIo} {result : ApiResult α}
    {host : Host} (hreturns : forall value : α, result = .ok value -> returns value host)
    (hstops : forall reason : Stop ApiError PanicSite, OnlyInCommand reason ->
      stops reason host) :
    Ended.Meets returns stops (Host.answer io result, host) := by
  unfold Host.answer
  cases io.killed with
  | some last => exact hstops .killed nofun
  | none =>
      cases result with
      | ok value => exact hreturns value rfl
      | error e => exact hstops (.failed e) nofun

/-!
## Commands
-/

theorem Follows.Answered.leaves {command : SimCommand}
    {result : ApiResult (List SimEvent)} {runtime : ServerRuntime FilesystemStore}
    {calls : List CallIo} (hgoing : Going cmd c low host)
    (h : Follows.Answered cmd c command host.runtime result runtime)
    (hlater : forall after : Ledger, c.after command = some after ->
      (framesEvents after.frames).length + 1 < 2 ^ 64 -> c.tick ≤ after.tick) :
    Leaves cmd (fun low' c' => low' = low ∧ (c' = c ∨
      c.after command = some c' ∧ (framesEvents c'.frames).length + 1 < 2 ^ 64))
      { runtime := runtime, calls := calls } := by
  have hsince {runtime : ServerRuntime FilesystemStore}
      (hstore : runtime.store = host.runtime.store) :
      SnapshotSince low runtime.store cmd.worldId := by
    rw [hstore]
    exact hgoing.since
  cases h with
  | rejected h hstore =>
      refine ⟨low, hsince hstore, ?_⟩
      intro ending
      exact ⟨c, ⟨rfl, Or.inl rfl⟩, hgoing.low_le, h.rests ending⟩
  | @accepted _ after _ hafter h hstore =>
      have hlength := h.log.counts.length_lt
      refine ⟨low, hsince hstore, ?_⟩
      intro ending
      exact ⟨after, ⟨rfl, Or.inr ⟨hafter, hlength⟩⟩,
        Nat.le_trans hgoing.low_le (hlater after hafter hlength), h.rests ending⟩
  | @broken _ after _ hafter harchived hstore hfound =>
      refine ⟨low, hsince hstore, ?_⟩
      intro ending
      have hbefore := hgoing.follows.archived
      rw [← hstore] at hbefore harchived
      rcases hfound ending with hold | hnew
      · exact ⟨c, ⟨rfl, Or.inl rfl⟩, hgoing.low_le, hbefore, hold⟩
      · rcases hnew with ⟨log, hnew, hholds⟩
        have hlength := hholds.counts.length_lt
        exact ⟨after, ⟨rfl, Or.inr ⟨hafter, hlength⟩⟩,
          Nat.le_trans hgoing.low_le (hlater after hafter hlength), harchived, log, hnew, hholds⟩

theorem Host.processCommand_triple [BatchJson.Lossless] {command : SimCommand}
    (hwrites : command.writes = true)
    (hlater : forall after : Ledger, c.after command = some after ->
      (framesEvents after.frames).length + 1 < 2 ^ 64 -> c.tick ≤ after.tick) :
    Triple (Going cmd c low) (Host.processCommand command)
      (fun _ host => exists after : Ledger, c.after command = some after ∧
        (framesEvents after.frames).length + 1 < 2 ^ 64 ∧ Going cmd after low host)
      (fun reason host => OnlyInCommand reason ∧
        Leaves cmd (fun low' c' => low' = low ∧ (c' = c ∨
          c.after command = some c' ∧ (framesEvents c'.frames).length + 1 < 2 ^ 64)) host) := by
  constructor
  intro host hgoing
  unfold Host.processCommand
  simp only [Host.nextCall]
  cases hprocess : (host.runtime.withRecords (host.calls.headD {}).records).processCommand
      command with
  | none =>
      have hnext : Going cmd c low { host with calls := host.calls.tail } :=
        ⟨hgoing.follows, hgoing.since, hgoing.low_le⟩
      refine ⟨?_, hnext.leaves ⟨rfl, Or.inl rfl⟩⟩
      rintro site hsite
      cases hsite
      rfl
  | some answer =>
      rcases answer with ⟨result, runtime⟩
      have hanswered := hgoing.follows.command hwrites _ hprocess
      apply Host.answer_meets
      · intro persisted hresult
        subst hresult
        cases hanswered with
        | @accepted _ after _ hafter h hstore =>
            have hlength := h.log.counts.length_lt
            refine ⟨after, hafter, hlength, h, ?_, ?_⟩
            · show SnapshotSince low runtime.store cmd.worldId
              rw [hstore]
              exact hgoing.since
            · exact Nat.le_trans hgoing.low_le (hlater after hafter hlength)
      · intro reason hreason
        exact ⟨hreason, hanswered.leaves hgoing hlater⟩

/-!
## Saves
-/

omit [Crc32] [BatchJson] in
theorem FilesystemStore.SameDocuments.since {left right : FilesystemStore}
    (h : FilesystemStore.SameDocuments left right) {worldId : String}
    (hsince : SnapshotSince low right worldId) : SnapshotSince low left worldId :=
  hsince.congr (h.loadSnapshot worldId)

omit [Crc32] [BatchJson] in
theorem Archived.same {left right : FilesystemStore} (h : Archived cmd c right)
    (hsame : FilesystemStore.SameDocuments left right) : Archived cmd c left :=
  ⟨h.nonempty, h.reaches, hsame.stored h.stored⟩

theorem Follows.ready (h : Follows cmd c host.runtime) (io : CallIo) :
    Follows cmd c { host.runtime with store := host.runtime.store.withSaves io.saves } := by
  have hsame : FilesystemStore.SameDocuments (host.runtime.store.withSaves io.saves)
      host.runtime.store := fun _ _ _ => rfl
  exact ⟨h.archived.same hsame, h.log, h.engine⟩

omit [MetaJson] [Crc32] [BatchJson] in
theorem Archived.decode [SnapshotJson.Lossless] {S : Type} [IWorldStore S] {store : S}
    (h : Archived cmd c store) {snapshot : Bytes}
    (hencode : encodeWorld (c.world.savedAt (framesEvents c.frames).length) = .ok snapshot) :
    decodeWorld snapshot = .ok (c.world.savedAt (framesEvents c.frames).length) :=
  decodeWorld_encodeWorld (h.reaches.savable rfl) hencode

theorem Follows.since_committed [MetaJson.Lossless] [SnapshotJson.Lossless]
    (h : Follows cmd c host.runtime) (io : CallIo) {saved : World} {snapshot : Bytes}
    (hprepare : (host.readyToSave io).prepareSave = .ok (saved, snapshot))
    {log : FileEventLog} {next : FilesystemStore}
    (hcommitted : PersistentSimulation.Committed (host.readyToSave io) saved snapshot log next) :
    IWorldStore.loadSnapshot next cmd.worldId =
        IWorldStore.loadSnapshot host.runtime.store cmd.worldId ∨
      SnapshotSince c.tick next cmd.worldId := by
  have hready := h.ready io
  rcases hready.born.prepared hprepare with ⟨hsaved, hencode⟩
  subst hsaved
  exact SnapshotSince.of_committed hcommitted (hready.archived.decode hencode) cmd.worldId

theorem Follows.documents (h : Follows cmd c host.runtime) {runtime : ServerRuntime FilesystemStore}
    {io : CallIo} (hsaved : Follows.Saved c
      { host.runtime with store := host.runtime.store.withSaves io.saves } runtime) :
    Documents c (runtime.store.names cmd.worldId) := by
  rcases hsaved with ⟨snapshot, middle, hencode, hsnapshot, hmeta⟩
  have hid : c.world.id = cmd.worldId := h.archived.reaches.worldId
  have hfirst := (host.runtime.store.withSaves io.saves).saveSnapshot_saved c.world.id snapshot
  rw [show (host.runtime.store.withSaves io.saves).saveSnapshot c.world.id snapshot = (.ok (),
    middle) from hsnapshot] at hfirst
  rcases hfirst.read_of_ok with ⟨bytes, hbytes, _, hread⟩
  cases hbytes
  have hsecond := middle.saveMeta_saved
    (c.world.savedAt (framesEvents c.frames).length).worldMeta
  rw [show middle.saveMeta (c.world.savedAt (framesEvents c.frames).length).worldMeta = (.ok (),
    runtime.store) from hmeta] at hsecond
  rcases hsecond.read_of_ok with ⟨content, hcontent, _, hread'⟩
  cases htext : MetaJson.toStringPretty
      (c.world.savedAt (framesEvents c.frames).length).worldMeta with
  | error e =>
      rw [htext] at hcontent
      cases hcontent
  | ok text =>
      rw [htext] at hcontent
      cases hcontent
      rw [hid] at hread
      have hother : (runtime.store.names cmd.worldId).read "snapshot.json" =
          (middle.names cmd.worldId).read "snapshot.json" :=
        hsecond.read_other cmd.worldId (by decide) (by decide)
      have hsame : (c.world.savedAt (framesEvents c.frames).length).worldMeta.worldId =
          cmd.worldId := hid
      rw [hsame] at hread'
      exact ⟨snapshot, text, hencode, htext, hother.trans hread, hread'⟩

structure Unsaved (cmd : CreateWorldCmd) (c : Ledger) (before after : Host) : Prop where
  rests : forall ending : FileEventLog.Ending,
    Rests cmd c (after.runtime.eventLog.left ending) after.runtime.store
  snapshot : IWorldStore.loadSnapshot after.runtime.store cmd.worldId =
      IWorldStore.loadSnapshot before.runtime.store cmd.worldId ∨
    SnapshotSince c.tick after.runtime.store cmd.worldId

/-- A save in a process that follows a ledger. -/
theorem Follows.saveWorld [MetaJson.Lossless] [SnapshotJson.Lossless]
    (h : Follows cmd c host.runtime) : Ended.Meets
      (fun _ after => Going cmd c c.tick after ∧
        Documents c (after.runtime.store.names cmd.worldId))
      (fun reason after => OnlyInCommand reason ∧ Unsaved cmd c host after)
      (Host.saveWorld host) := by
  unfold Host.saveWorld
  simp only [Host.nextCall]
  have hready := h.ready (host.calls.headD {})
  cases hkilled : (host.calls.headD {}).killed with
  | some last =>
      refine ⟨nofun, ?_⟩
      rcases hready.saveUntil (host.calls.headD {}).sync last with ⟨harchived, hlog⟩
      refine ⟨fun ending => ⟨harchived, hlog.found ending⟩, ?_⟩
      rcases PersistentSimulation.saveUntil_cases last
        (({ host with calls := host.calls.tail } : Host).readyToSave (host.calls.headD {})) with
        hsame | ⟨_, _, hprepare, hcommitted⟩
      · left
        show IWorldStore.loadSnapshot ((({ host with calls := host.calls.tail } :
          Host).readyToSave (host.calls.headD {})).saveUntil last).store _ = _
        rw [hsame]
        rfl
      · exact h.since_committed _ hprepare hcommitted
  | none =>
      simp only
      cases hsave : (({ host with calls := host.calls.tail } : Host).readyToSave
          (host.calls.headD {})).saveWorld with
      | mk result runtime =>
          rcases hready.save hsave with ⟨hfollows, hsaved⟩
          apply Host.answer_meets
          · intro value hresult
            have hsteps := hsaved hresult
            refine ⟨⟨hfollows, ?_, Nat.le_refl _⟩, h.documents hsteps⟩
            rcases hsteps with ⟨snapshot, middle, hencode, hsnapshot, hmeta⟩
            have hnew := AtomicWorldStore.saveSnapshot_ok _ _ _ _ hsnapshot
            have hid : c.world.id = cmd.worldId := hready.archived.reaches.worldId
            rw [hid] at hnew
            refine ⟨snapshot, _, ?_, hready.archived.decode hencode, Nat.le_refl _⟩
            exact (AtomicWorldStore.saveMeta_other _ _ _ _ hmeta _).trans hnew
          · intro reason hreason
            refine ⟨hreason, hfollows.rests, ?_⟩
            rcases PersistentSimulation.saveWorld_cases hsave with
              hsame | ⟨_, _, hprepare, hcommitted⟩
            · left
              show IWorldStore.loadSnapshot runtime.store _ = _
              rw [hsame]
              rfl
            · exact h.since_committed _ hprepare hcommitted

theorem Host.saveWorld_triple [MetaJson.Lossless] [SnapshotJson.Lossless] :
    Triple (Going cmd c low) Host.saveWorld
      (fun _ host => Going cmd c c.tick host ∧
        Documents c (host.runtime.store.names cmd.worldId))
      (fun reason host => OnlyInCommand reason ∧
        Leaves cmd (fun low' c' => low' = low ∧ c' = c) host) := by
  constructor
  intro host hgoing
  refine Ended.Meets.weaken hgoing.follows.saveWorld (fun _ _ h => h) ?_
  rintro reason after ⟨hreason, hunsaved⟩
  refine ⟨hreason, low, ?_, fun ending => ⟨c, ⟨rfl, rfl⟩, hgoing.low_le,
    hunsaved.rests ending⟩⟩
  rcases hunsaved.snapshot with hsame | hnew
  · exact hgoing.since.congr hsame
  · exact hnew.mono hgoing.low_le

/-!
## Loads
-/

/-- A load that meets faults changes nothing, or it is the load without them. -/
theorem Host.readyToLoad_cases (host : Host) (io : CallIo) {journal : List SimEvent}
    (hlog : Lists host.runtime.eventLog journal) {worldId : String}
    {replayed : List SimEvent} {next : ServerRuntime FilesystemStore}
    (hload : host.runtime.loadWorld worldId = some (.ok replayed, next)) :
    (exists reading : PersistentSimulation Pcg32Rng UnlimitedClock ReadLog ReadStore,
      (host.readyToLoad io).loadWorld worldId = some (.ok replayed, reading) ∧
        { host.runtime with sim := reading.sim } = next) ∨
    exists e : ApiError,
      (host.readyToLoad io).loadWorld worldId = some (.error e, host.readyToLoad io) := by
  rcases PersistentSimulation.loadWorld_eq_some hload with
    ⟨_, herror, _⟩ | ⟨world, events, hrecovered, hresult, hnext⟩
  · cases herror
  · cases hresult
    unfold PersistentSimulation.loadWorld
    rcases @loadRecoveredWorld_reading _ _ _ _ host.runtime.store _ _ io.reads worldId hlog with
      hsame | ⟨e, herror⟩
    · left
      have hread : loadRecoveredWorld (host.readyToLoad io).store (host.readyToLoad io).eventLog
          worldId = some (.ok (world, replayed)) := hsame.trans hrecovered
      rw [hread, hnext]
      exact ⟨_, rfl, rfl⟩
    · right
      have hread : loadRecoveredWorld (host.readyToLoad io).store (host.readyToLoad io).eventLog
          worldId = some (.error e) := herror
      rw [hread]
      cases e with
      | notFound _ => exact ⟨_, rfl⟩
      | _ => exact ⟨_, rfl⟩

/-- Loading the world of an opened ledger succeeds, or reports a fault of its reads. -/
theorem Host.loadWorld_triple :
    Triple (Opened cmd c low) (Host.loadWorld cmd.worldId)
      (fun _ host => Going cmd c low host)
      (fun reason host => OnlyInCommand reason ∧
        Leaves cmd (fun low' c' => low' = low ∧ c' = c) host) := by
  constructor
  intro host hopened
  unfold Host.loadWorld
  simp only [Host.nextCall]
  rcases Follows.load hopened.archived hopened.log hopened.since.hasSnapshot with
    ⟨replayed, next, hload, hstore, hfollows⟩
  have hwaiting : Opened cmd c low { host with calls := host.calls.tail } :=
    ⟨hopened.archived, hopened.log, hopened.since, hopened.low_le⟩
  rcases Host.readyToLoad_cases { host with calls := host.calls.tail } (host.calls.headD {})
    hopened.log.lists hload with ⟨reading, hread, hnext⟩ | ⟨e, hread⟩
  · rw [hread]
    simp only at hnext ⊢
    rw [hnext]
    have hgoing : Going cmd c low { runtime := next, calls := host.calls.tail } := by
      refine ⟨hfollows, ?_, hopened.low_le⟩
      rw [hstore]
      exact hopened.since
    apply Host.answer_meets
    · intro _ _
      exact hgoing
    · intro reason hreason
      exact ⟨hreason, hgoing.leaves ⟨rfl, rfl⟩⟩
  · rw [hread]
    apply Host.answer_meets
    · intro _ hvalue
      cases hvalue
    · intro reason hreason
      exact ⟨hreason, hwaiting.leaves ⟨rfl, rfl⟩⟩

end Hosts

end Seej
