import Seej.InterruptedSaves
import Seej.PowerFailures

/-!
# The runtime on a filesystem

The runtime over the file-backed log and the filesystem store of one data directory,
with the faults of every save and append, the end of the process at any moment, and power
failures.  The log and the store share the directory of the world: the store finds the
file of the log there.  Nothing synchronises the names of the directories, and only a
save the name of the log, so a power failure may take them.
-/

namespace Seej

open Foundation

/-!
## Inputs and steps
-/

/-- What may happen to the machine: an input of the process, with the answers to the
saves of the store, or a power failure, after which a new process is started. -/
inductive MachineInput (R C : Type) where
  | process (input : RuntimeInput R C) (saves : List SaveIo)
  | powerFailure (outage : Outage) (logLost : Bool) (cut : Nat) (rng : R) (clock : C)

namespace FilesystemStore

def showLog (store : FilesystemStore) (worldId : String) : Option Bytes -> FilesystemStore
  | none => store
  | some content =>
      store.setNames worldId (Function.update (store.names worldId) "events"
        { current := some ⟨content, true⟩, earlier := [] })

theorem showLog_same (store : FilesystemStore) (worldId : String) (file : Option Bytes) :
    SameDocuments (store.showLog worldId file) store := by
  intro other name hname
  cases file with
  | none => rfl
  | some content =>
      have hevents : name ≠ "events" := by
        rcases hname with h | h <;> rw [h] <;> decide
      have hworlds : (store.showLog worldId (some content)).worlds =
          store.worlds.insert worldId _ := rfl
      rw [names_of_worlds hworlds]
      split
      · rename_i hother
        rw [Function.update_of_ne hevents, hother]
      · rfl

end FilesystemStore

namespace Session

variable {R C : Type} [IRng R] [ISimClock C] [MetaJson] [SnapshotJson] [Crc32] [BatchJson]

def withStore (session : Session R C FilesystemStore) (store : FilesystemStore) :
    Session R C FilesystemStore :=
  { session with runtime := { session.runtime with store := store } }

def withoutLog (session : Session R C FilesystemStore) : Session R C FilesystemStore :=
  { session with
    runtime := { session.runtime with
      eventLog := { session.runtime.eventLog with file := none } } }

def serveOn (worldId : String) (session : Session R C FilesystemStore) :
    MachineInput R C -> Option (RuntimeAnswer × Session R C FilesystemStore)
  | .process input saves =>
      (session.withStore ((session.runtime.store.showLog worldId
        session.runtime.eventLog.file).withSaves saves)).serve input
  | .powerFailure outage logLost cut rng clock =>
      let left := session.withStore (session.runtime.store.survive outage)
      (if logLost = true ∨ worldId ∈ outage.lost then left.withoutLog else left).serve
        (.restart (.crash cut) rng clock)

theorem serveOn_powerFailure {worldId : String} {session : Session R C FilesystemStore}
    {outage : Outage} {logLost : Bool} (hkept : outage.lost = [] ∧ logLost = false) (cut : Nat)
    (rng : R) (clock : C) :
    session.serveOn worldId (.powerFailure outage logLost cut rng clock) =
      (session.withStore (session.runtime.store.fallBack outage.pick)).serve
        (.restart (.crash cut) rng clock) := by
  rcases outage with ⟨lost, pick⟩
  rcases hkept with ⟨hlost, hlog⟩
  subst hlost
  subst hlog
  have hthere : ¬ (false = true ∨ worldId ∈ ([] : List String)) := by simp
  unfold serveOn
  simp only
  rw [if_neg hthere]
  rfl

end Session

/-- No step of an append fails. -/
def MachineInput.Quiet {R C : Type} : MachineInput R C -> Prop
  | .process input _ => input.Quiet
  | .powerFailure _ _ _ _ _ => True

/-- The directories of the worlds and the log are there after a power failure. -/
def MachineInput.KeepsDirectories {R C : Type} : MachineInput R C -> Prop
  | .process _ _ => True
  | .powerFailure outage logLost _ _ _ => outage.lost = [] ∧ logLost = false

/-- The next save of a snapshot also synchronises the directory, where the process goes
on to save the metadata. -/
def RuntimeInput.SyncsNames {R C : Type} (store : FilesystemStore) : RuntimeInput R C -> Prop
  | .save _ => store.nextSave.1.replace.namesSynced = true
  | .dieInSave _ last _ _ _ =>
      last = .worldMeta -> store.nextSave.1.replace.namesSynced = true
  | _ => True

def MachineInput.SyncsNames {R C : Type} : MachineInput R C -> Prop
  | .process (.save _) saves => (saves.headD {}).replace.namesSynced = true
  | .process (.dieInSave _ last _ _ _) saves =>
      last = .worldMeta -> (saves.headD {}).replace.namesSynced = true
  | _ => True

instance {R C : Type} (input : MachineInput R C) : Decidable input.Quiet :=
  match input with
  | .process input _ => inferInstanceAs (Decidable input.Quiet)
  | .powerFailure _ _ _ _ _ => isTrue trivial

instance {R C : Type} (input : MachineInput R C) : Decidable input.KeepsDirectories :=
  match input with
  | .process _ _ => isTrue trivial
  | .powerFailure outage logLost _ _ _ =>
      inferInstanceAs (Decidable (outage.lost = [] ∧ logLost = false))

instance {R C : Type} (input : MachineInput R C) : Decidable input.SyncsNames :=
  match input with
  | .process (.save _) saves =>
      inferInstanceAs (Decidable ((saves.headD {}).replace.namesSynced = true))
  | .process (.dieInSave _ last _ _ _) saves =>
      inferInstanceAs (Decidable (last = .worldMeta ->
        (saves.headD {}).replace.namesSynced = true))
  | .process (.command _ _) _ => isTrue trivial
  | .process (.load _) _ => isTrue trivial
  | .process (.restart _ _ _) _ => isTrue trivial
  | .powerFailure _ _ _ _ _ => isTrue trivial

/-!
## What a step leaves in the store
-/

namespace PersistentSimulation

section Stores

variable {R C E S : Type} [IRng R] [ISimClock C] [IEventLog E] [IWorldStore S]

theorem Processed.store {ps next : PersistentSimulation R C E S} {cmd : SimCommand}
    {result : ApiResult (List SimEvent)} (h : Processed ps cmd result next) :
    next.store = ps.store := by
  cases h with
  | refused _ => rfl
  | rejected _ _ => rfl
  | committed _ _ _ => rfl
  | rolledBack _ _ _ => rfl

omit [IRng R] [ISimClock C] in
theorem Committed.store_cases {ps : PersistentSimulation R C E S} {world : World}
    {snapshot : Bytes} {eventLog : E} {store : S}
    (h : Committed ps world snapshot eventLog store) :
    store = ps.store ∨
      (exists result : SimResult Unit,
        IWorldStore.saveSnapshot ps.store world.id snapshot = (result, store)) ∨
      exists (middle : S) (result : SimResult Unit),
        IWorldStore.saveSnapshot ps.store world.id snapshot = (.ok (), middle) ∧
          IWorldStore.saveMeta middle world.worldMeta = (result, store) := by
  cases h with
  | synced _ => exact Or.inl rfl
  | replaced _ hsnapshot => exact Or.inr (Or.inl ⟨_, hsnapshot⟩)
  | mirrored _ hsnapshot hmeta => exact Or.inr (Or.inr ⟨_, _, hsnapshot, hmeta⟩)

omit [IRng R] [ISimClock C] in
theorem commitUntil_store (last : SaveStep) (ps : PersistentSimulation R C E S) (world : World)
    (snapshot : Bytes) :
    (ps.commitUntil last world snapshot).store = ps.store ∨
      (exists result : SimResult Unit, IWorldStore.saveSnapshot ps.store world.id snapshot =
        (result, (ps.commitUntil last world snapshot).store)) ∨
      (last = .worldMeta ∧ exists (store : S) (result : SimResult Unit),
        IWorldStore.saveSnapshot ps.store world.id snapshot = (.ok (), store) ∧
          IWorldStore.saveMeta store world.worldMeta =
            (result, (ps.commitUntil last world snapshot).store)) := by
  unfold commitUntil
  cases IEventLog.sync ps.eventLog with
  | mk synced eventLog =>
      cases synced with
      | error _ => exact Or.inl rfl
      | ok _ =>
          simp only
          split
          · exact Or.inl rfl
          · rename_i hsync
            cases hsnapshot : IWorldStore.saveSnapshot ps.store world.id snapshot with
            | mk replaced store =>
                cases replaced with
                | error e => exact Or.inr (Or.inl ⟨_, rfl⟩)
                | ok _ =>
                    simp only
                    split
                    · exact Or.inr (Or.inl ⟨_, rfl⟩)
                    · rename_i hlast
                      refine Or.inr (Or.inr ⟨?_, store, _, rfl, rfl⟩)
                      cases last with
                      | sync => exact absurd rfl hsync
                      | snapshot => exact absurd rfl hlast
                      | worldMeta => rfl

theorem saveWorld_cases [SnapshotJson] {ps next : PersistentSimulation R C E S}
    {result : ApiResult Unit} (h : ps.saveWorld = (result, next)) :
    next = ps ∨ exists (saved : World) (snapshot : Bytes),
      ps.prepareSave = .ok (saved, snapshot) ∧
        Committed ps saved snapshot next.eventLog next.store := by
  cases result with
  | error e =>
      rcases saveWorld_error h with hsame | ⟨saved, snapshot, hprepare, _, hcommitted⟩
      · exact Or.inl hsame
      · exact Or.inr ⟨saved, snapshot, hprepare, hcommitted⟩
  | ok _ =>
      rcases saveWorld_ok h with ⟨saved, snapshot, hprepare, hcommit⟩
      exact Or.inr ⟨saved, snapshot, hprepare, commitSave_ok_committed hcommit⟩

theorem loadWorld_recovered [SnapshotJson] {ps : PersistentSimulation R C E S}
    {worldId : String} {world : World} {replayed : List SimEvent}
    (h : loadRecoveredWorld ps.store ps.eventLog worldId = some (.ok (world, replayed))) :
    ps.loadWorld worldId =
      some (.ok replayed, { ps with sim := ps.sim.loadWorldState world }) := by
  unfold loadWorld
  rw [h]

end Stores

theorem restarted_of_new {R C S : Type} [Crc32] [BatchJson]
    {ps : PersistentSimulation R C FileEventLog S} {ending : FileEventLog.Ending}
    {log : FileEventLog} (h : FileEventLog.new (ps.eventLog.left ending) = some (.ok log))
    {rng : R} {clock : C} :
    ps.restarted ending rng clock = some (PersistentSimulation.new rng clock log ps.store) := by
  unfold restarted
  rw [h]

end PersistentSimulation

theorem Unborn.saveUntil_eq {R C S : Type} [IRng R] [ISimClock C] [IWorldStore S] [SnapshotJson]
    [Crc32] [BatchJson] {frames : List WalFrame} {session : Session R C S}
    (h : Unborn frames session) (io : SyncIo) (last : SaveStep) :
    (session.runtime.withSyncs [io]).saveUntil last = session.runtime.withSyncs [io] := by
  have hworld : (session.runtime.withSyncs [io]).sim.world = none := h.loaded
  unfold PersistentSimulation.saveUntil PersistentSimulation.prepareSave
  rw [hworld]

section Machine

variable {R C : Type} [IRng R] [ISimClock C] [MetaJson] [SnapshotJson] [Crc32] [BatchJson]

/-!
## The invariant
-/

/-- The journal is durable, and so is a checkpoint of it, whatever a power failure
leaves of the documents. -/
inductive Safe (session : Session R C FilesystemStore) : Prop where
  | unborn {frames : List WalFrame} (h : Unborn frames session)
      (hstore : Secure EmptyStore session.runtime.store)
  | born {cmd : CreateWorldCmd} {frames : List WalFrame} {world : World}
      (h : Born cmd frames world session)
      (hstore : Secure (fun s => Stored s (World.new cmd.name cmd.seed) (framesEvents frames))
        session.runtime.store)

namespace Born

variable {cmd : CreateWorldCmd} {frames : List WalFrame} {world : World}
  {session : Session R C FilesystemStore}

omit [IRng R] [ISimClock C] in
theorem withStore (h : Born cmd frames world session) {store : FilesystemStore}
    (hstored : Stored store (World.new cmd.name cmd.seed) (framesEvents frames)) :
    Born cmd frames world (session.withStore store) :=
  ⟨h.log, h.nonempty, h.reaches, hstored, h.reached, h.loaded⟩

omit [IRng R] [ISimClock C] in
/-- The steps of a save that were made keep the checkpoints. -/
theorem secured [MetaJson.Lossless] [SnapshotJson.Lossless] (h : Born cmd frames world session)
    (hstore : Secure (fun s => Stored s (World.new cmd.name cmd.seed) (framesEvents frames))
      session.runtime.store)
    {io : SyncIo} {saved : World} {snapshot : Bytes}
    (hprepare : (session.runtime.withSyncs [io]).prepareSave = .ok (saved, snapshot))
    {store : FilesystemStore}
    (hsteps : store = session.runtime.store ∨
      (exists result : SimResult Unit, IWorldStore.saveSnapshot session.runtime.store saved.id
        snapshot = (result, store)) ∨
      (session.runtime.store.nextSave.1.replace.namesSynced = true ∧
        exists (middle : FilesystemStore) (result : SimResult Unit),
          IWorldStore.saveSnapshot session.runtime.store saved.id snapshot = (.ok (), middle) ∧
            IWorldStore.saveMeta middle saved.worldMeta = (result, store))) :
    Secure (fun s => Stored s (World.new cmd.name cmd.seed) (framesEvents frames)) store := by
  rcases h.prepared hprepare with ⟨hsaved, hencode⟩
  subst hsaved
  have hvalid := validateWorldIdResult_worldIdOfSeed cmd.seed
  have hid : (world.savedAt (framesEvents frames).length).id = _ := h.reaches.worldId
  rcases hsteps with hsame | ⟨result, hsnapshot⟩ | ⟨hsynced, middle, result, hsnapshot, hmeta⟩
  · rw [hsame]
    exact hstore
  · rw [hid] at hsnapshot
    exact hstore.replaced hvalid rfl h.reaches hencode hsnapshot
  · rw [hid] at hsnapshot
    have hwritten := hstore.written hvalid rfl h.reaches hencode hsynced hsnapshot
    exact (hwritten.mirrored hid hmeta).imp fun _ => Stored.saved

end Born

namespace Safe

variable {session next : Session R C FilesystemStore}

omit [IRng R] [ISimClock C] in
theorem withStore (h : Safe session) {store : FilesystemStore}
    (hsame : FilesystemStore.SameDocuments store session.runtime.store) :
    Safe (session.withStore store) := by
  cases h with
  | unborn h hstore =>
      have hempty := hstore.congr hsame fun _ _ hdocuments => hdocuments.emptyStore
      exact Safe.unborn ⟨h.log, h.empty, hempty.left, h.loaded, h.reached⟩ hempty
  | born h hstore =>
      have hstored := hstore.congr hsame fun _ _ hdocuments => hdocuments.stored
      exact Safe.born (h.withStore hstored.left) hstored

omit [IRng R] [ISimClock C] in
theorem powerFailure (h : Safe session) (pick : String -> String -> NameSlot.Pick UInt8) :
    Safe (session.withStore (session.runtime.store.fallBack pick)) := by
  cases h with
  | unborn h hstore =>
      have hempty := hstore.fallBack (fun _ _ hdocuments => hdocuments.emptyStore) pick
      exact Safe.unborn ⟨h.log, h.empty, hempty.left, h.loaded, h.reached⟩ hempty
  | born h hstore =>
      have hstored := hstore.fallBack (fun _ _ hdocuments => hdocuments.stored) pick
      exact Safe.born (h.withStore hstored.left) hstored

theorem command [BatchJson.Lossless] (h : Safe session) {c : SimCommand}
    {result : ApiResult (List SimEvent)}
    {runtime : PersistentSimulation R C FileEventLog FilesystemStore}
    (hprocess : (session.runtime.withRecords []).processCommand c = some (result, runtime)) :
    Safe { runtime := runtime
           reached := Session.reach session.reached runtime (.command result) } := by
  have hsame : runtime.store = session.runtime.store :=
    (PersistentSimulation.processCommand_eq_some.mp hprocess).store
  cases h with
  | unborn h hstore =>
      rw [← hsame] at hstore
      rcases h.command hprocess with ⟨e, _, hresult, hunborn⟩ | ⟨_, _, _, _, hborn⟩
      · subst hresult
        exact Safe.unborn hunborn hstore
      · exact Safe.born hborn (hstore.imp fun _ => Stored.nothing)
  | born h hstore =>
      rw [← hsame] at hstore
      rcases h.command hprocess with ⟨frames', _, hborn, hgrown⟩
      refine Safe.born hborn (hstore.imp ?_)
      intro s hstored
      rcases hgrown with ⟨hevents, _⟩ | ⟨_, _, persisted, _, _, _, hevents⟩
      · rw [hevents]
        exact hstored
      · rw [hevents]
        exact hstored.append persisted

theorem of_other [MetaJson.Lossless] [SnapshotJson.Lossless] (h : Safe session)
    {input : RuntimeInput R C} {answer : RuntimeAnswer}
    (hserve : session.serve input = some (answer, next))
    (hother : forall (c : SimCommand) (records : List RecordIo), input ≠ .command c records)
    (hunborn : forall frames : List WalFrame, Unborn frames session ->
      next.runtime.store = session.runtime.store)
    (hborn : forall (cmd : CreateWorldCmd) (frames : List WalFrame) (world : World),
      Born cmd frames world session ->
      Secure (fun s => Stored s (World.new cmd.name cmd.seed) (framesEvents frames))
        session.runtime.store ->
      Secure (fun s => Stored s (World.new cmd.name cmd.seed) (framesEvents frames))
        next.runtime.store) :
    Safe next := by
  cases h with
  | unborn h hstore =>
      apply Safe.unborn (h.serve_other hserve hother)
      rw [hunborn _ h]
      exact hstore
  | born h hstore => exact Safe.born (h.serve_other hserve hother) (hborn _ _ _ h hstore)

/-- A step of the process, where a save goes on to the metadata only once the directory
was synchronised. -/
theorem serve [MetaJson.Lossless] [BatchJson.Lossless] [SnapshotJson.Lossless] (h : Safe session)
    {input : RuntimeInput R C} (hquiet : input.Quiet)
    (hsynced : input.SyncsNames session.runtime.store) {answer : RuntimeAnswer}
    (hserve : session.serve input = some (answer, next)) : Safe next := by
  rcases Session.served hserve with ⟨runtime, hserved, hnext⟩
  have hstore : next.runtime.store = runtime.store := by rw [hnext]
  cases hserved with
  | @command c records result _ hprocess =>
      have hnone : records = [] := hquiet
      subst hnone
      rw [hnext]
      exact h.command hprocess
  | @save io result _ hsave =>
      apply h.of_other hserve nofun
      · intro frames hunborn
        rw [hunborn.saveWorld_eq io] at hsave
        have hsame : runtime = session.runtime.withSyncs [io] := (congrArg Prod.snd hsave).symm
        rw [hstore, hsame]
        rfl
      · intro cmd frames world hborn hsecure
        rw [hstore]
        rcases PersistentSimulation.saveWorld_cases hsave with
          hsame | ⟨saved, snapshot, hprepare, hcommitted⟩
        · rw [hsame]
          exact hsecure
        · apply hborn.secured hsecure hprepare
          rcases hcommitted.store_cases with hsame | hsnapshot | hmirrored
          · exact Or.inl hsame
          · exact Or.inr (Or.inl hsnapshot)
          · exact Or.inr (Or.inr ⟨hsynced, hmirrored⟩)
  | @load worldId result _ hload =>
      have hsame : next.runtime.store = session.runtime.store := by
        rw [hstore]
        rcases PersistentSimulation.loadWorld_eq_some hload with
          ⟨_, _, hsame⟩ | ⟨_, _, _, _, hloaded⟩
        · rw [hsame]
        · rw [hloaded]
      apply h.of_other hserve nofun
      · exact fun _ _ => hsame
      · intro _ _ _ _ hsecure
        rw [hsame]
        exact hsecure
  | @restart ending rng clock _ hrestart =>
      have hsame : next.runtime.store = session.runtime.store :=
        hstore.trans (PersistentSimulation.restarted_store hrestart)
      apply h.of_other hserve nofun
      · exact fun _ _ => hsame
      · intro _ _ _ _ hsecure
        rw [hsame]
        exact hsecure
  | @dieInSave io last ending rng clock _ hrestart =>
      have hafter := hstore.trans (PersistentSimulation.restarted_store hrestart)
      apply h.of_other hserve nofun
      · intro frames hunborn
        rw [hafter, hunborn.saveUntil_eq io last]
        rfl
      · intro cmd frames world hborn hsecure
        rw [hafter]
        unfold PersistentSimulation.saveUntil
        cases hprepare : (session.runtime.withSyncs [io]).prepareSave with
        | error e => exact hsecure
        | ok prepared =>
            rcases prepared with ⟨saved, snapshot⟩
            apply hborn.secured hsecure hprepare
            rcases PersistentSimulation.commitUntil_store last (session.runtime.withSyncs [io])
              saved snapshot with hsame | hsnapshot | ⟨hlast, hmirrored⟩
            · exact Or.inl hsame
            · exact Or.inr (Or.inl hsnapshot)
            · exact Or.inr (Or.inr ⟨hsynced hlast, hmirrored⟩)

theorem serveOn [MetaJson.Lossless] [BatchJson.Lossless] [SnapshotJson.Lossless]
    (h : Safe session) {worldId : String} {input : MachineInput R C} (hquiet : input.Quiet)
    (hsynced : input.SyncsNames) (hkept : input.KeepsDirectories) {answer : RuntimeAnswer}
    (hserve : session.serveOn worldId input = some (answer, next)) : Safe next := by
  cases input with
  | process input saves =>
      have hshown := session.runtime.store.showLog_same worldId session.runtime.eventLog.file
      have hready : Safe (session.withStore ((session.runtime.store.showLog worldId
          session.runtime.eventLog.file).withSaves saves)) := h.withStore hshown
      apply hready.serve hquiet _ hserve
      cases input with
      | save io => exact hsynced
      | dieInSave io last ending rng clock => exact hsynced
      | command _ _ => trivial
      | load _ => trivial
      | restart _ _ _ => trivial
  | powerFailure outage logLost cut rng clock =>
      rw [Session.serveOn_powerFailure hkept] at hserve
      have hrestart : (RuntimeInput.restart (.crash cut) rng clock).Quiet := trivial
      exact (h.powerFailure outage.pick).serve hrestart trivial hserve

omit [IRng R] [ISimClock C] in
theorem start {rng : R} {clock : C} {store : FilesystemStore} (hstore : store.worlds = ∅) :
    Safe (Session.start rng clock store) := by
  have hempty : forall pick : String -> String -> NameSlot.Pick UInt8,
      (store.fallBack pick).worlds = ∅ := by
    intro pick
    unfold FilesystemStore.fallBack FilesystemStore.survive
    rw [hstore]
    rfl
  have hsecure : Secure EmptyStore store :=
    ⟨FilesystemStore.empty_of_no_worlds hstore,
      fun pick => FilesystemStore.empty_of_no_worlds (hempty pick)⟩
  exact Safe.unborn ⟨Holds.empty {}, rfl, hsecure.left, rfl, rfl⟩ hsecure

end Safe

/-!
## Saved worlds
-/

/-- Whatever a power failure leaves, there is a snapshot of the world. -/
structure Anchored (store : FilesystemStore) (worldId : String) : Prop where
  valid : validateWorldIdResult worldId = .ok ()
  sound : SoundDocument store worldId "snapshot.json" False fun _ => True

namespace Anchored

variable {store next : FilesystemStore} {worldId : String}

omit [SnapshotJson] [Crc32] [BatchJson] in
theorem committed (h : Anchored store worldId) {saved : World} {snapshot : Bytes}
    (hsteps : next = store ∨
      (exists result : SimResult Unit,
        IWorldStore.saveSnapshot store saved.id snapshot = (result, next)) ∨
      exists (middle : FilesystemStore) (result : SimResult Unit),
        IWorldStore.saveSnapshot store saved.id snapshot = (.ok (), middle) ∧
          IWorldStore.saveMeta middle saved.worldMeta = (result, next)) :
    Anchored next worldId := by
  have hsnapshot : forall (final : FilesystemStore) (result : SimResult Unit),
      store.saveSnapshot saved.id snapshot = (result, final) -> Anchored final worldId := by
    intro final result hsave
    have hsaved := store.saveSnapshot_saved saved.id snapshot
    rw [hsave] at hsaved
    exact ⟨h.valid, h.sound.saved (Or.inr rfl) (Or.inr rfl) hsaved fun _ _ _ _ => trivial⟩
  rcases hsteps with hsame | ⟨result, hsave⟩ | ⟨middle, result, hsave, hmeta⟩
  · rw [hsame]
    exact h
  · exact hsnapshot next result hsave
  · have hsaved := middle.saveMeta_saved saved.worldMeta
    rw [show middle.saveMeta saved.worldMeta = (result, next) from hmeta] at hsaved
    exact ⟨h.valid, (hsnapshot middle _ hsave).sound.saved (Or.inr rfl) (Or.inl rfl) hsaved
      fun _ _ _ _ => trivial⟩

theorem serve {session after : Session R C FilesystemStore}
    (h : Anchored session.runtime.store worldId) {input : RuntimeInput R C}
    {answer : RuntimeAnswer} (hserve : session.serve input = some (answer, after)) :
    Anchored after.runtime.store worldId := by
  rcases Session.served hserve with ⟨runtime, hserved, hnext⟩
  rw [hnext]
  cases hserved with
  | @command c records result _ hprocess =>
      rw [(PersistentSimulation.processCommand_eq_some.mp hprocess).store]
      exact h
  | @save io result _ hsave =>
      rcases PersistentSimulation.saveWorld_cases hsave with hsame | ⟨_, _, _, hcommitted⟩
      · rw [hsame]
        exact h
      · have hbefore : Anchored (session.runtime.withSyncs [io]).store worldId := h
        exact hbefore.committed hcommitted.store_cases
  | @load target result _ hload =>
      rcases PersistentSimulation.loadWorld_eq_some hload with ⟨_, _, hsame⟩ | ⟨_, _, _, _, hloaded⟩
      · rw [hsame]
        exact h
      · rw [hloaded]
        exact h
  | @restart ending rng clock _ hrestart =>
      rw [PersistentSimulation.restarted_store hrestart]
      exact h
  | @dieInSave io last ending rng clock _ hrestart =>
      rw [PersistentSimulation.restarted_store hrestart]
      rcases PersistentSimulation.saveUntil_cases last (session.runtime.withSyncs [io]) with
        hsame | ⟨_, _, _, hcommitted⟩
      · rw [hsame]
        exact h
      · have hbefore : Anchored (session.runtime.withSyncs [io]).store worldId := h
        exact hbefore.committed hcommitted.store_cases

omit [SnapshotJson] [Crc32] [BatchJson] [MetaJson] in
theorem same (h : Anchored store worldId)
    (hsame : FilesystemStore.SameDocuments next store) : Anchored next worldId := by
  refine ⟨h.valid, ?_⟩
  intro version hmem
  rw [hsame worldId _ (Or.inr rfl)] at hmem
  exact h.sound version hmem

omit [SnapshotJson] [Crc32] [BatchJson] [MetaJson] in
theorem fallBack (h : Anchored store worldId)
    (pick : String -> String -> NameSlot.Pick UInt8) : Anchored (store.fallBack pick) worldId :=
  ⟨h.valid, h.sound.fallBack pick⟩

omit [SnapshotJson] [Crc32] [BatchJson] [MetaJson] in
theorem load (h : Anchored store worldId) :
    exists bytes : Bytes, store.loadSnapshot worldId = .ok bytes := by
  rcases h.sound.read with ⟨hfalse, _⟩ | ⟨bytes, _, hread⟩
  · exact hfalse.elim
  · exact ⟨bytes, FilesystemStore.loadSnapshot_eq_ok.mpr ⟨h.valid, hread⟩⟩

theorem serveOn {session after : Session R C FilesystemStore}
    (h : Anchored session.runtime.store worldId) {target : String} {input : MachineInput R C}
    (hkept : input.KeepsDirectories) {answer : RuntimeAnswer}
    (hserve : session.serveOn target input = some (answer, after)) :
    Anchored after.runtime.store worldId := by
  cases input with
  | process input saves =>
      have hshown := session.runtime.store.showLog_same target session.runtime.eventLog.file
      have hready : Anchored (session.withStore ((session.runtime.store.showLog target
        session.runtime.eventLog.file).withSaves saves)).runtime.store worldId := h.same hshown
      exact hready.serve hserve
  | powerFailure outage logLost cut rng clock =>
      rw [Session.serveOn_powerFailure hkept] at hserve
      have hready : Anchored (session.withStore (session.runtime.store.fallBack
        outage.pick)).runtime.store worldId := h.fallBack outage.pick
      exact hready.serve hserve

/-- A save that is acknowledged leaves the snapshot behind for good. -/
theorem of_save {session after : Session R C FilesystemStore} {io : SyncIo}
    (hsynced : session.runtime.store.nextSave.1.replace.namesSynced = true)
    (hserve : session.serve (.save io) = some (.save (.ok ()), after)) :
    exists worldId : String, Anchored after.runtime.store worldId := by
  rcases Session.served hserve with ⟨runtime, hserved, hnext⟩
  rw [hnext]
  cases hserved with
  | save hsave =>
      rcases PersistentSimulation.saveWorld_ok hsave with ⟨saved, snapshot, _, hcommit⟩
      rcases PersistentSimulation.commitSave_ok hcommit with ⟨middle, _, hsnapshot, hmeta, _⟩
      have hsaved := session.runtime.store.saveSnapshot_saved saved.id snapshot
      rw [show session.runtime.store.saveSnapshot saved.id snapshot = (.ok (), middle) from
        hsnapshot] at hsaved
      rcases hsaved.read_of_ok with ⟨_, _, hvalid, _⟩
      have hmiddle : SoundDocument middle saved.id "snapshot.json" False fun _ => True :=
        SoundDocument.of_saved hsaved hsynced fun _ _ => trivial
      have hmirrored := middle.saveMeta_saved saved.worldMeta
      rw [show middle.saveMeta saved.worldMeta = (.ok (), runtime.store) from hmeta] at hmirrored
      exact ⟨saved.id, hvalid, hmiddle.saved (Or.inr rfl) (Or.inl rfl) hmirrored
        fun _ _ _ _ => trivial⟩

end Anchored

/-- What holds along a run: the invariant, and from the first acknowledged save on there
is a snapshot. -/
structure Acknowledged (answers : List RuntimeAnswer) (session : Session R C FilesystemStore) :
    Prop where
  safe : Safe session
  anchored : RuntimeAnswer.save (.ok ()) ∈ answers ->
    exists worldId : String, Anchored session.runtime.store worldId

theorem Acknowledged.serveOn [MetaJson.Lossless] [BatchJson.Lossless] [SnapshotJson.Lossless]
    {answers : List RuntimeAnswer} {session next : Session R C FilesystemStore}
    (h : Acknowledged answers session) {worldId : String} {input : MachineInput R C}
    (hquiet : input.Quiet) (hsynced : input.SyncsNames) (hkept : input.KeepsDirectories)
    {answer : RuntimeAnswer} (hserve : session.serveOn worldId input = some (answer, next)) :
    Acknowledged (answers ++ [answer]) next := by
  refine ⟨h.safe.serveOn hquiet hsynced hkept hserve, ?_⟩
  intro hmem
  rcases List.mem_append.mp hmem with hbefore | hlast
  · rcases h.anchored hbefore with ⟨anchor, hanchored⟩
    exact ⟨anchor, hanchored.serveOn hkept hserve⟩
  · rw [← List.mem_singleton.mp hlast] at hserve
    cases input with
    | process input saves =>
        cases input with
        | save io =>
            have hready : (session.withStore ((session.runtime.store.showLog worldId
                session.runtime.eventLog.file).withSaves
                saves)).runtime.store.nextSave.1.replace.namesSynced = true := hsynced
            exact Anchored.of_save hready hserve
        | command c records =>
            rcases Session.served hserve with ⟨_, hserved, _⟩
            cases hserved
        | load target =>
            rcases Session.served hserve with ⟨_, hserved, _⟩
            cases hserved
        | restart ending rng clock =>
            rcases Session.served hserve with ⟨_, hserved, _⟩
            cases hserved
        | dieInSave io last ending rng clock =>
            rcases Session.served hserve with ⟨_, hserved, _⟩
            cases hserved
    | powerFailure outage logLost cut rng clock =>
        rw [Session.serveOn_powerFailure hkept] at hserve
        rcases Session.served hserve with ⟨_, hserved, _⟩
        cases hserved

/-- From a world that is safe and has a snapshot, a power failure is recovered. -/
theorem Safe.recovers [MetaJson.Lossless] [SnapshotJson.Lossless]
    {session : Session R C FilesystemStore} (h : Safe session) {anchor : String}
    (hanchored : Anchored session.runtime.store anchor) :
    exists world : World, session.reached = some world ∧
      forall (worldId : String) (pick : String -> String -> NameSlot.Pick UInt8) (cut : Nat)
        (rng : R) (clock : C),
        exists (started loaded : Session R C FilesystemStore) (replayed : List SimEvent)
          (found : World),
          session.serveOn worldId (.powerFailure { pick := pick } false cut rng clock) =
            some (.started, started) ∧
          started.serveOn worldId (.process (.load world.id) []) =
            some (.load (.ok replayed), loaded) ∧
          loaded.runtime.sim.world = some found ∧ SameUpToCursor world found := by
  rcases hanchored.load with ⟨bytes, hbytes⟩
  cases h with
  | unborn h _ => exact absurd hbytes (h.store.snapshot anchor bytes)
  | @born cmd frames world h hstore =>
      rcases h.reached with ⟨last, hreached, hlast⟩
      have hanchor : anchor = last.id := by
        rcases hlast with ⟨_, _, hcursor⟩
        rw [h.stored.other anchor bytes hbytes, hcursor]
        exact h.reaches.worldId.symm
      refine ⟨last, hreached, ?_⟩
      intro worldId pick cut rng clock
      have hsurvived := h.withStore (hstore.right pick)
      rcases h.log.new_path (h.log.left_file (.crash cut)) with ⟨reopened, hnew, hholds, _⟩
      let store := session.runtime.store.fallBack pick
      let started : Session R C FilesystemStore :=
        { runtime := PersistentSimulation.new rng clock reopened store
          reached := session.reached }
      have hopened : FileEventLog.new ((session.withStore store).runtime.eventLog.left
          (.crash cut)) = some (.ok reopened) := hnew
      have hrestarted : (session.withStore store).runtime.restarted (.crash cut) rng clock =
          some started.runtime := PersistentSimulation.restarted_of_new hopened
      have hstarted : session.serveOn worldId (.powerFailure { pick := pick } false cut rng clock) =
          some (.started, started) := by
        rw [Session.serveOn_powerFailure ⟨rfl, rfl⟩]
        show Option.map _ (Option.map _ ((session.withStore store).runtime.restarted
          (.crash cut) rng clock)) = _
        rw [hrestarted]
        rfl
      have hheld : Holds (session.withStore store).runtime.eventLog frames := h.log
      have hborn : Born cmd frames world started :=
        hsurvived.restarted hheld hsurvived.stored hrestarted
      let shown := (store.showLog worldId reopened.file).withSaves []
      have hshown : FilesystemStore.SameDocuments shown store :=
        store.showLog_same worldId reopened.file
      have hready := hborn.withStore (hshown.stored hborn.stored)
      rcases ((hanchored.fallBack pick).same hshown).load with ⟨found, hfound⟩
      rcases hready.recovers hfound with ⟨t, n, _, hrecovers⟩
      have hrecovered := hrecovers reopened hholds.lists
      let after := world.withCursor t ⟨UInt64.ofNat n⟩
      let loaded : Session R C FilesystemStore :=
        { runtime := { started.runtime with
            store := shown, sim := started.runtime.sim.loadWorldState after }
          reached := session.reached }
      have hloaded : started.serveOn worldId (.process (.load last.id) []) =
          some (.load (.ok ((framesEvents frames).drop n)), loaded) := by
        have hload : (started.withStore shown).runtime.loadWorld last.id =
            some (.ok ((framesEvents frames).drop n), loaded.runtime) := by
          rw [← hanchor]
          exact PersistentSimulation.loadWorld_recovered hrecovered
        show Option.map _ (Option.map _ ((started.withStore shown).runtime.loadWorld last.id)) = _
        rw [hload]
        rfl
      refine ⟨started, loaded, _, after, hstarted, hloaded, rfl, ?_⟩
      rcases hlast.symm with ⟨s, i, hcursor⟩
      refine ⟨t, ⟨UInt64.ofNat n⟩, ?_⟩
      show world.withCursor t ⟨UInt64.ofNat n⟩ = _
      rw [hcursor]
      rfl

end Machine

/-- The world is saved and ticks once.  Power fails in the next save, before the directory
is synchronised, and the old snapshot comes back. -/
def interruptedMachine : List (MachineInput Pcg32Rng UnlimitedClock) :=
  [.process (.command PersistentSimulation.createVale []) [], .process (.save {}) [],
    .process (.command .tick []) [],
    .process (.dieInSave {} .snapshot (.crash 0) Pcg32Rng.uninitialized UnlimitedClock.new)
      [{ replace := { namesSynced := false } }],
    .powerFailure { pick := fun _ _ => ⟨1, []⟩ } false 0 Pcg32Rng.uninitialized UnlimitedClock.new,
    .process (.load "world_7") []]

def emptyMachine : Session Pcg32Rng UnlimitedClock FilesystemStore :=
  Session.start Pcg32Rng.uninitialized UnlimitedClock.new
    { basePath := "data", worlds := ∅, saves := [] }

end Seej
