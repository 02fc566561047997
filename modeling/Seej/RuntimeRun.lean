import Seej.Foundation.Transition
import Seej.CommandLemmas
import Seej.Runtime
import Seej.TickJournal
import Seej.WalCalls

/-!
# Runs of the runtime

The runtime over the file-backed log, driven from outside: commands, saves and
loads, and the end of the process at any moment, also between two durable steps
of a save.  What the file system answers is part of an input.  A new process
finds the store and the file of the log, and nothing else.
-/

namespace Seej

open Foundation

/-!
## Inputs and answers
-/

inductive SaveStep where
  | sync
  | snapshot
  | worldMeta
deriving DecidableEq

/-- What may happen to a runtime.  A process that ends is followed by a new one with
its own generator and clock. -/
inductive RuntimeInput (R C : Type) where
  | command (cmd : SimCommand) (records : List RecordIo)
  | save (io : SyncIo)
  | load (worldId : String)
  | restart (ending : FileEventLog.Ending) (rng : R) (clock : C)
  | dieInSave (io : SyncIo) (last : SaveStep) (ending : FileEventLog.Ending) (rng : R)
      (clock : C)

inductive RuntimeAnswer where
  | command (result : ApiResult (List SimEvent))
  | save (result : ApiResult Unit)
  | load (result : ApiResult (List SimEvent))
  | started
deriving DecidableEq

def RuntimeAnswer.events : RuntimeAnswer -> List SimEvent
  | .command (.ok events) => events
  | _ => []

def acceptedEvents (answers : List RuntimeAnswer) : List SimEvent :=
  answers.flatMap RuntimeAnswer.events

@[simp] theorem acceptedEvents_nil : acceptedEvents [] = [] := rfl

@[simp] theorem acceptedEvents_append (left right : List RuntimeAnswer) :
    acceptedEvents (left ++ right) = acceptedEvents left ++ acceptedEvents right :=
  List.flatMap_append

@[simp] theorem acceptedEvents_single (answer : RuntimeAnswer) :
    acceptedEvents [answer] = answer.events :=
  List.append_nil _

/-!
## Steps
-/

namespace PersistentSimulation

section Saving

variable {R C E S : Type} [IRng R] [ISimClock C] [IEventLog E] [IWorldStore S]

/-- The log and the store of a process that dies in `commit_save`, after the step
`last` or at an earlier one that fails. -/
def commitUntil (last : SaveStep) (ps : PersistentSimulation R C E S) (world : World)
    (snapshot : Bytes) : PersistentSimulation R C E S :=
  match IEventLog.sync ps.eventLog with
  | (.error _, eventLog) => { ps with eventLog := eventLog }
  | (.ok (), eventLog) =>
      if last = .sync then { ps with eventLog := eventLog }
      else
        match IWorldStore.saveSnapshot ps.store world.id snapshot with
        | (.error _, store) => { ps with eventLog := eventLog, store := store }
        | (.ok (), store) =>
            if last = .snapshot then { ps with eventLog := eventLog, store := store }
            else
              { ps with
                eventLog := eventLog
                store := (IWorldStore.saveMeta store world.worldMeta).2 }

variable [SnapshotJson]

/-- The same for `save_world`. -/
def saveUntil (last : SaveStep) (ps : PersistentSimulation R C E S) :
    PersistentSimulation R C E S :=
  match ps.prepareSave with
  | .error _ => ps
  | .ok (world, snapshot) => ps.commitUntil last world snapshot

end Saving

variable {R C S : Type} [IRng R] [ISimClock C] [IWorldStore S] [SnapshotJson] [Crc32]
  [BatchJson]

def withRecords (ps : PersistentSimulation R C FileEventLog S) (records : List RecordIo) :
    PersistentSimulation R C FileEventLog S :=
  { ps with eventLog := ps.eventLog.withRecords records }

def withSyncs (ps : PersistentSimulation R C FileEventLog S) (syncs : List SyncIo) :
    PersistentSimulation R C FileEventLog S :=
  { ps with eventLog := ps.eventLog.withSyncs syncs }

def restarted (ps : PersistentSimulation R C FileEventLog S)
    (ending : FileEventLog.Ending) (rng : R) (clock : C) :
    Option (PersistentSimulation R C FileEventLog S) :=
  match FileEventLog.new (ps.eventLog.left ending) with
  | some (.ok log) => some (PersistentSimulation.new rng clock log ps.store)
  | _ => none

def serve (ps : PersistentSimulation R C FileEventLog S) :
    RuntimeInput R C -> Option (RuntimeAnswer × PersistentSimulation R C FileEventLog S)
  | .command cmd records =>
      ((ps.withRecords records).processCommand cmd).map fun (result, ps) =>
        (.command result, ps)
  | .save io =>
      let (result, ps) := (ps.withSyncs [io]).saveWorld
      some (.save result, ps)
  | .load worldId =>
      (ps.loadWorld worldId).map fun (result, ps) => (.load result, ps)
  | .restart ending rng clock =>
      (ps.restarted ending rng clock).map fun ps => (.started, ps)
  | .dieInSave io last ending rng clock =>
      (((ps.withSyncs [io]).saveUntil last).restarted ending rng clock).map fun ps =>
        (.started, ps)

end PersistentSimulation

/-!
## What a step can do
-/

namespace PersistentSimulation

section Steps

variable {R C E S : Type} [IRng R] [ISimClock C] [IEventLog E] [IWorldStore S]

inductive Processed (ps : PersistentSimulation R C E S) (cmd : SimCommand) :
    ApiResult (List SimEvent) -> PersistentSimulation R C E S -> Prop where
  | refused {e : ApiError} (hcheck : ps.checkCommand cmd = .error e) :
      Processed ps cmd (.error e) ps
  | rejected {e : ApiError} {sim : Simulation R C} (hcheck : ps.checkCommand cmd = .ok ())
      (hsim : ps.sim.processCommand cmd = some (.error e, sim)) :
      Processed ps cmd (.error e) { ps with sim := sim }
  | committed {events persisted : List SimEvent} {sim : Simulation R C} {eventLog : E}
      (hcheck : ps.checkCommand cmd = .ok ())
      (hsim : ps.sim.processCommand cmd = some (.ok events, sim))
      (happend : IEventLog.appendBatch ps.eventLog events = some (.ok persisted, eventLog)) :
      Processed ps cmd (.ok persisted) { ps with sim := sim, eventLog := eventLog }
  | rolledBack {events : List SimEvent} {e : SimError} {sim : Simulation R C} {eventLog : E}
      (hcheck : ps.checkCommand cmd = .ok ())
      (hsim : ps.sim.processCommand cmd = some (.ok events, sim))
      (happend : IEventLog.appendBatch ps.eventLog events = some (.error e, eventLog)) :
      Processed ps cmd (.error (storageError e))
        { ps with sim := sim.restoreCheckpoint ps.sim.checkpoint, eventLog := eventLog }

theorem processCommand_eq_some {ps next : PersistentSimulation R C E S} {cmd : SimCommand}
    {result : ApiResult (List SimEvent)} :
    ps.processCommand cmd = some (result, next) <-> Processed ps cmd result next := by
  constructor
  · intro h
    unfold processCommand at h
    cases hcheck : ps.checkCommand cmd with
    | error e =>
        simp only [hcheck] at h
        cases h
        exact Processed.refused hcheck
    | ok _ =>
        simp only [hcheck] at h
        cases hsim : ps.sim.processCommand cmd with
        | none => simp [hsim] at h
        | some answer =>
            rcases answer with ⟨outcome, sim⟩
            cases outcome with
            | error e =>
                simp only [hsim] at h
                cases h
                exact Processed.rejected hcheck hsim
            | ok events =>
                simp only [hsim] at h
                cases happend : IEventLog.appendBatch ps.eventLog events with
                | none => simp [happend] at h
                | some written =>
                    rcases written with ⟨persisted, eventLog⟩
                    cases persisted with
                    | error e =>
                        simp only [happend] at h
                        cases h
                        exact Processed.rolledBack hcheck hsim happend
                    | ok persisted =>
                        simp only [happend] at h
                        cases h
                        exact Processed.committed hcheck hsim happend
  · intro h
    unfold processCommand
    cases h with
    | refused hcheck => simp only [hcheck]
    | rejected hcheck hsim => simp only [hcheck, hsim]
    | committed hcheck hsim happend => simp only [hcheck, hsim, happend]
    | rolledBack hcheck hsim happend => simp only [hcheck, hsim, happend]

inductive Committed (ps : PersistentSimulation R C E S) (world : World) (snapshot : Bytes) :
    E -> S -> Prop where
  | synced {result : SimResult Unit} {eventLog : E}
      (hsync : IEventLog.sync ps.eventLog = (result, eventLog)) :
      Committed ps world snapshot eventLog ps.store
  | replaced {result : SimResult Unit} {eventLog : E} {store : S}
      (hsync : IEventLog.sync ps.eventLog = (.ok (), eventLog))
      (hsnapshot : IWorldStore.saveSnapshot ps.store world.id snapshot = (result, store)) :
      Committed ps world snapshot eventLog store
  | mirrored {result : SimResult Unit} {eventLog : E} {store final : S}
      (hsync : IEventLog.sync ps.eventLog = (.ok (), eventLog))
      (hsnapshot : IWorldStore.saveSnapshot ps.store world.id snapshot = (.ok (), store))
      (hmeta : IWorldStore.saveMeta store world.worldMeta = (result, final)) :
      Committed ps world snapshot eventLog final

omit [IRng R] [ISimClock C] in
/-- Every durable step of a save leaves the log as `sync` does. -/
theorem Committed.eventLog_eq {ps : PersistentSimulation R C E S} {world : World}
    {snapshot : Bytes} {eventLog : E} {store : S}
    (h : Committed ps world snapshot eventLog store) :
    eventLog = (IEventLog.sync ps.eventLog).2 := by
  cases h with
  | synced hsync => exact (congrArg Prod.snd hsync).symm
  | replaced hsync _ => exact (congrArg Prod.snd hsync).symm
  | mirrored hsync _ _ => exact (congrArg Prod.snd hsync).symm

theorem commitSave_error {ps next : PersistentSimulation R C E S} {world : World}
    {snapshot : Bytes} {e : ApiError} (h : ps.commitSave world snapshot = (.error e, next)) :
    next.sim = ps.sim ∧ Committed ps world snapshot next.eventLog next.store := by
  unfold commitSave at h
  cases hsync : IEventLog.sync ps.eventLog with
  | mk synced eventLog =>
      cases synced with
      | error _ =>
          simp only [hsync] at h
          cases h
          exact ⟨rfl, Committed.synced hsync⟩
      | ok _ =>
          simp only [hsync] at h
          cases hsnapshot : IWorldStore.saveSnapshot ps.store world.id snapshot with
          | mk replaced store =>
              cases replaced with
              | error _ =>
                  simp only [hsnapshot] at h
                  cases h
                  exact ⟨rfl, Committed.replaced hsync hsnapshot⟩
              | ok _ =>
                  simp only [hsnapshot] at h
                  cases hmeta : IWorldStore.saveMeta store world.worldMeta with
                  | mk mirrored final =>
                      cases mirrored with
                      | error _ =>
                          simp only [hmeta] at h
                          cases h
                          exact ⟨rfl, Committed.mirrored hsync hsnapshot hmeta⟩
                      | ok _ => simp [hmeta] at h

theorem commitSave_ok {ps next : PersistentSimulation R C E S} {world : World}
    {snapshot : Bytes} (h : ps.commitSave world snapshot = (.ok (), next)) :
    exists store : S,
      IEventLog.sync ps.eventLog = (.ok (), next.eventLog) ∧
      IWorldStore.saveSnapshot ps.store world.id snapshot = (.ok (), store) ∧
      IWorldStore.saveMeta store world.worldMeta = (.ok (), next.store) ∧
      next.sim = ps.sim.loadWorldState world := by
  unfold commitSave at h
  cases hsync : IEventLog.sync ps.eventLog with
  | mk synced eventLog =>
      cases synced with
      | error _ => simp [hsync] at h
      | ok _ =>
          simp only [hsync] at h
          cases hsnapshot : IWorldStore.saveSnapshot ps.store world.id snapshot with
          | mk replaced store =>
              cases replaced with
              | error _ => simp [hsnapshot] at h
              | ok _ =>
                  simp only [hsnapshot] at h
                  cases hmeta : IWorldStore.saveMeta store world.worldMeta with
                  | mk mirrored final =>
                      cases mirrored with
                      | error _ => simp [hmeta] at h
                      | ok _ =>
                          simp only [hmeta] at h
                          cases h
                          exact ⟨store, rfl, rfl, hmeta, rfl⟩

theorem commitSave_ok_committed {ps next : PersistentSimulation R C E S} {world : World}
    {snapshot : Bytes} (h : ps.commitSave world snapshot = (.ok (), next)) :
    Committed ps world snapshot next.eventLog next.store := by
  rcases commitSave_ok h with ⟨store, hsync, hsnapshot, hmeta, _⟩
  exact Committed.mirrored hsync hsnapshot hmeta

omit [IRng R] [ISimClock C] in
theorem commitUntil_committed (last : SaveStep) (ps : PersistentSimulation R C E S)
    (world : World) (snapshot : Bytes) :
    Committed ps world snapshot (ps.commitUntil last world snapshot).eventLog
      (ps.commitUntil last world snapshot).store := by
  unfold commitUntil
  cases hsync : IEventLog.sync ps.eventLog with
  | mk synced eventLog =>
      cases synced with
      | error _ => exact Committed.synced hsync
      | ok _ =>
          simp only
          split
          · exact Committed.synced hsync
          · cases hsnapshot : IWorldStore.saveSnapshot ps.store world.id snapshot with
            | mk replaced store =>
                cases replaced with
                | error _ => exact Committed.replaced hsync hsnapshot
                | ok _ =>
                    simp only
                    split
                    · exact Committed.replaced hsync hsnapshot
                    · exact Committed.mirrored hsync hsnapshot rfl

variable [SnapshotJson]

theorem saveWorld_error {ps next : PersistentSimulation R C E S} {e : ApiError}
    (h : ps.saveWorld = (.error e, next)) :
    next = ps ∨ exists (world : World) (snapshot : Bytes),
      ps.prepareSave = .ok (world, snapshot) ∧ next.sim = ps.sim ∧
        Committed ps world snapshot next.eventLog next.store := by
  unfold saveWorld at h
  cases hprepare : ps.prepareSave with
  | error _ =>
      simp only [hprepare] at h
      exact Or.inl (Prod.mk.inj h).right.symm
  | ok prepared =>
      rcases prepared with ⟨world, snapshot⟩
      simp only [hprepare] at h
      exact Or.inr ⟨world, snapshot, rfl, commitSave_error h⟩

theorem saveWorld_ok {ps next : PersistentSimulation R C E S}
    (h : ps.saveWorld = (.ok (), next)) :
    exists (world : World) (snapshot : Bytes),
      ps.prepareSave = .ok (world, snapshot) ∧ ps.commitSave world snapshot = (.ok (), next) := by
  unfold saveWorld at h
  cases hprepare : ps.prepareSave with
  | error _ => simp [hprepare] at h
  | ok prepared =>
      rcases prepared with ⟨world, snapshot⟩
      simp only [hprepare] at h
      exact ⟨world, snapshot, rfl, h⟩

omit [IRng R] [ISimClock C] in
theorem saveUntil_cases (last : SaveStep) (ps : PersistentSimulation R C E S) :
    ps.saveUntil last = ps ∨ exists (world : World) (snapshot : Bytes),
      ps.prepareSave = .ok (world, snapshot) ∧
        Committed ps world snapshot (ps.saveUntil last).eventLog (ps.saveUntil last).store := by
  unfold saveUntil
  cases hprepare : ps.prepareSave with
  | error _ => exact Or.inl rfl
  | ok prepared =>
      rcases prepared with ⟨world, snapshot⟩
      exact Or.inr ⟨world, snapshot, rfl, commitUntil_committed last ps world snapshot⟩

omit [IRng R] [ISimClock C] [IWorldStore S] in
theorem prepareSave_eq_ok {ps : PersistentSimulation R C E S} {world : World}
    {snapshot : Bytes} :
    ps.prepareSave = .ok (world, snapshot) <->
      exists loaded : World, ps.sim.world = some loaded ∧
        validateWalCoversSnapshot loaded.worldMeta.lastEventId
          (IEventLog.lastEventId ps.eventLog) = .ok () ∧
        world = loaded.stampForSave (IEventLog.lastEventId ps.eventLog) ∧
        encodeWorld world = .ok snapshot := by
  unfold prepareSave
  cases hworld : ps.sim.world with
  | none => simp
  | some loaded =>
      cases hcovers : validateWalCoversSnapshot loaded.worldMeta.lastEventId
          (IEventLog.lastEventId ps.eventLog) with
      | error e => simp [hcovers]
      | ok _ =>
          cases hencode : encodeWorld (loaded.stampForSave (IEventLog.lastEventId ps.eventLog)) with
          | error e =>
              simp only [hcovers, hencode, Option.some.injEq, exists_eq_left', reduceCtorEq,
                true_and, false_iff]
              rintro ⟨hsame, hok⟩
              rw [hsame, hencode] at hok
              cases hok
          | ok bytes =>
              simp only [hcovers, hencode, Option.some.injEq, exists_eq_left', true_and,
                Except.ok.injEq, Prod.mk.injEq]
              constructor
              · rintro ⟨hsame, hbytes⟩
                rw [← hsame, ← hbytes]
                exact ⟨rfl, hencode⟩
              · rintro ⟨hsame, hok⟩
                rw [hsame, hencode] at hok
                exact ⟨hsame.symm, Except.ok.inj hok⟩

/-- A load takes over the recovered world, or changes nothing. -/
theorem loadWorld_eq_some {ps next : PersistentSimulation R C E S} {worldId : String}
    {result : ApiResult (List SimEvent)} (h : ps.loadWorld worldId = some (result, next)) :
    (exists e : ApiError, result = .error e ∧ next = ps) ∨
      exists (world : World) (replayed : List SimEvent),
        loadRecoveredWorld ps.store ps.eventLog worldId = some (.ok (world, replayed)) ∧
          result = .ok replayed ∧ next = { ps with sim := ps.sim.loadWorldState world } := by
  unfold loadWorld at h
  cases hload : loadRecoveredWorld ps.store ps.eventLog worldId with
  | none => simp [hload] at h
  | some outcome =>
      cases outcome with
      | error e =>
          cases e <;> simp only [hload] at h <;> cases h <;> exact Or.inl ⟨_, rfl, rfl⟩
      | ok recovered =>
          rcases recovered with ⟨world, replayed⟩
          simp only [hload] at h
          cases h
          exact Or.inr ⟨world, replayed, rfl, rfl, rfl⟩

end Steps

variable {R C S : Type} [IRng R] [ISimClock C] [IWorldStore S] [SnapshotJson] [Crc32]
  [BatchJson]

inductive Served (ps : PersistentSimulation R C FileEventLog S) :
    RuntimeInput R C -> RuntimeAnswer -> PersistentSimulation R C FileEventLog S -> Prop where
  | command {cmd : SimCommand} {records : List RecordIo}
      {result : ApiResult (List SimEvent)} {next : PersistentSimulation R C FileEventLog S}
      (hprocess : (ps.withRecords records).processCommand cmd = some (result, next)) :
      Served ps (.command cmd records) (.command result) next
  | save {io : SyncIo} {result : ApiResult Unit}
      {next : PersistentSimulation R C FileEventLog S}
      (hsave : (ps.withSyncs [io]).saveWorld = (result, next)) :
      Served ps (.save io) (.save result) next
  | load {worldId : String} {result : ApiResult (List SimEvent)}
      {next : PersistentSimulation R C FileEventLog S}
      (hload : ps.loadWorld worldId = some (result, next)) :
      Served ps (.load worldId) (.load result) next
  | restart {ending : FileEventLog.Ending} {rng : R} {clock : C}
      {next : PersistentSimulation R C FileEventLog S}
      (hrestart : ps.restarted ending rng clock = some next) :
      Served ps (.restart ending rng clock) .started next
  | dieInSave {io : SyncIo} {last : SaveStep} {ending : FileEventLog.Ending} {rng : R}
      {clock : C} {next : PersistentSimulation R C FileEventLog S}
      (hrestart : ((ps.withSyncs [io]).saveUntil last).restarted ending rng clock =
        some next) :
      Served ps (.dieInSave io last ending rng clock) .started next

theorem serve_eq_some {ps next : PersistentSimulation R C FileEventLog S}
    {input : RuntimeInput R C} {answer : RuntimeAnswer} :
    ps.serve input = some (answer, next) <-> Served ps input answer next := by
  constructor
  · intro h
    cases input with
    | command cmd records =>
        rcases Option.map_eq_some_iff.mp h with ⟨⟨result, after⟩, hprocess, heq⟩
        cases heq
        exact Served.command hprocess
    | save io =>
        cases h
        exact Served.save rfl
    | load worldId =>
        rcases Option.map_eq_some_iff.mp h with ⟨⟨result, after⟩, hload, heq⟩
        cases heq
        exact Served.load hload
    | restart ending rng clock =>
        rcases Option.map_eq_some_iff.mp h with ⟨after, hrestart, heq⟩
        cases heq
        exact Served.restart hrestart
    | dieInSave io last ending rng clock =>
        rcases Option.map_eq_some_iff.mp h with ⟨after, hrestart, heq⟩
        cases heq
        exact Served.dieInSave hrestart
  · intro h
    cases h with
    | command hprocess => exact Option.map_eq_some_iff.mpr ⟨_, hprocess, rfl⟩
    | save hsave => simp only [serve, hsave]
    | load hload => exact Option.map_eq_some_iff.mpr ⟨_, hload, rfl⟩
    | restart hrestart => exact Option.map_eq_some_iff.mpr ⟨_, hrestart, rfl⟩
    | dieInSave hrestart => exact Option.map_eq_some_iff.mpr ⟨_, hrestart, rfl⟩

end PersistentSimulation

/-!
## Batches of the engine

The engine never sets a property of an entity to a float, so the batches that it
hands to the log are read back as they were written.
-/

def PropertyValue.isFloat : PropertyValue -> Bool
  | .float _ => true
  | _ => false

def EventData.holdsFloat : EventData -> Bool
  | .entityPropertyChanged _ _ oldValue newValue => oldValue.isFloat || newValue.isFloat
  | _ => false

/-- `serde_json` loses nothing of integers, strings, options and enumerations. -/
class BatchJson.Lossless [BatchJson] : Prop where
  fromSlice_toVec : forall (events : List SimEvent) (bytes : Bytes),
    (forall event : SimEvent, event ∈ events -> event.data.holdsFloat = false) ->
    toVec events = .ok bytes -> fromSlice bytes = .ok events

theorem EventData.not_holdsFloat_of_systemic {data : EventData}
    (h : data.isSystemic = true) : data.holdsFloat = false := by
  cases data <;> simp [isSystemic, holdsFloat] at h ⊢

namespace Simulation

variable {R C : Type} [IRng R] [ISimClock C]

section TickData

variable {P : EventData -> Prop}
  (hsystemic : forall data : EventData, data.isSystemic = true -> P data)
  (hprocessed : forall (tick : Tick) (time : SimTime) (processed : UInt32)
    (state : Option UInt64), P (.tickProcessed tick time processed state))
  {sim next : Simulation R C}
  (hsim : forall event : SimEvent, event ∈ sim.pendingEvents -> P event.data)

include hsystemic hprocessed hsim

/-- What holds of the systemic events and of the end of a tick holds of what ticks
push. -/
theorem cmdTick_data (h : sim.cmdTick = some (.ok (), next)) (event : SimEvent)
    (hmem : event ∈ next.pendingEvents) : P event.data := by
  rcases cmdTick_ok h with ⟨world, hworld⟩
  rcases (cmdTick_eq_ok hworld).mp h with ⟨processed, st, hsystems, hnext⟩
  rcases TickState.runTickSystems_journaled hsystems with ⟨systemic, hjournal⟩
  rw [hnext] at hmem
  rcases List.mem_append.mp hmem with hmem | hlast
  · have hpending : event ∈ sim.pendingEvents ++ systemic := hjournal.pending ▸ hmem
    rcases List.mem_append.mp hpending with hold | hnew
    · exact hsim event hold
    · exact hsystemic _ (hjournal.systemic event hnew).right
  · rw [List.mem_singleton.mp hlast]
    exact hprocessed _ _ _ _

theorem cmdTickN_data {n : Nat} (h : sim.cmdTickN n = some (.ok (), next)) (event : SimEvent)
    (hmem : event ∈ next.pendingEvents) : P event.data := by
  have hall := cmdTickN_invariant
    (P := fun s => forall event : SimEvent, event ∈ s.pendingEvents -> P event.data)
    (fun _ _ hbefore hstep => cmdTick_data hsystemic hprocessed hbefore hstep) h hsim
  exact hall event hmem

end TickData

theorem Accepted.floatless {sim next : Simulation R C} {cmd : SimCommand}
    {events : List SimEvent} (h : Accepted sim cmd events next) (event : SimEvent)
    (hmem : event ∈ events) : event.data.holdsFloat = false := by
  have hnone : forall event : SimEvent, event ∈ sim.clearPending.pendingEvents ->
      event.data.holdsFloat = false := nofun
  cases h with
  | createWorld c _ =>
      rcases List.mem_cons.mp hmem with hfirst | hrest
      · rw [hfirst]
        rfl
      · rw [List.mem_singleton.mp hrest]
        rfl
  | tick htick =>
      exact cmdTick_data (fun _ => EventData.not_holdsFloat_of_systemic)
        (fun _ _ _ _ => rfl) hnone htick event hmem
  | tickN htick =>
      exact cmdTickN_data (fun _ => EventData.not_holdsFloat_of_systemic)
        (fun _ _ _ _ => rfl) hnone htick event hmem
  | spawnEntity _ _ _ =>
      rw [List.mem_singleton.mp hmem]
      rfl
  | despawnEntity _ _ =>
      rw [List.mem_singleton.mp hmem]
      rfl
  | createZone _ _ =>
      rw [List.mem_singleton.mp hmem]
      rfl

end Simulation

theorem mem_numberFrom {start : EventId} {events : List SimEvent} {event : SimEvent}
    (h : event ∈ numberFrom start events) :
    exists original : SimEvent, original ∈ events ∧ original.fact = event.fact := by
  induction events generalizing start with
  | nil => cases h
  | cons first rest ih =>
      rw [numberFrom] at h
      rcases List.mem_cons.mp h with hfirst | hrest
      · rw [hfirst]
        exact ⟨first, List.mem_cons_self, rfl⟩
      · rcases ih hrest with ⟨original, hmem, hfact⟩
        exact ⟨original, List.mem_cons_of_mem _ hmem, hfact⟩

theorem numberFrom_facts (start : EventId) (events : List SimEvent) :
    (numberFrom start events).map SimEvent.fact = events.map SimEvent.fact := by
  induction events generalizing start with
  | nil => rfl
  | cons event rest ih => rw [numberFrom, List.map_cons, List.map_cons, ih]; rfl

theorem Simulation.Accepted.roundTrips {R C : Type} [IRng R] [ISimClock C] [BatchJson]
    [BatchJson.Lossless] {sim next : Simulation R C} {cmd : SimCommand} {events : List SimEvent}
    (h : Accepted sim cmd events next) (start : EventId) :
    RoundTrips (numberFrom start events) := by
  intro payload hwrite
  refine BatchJson.Lossless.fromSlice_toVec _ _ ?_ hwrite
  intro event hmem
  rcases mem_numberFrom hmem with ⟨original, horiginal, hfact⟩
  have hdata : event.data = original.data := (congrArg Prod.snd hfact).symm
  rw [hdata]
  exact h.floatless original horiginal

end Seej
