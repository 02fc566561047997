import Seej.FilesystemRun
import Seej.InterruptedAppends
import Seej.RestartParity
import Seej.TickBatches

/-!
# Ledgers

What a world has come to, as a function of the commands it accepted: the records of its
log and the world they lead to.  A runtime that follows a ledger goes on with it
command by command, whatever the file system answers; what it leaves behind at any
moment is a ledger again.
-/

namespace Seej

open Foundation

/-- The records of a world and the world that they lead to. -/
structure Ledger where
  frames : List WalFrame
  world : World

/-- A command on a loaded world that adds events to its log. -/
def SimCommand.writes : SimCommand -> Bool
  | .createWorld _ => false
  | .tickN _ => false
  | _ => true

namespace Ledger

section After

variable [Crc32] [BatchJson]

def nextId (c : Ledger) : EventId :=
  ⟨UInt64.ofNat ((framesEvents c.frames).length + 1)⟩

def write (c : Ledger) (events : List SimEvent) (world : World) : Option Ledger :=
  match encodeEventRecord (numberFrom c.nextId events) with
  | .error _ => none
  | .ok record => some ⟨c.frames ++ [⟨numberFrom c.nextId events, record⟩], world⟩

def genesis (cmd : CreateWorldCmd) : Option Ledger :=
  (⟨[], World.new cmd.name cmd.seed⟩ : Ledger).write (Simulation.genesisEvents cmd)
    (World.new cmd.name cmd.seed)

def after (c : Ledger) (cmd : SimCommand) : Option Ledger :=
  match (Simulation.resumed c.world).processCommand cmd with
  | some (.ok events, next) => next.world.bind (c.write events)
  | _ => none

def afterAll (c : Ledger) : List SimCommand -> Option Ledger
  | [] => some c
  | cmd :: rest => (c.after cmd).bind fun c => c.afterAll rest

theorem afterAll_append (c : Ledger) (left right : List SimCommand) :
    c.afterAll (left ++ right) = (c.afterAll left).bind fun middle => middle.afterAll right := by
  induction left generalizing c with
  | nil => rfl
  | cons cmd rest ih =>
      rw [List.cons_append, afterAll, afterAll, Option.bind_assoc]
      congr 1
      funext next
      exact ih next

theorem afterAll_snoc {c middle next : Ledger} {commands : List SimCommand} {cmd : SimCommand}
    (h : c.afterAll commands = some middle) (hafter : middle.after cmd = some next) :
    c.afterAll (commands ++ [cmd]) = some next := by
  rw [afterAll_append, h]
  show (middle.after cmd).bind _ = _
  rw [hafter]
  rfl

end After

end Ledger

def Resumes (c : Ledger) (sim : Simulation Pcg32Rng UnlimitedClock) : Prop :=
  exists (s : Tick) (i : EventId), sim = Simulation.resumed (c.world.withCursor s i) ∧
    i.val.toNat ≤ (framesEvents c.frames).length

theorem Resumes.withCursor {c : Ledger} {sim : Simulation Pcg32Rng UnlimitedClock}
    (h : Resumes c sim) : exists (s : Tick) (i : EventId),
      sim = (Simulation.resumed c.world).withCursor s i ∧
        i.val.toNat ≤ (framesEvents c.frames).length :=
  h

theorem Resumes.world {c : Ledger} {sim : Simulation Pcg32Rng UnlimitedClock}
    (h : Resumes c sim) : exists (s : Tick) (i : EventId),
      sim.world = some (c.world.withCursor s i) := by
  rcases h with ⟨s, i, hsim, _⟩
  refine ⟨s, i, ?_⟩
  rw [hsim]
  rfl

theorem Simulation.Accepted.events_ne_nil {R C : Type} [IRng R] [ISimClock C]
    {sim next : Simulation R C} {cmd : SimCommand} {events : List SimEvent}
    (h : Simulation.Accepted sim cmd events next) (hwrites : cmd.writes = true) :
    events ≠ [] := by
  cases h with
  | createWorld _ _ => cases hwrites
  | tick htick => exact Simulation.cmdTick_pending_ne_nil htick
  | tickN _ => cases hwrites
  | spawnEntity _ _ _ => exact List.cons_ne_nil _ _
  | despawnEntity _ _ => exact List.cons_ne_nil _ _
  | createZone _ _ => exact List.cons_ne_nil _ _

/-!
## Ticks of a ledger
-/

section Ticking

variable [Crc32] [BatchJson] {first c next : Ledger}

theorem Ledger.after_eq_some {command : SimCommand} (h : c.after command = some next) :
    exists (events : List SimEvent) (record : Bytes),
      (Simulation.resumed c.world).processCommand command =
        some (.ok events, Simulation.resumed next.world) ∧
      encodeEventRecord (numberFrom c.nextId events) = .ok record ∧
      next.frames = c.frames ++ [⟨numberFrom c.nextId events, record⟩] := by
  unfold Ledger.after at h
  cases hprocess : (Simulation.resumed c.world).processCommand command with
  | none => simp [hprocess] at h
  | some answer =>
      rcases answer with ⟨result, sim⟩
      cases result with
      | error e => simp [hprocess] at h
      | ok events =>
          rcases (Simulation.processCommand_ok hprocess).resumed with ⟨world, hsim⟩
          rw [hprocess, hsim] at h
          have hwrite : c.write events world = some next := h
          unfold Ledger.write at hwrite
          cases hencode : encodeEventRecord (numberFrom c.nextId events) with
          | error e => simp [hencode] at hwrite
          | ok record =>
              rw [hencode] at hwrite
              cases hwrite
              rw [hsim]
              exact ⟨events, record, rfl, hencode, rfl⟩

theorem Ledger.length_after {command : SimCommand} (hwrites : command.writes = true)
    (h : c.after command = some next) :
    (framesEvents c.frames).length < (framesEvents next.frames).length := by
  rcases Ledger.after_eq_some h with ⟨events, record, hprocess, _, hframes⟩
  have hne := (Simulation.processCommand_ok hprocess).events_ne_nil hwrites
  have hone : framesEvents [(⟨numberFrom c.nextId events, record⟩ : WalFrame)] =
      numberFrom c.nextId events := List.append_nil _
  rw [hframes, framesEvents_append, hone, List.length_append, numberFrom_length]
  exact Nat.lt_add_of_pos_right (List.length_pos_of_ne_nil hne)

theorem Ledger.after_tick (hintegrity : WorldIntegrity c.world)
    (h : c.after .tick = some next) :
    next.world.currentTick = c.world.currentTick.next := by
  rcases Ledger.after_eq_some h with ⟨events, record, hprocess, _, _⟩
  generalize hsim : Simulation.resumed next.world = sim at hprocess
  cases Simulation.processCommand_ok hprocess with
  | tick htick =>
      rcases Simulation.cmdTick_ticked rfl hintegrity htick with ⟨after, _, hticked⟩
      have hworld : (Simulation.resumed next.world).world = some after := by
        rw [hsim]
        exact hticked.loaded
      cases hworld
      exact hticked.tick

def Ledger.Paced (c : Ledger) : Prop :=
  c.world.currentTick.val.toNat ≤ (framesEvents c.frames).length

/-- The ledger after `n` more ticks. -/
structure Later (first : Ledger) (n : Nat) (c : Ledger) : Prop where
  ticks : first.afterAll (List.replicate n .tick) = some c
  paced : c.Paced
  currentTick : c.world.currentTick.val.toNat = first.world.currentTick.val.toNat + n

namespace Later

theorem refl (hpaced : first.Paced) : Later first 0 first :=
  ⟨rfl, hpaced, rfl⟩

theorem tick {n : Nat} (h : Later first n c) (hintegrity : WorldIntegrity c.world)
    (hafter : c.after .tick = some next)
    (hlength : (framesEvents next.frames).length + 1 < 2 ^ 64) : Later first (n + 1) next := by
  have hgrows := Ledger.length_after rfl hafter
  have hpaced : c.world.currentTick.val.toNat ≤ (framesEvents c.frames).length := h.paced
  have hne : c.world.currentTick.val ≠ u64Max := by
    intro hmax
    rw [hmax] at hpaced
    have hbig : 18446744073709551615 ≤ (framesEvents c.frames).length := hpaced
    omega
  have hnext : next.world.currentTick.val.toNat = c.world.currentTick.val.toNat + 1 := by
    rw [Ledger.after_tick hintegrity hafter]
    show (saturatingSucc c.world.currentTick.val).toNat = _
    unfold saturatingSucc
    rw [if_neg hne]
    exact toNat_succ hne
  constructor
  case ticks =>
    rw [List.replicate_succ']
    exact Ledger.afterAll_snoc h.ticks hafter
  case paced =>
    show next.world.currentTick.val.toNat ≤ _
    rw [hnext]
    exact Nat.le_trans (Nat.succ_le_succ hpaced) hgrows
  case currentTick => rw [hnext, h.currentTick, Nat.add_assoc]

/-- At one tick there is one ledger. -/
theorem unique {m n : Nat} (h : Later first m c) (h' : Later first n next)
    (htick : c.world.currentTick = next.world.currentTick) : c = next := by
  have hcount : m = n := by
    apply Nat.add_left_cancel (n := first.world.currentTick.val.toNat)
    rw [← h.currentTick, ← h'.currentTick, htick]
  subst hcount
  exact Option.some.inj (h.ticks.symm.trans h'.ticks)

end Later

end Ticking

section Following

variable {S : Type} [IWorldStore S] [SnapshotJson] [Crc32] [BatchJson]

/-!
## What is kept of a ledger
-/

/-- The records explain the world, and the store has a checkpoint of them or nothing. -/
structure Archived (cmd : CreateWorldCmd) (c : Ledger) (store : S) : Prop where
  nonempty : framesEvents c.frames ≠ []
  reaches : Reaches (World.new cmd.name cmd.seed) (framesEvents c.frames)
    (framesEvents c.frames).length c.world
  stored : Stored store (World.new cmd.name cmd.seed) (framesEvents c.frames)

/-- A process has the log, the store and the world of the ledger. -/
structure Follows (cmd : CreateWorldCmd) (c : Ledger) (ps : ServerRuntime S) : Prop where
  archived : Archived cmd c ps.store
  log : Holds ps.eventLog c.frames
  engine : Resumes c ps.sim

/-- What a process left of the ledger, as the next one finds it. -/
structure Rests (cmd : CreateWorldCmd) (c : Ledger) (file : Option Bytes) (store : S) :
    Prop where
  archived : Archived cmd c store
  found : Found c.frames file

/-- Whoever lists the journal of a ledger recovers its world, once there is a snapshot, and
replays what comes after its cursor. -/
theorem Archived.recovers {cmd : CreateWorldCmd} {c : Ledger} {store : S} {bytes : Bytes}
    (h : Archived cmd c store)
    (hload : IWorldStore.loadSnapshot store (World.new cmd.name cmd.seed).id = .ok bytes) :
    exists (saved : World) (t : Tick) (n : Nat), decodeWorld bytes = .ok (saved.savedAt n) ∧
      n ≤ (framesEvents c.frames).length ∧ saved.currentTick = t ∧
      forall eventLog : FileEventLog, Lists eventLog (framesEvents c.frames) ->
        loadRecoveredWorld store eventLog (World.new cmd.name cmd.seed).id =
          some (.ok (c.world.withCursor t ⟨UInt64.ofNat n⟩, (framesEvents c.frames).drop n)) := by
  cases h.stored with
  | nothing hempty => exact absurd hload (hempty.snapshot _ bytes)
  | @saved n saved hsaved =>
      rcases hsaved.snapshot with ⟨found, hfound, hdecode⟩
      cases hfound.symm.trans hload
      refine ⟨saved, saved.currentTick, n, hdecode, hsaved.reaches.le, rfl, ?_⟩
      intro eventLog hlog
      exact hsaved.recovers (validateWorldIdResult_worldIdOfSeed cmd.seed) hlog h.reaches

namespace Follows

variable {cmd : CreateWorldCmd} {c : Ledger} {ps next : ServerRuntime S}

theorem rests (h : Follows cmd c ps) (ending : FileEventLog.Ending) :
    Rests cmd c (ps.eventLog.left ending) ps.store :=
  ⟨h.archived, h.log.found ending⟩

theorem born (h : Follows cmd c ps) :
    Born cmd c.frames c.world { runtime := ps, reached := some c.world } := by
  constructor
  case log => exact h.log
  case nonempty => exact h.archived.nonempty
  case reaches => exact h.archived.reaches
  case stored => exact h.archived.stored
  case reached => exact ⟨c.world, rfl, SameUpToCursor.refl _⟩
  case loaded =>
    intro last hlast
    rcases h.engine with ⟨s, i, hsim, hle⟩
    have hworld : ps.sim.world = some (c.world.withCursor s i) := by
      rw [hsim]
      rfl
    cases hworld.symm.trans hlast
    exact ⟨SameUpToCursor.withCursor _ _ _, hle⟩

omit [IWorldStore S] [SnapshotJson] in
theorem nextId_eq {log : FileEventLog} (h : Holds log c.frames) :
    (⟨log.nextEventId⟩ : EventId) = c.nextId := by
  apply EventId.eq_of_toNat
  have hlt := h.counts.length_lt
  show log.nextEventId.toNat = (UInt64.ofNat _).toNat
  rw [h.counts.nextEventId, UInt64.toNat_ofNat_of_lt' hlt]

/-!
## Commands
-/

/-- What a command that writes leaves of a runtime that follows a ledger. -/
inductive Answered (cmd : CreateWorldCmd) (c : Ledger) (command : SimCommand)
    (ps : ServerRuntime S) : ApiResult (List SimEvent) -> ServerRuntime S -> Prop where
  | rejected {e : ApiError} {next : ServerRuntime S} (h : Follows cmd c next)
      (hstore : next.store = ps.store) : Answered cmd c command ps (.error e) next
  | accepted {persisted : List SimEvent} {after : Ledger} {next : ServerRuntime S}
      (hafter : c.after command = some after) (h : Follows cmd after next)
      (hstore : next.store = ps.store) : Answered cmd c command ps (.ok persisted) next
  | broken {e : ApiError} {after : Ledger} {next : ServerRuntime S}
      (hafter : c.after command = some after) (harchived : Archived cmd after ps.store)
      (hstore : next.store = ps.store)
      (hfound : forall ending : FileEventLog.Ending, Found c.frames (next.eventLog.left ending) ∨
        Found after.frames (next.eventLog.left ending)) :
      Answered cmd c command ps (.error e) next

omit [IWorldStore S] [SnapshotJson] [Crc32] [BatchJson] in
theorem engine_accepts {sim after : Simulation Pcg32Rng UnlimitedClock} (h : Resumes c sim)
    {command : SimCommand} {events : List SimEvent}
    (hsim : sim.processCommand command = some (.ok events, after)) :
    exists (world : World) (s : Tick) (i : EventId),
      (Simulation.resumed c.world).processCommand command =
        some (.ok events, Simulation.resumed world) ∧
      after = Simulation.resumed (world.withCursor s i) ∧
      i.val.toNat ≤ (framesEvents c.frames).length := by
  rcases h.withCursor with ⟨s, i, hresumed, hle⟩
  have hworld : (Simulation.resumed c.world).world = some c.world := rfl
  have hcommute := Simulation.processCommand_withCursor hworld s i command
  rw [← hresumed, hsim] at hcommute
  rcases Option.map_eq_some_iff.mp hcommute.symm with ⟨⟨result, next⟩, hprocess, heq⟩
  rcases Prod.mk.inj heq with ⟨hresult, hnext⟩
  have hresult' : result = .ok events := hresult
  rw [hresult'] at hprocess
  rcases (Simulation.processCommand_ok hprocess).resumed with ⟨world, hafter⟩
  rw [hafter] at hprocess
  refine ⟨world, s, i, hprocess, ?_, hle⟩
  rw [← hnext]
  show next.withCursor s i = _
  rw [hafter]
  rfl

omit [Crc32] [BatchJson] in
theorem archived_after (h : Archived cmd c ps.store) {command : SimCommand}
    {events : List SimEvent} {world : World} {record : Bytes}
    (hprocess : (Simulation.resumed c.world).processCommand command =
      some (.ok events, Simulation.resumed world)) :
    Archived cmd ⟨c.frames ++ [⟨numberFrom c.nextId events, record⟩], world⟩ ps.store := by
  have hjournal : framesEvents (c.frames ++ [⟨numberFrom c.nextId events, record⟩]) =
      framesEvents c.frames ++ numberFrom c.nextId events := by
    rw [framesEvents_append]
    exact congrArg _ (List.append_nil _)
  rcases (Simulation.processCommand_ok hprocess).advances rfl h.reaches.integrity with
    ⟨last, hlast, hadvance⟩
  cases hlast
  constructor
  case nonempty =>
    rw [hjournal]
    exact fun hnil => h.nonempty (List.append_eq_nil_iff.mp hnil).left
  case reaches =>
    rw [hjournal]
    refine ⟨Nat.le_refl _, ?_, hadvance.integrity⟩
    have hbefore := h.reaches.replays
    rw [List.take_length] at hbefore ⊢
    exact hbefore.append (hadvance.replays.congr (numberFrom_facts _ _).symm)
  case stored =>
    rw [hjournal]
    exact h.stored.append _

omit [IWorldStore S] [SnapshotJson] in
theorem after_eq {command : SimCommand} {events : List SimEvent} {world : World} {record : Bytes}
    (hprocess : (Simulation.resumed c.world).processCommand command =
      some (.ok events, Simulation.resumed world))
    (hencode : encodeEventRecord (numberFrom c.nextId events) = .ok record) :
    c.after command = some ⟨c.frames ++ [⟨numberFrom c.nextId events, record⟩], world⟩ := by
  unfold Ledger.after
  rw [hprocess]
  show c.write events world = _
  unfold Ledger.write
  rw [hencode]

/-- A command goes on with the ledger or leaves it, whatever the file system answers. -/
theorem command [BatchJson.Lossless] (h : Follows cmd c ps) {command : SimCommand}
    (hwrites : command.writes = true) (records : List RecordIo)
    {result : ApiResult (List SimEvent)}
    (hprocess : (ps.withRecords records).processCommand command = some (result, next)) :
    Answered cmd c command ps result next := by
  have hwith : Holds (ps.withRecords records).eventLog c.frames := h.log.withIo _
  cases PersistentSimulation.processCommand_eq_some.mp hprocess with
  | refused _ => exact Answered.rejected ⟨h.archived, hwith, h.engine⟩ rfl
  | @rejected e sim _ hsim =>
      have hrejected : Simulation.Rejected ps.sim sim := Simulation.processCommand_error hsim
      rcases h.engine with ⟨s, i, hresumed, hle⟩
      rw [hresumed] at hrejected
      exact Answered.rejected ⟨h.archived, hwith, s, i, hrejected.resumed, hle⟩ rfl
  | @rolledBack events e sim eventLog _ hsim happend =>
      have haccepted : Simulation.Accepted ps.sim command events sim :=
        Simulation.processCommand_ok hsim
      have hround := haccepted.roundTrips ⟨(ps.withRecords records).eventLog.nextEventId⟩
      rcases engine_accepts h.engine hsim with ⟨world, _, _, hresumed, _, _⟩
      have hengine : Resumes c (sim.restoreCheckpoint ps.sim.checkpoint) := by
        rcases h.engine with ⟨s, i, hbefore, hle⟩
        refine ⟨s, i, ?_, hle⟩
        rw [hbefore]
        rfl
      cases hwith.appending (haccepted.events_ne_nil hwrites) hround happend with
      | unencodable _ => exact Answered.rejected ⟨h.archived, hwith, hengine⟩ rfl
      | @broken _ record _ hencode hfound =>
          rw [nextId_eq hwith] at hencode hfound
          exact Answered.broken (after_eq hresumed hencode) (archived_after h.archived hresumed)
            rfl hfound
  | @committed events persisted sim eventLog _ hsim happend =>
      have haccepted : Simulation.Accepted ps.sim command events sim :=
        Simulation.processCommand_ok hsim
      have hround := haccepted.roundTrips ⟨(ps.withRecords records).eventLog.nextEventId⟩
      rcases engine_accepts h.engine hsim with ⟨world, s, i, hresumed, hsim', hle⟩
      generalize hanswer : (Except.ok persisted : SimResult (List SimEvent)) = answer at happend
      cases hwith.appending (haccepted.events_ne_nil hwrites) hround happend with
      | unencodable _ => cases hanswer
      | broken _ _ => cases hanswer
      | @done record _ hencode hholds =>
          rw [nextId_eq hwith] at hencode hholds
          refine Answered.accepted (after_eq hresumed hencode)
            ⟨archived_after h.archived hresumed, hholds, s, i, hsim', ?_⟩ rfl
          rw [framesEvents_append, List.length_append]
          exact Nat.le_add_right_of_le hle

/-!
## Saves and loads
-/

/-- What a save that succeeds has gone through. -/
def Saved (c : Ledger) (ps next : ServerRuntime S) : Prop :=
  exists (snapshot : Bytes) (middle : S),
    encodeWorld (c.world.savedAt (framesEvents c.frames).length) = .ok snapshot ∧
    IWorldStore.saveSnapshot ps.store c.world.id snapshot = (.ok (), middle) ∧
    IWorldStore.saveMeta middle
      (c.world.savedAt (framesEvents c.frames).length).worldMeta = (.ok (), next.store)

theorem save [SnapshotJson.Lossless] [AtomicWorldStore S] (h : Follows cmd c ps) {io : SyncIo}
    {result : ApiResult Unit} (hsave : (ps.withSyncs [io]).saveWorld = (result, next)) :
    Follows cmd c next ∧ (result = .ok () -> Saved c ps next) := by
  have hborn := h.born.save hsave
  cases result with
  | error e =>
      refine ⟨?_, nofun⟩
      have hsim : next.sim = ps.sim := by
        rcases PersistentSimulation.saveWorld_error hsave with hsame | ⟨_, _, _, hsim, _⟩
        · rw [hsame]
          rfl
        · exact hsim
      refine ⟨⟨h.archived.nonempty, h.archived.reaches, hborn.stored⟩, hborn.log, ?_⟩
      rw [hsim]
      exact h.engine
  | ok _ =>
      rcases PersistentSimulation.saveWorld_ok hsave with ⟨saved, snapshot, hprepare, hcommit⟩
      rcases PersistentSimulation.commitSave_ok hcommit with
        ⟨middle, _, hsnapshot, hmeta, hsim⟩
      rcases h.born.prepared hprepare with ⟨hsaved, hencode⟩
      subst hsaved
      refine ⟨⟨⟨h.archived.nonempty, h.archived.reaches, hborn.stored⟩, hborn.log, ?_⟩, ?_⟩
      · refine ⟨c.world.currentTick, _, hsim, Nat.le_of_eq ?_⟩
        exact EventId.ofNat_toNat h.log.counts.length_lt
      · exact fun _ => ⟨snapshot, middle, hencode, hsnapshot, hmeta⟩

theorem saveUntil [SnapshotJson.Lossless] [AtomicWorldStore S] (h : Follows cmd c ps)
    (io : SyncIo) (last : SaveStep) : Archived cmd c ((ps.withSyncs [io]).saveUntil last).store ∧
      Holds ((ps.withSyncs [io]).saveUntil last).eventLog c.frames := by
  have hwith : Holds (ps.withSyncs [io]).eventLog c.frames := h.log.withIo _
  rcases PersistentSimulation.saveUntil_cases last (ps.withSyncs [io]) with
    hsame | ⟨_, _, hprepare, hcommitted⟩
  · rw [hsame]
    exact ⟨h.archived, hwith⟩
  · rcases h.born.committed hprepare hcommitted with ⟨hlog, hstored⟩
    exact ⟨⟨h.archived.nonempty, h.archived.reaches, hstored⟩, hlog⟩

theorem load (h : Archived cmd c ps.store) (hlog : Holds ps.eventLog c.frames)
    (hwritten : HasSnapshot ps.store (World.new cmd.name cmd.seed).id) :
    exists (replayed : List SimEvent) (next : ServerRuntime S),
      ps.loadWorld (World.new cmd.name cmd.seed).id = some (.ok replayed, next) ∧
        next.store = ps.store ∧ Follows cmd c next := by
  rcases hwritten with ⟨bytes, hload⟩
  rcases h.recovers hload with ⟨_, t, n, _, hle, _, hrecovers⟩
  have hrecovered := hrecovers ps.eventLog hlog.lists
  refine ⟨(framesEvents c.frames).drop n, _,
    PersistentSimulation.loadWorld_recovered hrecovered, rfl, h, hlog, t,
    ⟨UInt64.ofNat n⟩, rfl, ?_⟩
  have hlt := hlog.counts.length_lt
  rw [EventId.ofNat_toNat (by omega)]
  exact hle

/-!
## The first command
-/

/-- What `CreateWorld` leaves of an empty directory. -/
inductive Founded (cmd : CreateWorldCmd) (ps : ServerRuntime S) :
    ApiResult (List SimEvent) -> ServerRuntime S -> Prop where
  | refused {e : ApiError} {next : ServerRuntime S} (hlog : Holds next.eventLog [])
      (hstore : next.store = ps.store) : Founded cmd ps (.error e) next
  | founded {persisted : List SimEvent} {c : Ledger} {next : ServerRuntime S}
      (hgenesis : Ledger.genesis cmd = some c) (h : Follows cmd c next)
      (hstore : next.store = ps.store) : Founded cmd ps (.ok persisted) next
  | broken {e : ApiError} {c : Ledger} {next : ServerRuntime S}
      (hgenesis : Ledger.genesis cmd = some c) (harchived : Archived cmd c ps.store)
      (hstore : next.store = ps.store)
      (hfound : forall ending : FileEventLog.Ending, Found [] (next.eventLog.left ending) ∨
        Found c.frames (next.eventLog.left ending)) : Founded cmd ps (.error e) next

omit [Crc32] [BatchJson] in
theorem archived_genesis {store : S} (hstore : EmptyStore store) {id : EventId}
    {record : Bytes} : Archived cmd
      ⟨[⟨numberFrom id (Simulation.genesisEvents cmd), record⟩], World.new cmd.name cmd.seed⟩
      store := by
  have hjournal : framesEvents
      [(⟨numberFrom id (Simulation.genesisEvents cmd), record⟩ : WalFrame)] =
        numberFrom id (Simulation.genesisEvents cmd) := List.append_nil _
  have hadvance := Simulation.genesis_advances cmd
  constructor
  case nonempty =>
    rw [hjournal]
    exact mt numberFrom_eq_nil.mp (List.cons_ne_nil _ _)
  case reaches =>
    rw [hjournal]
    refine ⟨Nat.le_refl _, ?_, hadvance.integrity⟩
    rw [List.take_length]
    exact hadvance.replays.congr (numberFrom_facts _ _).symm
  case stored => exact Stored.nothing hstore

theorem found [BatchJson.Lossless] (hlog : Holds ps.eventLog []) (hstore : EmptyStore ps.store)
    (records : List RecordIo) {result : ApiResult (List SimEvent)}
    (hprocess : (ps.withRecords records).processCommand (.createWorld cmd) =
      some (result, next)) : Founded cmd ps result next := by
  have hwith : Holds (ps.withRecords records).eventLog [] := hlog.withIo _
  have hfirst : (⟨(ps.withRecords records).eventLog.nextEventId⟩ : EventId) =
      (⟨[], World.new cmd.name cmd.seed⟩ : Ledger).nextId :=
    nextId_eq (c := ⟨[], World.new cmd.name cmd.seed⟩) hwith
  have hwrite {record : Bytes} (hencode : encodeEventRecord (numberFrom
      (⟨[], World.new cmd.name cmd.seed⟩ : Ledger).nextId (Simulation.genesisEvents cmd)) =
        .ok record) : Ledger.genesis cmd = some ⟨[⟨numberFrom
          (⟨[], World.new cmd.name cmd.seed⟩ : Ledger).nextId
            (Simulation.genesisEvents cmd), record⟩], World.new cmd.name cmd.seed⟩ := by
    unfold Ledger.genesis Ledger.write
    rw [hencode]
    rfl
  cases PersistentSimulation.processCommand_eq_some.mp hprocess with
  | refused _ => exact Founded.refused hwith rfl
  | rejected _ _ => exact Founded.refused hwith rfl
  | @rolledBack events e sim eventLog _ hsim happend =>
      have haccepted : Simulation.Accepted ps.sim (.createWorld cmd) events sim :=
        Simulation.processCommand_ok hsim
      have hround := haccepted.roundTrips ⟨(ps.withRecords records).eventLog.nextEventId⟩
      cases haccepted with
      | createWorld _ _ =>
          cases hwith.appending (List.cons_ne_nil _ _) hround happend with
          | unencodable _ => exact Founded.refused hwith rfl
          | @broken _ record _ hencode hfound =>
              rw [hfirst] at hencode hfound
              exact Founded.broken (hwrite hencode) (archived_genesis hstore) rfl hfound
  | @committed events persisted sim eventLog _ hsim happend =>
      have haccepted : Simulation.Accepted ps.sim (.createWorld cmd) events sim :=
        Simulation.processCommand_ok hsim
      have hround := haccepted.roundTrips ⟨(ps.withRecords records).eventLog.nextEventId⟩
      generalize hanswer : (Except.ok persisted : SimResult (List SimEvent)) = answer at happend
      cases haccepted with
      | createWorld _ _ =>
          cases hwith.appending (List.cons_ne_nil _ _) hround happend with
          | unencodable _ => cases hanswer
          | broken _ _ => cases hanswer
          | @done record _ hencode hholds =>
              rw [hfirst] at hencode hholds
              exact Founded.founded (hwrite hencode) ⟨archived_genesis hstore, hholds,
                Tick.zero, ⟨0⟩, rfl, Nat.zero_le _⟩ rfl

end Follows

end Following

end Seej
