import Seej.Durability
import Seej.InterruptedSaves
import Seej.Resume

/-!
# Restart parity

A run that is killed and recovered at some of its command boundaries answers like
the run that is left alone.  Between two commands the engine is a function of its
world, recovery finds the world up to its cursor, and no command reads the cursor.
-/

namespace Seej

open Foundation

/-!
## Plans
-/

/-- A step of a plan: a command, a save without a fault, or a point at which one of
the two runs is killed. -/
inductive PlanStep where
  | command (c : SimCommand)
  | save
  | kill (ending : FileEventLog.Ending)

def PlanStep.alone : PlanStep -> List (RuntimeInput Pcg32Rng UnlimitedClock)
  | .command c => [.command c []]
  | .save => [.save {}]
  | .kill _ => []

def PlanStep.killed (worldId : String) :
    PlanStep -> List (RuntimeInput Pcg32Rng UnlimitedClock)
  | .command c => [.command c []]
  | .save => [.save {}]
  | .kill ending =>
      [.restart ending Pcg32Rng.uninitialized UnlimitedClock.new, .load worldId]

def RuntimeAnswer.isReply : RuntimeAnswer -> Bool
  | .command _ => true
  | .save _ => true
  | .load _ => false
  | .started => false

structure Replies (answers killed : List RuntimeAnswer) : Prop where
  replies : killed.filter RuntimeAnswer.isReply = answers
  loads : forall result : ApiResult (List SimEvent), .load result ∈ killed ->
    exists replayed : List SimEvent, result = .ok replayed

namespace Replies

theorem append {left left' right right' : List RuntimeAnswer} (h : Replies left right)
    (h' : Replies left' right') : Replies (left ++ left') (right ++ right') := by
  constructor
  · rw [List.filter_append, h.replies, h'.replies]
  · intro result hmem
    rcases List.mem_append.mp hmem with hmem | hmem
    · exact h.loads result hmem
    · exact h'.loads result hmem

theorem reply {answer : RuntimeAnswer} (h : answer.isReply = true) :
    Replies [answer] [answer] := by
  constructor
  · rw [List.filter_cons, if_pos h, List.filter_nil]
  · intro result hmem
    rw [← List.mem_singleton.mp hmem] at h
    cases h

theorem revived (replayed : List SimEvent) :
    Replies [] [.started, .load (.ok replayed)] := by
  refine ⟨rfl, ?_⟩
  intro result hmem
  simp only [List.mem_cons, reduceCtorEq, RuntimeAnswer.load.injEq, List.not_mem_nil, or_false,
    false_or] at hmem
  exact ⟨replayed, hmem⟩

end Replies

section Parity

variable {S : Type} [IWorldStore S] [SnapshotJson] [Crc32] [BatchJson]

abbrev ServerRuntime (S : Type) : Type :=
  PersistentSimulation Pcg32Rng UnlimitedClock FileEventLog S

/-!
## Two runtimes of one journal
-/

/-- Both runtimes stand at the end of the journal, on one store, with the engine
that the world determines up to its cursor. -/
structure Parity (cmd : CreateWorldCmd) (frames : List WalFrame) (world : World)
    (left right : ServerRuntime S) : Prop where
  born : Born cmd frames world { runtime := left, reached := left.sim.world }
  engine : exists (s : Tick) (i : EventId), left.sim = Simulation.resumed (world.withCursor s i)
  log : Holds right.eventLog frames
  store : right.store = left.store
  other : exists (s : Tick) (i : EventId),
    right.sim = Simulation.resumed (world.withCursor s i) ∧
      i.val.toNat ≤ (framesEvents frames).length
  written : HasSnapshot left.store (World.new cmd.name cmd.seed).id

namespace Parity

variable {cmd : CreateWorldCmd} {frames : List WalFrame} {world : World}
  {left right next : ServerRuntime S}

omit [IWorldStore S] [SnapshotJson] in
theorem isEmpty_eq {log log' : FileEventLog} (h : Holds log frames) (h' : Holds log' frames) :
    IEventLog.isEmpty log' = IEventLog.isEmpty log ∧ IEventLog.len log' = IEventLog.len log := by
  have htotal : log'.totalEvents = log.totalEvents :=
    h'.counts.totalEvents.trans h.counts.totalEvents.symm
  constructor
  · show decide (log'.totalEvents = 0) = decide (log.totalEvents = 0)
    rw [htotal]
  · exact htotal

omit [SnapshotJson] in
theorem checkCommand_eq {left right : ServerRuntime S}
    (hlog : Holds left.eventLog frames) (hlog' : Holds right.eventLog frames)
    (hstore : right.store = left.store) (c : SimCommand) :
    right.checkCommand c = left.checkCommand c := by
  rcases isEmpty_eq hlog hlog' with ⟨hempty, hlen⟩
  cases c with
  | createWorld created =>
      show right.checkCreateWorld created = left.checkCreateWorld created
      unfold PersistentSimulation.checkCreateWorld
      rw [hstore, hempty, hlen]
  | _ => rfl

theorem keep (h : Parity cmd frames world left right) {left' right' : ServerRuntime S}
    {frames' : List WalFrame} (hlog : Holds left'.eventLog frames')
    (hlog' : Holds right'.eventLog frames')
    (hevents : framesEvents frames' = framesEvents frames)
    (hsim : left'.sim = left.sim) (hsim' : right'.sim = right.sim)
    (hstore : left'.store = left.store) (hstore' : right'.store = right.store) :
    Parity cmd frames' world left' right' := by
  constructor
  case born =>
    refine h.born.keep hlog hevents ?_ (congrArg Simulation.world hsim) ?_
    · rw [hstore]
      exact h.born.stored
    · intro last hlast
      rw [hsim] at hlast
      exact h.born.loaded last hlast
  case engine =>
    rw [hsim]
    exact h.engine
  case log => exact hlog'
  case store => rw [hstore', hstore, h.store]
  case other =>
    rw [hsim', hevents]
    exact h.other
  case written =>
    rw [hstore]
    exact h.written

theorem sim_eq (h : Parity cmd frames world left right) :
    exists (loaded : World) (t : Tick) (j : EventId), left.sim = Simulation.resumed loaded ∧
      SameUpToCursor world loaded ∧ WorldIntegrity loaded ∧
      right.sim = left.sim.withCursor t j ∧ j.val.toNat ≤ (framesEvents frames).length := by
  rcases h.engine with ⟨s, i, hleft⟩
  rcases h.other with ⟨t, j, hright, hj⟩
  refine ⟨world.withCursor s i, t, j, hleft, SameUpToCursor.withCursor _ _ _,
    h.born.reaches.integrity.withCursor s i, ?_, hj⟩
  rw [hleft, hright]
  rfl

theorem command [BatchJson.Lossless] (h : Parity cmd frames world left right) {c : SimCommand}
    {result : ApiResult (List SimEvent)}
    (hprocess : (left.withRecords []).processCommand c = some (result, next)) :
    exists (frames' : List WalFrame) (world' : World) (next' : ServerRuntime S),
      (right.withRecords []).processCommand c = some (result, next') ∧
        Parity cmd frames' world' next next' := by
  have hwith : Holds (left.withRecords []).eventLog frames := h.born.log.withIo _
  have hwith' : Holds (right.withRecords []).eventLog frames := h.log.withIo _
  have hstore : (right.withRecords []).store = (left.withRecords []).store := h.store
  have hsame := checkCommand_eq hwith hwith' hstore c
  rcases h.sim_eq with ⟨loaded, t, j, hleft, hloaded, _, hright, hj⟩
  have hworld : left.sim.world = some loaded := by
    rw [hleft]
    rfl
  have hcommute : (right.withRecords []).sim.processCommand c =
      ((left.withRecords []).sim.processCommand c).map fun answer =>
        (answer.1, answer.2.withCursor t j) := by
    show right.sim.processCommand c = _
    rw [hright]
    exact Simulation.processCommand_withCursor hworld t j c
  cases PersistentSimulation.processCommand_eq_some.mp hprocess with
  | refused hcheck =>
      exact ⟨frames, world, _,
        PersistentSimulation.processCommand_eq_some.mpr
          (PersistentSimulation.Processed.refused (hsame.trans hcheck)),
        h.keep hwith hwith' rfl rfl rfl rfl rfl⟩
  | @rejected e sim hcheck hsim =>
      rw [hsim] at hcommute
      have hrejected : Simulation.Rejected left.sim sim := Simulation.processCommand_error hsim
      rw [hleft] at hrejected
      have hkept : sim = left.sim := hrejected.resumed.trans hleft.symm
      refine ⟨frames, world, _,
        PersistentSimulation.processCommand_eq_some.mpr
          (PersistentSimulation.Processed.rejected (hsame.trans hcheck) hcommute),
        h.keep hwith hwith' rfl hkept ?_ rfl rfl⟩
      show sim.withCursor t j = right.sim
      rw [hkept, hright]
  | @rolledBack events e sim eventLog hcheck hsim happend =>
      rw [hsim] at hcommute
      have hround := (Simulation.processCommand_ok hsim).roundTrips
        ⟨(left.withRecords []).eventLog.nextEventId⟩
      rcases hwith.appendBatch_same hwith' rfl rfl hround happend with
        ⟨more, log', happend', hholds, hholds', hmore⟩
      refine ⟨frames ++ more, world, _,
        PersistentSimulation.processCommand_eq_some.mpr
          (PersistentSimulation.Processed.rolledBack (hsame.trans hcheck) hcommute happend'),
        h.keep hholds hholds' ?_ ?_ ?_ rfl rfl⟩
      · rw [framesEvents_append, hmore]
        exact List.append_nil _
      · show sim.restoreCheckpoint left.sim.checkpoint = left.sim
        rw [hleft]
        rfl
      · show (sim.withCursor t j).restoreCheckpoint right.sim.checkpoint = right.sim
        rw [hright, hleft]
        rfl
  | @committed events persisted sim eventLog hcheck hsim happend =>
      rw [hsim] at hcommute
      have haccepted : Simulation.Accepted left.sim c events sim :=
        Simulation.processCommand_ok hsim
      have hround := haccepted.roundTrips ⟨(left.withRecords []).eventLog.nextEventId⟩
      rcases hwith.appendBatch_same hwith' rfl rfl hround happend with
        ⟨more, log', happend', hholds, hholds', hmore⟩
      have hfacts : (framesEvents more).map SimEvent.fact = events.map SimEvent.fact := by
        rw [hmore, acknowledged_ok, call_numbered (c := .appendBatch events) happend]
        exact numberFrom_facts _ _
      rcases h.born.extend hworld haccepted hholds hfacts with ⟨world', hborn⟩
      rw [hleft] at haccepted
      rcases haccepted.resumed with ⟨after, hafter⟩
      rcases (hborn.loaded after (by rw [hafter]; rfl)).left with ⟨s, i, hcursor⟩
      refine ⟨frames ++ more, world', _,
        PersistentSimulation.processCommand_eq_some.mpr
          (PersistentSimulation.Processed.committed (hsame.trans hcheck) hcommute happend'), ?_⟩
      constructor
      case born => exact hborn
      case engine =>
        refine ⟨s, i, ?_⟩
        show sim = _
        rw [hafter, hcursor]
      case log => exact hholds'
      case store => exact h.store
      case other =>
        refine ⟨t, j, ?_, ?_⟩
        · show sim.withCursor t j = _
          rw [hafter, hcursor]
          rfl
        · rw [framesEvents_append, List.length_append]
          exact Nat.le_add_right_of_le hj
      case written => exact h.written

omit [IWorldStore S] [SnapshotJson] in
theorem sync_ok {log : FileEventLog} (h : Holds log frames) :
    IEventLog.sync (log.withSyncs [{}]) = (.ok (), (log.withSyncs [{}]).sync.2) := by
  have hbuffer : log.stream.buffer = [] := h.buffer
  have hsync : (log.withSyncs [{}]).sync.1 = .ok () := by
    unfold FileEventLog.sync
    split
    · rfl
    · simp only
      rw [BufferedFile.flush_of_buffer_eq_nil (by exact hbuffer)]
      rfl
  exact Prod.ext hsync rfl

/-- Both runtimes write the same snapshot. -/
theorem prepareSave_eq (h : Parity cmd frames world left right) :
    (right.withSyncs [{}]).prepareSave = (left.withSyncs [{}]).prepareSave := by
  have hwith : Lists (left.withSyncs [{}]).eventLog (framesEvents frames) :=
    (h.born.log.withIo _).lists
  have hwith' : Lists (right.withSyncs [{}]).eventLog (framesEvents frames) :=
    (h.log.withIo _).lists
  rcases h.sim_eq with ⟨loaded, t, j, hleft, hloaded, _, hright, hj⟩
  have hworld : (left.withSyncs [{}]).sim.world = some loaded := by
    show left.sim.world = _
    rw [hleft]
    rfl
  have hworld' : (right.withSyncs [{}]).sim.world = some (loaded.withCursor t j) := by
    show right.sim.world = _
    rw [hright, hleft]
    rfl
  have hcovers : forall cursor : EventId, cursor.val.toNat ≤ (framesEvents frames).length ->
      validateWalCoversSnapshot cursor ⟨UInt64.ofNat (framesEvents frames).length⟩ = .ok () := by
    intro cursor hle
    rw [← hwith.lastEventId, hwith.announced]
    exact (covers_iff hwith.numbered hwith.length_lt).mpr hle
  unfold PersistentSimulation.prepareSave
  simp only [hworld, hworld', hwith.lastEventId, hwith'.lastEventId]
  rw [hcovers _ (h.born.loaded loaded hworld).right,
    hcovers (loaded.withCursor t j).worldMeta.lastEventId hj]
  rfl

omit [IWorldStore S] [SnapshotJson] [Crc32] [BatchJson] in
/-- The engines are as before, or both hold the same world. -/
def Settled (left right next next' : ServerRuntime S) : Prop :=
  (next.sim = left.sim ∧ next'.sim = right.sim) ∨
    exists saved : World,
      next.sim = Simulation.resumed saved ∧ next'.sim = Simulation.resumed saved

theorem settle (h : Parity cmd frames world left right) {next' : ServerRuntime S}
    {reached : Option World}
    (hborn : Born cmd frames world { runtime := next, reached := reached })
    (hwritten : HasSnapshot next.store (World.new cmd.name cmd.seed).id)
    (hlog : Holds next'.eventLog frames) (hstore : next'.store = next.store)
    (hsims : Settled left right next next') : Parity cmd frames world next next' := by
  rcases hsims with ⟨hsim, hsim'⟩ | ⟨saved, hsim, hsim'⟩
  · constructor
    case born =>
      rw [hsim]
      exact hborn.withReached h.born.reached
    case engine =>
      rw [hsim]
      exact h.engine
    case log => exact hlog
    case store => exact hstore
    case other =>
      rw [hsim']
      exact h.other
    case written => exact hwritten
  · have hworld : next.sim.world = some saved := by
      rw [hsim]
      rfl
    rcases hborn.loaded saved hworld with ⟨hsame, hcursor⟩
    rcases hsame with ⟨s, i, hsaved⟩
    constructor
    case born => exact hborn.withReached ⟨saved, hworld, ⟨s, i, hsaved⟩⟩
    case engine =>
      rw [hsim, hsaved]
      exact ⟨s, i, rfl⟩
    case log => exact hlog
    case store => exact hstore
    case other =>
      rw [hsaved] at hcursor
      rw [hsim', hsaved]
      exact ⟨s, i, rfl, hcursor⟩
    case written => exact hwritten

theorem save [SnapshotJson.Lossless] [AtomicWorldStore S]
    (h : Parity cmd frames world left right) {result : ApiResult Unit}
    (hsave : (left.withSyncs [{}]).saveWorld = (result, next)) :
    exists next' : ServerRuntime S, (right.withSyncs [{}]).saveWorld = (result, next') ∧
      Parity cmd frames world next next' ∧ (result = .ok () -> next'.sim = next.sim) := by
  have hwith : Holds (left.withSyncs [{}]).eventLog frames := h.born.log.withIo _
  have hwith' : Holds (right.withSyncs [{}]).eventLog frames := h.log.withIo _
  have hborn := h.born.save hsave
  have hwritten : HasSnapshot next.store (World.new cmd.name cmd.seed).id :=
    PersistentSimulation.saveWorld_hasSnapshot
      (show HasSnapshot (left.withSyncs [{}]).store _ from h.written) hsave
  have hstore : (right.withSyncs [{}]).store = (left.withSyncs [{}]).store := h.store
  unfold PersistentSimulation.saveWorld at hsave ⊢
  rw [h.prepareSave_eq]
  cases hprepare : (left.withSyncs [{}]).prepareSave with
  | error e =>
      rw [hprepare] at hsave
      cases hsave
      exact ⟨_, rfl, h.keep hwith hwith' rfl rfl rfl rfl rfl, nofun⟩
  | ok prepared =>
      rcases prepared with ⟨saved, snapshot⟩
      rw [hprepare] at hsave
      have hlog' : Holds ((right.withSyncs [{}]).eventLog.sync.2) frames := hwith'.sync
      have hsync : IEventLog.sync (left.withSyncs [{}]).eventLog = (.ok (), _) :=
        sync_ok h.born.log
      have hsync' : IEventLog.sync (right.withSyncs [{}]).eventLog = (.ok (), _) :=
        sync_ok h.log
      simp only [PersistentSimulation.commitSave, hsync] at hsave
      simp only [PersistentSimulation.commitSave, hsync', hstore]
      cases hsnapshot : IWorldStore.saveSnapshot (left.withSyncs [{}]).store saved.id snapshot with
      | mk replaced store =>
          cases replaced with
          | error e =>
              simp only [hsnapshot] at hsave
              cases hsave
              refine ⟨_, rfl, ?_, nofun⟩
              exact h.settle hborn hwritten hlog' rfl (Or.inl ⟨rfl, rfl⟩)
          | ok _ =>
              simp only [hsnapshot] at hsave
              cases hmeta : IWorldStore.saveMeta store saved.worldMeta with
              | mk mirrored final =>
                  cases mirrored with
                  | error e =>
                      simp only [hmeta] at hsave ⊢
                      cases hsave
                      refine ⟨_, rfl, ?_, nofun⟩
                      exact h.settle hborn hwritten hlog' rfl (Or.inl ⟨rfl, rfl⟩)
                  | ok _ =>
                      simp only [hmeta] at hsave ⊢
                      cases hsave
                      refine ⟨_, rfl, ?_, fun _ => rfl⟩
                      exact h.settle hborn hwritten hlog' rfl (Or.inr ⟨saved, rfl, rfl⟩)

/-- A killed runtime is recovered by a fresh process. -/
theorem revive (h : Parity cmd frames world left right) (ending : FileEventLog.Ending) :
    exists (middle next' : ServerRuntime S) (replayed : List SimEvent),
      right.serve (.restart ending Pcg32Rng.uninitialized UnlimitedClock.new) =
        some (.started, middle) ∧
      middle.serve (.load (World.new cmd.name cmd.seed).id) = some (.load (.ok replayed), next') ∧
      Parity cmd frames world left next' := by
  rcases h.log.new_path (h.log.left_file ending) with ⟨reopened, hnew, hholds, _⟩
  rcases h.written with ⟨bytes, hload⟩
  rcases h.born.recovers hload with ⟨t, n, hle, hrecovers⟩
  have hrecovered := hrecovers reopened hholds.lists
  rw [← h.store] at hrecovered
  let middle : ServerRuntime S :=
    PersistentSimulation.new Pcg32Rng.uninitialized UnlimitedClock.new reopened right.store
  let revived : World := world.withCursor t ⟨UInt64.ofNat n⟩
  refine ⟨middle, { middle with sim := Simulation.resumed revived },
    (framesEvents frames).drop n, ?_, ?_, ?_⟩
  · simp only [PersistentSimulation.serve, PersistentSimulation.restarted, hnew]
    rfl
  · simp only [PersistentSimulation.serve, PersistentSimulation.loadWorld, middle,
      PersistentSimulation.new, hrecovered]
    rfl
  · constructor
    case born => exact h.born
    case engine => exact h.engine
    case log => exact hholds
    case store => exact h.store
    case other =>
      refine ⟨t, ⟨UInt64.ofNat n⟩, rfl, ?_⟩
      have hlt := h.log.counts.length_lt
      rw [EventId.ofNat_toNat (by omega)]
      exact hle
    case written => exact h.written

theorem genesis [BatchJson.Lossless] [SnapshotJson.Lossless] [AtomicWorldStore S]
    {rng : Pcg32Rng} {clock : UnlimitedClock} {store : S} (hstore : EmptyStore store)
    {events : List SimEvent} {saved : ServerRuntime S}
    (hrun : run PersistentSimulation.serve [.command (.createWorld cmd) [], .save {}]
      (PersistentSimulation.new rng clock (FileEventLog.closed none) store) =
        some ([.command (.ok events), .save (.ok ())], saved)) :
    exists (frames : List WalFrame) (world : World), Parity cmd frames world saved saved := by
  rcases run_cons.mp hrun with ⟨answer, created, later, hcreate, hrest, hanswers⟩
  rcases run_cons.mp hrest with ⟨answer', final, last, hsave, hnil, hanswers'⟩
  cases hnil
  rw [hanswers'] at hanswers
  simp only [List.cons.injEq, and_true] at hanswers
  rcases hanswers with ⟨hfirst, hsecond⟩
  subst hfirst
  subst hsecond
  rcases PersistentSimulation.serve_eq_some.mp hcreate with ⟨hprocess⟩
  have hunborn : Unborn [] (Session.start rng clock store) :=
    ⟨Holds.empty {}, rfl, hstore, rfl, rfl⟩
  rcases hunborn.command hprocess with ⟨_, _, hresult, _⟩ | ⟨c, frames, hcmd, _, hborn⟩
  · cases hresult
  · cases hcmd
    cases PersistentSimulation.serve_eq_some.mp hsave with
    | save hsaved =>
        rcases PersistentSimulation.saveWorld_ok hsaved with ⟨w, snapshot, hprepare, hcommit⟩
        rcases PersistentSimulation.commitSave_ok hcommit with
          ⟨store', _, hsnapshot, hmeta, hsim⟩
        have hsim' : saved.sim = Simulation.resumed w := hsim
        have hworld : saved.sim.world = some w := by
          rw [hsim']
          rfl
        have hid : w.id = (World.new cmd.name cmd.seed).id := by
          rw [(hborn.prepared hprepare).left]
          exact hborn.reaches.worldId
        have hnext := hborn.save hsaved
        rcases hnext.loaded w hworld with ⟨⟨s, i, hsame⟩, hcursor⟩
        refine ⟨frames, World.new cmd.name cmd.seed, ?_⟩
        constructor
        case born => exact hnext.withReached ⟨w, hworld, ⟨s, i, hsame⟩⟩
        case engine =>
          rw [hsim', hsame]
          exact ⟨s, i, rfl⟩
        case log => exact hnext.log
        case store => rfl
        case other =>
          rw [hsame] at hcursor
          rw [hsim', hsame]
          exact ⟨s, i, rfl, hcursor⟩
        case written =>
          rw [hid] at hsnapshot
          have hloaded := AtomicWorldStore.saveSnapshot_ok _ _ _ _ hsnapshot
          have hwritten : HasSnapshot store' (World.new cmd.name cmd.seed).id := ⟨_, hloaded⟩
          exact hwritten.saveMeta hmeta

end Parity

/-!
## Runs of a plan
-/

theorem Parity.step [BatchJson.Lossless] [SnapshotJson.Lossless] [AtomicWorldStore S]
    {cmd : CreateWorldCmd} {frames : List WalFrame} {world : World}
    {left right left' : ServerRuntime S} {answers : List RuntimeAnswer}
    (h : Parity cmd frames world left right) (step : PlanStep)
    (hrun : run PersistentSimulation.serve step.alone left = some (answers, left')) :
    exists (answers' : List RuntimeAnswer) (right' : ServerRuntime S)
        (frames' : List WalFrame) (world' : World),
      run PersistentSimulation.serve (step.killed (World.new cmd.name cmd.seed).id) right =
        some (answers', right') ∧
      Replies answers answers' ∧ Parity cmd frames' world' left' right' := by
  cases step with
  | command c =>
      rcases run_cons.mp hrun with ⟨answer, middle, later, hfirst, hnil, hanswers⟩
      cases hnil
      rcases PersistentSimulation.serve_eq_some.mp hfirst with @⟨_, _, result, _, hprocess⟩
      rcases h.command hprocess with ⟨frames', world', right', hprocess', hparity⟩
      have hserve : right.serve (.command c []) = some (.command result, right') :=
        PersistentSimulation.serve_eq_some.mpr (PersistentSimulation.Served.command hprocess')
      refine ⟨[.command result], right', frames', world', ?_, ?_, hparity⟩
      · exact run_cons.mpr ⟨_, _, _, hserve, rfl, rfl⟩
      · rw [hanswers]
        exact Replies.reply rfl
  | save =>
      rcases run_cons.mp hrun with ⟨answer, middle, later, hfirst, hnil, hanswers⟩
      cases hnil
      rcases PersistentSimulation.serve_eq_some.mp hfirst with _ | @⟨_, result, _, hsave⟩
      rcases h.save hsave with ⟨right', hsave', hparity, _⟩
      have hserve : right.serve (.save {}) = some (.save result, right') :=
        PersistentSimulation.serve_eq_some.mpr (PersistentSimulation.Served.save hsave')
      refine ⟨[.save result], right', frames, world, ?_, ?_, hparity⟩
      · exact run_cons.mpr ⟨_, _, _, hserve, rfl, rfl⟩
      · rw [hanswers]
        exact Replies.reply rfl
  | kill ending =>
      cases hrun
      rcases h.revive ending with ⟨middle, right', replayed, hrestart, hload, hparity⟩
      refine ⟨_, right', frames, world, ?_, Replies.revived replayed, hparity⟩
      exact run_cons.mpr ⟨_, _, _, hrestart, run_cons.mpr ⟨_, _, _, hload, rfl, rfl⟩, rfl⟩

theorem Parity.run [BatchJson.Lossless] [SnapshotJson.Lossless] [AtomicWorldStore S]
    {cmd : CreateWorldCmd} {frames : List WalFrame} {world : World}
    {left right left' : ServerRuntime S} {answers : List RuntimeAnswer} {plan : List PlanStep}
    (h : Parity cmd frames world left right)
    (hrun : Foundation.run PersistentSimulation.serve (plan.flatMap PlanStep.alone) left =
      some (answers, left')) :
    exists (answers' : List RuntimeAnswer) (right' : ServerRuntime S)
        (frames' : List WalFrame) (world' : World),
      Foundation.run PersistentSimulation.serve
          (plan.flatMap (PlanStep.killed (World.new cmd.name cmd.seed).id)) right =
        some (answers', right') ∧
      Replies answers answers' ∧ Parity cmd frames' world' left' right' := by
  induction plan generalizing frames world left right answers with
  | nil =>
      cases hrun
      exact ⟨[], right, frames, world, rfl, ⟨rfl, nofun⟩, h⟩
  | cons step rest ih =>
      rw [List.flatMap_cons] at hrun
      rcases run_append.mp hrun with ⟨middle, before, after, hfirst, hlater, hanswers⟩
      rcases h.step step hfirst with
        ⟨answers', right', frames', world', hfirst', hreplies, hparity⟩
      rcases ih hparity hlater with
        ⟨answers'', right'', frames'', world'', hlater', hreplies', hparity'⟩
      refine ⟨answers' ++ answers'', right'', frames'', world'', ?_, ?_, hparity'⟩
      · rw [List.flatMap_cons]
        exact run_append.mpr ⟨right', answers', answers'', hfirst', hlater', rfl⟩
      · rw [hanswers]
        exact hreplies.append hreplies'

/-!
## Parity
-/

/-- The same engine, except for the cursor of its world. -/
structure SameEngine (left right : ServerRuntime S) : Prop where
  world : exists (world : World) (s : Tick) (i : EventId),
    left.sim.world = some world ∧ right.sim.world = some (world.withCursor s i)
  rng : right.sim.rng = left.sim.rng
  clock : right.sim.clock = left.sim.clock

theorem Parity.sameEngine {cmd : CreateWorldCmd} {frames : List WalFrame} {world : World}
    {left right : ServerRuntime S} (h : Parity cmd frames world left right) :
    SameEngine left right := by
  rcases h.sim_eq with ⟨loaded, t, j, hleft, _, _, hright, _⟩
  refine ⟨⟨loaded, t, j, ?_, ?_⟩, ?_, ?_⟩
  · rw [hleft]
    rfl
  · rw [hright, hleft]
    rfl
  · rw [hright]
    rfl
  · rw [hright]
    rfl

/-- Killing a runtime at any command boundaries and loading the world in a fresh
process changes no reply and no state, up to the cursor of the world; and a save on
both sides leaves the same world. -/
theorem restart_parity [BatchJson.Lossless] [SnapshotJson.Lossless] [AtomicWorldStore S]
    {rng : Pcg32Rng} {clock : UnlimitedClock} {store : S} (hstore : EmptyStore store)
    {cmd : CreateWorldCmd} {events : List SimEvent} {saved alone : ServerRuntime S}
    (hgenesis : run PersistentSimulation.serve [.command (.createWorld cmd) [], .save {}]
      (PersistentSimulation.new rng clock (FileEventLog.closed none) store) =
        some ([.command (.ok events), .save (.ok ())], saved))
    {plan : List PlanStep} {answers : List RuntimeAnswer}
    (halone : run PersistentSimulation.serve (plan.flatMap PlanStep.alone) saved =
      some (answers, alone)) :
    exists (answers' : List RuntimeAnswer) (killed : ServerRuntime S),
      run PersistentSimulation.serve
          (plan.flatMap (PlanStep.killed (World.new cmd.name cmd.seed).id)) saved =
        some (answers', killed) ∧
      Replies answers answers' ∧ SameEngine alone killed ∧
      forall (result : ApiResult Unit) (next : ServerRuntime S),
        (alone.withSyncs [{}]).saveWorld = (result, next) ->
          exists next' : ServerRuntime S, (killed.withSyncs [{}]).saveWorld = (result, next') ∧
            (result = .ok () -> next'.sim = next.sim) := by
  rcases Parity.genesis hstore hgenesis with ⟨frames, world, hparity⟩
  rcases hparity.run halone with ⟨answers', killed, frames', world', hkilled, hreplies, hend⟩
  refine ⟨answers', killed, hkilled, hreplies, hend.sameEngine, ?_⟩
  intro result next hsave
  rcases hend.save hsave with ⟨next', hsave', _, hsims⟩
  exact ⟨next', hsave', hsims⟩

end Parity

def killedVale : List PlanStep :=
  [.command .tick, .kill (.crash 0), .save, .command .tick, .kill (.drop [])]

theorem restart_parity_vale :
    letI := ieeeCrc32
    letI := knownSnapshots [valeSnapshot, valeTickSnapshot]
    letI := knownBatches
      [PersistentSimulation.valeGenesis, [PersistentSimulation.valeTick], [valeSecondTick]]
    exists (saved alone killed : ServerRuntime MockWorldStore)
        (answers answers' : List RuntimeAnswer),
      (run PersistentSimulation.serve savedVale PersistentSimulation.fresh).map Prod.snd =
        some saved ∧
      run PersistentSimulation.serve (killedVale.flatMap PlanStep.alone) saved =
        some (answers, alone) ∧
      run PersistentSimulation.serve (killedVale.flatMap (PlanStep.killed "world_7")) saved =
        some (answers', killed) ∧
      Replies answers answers' ∧ SameEngine alone killed := by
  let _ := ieeeCrc32
  let _ := knownSnapshots [valeSnapshot, valeTickSnapshot]
  let _ := knownBatches
    [PersistentSimulation.valeGenesis, [PersistentSimulation.valeTick], [valeSecondTick]]
  have _ : BatchJson.Lossless := knownBatches_lossless (by decide +kernel)
  have _ : SnapshotJson.Lossless := knownSnapshots_lossless (by decide +kernel)
  have hanswers : (run PersistentSimulation.serve savedVale PersistentSimulation.fresh).map
      Prod.fst = some [.command (.ok PersistentSimulation.valeGenesis), .save (.ok ())] := by
    decide +kernel
  have halone : ((run PersistentSimulation.serve savedVale PersistentSimulation.fresh).bind
      fun result => run PersistentSimulation.serve (killedVale.flatMap PlanStep.alone)
        result.2).isSome = true := by
    decide +kernel
  rcases Option.map_eq_some_iff.mp hanswers with ⟨⟨first, saved⟩, hgenesis, hfirst⟩
  have hfirst' : first = _ := hfirst
  rw [hgenesis] at halone
  rcases Option.isSome_iff_exists.mp halone with ⟨⟨answers, alone⟩, hrun⟩
  rw [hfirst'] at hgenesis
  rcases restart_parity MockWorldStore.new_empty hgenesis hrun with
    ⟨answers', killed, hkilled, hreplies, hsame, _⟩
  refine ⟨saved, alone, killed, answers, answers', ?_, hrun, hkilled, hreplies, hsame⟩
  rw [hgenesis]
  rfl

end Seej
