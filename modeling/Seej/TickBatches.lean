import Mathlib.Data.List.Infix
import Seej.LiveIntegrity
import Seej.TickFrame

/-!
# Ticks in one batch

`TickN` runs its ticks on one buffer of pending events and appends them as one
record; the same number of `Tick` commands appends a record each.  The engine does
not read the buffer, the identifiers go on where they stopped, and a part of a batch
that fits into a record fits into one, so the two ways end alike.
-/

namespace Seej

open Foundation

/-!
## Pending events
-/

def TickState.withPending {R : Type} (pending : List SimEvent) (st : TickState R) :
    TickState R :=
  { st with pendingEvents := pending ++ st.pendingEvents }

theorem TickState.withPending_unread {R : Type} (pending : List SimEvent) :
    Unread (R := R) (TickState.withPending pending) := by
  constructor
  case pushed =>
    intro st data
    exact congrArg (TickState.mk st.world st.rng) (List.append_assoc _ _ _)
  all_goals
    intros
    rfl

namespace Simulation

variable {R C : Type} [IRng R] [ISimClock C] {sim next : Simulation R C} {world : World}

def withPending (pending : List SimEvent) (sim : Simulation R C) : Simulation R C :=
  { sim with pendingEvents := pending ++ sim.pendingEvents }

theorem cmdTick_withPending (pending : List SimEvent) (hworld : sim.world = some world) :
    (sim.withPending pending).cmdTick =
      sim.cmdTick.map fun (result, sim) => (result, sim.withPending pending) := by
  have hworld' : (sim.withPending pending).world = some world := hworld
  have hsystems : TickState.runTickSystems
      ⟨world.advanceTick, sim.rng, pending ++ sim.pendingEvents⟩ = _ :=
    (TickState.withPending_unread pending).runTickSystems
      ⟨world.advanceTick, sim.rng, sim.pendingEvents⟩
  rw [cmdTick_eq hworld, cmdTick_eq hworld']
  show (TickState.runTickSystems ⟨world.advanceTick, sim.rng, pending ++ sim.pendingEvents⟩).map
    _ = _
  rw [hsystems]
  cases TickState.runTickSystems ⟨world.advanceTick, sim.rng, sim.pendingEvents⟩ with
  | none => rfl
  | some result =>
      rcases result with ⟨processed, st⟩
      simp only [Option.map_some, afterTick, withPending, TickState.withPending,
        List.append_assoc]

theorem cmdTickN_withPending (pending : List SimEvent) (n : Nat)
    (hworld : sim.world = some world) :
    (sim.withPending pending).cmdTickN n =
      (sim.cmdTickN n).map fun (result, sim) => (result, sim.withPending pending) := by
  induction n generalizing sim world with
  | zero => rfl
  | succ n ih =>
      unfold cmdTickN
      rw [cmdTick_withPending pending hworld]
      cases htick : sim.cmdTick with
      | none => rfl
      | some answer =>
          rcases answer with ⟨result, next⟩
          cases result with
          | error e => rfl
          | ok _ =>
              rcases cmdTick_ok_world htick with ⟨after, hafter⟩
              exact ih hafter

/-- The first of several ticks, and the others on a buffer of their own. -/
theorem cmdTickN_succ {n : Nat} (h : sim.cmdTickN (n + 1) = some (.ok (), next)) :
    exists (middle last : Simulation R C), sim.cmdTick = some (.ok (), middle) ∧
      middle.clearPending.cmdTickN n = some (.ok (), last) ∧
      next = last.withPending middle.pendingEvents := by
  rw [cmdTickN] at h
  cases htick : sim.cmdTick with
  | none => simp [htick] at h
  | some result =>
      rcases result with ⟨outcome, middle⟩
      cases outcome with
      | error e => simp [htick] at h
      | ok _ =>
          simp only [htick, bind, Option.bind] at h
          rcases cmdTick_ok_world htick with ⟨after, hafter⟩
          have hsplit : middle = middle.clearPending.withPending middle.pendingEvents := by
            unfold withPending clearPending
            rw [List.append_nil]
          have hcleared : middle.clearPending.world = some after := hafter
          rw [hsplit, cmdTickN_withPending _ _ hcleared] at h
          rcases Option.map_eq_some_iff.mp h with ⟨⟨answer, last⟩, hlater, heq⟩
          rcases Prod.mk.inj heq with ⟨hanswer, hnext⟩
          rw [hanswer] at hlater
          exact ⟨middle, last, rfl, hlater, hnext.symm⟩

theorem cmdTick_pending_ne_nil (h : sim.cmdTick = some (.ok (), next)) :
    next.pendingEvents ≠ [] := by
  rcases cmdTick_ok h with ⟨world, hworld⟩
  rcases (cmdTick_eq_ok hworld).mp h with ⟨processed, st, _, hnext⟩
  rw [hnext]
  exact fun hnil => List.cons_ne_nil _ _ (List.append_eq_nil_iff.mp hnil).right

end Simulation

/-!
## Parts of a batch
-/

theorem numberFrom_append (start : EventId) (left right : List SimEvent) :
    numberFrom start (left ++ right) =
      numberFrom start left ++ numberFrom (start.skip left.length) right := by
  induction left generalizing start with
  | nil => rfl
  | cons event rest ih => rw [List.cons_append, numberFrom, ih, numberFrom]; rfl

class BatchJson.Shrinks [BatchJson] : Prop where
  toVec_infix : forall (events part : List SimEvent) (bytes : Bytes),
    part <:+: events -> part ≠ [] -> toVec events = .ok bytes ->
      exists shorter : Bytes, toVec part = .ok shorter ∧ shorter.length ≤ bytes.length

section Batches

variable [Crc32] [BatchJson]

theorem encodeEventRecord_infix [BatchJson.Shrinks] {events part : List SimEvent}
    {record : Bytes} (hpart : part <:+: events) (hne : part ≠ [])
    (h : encodeEventRecord events = .ok record) :
    exists shorter : Bytes, encodeEventRecord part = .ok shorter := by
  rcases encodeEventRecord_eq_ok.mp h with ⟨_, payload, _, hjson, hlength, _⟩
  rcases BatchJson.Shrinks.toVec_infix events part payload hpart hne hjson with
    ⟨shorter, hshorter, hle⟩
  exact (encodeEventRecord_isOk hne).mpr ⟨shorter, hshorter, Nat.le_trans hle hlength⟩

/-!
## Ticks of a runtime
-/

variable {R C S : Type} [IRng R] [ISimClock C] [IWorldStore S] [SnapshotJson]

omit [Crc32] [BatchJson] [IWorldStore S] [SnapshotJson] in
theorem Simulation.processCommand_tick {sim next : Simulation R C}
    (h : sim.clearPending.cmdTick = some (.ok (), next)) :
    sim.processCommand .tick = some (.ok next.pendingEvents, next.clearPending) := by
  show sim.clearPending.cmdTick.map (finish _) = _
  rw [h]
  rfl

theorem serve_accepted {ps : PersistentSimulation R C FileEventLog S} {cmd : SimCommand}
    {sim : Simulation R C} {events : List SimEvent} {record : Bytes}
    (hbuffer : ps.eventLog.writer.getD [] = []) (hcheck : ps.checkCommand cmd = .ok ())
    (hsim : ps.sim.processCommand cmd = some (.ok events, sim)) (hne : events ≠ [])
    (hroom : ps.eventLog.nextEventId.toNat + events.length < 2 ^ 64)
    (hencode : encodeEventRecord (numberFrom ⟨ps.eventLog.nextEventId⟩ events) = .ok record) :
    ps.serve (.command cmd []) =
      some (.command (.ok (numberFrom ⟨ps.eventLog.nextEventId⟩ events)),
        { ps with
          sim := sim
          eventLog := (ps.withRecords []).eventLog.recorded record
            (UInt64.ofNat (ps.eventLog.nextEventId.toNat + events.length))
            (numberFrom ⟨ps.eventLog.nextEventId⟩ events) }) := by
  have hwith : (ps.withRecords []).eventLog.writer.getD [] = [] := hbuffer
  have happend : IEventLog.appendBatch (ps.withRecords []).eventLog events = _ :=
    (appendBatch_of_room rfl hwith hne).trans (if_pos hroom)
  have hencode' : encodeEventRecord
      (numberFrom ⟨(ps.withRecords []).eventLog.nextEventId⟩ events) = .ok record := hencode
  rw [hencode'] at happend
  exact PersistentSimulation.serve_eq_some.mpr (PersistentSimulation.Served.command
    (PersistentSimulation.processCommand_eq_some.mpr
      (PersistentSimulation.Processed.committed hcheck hsim happend)))

theorem serve_tick [BatchJson.Lossless] {ps : PersistentSimulation R C FileEventLog S}
    {frames : List WalFrame} (hlog : Holds ps.eventLog frames) {next : Simulation R C}
    (htick : ps.sim.clearPending.cmdTick = some (.ok (), next)) {record : Bytes}
    (hencode : encodeEventRecord (numberFrom ⟨ps.eventLog.nextEventId⟩ next.pendingEvents) =
      .ok record)
    (hroom : ps.eventLog.nextEventId.toNat + next.pendingEvents.length < 2 ^ 64) :
    exists log : FileEventLog,
      ps.serve (.command .tick []) =
        some (.command (.ok (numberFrom ⟨ps.eventLog.nextEventId⟩ next.pendingEvents)),
          { ps with sim := next.clearPending, eventLog := log }) ∧
      Holds log
        (frames ++ [⟨numberFrom ⟨ps.eventLog.nextEventId⟩ next.pendingEvents, record⟩]) ∧
      log.nextEventId.toNat = ps.eventLog.nextEventId.toNat + next.pendingEvents.length := by
  have hwith : Holds (ps.withRecords []).eventLog frames := hlog.withIo _
  have hne := Simulation.cmdTick_pending_ne_nil htick
  have haccepted : Simulation.Accepted ps.sim .tick next.pendingEvents next.clearPending :=
    Simulation.Accepted.tick htick
  have hrecord := (haccepted.roundTrips ⟨ps.eventLog.nextEventId⟩).isRecord hencode
  have hlast : (UInt64.ofNat
      (ps.eventLog.nextEventId.toNat + next.pendingEvents.length)).toNat =
        ps.eventLog.nextEventId.toNat + next.pendingEvents.length :=
    UInt64.toNat_ofNat_of_lt' hroom
  have hserve := serve_accepted hlog.buffer rfl (Simulation.processCommand_tick htick) hne
    hroom hencode
  exact ⟨_, hserve, hwith.recorded hne hrecord hlast, hlast⟩

/-- One tick after the other, where every part of their events fits into a record. -/
theorem serve_ticks [BatchJson.Lossless] {n : Nat}
    {ps : PersistentSimulation R C FileEventLog S} {frames : List WalFrame}
    (hlog : Holds ps.eventLog frames) {last : Simulation R C}
    (hticks : ps.sim.clearPending.cmdTickN n = some (.ok (), last))
    (hfits : forall part : List SimEvent,
      part <:+: numberFrom ⟨ps.eventLog.nextEventId⟩ last.pendingEvents -> part ≠ [] ->
        exists record : Bytes, encodeEventRecord part = .ok record)
    (hroom : ps.eventLog.nextEventId.toNat + last.pendingEvents.length < 2 ^ 64) :
    exists (batches : List (List SimEvent)) (split : PersistentSimulation R C FileEventLog S)
        (more : List WalFrame),
      run PersistentSimulation.serve (List.replicate n (.command .tick [])) ps =
        some (batches.map (fun events => .command (.ok events)), split) ∧
      batches.flatten = numberFrom ⟨ps.eventLog.nextEventId⟩ last.pendingEvents ∧
      split.sim.clearPending = last.clearPending ∧ Holds split.eventLog (frames ++ more) ∧
      framesEvents more = batches.flatten := by
  induction n generalizing ps frames last with
  | zero =>
      cases hticks
      refine ⟨[], ps, [], rfl, rfl, rfl, ?_, rfl⟩
      rw [List.append_nil]
      exact hlog
  | succ n ih =>
      rcases Simulation.cmdTickN_succ hticks with ⟨middle, last', htick, hlater, hlast⟩
      have hpending : last.pendingEvents = middle.pendingEvents ++ last'.pendingEvents := by
        rw [hlast]
        rfl
      let start : EventId := ⟨ps.eventLog.nextEventId⟩
      have hsplit : numberFrom start last.pendingEvents =
          numberFrom start middle.pendingEvents ++
            numberFrom (start.skip middle.pendingEvents.length) last'.pendingEvents := by
        rw [hpending]
        exact numberFrom_append _ _ _
      have hlength : last.pendingEvents.length =
          middle.pendingEvents.length + last'.pendingEvents.length := by
        rw [hpending, List.length_append]
      have hne : numberFrom start middle.pendingEvents ≠ [] :=
        mt numberFrom_eq_nil.mp (Simulation.cmdTick_pending_ne_nil htick)
      rcases hfits (numberFrom start middle.pendingEvents)
        (by rw [hsplit]; exact (List.prefix_append _ _).isInfix) hne with ⟨record, hencode⟩
      rcases serve_tick hlog htick hencode (by omega) with ⟨log, hserve, hholds, hnext⟩
      have hstart : (⟨log.nextEventId⟩ : EventId) = start.skip middle.pendingEvents.length := by
        apply EventId.eq_of_toNat
        rw [EventId.skip_toNat (show ps.eventLog.nextEventId.toNat + _ < 2 ^ 64 by omega)]
        exact hnext
      let after : PersistentSimulation R C FileEventLog S :=
        { ps with sim := middle.clearPending, eventLog := log }
      have hheld : Holds after.eventLog _ := hholds
      have hfits' : forall part : List SimEvent,
          part <:+: numberFrom ⟨after.eventLog.nextEventId⟩ last'.pendingEvents -> part ≠ [] ->
            exists record : Bytes, encodeEventRecord part = .ok record := by
        intro part hpart
        apply hfits part
        have hpart' : part <:+: numberFrom ⟨log.nextEventId⟩ last'.pendingEvents := hpart
        rw [hstart] at hpart'
        rw [hsplit]
        exact hpart'.trans (List.suffix_append _ _).isInfix
      have hroom' : after.eventLog.nextEventId.toNat + last'.pendingEvents.length < 2 ^ 64 := by
        show log.nextEventId.toNat + _ < _
        omega
      rcases ih hheld hlater hfits' hroom' with
        ⟨batches, split, more, hrun, hflatten, hsim, hend, hmore⟩
      refine ⟨numberFrom start middle.pendingEvents :: batches, split,
        ⟨numberFrom start middle.pendingEvents, record⟩ :: more, ?_, ?_, ?_, ?_, ?_⟩
      · rw [List.replicate_succ, List.map_cons]
        exact run_cons.mpr ⟨_, after, _, hserve, hrun, rfl⟩
      · rw [List.flatten_cons, hflatten, hsplit, ← hstart]
      · rw [hsim, hlast]
        rfl
      · rw [List.append_cons]
        exact hend
      · rw [List.flatten_cons, ← hmore]
        rfl

structure ReadsAlike (left right : FileEventLog) : Prop where
  readAllValid : IEventLog.readAllValid left = IEventLog.readAllValid right
  lastEventId : IEventLog.lastEventId left = IEventLog.lastEventId right
  lastTick : IEventLog.lastTick left = IEventLog.lastTick right
  len : IEventLog.len left = IEventLog.len right

omit [SnapshotJson] in
/-- Logs of one journal read alike, whatever records it is cut into. -/
theorem Holds.readsAlike {left right : FileEventLog} {frames frames' : List WalFrame}
    (h : Holds left frames) (h' : Holds right frames')
    (hevents : framesEvents frames = framesEvents frames') : ReadsAlike left right := by
  constructor
  case readAllValid => rw [h.lists.read, h'.lists.read, hevents]
  case lastEventId => rw [h.lists.lastEventId, h'.lists.lastEventId, hevents]
  case lastTick =>
    show left.lastTick = right.lastTick
    rw [h.counts.lastTick, h'.counts.lastTick, hevents]
  case len =>
    show left.totalEvents = right.totalEvents
    rw [h.counts.totalEvents, h'.counts.totalEvents, hevents]

omit [IRng R] [ISimClock C] in
theorem Durable.holds {session : Session R C S} (h : Durable session) :
    exists frames : List WalFrame, Holds session.runtime.eventLog frames := by
  cases h with
  | unborn h => exact ⟨_, h.log⟩
  | born h => exact ⟨_, h.log⟩

/-- A `TickN` that is accepted and the same number of ticks answer with the same events
and lead to the same engine and to logs that read alike. -/
theorem tickN_eq_ticks [BatchJson.Lossless] [BatchJson.Shrinks] [SnapshotJson.Lossless]
    [AtomicWorldStore S] {rng : R} {clock : C} {store : S} (hstore : EmptyStore store)
    {inputs : List (RuntimeInput R C)} {answers : List RuntimeAnswer}
    {ps whole : PersistentSimulation R C FileEventLog S}
    (hrun : run PersistentSimulation.serve inputs
      (PersistentSimulation.new rng clock (FileEventLog.closed none) store) = some (answers, ps))
    (hquiet : forall input : RuntimeInput R C, input ∈ inputs -> input.Quiet) {n : UInt32}
    {events : List SimEvent}
    (hwhole : ps.serve (.command (.tickN n) []) = some (.command (.ok events), whole)) :
    exists (batches : List (List SimEvent)) (split : PersistentSimulation R C FileEventLog S),
      run PersistentSimulation.serve (List.replicate n.toNat (.command .tick [])) ps =
        some (batches.map (fun batch => .command (.ok batch)), split) ∧
      batches.flatten = events ∧
      split.sim.world = whole.sim.world ∧ split.sim.rng = whole.sim.rng ∧
      split.sim.clock = whole.sim.clock ∧ ReadsAlike split.eventLog whole.eventLog := by
  rcases Session.run_of_run none hrun with ⟨reached, hsession⟩
  rcases ((Durable.start hstore).run hsession hquiet).holds with ⟨frames, hlog⟩
  have hwith : Holds (ps.withRecords []).eventLog frames := Holds.withIo hlog _
  rcases PersistentSimulation.serve_eq_some.mp hwhole with ⟨hprocess⟩
  cases PersistentSimulation.processCommand_eq_some.mp hprocess with
  | @committed pending _ sim eventLog hcheck hsim happend =>
      have haccepted := Simulation.processCommand_ok hsim
      have hround := haccepted.roundTrips ⟨ps.eventLog.nextEventId⟩
      have hcall : (ps.withRecords []).eventLog.call (.appendBatch pending) =
          some (.ok events, eventLog) := happend
      rcases hwith.call rfl hcall hround with ⟨more, hholds, hmore, _⟩
      have hpersisted : events = numberFrom ⟨ps.eventLog.nextEventId⟩ pending :=
        call_numbered hcall
      rw [acknowledged_ok] at hmore
      have hencodes : pending = [] ∨ exists record : Bytes,
          encodeEventRecord (numberFrom ⟨ps.eventLog.nextEventId⟩ pending) = .ok record := by
        cases call_called hcall with
        | nothing hnone => exact Or.inl hnone
        | done hencode _ _ => exact Or.inr ⟨_, hencode⟩
      have hroom : ps.eventLog.nextEventId.toNat + pending.length < 2 ^ 64 := by
        cases call_called hcall with
        | nothing hnone =>
            have hnone' : pending = [] := hnone
            rw [hnone']
            exact UInt64.toNat_lt _
        | @done _ _ next _ _ hnext =>
            have hnext' : next.toNat = ps.eventLog.nextEventId.toNat + pending.length := hnext
            rw [← hnext']
            exact UInt64.toNat_lt _
      cases haccepted with
      | @tickN _ last hticks =>
          have hfits : forall part : List SimEvent,
              part <:+: numberFrom ⟨ps.eventLog.nextEventId⟩ last.pendingEvents -> part ≠ [] ->
                exists record : Bytes, encodeEventRecord part = .ok record := by
            intro part hpart hne
            rcases hencodes with hnone | ⟨record, hencode⟩
            · rw [hnone] at hpart
              exact absurd (List.infix_nil.mp hpart) hne
            · exact encodeEventRecord_infix hpart hne hencode
          rcases serve_ticks hlog hticks hfits hroom with
            ⟨batches, split, more', hserve, hflatten, hengine, hend, hmore'⟩
          have hsame : framesEvents (frames ++ more') = framesEvents (frames ++ more) := by
            rw [framesEvents_append, framesEvents_append, hmore, hmore', hflatten, hpersisted]
          have hworld := congrArg Simulation.world hengine
          have hrng := congrArg Simulation.rng hengine
          have hclock := congrArg Simulation.clock hengine
          exact ⟨batches, split, hserve, hflatten.trans hpersisted.symm, hworld, hrng, hclock,
            hend.readsAlike hholds hsame⟩

end Batches

theorem knownBatches_shrinks {known : List (List SimEvent)}
    (h : forall events, events ∈ known -> forall part, part ∈ events.tails.flatMap List.inits ->
      part ≠ [] -> part ∈ known ∧ (Json.batch part).any (fun shorter =>
        (Json.batch events).all fun bytes => shorter.length ≤ bytes.length)) :
    @BatchJson.Shrinks (knownBatches known) := by
  refine @BatchJson.Shrinks.mk (knownBatches known) ?_
  intro events part bytes hpart hne hwrite
  rcases List.infix_iff_prefix_suffix.mp hpart with ⟨tail, hstarts, hsuffix⟩
  have hmem : part ∈ events.tails.flatMap List.inits :=
    List.mem_flatMap.mpr
      ⟨tail, (List.mem_tails _ _).mpr hsuffix, (List.mem_inits _ _).mpr hstarts⟩
  rcases knownBatches_toVec.mp hwrite with ⟨hknown, htext⟩
  rcases h events hknown part hmem hne with ⟨hpartKnown, hshorter⟩
  rcases (Option.any_eq_true _ _).mp hshorter with ⟨shorter, hpartText, hle⟩
  rw [htext, Option.all_some, decide_eq_true_eq] at hle
  exact ⟨shorter, knownBatches_toVec.mpr ⟨hpartKnown, hpartText⟩, hle⟩

def valeBatches : List (List SimEvent) :=
  (PersistentSimulation.valeGenesis.tails ++
    [PersistentSimulation.valeTick, valeSecondTick].tails).flatMap List.inits

theorem tickN_eq_ticks_vale :
    letI := ieeeCrc32
    letI := knownSnapshots []
    letI := knownBatches valeBatches
    exists (ps split : PersistentSimulation Pcg32Rng UnlimitedClock FileEventLog MockWorldStore)
        (batches : List (List SimEvent)),
      (run PersistentSimulation.serve [.command PersistentSimulation.createVale []]
        PersistentSimulation.fresh).map Prod.snd = some ps ∧
      run PersistentSimulation.serve [.command .tick [], .command .tick []] ps =
        some (batches.map (fun batch => .command (.ok batch)), split) ∧
      batches.flatten = [PersistentSimulation.valeTick, valeSecondTick] ∧
      split.eventLog.lastTick = some ⟨2⟩ := by
  let _ := ieeeCrc32
  let _ := knownSnapshots []
  let _ := knownBatches valeBatches
  have _ : BatchJson.Lossless := knownBatches_lossless (by decide +kernel)
  have _ : BatchJson.Shrinks := knownBatches_shrinks (by decide +kernel)
  have _ : SnapshotJson.Lossless := knownSnapshots_lossless (by decide +kernel)
  have hanswer : ((run PersistentSimulation.serve
      [.command PersistentSimulation.createVale []] PersistentSimulation.fresh).bind fun created =>
        (created.2.serve (.command (.tickN 2) [])).map fun ticked =>
          (ticked.1, ticked.2.eventLog.lastTick)) =
        some (.command (.ok [PersistentSimulation.valeTick, valeSecondTick]), some ⟨2⟩) := by
    decide +kernel
  rcases Option.bind_eq_some_iff.mp hanswer with ⟨⟨answers, ps⟩, hrun, hticked⟩
  rcases Option.map_eq_some_iff.mp hticked with ⟨⟨answer, whole⟩, hwhole, heq⟩
  rcases Prod.mk.inj heq with ⟨hevents, hlast⟩
  change answer = _ at hevents
  rw [hevents] at hwhole
  rcases tickN_eq_ticks MockWorldStore.new_empty hrun (by decide) hwhole with
    ⟨batches, split, hsplit, hflatten, _, _, _, hreads⟩
  refine ⟨ps, split, batches, ?_, hsplit, hflatten, hreads.lastTick.trans hlast⟩
  rw [hrun]
  rfl

end Seej
