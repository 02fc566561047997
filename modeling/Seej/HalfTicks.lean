import Seej.RecoveryComplete
import Seej.WalCalls
import Seej.WalCodec

/-!
# Ticks that recovery ends

Every event may move the replayed clock to the next tick, but only
`TickProcessed` restores the generator.  The applier has no check that the two
come in pairs: recovery ends every tick that it enters exactly if the replayed
part of the log does.
-/

namespace Seej

open Foundation

/-!
## The clock and the generator of a replay
-/

theorem Tick.next_toNat_le (tick : Tick) : tick.next.val.toNat ≤ tick.val.toNat + 1 := by
  unfold Tick.next saturatingSucc
  by_cases hmax : tick.val = u64Max
  · rw [if_pos hmax]
    exact Nat.le_succ _
  · rw [if_neg hmax]
    exact Nat.le_of_eq (toNat_succ hmax)

/-- An accepted event carries the tick that the clock is moved to. -/
theorem applyEvent_clock {world next : World} {event : SimEvent}
    (h : applyEvent world event = accept next) :
    next.currentTick = event.tick ∧
      (event.tick = world.currentTick ∨ event.tick = world.currentTick.next) := by
  cases hlife : event.data.isLifecycle with
  | true =>
      have htick : event.tick = world.currentTick := applyEvent_lifecycle_tick hlife h
      rw [applyEvent_of_lifecycle hlife h]
      exact ⟨htick.symm, Or.inl htick⟩
  | false =>
      rcases (applyEvent_eq_interpreted hlife).mp h with ⟨hgate, hinterpreted⟩
      have hclock := gateEvent_tick hgate
      exact ⟨hinterpreted.kept.currentTick.trans (advanceTo_currentTick hclock), hclock⟩

/-- The generator is restored by `TickProcessed` and by nothing else. -/
theorem applyEvent_rngState {world next : World} {event : SimEvent}
    (h : applyEvent world event = accept next) :
    (event.data.processed = none -> next.rngState = world.rngState) ∧
      forall (tick : Tick) (state : Option UInt64),
        event.data.processed = some (tick, state) ->
          tick = event.tick ∧ state = some next.rngState := by
  cases hlife : event.data.isLifecycle with
  | true =>
      rw [applyEvent_of_lifecycle hlife h]
      refine ⟨fun _ => rfl, fun tick state hprocessed => ?_⟩
      cases hdata : event.data <;> simp [hdata, EventData.isLifecycle] at hlife <;>
        simp [hdata, EventData.processed] at hprocessed
  | false =>
      have hinterpreted := ((applyEvent_eq_interpreted hlife).mp h).right
      refine ⟨fun hprocessed => ?_, fun _ _ hprocessed => hinterpreted.restores hprocessed⟩
      rw [hinterpreted.kept.rngState hprocessed]
      unfold advanceTo
      split <;> rfl

namespace Replays

variable {world next : World} {events : List SimEvent}

theorem tick_bounds (h : Replays world events next) {event : SimEvent} (hmem : event ∈ events) :
    world.currentTick ≤ event.tick ∧ event.tick ≤ next.currentTick := by
  induction h with
  | nil _ => cases hmem
  | @cons world middle next head rest happly hrest ih =>
      have hfirst := (applyEvent_continues happly).tick_le
      rcases List.mem_cons.mp hmem with hhead | hlater
      · rw [hhead, ← (applyEvent_clock happly).left]
        exact ⟨hfirst, hrest.continues.tick_le⟩
      · exact ⟨UInt64.le_trans hfirst (ih hlater).left, (ih hlater).right⟩

theorem processed_tick (h : Replays world events next) {event : SimEvent}
    (hmem : event ∈ events) {tick : Tick} {state : Option UInt64}
    (hprocessed : event.data.processed = some (tick, state)) : tick = event.tick := by
  induction h with
  | nil _ => cases hmem
  | cons happly _ ih =>
      rcases List.mem_cons.mp hmem with hhead | hlater
      · rw [hhead] at hprocessed ⊢
        exact ((applyEvent_rngState happly).right tick state hprocessed).left
      · exact ih hlater

theorem enters (h : Replays world events next) {tick : Tick} (hafter : world.currentTick < tick)
    (hreached : tick ≤ next.currentTick) :
    exists event : SimEvent, event ∈ events ∧ event.tick = tick := by
  induction h with
  | nil world => exact absurd hafter (UInt64.not_lt.mpr hreached)
  | @cons world middle next head rest happly hrest ih =>
      rcases applyEvent_clock happly with ⟨hmiddle, hclock⟩
      by_cases hlater : middle.currentTick < tick
      · rcases ih hlater hreached with ⟨event, hmem, heq⟩
        exact ⟨event, List.mem_cons_of_mem _ hmem, heq⟩
      · refine ⟨head, List.mem_cons_self, ?_⟩
        rw [hmiddle] at hlater
        have hle : tick.val ≤ head.tick.val := UInt64.not_lt.mp hlater
        rcases hclock with hsame | hnext
        · rw [hsame] at hle
          exact absurd hafter (UInt64.not_lt.mpr hle)
        · -- the tick after the current one is the least that is later
          have hgap := Tick.next_toNat_le world.currentTick
          have hlt : world.currentTick.val.toNat < tick.val.toNat := hafter
          have hnat : tick.val.toNat ≤ head.tick.val.toNat := hle
          rw [hnext] at hnat ⊢
          have heq : world.currentTick.next.val = tick.val :=
            UInt64.toNat_inj.mp (by omega)
          exact congrArg Tick.mk heq

theorem rngState_of_unprocessed (h : Replays world events next)
    (hnone : forall event : SimEvent, event ∈ events -> event.data.processed = none) :
    next.rngState = world.rngState := by
  induction h with
  | nil _ => rfl
  | cons happly _ ih =>
      rw [ih fun event hmem => hnone event (List.mem_cons_of_mem _ hmem)]
      exact (applyEvent_rngState happly).left (hnone _ List.mem_cons_self)

theorem rngState_of_processed (h : Replays world events next) {event : SimEvent}
    (hmem : event ∈ events) {state : Option UInt64}
    (hends : event.data.processed = some (next.currentTick, state)) :
    exists last : SimEvent, last ∈ events ∧
      last.data.processed = some (next.currentTick, some next.rngState) := by
  induction h generalizing event state with
  | nil _ => cases hmem
  | @cons world middle next head rest happly hrest ih =>
      by_cases hlater : exists (later : SimEvent) (state' : Option UInt64), later ∈ rest ∧
          later.data.processed = some (next.currentTick, state')
      · rcases hlater with ⟨later, state', hin, hprocessed⟩
        rcases ih hin hprocessed with ⟨last, hlast, hstate⟩
        exact ⟨last, List.mem_cons_of_mem _ hlast, hstate⟩
      · have hhead : event = head := by
          rcases List.mem_cons.mp hmem with hhead | hin
          · exact hhead
          · exact absurd ⟨event, state, hin, hends⟩ hlater
        rw [hhead] at hends
        rcases (applyEvent_rngState happly).right _ _ hends with ⟨htick, hstate⟩
        have hmiddle : middle.currentTick = next.currentTick :=
          (applyEvent_clock happly).left.trans htick.symm
        have hnone : forall later : SimEvent, later ∈ rest -> later.data.processed = none := by
          intro later hin
          cases hprocessed : later.data.processed with
          | none => rfl
          | some found =>
              exfalso
              rcases found with ⟨tick, state'⟩
              have hbounds := hrest.tick_bounds hin
              rw [hmiddle] at hbounds
              have hlast : tick = next.currentTick :=
                (hrest.processed_tick hin hprocessed).trans
                  (congrArg Tick.mk (UInt64.le_antisymm hbounds.right hbounds.left))
              rw [hlast] at hprocessed
              exact hlater ⟨later, state', hin, hprocessed⟩
        refine ⟨head, List.mem_cons_self, ?_⟩
        rw [hrest.rngState_of_unprocessed hnone, hends, hstate]

end Replays

/-!
## Whole ticks
-/

/-- Every tick that recovery entered was ended, and the generator is as it was left. -/
structure WholeTicks (snapshot : World) (replayed : List SimEvent) (world : World) : Prop where
  processed : forall tick : Tick, snapshot.currentTick < tick -> tick ≤ world.currentTick ->
    exists (event : SimEvent) (state : Option UInt64), event ∈ replayed ∧
      event.data.processed = some (tick, state)
  rngState : snapshot.currentTick < world.currentTick ->
    exists event : SimEvent, event ∈ replayed ∧
      event.data.processed = some (world.currentTick, some world.rngState)

/-- Every tick after `start` of which there is an event is ended by one. -/
def EndsTicks (start : Tick) (events : List SimEvent) : Prop :=
  forall event : SimEvent, event ∈ events -> start < event.tick ->
    exists (last : SimEvent) (state : Option UInt64), last ∈ events ∧
      last.data.processed = some (event.tick, state)

theorem Replays.wholeTicks_iff {snapshot world : World} {replayed : List SimEvent}
    (h : Replays snapshot replayed world) :
    WholeTicks snapshot replayed world <-> EndsTicks snapshot.currentTick replayed := by
  constructor
  · intro hwhole event hmem hafter
    exact hwhole.processed event.tick hafter (h.tick_bounds hmem).right
  · intro hends
    have hprocessed : forall tick : Tick, snapshot.currentTick < tick ->
        tick ≤ world.currentTick ->
        exists (event : SimEvent) (state : Option UInt64), event ∈ replayed ∧
          event.data.processed = some (tick, state) := by
      intro tick hafter hreached
      rcases h.enters hafter hreached with ⟨event, hmem, htick⟩
      rw [← htick] at hafter ⊢
      exact hends event hmem hafter
    refine ⟨hprocessed, fun hadvanced => ?_⟩
    rcases hprocessed world.currentTick hadvanced (UInt64.le_refl _) with
      ⟨event, state, hmem, hlast⟩
    exact h.rngState_of_processed hmem hlast

section Recovered

variable {E S : Type} [IEventLog E] [IWorldStore S] [SnapshotJson]

/-- Recovery yields no half-processed tick if and only if the log ends every tick after
the snapshot's of which it holds an event after the snapshot's cursor. -/
theorem recovers_wholeTicks_iff {store : S} {eventLog : E} {worldId : String} {bytes : Bytes}
    {snapshot world : World} {events replayed : List SimEvent}
    (hload : IWorldStore.loadSnapshot store worldId = .ok bytes)
    (hdecode : decodeWorld bytes = .ok snapshot)
    (hread : IEventLog.readAllValid eventLog = .ok events)
    (h : loadRecoveredWorld store eventLog worldId = some (.ok (world, replayed))) :
    WholeTicks snapshot replayed world <->
      EndsTicks snapshot.currentTick
        (events.filter fun event => event.eventId > snapshot.worldMeta.lastEventId) := by
  rcases loadRecoveredWorld_eq_ok.mp h with ⟨found, hselect, hreplays⟩
  rcases selectReplay_eq_ok.mp hselect with
    ⟨_, ⟨bytes', hload', hdecode'⟩, _, _, events', hread', _, _, _, hreplayed, _⟩
  cases hload.symm.trans hload'
  cases hdecode.symm.trans hdecode'
  cases hread.symm.trans hread'
  rw [← hreplayed]
  exact hreplays.wholeTicks_iff

end Recovered

/-!
## A log cut in the middle of a tick
-/

theorem recovers_wholeTicks_vale :
    letI := knownSnapshots [valeSnapshot]
    exists (snapshot world : World) (replayed : List SimEvent),
      loadRecoveredWorld valeStore valeLog "world_7" = some (.ok (world, replayed)) ∧
        WholeTicks snapshot replayed world := by
  let _ := knownSnapshots [valeSnapshot]
  have hloads : ((loadRecoveredWorld valeStore valeLog "world_7").bind fun result =>
      result.toOption).isSome = true := by
    decide +kernel
  have hcursor : (decodeWorld (Json.snapshot valeSnapshot)).toOption.map (fun snapshot =>
      (snapshot.currentTick, snapshot.worldMeta.lastEventId)) = some (⟨0⟩, ⟨2⟩) := by
    decide +kernel
  have hload : IWorldStore.loadSnapshot valeStore "world_7" =
      .ok (Json.snapshot valeSnapshot) := by
    decide +kernel
  rcases Option.isSome_iff_exists.mp hloads with ⟨⟨world, replayed⟩, hfound⟩
  rcases Option.bind_eq_some_iff.mp hfound with ⟨result, hrecover, hresult⟩
  cases result with
  | error e => cases hresult
  | ok found =>
      cases hdecode : decodeWorld (Json.snapshot valeSnapshot) with
      | error e =>
          rw [hdecode] at hcursor
          cases hcursor
      | ok snapshot =>
          rw [hdecode] at hcursor
          have hfields := Option.some.inj hcursor
          refine ⟨snapshot, found.1, found.2, hrecover, ?_⟩
          apply (recovers_wholeTicks_iff hload hdecode rfl hrecover).mpr
          rcases Prod.mk.inj hfields with ⟨htick, hlast⟩
          rw [htick, hlast]
          intro event hmem _
          have honly : event = ⟨⟨3⟩, ⟨1⟩, .tickProcessed ⟨1⟩ ⟨1⟩ 0 (some 7)⟩ :=
            List.mem_singleton.mp hmem
          exact ⟨event, some 7, hmem, by rw [honly]; rfl⟩

def oreBatches : List (List SimEvent) :=
  [[SimEvent.new Tick.zero (.worldCreated "world_7" "Vale" ⟨7⟩),
      SimEvent.new Tick.zero (.zoneCreated ZoneId.origin (some "Origin"))],
    [SimEvent.new Tick.zero
      (.entitySpawned ⟨1⟩ .resource WorldPos.origin ⟨none, some 5, none⟩)],
    [SimEvent.new ⟨1⟩ (.resourceDepleted ⟨1⟩ 1 4),
      SimEvent.new ⟨1⟩ (.tickProcessed ⟨1⟩ ⟨1⟩ 1 (some 99))]]

def oreTexts : List (List SimEvent) :=
  let events := numberFrom ⟨1⟩ oreBatches.flatten
  [events.take 2, (events.drop 2).take 1, events.drop 3] ++
    (events.take 4).map fun event => [event]

def oreWorld : World :=
  ({ World.new "Vale" ⟨7⟩ with nextEntityId := 2 }.addEntity
    (Entity.new ⟨1⟩ .resource WorldPos.origin Tick.zero ⟨none, some 5, none⟩)).stampForSave ⟨3⟩

def oreSnapshot : WorldSnapshotDto :=
  WorldSnapshotDto.fromWorld oreWorld

def oreStore : MockWorldStore :=
  (MockWorldStore.new.saveSnapshot "world_7" (Json.snapshot oreSnapshot)).2

def oreLog [Crc32] [BatchJson] : Option FileEventLog := do
  let (_, log) <- FileEventLog.runCalls (oreBatches.map .appendBatch) (FileEventLog.closed none)
  let (_, log) <- log.truncateAfter ⟨4⟩
  return log

/-- The world is at tick `1` with the generator of tick `0`. -/
theorem recovers_halfTick :
    letI := ieeeCrc32
    letI := knownBatches oreTexts
    letI := knownSnapshots [oreSnapshot]
    exists (log : FileEventLog) (snapshot world : World) (replayed : List SimEvent),
      oreLog = some log ∧
        IWorldStore.loadSnapshot oreStore "world_7" = .ok (Json.snapshot oreSnapshot) ∧
        decodeWorld (Json.snapshot oreSnapshot) = .ok snapshot ∧
        loadRecoveredWorld oreStore log "world_7" = some (.ok (world, replayed)) ∧
        world.currentTick = ⟨1⟩ ∧ world.rngState = snapshot.rngState ∧
        ¬ WholeTicks snapshot replayed world := by
  let _ := ieeeCrc32
  let _ := knownBatches oreTexts
  let _ := knownSnapshots [oreSnapshot]
  have hload : IWorldStore.loadSnapshot oreStore "world_7" =
      .ok (Json.snapshot oreSnapshot) := by
    decide +kernel
  have hsnapshot : (decodeWorld (Json.snapshot oreSnapshot)).toOption.map (fun snapshot =>
      (snapshot.currentTick, snapshot.rngState)) = some (⟨0⟩, 7) := by
    decide +kernel
  have hrecovered : (oreLog.bind fun log =>
      (loadRecoveredWorld oreStore log "world_7").bind fun result => result.toOption).map
        (fun found => (found.1.currentTick, found.1.rngState,
          found.2.map fun event => event.data.processed)) = some (⟨1⟩, 7, [none]) := by
    decide +kernel
  rcases Option.map_eq_some_iff.mp hsnapshot with ⟨snapshot, hdecode, hbefore⟩
  rcases Option.map_eq_some_iff.mp hrecovered with ⟨⟨world, replayed⟩, hfound, hafter⟩
  rcases Option.bind_eq_some_iff.mp hfound with ⟨log, hlog, hresult⟩
  rcases Option.bind_eq_some_iff.mp hresult with ⟨result, hrecover, hok⟩
  simp only [Prod.mk.injEq] at hbefore hafter
  rcases hafter with ⟨htick, hrng, hunprocessed⟩
  cases result with
  | error e => cases hok
  | ok found =>
      cases hok
      refine ⟨log, snapshot, world, replayed, hlog, hload, ?_, hrecover, htick, ?_, ?_⟩
      · cases hworld : decodeWorld (Json.snapshot oreSnapshot) with
        | error e =>
            rw [hworld] at hdecode
            cases hdecode
        | ok decoded =>
            rw [hworld] at hdecode
            rw [Option.some.inj hdecode]
      · rw [hrng, hbefore.right]
      · intro hwhole
        have hentered : snapshot.currentTick < world.currentTick := by
          rw [hbefore.left, htick]
          decide
        rcases hwhole.processed world.currentTick hentered (UInt64.le_refl _) with
          ⟨event, state, hmem, hprocessed⟩
        have hnone : event.data.processed ∈ [none] := by
          rw [← hunprocessed]
          exact List.mem_map_of_mem hmem
        rw [hprocessed, List.mem_singleton] at hnone
        cases hnone

end Seej
