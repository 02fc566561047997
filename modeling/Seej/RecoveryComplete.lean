import Seej.Json
import Seej.Mocks
import Seej.Recovery

/-!
# Recovery accepts only complete histories

Any store content and any log may be given to recovery.  If it returns a world,
the log was numbered `1..n` up to its announced end, the snapshot cursor was
inside it, and the world is the snapshot with exactly the missing suffix applied.
-/

namespace Seej

open Foundation

section Complete

variable {E S : Type} [IEventLog E] [IWorldStore S] [SnapshotJson]

def SimEvent.number (event : SimEvent) : Nat :=
  event.eventId.val.toNat

/-- What stands behind a recovered world: the snapshot, the log and the mirror. -/
structure RecoveredFrom (store : S) (eventLog : E) (worldId : String) (snapshot : World)
    (events : List SimEvent) (world : World) (replayed : List SimEvent) : Prop where
  snapshot_decoded : exists bytes : Bytes,
    IWorldStore.loadSnapshot store worldId = .ok bytes ∧ decodeWorld bytes = .ok snapshot
  log_read : IEventLog.readAllValid eventLog = .ok events
  log_numbered : events.map SimEvent.number = List.range' 1 events.length
  log_announced : (IEventLog.lastEventId eventLog).val.toNat = events.length
  cursor_le : snapshot.worldMeta.lastEventId.val.toNat ≤ events.length
  suffix : replayed = events.drop snapshot.worldMeta.lastEventId.val.toNat
  suffix_numbered : replayed.map SimEvent.number =
    List.range' (snapshot.worldMeta.lastEventId.val.toNat + 1)
      (events.length - snapshot.worldMeta.lastEventId.val.toNat)
  applied : replayEvents snapshot replayed = some (.ok replayed.length, world)
  mirror : MirrorAccepted store worldId snapshot.worldMeta

theorem recoveredFrom_of_ok {store : S} {eventLog : E} {worldId : String} {world : World}
    {replayed : List SimEvent}
    (hsize : forall events : List SimEvent,
      IEventLog.readAllValid eventLog = .ok events -> events.length + 1 < 2 ^ 64)
    (h : loadRecoveredWorld store eventLog worldId = some (.ok (world, replayed))) :
    exists (snapshot : World) (events : List SimEvent),
      RecoveredFrom store eventLog worldId snapshot events world replayed := by
  rcases loadRecoveredWorld_eq_ok.mp h with ⟨snapshot, hselect, hreplays⟩
  rcases selectReplay_eq_ok.mp hselect with
    ⟨_, hsnapshot, _, hmirror, events, hread, htail, hnumbered, hcovers, hreplayed, _⟩
  have hlen := hsize events hread
  have hone : ((⟨1⟩ : EventId)).val.toNat = 1 := rfl
  have hnumbers := hnumbered.toNat_eq (by rw [hone]; omega)
  have hle := (covers_iff hnumbered hlen).mp hcovers
  have hdrop := hreplayed.trans (replayed_eq_drop hnumbered hlen)
  refine ⟨snapshot, events, ?_⟩
  constructor
  case snapshot_decoded => exact hsnapshot
  case log_read => exact hread
  case log_numbered => exact hnumbers
  case log_announced =>
    rw [htail]
    exact hnumbered.durableLast hlen
  case cursor_le => exact hle
  case suffix => exact hdrop
  case suffix_numbered =>
    rw [hdrop, List.map_drop]
    change List.drop _ (events.map (fun event => event.eventId.val.toNat)) = _
    rw [hnumbers, hone, List.drop_range', Nat.mul_one, Nat.add_comm 1]
  case applied => exact replayEvents_eq_ok.mpr ⟨rfl, hreplays⟩
  case mirror => exact hmirror

/-- Recovery returns a world only from a complete, gap-free history, and the last
of its cursor checks cannot fail once the earlier ones passed. -/
theorem loadRecoveredWorld_complete (store : S) (eventLog : E) (worldId : String)
    (hsize : forall events : List SimEvent,
      IEventLog.readAllValid eventLog = .ok events -> events.length + 1 < 2 ^ 64) :
    (forall (world : World) (replayed : List SimEvent),
      loadRecoveredWorld store eventLog worldId = some (.ok (world, replayed)) ->
        exists (snapshot : World) (events : List SimEvent),
          RecoveredFrom store eventLog worldId snapshot events world replayed) ∧
    (forall (events : List SimEvent) (announced cursor : EventId),
      events.length + 1 < 2 ^ 64 ->
      validateWalCursorMatchesDurableTail announced (durableLastEventId events) = .ok () ->
      validateWalPrefixIsContiguous events = .ok () ->
      validateWalCoversSnapshot cursor (durableLastEventId events) = .ok () ->
        validateReplayCoversWalTail cursor (durableLastEventId events)
          (events.filter (fun event => event.eventId > cursor)) = .ok ()) := by
  constructor
  · intro world replayed h
    exact recoveredFrom_of_ok hsize h
  · intro events announced cursor hlen _ hcontiguous hcovers
    have hnumbered := validateWalPrefixIsContiguous_eq_ok.mp hcontiguous
    exact validateReplayCoversWalTail_of_checks hnumbered hlen
      ((covers_iff hnumbered hlen).mp hcovers)

end Complete

def valeLog : MockEventLog :=
  { events :=
      [⟨⟨1⟩, ⟨0⟩, .worldCreated "world_7" "Vale" ⟨7⟩⟩,
        ⟨⟨2⟩, ⟨0⟩, .zoneCreated ZoneId.origin (some "Origin")⟩,
        ⟨⟨3⟩, ⟨1⟩, .tickProcessed ⟨1⟩ ⟨1⟩ 0 (some 7)⟩]
    nextEventId := 4 }

def valeSnapshot : WorldSnapshotDto :=
  WorldSnapshotDto.fromWorld ((World.new "Vale" ⟨7⟩).stampForSave ⟨2⟩)

def valeStore : MockWorldStore :=
  (MockWorldStore.new.saveSnapshot "world_7" (Json.snapshot valeSnapshot)).2

theorem loadRecoveredWorld_complete_vale :
    letI := knownSnapshots [valeSnapshot]
    exists (world snapshot : World) (events replayed : List SimEvent),
      RecoveredFrom valeStore valeLog "world_7" snapshot events world replayed := by
  let _ := knownSnapshots [valeSnapshot]
  have hloads : ((loadRecoveredWorld valeStore valeLog "world_7").bind fun result =>
      result.toOption).isSome = true := by
    decide +kernel
  rcases Option.isSome_iff_exists.mp hloads with ⟨⟨world, replayed⟩, hfound⟩
  rcases Option.bind_eq_some_iff.mp hfound with ⟨result, hload, hresult⟩
  cases result with
  | error e => cases hresult
  | ok found =>
      have hsize : forall events : List SimEvent,
          IEventLog.readAllValid valeLog = .ok events -> events.length + 1 < 2 ^ 64 := by
        intro events hread
        cases hread
        decide
      rcases (loadRecoveredWorld_complete valeStore valeLog "world_7" hsize).left _ _ hload with
        ⟨snapshot, events, hrecovered⟩
      exact ⟨_, snapshot, events, _, hrecovered⟩

end Seej
