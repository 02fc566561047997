import Seej.EventIds
import Seej.Mocks
import Seej.ReplayRun
import Seej.SnapshotLemmas

/-!
# What recovery accepts

Recovery succeeds only on a log numbered `1..n` without gaps whose announced and
durable ends agree, and then replays exactly the suffix after the snapshot
cursor.  The last of the cursor checks follows from the earlier ones.
-/

namespace Seej

open Foundation

/-!
## Cursor checks
-/

theorem validateWalPrefixIsContiguous_eq_ok {events : List SimEvent} :
    validateWalPrefixIsContiguous events = .ok () <-> NumberedFrom ⟨1⟩ events := by
  unfold validateWalPrefixIsContiguous
  rw [bind_eq_ok]
  constructor
  · intro h
    rcases h with ⟨final, hloop, _⟩
    exact (expectEventIds_eq_ok.mp hloop).left
  · intro h
    exact ⟨_, expectEventIds_eq_ok.mpr ⟨h, rfl⟩, rfl⟩

theorem validateReplayCoversWalTail_eq_ok {cursor walLast : EventId}
    {replayed : List SimEvent} :
    validateReplayCoversWalTail cursor walLast replayed = .ok () <->
      NumberedFrom cursor.next replayed ∧
        cursor.next.skip replayed.length = walLast.next := by
  unfold validateReplayCoversWalTail
  rw [bind_eq_ok]
  constructor
  · intro h
    rcases h with ⟨final, hloop, hensure⟩
    rcases expectEventIds_eq_ok.mp hloop with ⟨hnumbered, hfinal⟩
    rw [ensure_eq_ok] at hensure
    exact ⟨hnumbered, hfinal.symm.trans hensure⟩
  · intro h
    exact ⟨_, expectEventIds_eq_ok.mpr ⟨h.left, rfl⟩, ensure_eq_ok.mpr h.right⟩

theorem replayed_eq_drop {events : List SimEvent} {cursor : EventId}
    (hnumbered : NumberedFrom ⟨1⟩ events) (hlen : events.length + 1 < 2 ^ 64) :
    events.filter (fun event => event.eventId > cursor) = events.drop cursor.val.toNat := by
  have hone : ((⟨1⟩ : EventId)).val.toNat = 1 := rfl
  rw [hnumbered.filter_gt (by rw [hone]; omega) (by rw [hone]; omega), hone,
    Nat.add_sub_cancel]

theorem EventId.one_skip {cursor : EventId} {n : Nat} (h : cursor.val.toNat = n)
    (hn : n + 1 < 2 ^ 64) : (⟨1⟩ : EventId).skip n = cursor.next := by
  have hone : ((⟨1⟩ : EventId)).val.toNat = 1 := rfl
  apply EventId.eq_of_toNat
  rw [EventId.skip_toNat (by rw [hone]; omega),
    EventId.next_toNat (EventId.ne_max (by rw [h]; exact hn)), hone, h, Nat.add_comm]

/-- Contiguity and coverage leave the last check nothing to find. -/
theorem validateReplayCoversWalTail_of_checks {events : List SimEvent} {cursor : EventId}
    (hnumbered : NumberedFrom ⟨1⟩ events) (hlen : events.length + 1 < 2 ^ 64)
    (hcovers : cursor.val.toNat ≤ events.length) :
    validateReplayCoversWalTail cursor (durableLastEventId events)
      (events.filter (fun event => event.eventId > cursor)) = .ok () := by
  rw [validateReplayCoversWalTail_eq_ok, replayed_eq_drop hnumbered hlen]
  have hsplit : events.take cursor.val.toNat ++ events.drop cursor.val.toNat = events :=
    List.take_append_drop _ _
  have htake : (events.take cursor.val.toNat).length = cursor.val.toNat := by
    rw [List.length_take, Nat.min_eq_left hcovers]
  have hstart : (⟨1⟩ : EventId).skip cursor.val.toNat = cursor.next :=
    EventId.one_skip rfl (by omega)
  constructor
  · rw [← hsplit, NumberedFrom.append_iff, htake, hstart] at hnumbered
    exact hnumbered.right
  · rw [← hstart, ← EventId.skip_add, List.length_drop, Nat.add_sub_cancel' hcovers]
    exact EventId.one_skip (hnumbered.durableLast hlen) hlen

theorem covers_iff {events : List SimEvent} {cursor : EventId}
    (hnumbered : NumberedFrom ⟨1⟩ events) (hlen : events.length + 1 < 2 ^ 64) :
    validateWalCoversSnapshot cursor (durableLastEventId events) = .ok () <->
      cursor.val.toNat ≤ events.length := by
  rw [validateWalCoversSnapshot, ensure_eq_ok, ← hnumbered.durableLast hlen]
  exact UInt64.not_lt.trans UInt64.le_iff_toNat_le

/-!
## Mirrored metadata
-/

/-- A mirror strictly behind in its event cursor and ahead in no cursor. -/
structure StaleMirror (snapshotMeta fileMeta : WorldMeta) : Prop where
  worldId : snapshotMeta.worldId = fileMeta.worldId
  seed : snapshotMeta.seed = fileMeta.seed
  formatVersion : snapshotMeta.formatVersion = fileMeta.formatVersion
  createdTick : snapshotMeta.createdTick = fileMeta.createdTick
  lastEventId : fileMeta.lastEventId < snapshotMeta.lastEventId
  snapshotTick : fileMeta.snapshotTick ≤ snapshotMeta.snapshotTick
  currentTick : fileMeta.currentTick ≤ snapshotMeta.currentTick
  simTime : fileMeta.simTime ≤ snapshotMeta.simTime

theorem isStaleMeta_iff {snapshotMeta fileMeta : WorldMeta} :
    isStaleMetaFromInterruptedSave snapshotMeta fileMeta = true <->
      StaleMirror snapshotMeta fileMeta := by
  rw [isStaleMetaFromInterruptedSave, decide_eq_true_iff]
  constructor
  · intro h
    rcases h with ⟨h1, h2, h3, h4, h5, h6, h7, h8⟩
    exact ⟨h1, h2, h3, h4, h5, h6, h7, h8⟩
  · intro h
    exact ⟨h.worldId, h.seed, h.formatVersion, h.createdTick, h.lastEventId, h.snapshotTick,
      h.currentTick, h.simTime⟩

theorem validateRecoveredMetaMirror_eq_ok {snapshotMeta fileMeta : WorldMeta} :
    validateRecoveredMetaMirror snapshotMeta fileMeta = .ok () <->
      snapshotMeta = fileMeta ∨ StaleMirror snapshotMeta fileMeta := by
  unfold validateRecoveredMetaMirror
  rw [← isStaleMeta_iff]
  by_cases hsame : snapshotMeta = fileMeta
  · simp [hsame]
  · by_cases hstale : isStaleMetaFromInterruptedSave snapshotMeta fileMeta = true
    · simp [hsame, hstale]
    · simp [hsame, hstale]

section Recovery

variable {E S : Type} [IEventLog E] [IWorldStore S] [SnapshotJson]

def MirrorAccepted (store : S) (worldId : String) (snapshotMeta : WorldMeta) : Prop :=
  (exists missing : String, IWorldStore.loadMeta store worldId = .error (.notFound missing)) ∨
    exists fileMeta : WorldMeta, IWorldStore.loadMeta store worldId = .ok fileMeta ∧
      (snapshotMeta = fileMeta ∨ StaleMirror snapshotMeta fileMeta)

omit [SnapshotJson] in
theorem checkRecoveredMeta_eq_ok {store : S} {worldId : String} {world : World} :
    checkRecoveredMeta store worldId world = .ok () <->
      MirrorAccepted store worldId world.worldMeta := by
  unfold checkRecoveredMeta MirrorAccepted
  cases hmeta : IWorldStore.loadMeta store worldId with
  | ok fileMeta => simp [validateRecoveredMetaMirror_eq_ok]
  | error err => cases err <;> simp [isMissingMetaError]

/-!
## Selection and replay
-/

theorem selectReplay_eq_ok {store : S} {eventLog : E} {worldId : String} {world : World}
    {replayed : List SimEvent} :
    selectReplay store eventLog worldId = .ok (world, replayed) <->
      validateWorldIdResult worldId = .ok () ∧
      (exists bytes : Bytes, IWorldStore.loadSnapshot store worldId = .ok bytes ∧
        decodeWorld bytes = .ok world) ∧
      world.id = worldId ∧ MirrorAccepted store worldId world.worldMeta ∧
      exists events : List SimEvent, IEventLog.readAllValid eventLog = .ok events ∧
        IEventLog.lastEventId eventLog = durableLastEventId events ∧
        NumberedFrom ⟨1⟩ events ∧
        validateWalCoversSnapshot world.worldMeta.lastEventId (durableLastEventId events) =
          .ok () ∧
        replayed = events.filter (fun event => event.eventId > world.worldMeta.lastEventId) ∧
        validateReplayCoversWalTail world.worldMeta.lastEventId (durableLastEventId events)
          replayed = .ok () := by
  unfold selectReplay
  simp only [bind_eq_ok, exists_unit, pure, Except.pure, Except.ok.injEq, Prod.mk.injEq,
    validateSnapshotWorldId, validateWalCursorMatchesDurableTail, ensure_eq_ok,
    checkRecoveredMeta_eq_ok, validateWalPrefixIsContiguous_eq_ok]
  constructor
  · rintro ⟨hid, bytes, hload, found, hdecode, hworldId, hmirror, events, hread, htail,
      hnumbered, hcovers, hlast, hworld, hreplayed⟩
    subst hworld
    subst hreplayed
    exact ⟨hid, ⟨bytes, hload, hdecode⟩, hworldId, hmirror, events, hread, htail, hnumbered,
      hcovers, rfl, hlast⟩
  · rintro ⟨hid, ⟨bytes, hload, hdecode⟩, hworldId, hmirror, events, hread, htail, hnumbered,
      hcovers, hreplayed, hlast⟩
    subst hreplayed
    exact ⟨hid, bytes, hload, world, hdecode, hworldId, hmirror, events, hread, htail,
      hnumbered, hcovers, hlast, rfl, rfl⟩

theorem loadRecoveredWorld_eq_ok {store : S} {eventLog : E} {worldId : String}
    {world : World} {replayed : List SimEvent} :
    loadRecoveredWorld store eventLog worldId = some (.ok (world, replayed)) <->
      exists snapshot : World, selectReplay store eventLog worldId = .ok (snapshot, replayed) ∧
        Replays snapshot replayed world := by
  unfold loadRecoveredWorld
  cases hselect : selectReplay store eventLog worldId with
  | error e => simp
  | ok selected =>
      rcases selected with ⟨snapshot, events⟩
      simp only [Except.ok.injEq, Prod.mk.injEq]
      constructor
      · intro h
        cases hreplay : replayEvents snapshot events with
        | none => simp [hreplay] at h
        | some outcome =>
            rcases outcome with ⟨result, final⟩
            cases result with
            | error e => simp [hreplay] at h
            | ok n =>
                simp only [hreplay, Option.some.injEq, Except.ok.injEq, Prod.mk.injEq] at h
                rcases h with ⟨hworld, hevents⟩
                rw [← hworld, ← hevents]
                exact ⟨snapshot, ⟨rfl, rfl⟩, (replayEvents_eq_ok.mp hreplay).right⟩
      · rintro ⟨found, ⟨hfound, hevents⟩, hreplays⟩
        rw [hfound, hevents, replayEvents_eq_ok.mpr ⟨rfl, hreplays⟩]

end Recovery

end Seej
