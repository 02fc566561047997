import Seej.LiveReplay
import Seej.Recovery
import Seej.ReplaySafety
import Seej.RuntimeRun

/-!
# Checkpoints in the store

What saves leave behind.  A snapshot is the world after the first `n` events of
the journal with the cursor at `n`, and the mirrored metadata are those of an
earlier or of the same checkpoint.  Recovery accepts every such store and returns
the world after the whole journal, whatever the cursors are.
-/

namespace Seej

open Foundation

/-!
## Stores that replace as a whole
-/

/-- Saving a snapshot or the metadata of a world replaces that one document or
nothing, also when it fails, and the snapshot is there when it succeeds. -/
class AtomicWorldStore (S : Type) [IWorldStore S] : Prop where
  saveSnapshot_ok : forall (store next : S) (worldId : String) (snapshot : Bytes),
    IWorldStore.saveSnapshot store worldId snapshot = (.ok (), next) ->
      IWorldStore.loadSnapshot next worldId = .ok snapshot
  saveSnapshot_atomic : forall (store next : S) (worldId : String) (snapshot : Bytes)
    (result : SimResult Unit),
    IWorldStore.saveSnapshot store worldId snapshot = (result, next) ->
      IWorldStore.loadSnapshot next worldId = .ok snapshot ∨
        IWorldStore.loadSnapshot next worldId = IWorldStore.loadSnapshot store worldId
  saveSnapshot_other : forall (store next : S) (worldId : String) (snapshot : Bytes)
    (result : SimResult Unit),
    IWorldStore.saveSnapshot store worldId snapshot = (result, next) ->
      (forall other : String, other ≠ worldId ->
        IWorldStore.loadSnapshot next other = IWorldStore.loadSnapshot store other) ∧
      forall other : String, IWorldStore.loadMeta next other = IWorldStore.loadMeta store other
  saveMeta_atomic : forall (store next : S) (worldMeta : WorldMeta) (result : SimResult Unit),
    IWorldStore.saveMeta store worldMeta = (result, next) ->
      IWorldStore.loadMeta next worldMeta.worldId = .ok worldMeta ∨
        IWorldStore.loadMeta next worldMeta.worldId =
          IWorldStore.loadMeta store worldMeta.worldId
  saveMeta_other : forall (store next : S) (worldMeta : WorldMeta) (result : SimResult Unit),
    IWorldStore.saveMeta store worldMeta = (result, next) ->
      forall other : String,
        IWorldStore.loadSnapshot next other = IWorldStore.loadSnapshot store other

structure EmptyStore {S : Type} [IWorldStore S] (store : S) : Prop where
  snapshot : forall (worldId : String) (snapshot : Bytes),
    IWorldStore.loadSnapshot store worldId ≠ .ok snapshot
  worldMeta : forall worldId : String, validateWorldIdResult worldId = .ok () ->
    exists missing : String, IWorldStore.loadMeta store worldId = .error (.notFound missing)

instance : AtomicWorldStore MockWorldStore where
  saveSnapshot_ok := by
    intro store next worldId snapshot h
    cases h
    change (match (store.snapshots.insert worldId snapshot)[worldId]? with
      | some found => Except.ok found
      | none => .error (SimError.notFound worldId)) = _
    rw [BTreeMap.getElem?_insert, if_pos rfl]
  saveSnapshot_atomic := by
    intro store next worldId snapshot result h
    cases h
    left
    change (match (store.snapshots.insert worldId snapshot)[worldId]? with
      | some found => Except.ok found
      | none => .error (SimError.notFound worldId)) = _
    rw [BTreeMap.getElem?_insert, if_pos rfl]
  saveSnapshot_other := by
    intro store next worldId snapshot result h
    cases h
    refine ⟨fun other hother => ?_, fun _ => rfl⟩
    change (match (store.snapshots.insert worldId snapshot)[other]? with
      | some found => Except.ok found
      | none => .error (SimError.notFound other)) = _
    rw [BTreeMap.getElem?_insert, if_neg hother.symm]
    rfl
  saveMeta_atomic := by
    intro store next worldMeta result h
    cases h
    left
    change (match (store.metas.insert worldMeta.worldId worldMeta)[worldMeta.worldId]? with
      | some found => Except.ok found
      | none => .error (SimError.notFound worldMeta.worldId)) = _
    rw [BTreeMap.getElem?_insert, if_pos rfl]
  saveMeta_other := by
    intro store next worldMeta result h
    cases h
    exact fun _ => rfl

theorem MockWorldStore.new_empty : EmptyStore MockWorldStore.new := by
  constructor
  · intro worldId snapshot h
    simp [IWorldStore.loadSnapshot, MockWorldStore.loadSnapshot, MockWorldStore.new] at h
  · intro worldId _
    refine ⟨worldId, ?_⟩
    simp [IWorldStore.loadMeta, MockWorldStore.loadMeta, MockWorldStore.new]

/-!
## The world after some events
-/

theorem EventId.ofNat_toNat {n : Nat} (h : n + 1 < 2 ^ 64) :
    (⟨UInt64.ofNat n⟩ : EventId).val.toNat = n :=
  UInt64.toNat_ofNat_of_lt' (Nat.lt_of_succ_lt h)

theorem WorldIntegrity.withCursor {world : World} (h : WorldIntegrity world) (s : Tick)
    (i : EventId) : WorldIntegrity (world.withCursor s i) :=
  ⟨h.entity_key, h.entity_valid, h.entity_below, h.next_valid, h.zone_key, h.entity_zone,
    h.zone_nodup, h.zone_index, h.sim_time, h.meta_tick, h.meta_time⟩

/-- The world as a save writes it when the log has `n` events. -/
def World.savedAt (world : World) (n : Nat) : World :=
  world.withCursor world.currentTick ⟨UInt64.ofNat n⟩

/-- What a save writes depends on the world up to its cursor. -/
theorem stampForSave_eq_savedAt {world : World} (h : WorldIntegrity world) {s : Tick}
    {i cursor : EventId} {n : Nat} (hcursor : cursor = ⟨UInt64.ofNat n⟩) :
    (world.withCursor s i).stampForSave cursor = world.savedAt n := by
  rcases world with ⟨⟨_, _, _, tick, time, _, _, _, _⟩, currentTick, simTime, _, _, _, _⟩
  have htick : tick = currentTick := h.meta_tick
  have htime : time = simTime := h.meta_time
  rw [hcursor, htick, htime]
  rfl

/-- A coherent world after the first `n` events of the journal. -/
structure Reaches (first : World) (journal : List SimEvent) (n : Nat) (world : World) :
    Prop where
  le : n ≤ journal.length
  replays : Replays first (journal.take n) world
  integrity : WorldIntegrity world

namespace Reaches

variable {first world : World} {journal : List SimEvent} {n : Nat}

theorem append (h : Reaches first journal n world) (more : List SimEvent) :
    Reaches first (journal ++ more) n world := by
  refine ⟨?_, ?_, h.integrity⟩
  · rw [List.length_append]
    exact Nat.le_add_right_of_le h.le
  · rw [List.take_append_of_le_length h.le]
    exact h.replays

theorem between {later : World} {m : Nat} (h : Reaches first journal n world)
    (hlater : Reaches first journal m later) (hle : n ≤ m) :
    Replays world ((journal.take m).drop n) later := by
  have hsplit : journal.take m = journal.take n ++ (journal.take m).drop n := by
    have htake : (journal.take m).take n = journal.take n := by
      rw [List.take_take, Nat.min_eq_left hle]
    rw [← htake, List.take_append_drop]
  have hreplays := hlater.replays
  rw [hsplit] at hreplays
  rcases hreplays.append_inv with ⟨middle, hleft, hright⟩
  rw [h.replays.unique hleft]
  exact hright

theorem unique {other : World} (h : Reaches first journal n world)
    (hother : Reaches first journal n other) : world = other :=
  h.replays.unique hother.replays

theorem identity (h : Reaches first journal n world) :
    world.worldMeta.identity = first.worldMeta.identity :=
  h.replays.continues.identity

theorem worldId (h : Reaches first journal n world) : world.id = first.id :=
  (congrArg WorldMeta.worldId h.identity :)

theorem format (h : Reaches first journal n world) :
    world.worldMeta.formatVersion = first.worldMeta.formatVersion :=
  (congrArg WorldMeta.formatVersion h.identity :)

theorem savable (h : Reaches first journal n world)
    (hformat : first.worldMeta.formatVersion = WorldMeta.currentFormatVersion) :
    Savable (world.savedAt n) :=
  ⟨h.format.trans hformat, rfl, h.integrity.withCursor _ _⟩

end Reaches

/-!
## Documents of a world
-/

section Stored

variable {S : Type} [IWorldStore S]

/-- The metadata in the store are missing, or those of a checkpoint up to `n`. -/
inductive Mirrors (store : S) (first : World) (journal : List SimEvent) (n : Nat) : Prop where
  | missing {text : String}
      (hmeta : IWorldStore.loadMeta store first.id = .error (.notFound text))
  | saved {k : Nat} {world : World} (hle : k ≤ n) (hreaches : Reaches first journal k world)
      (hmeta : IWorldStore.loadMeta store first.id = .ok (world.savedAt k).worldMeta)

/-- The metadata of a checkpoint are accepted next to the snapshot of a later one. -/
theorem Reaches.mirror {first world later : World} {journal : List SimEvent} {k n : Nat}
    (h : Reaches first journal k world) (hlater : Reaches first journal n later) (hle : k ≤ n)
    (hlt : n + 1 < 2 ^ 64) :
    (later.savedAt n).worldMeta = (world.savedAt k).worldMeta ∨
      StaleMirror (later.savedAt n).worldMeta (world.savedAt k).worldMeta := by
  rcases Nat.lt_or_eq_of_le hle with hless | heq
  · right
    have hcontinues := (h.between hlater hle).continues
    have hidentity := hcontinues.identity
    constructor
    case worldId => exact (congrArg WorldMeta.worldId hidentity :)
    case seed => exact (congrArg WorldMeta.seed hidentity :)
    case formatVersion => exact (congrArg WorldMeta.formatVersion hidentity :)
    case createdTick => exact (congrArg WorldMeta.createdTick hidentity :)
    case lastEventId =>
      show UInt64.ofNat k < UInt64.ofNat n
      rw [UInt64.lt_iff_toNat_lt]
      show (EventId.mk (UInt64.ofNat k)).val.toNat < (EventId.mk (UInt64.ofNat n)).val.toNat
      rw [EventId.ofNat_toNat (by omega), EventId.ofNat_toNat hlt]
      exact hless
    case snapshotTick => exact hcontinues.tick_le
    case currentTick =>
      show world.worldMeta.currentTick ≤ later.worldMeta.currentTick
      rw [h.integrity.meta_tick, hlater.integrity.meta_tick]
      exact hcontinues.tick_le
    case simTime =>
      show world.worldMeta.simTime ≤ later.worldMeta.simTime
      rw [h.integrity.meta_time, hlater.integrity.meta_time, h.integrity.sim_time,
        hlater.integrity.sim_time]
      exact hcontinues.tick_le
  · left
    subst heq
    rw [h.unique hlater]

variable [SnapshotJson]

/-- The snapshot of the world after `n` events, under its identifier only, and a
mirror that is not ahead of it. -/
structure SavedAt (store : S) (first : World) (journal : List SimEvent) (n : Nat)
    (world : World) : Prop where
  reaches : Reaches first journal n world
  snapshot : exists bytes : Bytes, IWorldStore.loadSnapshot store first.id = .ok bytes ∧
    decodeWorld bytes = .ok (world.savedAt n)
  mirror : Mirrors store first journal n
  other : forall (worldId : String) (bytes : Bytes),
    IWorldStore.loadSnapshot store worldId = .ok bytes -> worldId = first.id

/-- What saves leave in the store: nothing or a checkpoint. -/
inductive Stored (store : S) (first : World) (journal : List SimEvent) : Prop where
  | nothing (hempty : EmptyStore store)
  | saved {n : Nat} {world : World} (h : SavedAt store first journal n world)

omit [SnapshotJson] in
theorem Mirrors.append {store : S} {first : World} {journal : List SimEvent} {n : Nat}
    (h : Mirrors store first journal n) (more : List SimEvent) :
    Mirrors store first (journal ++ more) n := by
  cases h with
  | missing hmeta => exact Mirrors.missing hmeta
  | saved hle hreaches hmeta => exact Mirrors.saved hle (hreaches.append more) hmeta

theorem Stored.append {store : S} {first : World} {journal : List SimEvent}
    (h : Stored store first journal) (more : List SimEvent) :
    Stored store first (journal ++ more) := by
  cases h with
  | nothing hempty => exact Stored.nothing hempty
  | saved hsaved =>
      exact Stored.saved ⟨hsaved.reaches.append more, hsaved.snapshot,
        hsaved.mirror.append more, hsaved.other⟩

/-!
## Recovery
-/

structure Lists {E : Type} [IEventLog E] (eventLog : E) (journal : List SimEvent) : Prop where
  read : IEventLog.readAllValid eventLog = .ok journal
  announced : IEventLog.lastEventId eventLog = durableLastEventId journal
  numbered : NumberedFrom ⟨1⟩ journal
  length_lt : journal.length + 1 < 2 ^ 64

variable {E : Type} [IEventLog E] {store : S} {eventLog : E} {first world snapshot : World}
  {journal : List SimEvent} {n : Nat}

omit [SnapshotJson] in
theorem Lists.lastEventId (h : Lists eventLog journal) :
    IEventLog.lastEventId eventLog = ⟨UInt64.ofNat journal.length⟩ := by
  rw [h.announced]
  apply EventId.eq_of_toNat
  rw [h.numbered.durableLast h.length_lt]
  exact (EventId.ofNat_toNat h.length_lt).symm

theorem SavedAt.accepted (h : SavedAt store first journal n snapshot)
    (hlt : n + 1 < 2 ^ 64) :
    MirrorAccepted store first.id (snapshot.savedAt n).worldMeta := by
  cases h.mirror with
  | missing hmeta => exact Or.inl ⟨_, hmeta⟩
  | saved hle hreaches hmeta =>
      exact Or.inr ⟨_, hmeta, hreaches.mirror h.reaches hle hlt⟩

/-- Recovery finds the checkpoint and replays what the journal has after it. -/
theorem SavedAt.recovers (h : SavedAt store first journal n snapshot)
    (hid : validateWorldIdResult first.id = .ok ()) (hlog : Lists eventLog journal)
    (hworld : Reaches first journal journal.length world) :
    loadRecoveredWorld store eventLog first.id =
      some (.ok (world.withCursor snapshot.currentTick ⟨UInt64.ofNat n⟩, journal.drop n)) := by
  have hlt := hlog.length_lt
  have hle := h.reaches.le
  let cursor : EventId := ⟨UInt64.ofNat n⟩
  have hcursor : cursor.val.toNat = n := EventId.ofNat_toNat (by omega)
  have hcovered : cursor.val.toNat ≤ journal.length := by
    rw [hcursor]
    exact hle
  have hdrop : journal.filter (fun event => event.eventId > cursor) =
      journal.drop cursor.val.toNat := replayed_eq_drop hlog.numbered hlt
  rw [hcursor] at hdrop
  apply loadRecoveredWorld_eq_ok.mpr
  refine ⟨snapshot.savedAt n, ?_, ?_⟩
  · apply selectReplay_eq_ok.mpr
    refine ⟨hid, h.snapshot, h.reaches.worldId, h.accepted (by omega), journal, hlog.read,
      hlog.announced, hlog.numbered, ?_, hdrop.symm, ?_⟩
    · show validateWalCoversSnapshot cursor _ = .ok ()
      exact (covers_iff hlog.numbered hlt).mpr hcovered
    · rw [← hdrop]
      exact validateReplayCoversWalTail_of_checks hlog.numbered hlt hcovered
  · have hrest := h.reaches.between hworld hle
    rw [List.take_length] at hrest
    exact hrest.withCursor snapshot.currentTick cursor

/-!
## Saves
-/

variable [SnapshotJson.Lossless] [AtomicWorldStore S]

omit [SnapshotJson] [SnapshotJson.Lossless] [AtomicWorldStore S] in
theorem Mirrors.transfer {next : S} {m : Nat} (h : Mirrors store first journal n) (hle : n ≤ m)
    (hmeta : forall worldId : String,
      IWorldStore.loadMeta next worldId = IWorldStore.loadMeta store worldId) :
    Mirrors next first journal m := by
  cases h with
  | missing hfound => exact Mirrors.missing ((hmeta _).trans hfound)
  | saved hk hreaches hfound =>
      exact Mirrors.saved (Nat.le_trans hk hle) hreaches ((hmeta _).trans hfound)

omit [SnapshotJson.Lossless] [AtomicWorldStore S] in
theorem Stored.mirrors (h : Stored store first journal)
    (hid : validateWorldIdResult first.id = .ok ()) :
    Mirrors store first journal journal.length := by
  cases h with
  | nothing hempty =>
      rcases hempty.worldMeta first.id hid with ⟨_, hmissing⟩
      exact Mirrors.missing hmissing
  | saved hsaved => exact hsaved.mirror.transfer hsaved.reaches.le fun _ => rfl

omit [SnapshotJson.Lossless] [AtomicWorldStore S] in
theorem Stored.other (h : Stored store first journal) (worldId : String) (bytes : Bytes)
    (hload : IWorldStore.loadSnapshot store worldId = .ok bytes) : worldId = first.id := by
  cases h with
  | nothing hempty => exact absurd hload (hempty.snapshot worldId bytes)
  | saved hsaved => exact hsaved.other worldId bytes hload

section Saving

variable (h : Stored store first journal) (hid : validateWorldIdResult first.id = .ok ())
  (hformat : first.worldMeta.formatVersion = WorldMeta.currentFormatVersion)
  (hworld : Reaches first journal journal.length world) {bytes : Bytes}
  (hencode : encodeWorld (world.savedAt journal.length) = .ok bytes)
  {next : S} {result : SimResult Unit}
  (hsave : IWorldStore.saveSnapshot store first.id bytes = (result, next))

include h hid hformat hworld hencode hsave

theorem Stored.written (hnew : IWorldStore.loadSnapshot next first.id = .ok bytes) :
    SavedAt next first journal journal.length world := by
  rcases AtomicWorldStore.saveSnapshot_other _ _ _ _ _ hsave with ⟨hother, hmeta⟩
  constructor
  case reaches => exact hworld
  case snapshot => exact ⟨bytes, hnew, decodeWorld_encodeWorld (hworld.savable hformat) hencode⟩
  case mirror => exact (h.mirrors hid).transfer (Nat.le_refl _) hmeta
  case other =>
    intro worldId found hload
    by_contra hne
    rw [hother worldId hne] at hload
    exact hne (h.other worldId found hload)

/-- Writing the snapshot leaves a checkpoint, also when it fails. -/
theorem Stored.replaced : Stored next first journal := by
  rcases AtomicWorldStore.saveSnapshot_atomic _ _ _ _ _ hsave with hnew | hsame
  · exact Stored.saved (h.written hid hformat hworld hencode hsave hnew)
  · rcases AtomicWorldStore.saveSnapshot_other _ _ _ _ _ hsave with ⟨hother, hmeta⟩
    have hall : forall worldId : String,
        IWorldStore.loadSnapshot next worldId = IWorldStore.loadSnapshot store worldId := by
      intro worldId
      by_cases heq : worldId = first.id
      · rw [heq]
        exact hsame
      · exact hother worldId heq
    cases h with
    | nothing hempty =>
        refine Stored.nothing ⟨?_, ?_⟩
        · intro worldId found
          rw [hall]
          exact hempty.snapshot worldId found
        · intro worldId hvalid
          rw [hmeta]
          exact hempty.worldMeta worldId hvalid
    | saved hsaved =>
        refine Stored.saved ⟨hsaved.reaches, ?_, ?_, ?_⟩
        · rw [hall]
          exact hsaved.snapshot
        · exact hsaved.mirror.transfer (Nat.le_refl _) hmeta
        · intro worldId found hload
          rw [hall] at hload
          exact hsaved.other worldId found hload

end Saving

omit [SnapshotJson.Lossless] in
/-- Writing the metadata of the checkpoint leaves it a checkpoint, also when it
fails. -/
theorem SavedAt.mirrored (h : SavedAt store first journal n world) {next : S}
    {result : SimResult Unit}
    (hsave : IWorldStore.saveMeta store (world.savedAt n).worldMeta = (result, next)) :
    SavedAt next first journal n world := by
  have hall := AtomicWorldStore.saveMeta_other _ _ _ _ hsave
  have hid : (world.savedAt n).worldMeta.worldId = first.id := h.reaches.worldId
  constructor
  case reaches => exact h.reaches
  case snapshot =>
    rw [hall]
    exact h.snapshot
  case mirror =>
    rcases AtomicWorldStore.saveMeta_atomic _ _ _ _ hsave with hnew | hsame
    · rw [hid] at hnew
      exact Mirrors.saved (Nat.le_refl n) h.reaches hnew
    · rw [hid] at hsame
      cases h.mirror with
      | missing hmeta => exact Mirrors.missing (hsame.trans hmeta)
      | saved hle hreaches hmeta => exact Mirrors.saved hle hreaches (hsame.trans hmeta)
  case other =>
    intro worldId found hload
    rw [hall] at hload
    exact h.other worldId found hload

end Stored

end Seej
