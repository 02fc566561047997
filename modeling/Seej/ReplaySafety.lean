import Seej.Json
import Seej.ReplayIntegrity
import Seej.Runtime
import Seej.SnapshotLemmas

/-!
# Replay safety

The applier guards its references, but not the identifier of a spawn: it accepts
the reserved `0`, and for the largest `u64` the increment of the allocator
overflows.  These are the only events that replay a coherent world into an
incoherent one or abort, so a world recovered without them can be saved again.
-/

namespace Seej

open Foundation

/-!
## Where the applier aborts
-/

theorem interpretEvent_eq_none {world : World} {event : SimEvent}
    (hlife : event.data.isLifecycle = false) (h : interpretEvent world event = none) :
    exists (entityId : EntityId) (kind : EntityKind) (position : WorldPos)
      (properties : EntityProperties),
      event.data = .entitySpawned entityId kind position properties ∧
        (exists zone : Zone, world.zones[position.zone]? = some zone) ∧
        world.entities[entityId]? = none ∧ entityId.val = u64Max := by
  unfold interpretEvent at h
  cases hdata : event.data with
  | worldCreated worldId name seed =>
      simp only [hdata, applyWorldCreated] at h
      split at h <;> simp at h
  | worldLoaded worldId tick => simp [hdata, EventData.isLifecycle] at hlife
  | worldSaved tick => simp [hdata, EventData.isLifecycle] at hlife
  | tickProcessed tick simTime processed rngStateAfter =>
      simp only [hdata, applyTickProcessed] at h
      cases rngStateAfter <;> simp at h
  | zoneCreated zoneId name =>
      simp only [hdata, applyZoneCreated] at h
      cases hzone : world.zones[zoneId]? with
      | none => simp [hzone] at h
      | some zone =>
          simp only [hzone] at h
          split at h <;> simp at h
  | zoneLoaded zoneId =>
      simp only [hdata, applyZoneLoaded] at h
      split at h <;> simp at h
  | zoneUnloaded zoneId =>
      simp only [hdata, applyZoneUnloaded] at h
      split at h <;> simp at h
  | entitySpawned entityId kind position properties =>
      simp only [hdata, applyEntitySpawned] at h
      cases hzone : world.zones[position.zone]? with
      | none => simp [hzone] at h
      | some zone =>
          simp only [hzone] at h
          split at h
          · split at h
            · simp at h
            · split at h <;> simp at h
          · rename_i hfresh
            cases hnext : nextAfterSpawn world entityId with
            | some n => simp [hnext] at h
            | none =>
                exact ⟨entityId, kind, position, properties, rfl, ⟨zone, hzone⟩, hfresh,
                  nextAfterSpawn_eq_none.mp hnext⟩
  | entityDespawned entityId reason =>
      simp only [hdata, applyEntityDespawned] at h
      split at h <;> simp at h
  | entityMoved entityId source target =>
      simp only [hdata, applyEntityMoved] at h
      split at h
      · simp at h
      · split at h
        · simp at h
        · split at h
          · simp at h
          · split at h
            · simp at h
            · split at h <;> simp at h
  | entityStateChanged entityId oldState newState =>
      simp only [hdata, applyEntityStateChanged] at h
      split at h
      · simp at h
      · split at h <;> simp at h
  | entityPropertyChanged entityId property oldValue newValue =>
      simp only [hdata, applyEntityPropertyChanged] at h
      split at h
      · simp at h
      · split at h
        · simp at h
        · split at h
          · simp at h
          · split at h <;> simp at h
  | resourceDepleted entityId amount remaining =>
      simp only [hdata, applyResourceDepleted] at h
      split at h
      · simp at h
      · split at h
        · simp at h
        · split at h
          · simp at h
          · split at h <;> simp at h
  | entityDegraded entityId oldHealth newHealth =>
      simp only [hdata, applyEntityDegraded] at h
      split at h
      · simp at h
      · split at h
        · simp at h
        · split at h <;> simp at h

/-!
## The unguarded spawns
-/

/-- A spawn that passes the clock gate into an existing zone, under one of the
two identifiers that nothing checks. -/
def SpawnsUnguarded (world : World) (event : SimEvent) : Prop :=
  match event.data with
  | .entitySpawned entityId _ position _ =>
      gateEvent world event = .ok () ∧
        (exists zone : Zone, world.zones[position.zone]? = some zone) ∧
        (entityId.val = 0 ∨ entityId.val = u64Max)
  | _ => False

/-- One event keeps a coherent world coherent and does not abort. -/
def AppliesSafely (world : World) (event : SimEvent) : Prop :=
  applyEvent world event ≠ none ∧
    forall next : World, applyEvent world event = accept next -> WorldIntegrity next

theorem applyEvent_ne_none {world : World} {event : SimEvent}
    (h : ¬ SpawnsUnguarded world event) : applyEvent world event ≠ none := by
  cases hlife : event.data.isLifecycle with
  | true => exact applyEvent_lifecycle_ne_none hlife
  | false =>
      intro hnone
      rw [applyEvent_of_not_lifecycle hlife, applyGated] at hnone
      cases hgate : gateEvent world event with
      | error message => simp [hgate] at hnone
      | ok _ =>
          simp only [hgate] at hnone
          rcases interpretEvent_eq_none hlife hnone with
            ⟨entityId, kind, position, properties, hdata, hzone, _, hmax⟩
          apply h
          rw [advanceTo_zones] at hzone
          simp only [SpawnsUnguarded, hdata]
          exact ⟨hgate, hzone, Or.inr hmax⟩

theorem not_spawnsInvalid_of_accepted {world next : World} {event : SimEvent}
    (h : ¬ SpawnsUnguarded world event) (happly : applyEvent world event = accept next) :
    ¬ event.data.spawnsInvalid := by
  intro hinvalid
  cases hdata : event.data with
  | entitySpawned entityId kind position properties =>
      have hlife : event.data.isLifecycle = false := by
        rw [hdata]
        rfl
      rcases (applyEvent_eq_interpreted hlife).mp happly with ⟨hgate, hinterpreted⟩
      rw [hdata] at hinvalid hinterpreted
      have hzone : exists zone : Zone, world.zones[position.zone]? = some zone := by
        rw [← advanceTo_zones world event.tick]
        cases hinterpreted with
        | entitySpawned _ _ hzone _ _ => exact ⟨_, hzone⟩
        | spawnRepeated hzone _ _ _ => exact ⟨_, hzone⟩
      apply h
      simp only [SpawnsUnguarded, hdata]
      exact ⟨hgate, hzone, Or.inl hinvalid⟩
  | _ => simp [hdata, EventData.spawnsInvalid] at hinvalid

/-- A spawn under the largest identifier aborts, one under `0` breaks the world. -/
theorem not_appliesSafely_of_spawnsUnguarded {world : World} {event : SimEvent}
    (hworld : WorldIntegrity world) (h : SpawnsUnguarded world event) :
    ¬ AppliesSafely world event := by
  cases hdata : event.data with
  | entitySpawned entityId kind position properties =>
      simp only [SpawnsUnguarded, hdata] at h
      rcases h with ⟨hgate, ⟨zone, hzone⟩, hid⟩
      have hfresh : world.entities[entityId]? = none := by
        cases hfound : world.entities[entityId]? with
        | none => rfl
        | some entity =>
            exfalso
            rcases hid with hzero | hmax
            · exact hworld.entity_valid entityId entity hfound hzero
            · have hbelow := UInt64.lt_iff_toNat_lt.mp (hworld.entity_below entityId entity hfound)
              have hlt := world.nextEntityId.toNat_lt
              have hnat : entityId.val.toNat = 18446744073709551615 := by
                rw [hmax]
                rfl
              omega
      have happly : applyEvent world event =
          applyEntitySpawned (advanceTo world event.tick) event.tick entityId kind position
            properties := by
        rw [applyEvent_of_not_lifecycle (by rw [hdata]; rfl), applyGated, hgate]
        simp only [interpretEvent, hdata]
      rw [← advanceTo_zones world event.tick] at hzone
      rw [← advanceTo_entities world event.tick] at hfresh
      intro hsafe
      rcases hid with hzero | hmax
      · have hnext : exists n : UInt64,
            nextAfterSpawn (advanceTo world event.tick) entityId = some n := by
          apply Option.ne_none_iff_exists'.mp
          intro hnone
          rw [nextAfterSpawn_eq_none.mp hnone] at hzero
          cases hzero
        rcases hnext with ⟨n, hn⟩
        have hbroken := hsafe.right _ (happly.trans
          (applyEntitySpawned_iff.mpr ⟨zone, hzone, Or.inr ⟨hfresh, n, hn, rfl⟩⟩))
        apply hbroken.entity_valid entityId _ _ hzero
        · exact Entity.new entityId kind position event.tick properties
        · rw [World.addEntity_getElem?]
          exact if_pos rfl
      · apply hsafe.left
        rw [happly]
        unfold applyEntitySpawned
        simp only [hzone, hfresh, nextAfterSpawn_eq_none.mpr hmax]
  | _ => simp [SpawnsUnguarded, hdata] at h

theorem appliesSafely_iff {world : World} (hworld : WorldIntegrity world) (event : SimEvent) :
    AppliesSafely world event <-> ¬ SpawnsUnguarded world event := by
  constructor
  · intro hsafe h
    exact not_appliesSafely_of_spawnsUnguarded hworld h hsafe
  · intro h
    refine ⟨applyEvent_ne_none h, ?_⟩
    intro next happly
    exact applyEvent_integrity hworld (not_spawnsInvalid_of_accepted h happly) happly

/-!
## Whole replays
-/

/-- No event meets an unguarded spawn in the world it is applied to. -/
def GuardedReplay (world : World) (events : List SimEvent) : Prop :=
  forall (before after : List SimEvent) (event : SimEvent) (middle : World),
    events = before ++ event :: after -> Replays world before middle ->
      ¬ SpawnsUnguarded middle event

theorem GuardedReplay.head {world : World} {event : SimEvent} {rest : List SimEvent}
    (h : GuardedReplay world (event :: rest)) : ¬ SpawnsUnguarded world event :=
  h [] rest event world rfl (Replays.nil world)

theorem GuardedReplay.tail {world middle : World} {event : SimEvent} {rest : List SimEvent}
    (h : GuardedReplay world (event :: rest)) (happly : applyEvent world event = accept middle) :
    GuardedReplay middle rest := by
  intro before after later final hsplit hreplay
  apply h (event :: before) after later final
  · rw [hsplit, List.cons_append]
  · exact Replays.cons happly hreplay

theorem replayEventsFrom_ne_none {world : World} {events : List SimEvent} {applied : Nat}
    (h : GuardedReplay world events) : replayEventsFrom applied world events ≠ none := by
  induction events generalizing applied world with
  | nil => simp [replayEventsFrom]
  | cons event rest ih =>
      rw [replayEventsFrom]
      cases happly : applyEvent world event with
      | none => exact absurd happly (applyEvent_ne_none h.head)
      | some result =>
          cases result with
          | error message => simp
          | ok middle => exact ih (h.tail happly)

theorem Replays.integrity_of_guarded {world next : World} {events : List SimEvent}
    (hreplay : Replays world events next) (hworld : WorldIntegrity world)
    (h : GuardedReplay world events) : WorldIntegrity next := by
  induction hreplay with
  | nil world =>
      exact hworld
  | cons happly _ ih =>
      apply ih
      · exact ((appliesSafely_iff hworld _).mpr h.head).right _ happly
      · exact h.tail happly

theorem savable_stampForSave {world : World} (hworld : WorldIntegrity world)
    (hformat : world.worldMeta.formatVersion = WorldMeta.currentFormatVersion)
    (cursor : EventId) : Savable (world.stampForSave cursor) where
  format := hformat
  snapshotTick := rfl
  integrity :=
    { hworld with
      meta_tick := rfl
      meta_time := rfl }

/-- Applying an event is safe on a coherent world exactly when the event is not an
unguarded spawn; a snapshot replayed without them can be saved and loaded again. -/
theorem replay_safe {world : World} (hworld : WorldIntegrity world) :
    (forall event : SimEvent,
      (applyEvent world event ≠ none ∧
        forall next : World, applyEvent world event = accept next -> WorldIntegrity next) <->
      ¬ SpawnsUnguarded world event) ∧
    (forall [SnapshotJson] [SnapshotJson.Lossless] (events : List SimEvent),
      Savable world -> GuardedReplay world events ->
      replayEvents world events ≠ none ∧
      forall (n : Nat) (recovered : World) (cursor : EventId) (bytes : Bytes),
        replayEvents world events = some (.ok n, recovered) ->
        encodeWorld (recovered.stampForSave cursor) = .ok bytes ->
          decodeWorld bytes = .ok (recovered.stampForSave cursor)) := by
  refine ⟨appliesSafely_iff hworld, ?_⟩
  intro _ _ events hsavable hguarded
  refine ⟨replayEventsFrom_ne_none hguarded, ?_⟩
  intro n recovered cursor bytes hreplay hencode
  have hreplays := (replayEvents_eq_ok.mp hreplay).right
  have hformat : recovered.worldMeta.formatVersion = WorldMeta.currentFormatVersion := by
    have hidentity := congrArg WorldMeta.formatVersion hreplays.continues.identity
    exact hidentity.trans hsavable.format
  exact decodeWorld_encodeWorld
    (savable_stampForSave (hreplays.integrity_of_guarded hworld hguarded) hformat cursor) hencode

def spawnAtOrigin (entityId : UInt64) : SimEvent :=
  ⟨⟨3⟩, Tick.zero, .entitySpawned ⟨entityId⟩ .item WorldPos.origin ⟨none, none, none⟩⟩

theorem replay_safe_spawn_five :
    AppliesSafely (World.new "Vale" ⟨7⟩) (spawnAtOrigin 5) := by
  apply ((replay_safe (WorldIntegrity.new "Vale" ⟨7⟩)).left (spawnAtOrigin 5)).mpr
  intro h
  rcases h with ⟨_, _, hzero | hmax⟩
  · cases hzero
  · cases hmax

/-- The reserved identifier is accepted and the next snapshot is refused; the
largest one overflows the allocator. -/
theorem replay_unsafe_zero_max :
    WorldIntegrity (World.new "Vale" ⟨7⟩) ∧
    (exists next : World,
      applyEvent (World.new "Vale" ⟨7⟩) (spawnAtOrigin 0) = accept next ∧
      ¬ WorldIntegrity next ∧
      (WorldSnapshotDto.fromWorld (next.stampForSave ⟨3⟩)).validateSnapshot =
        .error (.corruptedState "Snapshot contains invalid entity id E0")) ∧
    applyEvent (World.new "Vale" ⟨7⟩) (spawnAtOrigin u64Max) = none := by
  refine ⟨WorldIntegrity.new "Vale" ⟨7⟩, ⟨_, rfl, ?_, ?_⟩, rfl⟩
  · intro h
    exact h.entity_valid ⟨0⟩ (Entity.new ⟨0⟩ .item WorldPos.origin Tick.zero ⟨none, none, none⟩)
      (by decide) rfl
  · decide +kernel

end Seej
