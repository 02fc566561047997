import Seej.ReplayLemmas

/-!
# Replay runs

`Replays` is a successful replay as a relation between two worlds.  It composes
along concatenation, its result is determined, and it ignores what recovery does
not record: the identifiers of the events and the cursor fields of the metadata.
-/

namespace Seej

open Foundation

/-- Every event is accepted in turn. -/
inductive Replays : World -> List SimEvent -> World -> Prop where
  | nil (world : World) : Replays world [] world
  | cons {world middle next : World} {event : SimEvent} {rest : List SimEvent}
      (happly : applyEvent world event = accept middle) (hrest : Replays middle rest next) :
      Replays world (event :: rest) next

namespace Replays

theorem cons_iff {world next : World} {event : SimEvent} {rest : List SimEvent} :
    Replays world (event :: rest) next <->
      exists middle : World, applyEvent world event = accept middle ∧
        Replays middle rest next := by
  constructor
  · intro h
    cases h with
    | cons happly hrest => exact ⟨_, happly, hrest⟩
  · intro h
    rcases h with ⟨middle, happly, hrest⟩
    exact Replays.cons happly hrest

theorem single {world next : World} {event : SimEvent}
    (h : applyEvent world event = accept next) : Replays world [event] next :=
  Replays.cons h (Replays.nil next)

theorem append {first second third : World} {left right : List SimEvent}
    (hleft : Replays first left second) (hright : Replays second right third) :
    Replays first (left ++ right) third := by
  induction hleft with
  | nil _ =>
      exact hright
  | cons happly _ ih =>
      exact Replays.cons happly (ih hright)

theorem append_inv {first third : World} {left right : List SimEvent}
    (h : Replays first (left ++ right) third) :
    exists second : World, Replays first left second ∧ Replays second right third := by
  induction left generalizing first with
  | nil =>
      exact ⟨first, Replays.nil first, h⟩
  | cons event rest ih =>
      rcases cons_iff.mp h with ⟨middle, happly, hrest⟩
      rcases ih hrest with ⟨second, hleft, hright⟩
      exact ⟨second, Replays.cons happly hleft, hright⟩

theorem snoc {first second third : World} {events : List SimEvent} {event : SimEvent}
    (h : Replays first events second) (happly : applyEvent second event = accept third) :
    Replays first (events ++ [event]) third :=
  h.append (single happly)

theorem unique {world left right : World} {events : List SimEvent}
    (hleft : Replays world events left) (hright : Replays world events right) :
    left = right := by
  induction hleft with
  | nil world =>
      cases hright with
      | nil _ => rfl
  | cons happly _ ih =>
      rcases cons_iff.mp hright with ⟨middle, happly', hrest⟩
      rw [happly, accept_inj] at happly'
      rw [happly'] at hrest
      exact ih hrest

end Replays

/-!
## The replay loop
-/

theorem replayEventsFrom_eq_ok {applied n : Nat} {world next : World}
    {events : List SimEvent} :
    replayEventsFrom applied world events = some (.ok n, next) <->
      n = applied + events.length ∧ Replays world events next := by
  induction events generalizing applied world with
  | nil =>
      simp only [replayEventsFrom, Option.some.injEq, Prod.mk.injEq, Except.ok.injEq,
        List.length_nil, Nat.add_zero]
      constructor
      · rintro ⟨hn, hnext⟩
        rw [hn, hnext]
        exact ⟨rfl, Replays.nil next⟩
      · rintro ⟨hn, hreplay⟩
        cases hreplay with
        | nil _ => exact ⟨hn.symm, rfl⟩
  | cons event rest ih =>
      rw [Replays.cons_iff, replayEventsFrom]
      cases happly : applyEvent world event with
      | none => simp [accept]
      | some result =>
          cases result with
          | error message => simp [accept]
          | ok middle =>
              change replayEventsFrom (applied + 1) middle rest = some (.ok n, next) <-> _
              rw [ih, List.length_cons]
              have hsome : (some (Except.ok middle) : ReplayResult) = accept middle := rfl
              constructor
              · rintro ⟨hn, hrest⟩
                exact ⟨by omega, middle, hsome, hrest⟩
              · rintro ⟨hn, other, heq, hrest⟩
                rw [hsome, accept_inj] at heq
                rw [heq] at hrest
                exact ⟨by omega, hrest⟩

theorem replayEvents_eq_ok {n : Nat} {world next : World} {events : List SimEvent} :
    replayEvents world events = some (.ok n, next) <->
      n = events.length ∧ Replays world events next := by
  rw [replayEvents, replayEventsFrom_eq_ok, Nat.zero_add]

/-!
## What replay ignores
-/

def SimEvent.fact (event : SimEvent) : Tick × EventData :=
  (event.tick, event.data)

theorem applyEvent_congr {left right : SimEvent} (h : left.fact = right.fact)
    (world : World) : applyEvent world left = applyEvent world right := by
  cases left
  cases right
  simp only [SimEvent.fact, Prod.mk.injEq] at h
  rcases h with ⟨htick, hdata⟩
  subst htick
  subst hdata
  rfl

/-- Replay depends on the recorded facts alone. -/
theorem Replays.congr {world next : World} {left right : List SimEvent}
    (hfacts : left.map SimEvent.fact = right.map SimEvent.fact)
    (h : Replays world left next) : Replays world right next := by
  induction h generalizing right with
  | nil world =>
      cases right with
      | nil => exact Replays.nil world
      | cons _ _ => simp at hfacts
  | cons happly _ ih =>
      cases right with
      | nil => simp at hfacts
      | cons event rest =>
          simp only [List.map_cons, List.cons.injEq] at hfacts
          rw [applyEvent_congr hfacts.left] at happly
          exact Replays.cons happly (ih hfacts.right)

/-- The snapshot tick and the event cursor, which only a save writes. -/
def World.withCursor (world : World) (snapshotTick : Tick) (lastEventId : EventId) : World :=
  { world with
    worldMeta := { world.worldMeta with
      snapshotTick := snapshotTick
      lastEventId := lastEventId } }

theorem World.withCursor_self (world : World) :
    world.withCursor world.worldMeta.snapshotTick world.worldMeta.lastEventId = world := rfl

theorem advanceTo_withCursor (world : World) (tick s : Tick) (i : EventId) :
    advanceTo (world.withCursor s i) tick = (advanceTo world tick).withCursor s i := by
  by_cases h : tick > world.currentTick
  · have hcursor : tick > (world.withCursor s i).currentTick := h
    rw [advanceTo, advanceTo, if_pos h, if_pos hcursor]
    rfl
  · have hcursor : ¬ tick > (world.withCursor s i).currentTick := h
    rw [advanceTo, advanceTo, if_neg h, if_neg hcursor]

theorem Interpreted.withCursor {world next : World} {tick : Tick} {data : EventData}
    (h : Interpreted world tick data next) (s : Tick) (i : EventId) :
    Interpreted (world.withCursor s i) tick data (next.withCursor s i) := by
  cases h with
  | worldCreated hsame => exact Interpreted.worldCreated hsame
  | tickProcessed simTime processed state =>
      exact Interpreted.tickProcessed simTime processed state
  | zoneCreated name hnew => exact Interpreted.zoneCreated name hnew
  | zoneRepeated hzone hloaded hempty => exact Interpreted.zoneRepeated hzone hloaded hempty
  | zoneLoaded hzone => exact Interpreted.zoneLoaded hzone
  | zoneUnloaded hzone => exact Interpreted.zoneUnloaded hzone
  | entitySpawned kind properties hzone hfresh hnext =>
      exact Interpreted.entitySpawned kind properties hzone hfresh hnext
  | spawnRepeated hzone hexisting hrepeats hmem =>
      exact Interpreted.spawnRepeated hzone hexisting hrepeats hmem
  | @entityDespawned entityId reason entity next hremove =>
      rcases World.removeEntity_eq_some hremove with ⟨hentity, hnext⟩
      have hcursor : (world.withCursor s i).removeEntity entityId =
          some (entity, next.withCursor s i) := by
        simp only [World.removeEntity, World.withCursor, hentity]
        rw [hnext]
      exact Interpreted.entityDespawned reason hcursor
  | @entityMoved entityId target entity sourceZone targetZone hentity hsource htarget hmem =>
      have hmoved : (moveEntity world entityId entity.position target).withCursor s i =
          moveEntity (world.withCursor s i) entityId entity.position target := by
        unfold moveEntity
        split <;> rfl
      rw [hmoved]
      exact Interpreted.entityMoved hentity hsource htarget hmem
  | entityStateChanged newState hentity =>
      exact Interpreted.entityStateChanged newState hentity
  | entityPropertyChanged hentity hvalue hset =>
      exact Interpreted.entityPropertyChanged hentity hvalue hset
  | resourceDepleted hentity hsize hamount =>
      exact Interpreted.resourceDepleted hentity hsize hamount
  | entityDegraded newHealth hentity hhealth =>
      exact Interpreted.entityDegraded newHealth hentity hhealth

/-- The applier neither reads nor writes the cursor fields. -/
theorem applyEvent_withCursor {world next : World} {event : SimEvent}
    (h : applyEvent world event = accept next) (s : Tick) (i : EventId) :
    applyEvent (world.withCursor s i) event = accept (next.withCursor s i) := by
  cases hlife : event.data.isLifecycle with
  | true =>
      have hnext := applyEvent_of_lifecycle hlife h
      subst hnext
      unfold applyEvent at h ⊢
      cases hdata : event.data with
      | worldLoaded worldId tick =>
          simp only [hdata] at h ⊢
          split at h
          · simp at h
          · rename_i hsame
            exact if_neg hsame
      | worldSaved tick =>
          simp only [hdata] at h ⊢
          split at h
          · simp at h
          · rename_i hsame
            exact if_neg hsame
      | _ => simp [EventData.isLifecycle, hdata] at hlife
  | false =>
      rcases (applyEvent_eq_interpreted hlife).mp h with ⟨hgate, hinterpreted⟩
      apply (applyEvent_eq_interpreted hlife).mpr
      refine ⟨hgate, ?_⟩
      rw [advanceTo_withCursor]
      exact hinterpreted.withCursor s i

theorem Replays.withCursor {world next : World} {events : List SimEvent}
    (h : Replays world events next) (s : Tick) (i : EventId) :
    Replays (world.withCursor s i) events (next.withCursor s i) := by
  induction h with
  | nil world =>
      exact Replays.nil _
  | cons happly _ ih =>
      exact Replays.cons (applyEvent_withCursor happly s i) ih

/-!
## What replay keeps
-/

def KeepsZones (world next : World) : Prop :=
  forall zoneId : ZoneId, world.hasZone zoneId = true -> next.hasZone zoneId = true

namespace KeepsZones

theorem of_eq {world next : World} (h : next.zones = world.zones) : KeepsZones world next := by
  intro zoneId hzone
  rw [World.hasZone, h]
  exact hzone

theorem modify {world next : World} {id : ZoneId} {f : Zone -> Zone}
    (h : next.zones = world.zones.modify id f) : KeepsZones world next := by
  intro zoneId hzone
  rw [World.hasZone, h, Std.ExtTreeMap.contains_modify]
  exact hzone

theorem insert {world next : World} {id : ZoneId} {zone : Zone}
    (h : next.zones = world.zones.insert id zone) : KeepsZones world next := by
  intro zoneId hzone
  rw [World.hasZone, h, Std.ExtTreeMap.contains_insert, Bool.or_eq_true]
  exact Or.inr hzone

theorem trans {first second third : World} (hleft : KeepsZones first second)
    (hright : KeepsZones second third) : KeepsZones first third :=
  fun zoneId hzone => hright zoneId (hleft zoneId hzone)

end KeepsZones

def EventData.processed : EventData -> Option (Tick × Option UInt64)
  | .tickProcessed tick _ _ rngStateAfter => some (tick, rngStateAfter)
  | _ => none

/-- The interpretation moves neither the clock nor the metadata, takes no zone away, and
restores the generator only at the end of a tick. -/
structure Kept (world next : World) (data : EventData) : Prop where
  worldMeta : next.worldMeta = world.worldMeta
  currentTick : next.currentTick = world.currentTick
  zones : KeepsZones world next
  rngState : data.processed = none -> next.rngState = world.rngState

theorem Interpreted.kept {world next : World} {tick : Tick} {data : EventData}
    (h : Interpreted world tick data next) : Kept world next data := by
  cases h with
  | worldCreated _ => exact ⟨rfl, rfl, KeepsZones.of_eq rfl, fun _ => rfl⟩
  | tickProcessed _ _ _ => exact ⟨rfl, rfl, KeepsZones.of_eq rfl, nofun⟩
  | zoneCreated _ _ => exact ⟨rfl, rfl, KeepsZones.insert rfl, fun _ => rfl⟩
  | zoneRepeated _ _ _ => exact ⟨rfl, rfl, KeepsZones.of_eq rfl, fun _ => rfl⟩
  | zoneLoaded _ => exact ⟨rfl, rfl, KeepsZones.modify rfl, fun _ => rfl⟩
  | zoneUnloaded _ => exact ⟨rfl, rfl, KeepsZones.modify rfl, fun _ => rfl⟩
  | entitySpawned _ _ _ _ _ => exact ⟨rfl, rfl, KeepsZones.modify rfl, fun _ => rfl⟩
  | spawnRepeated _ _ _ _ => exact ⟨rfl, rfl, KeepsZones.of_eq rfl, fun _ => rfl⟩
  | entityDespawned _ hremove =>
      rw [(World.removeEntity_eq_some hremove).right]
      exact ⟨rfl, rfl, KeepsZones.modify rfl, fun _ => rfl⟩
  | @entityMoved entityId target entity _ _ _ _ _ _ =>
      unfold moveEntity
      split
      · have hremoved : KeepsZones world
            (world.updateZone entity.position.zone fun zone => zone.removeEntity entityId) :=
          KeepsZones.modify rfl
        exact ⟨rfl, rfl, hremoved.trans (KeepsZones.modify rfl), fun _ => rfl⟩
      · exact ⟨rfl, rfl, KeepsZones.of_eq rfl, fun _ => rfl⟩
  | entityStateChanged _ _ => exact ⟨rfl, rfl, KeepsZones.of_eq rfl, fun _ => rfl⟩
  | entityPropertyChanged _ _ _ => exact ⟨rfl, rfl, KeepsZones.of_eq rfl, fun _ => rfl⟩
  | resourceDepleted _ _ _ => exact ⟨rfl, rfl, KeepsZones.of_eq rfl, fun _ => rfl⟩
  | entityDegraded _ _ _ => exact ⟨rfl, rfl, KeepsZones.of_eq rfl, fun _ => rfl⟩

theorem Interpreted.restores {world next : World} {tick ended : Tick} {data : EventData}
    {state : Option UInt64} (h : Interpreted world tick data next)
    (hdata : data.processed = some (ended, state)) :
    ended = tick ∧ state = some next.rngState := by
  cases h with
  | tickProcessed _ _ _ =>
      cases hdata
      exact ⟨rfl, rfl⟩
  | _ => cases hdata

def WorldMeta.identity (m : WorldMeta) : WorldMeta :=
  { m with currentTick := Tick.zero, simTime := SimTime.zero }

structure Continues (world next : World) : Prop where
  identity : next.worldMeta.identity = world.worldMeta.identity
  tick_le : world.currentTick ≤ next.currentTick
  zones : KeepsZones world next

namespace Continues

theorem refl (world : World) : Continues world world :=
  ⟨rfl, UInt64.le_refl _, KeepsZones.of_eq rfl⟩

theorem trans {first second third : World} (hleft : Continues first second)
    (hright : Continues second third) : Continues first third :=
  ⟨hright.identity.trans hleft.identity, UInt64.le_trans hleft.tick_le hright.tick_le,
    hleft.zones.trans hright.zones⟩

theorem advanceTo (world : World) (tick : Tick) : Continues world (advanceTo world tick) := by
  unfold Seej.advanceTo
  split
  · rename_i hgt
    exact ⟨rfl, UInt64.le_of_lt hgt, KeepsZones.of_eq rfl⟩
  · exact refl world

end Continues

theorem applyEvent_continues {world next : World} {event : SimEvent}
    (h : applyEvent world event = accept next) : Continues world next := by
  cases hlife : event.data.isLifecycle with
  | true =>
      rw [applyEvent_of_lifecycle hlife h]
      exact Continues.refl world
  | false =>
      have hkept := ((applyEvent_eq_interpreted hlife).mp h).right.kept
      have hmoved := Continues.advanceTo world event.tick
      refine ⟨?_, ?_, hmoved.zones.trans hkept.zones⟩
      · rw [hkept.worldMeta, hmoved.identity]
      · rw [hkept.currentTick]
        exact hmoved.tick_le

theorem Replays.continues {world next : World} {events : List SimEvent}
    (h : Replays world events next) : Continues world next := by
  induction h with
  | nil world =>
      exact Continues.refl world
  | cons happly _ ih =>
      exact (applyEvent_continues happly).trans ih

end Seej
