import Seej.Replay

/-!
# What an accepted event does

One characterization for each kind of event: the guards it passes and the world
it leaves.  The proofs about live execution read them from right to left, the
proofs about recovery from left to right.
-/

namespace Seej

open Foundation

@[simp] theorem accept_inj {a b : World} : accept a = accept b <-> b = a := by
  simp [accept, eq_comm]

@[simp] theorem refuse_ne_accept {message : String} {world : World} :
    refuse message = accept world <-> False := by
  simp [refuse, accept]

@[simp] theorem refuse_ne_none {message : String} : refuse message = none <-> False := by
  simp [refuse]

@[simp] theorem accept_ne_none {world : World} : accept world = none <-> False := by
  simp [accept]

/-!
## World and zone events
-/

theorem applyWorldCreated_iff {world next : World} {worldId name : String} {seed : RngSeed} :
    applyWorldCreated world worldId name seed = accept next <->
      (world.id = worldId ∧ world.name = name ∧ world.seed = seed) ∧ next = world := by
  unfold applyWorldCreated
  split
  · rename_i hne
    simp only [refuse_ne_accept, false_iff]
    rintro ⟨⟨h1, h2, h3⟩, _⟩
    rcases hne with h | h | h
    · exact h h1
    · exact h h2
    · exact h h3
  · rename_i heq
    simp only [not_or, not_not] at heq
    rw [accept_inj]
    exact ⟨fun h => ⟨heq, h⟩, fun h => h.right⟩

theorem applyTickProcessed_iff {world next : World} {tick : Tick} {simTime : SimTime}
    {rngStateAfter : Option UInt64} (htick : ¬ tick > world.currentTick) :
    applyTickProcessed world tick simTime rngStateAfter = accept next <->
      exists state : UInt64, rngStateAfter = some state ∧
        next = { world with rngState := state } := by
  unfold applyTickProcessed
  rw [if_neg htick]
  cases rngStateAfter with
  | none => simp
  | some state => simp

theorem applyZoneCreated_iff {world next : World} {zoneId : ZoneId} {name : Option String} :
    applyZoneCreated world zoneId name = accept next <->
      (world.zones[zoneId]? = none ∧ next = world.addZone (Zone.new zoneId name)) ∨
        (exists zone : Zone, world.zones[zoneId]? = some zone ∧ zone.name = name ∧
          zone.loaded = true ∧ zone.entities = [] ∧ next = world) := by
  unfold applyZoneCreated
  cases hzone : world.zones[zoneId]? with
  | none => simp [World.addZone, Zone.new]
  | some zone =>
      by_cases hname : zone.name = name <;> by_cases hloaded : zone.loaded = true <;>
        by_cases hentities : zone.entities = [] <;>
        simp [hname, hloaded, hentities]

theorem applyZoneLoaded_iff {world next : World} {zoneId : ZoneId} :
    applyZoneLoaded world zoneId = accept next <->
      (exists zone : Zone, world.zones[zoneId]? = some zone) ∧
        next = world.updateZone zoneId (fun zone => { zone with loaded := true }) := by
  unfold applyZoneLoaded
  cases world.zones[zoneId]? <;> simp

theorem applyZoneUnloaded_iff {world next : World} {zoneId : ZoneId} :
    applyZoneUnloaded world zoneId = accept next <->
      (exists zone : Zone, world.zones[zoneId]? = some zone) ∧
        next = world.updateZone zoneId (fun zone => { zone with loaded := false }) := by
  unfold applyZoneUnloaded
  cases world.zones[zoneId]? <;> simp

/-!
## Entity events
-/

def RepeatsSpawn (existing : Entity) (tick : Tick) (kind : EntityKind)
    (position : WorldPos) (properties : EntityProperties) : Prop :=
  existing.kind = kind ∧ existing.position = position ∧ existing.createdAt = tick ∧
    existing.state = .active ∧ existing.properties = properties

theorem applyEntitySpawned_iff {world next : World} {tick : Tick} {entityId : EntityId}
    {kind : EntityKind} {position : WorldPos} {properties : EntityProperties} :
    applyEntitySpawned world tick entityId kind position properties = accept next <->
      exists zone : Zone, world.zones[position.zone]? = some zone ∧
        ((exists existing : Entity, world.entities[entityId]? = some existing ∧
            RepeatsSpawn existing tick kind position properties ∧
            entityId ∈ zone.entities ∧ next = world) ∨
          (world.entities[entityId]? = none ∧
            exists n : UInt64, nextAfterSpawn world entityId = some n ∧
              next = { world with nextEntityId := n }.addEntity
                (Entity.new entityId kind position tick properties))) := by
  unfold applyEntitySpawned
  cases hzone : world.zones[position.zone]? with
  | none => simp
  | some zone =>
      cases hentity : world.entities[entityId]? with
      | none =>
          cases hnext : nextAfterSpawn world entityId with
          | none => simp [accept]
          | some n => simp
      | some existing =>
          by_cases hrepeat : RepeatsSpawn existing tick kind position properties
          · have hguard : ¬ (existing.kind ≠ kind ∨ existing.position ≠ position ∨
                existing.createdAt ≠ tick ∨ existing.state ≠ .active ∨
                existing.properties ≠ properties) := by
              rcases hrepeat with ⟨h1, h2, h3, h4, h5⟩
              simp [h1, h2, h3, h4, h5]
            by_cases hmem : entityId ∈ zone.entities
            · simp [if_neg hguard, hmem, hrepeat]
            · simp [if_neg hguard, hmem]
          · have hguard : existing.kind ≠ kind ∨ existing.position ≠ position ∨
                existing.createdAt ≠ tick ∨ existing.state ≠ .active ∨
                existing.properties ≠ properties := by
              unfold RepeatsSpawn at hrepeat
              by_contra hall
              simp only [not_or, not_not] at hall
              exact hrepeat hall
            simp [if_pos hguard, hrepeat]

theorem applyEntityDespawned_iff {world next : World} {entityId : EntityId} :
    applyEntityDespawned world entityId = accept next <->
      exists entity : Entity, world.removeEntity entityId = some (entity, next) := by
  unfold applyEntityDespawned
  cases world.removeEntity entityId with
  | none => simp
  | some found => simp [Prod.ext_iff, eq_comm]

def moveEntity (world : World) (entityId : EntityId) (source target : WorldPos) : World :=
  (if source.zone ≠ target.zone then
    (world.updateZone source.zone (fun zone => zone.removeEntity entityId)).updateZone
      target.zone (fun zone => zone.addEntity entityId)
  else world).updateEntity entityId (fun e => { e with position := target })

theorem applyEntityMoved_iff {world next : World} {entityId : EntityId}
    {source target : WorldPos} :
    applyEntityMoved world entityId source target = accept next <->
      exists (entity : Entity) (sourceZone targetZone : Zone),
        world.entities[entityId]? = some entity ∧ entity.position = source ∧
        world.zones[source.zone]? = some sourceZone ∧
        world.zones[target.zone]? = some targetZone ∧
        entityId ∈ sourceZone.entities ∧
        next = moveEntity world entityId source target := by
  unfold applyEntityMoved
  cases hentity : world.entities[entityId]? with
  | none => simp
  | some entity =>
      by_cases hpos : entity.position = source
      · cases hsource : world.zones[source.zone]? with
        | none => simp [hpos]
        | some sourceZone =>
            cases htarget : world.zones[target.zone]? with
            | none =>
                have hcontains : world.zones.contains target.zone = false := by
                  simp [Std.ExtTreeMap.contains_eq_isSome_getElem?, htarget]
                simp [hpos, hcontains]
            | some targetZone =>
                have hcontains : world.zones.contains target.zone = true := by
                  simp [Std.ExtTreeMap.contains_eq_isSome_getElem?, htarget]
                by_cases hmem : entityId ∈ sourceZone.entities
                · simp [hpos, hcontains, hmem, moveEntity]
                · simp [hpos, hcontains, hmem]
      · simp [hpos]

theorem applyEntityStateChanged_iff {world next : World} {entityId : EntityId}
    {oldState newState : EntityState} :
    applyEntityStateChanged world entityId oldState newState = accept next <->
      exists entity : Entity, world.entities[entityId]? = some entity ∧
        entity.state = oldState ∧
        next = world.updateEntity entityId (fun e => { e with state := newState }) := by
  unfold applyEntityStateChanged
  cases hentity : world.entities[entityId]? with
  | none => simp
  | some entity =>
      by_cases hstate : entity.state = oldState
      · simp [hstate]
      · simp [hstate]

theorem applyEntityPropertyChanged_iff {world next : World} {entityId : EntityId}
    {property : String} {oldValue newValue : PropertyValue} :
    applyEntityPropertyChanged world entityId property oldValue newValue = accept next <->
      exists (entity : Entity) (f : Entity -> Entity),
        world.entities[entityId]? = some entity ∧
        entityPropertyValue entity property = .ok oldValue ∧
        setEntityProperty property newValue = .ok f ∧
        next = world.updateEntity entityId f := by
  unfold applyEntityPropertyChanged
  cases hentity : world.entities[entityId]? with
  | none => simp
  | some entity =>
      cases hvalue : entityPropertyValue entity property with
      | error message => simp [hvalue]
      | ok currentValue =>
          by_cases hold : currentValue = oldValue
          · cases hset : setEntityProperty property newValue with
            | error message => simp [hvalue, hold]
            | ok f => simp [hvalue, hold]
          · simp [hvalue, hold]

/-!
## Systemic events
-/

theorem applyResourceDepleted_iff {world next : World} {entityId : EntityId}
    {amount remaining : UInt32} :
    applyResourceDepleted world entityId amount remaining = accept next <->
      exists entity : Entity, world.entities[entityId]? = some entity ∧
        remaining.toNat + amount.toNat < UInt32.size ∧
        entity.properties.amount = some (remaining + amount) ∧
        next = world.updateEntity entityId (fun e =>
          { e with properties := { e.properties with amount := some remaining } }) := by
  unfold applyResourceDepleted
  cases hentity : world.entities[entityId]? with
  | none => simp
  | some entity =>
      cases hamount : entity.properties.amount with
      | none => simp [hamount]
      | some current =>
          by_cases hsize : UInt32.size ≤ remaining.toNat + amount.toNat
          · have hnot : ¬ remaining.toNat + amount.toNat < UInt32.size := by omega
            simp [hamount, hsize, hnot]
          · have hlt : remaining.toNat + amount.toNat < UInt32.size := by omega
            by_cases hcur : current = remaining + amount
            · simp [hamount, hsize, hlt, hcur]
            · simp [hamount, hsize, hcur]

theorem applyEntityDegraded_iff {world next : World} {entityId : EntityId}
    {oldHealth newHealth : UInt32} :
    applyEntityDegraded world entityId oldHealth newHealth = accept next <->
      exists entity : Entity, world.entities[entityId]? = some entity ∧
        entity.properties.health = some oldHealth ∧
        next = world.updateEntity entityId (fun e =>
          { e with properties := { e.properties with health := some newHealth } }) := by
  unfold applyEntityDegraded
  cases hentity : world.entities[entityId]? with
  | none => simp
  | some entity =>
      cases hhealth : entity.properties.health with
      | none => simp [hhealth]
      | some current =>
          by_cases hcur : current = oldHealth
          · simp [hhealth, hcur]
          · simp [hhealth, hcur]

/-!
## The clock gate
-/

/-- Decided before the clock gate, and of no effect. -/
def EventData.isLifecycle : EventData -> Bool
  | .worldLoaded _ _ => true
  | .worldSaved _ => true
  | _ => false

theorem applyEvent_of_not_lifecycle {world : World} {event : SimEvent}
    (h : event.data.isLifecycle = false) :
    applyEvent world event = applyGated world event := by
  unfold applyEvent
  cases hdata : event.data <;> simp [EventData.isLifecycle, hdata] at h ⊢

theorem applyEvent_of_lifecycle {world next : World} {event : SimEvent}
    (h : event.data.isLifecycle = true) (happly : applyEvent world event = accept next) :
    next = world := by
  unfold applyEvent at happly
  cases hdata : event.data with
  | worldLoaded worldId tick =>
      simp only [hdata] at happly
      split at happly
      · simp at happly
      · simpa using happly
  | worldSaved tick =>
      simp only [hdata] at happly
      split at happly
      · simp at happly
      · simpa using happly
  | _ => simp [EventData.isLifecycle, hdata] at h

theorem applyEvent_lifecycle_tick {world next : World} {event : SimEvent}
    (h : event.data.isLifecycle = true) (happly : applyEvent world event = accept next) :
    event.tick = world.currentTick := by
  unfold applyEvent at happly
  cases hdata : event.data with
  | worldLoaded worldId tick =>
      simp only [hdata] at happly
      split at happly
      · simp at happly
      · rename_i hmatch
        exact not_not.mp (not_or.mp hmatch).left
  | worldSaved tick =>
      simp only [hdata] at happly
      split at happly
      · simp at happly
      · rename_i hmatch
        exact not_not.mp (not_or.mp hmatch).left
  | _ => simp [EventData.isLifecycle, hdata] at h

theorem applyEvent_lifecycle_ne_none {world : World} {event : SimEvent}
    (h : event.data.isLifecycle = true) : applyEvent world event ≠ none := by
  unfold applyEvent
  cases hdata : event.data with
  | worldLoaded worldId tick =>
      simp only
      split <;> simp
  | worldSaved tick =>
      simp only
      split <;> simp
  | _ => simp [EventData.isLifecycle, hdata] at h

/-- What the gate lets pass carries the current tick or the next one. -/
theorem gateEvent_tick {world : World} {event : SimEvent}
    (h : gateEvent world event = .ok ()) :
    event.tick = world.currentTick ∨ event.tick = world.currentTick.next := by
  unfold gateEvent at h
  cases hdata : event.data with
  | tickProcessed tick simTime processed rngStateAfter =>
      simp only [hdata] at h
      split at h
      · cases h
      · split at h
        · cases h
        · rename_i hmatch
          by_contra hne
          apply hmatch
          simp only [not_or] at hne
          by_cases htick : event.tick = tick
          · exact Or.inr (Or.inr ⟨htick ▸ hne.left, htick ▸ hne.right⟩)
          · exact Or.inl htick
  | _ =>
      simp only [hdata] at h
      split at h
      · cases h
      · rename_i hmatch
        by_contra hne
        exact hmatch (not_or.mp hne)

theorem gateEvent_tickProcessed {world : World} {event : SimEvent} {tick : Tick}
    {simTime : SimTime} {processed : UInt32} {rngStateAfter : Option UInt64}
    (hdata : event.data = .tickProcessed tick simTime processed rngStateAfter) :
    gateEvent world event = .ok () <->
      rngStateAfter.isSome = true ∧ event.tick = tick ∧ simTime = SimTime.fromTicks tick ∧
        (tick = world.currentTick ∨ tick = world.currentTick.next) := by
  unfold gateEvent
  simp only [hdata]
  cases rngStateAfter with
  | none => simp
  | some state =>
      by_cases h1 : event.tick = tick <;> by_cases h2 : simTime = SimTime.fromTicks tick <;>
        by_cases h3 : tick = world.currentTick <;>
        by_cases h4 : tick = world.currentTick.next <;>
        simp [h1, h2, h3, h4]

/-- An accepted event that is not a lifecycle event passed the gate and was
interpreted on the world with its clock moved. -/
theorem applyEvent_eq_accept {world next : World} {event : SimEvent}
    (h : event.data.isLifecycle = false) :
    applyEvent world event = accept next <->
      gateEvent world event = .ok () ∧
        interpretEvent (advanceTo world event.tick) event = accept next := by
  rw [applyEvent_of_not_lifecycle h, applyGated]
  cases hgate : gateEvent world event with
  | error message => simp
  | ok _ => simp

theorem advanceTo_currentTick {world : World} {tick : Tick}
    (h : tick = world.currentTick ∨ tick = world.currentTick.next) :
    (advanceTo world tick).currentTick = tick := by
  unfold advanceTo
  split
  · rfl
  · rename_i hgt
    rcases h with h | h
    · exact h.symm
    · have hle : world.currentTick.val ≤ world.currentTick.next.val :=
        le_saturatingSucc world.currentTick.val
      have hge : world.currentTick.next.val ≤ world.currentTick.val := by
        rw [h] at hgt
        exact UInt64.not_lt.mp hgt
      have heq : world.currentTick.val = world.currentTick.next.val :=
        UInt64.le_antisymm hle hge
      rw [h]
      exact congrArg Tick.mk heq

@[simp] theorem advanceTo_self (world : World) : advanceTo world world.currentTick = world :=
  if_neg (UInt64.lt_irrefl _)

theorem gateEvent_advanceTo {world : World} {event : SimEvent}
    (h : gateEvent world event = .ok ()) :
    gateEvent (advanceTo world event.tick) event = .ok () := by
  have htick := advanceTo_currentTick (gateEvent_tick h)
  cases hdata : event.data with
  | tickProcessed tick simTime processed rngStateAfter =>
      rw [gateEvent_tickProcessed hdata] at h ⊢
      refine ⟨h.left, h.right.left, h.right.right.left, Or.inl ?_⟩
      rw [htick, h.right.left]
  | _ => simp [gateEvent, hdata, htick]

/-!
## Interpretation
-/

inductive Interpreted (world : World) (tick : Tick) : EventData -> World -> Prop where
  | worldCreated {worldId name : String} {seed : RngSeed}
      (hsame : world.id = worldId ∧ world.name = name ∧ world.seed = seed) :
      Interpreted world tick (.worldCreated worldId name seed) world
  | tickProcessed (simTime : SimTime) (processed : UInt32) (state : UInt64) :
      Interpreted world tick (.tickProcessed tick simTime processed (some state))
        { world with rngState := state }
  | zoneCreated {zoneId : ZoneId} (name : Option String)
      (hnew : world.zones[zoneId]? = none) :
      Interpreted world tick (.zoneCreated zoneId name) (world.addZone (Zone.new zoneId name))
  | zoneRepeated {zoneId : ZoneId} {zone : Zone} (hzone : world.zones[zoneId]? = some zone)
      (hloaded : zone.loaded = true) (hempty : zone.entities = []) :
      Interpreted world tick (.zoneCreated zoneId zone.name) world
  | zoneLoaded {zoneId : ZoneId} {zone : Zone} (hzone : world.zones[zoneId]? = some zone) :
      Interpreted world tick (.zoneLoaded zoneId)
        (world.updateZone zoneId fun zone => { zone with loaded := true })
  | zoneUnloaded {zoneId : ZoneId} {zone : Zone} (hzone : world.zones[zoneId]? = some zone) :
      Interpreted world tick (.zoneUnloaded zoneId)
        (world.updateZone zoneId fun zone => { zone with loaded := false })
  | entitySpawned {entityId : EntityId} (kind : EntityKind) {position : WorldPos}
      (properties : EntityProperties) {zone : Zone} {n : UInt64}
      (hzone : world.zones[position.zone]? = some zone)
      (hfresh : world.entities[entityId]? = none)
      (hnext : nextAfterSpawn world entityId = some n) :
      Interpreted world tick (.entitySpawned entityId kind position properties)
        ({ world with nextEntityId := n }.addEntity
          (Entity.new entityId kind position tick properties))
  | spawnRepeated {entityId : EntityId} {kind : EntityKind} {position : WorldPos}
      {properties : EntityProperties} {zone : Zone} {existing : Entity}
      (hzone : world.zones[position.zone]? = some zone)
      (hexisting : world.entities[entityId]? = some existing)
      (hrepeats : RepeatsSpawn existing tick kind position properties)
      (hmem : entityId ∈ zone.entities) :
      Interpreted world tick (.entitySpawned entityId kind position properties) world
  | entityDespawned {entityId : EntityId} (reason : DespawnReason) {entity : Entity}
      {next : World} (hremove : world.removeEntity entityId = some (entity, next)) :
      Interpreted world tick (.entityDespawned entityId reason) next
  | entityMoved {entityId : EntityId} {target : WorldPos} {entity : Entity}
      {sourceZone targetZone : Zone} (hentity : world.entities[entityId]? = some entity)
      (hsource : world.zones[entity.position.zone]? = some sourceZone)
      (htarget : world.zones[target.zone]? = some targetZone)
      (hmem : entityId ∈ sourceZone.entities) :
      Interpreted world tick (.entityMoved entityId entity.position target)
        (moveEntity world entityId entity.position target)
  | entityStateChanged {entityId : EntityId} (newState : EntityState) {entity : Entity}
      (hentity : world.entities[entityId]? = some entity) :
      Interpreted world tick (.entityStateChanged entityId entity.state newState)
        (world.updateEntity entityId fun e => { e with state := newState })
  | entityPropertyChanged {entityId : EntityId} {property : String}
      {oldValue newValue : PropertyValue} {entity : Entity} {f : Entity -> Entity}
      (hentity : world.entities[entityId]? = some entity)
      (hvalue : entityPropertyValue entity property = .ok oldValue)
      (hset : setEntityProperty property newValue = .ok f) :
      Interpreted world tick (.entityPropertyChanged entityId property oldValue newValue)
        (world.updateEntity entityId f)
  | resourceDepleted {entityId : EntityId} {amount remaining : UInt32} {entity : Entity}
      (hentity : world.entities[entityId]? = some entity)
      (hsize : remaining.toNat + amount.toNat < UInt32.size)
      (hamount : entity.properties.amount = some (remaining + amount)) :
      Interpreted world tick (.resourceDepleted entityId amount remaining)
        (world.updateEntity entityId fun e =>
          { e with properties := { e.properties with amount := some remaining } })
  | entityDegraded {entityId : EntityId} {oldHealth : UInt32} (newHealth : UInt32)
      {entity : Entity} (hentity : world.entities[entityId]? = some entity)
      (hhealth : entity.properties.health = some oldHealth) :
      Interpreted world tick (.entityDegraded entityId oldHealth newHealth)
        (world.updateEntity entityId fun e =>
          { e with properties := { e.properties with health := some newHealth } })

/-- What the gate lets pass is interpreted at the tick to which the clock was moved. -/
theorem interpretEvent_iff {world next : World} {event : SimEvent}
    (htick : ¬ event.tick > world.currentTick) (hgate : gateEvent world event = .ok ()) :
    interpretEvent world event = accept next <->
      Interpreted world event.tick event.data next := by
  unfold interpretEvent
  rcases event with ⟨id, tick, data⟩
  constructor
  · intro h
    cases data with
    | worldCreated worldId name seed =>
        rcases applyWorldCreated_iff.mp h with ⟨hsame, hnext⟩
        rw [hnext]
        exact Interpreted.worldCreated hsame
    | worldLoaded worldId tick => cases h
    | worldSaved tick => cases h
    | tickProcessed ended simTime processed rngStateAfter =>
        have heq : tick = ended := ((gateEvent_tickProcessed rfl).mp hgate).right.left
        subst heq
        rcases (applyTickProcessed_iff htick).mp h with ⟨state, hstate, hnext⟩
        rw [hstate, hnext]
        exact Interpreted.tickProcessed simTime processed state
    | zoneCreated zoneId name =>
        rcases applyZoneCreated_iff.mp h with ⟨hnew, hnext⟩ | ⟨zone, h1, h2, h3, h4, hnext⟩
        · rw [hnext]
          exact Interpreted.zoneCreated name hnew
        · rw [hnext, ← h2]
          exact Interpreted.zoneRepeated h1 h3 h4
    | zoneLoaded zoneId =>
        rcases applyZoneLoaded_iff.mp h with ⟨⟨zone, hzone⟩, hnext⟩
        rw [hnext]
        exact Interpreted.zoneLoaded hzone
    | zoneUnloaded zoneId =>
        rcases applyZoneUnloaded_iff.mp h with ⟨⟨zone, hzone⟩, hnext⟩
        rw [hnext]
        exact Interpreted.zoneUnloaded hzone
    | entitySpawned entityId kind position properties =>
        rcases applyEntitySpawned_iff.mp h with
          ⟨zone, hzone, ⟨existing, h1, h2, h3, hnext⟩ | ⟨hfresh, n, hn, hnext⟩⟩
        · rw [hnext]
          exact Interpreted.spawnRepeated hzone h1 h2 h3
        · rw [hnext]
          exact Interpreted.entitySpawned kind properties hzone hfresh hn
    | entityDespawned entityId reason =>
        rcases applyEntityDespawned_iff.mp h with ⟨entity, hremove⟩
        exact Interpreted.entityDespawned reason hremove
    | entityMoved entityId source target =>
        rcases applyEntityMoved_iff.mp h with ⟨entity, zone, other, h1, h2, h3, h4, h5, hnext⟩
        subst h2
        rw [hnext]
        exact Interpreted.entityMoved h1 h3 h4 h5
    | entityStateChanged entityId oldState newState =>
        rcases applyEntityStateChanged_iff.mp h with ⟨entity, hentity, hstate, hnext⟩
        rw [hnext, ← hstate]
        exact Interpreted.entityStateChanged newState hentity
    | entityPropertyChanged entityId property oldValue newValue =>
        rcases applyEntityPropertyChanged_iff.mp h with ⟨entity, f, h1, h2, h3, hnext⟩
        rw [hnext]
        exact Interpreted.entityPropertyChanged h1 h2 h3
    | resourceDepleted entityId amount remaining =>
        rcases applyResourceDepleted_iff.mp h with ⟨entity, h1, h2, h3, hnext⟩
        rw [hnext]
        exact Interpreted.resourceDepleted h1 h2 h3
    | entityDegraded entityId oldHealth newHealth =>
        rcases applyEntityDegraded_iff.mp h with ⟨entity, h1, h2, hnext⟩
        rw [hnext]
        exact Interpreted.entityDegraded newHealth h1 h2
  · intro h
    change Interpreted world tick data next at h
    cases h with
    | worldCreated hsame => exact applyWorldCreated_iff.mpr ⟨hsame, rfl⟩
    | tickProcessed _ _ state => exact (applyTickProcessed_iff htick).mpr ⟨state, rfl, rfl⟩
    | zoneCreated _ hnew => exact applyZoneCreated_iff.mpr (Or.inl ⟨hnew, rfl⟩)
    | zoneRepeated hzone hloaded hempty =>
        exact applyZoneCreated_iff.mpr (Or.inr ⟨_, hzone, rfl, hloaded, hempty, rfl⟩)
    | zoneLoaded hzone => exact applyZoneLoaded_iff.mpr ⟨⟨_, hzone⟩, rfl⟩
    | zoneUnloaded hzone => exact applyZoneUnloaded_iff.mpr ⟨⟨_, hzone⟩, rfl⟩
    | entitySpawned _ _ hzone hfresh hnext =>
        exact applyEntitySpawned_iff.mpr ⟨_, hzone, Or.inr ⟨hfresh, _, hnext, rfl⟩⟩
    | spawnRepeated hzone hexisting hrepeats hmem =>
        exact applyEntitySpawned_iff.mpr
          ⟨_, hzone, Or.inl ⟨_, hexisting, hrepeats, hmem, rfl⟩⟩
    | entityDespawned _ hremove => exact applyEntityDespawned_iff.mpr ⟨_, hremove⟩
    | entityMoved hentity hsource htarget hmem =>
        exact applyEntityMoved_iff.mpr
          ⟨_, _, _, hentity, rfl, hsource, htarget, hmem, rfl⟩
    | entityStateChanged _ hentity =>
        exact applyEntityStateChanged_iff.mpr ⟨_, hentity, rfl, rfl⟩
    | entityPropertyChanged hentity hvalue hset =>
        exact applyEntityPropertyChanged_iff.mpr ⟨_, _, hentity, hvalue, hset, rfl⟩
    | resourceDepleted hentity hsize hamount =>
        exact applyResourceDepleted_iff.mpr ⟨_, hentity, hsize, hamount, rfl⟩
    | entityDegraded _ hentity hhealth =>
        exact applyEntityDegraded_iff.mpr ⟨_, hentity, hhealth, rfl⟩

theorem applyEvent_eq_interpreted {world next : World} {event : SimEvent}
    (h : event.data.isLifecycle = false) :
    applyEvent world event = accept next <->
      gateEvent world event = .ok () ∧
        Interpreted (advanceTo world event.tick) event.tick event.data next := by
  rw [applyEvent_eq_accept h]
  refine and_congr_right fun hgate => interpretEvent_iff ?_ (gateEvent_advanceTo hgate)
  rw [advanceTo_currentTick (gateEvent_tick hgate)]
  exact UInt64.lt_irrefl _

@[simp] theorem advanceTo_entities (world : World) (tick : Tick) :
    (advanceTo world tick).entities = world.entities := by
  unfold advanceTo
  split <;> rfl

@[simp] theorem advanceTo_zones (world : World) (tick : Tick) :
    (advanceTo world tick).zones = world.zones := by
  unfold advanceTo
  split <;> rfl

@[simp] theorem advanceTo_nextEntityId (world : World) (tick : Tick) :
    (advanceTo world tick).nextEntityId = world.nextEntityId := by
  unfold advanceTo
  split <;> rfl

end Seej
