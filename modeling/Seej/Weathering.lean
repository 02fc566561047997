import Seej.InitialPopulation
import Seej.JournalShape
import Seej.LifeCycle

/-!
# Weathering

What ticks do to the entities of a world: they wear their counts down and remove the dead,
but add, move and rename none.  With the journal, which tells every wear, this accounts
for each entity that a creation put into the world.
-/

namespace Seej

open Foundation

/-!
## What ticks leave
-/

structure SameEntity (before after : Entity) : Prop where
  id : after.id = before.id
  kind : after.kind = before.kind
  position : after.position = before.position
  createdAt : after.createdAt = before.createdAt
  name : after.properties.name = before.properties.name

theorem SameEntity.refl (entity : Entity) : SameEntity entity entity :=
  ⟨rfl, rfl, rfl, rfl, rfl⟩

theorem SameEntity.trans {first second third : Entity} (hleft : SameEntity first second)
    (hright : SameEntity second third) : SameEntity first third := by
  constructor
  case id => exact hright.id.trans hleft.id
  case kind => exact hright.kind.trans hleft.kind
  case position => exact hright.position.trans hleft.position
  case createdAt => exact hright.createdAt.trans hleft.createdAt
  case name => exact hright.name.trans hleft.name

structure Weathered (world next : World) : Prop where
  nextEntityId : next.nextEntityId = world.nextEntityId
  entities : forall (id : EntityId) (entity : Entity), next.entities[id]? = some entity ->
    exists before : Entity, world.entities[id]? = some before ∧ SameEntity before entity
  zones : forall zoneId : ZoneId,
    (next.zones[zoneId]?).map Zone.name = (world.zones[zoneId]?).map Zone.name

namespace Weathered

theorem of_eq {world next : World} (hnext : next.nextEntityId = world.nextEntityId)
    (hentities : next.entities = world.entities) (hzones : next.zones = world.zones) :
    Weathered world next := by
  constructor
  case nextEntityId => exact hnext
  case entities =>
    intro id entity hentity
    rw [hentities] at hentity
    exact ⟨entity, hentity, SameEntity.refl entity⟩
  case zones =>
    intro zoneId
    rw [hzones]

theorem trans {first second third : World} (hleft : Weathered first second)
    (hright : Weathered second third) : Weathered first third := by
  constructor
  case nextEntityId => exact hright.nextEntityId.trans hleft.nextEntityId
  case entities =>
    intro id entity hentity
    rcases hright.entities id entity hentity with ⟨middle, hmiddle, hsame⟩
    rcases hleft.entities id middle hmiddle with ⟨before, hbefore, hsame'⟩
    exact ⟨before, hbefore, hsame'.trans hsame⟩
  case zones => exact fun zoneId => (hright.zones zoneId).trans (hleft.zones zoneId)

theorem update (world : World) (id : EntityId) {f : Entity -> Entity}
    (hsame : forall entity : Entity, SameEntity entity (f entity)) :
    Weathered world (world.updateEntity id f) := by
  constructor
  case nextEntityId => rfl
  case entities =>
    intro other entity hentity
    rw [World.updateEntity_getElem?] at hentity
    split at hentity
    · rcases Option.map_eq_some_iff.mp hentity with ⟨before, hbefore, heq⟩
      subst heq
      exact ⟨before, hbefore, hsame before⟩
    · exact ⟨entity, hentity, SameEntity.refl entity⟩
  case zones => exact fun _ => rfl

theorem remove {world next : World} {id : EntityId} {entity : Entity}
    (h : world.removeEntity id = some (entity, next)) : Weathered world next := by
  rcases World.removeEntity_eq_some h with ⟨_, hnext⟩
  rw [hnext]
  constructor
  case nextEntityId => rfl
  case entities =>
    intro other found hfound
    have herase : (world.entities.erase id)[other]? = some found := hfound
    rw [BTreeMap.getElem?_erase] at herase
    split at herase
    · cases herase
    · exact ⟨found, herase, SameEntity.refl found⟩
  case zones =>
    intro zoneId
    show ((world.zones.modify entity.position.zone fun zone => zone.removeEntity id)[zoneId]?).map
      Zone.name = _
    rw [BTreeMap.getElem?_modify]
    split
    · rw [Option.map_map]
      rfl
    · rfl

end Weathered

/-- The events of ticks. -/
def EventData.isOfTick (data : EventData) : Prop :=
  data.isSystemic = true ∨ data.processed ≠ none

theorem EventData.isOfTick.not_lifecycle {data : EventData} (h : data.isOfTick) :
    data.isLifecycle = false := by
  rcases h with hsystemic | hprocessed
  · exact EventData.not_lifecycle_of_systemic hsystemic
  · cases data with
    | tickProcessed _ _ _ _ => rfl
    | _ => exact absurd rfl hprocessed

theorem Interpreted.weathered {world next : World} {tick : Tick} {data : EventData}
    (h : Interpreted world tick data next) (hdata : data.isOfTick) : Weathered world next := by
  unfold EventData.isOfTick at hdata
  cases h with
  | tickProcessed _ _ _ => exact Weathered.of_eq rfl rfl rfl
  | entityDespawned _ hremove => exact Weathered.remove hremove
  | entityStateChanged _ _ => exact Weathered.update _ _ fun _ => ⟨rfl, rfl, rfl, rfl, rfl⟩
  | resourceDepleted _ _ _ => exact Weathered.update _ _ fun _ => ⟨rfl, rfl, rfl, rfl, rfl⟩
  | entityDegraded _ _ _ => exact Weathered.update _ _ fun _ => ⟨rfl, rfl, rfl, rfl, rfl⟩
  | _ => simp [EventData.isSystemic, EventData.processed] at hdata

theorem applyEvent_weathered {world next : World} {event : SimEvent}
    (h : applyEvent world event = accept next) (hdata : event.data.isOfTick) :
    Weathered world next := by
  rcases (applyEvent_eq_interpreted hdata.not_lifecycle).mp h with ⟨_, hinterpreted⟩
  have hmoved : Weathered world (advanceTo world event.tick) :=
    Weathered.of_eq (advanceTo_nextEntityId _ _) (advanceTo_entities _ _) (advanceTo_zones _ _)
  exact hmoved.trans (hinterpreted.weathered hdata)

theorem Replays.weathered {world next : World} {events : List SimEvent}
    (h : Replays world events next)
    (hdata : forall event : SimEvent, event ∈ events -> event.data.isOfTick) :
    Weathered world next := by
  induction h with
  | nil world => exact Weathered.of_eq rfl rfl rfl
  | cons happly _ ih =>
      apply (applyEvent_weathered happly (hdata _ List.mem_cons_self)).trans
      exact ih fun event hmem => hdata event (List.mem_cons_of_mem _ hmem)

theorem Simulation.Ticked.isOfTick {R C : Type} [IRng R] [ISimClock C]
    {sim next : Simulation R C} {world after : World} {events : List SimEvent}
    (h : Simulation.Ticked sim next world after events) (event : SimEvent)
    (hmem : event ∈ events) : event.data.isOfTick := by
  rcases h.shape with ⟨systemic, processed, hevents, hsystemic⟩
  rw [hevents] at hmem
  rcases List.mem_append.mp hmem with hmem | hmem
  · exact Or.inl (hsystemic event hmem).right
  · rw [List.mem_singleton.mp hmem]
    exact Or.inr (Option.some_ne_none _)

/-!
## Journals of ledgers
-/

def Ledger.facts (c : Ledger) : List (Tick × EventData) :=
  (framesEvents c.frames).map SimEvent.fact

section Ledgers

variable [Crc32] [BatchJson] {cmd : CreateWorldCmd} {first c next : Ledger}

theorem Ledger.after_accepted {command : SimCommand} (h : c.after command = some next) :
    exists events : List SimEvent,
      Simulation.Accepted (Simulation.resumed c.world) command events
        (Simulation.resumed next.world) ∧
      next.facts = c.facts ++ events.map SimEvent.fact := by
  rcases Ledger.after_eq_some h with ⟨events, record, hprocess, _, hframes⟩
  refine ⟨events, Simulation.processCommand_ok hprocess, ?_⟩
  have hone : framesEvents [(⟨numberFrom c.nextId events, record⟩ : WalFrame)] =
      numberFrom c.nextId events := List.append_nil _
  unfold Ledger.facts
  rw [hframes, framesEvents_append, hone, List.map_append, numberFrom_facts]

theorem Ledger.afterAll_invariant {P : Ledger -> Prop} {commands : List SimCommand}
    (hstep : forall (command : SimCommand) (before after : Ledger), command ∈ commands ->
      P before -> before.after command = some after -> P after)
    (h : first.afterAll commands = some c) (hfirst : P first) : P c := by
  induction commands generalizing first with
  | nil =>
      cases h
      exact hfirst
  | cons command rest ih =>
      rcases Option.bind_eq_some_iff.mp h with ⟨middle, hone, hrest⟩
      apply ih (fun other before after hmem => hstep other before after
        (List.mem_cons_of_mem _ hmem)) hrest
      exact hstep command first middle List.mem_cons_self hfirst hone

structure Explained (cmd : CreateWorldCmd) (c : Ledger) : Prop where
  integrity : WorldIntegrity c.world
  chronicle : Chronicle c.facts c.world
  journal : c.world.currentTick.val ≠ u64Max -> Journal cmd c.facts c.world.currentTick

theorem Ledger.genesis_facts (h : Ledger.genesis cmd = some c) :
    c.world = World.new cmd.name cmd.seed ∧
      c.facts = (Simulation.genesisEvents cmd).map SimEvent.fact := by
  unfold Ledger.genesis Ledger.write at h
  split at h
  · cases h
  · rename_i record _
    cases h
    constructor
    · rfl
    · unfold Ledger.facts
      rw [List.nil_append]
      show (numberFrom _ (Simulation.genesisEvents cmd) ++ []).map SimEvent.fact = _
      rw [List.append_nil, numberFrom_facts]

theorem Explained.genesis (h : Ledger.genesis cmd = some c) : Explained cmd c := by
  rcases Ledger.genesis_facts h with ⟨hworld, hfacts⟩
  constructor
  case integrity =>
    rw [hworld]
    exact (Simulation.genesis_advances cmd).integrity
  case chronicle =>
    rw [hworld, hfacts]
    apply (Chronicle.new cmd.name cmd.seed).silent _ rfl rfl
    intro fact hmem
    rcases List.mem_cons.mp hmem with hfirst | hmem
    · rw [hfirst]
      rfl
    · rw [List.mem_singleton.mp hmem]
      rfl
  case journal =>
    intro _
    rw [hworld, hfacts]
    exact Journal.genesis

theorem Explained.after {command : SimCommand} (h : Explained cmd c)
    (hafter : c.after command = some next) : Explained cmd next := by
  rcases Ledger.after_accepted hafter with ⟨events, haccepted, hfacts⟩
  rcases haccepted.advances rfl h.integrity with ⟨world, hworld, hadvance⟩
  cases hworld
  constructor
  case integrity => exact hadvance.integrity
  case chronicle =>
    rcases haccepted.chronicles rfl h.integrity with ⟨world, hworld, hchronicles⟩
    cases hworld
    rw [hfacts]
    exact hchronicles.chronicle _ h.chronicle
  case journal =>
    intro hmax
    have hle : c.world.currentTick ≤ next.world.currentTick :=
      hadvance.replays.continues.tick_le
    rw [hfacts]
    exact haccepted.journal rfl h.integrity rfl hmax (h.journal (Tick.ne_max_of_le hle hmax))

theorem Explained.afterAll {commands : List SimCommand} (h : Explained cmd first)
    (hafter : first.afterAll commands = some c) : Explained cmd c :=
  Ledger.afterAll_invariant (P := Explained cmd) (fun _ _ _ _ hbefore hone => hbefore.after hone)
    hafter h

theorem Settled.explained {spawned : List SpawnEntityCmd} (h : Settled cmd spawned c) :
    Explained cmd c := by
  rcases h.reached with ⟨first, hgenesis, hreached⟩
  exact (Explained.genesis hgenesis).afterAll hreached

theorem Later.explained {n : Nat} (h : Later first n c) (hfirst : Explained cmd first) :
    Explained cmd c :=
  hfirst.afterAll h.ticks

/-!
## Ticks of a ledger
-/

structure Weathers (first c : Ledger) : Prop where
  world : Weathered first.world c.world
  facts : exists events : List SimEvent, c.facts = first.facts ++ events.map SimEvent.fact ∧
    forall event : SimEvent, event ∈ events -> event.data.isOfTick

omit [Crc32] [BatchJson] in
theorem Weathers.refl (c : Ledger) : Weathers c c := by
  constructor
  case world => exact Weathered.of_eq rfl rfl rfl
  case facts => exact ⟨[], (List.append_nil _).symm, nofun⟩

theorem Weathers.tick (h : Weathers first c) (hintegrity : WorldIntegrity c.world)
    (hafter : c.after .tick = some next) : Weathers first next := by
  rcases Ledger.after_accepted hafter with ⟨events, haccepted, hfacts⟩
  generalize hsim : Simulation.resumed next.world = sim at haccepted
  cases haccepted with
  | tick htick =>
      rcases Simulation.cmdTick_ticked rfl hintegrity htick with ⟨after, events, hticked⟩
      have hworld : (Simulation.resumed next.world).world = some after := by
        rw [hsim]
        exact hticked.loaded
      cases hworld
      have hpending := hticked.pending
      rw [hpending] at hfacts
      change next.facts = c.facts ++ events.map SimEvent.fact at hfacts
      rcases h.facts with ⟨earlier, hearlier, hquiet⟩
      constructor
      case world => exact h.world.trans (hticked.replays.weathered hticked.isOfTick)
      case facts =>
        refine ⟨earlier ++ events, ?_, ?_⟩
        · rw [hfacts, hearlier, List.map_append, List.append_assoc]
        · intro event hmem
          rcases List.mem_append.mp hmem with hmem | hmem
          · exact hquiet event hmem
          · exact hticked.isOfTick event hmem

theorem Later.weathers {n : Nat} (h : Later first n c) (hfirst : Explained cmd first) :
    Weathers first c := by
  have hboth : Explained cmd c ∧ Weathers first c := by
    apply Ledger.afterAll_invariant (P := fun c => Explained cmd c ∧ Weathers first c) _ h.ticks
    · exact ⟨hfirst, Weathers.refl first⟩
    · rintro command before after hmem ⟨hexplained, hweathers⟩ hone
      rw [List.eq_of_mem_replicate hmem] at hone
      exact ⟨hexplained.after hone, hweathers.tick hexplained.integrity hone⟩
  exact hboth.right

/-!
## Accounts
-/

def SpawnEntityCmd.told (spawn : SpawnEntityCmd) (id : EntityId) : EventData :=
  .entitySpawned id spawn.kind spawn.position spawn.properties

structure Enlisted (spawned : List SpawnEntityCmd) (c : Ledger) : Prop where
  next : c.world.nextEntityId.toNat = spawned.length + 1
  told : forall id : EntityId, ofEntity id c.facts =
    ((numbered spawned id).map fun spawn => spawn.told id).toList

theorem Enlisted.spawn {spawned : List SpawnEntityCmd} (h : Enlisted spawned c)
    {spawn : SpawnEntityCmd} (hafter : c.after (.spawnEntity spawn) = some next) :
    Enlisted (spawned ++ [spawn]) next := by
  rcases Ledger.after_accepted hafter with ⟨events, haccepted, hfacts⟩
  generalize hsim : Simulation.resumed next.world = sim at haccepted
  cases haccepted with
  | @spawnEntity _ world allocated id hworld _ hid =>
      cases hworld
      rcases World.allocateEntityId_eq_some hid with ⟨hnumber, hnext, _⟩
      have hplace : id.val.toNat = spawned.length + 1 := by
        rw [hnumber]
        exact h.next
      have hlast := Option.some.inj (congrArg Simulation.world hsim)
      constructor
      case next =>
        rw [hlast, List.length_append]
        show allocated.nextEntityId.toNat = _
        rw [hnext]
        exact congrArg Nat.succ h.next
      case told =>
        intro other
        rw [hfacts, ofEntity_append, h.told, numbered_snoc hplace]
        split
        · rename_i hsame
          subst hsame
          have hfresh : numbered spawned id = none := by
            unfold numbered
            rw [hplace, Nat.add_sub_cancel, List.getElem?_eq_none (Nat.le_refl _)]
            exact ite_self _
          rw [hfresh]
          exact ofEntity_of_named fun fact hmem => by
            rw [List.mem_singleton.mp hmem]
            rfl
        · rename_i hother
          have hnothing : ofEntity other ([SimEvent.new c.world.currentTick
              (.entitySpawned id spawn.kind spawn.position spawn.properties)].map
                SimEvent.fact) = [] := by
            apply ofEntity_eq_nil
            intro fact hmem hnamed
            rw [List.mem_singleton.mp hmem] at hnamed
            exact hother (Option.some.inj hnamed)
          rw [hnothing, List.append_nil]

theorem Enlisted.afterAll {before spawned : List SpawnEntityCmd} (h : Enlisted before first)
    (hafter : first.afterAll (spawned.map SimCommand.spawnEntity) = some c) :
    Enlisted (before ++ spawned) c := by
  induction spawned generalizing before first with
  | nil =>
      cases hafter
      rw [List.append_nil]
      exact h
  | cons spawn rest ih =>
      rcases Option.bind_eq_some_iff.mp hafter with ⟨middle, hone, hrest⟩
      rw [List.append_cons]
      exact ih (h.spawn hone) hrest

theorem Enlisted.genesis (h : Ledger.genesis cmd = some c) : Enlisted [] c := by
  have hfacts := Ledger.genesis_facts h
  constructor
  case next =>
    rw [hfacts.left]
    rfl
  case told =>
    intro id
    rw [hfacts.right]
    have hnone : numbered [] id = none := by
      unfold numbered
      exact ite_self _
    rw [hnone]
    apply ofEntity_eq_nil
    intro fact hmem hnamed
    rcases List.mem_cons.mp hmem with hfirst | hmem
    · rw [hfirst] at hnamed
      cases hnamed
    · rw [List.mem_singleton.mp hmem] at hnamed
      cases hnamed

theorem Settled.enlisted {spawned : List SpawnEntityCmd} (h : Settled cmd spawned c) :
    Enlisted spawned c := by
  rcases h.reached with ⟨first, hgenesis, hreached⟩
  exact (Enlisted.genesis hgenesis).afterAll hreached

/-- The origin zone is the only one. -/
def OnlyOrigin (world : World) : Prop :=
  forall zoneId : ZoneId, (world.zones[zoneId]?).map Zone.name =
    if zoneId = ZoneId.origin then some (some "Origin") else none

omit [Crc32] [BatchJson] in
theorem OnlyOrigin.new (name : String) (seed : RngSeed) : OnlyOrigin (World.new name seed) := by
  intro zoneId
  show (((∅ : BTreeMap ZoneId Zone).insert ZoneId.origin
    (Zone.new ZoneId.origin (some "Origin")))[zoneId]?).map Zone.name = _
  rw [BTreeMap.getElem?_insert]
  by_cases h : ZoneId.origin = zoneId
  · rw [if_pos h, if_pos h.symm]
    rfl
  · rw [if_neg h, if_neg (Ne.symm h)]
    rfl

theorem Settled.onlyOrigin {spawned : List SpawnEntityCmd} (h : Settled cmd spawned c) :
    OnlyOrigin c.world := by
  rcases h.reached with ⟨first, hgenesis, hreached⟩
  have hnew : OnlyOrigin first.world := by
    rw [(Ledger.genesis_facts hgenesis).left]
    exact OnlyOrigin.new _ _
  refine Ledger.afterAll_invariant (P := fun c => OnlyOrigin c.world) ?_ hreached hnew
  intro command before after hmem hbefore hone zoneId
  rcases List.mem_map.mp hmem with ⟨spawn, _, hcommand⟩
  subst hcommand
  rcases Ledger.after_accepted hone with ⟨events, haccepted, _⟩
  generalize hsim : Simulation.resumed after.world = sim at haccepted
  cases haccepted with
  | spawnEntity hworld _ hid =>
      cases hworld
      rcases World.allocateEntityId_eq_some hid with ⟨_, _, hallocated⟩
      rw [Option.some.inj (congrArg Simulation.world hsim), World.addEntity_zones_getElem?,
        hallocated, ← hbefore zoneId]
      split
      · rw [Option.map_map]
        congr 1
        funext zone
        show (zone.addEntity _).name = zone.name
        unfold Zone.addEntity
        split <;> rfl
      · rfl

/-- What the journal and the spawns of a creation say of the entities of a world: each is
one of the spawned, worn as often as is recorded, and the record of each begins with its
spawn. -/
structure Accounts (spawned : List SpawnEntityCmd) (facts : List (Tick × EventData))
    (world : World) : Prop where
  nextEntityId : world.nextEntityId.toNat = spawned.length + 1
  entities : forall (id : EntityId) (entity : Entity), world.entities[id]? = some entity ->
    exists spawn : SpawnEntityCmd, numbered spawned id = some spawn ∧
      SameEntity (spawn.entity id) entity
  lives : forall id : EntityId, Lives id (ofEntity id facts) world.entities[id]?
  spawns : forall id : EntityId,
    (ofEntity id facts).head? = (numbered spawned id).map fun spawn => spawn.told id
  zones : OnlyOrigin world

omit [Crc32] [BatchJson] in
theorem ofEntity_head? {events : List SimEvent} {facts : List (Tick × EventData)} {id : EntityId}
    {left : Option Entity} (hquiet : forall event : SimEvent, event ∈ events -> event.data.isOfTick)
    (hlives : Lives id (ofEntity id (facts ++ events.map SimEvent.fact)) left) :
    (ofEntity id (facts ++ events.map SimEvent.fact)).head? = (ofEntity id facts).head? := by
  rw [ofEntity_append] at hlives ⊢
  cases hbefore : ofEntity id facts with
  | cons data rest => rfl
  | nil =>
      rw [hbefore, List.nil_append] at hlives
      cases hadded : ofEntity id (events.map SimEvent.fact) with
      | nil => rfl
      | cons data rest =>
          exfalso
          have hmem : data ∈ ofEntity id (events.map SimEvent.fact) := by
            rw [hadded]
            exact List.mem_cons_self
          rcases List.mem_map.mp (List.mem_filter.mp hmem).left with ⟨fact, hfact, hdata⟩
          rcases List.mem_map.mp hfact with ⟨event, hevent, heq⟩
          have hofTick := hquiet event hevent
          have hsame : event.data = data := by
            rw [← hdata, ← heq]
            rfl
          rw [hsame] at hofTick
          have hspawned : exists (kind : EntityKind) (position : WorldPos)
              (properties : EntityProperties), data = .entitySpawned id kind position properties := by
            have hstory := hlives.story
            rw [hadded] at hstory
            generalize hlist : data :: rest = told at hstory
            cases hstory with
            | unborn => cases hlist
            | lived _ _ _ => exact ⟨_, _, _, (List.cons.inj hlist).left⟩
          rcases hspawned with ⟨_, _, _, heq'⟩
          rw [heq'] at hofTick
          rcases hofTick with hsystemic | hprocessed
          · cases hsystemic
          · exact hprocessed rfl

/-- After any ticks the journal accounts for the entities of a creation. -/
theorem Settled.accounts {spawned : List SpawnEntityCmd} {n : Nat} (h : Settled cmd spawned first)
    (hlater : Later first n c) : Accounts spawned c.facts c.world := by
  have hpeopled := h.peopledBy
  have hweathers := hlater.weathers h.explained
  have hlives := (hlater.explained h.explained).chronicle.lives
  constructor
  case nextEntityId => rw [hweathers.world.nextEntityId, hpeopled.next]
  case entities =>
    intro id entity hentity
    rcases hweathers.world.entities id entity hentity with ⟨before, hbefore, hsame⟩
    rw [hpeopled.entities id, ← numbered_map] at hbefore
    rcases Option.map_eq_some_iff.mp hbefore with ⟨spawn, hspawn, heq⟩
    subst heq
    exact ⟨spawn, hspawn, hsame⟩
  case lives => exact hlives
  case spawns =>
    intro id
    rcases hweathers.facts with ⟨events, hfacts, hquiet⟩
    have hone := hlives id
    rw [hfacts] at hone ⊢
    rw [ofEntity_head? hquiet hone, h.enlisted.told id]
    cases numbered spawned id <;> rfl
  case zones => exact fun zoneId => (hweathers.world.zones zoneId).trans (h.onlyOrigin zoneId)

end Ledgers

end Seej
