import Seej.Foundation.Traces
import Seej.LiveReplay

/-!
# Entity histories

The events that name one entity tell its life: it is spawned, its amount or health
wears down by one at a time, at zero it dies, and it is removed once.  `Lives` says
where in its life the world has the entity, and `Chronicle` keeps this for all
entities at once, through every push of the engine.
-/

namespace Seej

open Foundation

/-!
## Lives
-/

def EventData.namedEntity : EventData -> Option EntityId
  | .entitySpawned id _ _ _ => some id
  | .entityDespawned id _ => some id
  | .entityMoved id _ _ => some id
  | .entityStateChanged id _ _ => some id
  | .entityPropertyChanged id _ _ _ => some id
  | .resourceDepleted id _ _ => some id
  | .entityDegraded id _ _ => some id
  | _ => none

def ofEntity (id : EntityId) (facts : List (Tick × EventData)) : List EventData :=
  (facts.map Prod.snd).filter fun data => data.namedEntity = some id

/-- The count that the rule of a kind wears down. -/
def vital (kind : EntityKind) (properties : EntityProperties) : Option UInt32 :=
  match kind with
  | .resource => properties.amount
  | .creature => properties.health
  | _ => none

/-- The event of a wear from `value`. -/
def wearEvent (kind : EntityKind) (id : EntityId) (value : UInt32) : EventData :=
  match kind with
  | .resource => .resourceDepleted id 1 (value - 1)
  | _ => .entityDegraded id value (value - 1)

/-- The first `count` wears from `start`. -/
def wear (kind : EntityKind) (id : EntityId) (start : UInt32) (count : Nat) : List EventData :=
  (List.range count).map fun n => wearEvent kind id (start - UInt32.ofNat n)

def death (id : EntityId) (start : UInt32) (count : Nat) : List EventData :=
  if 0 < count ∧ count = start.toNat then [.entityStateChanged id .active .dead] else []

/-- The events of an entity in order: none, or one spawn, the wear of its count without
a gap, its death if the count is worn out, and at most one removal. -/
inductive LifeStory (id : EntityId) : List EventData -> Prop where
  | unborn : LifeStory id []
  | lived {kind : EntityKind} {position : WorldPos} {properties : EntityProperties}
      {start : UInt32} {count : Nat} {ending : List EventData}
      (hstart : (vital kind properties).getD 0 = start) (hcount : count ≤ start.toNat)
      (hending : ending = [] ∨ ending = [.entityDespawned id .command] ∨
        (ending = [.entityDespawned id .death] ∧ death id start count ≠ [])) :
      LifeStory id (.entitySpawned id kind position properties ::
        (wear kind id start count ++ death id start count ++ ending))

/-- The life that was told, and what is left of the entity. -/
inductive Lives (id : EntityId) (told : List EventData) : Option Entity -> Prop where
  | absent (h : LifeStory id told) : Lives id told none
  | alive {entity : Entity} {position : WorldPos} {properties : EntityProperties}
      {start : UInt32} {count : Nat} (hstate : entity.state = .active)
      (hstart : (vital entity.kind properties).getD 0 = start)
      (hvital : (vital entity.kind entity.properties).getD 0 = start - UInt32.ofNat count)
      (hcount : count = 0 ∨ count < start.toNat)
      (htold : told = .entitySpawned id entity.kind position properties ::
        wear entity.kind id start count) : Lives id told (some entity)
  | dead {entity : Entity} {kind : EntityKind} {position : WorldPos}
      {properties : EntityProperties} {start : UInt32} (hstate : entity.state = .dead)
      (hstart : (vital kind properties).getD 0 = start) (hpos : 0 < start.toNat)
      (htold : told = .entitySpawned id kind position properties ::
        (wear kind id start start.toNat ++ [.entityStateChanged id .active .dead])) :
      Lives id told (some entity)

theorem wear_succ (kind : EntityKind) (id : EntityId) (start : UInt32) (count : Nat) :
    wear kind id start (count + 1) =
      wear kind id start count ++ [wearEvent kind id (start - UInt32.ofNat count)] := by
  rw [wear, List.range_succ, List.map_append]
  rfl

theorem death_eq_nil {id : EntityId} {start : UInt32} {count : Nat}
    (h : count = 0 ∨ count < start.toNat) : death id start count = [] := by
  apply if_neg
  omega

theorem death_of_worn {id : EntityId} {start : UInt32} (h : 0 < start.toNat) :
    death id start start.toNat = [.entityStateChanged id .active .dead] :=
  if_pos ⟨h, rfl⟩

theorem toNat_sub_ofNat {start : UInt32} {count : Nat} (h : count ≤ start.toNat) :
    (start - UInt32.ofNat count).toNat = start.toNat - count := by
  have hcount : (UInt32.ofNat count).toNat = count :=
    UInt32.toNat_ofNat_of_lt' (Nat.lt_of_le_of_lt h start.toNat_lt)
  have hle : UInt32.ofNat count ≤ start := by
    rw [UInt32.le_iff_toNat_le, hcount]
    exact h
  rw [UInt32.toNat_sub_of_le _ _ hle, hcount]

namespace Lives

variable {id : EntityId} {told : List EventData} {entity : Entity}

theorem story {left : Option Entity} (h : Lives id told left) : LifeStory id told := by
  cases h with
  | absent h => exact h
  | @alive entity position properties start count hstate hstart hvital hcount htold =>
      have hlived : LifeStory id (.entitySpawned id entity.kind position properties ::
          (wear entity.kind id start count ++ death id start count ++ [])) :=
        LifeStory.lived hstart (by omega) (Or.inl rfl)
      rw [death_eq_nil hcount, List.append_nil, List.append_nil] at hlived
      rw [htold]
      exact hlived
  | @dead entity kind position properties start hstate hstart hpos htold =>
      have hlived : LifeStory id (.entitySpawned id kind position properties ::
          (wear kind id start start.toNat ++ death id start start.toNat ++ [])) :=
        LifeStory.lived hstart (Nat.le_refl _) (Or.inl rfl)
      rw [death_of_worn hpos, List.append_nil] at hlived
      rw [htold]
      exact hlived

/-!
### Events of a life
-/

theorem spawned (kind : EntityKind) (position : WorldPos) (tick : Tick)
    (properties : EntityProperties) :
    Lives id [.entitySpawned id kind position properties]
      (some (Entity.new id kind position tick properties)) := by
  refine @Lives.alive id _ _ position properties _ 0 rfl rfl ?_ (Or.inl rfl) rfl
  show _ = _ - UInt32.ofNat 0
  exact (UInt32.sub_zero _).symm

theorem count_of_vital {start value : UInt32} {count : Nat}
    (hcount : count = 0 ∨ count < start.toNat) (hvalue : value = start - UInt32.ofNat count)
    (hpos : 0 < value) :
    count < start.toNat ∧ value.toNat = start.toNat - count ∧
      value - 1 = start - UInt32.ofNat (count + 1) := by
  have hlt : start.toNat < 4294967296 := start.toNat_lt
  have hnat : 0 < value.toNat := UInt32.lt_iff_toNat_lt.mp hpos
  have hle : count ≤ start.toNat := by omega
  have hleft := toNat_sub_ofNat hle
  rw [← hvalue] at hleft
  have hbelow : count < start.toNat := by omega
  refine ⟨hbelow, hleft, ?_⟩
  apply UInt32.toNat_inj.mp
  have hsucc := @toNat_sub_ofNat start (count + 1) (by omega)
  have hpred := (TickState.toNat_pred hpos).left
  omega

theorem wears (h : Lives id told (some entity)) (hstate : entity.state = .active)
    {value : UInt32} (hvalue : vital entity.kind entity.properties = some value)
    (hpos : 0 < value) (hleft : value - 1 ≠ 0) {worn : Entity}
    (hkind : worn.kind = entity.kind)
    (hworn : vital worn.kind worn.properties = some (value - 1))
    (hactive : worn.state = .active) :
    Lives id (told ++ [wearEvent entity.kind id value]) (some worn) := by
  cases h with
  | dead hdead _ _ _ =>
      rw [hstate] at hdead
      cases hdead
  | @alive _ position properties start count _ hstart hvital hcount htold =>
      rw [hvalue, Option.getD_some] at hvital
      rcases count_of_vital hcount hvital hpos with ⟨hbelow, hnat, hnext⟩
      rw [← hkind] at hstart htold ⊢
      refine @Lives.alive id _ _ position properties _ (count + 1) hactive hstart ?_
        (Or.inr ?_) ?_
      · rw [hworn, hnext]
        rfl
      · have hpositive : (value - 1).toNat ≠ 0 := fun hzero => hleft (UInt32.toNat_inj.mp hzero)
        have hpred := (TickState.toNat_pred hpos).left
        omega
      · rw [htold, wear_succ, hvital, List.cons_append]

theorem wearsOut (h : Lives id told (some entity)) (hstate : entity.state = .active)
    {value : UInt32} (hvalue : vital entity.kind entity.properties = some value)
    (hpos : 0 < value) (hnone : value - 1 = 0) {worn : Entity} (hdead : worn.state = .dead) :
    Lives id (told ++ [wearEvent entity.kind id value, .entityStateChanged id .active .dead])
      (some worn) := by
  cases h with
  | dead hdead _ _ _ =>
      rw [hstate] at hdead
      cases hdead
  | @alive _ position properties start count _ hstart hvital hcount htold =>
      rw [hvalue, Option.getD_some] at hvital
      rcases count_of_vital hcount hvital hpos with ⟨hbelow, hnat, hnext⟩
      have hpred := (TickState.toNat_pred hpos).left
      have hzero : (value - 1).toNat = 0 := congrArg UInt32.toNat hnone
      have hlast : start.toNat = count + 1 := by omega
      refine @Lives.dead id _ _ _ position properties _ hdead hstart (by omega) ?_
      rw [htold, hlast, wear_succ, ← hvital, List.cons_append, List.append_assoc]
      rfl

theorem removed (h : Lives id told (some entity)) {reason : DespawnReason}
    (hreason : reason = .command ∨ (reason = .death ∧ entity.state = .dead)) :
    Lives id (told ++ [.entityDespawned id reason]) none := by
  apply Lives.absent
  cases h with
  | @alive entity position properties start count hstate hstart hvital hcount htold =>
      have hcommand : reason = .command := by
        rcases hreason with hcommand | ⟨_, hdead⟩
        · exact hcommand
        · rw [hstate] at hdead
          cases hdead
      have hlived : LifeStory id (.entitySpawned id entity.kind position properties ::
          (wear entity.kind id start count ++ death id start count ++
            [.entityDespawned id reason])) :=
        LifeStory.lived hstart (by omega) (Or.inr (Or.inl (by rw [hcommand])))
      rw [death_eq_nil hcount, List.append_nil] at hlived
      rw [htold]
      exact hlived
  | @dead entity kind position properties start hstate hstart hpos htold =>
      have hending : [EventData.entityDespawned id reason] = [.entityDespawned id .command] ∨
          ([EventData.entityDespawned id reason] = [.entityDespawned id .death] ∧
            death id start start.toNat ≠ []) := by
        rcases hreason with hcommand | ⟨hdeath, _⟩
        · rw [hcommand]
          exact Or.inl rfl
        · rw [hdeath, death_of_worn hpos]
          exact Or.inr ⟨rfl, List.cons_ne_nil _ _⟩
      have hlived : LifeStory id (.entitySpawned id kind position properties ::
          (wear kind id start start.toNat ++ death id start start.toNat ++
            [.entityDespawned id reason])) :=
        LifeStory.lived hstart (Nat.le_refl _) (Or.inr hending)
      rw [death_of_worn hpos] at hlived
      rw [htold]
      exact hlived

end Lives

/-!
## Chronicles
-/

/-- The death that must follow at once when a count has reached zero. -/
def dies : Tick × EventData -> Option (Tick × EventData)
  | (tick, .resourceDepleted id _ remaining) =>
      if remaining = 0 then some (tick, .entityStateChanged id .active .dead) else none
  | (tick, .entityDegraded id _ newHealth) =>
      if newHealth = 0 then some (tick, .entityStateChanged id .active .dead) else none
  | _ => none

/-- The facts tell the life of every entity of the world. -/
structure Chronicle (facts : List (Tick × EventData)) (world : World) : Prop where
  lives : forall id : EntityId, Lives id (ofEntity id facts) world.entities[id]?
  fresh : forall id : EntityId, world.nextEntityId ≤ id.val -> ofEntity id facts = []
  prompt : Prompt dies facts
  deaths : forall fact : Tick × EventData, fact ∈ facts -> forall id : EntityId,
    fact.2 = .entityDespawned id .death -> fact.1.val % 100 = 0

theorem dies_wearEvent (tick : Tick) (kind : EntityKind) (id : EntityId) (value : UInt32) :
    dies (tick, wearEvent kind id value) =
      if value - 1 = 0 then some (tick, .entityStateChanged id .active .dead) else none := by
  cases kind <;> rfl

theorem namedEntity_wearEvent (kind : EntityKind) (id : EntityId) (value : UInt32) :
    (wearEvent kind id value).namedEntity = some id := by
  cases kind <;> rfl

theorem dies_of_unnamed {fact : Tick × EventData} (h : fact.2.namedEntity = none) :
    dies fact = none := by
  rcases fact with ⟨tick, data⟩
  cases data <;> simp [EventData.namedEntity] at h <;> rfl

theorem ofEntity_append (id : EntityId) (left right : List (Tick × EventData)) :
    ofEntity id (left ++ right) = ofEntity id left ++ ofEntity id right := by
  rw [ofEntity, List.map_append, List.filter_append]
  rfl

theorem ofEntity_of_named {id : EntityId} {facts : List (Tick × EventData)}
    (h : forall fact : Tick × EventData, fact ∈ facts -> fact.2.namedEntity = some id) :
    ofEntity id facts = facts.map Prod.snd := by
  apply List.filter_eq_self.mpr
  intro data hmem
  rcases List.mem_map.mp hmem with ⟨fact, hfact, heq⟩
  rw [← heq, decide_eq_true_eq]
  exact h fact hfact

theorem ofEntity_eq_nil {id : EntityId} {facts : List (Tick × EventData)}
    (h : forall fact : Tick × EventData, fact ∈ facts -> fact.2.namedEntity ≠ some id) :
    ofEntity id facts = [] := by
  apply List.filter_eq_nil_iff.mpr
  intro data hmem
  rcases List.mem_map.mp hmem with ⟨fact, hfact, heq⟩
  rw [← heq, decide_eq_true_eq]
  exact h fact hfact

namespace Chronicle

variable {facts added : List (Tick × EventData)} {world after : World} {id : EntityId}

theorem below (h : Chronicle facts world) {entity : Entity}
    (hentity : world.entities[id]? = some entity) : id.val < world.nextEntityId := by
  apply UInt64.not_le.mp
  intro hle
  have hlives := h.lives id
  rw [hentity, h.fresh id hle] at hlives
  cases hlives with
  | alive _ _ _ _ htold => cases htold
  | dead _ _ _ htold => cases htold

theorem extend (id : EntityId) (h : Chronicle facts world)
    (hnamed : forall fact : Tick × EventData, fact ∈ added -> fact.2.namedEntity = some id)
    (hlives : Lives id (ofEntity id facts ++ added.map Prod.snd) after.entities[id]?)
    (hother : forall other : EntityId, id ≠ other ->
      after.entities[other]? = world.entities[other]?)
    (hnext : world.nextEntityId ≤ after.nextEntityId) (hbelow : id.val < after.nextEntityId)
    (hprompt : Prompt dies added)
    (hdeaths : forall fact : Tick × EventData, fact ∈ added -> forall other : EntityId,
      fact.2 = .entityDespawned other .death -> fact.1.val % 100 = 0) :
    Chronicle (facts ++ added) after := by
  have hunnamed : forall other : EntityId, id ≠ other -> ofEntity other added = [] := by
    intro other hne
    apply ofEntity_eq_nil
    intro fact hmem heq
    exact hne (Option.some.inj ((hnamed fact hmem).symm.trans heq))
  constructor
  case lives =>
    intro other
    rw [ofEntity_append]
    by_cases heq : id = other
    · rw [← heq, ofEntity_of_named hnamed]
      exact hlives
    · rw [hunnamed other heq, List.append_nil, hother other heq]
      exact h.lives other
  case fresh =>
    intro other hle
    have hne : id ≠ other := by
      intro heq
      rw [← heq] at hle
      exact UInt64.not_lt.mpr hle hbelow
    rw [ofEntity_append, hunnamed other hne, List.append_nil]
    exact h.fresh other (UInt64.le_trans hnext hle)
  case prompt => exact h.prompt.append hprompt
  case deaths =>
    intro fact hmem
    rcases List.mem_append.mp hmem with hmem | hmem
    · exact h.deaths fact hmem
    · exact hdeaths fact hmem

/-- Facts about an entity of the world, which now holds `left` of it. -/
theorem change {entity : Entity} {left : Option Entity} (h : Chronicle facts world)
    (hentity : world.entities[id]? = some entity)
    (hnamed : forall fact : Tick × EventData, fact ∈ added -> fact.2.namedEntity = some id)
    (hlives : Lives id (ofEntity id facts ++ added.map Prod.snd) left)
    (hlookup : forall other : EntityId, after.entities[other]? =
      if id = other then left else world.entities[other]?)
    (hnext : after.nextEntityId = world.nextEntityId) (hprompt : Prompt dies added)
    (hdeaths : forall fact : Tick × EventData, fact ∈ added -> forall other : EntityId,
      fact.2 = .entityDespawned other .death -> fact.1.val % 100 = 0) :
    Chronicle (facts ++ added) after := by
  apply h.extend id hnamed
  case hlives =>
    rw [hlookup, if_pos rfl]
    exact hlives
  case hother =>
    intro other hne
    rw [hlookup, if_neg hne]
  case hnext =>
    rw [hnext]
    exact UInt64.le_refl _
  case hbelow =>
    rw [hnext]
    exact h.below hentity
  case hprompt => exact hprompt
  case hdeaths => exact hdeaths

theorem change_once {entity : Entity} {left : Option Entity} {fact : Tick × EventData}
    (h : Chronicle facts world) (hentity : world.entities[id]? = some entity)
    (hnamed : fact.2.namedEntity = some id)
    (hlives : Lives id (ofEntity id facts ++ [fact.2]) left)
    (hlookup : forall other : EntityId, after.entities[other]? =
      if id = other then left else world.entities[other]?)
    (hnext : after.nextEntityId = world.nextEntityId) (hsurvives : dies fact = none)
    (hdeath : forall other : EntityId,
      fact.2 = .entityDespawned other .death -> fact.1.val % 100 = 0) :
    Chronicle (facts ++ [fact]) after := by
  apply h.change hentity
  case hnamed =>
    intro given hmem
    rw [List.mem_singleton.mp hmem]
    exact hnamed
  case hlives => exact hlives
  case hlookup => exact hlookup
  case hnext => exact hnext
  case hprompt => exact Prompt.single hsurvives
  case hdeaths =>
    intro given hmem other hdespawned
    rw [List.mem_singleton.mp hmem] at hdespawned ⊢
    exact hdeath other hdespawned

theorem silent (h : Chronicle facts world)
    (hunnamed : forall fact : Tick × EventData, fact ∈ added -> fact.2.namedEntity = none)
    (hentities : after.entities = world.entities)
    (hnext : after.nextEntityId = world.nextEntityId) : Chronicle (facts ++ added) after := by
  have hnone : forall other : EntityId, ofEntity other added = [] := by
    intro other
    apply ofEntity_eq_nil
    intro fact hmem
    rw [hunnamed fact hmem]
    exact nofun
  constructor
  case lives =>
    intro other
    rw [ofEntity_append, hnone, List.append_nil, hentities]
    exact h.lives other
  case fresh =>
    intro other hle
    rw [hnext] at hle
    rw [ofEntity_append, hnone, List.append_nil]
    exact h.fresh other hle
  case prompt =>
    apply h.prompt.append
    apply Prompt.of_none
    intro fact hmem
    exact dies_of_unnamed (hunnamed fact hmem)
  case deaths =>
    intro fact hmem other hdespawned
    rcases List.mem_append.mp hmem with hmem | hmem
    · exact h.deaths fact hmem other hdespawned
    · have hnamed := hunnamed fact hmem
      rw [hdespawned] at hnamed
      cases hnamed

end Chronicle

end Seej
