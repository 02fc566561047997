import Mathlib.Data.List.Chain
import Seej.Foundation.Traces
import Seej.InterruptedSaves

/-!
# The shape of the journal

A journal opens with the two events of `CreateWorld`.  After them come the events of
commands, stamped with the last completed tick, and whole ticks: the systemic events
of the next tick, closed by its `TickProcessed`.  Everything that a reader of the
journal relies on follows from this grammar.
-/

namespace Seej

open Foundation

/-!
## The grammar
-/

/-- What a command adds that is neither `CreateWorld` nor a tick. -/
def EventData.isEdit : EventData -> Bool
  | .entitySpawned _ _ _ _ => true
  | .entityDespawned _ reason => reason = .command
  | .zoneCreated _ _ => true
  | _ => false

def EventData.isWorldCreated : EventData -> Bool
  | .worldCreated _ _ _ => true
  | _ => false

/-- The facts of a journal and the last completed tick. -/
inductive Journal (cmd : CreateWorldCmd) : List (Tick × EventData) -> Tick -> Prop where
  | genesis : Journal cmd ((Simulation.genesisEvents cmd).map SimEvent.fact) Tick.zero
  | edit {facts : List (Tick × EventData)} {current : Tick} {data : EventData}
      (h : Journal cmd facts current) (hdata : data.isEdit = true) :
      Journal cmd (facts ++ [(current, data)]) current
  | tick {facts systemic : List (Tick × EventData)} {current : Tick} {processed : UInt32}
      {state : UInt64} (h : Journal cmd facts current) (hmax : current.val ≠ u64Max)
      (hsystemic : forall fact : Tick × EventData, fact ∈ systemic ->
        fact.1 = current.next ∧ fact.2.isSystemic = true) :
      Journal cmd
        (facts ++ (systemic ++ [(current.next,
          .tickProcessed current.next (SimTime.fromTicks current.next) processed (some state))]))
        current.next

/-- The three times of a `TickProcessed`: its stamp, its payload and its `sim_time`. -/
def processedTimes (fact : Tick × EventData) : Option (Nat × Nat × Nat) :=
  match fact.2 with
  | .tickProcessed tick simTime _ _ =>
      some (fact.1.val.toNat, tick.val.toNat, simTime.units.toNat)
  | _ => none

structure JournalShape (facts : List (Tick × EventData)) (current : Tick) : Prop where
  genesis : exists (cmd : CreateWorldCmd) (rest : List (Tick × EventData)),
    facts = [(Tick.zero, .worldCreated (worldIdOfSeed cmd.seed) cmd.name cmd.seed),
      (Tick.zero, .zoneCreated ZoneId.origin (some "Origin"))] ++ rest ∧
    forall fact : Tick × EventData, fact ∈ rest -> fact.2.isWorldCreated = false
  stamps : (facts.map fun fact => fact.1.val.toNat).IsChain fun before after =>
    before ≤ after ∧ after ≤ before + 1
  processed : facts.filterMap processedTimes =
    (List.range' 1 current.val.toNat).map fun n => (n, n, n)
  systemic : forall (before after : List (Tick × EventData)) (fact : Tick × EventData),
    facts = before ++ fact :: after -> fact.2.isSystemic = true ->
      let t := fact.1.val.toNat
      (1 < t -> (t - 1, t - 1, t - 1) ∈ before.filterMap processedTimes) ∧
        (t, t, t) ∈ after.filterMap processedTimes

theorem Tick.next_toNat {tick : Tick} (h : tick.val ≠ u64Max) :
    tick.next.val.toNat = tick.val.toNat + 1 := by
  unfold Tick.next saturatingSucc
  rw [if_neg h]
  exact toNat_succ h

theorem EventData.not_isWorldCreated_of_isEdit {data : EventData} (h : data.isEdit = true) :
    data.isWorldCreated = false := by
  cases data <;> simp [isEdit, isWorldCreated] at h ⊢

theorem processedTimes_of_isEdit {fact : Tick × EventData} (h : fact.2.isEdit = true) :
    processedTimes fact = none := by
  rcases fact with ⟨tick, data⟩
  cases data <;> simp [EventData.isEdit, processedTimes] at h ⊢

theorem processedTimes_of_isSystemic {fact : Tick × EventData} (h : fact.2.isSystemic = true) :
    processedTimes fact = none := by
  rcases fact with ⟨tick, data⟩
  cases data <;> simp [EventData.isSystemic, processedTimes] at h ⊢

theorem EventData.not_isSystemic_of_isEdit {data : EventData} (h : data.isEdit = true) :
    data.isSystemic = false := by
  cases data <;> simp [isEdit, isSystemic] at h ⊢
  rw [h]
  exact DespawnReason.noConfusion

theorem EventData.not_isWorldCreated_of_isSystemic {data : EventData}
    (h : data.isSystemic = true) : data.isWorldCreated = false := by
  cases data <;> simp [isSystemic, isWorldCreated] at h ⊢

namespace Journal

variable {cmd : CreateWorldCmd} {facts : List (Tick × EventData)} {current : Tick}

/-!
## What the grammar says
-/

theorem opens (h : Journal cmd facts current) :
    exists rest : List (Tick × EventData),
      facts = (Simulation.genesisEvents cmd).map SimEvent.fact ++ rest ∧
        forall fact : Tick × EventData, fact ∈ rest -> fact.2.isWorldCreated = false := by
  induction h with
  | genesis => exact ⟨[], (List.append_nil _).symm, nofun⟩
  | edit _ hdata ih =>
      rcases ih with ⟨rest, hfacts, hrest⟩
      refine ⟨rest ++ [_], by rw [hfacts, List.append_assoc], ?_⟩
      intro fact hmem
      rcases List.mem_append.mp hmem with hmem | hmem
      · exact hrest fact hmem
      · rw [List.mem_singleton.mp hmem]
        exact EventData.not_isWorldCreated_of_isEdit hdata
  | tick _ _ hsystemic ih =>
      rcases ih with ⟨rest, hfacts, hrest⟩
      refine ⟨rest ++ (_ ++ [_]), by rw [hfacts, List.append_assoc], ?_⟩
      intro fact hmem
      rcases List.mem_append.mp hmem with hmem | hmem
      · exact hrest fact hmem
      · rcases List.mem_append.mp hmem with hmem | hmem
        · exact EventData.not_isWorldCreated_of_isSystemic (hsystemic fact hmem).right
        · rw [List.mem_singleton.mp hmem]
          rfl

theorem processed_eq (h : Journal cmd facts current) :
    facts.filterMap processedTimes =
      (List.range' 1 current.val.toNat).map fun n => (n, n, n) := by
  induction h with
  | genesis => rfl
  | edit _ hdata ih =>
      rw [List.filterMap_append, ih, List.filterMap_cons_none (processedTimes_of_isEdit hdata)]
      exact List.append_nil _
  | @tick facts systemic current processed state _ hmax hsystemic ih =>
      have hnone : systemic.filterMap processedTimes = [] := by
        apply List.filterMap_eq_nil_iff.mpr
        intro fact hmem
        exact processedTimes_of_isSystemic (hsystemic fact hmem).right
      rw [List.filterMap_append, List.filterMap_append, ih, hnone, List.nil_append,
        Tick.next_toNat hmax, List.range'_1_concat, List.map_append]
      show _ ++ [(current.next.val.toNat, current.next.val.toNat, current.next.val.toNat)] = _
      rw [Tick.next_toNat hmax, Nat.add_comm]
      rfl

theorem getLast? (h : Journal cmd facts current) :
    (facts.map fun fact => fact.1.val.toNat).getLast? = some current.val.toNat := by
  cases h with
  | genesis => rfl
  | edit _ _ => simp
  | tick _ _ _ => simp

theorem stamps (h : Journal cmd facts current) :
    (facts.map fun fact => fact.1.val.toNat).IsChain fun before after =>
      before ≤ after ∧ after ≤ before + 1 := by
  induction h with
  | genesis =>
      exact List.IsChain.cons_cons ⟨Nat.le_refl _, Nat.le_succ _⟩ (List.IsChain.singleton _)
  | edit h _ ih =>
      rw [List.map_append]
      refine List.IsChain.append ih (List.IsChain.singleton _) ?_
      intro before hbefore after hafter
      rw [h.getLast?] at hbefore
      cases hbefore
      cases hafter
      exact ⟨Nat.le_refl _, Nat.le_succ _⟩
  | @tick facts systemic current processed state h hmax hsystemic ih =>
      rw [List.map_append]
      have hnext : forall n : Nat, n ∈ ((systemic ++ [(current.next,
          EventData.tickProcessed current.next (SimTime.fromTicks current.next) processed
            (some state))]).map fun fact => fact.1.val.toNat) ->
          n = current.val.toNat + 1 := by
        intro n hmem
        rcases List.mem_map.mp hmem with ⟨fact, hfact, heq⟩
        rw [← Tick.next_toNat hmax, ← heq]
        rcases List.mem_append.mp hfact with hfact | hfact
        · rw [(hsystemic fact hfact).left]
        · rw [List.mem_singleton.mp hfact]
      refine List.IsChain.append ih ?_ ?_
      · refine List.Pairwise.isChain (List.pairwise_of_forall_mem_list ?_)
        intro before hbefore after hafter
        rw [hnext before hbefore, hnext after hafter]
        exact ⟨Nat.le_refl _, Nat.le_succ _⟩
      · intro before hbefore after hafter
        rw [h.getLast?] at hbefore
        cases hbefore
        rw [hnext after (List.mem_of_mem_head? hafter)]
        exact ⟨Nat.le_succ _, Nat.le_refl _⟩

theorem processed_mem (h : Journal cmd facts current) {n : Nat} (hpos : 0 < n)
    (hle : n ≤ current.val.toNat) : (n, n, n) ∈ facts.filterMap processedTimes := by
  rw [h.processed_eq]
  exact List.mem_map.mpr ⟨n, List.mem_range'_1.mpr ⟨hpos, by omega⟩, rfl⟩

/-- A systemic event lies between the ends of two ticks. -/
theorem systemic_between (h : Journal cmd facts current)
    {before after : List (Tick × EventData)} {fact : Tick × EventData}
    (hfacts : facts = before ++ fact :: after) (hdata : fact.2.isSystemic = true) :
    (1 < fact.1.val.toNat ->
      (fact.1.val.toNat - 1, fact.1.val.toNat - 1, fact.1.val.toNat - 1) ∈
        before.filterMap processedTimes) ∧
      (fact.1.val.toNat, fact.1.val.toNat, fact.1.val.toNat) ∈
        after.filterMap processedTimes := by
  induction h generalizing after with
  | genesis =>
      have hmem : fact ∈ (Simulation.genesisEvents cmd).map SimEvent.fact := by
        rw [hfacts]
        exact List.mem_append_right _ List.mem_cons_self
      rcases List.mem_cons.mp hmem with hfirst | hmem
      · rw [hfirst] at hdata
        cases hdata
      · rw [List.mem_singleton.mp hmem] at hdata
        cases hdata
  | edit _ hedit ih =>
      rcases append_eq_append_cons hfacts with ⟨tail, hold, hafter⟩ | ⟨head, _, hlast⟩
      · rcases ih hold with ⟨hstarted, hended⟩
        refine ⟨hstarted, ?_⟩
        rw [hafter, List.filterMap_append]
        exact List.mem_append_left _ hended
      · have hmem : fact ∈ head ++ fact :: after := List.mem_append_right _ List.mem_cons_self
        rw [← hlast] at hmem
        rw [List.mem_singleton.mp hmem, EventData.not_isSystemic_of_isEdit hedit] at hdata
        cases hdata
  | @tick facts systemic current processed state h hmax hsystemic ih =>
      rcases append_eq_append_cons hfacts with ⟨tail, hold, hafter⟩ | ⟨head, hbefore, hnew⟩
      · rcases ih hold with ⟨hstarted, hended⟩
        refine ⟨hstarted, ?_⟩
        rw [hafter, List.filterMap_append]
        exact List.mem_append_left _ hended
      · rcases append_eq_append_cons hnew with ⟨tail, hin, hafter⟩ | ⟨head', _, hlast⟩
        · have hmem : fact ∈ systemic := by
            rw [hin]
            exact List.mem_append_right _ List.mem_cons_self
          rw [(hsystemic fact hmem).left, Tick.next_toNat hmax]
          constructor
          · intro hlater
            rw [hbefore, List.filterMap_append]
            exact List.mem_append_left _ (h.processed_mem (by omega) (Nat.le_refl _))
          · rw [hafter, List.filterMap_append, ← Tick.next_toNat hmax]
            exact List.mem_append_right _ List.mem_cons_self
        · have hmem : fact ∈ head' ++ fact :: after :=
            List.mem_append_right _ List.mem_cons_self
          rw [← hlast] at hmem
          rw [List.mem_singleton.mp hmem] at hdata
          cases hdata

theorem shape (h : Journal cmd facts current) : JournalShape facts current := by
  constructor
  case genesis =>
    rcases h.opens with ⟨rest, hfacts, hrest⟩
    exact ⟨cmd, rest, hfacts, hrest⟩
  case stamps => exact h.stamps
  case processed => exact h.processed_eq
  case systemic =>
    intro before after fact hfacts hdata
    exact h.systemic_between hfacts hdata

end Journal

/-!
## Accepted commands keep the grammar
-/

theorem Tick.ne_max_of_next {tick : Tick} (h : tick.next.val ≠ u64Max) : tick.val ≠ u64Max := by
  intro hmax
  apply h
  unfold Tick.next saturatingSucc
  rw [if_pos hmax]
  exact hmax

theorem Tick.ne_max_of_le {tick later : Tick} (hle : tick ≤ later) (h : later.val ≠ u64Max) :
    tick.val ≠ u64Max := by
  intro hmax
  have hnat : tick.val.toNat ≤ later.val.toNat := hle
  have hlt : later.val.toNat < 18446744073709551616 := later.val.toNat_lt
  have hne := toNat_ne_max h
  have hend : tick.val.toNat = 18446744073709551615 := by
    rw [hmax]
    rfl
  omega

namespace Simulation

variable {R C : Type} [IRng R] [ISimClock C] {sim next : Simulation R C} {world : World}
  {cmd : CreateWorldCmd} {facts : List (Tick × EventData)}

theorem Ticked.journal {after : World} {events : List SimEvent}
    (h : Ticked sim next world after events) (hmax : after.currentTick.val ≠ u64Max)
    (hjournal : Journal cmd facts world.currentTick) :
    Journal cmd (facts ++ events.map SimEvent.fact) after.currentTick := by
  rcases h.shape with ⟨systemic, processed, hevents, hsystemic⟩
  have htick := h.tick
  rw [htick] at hmax hsystemic ⊢
  have hclosing : (tickEvent after processed).fact = (world.currentTick.next,
      .tickProcessed world.currentTick.next (SimTime.fromTicks world.currentTick.next) processed
        (some after.rngState)) := by
    rw [← htick]
    rfl
  rw [hevents, List.map_append, List.map_singleton, hclosing]
  apply hjournal.tick (Tick.ne_max_of_next hmax)
  intro fact hmem
  rcases List.mem_map.mp hmem with ⟨event, hin, heq⟩
  rw [← heq]
  exact hsystemic event hin

theorem cmdTickN_journal {n : Nat} (hworld : sim.world = some world)
    (hintegrity : WorldIntegrity world) (h : sim.cmdTickN n = some (.ok (), next)) :
    exists (after : World) (events : List SimEvent), next.world = some after ∧
      next.pendingEvents = sim.pendingEvents ++ events ∧
      (after.currentTick.val ≠ u64Max -> Journal cmd facts world.currentTick ->
        Journal cmd (facts ++ events.map SimEvent.fact) after.currentTick) := by
  let P (s : Simulation R C) : Prop := exists (after : World) (events : List SimEvent),
    s.world = some after ∧ WorldIntegrity after ∧ s.pendingEvents = sim.pendingEvents ++ events ∧
      (after.currentTick.val ≠ u64Max -> Journal cmd facts world.currentTick ->
        Journal cmd (facts ++ events.map SimEvent.fact) after.currentTick)
  have hstep : forall before last : Simulation R C, P before ->
      before.cmdTick = some (.ok (), last) -> P last := by
    rintro before last ⟨middle, events, hmiddle, hinvariant, hpending, hjournal⟩ htick
    rcases cmdTick_ticked hmiddle hinvariant htick with ⟨after, later, hticked⟩
    refine ⟨after, events ++ later, hticked.loaded, hticked.integrity hinvariant, ?_, ?_⟩
    · rw [hticked.pending, hpending, List.append_assoc]
    · intro hmax hbefore
      have hmiddle' : middle.currentTick.val ≠ u64Max := by
        rw [hticked.tick] at hmax
        exact Tick.ne_max_of_next hmax
      rw [List.map_append, ← List.append_assoc]
      exact hticked.journal hmax (hjournal hmiddle' hbefore)
  have hstart : P sim := by
    refine ⟨world, [], hworld, hintegrity, (List.append_nil _).symm, fun _ hbefore => ?_⟩
    rw [List.map_nil, List.append_nil]
    exact hbefore
  rcases cmdTickN_invariant hstep h hstart with ⟨after, events, hafter, _, hpending, hjournal⟩
  exact ⟨after, events, hafter, hpending, hjournal⟩

theorem Accepted.journal {c : SimCommand} {events : List SimEvent} {last : World}
    (h : Accepted sim c events next) (hworld : sim.world = some world)
    (hintegrity : WorldIntegrity world) (hlast : next.world = some last)
    (hmax : last.currentTick.val ≠ u64Max) (hjournal : Journal cmd facts world.currentTick) :
    Journal cmd (facts ++ events.map SimEvent.fact) last.currentTick := by
  have hcleared : sim.clearPending.world = some world := hworld
  cases h with
  | createWorld c hnone =>
      rw [hnone] at hworld
      cases hworld
  | tick htick =>
      rcases cmdTick_ticked hcleared hintegrity htick with ⟨after, events, hticked⟩
      cases hticked.loaded.symm.trans hlast
      rw [hticked.pending]
      exact hticked.journal hmax hjournal
  | tickN htick =>
      rcases cmdTickN_journal hcleared hintegrity htick with
        ⟨after, events, hafter, hpending, hkeeps⟩
      cases hafter.symm.trans hlast
      rw [hpending]
      exact hkeeps hmax hjournal
  | spawnEntity hloaded _ hid =>
      cases hloaded.symm.trans hworld
      cases hlast
      rw [(World.allocateEntityId_eq_some hid).right.right]
      exact hjournal.edit rfl
  | despawnEntity hloaded hremove =>
      cases hloaded.symm.trans hworld
      cases hlast
      rw [(World.removeEntity_eq_some hremove).right]
      exact hjournal.edit rfl
  | createZone hloaded _ =>
      cases hloaded.symm.trans hworld
      cases hlast
      exact hjournal.edit rfl

end Simulation

/-!
## Every run keeps the grammar
-/

section Shaped

variable {R C S : Type} [IRng R] [ISimClock C] [IWorldStore S] [SnapshotJson] [Crc32]
  [BatchJson]

/-- The session is durable, and its journal is in the grammar while the clock has not
reached its end. -/
inductive Shaped (session : Session R C S) : Prop where
  | unborn {frames : List WalFrame} (h : Unborn frames session)
  | born {cmd : CreateWorldCmd} {frames : List WalFrame} {world : World}
      (h : Born cmd frames world session)
      (hjournal : world.currentTick.val ≠ u64Max ->
        Journal cmd ((framesEvents frames).map SimEvent.fact) world.currentTick)

namespace Shaped

variable {session next : Session R C S}

theorem command [BatchJson.Lossless] {cmd : CreateWorldCmd} {frames : List WalFrame}
    {world : World} (h : Born cmd frames world session)
    (hjournal : world.currentTick.val ≠ u64Max ->
      Journal cmd ((framesEvents frames).map SimEvent.fact) world.currentTick)
    {c : SimCommand} {result : ApiResult (List SimEvent)}
    {runtime : PersistentSimulation R C FileEventLog S}
    (hprocess : (session.runtime.withRecords []).processCommand c = some (result, runtime)) :
    Shaped
      { runtime := runtime
        reached := Session.reach session.reached runtime (.command result) } := by
  rcases h.command hprocess with ⟨frames', world', hborn, hsame | hadded⟩
  · refine Shaped.born hborn ?_
    rw [hsame.left, hsame.right]
    exact hjournal
  · rcases hadded with ⟨loaded, events, persisted, hloaded, haccepted, hfacts, hframes⟩
    refine Shaped.born hborn fun hmax => ?_
    rcases h.loaded loaded hloaded with ⟨⟨_, _, hcursor⟩, _⟩
    have htick : loaded.currentTick = world.currentTick := by
      rw [hcursor]
      rfl
    have hintegrity : WorldIntegrity loaded := by
      rw [hcursor]
      exact h.reaches.integrity.withCursor _ _
    rcases haccepted.advances hloaded hintegrity with ⟨last, hlast, hadvance⟩
    rcases (hborn.loaded last hlast).left with ⟨_, _, hcursor'⟩
    have htick' : last.currentTick = world'.currentTick := by
      rw [hcursor']
      rfl
    rw [← htick'] at hmax ⊢
    have hle : loaded.currentTick ≤ last.currentTick := hadvance.replays.continues.tick_le
    have hbefore := Tick.ne_max_of_le hle hmax
    rw [hframes, List.map_append, hfacts]
    refine haccepted.journal hloaded hintegrity hlast hmax ?_
    rw [htick] at hbefore ⊢
    exact hjournal hbefore

theorem serve [BatchJson.Lossless] [SnapshotJson.Lossless] [AtomicWorldStore S]
    (h : Shaped session) {input : RuntimeInput R C} (hquiet : input.Quiet)
    {answer : RuntimeAnswer} (hserve : session.serve input = some (answer, next)) :
    Shaped next := by
  cases input with
  | command c records =>
      have hnone : records = [] := hquiet
      subst hnone
      rcases Session.served hserve with ⟨runtime, ⟨hprocess⟩, hnext⟩
      subst hnext
      cases h with
      | unborn h =>
          rcases h.command hprocess with
            ⟨e, _, hresult, hunborn⟩ | ⟨created, _, _, hfacts, hborn⟩
          · subst hresult
            exact Shaped.unborn hunborn
          · refine Shaped.born hborn fun _ => ?_
            rw [hfacts]
            exact Journal.genesis
      | born h hjournal => exact command h hjournal hprocess
  | _ =>
      cases h with
      | unborn h => exact Shaped.unborn (h.serve_other hserve nofun)
      | born h hjournal => exact Shaped.born (h.serve_other hserve nofun) hjournal

omit [IRng R] [ISimClock C] in
theorem start {rng : R} {clock : C} {store : S} (hstore : EmptyStore store) :
    Shaped (Session.start rng clock store) :=
  Shaped.unborn ⟨Holds.empty {}, rfl, hstore, rfl, rfl⟩

end Shaped

/-- Whatever commands, saves, loads and restarts a run has, the log lists a journal of
the grammar that ends at the tick of the world that was reached. -/
theorem Session.run_journalShape [BatchJson.Lossless] [SnapshotJson.Lossless]
    [AtomicWorldStore S] {rng : R} {clock : C} {store : S} (hstore : EmptyStore store)
    {inputs : List (RuntimeInput R C)} {answers : List RuntimeAnswer} {session : Session R C S}
    (hrun : Foundation.run Session.serve inputs (Session.start rng clock store) =
      some (answers, session))
    (hquiet : forall input : RuntimeInput R C, input ∈ inputs -> input.Quiet)
    {world : World} (hreached : session.reached = some world)
    (hmax : world.currentTick.val ≠ u64Max) :
    exists events : List SimEvent,
      IEventLog.readAllValid session.runtime.eventLog = .ok events ∧
      events.map (fun event => event.eventId.val.toNat) = List.range' 1 events.length ∧
      JournalShape (events.map SimEvent.fact) world.currentTick ∧
      forall loaded : World, session.runtime.sim.world = some loaded ->
        loaded.currentTick = world.currentTick := by
  have hshaped := run_invariant_of_mem
    (fun _ _ _ _ hbefore hinput hserve => Shaped.serve hbefore hinput hserve) hrun hquiet
    (Shaped.start hstore)
  cases hshaped with
  | unborn h =>
      rw [h.reached] at hreached
      cases hreached
  | @born cmd frames reached h hjournal =>
      rcases h.reached with ⟨last, hlast, ⟨_, _, hcursor⟩⟩
      cases hreached.symm.trans hlast
      have htick : world.currentTick = reached.currentTick := by
        rw [hcursor]
        rfl
      rw [htick] at hmax ⊢
      have hlists := h.log.lists
      have hone : (⟨1⟩ : EventId).val.toNat = 1 := rfl
      have hlt := hlists.length_lt
      refine ⟨framesEvents frames, hlists.read, ?_, (hjournal hmax).shape, ?_⟩
      · rw [hlists.numbered.toNat_eq (by omega), hone]
      · intro loaded hloaded
        rcases (h.loaded loaded hloaded).left with ⟨_, _, hsame⟩
        rw [hsame]
        rfl

end Shaped

theorem Session.run_journalShape_vale :
    letI := ieeeCrc32
    letI := knownSnapshots [valeSnapshot, valeTickSnapshot]
    letI := knownBatches
      [PersistentSimulation.valeGenesis, [PersistentSimulation.valeTick], [valeSecondTick]]
    exists (session : Session Pcg32Rng UnlimitedClock MockWorldStore) (events : List SimEvent),
      (run Session.serve (savedVale ++ interruptedVale) unsavedVale).map Prod.snd =
        some session ∧
      IEventLog.readAllValid session.runtime.eventLog = .ok events ∧
      JournalShape (events.map SimEvent.fact) ⟨2⟩ := by
  let _ := ieeeCrc32
  let _ := knownSnapshots [valeSnapshot, valeTickSnapshot]
  let _ := knownBatches
    [PersistentSimulation.valeGenesis, [PersistentSimulation.valeTick], [valeSecondTick]]
  have _ : BatchJson.Lossless := knownBatches_lossless (by decide +kernel)
  have _ : SnapshotJson.Lossless := knownSnapshots_lossless (by decide +kernel)
  have hticks : (run Session.serve (savedVale ++ interruptedVale) unsavedVale).map
      (fun result => result.2.reached.map World.currentTick) = some (some ⟨2⟩) := by
    decide +kernel
  rcases Option.map_eq_some_iff.mp hticks with ⟨⟨answers, session⟩, hrun, htick⟩
  rcases Option.map_eq_some_iff.mp htick with ⟨world, hreached, hcurrent⟩
  have hquiet : forall input : RuntimeInput Pcg32Rng UnlimitedClock,
      input ∈ savedVale ++ interruptedVale -> input.Quiet := by
    decide
  have hmax : world.currentTick.val ≠ u64Max := by
    rw [hcurrent]
    decide
  rcases Session.run_journalShape MockWorldStore.new_empty hrun hquiet hreached hmax with
    ⟨events, hread, _, hshape, _⟩
  rw [hcurrent] at hshape
  refine ⟨session, events, ?_, hread, hshape⟩
  rw [hrun]
  rfl

end Seej
