import Seej.ServerCalls

/-!
# Runs of the server

What `run` makes of a world, and what any number of runs make of it.  However they are
stopped, they leave the ledger of the world at some tick, and after a shutdown the
files are those of that tick and of nothing else.
-/

namespace Seej

open Foundation

section Runs

variable [MetaJson] [SnapshotJson] [Crc32] [BatchJson]

/-!
## One pass of the loop
-/

/-- The run has made some ticks since it loaded the world.  `lag` is how far the snapshot
was behind then. -/
structure OnRun (cmd : CreateWorldCmd) (first : Ledger) (lag ticks lastSave : Nat)
    (c : Ledger) (low : Nat) (host : Host) : Prop where
  later : Later first ticks c
  going : Going cmd c low host
  save_le : lastSave ≤ c.tick
  fresh : lastSave ≤ low + lag

/-- What is left of a run that is stopped: a later ledger, and a snapshot that is
behind by no more than an interval and the lag of the start. -/
def RunLeaves (cmd : CreateWorldCmd) (first : Ledger) (lag : Nat) (saveInterval : UInt64)
    (host : Host) : Prop :=
  Leaves cmd (fun low c => (exists ticks : Nat, Later first ticks c) ∧
    (0 < saveInterval -> c.tick ≤ low + lag + saveInterval.toNat)) host

variable {cmd : CreateWorldCmd} {first c : Ledger} {lag ticks low : Nat} {host : Host}
  {saveInterval : UInt64}

theorem Going.currentTick (h : Going cmd c low host) :
    host.runtime.sim.currentTick = c.world.currentTick := by
  rcases h.follows.engine.world with ⟨s, i, hworld⟩
  unfold Simulation.currentTick
  rw [hworld]
  rfl

theorem OnRun.within_interval {lastSave t : Nat}
    (h : OnRun cmd first lag ticks lastSave c low host)
    (hdue : 0 < saveInterval -> t ≤ lastSave + saveInterval.toNat) :
    0 < saveInterval -> t ≤ low + lag + saveInterval.toNat := by
  intro hpos
  exact Nat.le_trans (hdue hpos) (Nat.add_le_add_right h.fresh _)

theorem OnRun.next {lastSave : Nat} {after : Ledger}
    (h : OnRun cmd first lag ticks lastSave c low host) (hafter : c.after .tick = some after)
    (hlength : (framesEvents after.frames).length + 1 < 2 ^ 64) :
    Later first (ticks + 1) after ∧ after.tick = c.tick + 1 := by
  have hintegrity := h.going.follows.archived.reaches.integrity
  have hnext := h.later.tick hintegrity hafter hlength
  refine ⟨hnext, ?_⟩
  show after.world.currentTick.val.toNat = c.world.currentTick.val.toNat + 1
  rw [hnext.currentTick, h.later.currentTick, Nat.add_assoc]

/-- The counter of the loop does not overflow: the log has an event of every tick. -/
theorem OnRun.counts_tick {ticksRun : UInt64} {lastSave : Nat}
    (h : OnRun cmd first lag (ticksRun.toNat + 1) lastSave c low host) :
    exists next : UInt64, checkedSucc ticksRun = some next ∧
      next.toNat = ticksRun.toNat + 1 := by
  have hpaced : c.tick ≤ (framesEvents c.frames).length := h.later.paced
  have hlength := h.going.follows.log.counts.length_lt
  have hticks : c.tick = first.tick + (ticksRun.toNat + 1) := h.later.currentTick
  have hne : ticksRun ≠ u64Max := by
    intro hmax
    rw [hmax] at hticks
    have hbig : c.tick = first.tick + (18446744073709551615 + 1) := hticks
    omega
  exact ⟨ticksRun + 1, if_neg hne, toNat_succ hne⟩

omit [MetaJson] [SnapshotJson] [Crc32] [BatchJson] in
theorem logProgress_triple {before : Host -> Prop} (currentTick : Tick)
    (hworld : forall host : Host, before host -> exists world : World,
      host.runtime.sim.world = some world)
    {stops : Stop String PanicSite -> Host -> Prop} :
    Triple before (logProgress currentTick) (fun _ => before) stops := by
  unfold logProgress
  split
  · refine Triple.bind (fun _ => before) ?_ fun _ => Triple.ret fun _ h => h
    constructor
    intro host hbefore
    rcases hworld host hbefore with ⟨world, hsome⟩
    unfold Host.world
    rw [hsome]
    exact hbefore
  · exact Triple.ret fun _ h => h

/-- The subtraction never goes below zero, and a save starts the interval anew. -/
theorem autoSave_triple [MetaJson.Lossless] [SnapshotJson.Lossless] {lastSave : UInt64}
    (hdue : 0 < saveInterval -> c.tick ≤ lastSave.toNat + saveInterval.toNat) :
    Triple (OnRun cmd first lag ticks lastSave.toNat c low)
      (autoSave saveInterval c.world.currentTick lastSave)
      (fun lastSave' host => exists low' : Nat,
        OnRun cmd first lag ticks lastSave'.toNat c low' host ∧
          (0 < saveInterval -> c.tick < lastSave'.toNat + saveInterval.toNat))
      (fun reason host => OnlyInCommand reason ∧
        RunLeaves cmd first lag saveInterval host) := by
  unfold autoSave
  split
  case isFalse hnone =>
    refine Triple.ret fun host h => ⟨low, h, fun hpos => absurd hpos hnone⟩
  case isTrue hpos =>
    refine Triple.bind (fun elapsed host =>
      OnRun cmd first lag ticks lastSave.toNat c low host ∧
        elapsed.toNat = c.tick - lastSave.toNat) ?_ ?_
    · constructor
      intro host h
      rcases checkedSub64_exact h.save_le with ⟨elapsed, heq, hval⟩
      rw [heq]
      exact ⟨h, hval⟩
    · intro elapsed
      split
      case isTrue hge =>
        refine Triple.bind (fun _ host => Going cmd c c.tick host ∧
          Later first ticks c) ?_ ?_
        · apply Triple.mapError
          constructor
          intro host hbefore
          apply Ended.Meets.weaken (Host.saveWorld_triple.meets host hbefore.left.going)
          · intro _ after hsaved
            exact ⟨hsaved.left, hbefore.left.later⟩
          · rintro reason after ⟨hreason, hleaves⟩
            refine ⟨hreason.mapped, hleaves.mono ?_⟩
            rintro low' c' ⟨hlow, hc⟩
            subst hlow
            subst hc
            exact ⟨⟨ticks, hbefore.left.later⟩, hbefore.left.within_interval hdue⟩
        · intro _
          refine Triple.ret fun host h => ⟨c.tick, ⟨h.right, h.left, ?_, ?_⟩, ?_⟩
          · exact Nat.le_refl _
          · exact Nat.le_add_right _ _
          · intro hpos
            exact Nat.lt_add_of_pos_right (UInt64.lt_iff_toNat_lt.mp hpos)
      case isFalse hlt =>
        refine Triple.ret fun host h => ⟨low, h.left, ?_⟩
        intro _
        have hsmall : elapsed.toNat < saveInterval.toNat :=
          UInt64.lt_iff_toNat_lt.mp (UInt64.not_le.mp hlt)
        rw [h.right] at hsmall
        exact (Nat.sub_lt_iff_lt_add' h.left.save_le).mp hsmall

theorem tickCommand_triple [BatchJson.Lossless] {lastSave : Nat}
    (hrecent : 0 < saveInterval -> c.tick < lastSave + saveInterval.toNat) :
    Triple (OnRun cmd first lag ticks lastSave c low)
      ((Host.processCommand .tick).mapError fun e => s!"Tick failed: {e}")
      (fun _ host => exists after : Ledger, after.tick = c.tick + 1 ∧
        OnRun cmd first lag (ticks + 1) lastSave after low host)
      (fun reason host => OnlyInCommand reason ∧
        RunLeaves cmd first lag saveInterval host) := by
  apply Triple.mapError
  constructor
  intro host hrun
  have hlater (after : Ledger) (hafter : c.after .tick = some after)
      (hlength : (framesEvents after.frames).length + 1 < 2 ^ 64) : c.tick ≤ after.tick := by
    rw [(hrun.next hafter hlength).right]
    exact Nat.le_succ _
  have htick := (Host.processCommand_triple rfl hlater).meets host hrun.going
  apply Ended.Meets.weaken htick
  · rintro _ state ⟨after, hafter, hlength, hgoing⟩
    rcases hrun.next hafter hlength with ⟨hnext, hsucc⟩
    refine ⟨after, hsucc, hnext, hgoing, ?_, hrun.fresh⟩
    rw [hsucc]
    exact Nat.le_succ_of_le hrun.save_le
  · rintro reason state ⟨hreason, hleaves⟩
    refine ⟨hreason.mapped, hleaves.mono ?_⟩
    rintro low' c' ⟨hlow, hc⟩
    subst hlow
    rcases hc with hsame | ⟨hafter, hlength⟩
    · subst hsame
      exact ⟨⟨_, hrun.later⟩, hrun.within_interval fun hpos => Nat.le_of_lt (hrecent hpos)⟩
    · rcases hrun.next hafter hlength with ⟨hnext, hsucc⟩
      refine ⟨⟨_, hnext⟩, hrun.within_interval ?_⟩
      rw [hsucc]
      exact hrecent

/-- A tick of the loop neither overflows its counter nor misses the world. -/
theorem runTick_triple [MetaJson.Lossless] [SnapshotJson.Lossless] [BatchJson.Lossless]
    {vars : LoopVars}
    (hrecent : 0 < saveInterval -> c.tick < vars.lastSaveTick.toNat + saveInterval.toNat) :
    Triple (OnRun cmd first lag vars.ticksRun.toNat vars.lastSaveTick.toNat c low)
      (runTick saveInterval vars)
      (fun next host => next.ticksRun.toNat = vars.ticksRun.toNat + 1 ∧
        exists (after : Ledger) (low' : Nat),
          OnRun cmd first lag next.ticksRun.toNat next.lastSaveTick.toNat after low' host ∧
            (0 < saveInterval -> after.tick < next.lastSaveTick.toNat + saveInterval.toNat))
      (fun reason host => OnlyInCommand reason ∧
        RunLeaves cmd first lag saveInterval host) := by
  unfold runTick
  refine Triple.bind _ (tickCommand_triple hrecent) ?_
  intro _
  apply Triple.exists_before
  intro after
  constructor
  rintro state ⟨htick, hticked⟩
  have hdue (hpos : 0 < saveInterval) :
      after.tick ≤ vars.lastSaveTick.toNat + saveInterval.toNat := by
    rw [htick]
    exact hrecent hpos
  rcases hticked.counts_tick with ⟨next, hsucc, hval⟩
  rw [← hval] at hticked
  rw [hsucc]
  let ongoing := OnRun cmd first lag next.toNat vars.lastSaveTick.toNat after low
  refine (Triple.bind (fun ticksRun host => ticksRun = next ∧ ongoing host)
    (Triple.ret fun _ h => ⟨rfl, h⟩) ?_).meets state hticked
  intro ticksRun
  refine Triple.bind (fun currentTick host =>
    (ticksRun = next ∧ currentTick = after.world.currentTick) ∧ ongoing host)
    (Triple.read fun host h => ⟨⟨h.left, h.right.going.currentTick⟩, h.right⟩) ?_
  intro currentTick
  refine Triple.bind _ (logProgress_triple currentTick ?_) ?_
  · rintro host ⟨_, h⟩
    rcases h.going.follows.engine.world with ⟨s, i, hworld⟩
    exact ⟨_, hworld⟩
  · intro _
    constructor
    rintro state' ⟨⟨hnext, hcurrent⟩, h⟩
    subst hnext
    subst hcurrent
    refine (Triple.bind _ (autoSave_triple hdue) ?_).meets state' h
    intro lastSave
    apply Triple.ret
    rintro host ⟨low', h', hrecent'⟩
    exact ⟨hval, after, low', h', hrecent'⟩

/-!
## The loop
-/

/-- The number of ticks of a run that ends by itself or by a signal. -/
def ranTicks (maxTicks : UInt64) (passes : Nat) : Nat :=
  if 0 < maxTicks then min passes maxTicks.toNat else passes

structure AtHead (cmd : CreateWorldCmd) (first : Ledger) (lag : Nat)
    (maxTicks saveInterval : UInt64) (passes left : Nat) (vars : LoopVars) (host : Host) :
    Prop where
  onRun : exists (c : Ledger) (low : Nat),
    OnRun cmd first lag vars.ticksRun.toNat vars.lastSaveTick.toNat c low host ∧
      (0 < saveInterval -> c.tick < vars.lastSaveTick.toNat + saveInterval.toNat)
  passes : vars.ticksRun.toNat + left = passes
  limit : 0 < maxTicks -> vars.ticksRun.toNat ≤ maxTicks.toNat

theorem runLoop_triple [MetaJson.Lossless] [SnapshotJson.Lossless] [BatchJson.Lossless]
    {maxTicks : UInt64} {passes : Nat} (vars : LoopVars) :
    Triple (AtHead cmd first lag maxTicks saveInterval passes passes vars)
      (Process.loop (runPass maxTicks saveInterval) id passes vars)
      (fun vars host => vars.ticksRun.toNat = ranTicks maxTicks passes ∧
        exists (c : Ledger) (low : Nat),
          OnRun cmd first lag vars.ticksRun.toNat vars.lastSaveTick.toNat c low host ∧
            (0 < saveInterval -> c.tick < vars.lastSaveTick.toNat + saveInterval.toNat))
      (fun reason host => OnlyInCommand reason ∧
        RunLeaves cmd first lag saveInterval host) := by
  refine Triple.loop (AtHead cmd first lag maxTicks saveInterval passes) ?_ ?_
    passes vars
  · intro left vars
    unfold runPass
    split
    case isTrue hstop =>
      refine Triple.ret fun host h => ⟨?_, h.onRun⟩
      have hge : maxTicks.toNat ≤ vars.ticksRun.toNat := UInt64.le_iff_toNat_le.mp hstop.right
      have hle := h.limit hstop.left
      have hpasses := h.passes
      unfold ranTicks
      rw [if_pos hstop.left]
      omega
    case isFalse hgo =>
      constructor
      intro host h
      rcases h.onRun with ⟨c, low, hrun, hrecent⟩
      refine (Triple.bind _ (runTick_triple hrecent) ?_).meets host hrun
      intro next
      refine Triple.ret ?_
      rintro state ⟨hcount, hafter⟩
      refine ⟨hafter, ?_, ?_⟩
      · rw [hcount, Nat.add_assoc, Nat.add_comm 1]
        exact h.passes
      · intro hpos
        rw [hcount]
        apply Nat.lt_of_not_le
        exact fun hge => hgo ⟨hpos, UInt64.le_iff_toNat_le.mpr hge⟩
  · intro vars host h
    refine ⟨?_, h.onRun⟩
    have hpasses := h.passes
    show vars.ticksRun.toNat = ranTicks maxTicks passes
    unfold ranTicks
    split
    case isTrue hpos =>
      have hle := h.limit hpos
      omega
    case isFalse _ => exact hpasses

/-!
## The whole run
-/

/-- The snapshot and the metadata are those of the ledger, and the summary counts its
ticks. -/
structure RunEnds (cmd : CreateWorldCmd) (first : Ledger) (ticks : Nat)
    (summary : RunSummary) (c : Ledger) (host : Host) : Prop where
  later : Later first ticks c
  going : Going cmd c c.tick host
  documents : Documents c (host.runtime.store.names cmd.worldId)
  ticksRun : summary.ticksRun.toNat = ticks
  startTick : summary.startTick = first.world.currentTick
  finalTick : summary.finalTick = c.world.currentTick

theorem runWorld_triple [MetaJson.Lossless] [SnapshotJson.Lossless] [BatchJson.Lossless]
    {maxTicks : UInt64} {passes : Nat} (hpaced : first.Paced) :
    Triple (Opened cmd first low) (runWorld cmd.worldId maxTicks saveInterval passes)
      (fun summary host => exists c : Ledger,
        RunEnds cmd first (ranTicks maxTicks passes) summary c host)
      (fun reason host => OnlyInCommand reason ∧
        RunLeaves cmd first (first.tick - low) saveInterval host) := by
  let stops : Stop String PanicSite -> Host -> Prop := fun reason host =>
    OnlyInCommand reason ∧ RunLeaves cmd first (first.tick - low) saveInterval host
  have hlag (hle : low ≤ first.tick) : first.tick ≤ low + (first.tick - low) :=
    Nat.le_of_eq (Nat.add_sub_cancel' hle).symm
  unfold runWorld
  refine Triple.bind (fun _ => Going cmd first low) ?_ ?_
  · apply Triple.mapError
    constructor
    intro host hopened
    refine Ended.Meets.weaken (Host.loadWorld_triple.meets host hopened) (fun _ _ h => h) ?_
    rintro reason state ⟨hreason, hleaves⟩
    refine ⟨hreason.mapped, hleaves.mono ?_⟩
    rintro low' c ⟨hlow, hc⟩
    rw [hlow, hc]
    exact ⟨⟨0, Later.refl hpaced⟩,
      fun _ => Nat.le_trans (hlag hopened.low_le) (Nat.le_add_right _ _)⟩
  · intro _
    refine Triple.bind (fun startTick host => startTick = first.world.currentTick ∧
      Going cmd first low host) (Triple.read fun host h => ⟨h.currentTick, h⟩) ?_
    intro startTick
    constructor
    rintro host ⟨hstart, hgoing⟩
    subst hstart
    have hhead : AtHead cmd first (first.tick - low) maxTicks saveInterval passes passes
        ⟨0, first.world.currentTick.val⟩ host := by
      refine ⟨⟨first, low, ⟨Later.refl hpaced, hgoing, Nat.le_refl _, hlag hgoing.low_le⟩, ?_⟩,
        Nat.zero_add _, fun _ => Nat.zero_le _⟩
      exact fun hpos => Nat.lt_add_of_pos_right (UInt64.lt_iff_toNat_lt.mp hpos)
    refine (Triple.bind _ (runLoop_triple _) ?_).meets host hhead
    intro vars
    constructor
    rintro host ⟨hticks, c, low', hrun, hrecent⟩
    have hlater : Later first (ranTicks maxTicks passes) c := by
      rw [← hticks]
      exact hrun.later
    have hsave : Triple (Going cmd c low')
        (Host.saveWorld.mapError fun e => s!"Shutdown save failed: {e}")
        (fun _ host => Going cmd c c.tick host ∧
          Documents c (host.runtime.store.names cmd.worldId)) stops := by
      apply Triple.mapError
      refine Host.saveWorld_triple.weaken (fun _ h => h) (fun _ _ h => h) ?_
      rintro reason state ⟨hreason, hleaves⟩
      refine ⟨hreason.mapped, hleaves.mono ?_⟩
      rintro low'' c' ⟨hlow, hc⟩
      subst hlow
      subst hc
      exact ⟨⟨_, hrun.later⟩, hrun.within_interval fun hpos => Nat.le_of_lt (hrecent hpos)⟩
    refine (Triple.bind _ hsave ?_).meets host hrun.going
    intro _
    refine Triple.bind (fun finalTick host => finalTick = c.world.currentTick ∧
      Going cmd c c.tick host ∧ Documents c (host.runtime.store.names cmd.worldId))
      (Triple.read fun host h => ⟨h.left.currentTick, h⟩) ?_
    intro finalTick
    refine Triple.ret ?_
    rintro host ⟨hfinal, hgoing, hdocuments⟩
    exact ⟨c, hlater, hgoing, hdocuments, hticks, rfl, hfinal⟩

end Runs

end Seej
