import Seej.StoreDurability

/-!
# Worlds of one data directory

What the store says about a world, as it lists the worlds, reports their status and
loads their documents.  It depends on the inputs for that world alone, and its answers
agree with each other.
-/

namespace Seej

open Foundation

/-!
## Isolation
-/

/-- An input for the given world, or one for the whole machine. -/
def StoreInput.concerns (worldId : String) : StoreInput -> Bool
  | .saveMeta worldMeta _ => worldMeta.worldId = worldId
  | .saveSnapshot target _ _ => target = worldId
  | .deleteWorld target _ => target = worldId
  | .powerFailure _ => true

namespace FilesystemStore

structure SameWorld (worldId : String) (left right : FilesystemStore) : Prop where
  basePath : left.basePath = right.basePath
  world : left.worlds[worldId]? = right.worlds[worldId]?

namespace SameWorld

variable {worldId : String} {left right : FilesystemStore}

theorem names (h : SameWorld worldId left right) : left.names worldId = right.names worldId := by
  unfold FilesystemStore.names
  rw [h.world]

theorem worldDir (h : SameWorld worldId left right) (target : String) :
    left.worldDir target = right.worldDir target := by
  unfold FilesystemStore.worldDir
  rw [h.basePath]

theorem mem_iff (h : SameWorld worldId left right) :
    worldId ∈ left.worlds <-> worldId ∈ right.worlds := by
  rw [BTreeMap.mem_iff, BTreeMap.mem_iff, h.world]

theorem insert (h : SameWorld worldId left right) (d : Directory String UInt8) :
    SameWorld worldId (left.setNames worldId d) (right.setNames worldId d) := by
  refine ⟨h.basePath, ?_⟩
  unfold setNames
  rw [BTreeMap.getElem?_insert, BTreeMap.getElem?_insert, if_pos rfl, if_pos rfl]

theorem withSaves (h : SameWorld worldId left right) (saves saves' : List SaveIo) :
    SameWorld worldId (left.withSaves saves) (right.withSaves saves') :=
  ⟨h.basePath, h.world⟩

theorem ensureWorldDir (h : SameWorld worldId left right) (io : SaveIo) :
    (left.ensureWorldDir io worldId).1 = (right.ensureWorldDir io worldId).1 ∧
      SameWorld worldId (left.ensureWorldDir io worldId).2
        (right.ensureWorldDir io worldId).2 := by
  unfold FilesystemStore.ensureWorldDir
  rw [h.worldDir, h.names]
  cases right.worldDir worldId with
  | error e => exact ⟨rfl, h⟩
  | ok dir =>
      cases io.createDir with
      | some e => exact ⟨rfl, h⟩
      | none => exact ⟨rfl, h.insert _⟩

theorem replaceFile (h : SameWorld worldId left right) (io : SaveIo) (name : String)
    (dir : PathBuf) (texts : SaveTexts) (content : Bytes) :
    (left.replaceFile io worldId name dir texts content).1 =
        (right.replaceFile io worldId name dir texts content).1 ∧
      SameWorld worldId (left.replaceFile io worldId name dir texts content).2
        (right.replaceFile io worldId name dir texts content).2 := by
  unfold FilesystemStore.replaceFile
  rw [h.names]
  exact ⟨rfl, h.insert _⟩

theorem saveSnapshot (h : SameWorld worldId left right) (hsaves : left.saves = right.saves)
    (snapshot : Bytes) :
    (left.saveSnapshot worldId snapshot).1 = (right.saveSnapshot worldId snapshot).1 ∧
      SameWorld worldId (left.saveSnapshot worldId snapshot).2
        (right.saveSnapshot worldId snapshot).2 := by
  have hnext : SameWorld worldId left.nextSave.2 right.nextSave.2 := ⟨h.basePath, h.world⟩
  have hio : left.nextSave.1 = right.nextSave.1 := congrArg (fun saves => saves.headD {}) hsaves
  unfold FilesystemStore.saveSnapshot
  simp only [hio]
  rcases hnext.ensureWorldDir right.nextSave.1 with ⟨hanswer, hmade⟩
  cases hleft : left.nextSave.2.ensureWorldDir right.nextSave.1 worldId with
  | mk answer made =>
      cases hright : right.nextSave.2.ensureWorldDir right.nextSave.1 worldId with
      | mk answer' made' =>
          rw [hleft, hright] at hanswer hmade
          simp only at hanswer hmade
          subst hanswer
          cases answer with
          | error e => exact ⟨rfl, hmade⟩
          | ok _ =>
              simp only
              rw [hmade.worldDir]
              cases made'.worldDir worldId with
              | error e => exact ⟨rfl, hmade⟩
              | ok dir => exact hmade.replaceFile _ _ _ _ _

theorem saveMeta [MetaJson] {worldMeta : WorldMeta}
    (h : SameWorld worldMeta.worldId left right) (hsaves : left.saves = right.saves) :
    (left.saveMeta worldMeta).1 = (right.saveMeta worldMeta).1 ∧
      SameWorld worldMeta.worldId (left.saveMeta worldMeta).2 (right.saveMeta worldMeta).2 := by
  have hnext : SameWorld worldMeta.worldId left.nextSave.2 right.nextSave.2 :=
    ⟨h.basePath, h.world⟩
  have hio : left.nextSave.1 = right.nextSave.1 := congrArg (fun saves => saves.headD {}) hsaves
  unfold FilesystemStore.saveMeta
  simp only [hio]
  rcases hnext.ensureWorldDir right.nextSave.1 with ⟨hanswer, hmade⟩
  cases hleft : left.nextSave.2.ensureWorldDir right.nextSave.1 worldMeta.worldId with
  | mk answer made =>
      cases hright : right.nextSave.2.ensureWorldDir right.nextSave.1 worldMeta.worldId with
      | mk answer' made' =>
          rw [hleft, hright] at hanswer hmade
          simp only at hanswer hmade
          subst hanswer
          cases answer with
          | error e => exact ⟨rfl, hmade⟩
          | ok _ =>
              simp only
              rw [hmade.worldDir]
              cases made'.worldDir worldMeta.worldId with
              | error e => exact ⟨rfl, hmade⟩
              | ok dir =>
                  cases MetaJson.toStringPretty worldMeta with
                  | error e => exact ⟨rfl, hmade⟩
                  | ok text => exact hmade.replaceFile _ _ _ _ _

theorem deleteWorld (h : SameWorld worldId left right) (fault : Option DeleteFault) :
    (left.deleteWorld fault worldId).1 = (right.deleteWorld fault worldId).1 ∧
      SameWorld worldId (left.deleteWorld fault worldId).2
        (right.deleteWorld fault worldId).2 := by
  unfold FilesystemStore.deleteWorld
  rw [h.worldDir]
  cases right.worldDir worldId with
  | error e => exact ⟨rfl, h⟩
  | ok dir =>
      simp only
      by_cases hmem : worldId ∈ left.worlds
      · rw [if_pos hmem, if_pos (h.mem_iff.mp hmem)]
        cases fault with
        | some fault =>
            rw [h.names]
            exact ⟨rfl, h.insert _⟩
        | none =>
            refine ⟨rfl, h.basePath, ?_⟩
            simp only
            rw [BTreeMap.getElem?_erase, BTreeMap.getElem?_erase, if_pos rfl, if_pos rfl]
      · rw [if_neg hmem, if_neg fun hright => hmem (h.mem_iff.mpr hright)]
        exact ⟨rfl, h⟩

theorem survive (h : SameWorld worldId left right) (outage : Outage) :
    SameWorld worldId (left.survive outage) (right.survive outage) := by
  refine ⟨h.basePath, ?_⟩
  rw [worlds_survive, worlds_survive, h.world]

theorem serve [MetaJson] (h : SameWorld worldId left right) {input : StoreInput}
    (hconcerns : input.concerns worldId = true) :
    Agree (SameWorld worldId) (left.serve input) (right.serve input) := by
  cases input with
  | saveMeta worldMeta io =>
      have hid : worldMeta.worldId = worldId := of_decide_eq_true hconcerns
      subst hid
      rcases (h.withSaves [io] [io]).saveMeta rfl with ⟨hanswer, hnext⟩
      exact Agree.of_eq hanswer hnext
  | saveSnapshot target snapshot io =>
      have hid : target = worldId := of_decide_eq_true hconcerns
      subst hid
      rcases (h.withSaves [io] [io]).saveSnapshot rfl snapshot with ⟨hanswer, hnext⟩
      exact Agree.of_eq hanswer hnext
  | deleteWorld target fault =>
      have hid : target = worldId := of_decide_eq_true hconcerns
      subst hid
      rcases h.deleteWorld fault with ⟨hanswer, hnext⟩
      exact Agree.of_eq hanswer hnext
  | powerFailure outage => exact Agree.stepped (h.survive outage)

/-- What the store says about the world. -/
theorem inspect [MetaJson] (h : SameWorld worldId left right) :
    left.exist worldId = right.exist worldId ∧
      left.storageStatus worldId = right.storageStatus worldId ∧
      left.loadMeta worldId = right.loadMeta worldId ∧
      left.loadSnapshot worldId = right.loadSnapshot worldId := by
  have hnames := h.names
  refine ⟨?_, ?_, ?_, ?_⟩
  · unfold exist metaPath fileExists
    rw [h.worldDir, hnames]
  · unfold storageStatus storageStatusWith fileExists
    rw [h.worldDir, hnames]
    simp only [h.mem_iff]
  · exact loadMeta_congr (by rw [hnames])
  · exact loadSnapshot_congr (by rw [hnames])

end SameWorld

theorem saveSnapshot_basePath (store : FilesystemStore) (worldId : String) (snapshot : Bytes) :
    (store.saveSnapshot worldId snapshot).2.basePath = store.basePath := by
  unfold saveSnapshot
  simp only
  rcases store.nextSave.2.ensureWorldDir_cases store.nextSave.1 worldId with
    ⟨e, hfailed⟩ | ⟨hvalid, hmade⟩
  · rw [hfailed]
    rfl
  · rw [hmade]
    simp only
    rw [worldDir_of_valid hvalid]
    rfl

theorem saveMeta_basePath [MetaJson] (store : FilesystemStore) (worldMeta : WorldMeta) :
    (store.saveMeta worldMeta).2.basePath = store.basePath := by
  unfold saveMeta
  simp only
  rcases store.nextSave.2.ensureWorldDir_cases store.nextSave.1 worldMeta.worldId with
    ⟨e, hfailed⟩ | ⟨hvalid, hmade⟩
  · rw [hfailed]
    rfl
  · rw [hmade]
    simp only
    rw [worldDir_of_valid hvalid]
    cases MetaJson.toStringPretty worldMeta with
    | error e => rfl
    | ok text => rfl

theorem deleteWorld_basePath (store : FilesystemStore) (fault : Option DeleteFault)
    (worldId : String) : (store.deleteWorld fault worldId).2.basePath = store.basePath := by
  unfold deleteWorld
  cases store.worldDir worldId with
  | error e => rfl
  | ok dir =>
      simp only
      split
      · cases fault with
        | some fault => rfl
        | none => rfl
      · rfl

theorem deleteWorld_other {store : FilesystemStore} {fault : Option DeleteFault}
    {worldId other : String} (hother : worldId ≠ other) :
    (store.deleteWorld fault worldId).2.worlds[other]? = store.worlds[other]? := by
  rcases store.deleteWorld_cases fault worldId with hsame | ⟨_, hremoved⟩ | herased
  · rw [hsame]
  · rw [hremoved, BTreeMap.getElem?_insert, if_neg hother]
  · rw [herased, BTreeMap.getElem?_erase, if_neg hother]

/-- An input for another world leaves the world as it was. -/
theorem SameWorld.other [MetaJson] {worldId : String} {left right next : FilesystemStore}
    (h : SameWorld worldId left right) {input : StoreInput}
    (hconcerns : input.concerns worldId = false) {answer : SimResult Unit}
    (hserve : left.serve input = some (answer, next)) : SameWorld worldId next right := by
  cases input with
  | saveMeta worldMeta io =>
      have hid : worldMeta.worldId ≠ worldId := of_decide_eq_false hconcerns
      have hnext : ((left.withSaves [io]).saveMeta worldMeta).2 = next :=
        congrArg Prod.snd (Option.some.inj hserve)
      rw [← hnext]
      refine ⟨(saveMeta_basePath _ _).trans h.basePath, ?_⟩
      rw [((left.withSaves [io]).saveMeta_saved worldMeta).worlds_other hid.symm]
      exact h.world
  | saveSnapshot target snapshot io =>
      have hid : target ≠ worldId := of_decide_eq_false hconcerns
      have hnext : ((left.withSaves [io]).saveSnapshot target snapshot).2 = next :=
        congrArg Prod.snd (Option.some.inj hserve)
      rw [← hnext]
      refine ⟨(saveSnapshot_basePath _ _ _).trans h.basePath, ?_⟩
      rw [((left.withSaves [io]).saveSnapshot_saved target snapshot).worlds_other hid.symm]
      exact h.world
  | deleteWorld target fault =>
      have hid : target ≠ worldId := of_decide_eq_false hconcerns
      have hnext : (left.deleteWorld fault target).2 = next :=
        congrArg Prod.snd (Option.some.inj hserve)
      rw [← hnext]
      exact ⟨(deleteWorld_basePath _ _ _).trans h.basePath,
        (deleteWorld_other hid).trans h.world⟩
  | powerFailure outage => cases hconcerns

/-- Different worlds have different names below the directory of the worlds. -/
theorem worldDir_apart {store : FilesystemStore} {worldId other : String} {dir dir' : PathBuf}
    (hother : other ≠ worldId) (h : store.worldDir worldId = .ok dir)
    (h' : store.worldDir other = .ok dir') : dir.Apart dir' := by
  have hne : dir.components ≠ dir'.components := by
    rw [worldDir_components h, worldDir_components h']
    intro heq
    have hname := List.singleton_inj.mp (List.append_cancel_left heq)
    exact hother (String.toList_inj.mp hname).symm
  have hlength : dir.components.length = dir'.components.length := by
    rw [worldDir_components h, worldDir_components h', List.length_append, List.length_append]
    rfl
  exact ⟨fun hleads => hne (hleads.eq_of_length hlength),
    fun hleads => hne (hleads.eq_of_length hlength.symm).symm⟩

/-- What happens to other worlds, which is below other names, changes nothing: the inputs
for a world are answered as if they were alone, and so is every question about it
afterwards. -/
theorem worlds_isolated [MetaJson] {store final : FilesystemStore} {inputs : List StoreInput}
    {answers : List (SimResult Unit)}
    (hrun : run serve inputs store = some (answers, final)) (worldId : String) :
    exists alone : FilesystemStore,
      run serve (inputs.filter (StoreInput.concerns worldId)) store =
        some (outputsOf (StoreInput.concerns worldId) inputs answers, alone) ∧
      final.exist worldId = alone.exist worldId ∧
      final.storageStatus worldId = alone.storageStatus worldId ∧
      final.loadMeta worldId = alone.loadMeta worldId ∧
      final.loadSnapshot worldId = alone.loadSnapshot worldId ∧
      forall (other : String) (dir dir' : PathBuf), other ≠ worldId ->
        final.worldDir worldId = .ok dir -> final.worldDir other = .ok dir' ->
        dir.Apart dir' := by
  have hstart : SameWorld worldId store store := ⟨rfl, rfl⟩
  have hmine : forall (state image : FilesystemStore) (input : StoreInput),
      SameWorld worldId state image -> input.concerns worldId = true ->
      Agree (SameWorld worldId) (state.serve input) (image.serve input) :=
    fun _ _ _ h hconcerns => h.serve hconcerns
  have hother : forall (state image next : FilesystemStore) (input : StoreInput)
      (answer : SimResult Unit), SameWorld worldId state image ->
      input.concerns worldId = false -> state.serve input = some (answer, next) ->
      SameWorld worldId next image :=
    fun _ _ _ _ _ h hconcerns hserve => h.other hconcerns hserve
  rcases run_project hmine hother hstart hrun with ⟨alone, halone, hsame⟩
  rcases hsame.inspect with ⟨hexist, hstatus, hmeta, hsnapshot⟩
  refine ⟨alone, halone, hexist, hstatus, hmeta, hsnapshot, ?_⟩
  intro other dir dir' hdifferent hdir hdir'
  exact worldDir_apart hdifferent hdir hdir'

def twoWorlds : List StoreInput :=
  [.saveMeta (World.new "Vale" ⟨7⟩).worldMeta {}, .saveSnapshot "world_7" [1] {},
    .saveMeta (World.new "Fen" ⟨8⟩).worldMeta
      { replace := { write := some ⟨5, "No space left on device (os error 28)"⟩ } },
    .saveSnapshot "world_8/../world_7" [2] {}, .deleteWorld "world_8" none,
    .saveSnapshot "world_8" [3] {}]

theorem worlds_isolated_two :
    letI := knownMetas [(World.new "Vale" ⟨7⟩).worldMeta, (World.new "Fen" ⟨8⟩).worldMeta]
    exists (answers : List (SimResult Unit)) (final alone : FilesystemStore),
      run serve twoWorlds emptyStore = some (answers, final) ∧
      run serve (twoWorlds.filter (StoreInput.concerns "world_7")) emptyStore =
        some (outputsOf (StoreInput.concerns "world_7") twoWorlds answers, alone) ∧
      final.exist "world_7" = alone.exist "world_7" ∧
      final.storageStatus "world_7" = alone.storageStatus "world_7" ∧
      final.loadMeta "world_7" = alone.loadMeta "world_7" ∧
      final.loadSnapshot "world_7" = alone.loadSnapshot "world_7" ∧
      forall (other : String) (dir dir' : PathBuf), other ≠ "world_7" ->
        final.worldDir "world_7" = .ok dir -> final.worldDir other = .ok dir' ->
        dir.Apart dir' := by
  let _ := knownMetas [(World.new "Vale" ⟨7⟩).worldMeta, (World.new "Fen" ⟨8⟩).worldMeta]
  have hrun : run serve twoWorlds emptyStore = some (_, _) := rfl
  rcases worlds_isolated hrun "world_7" with ⟨alone, halone, hsame⟩
  exact ⟨_, _, alone, hrun, halone, hsame⟩

/-!
## Listing
-/

theorem mergeSort_lt {names : List String} (h : names.Nodup) :
    (names.mergeSort (fun a b => a ≤ b)).Pairwise (fun a b => a < b) := by
  have htrans : forall a b c : String, decide (a ≤ b) = true -> decide (b ≤ c) = true ->
      decide (a ≤ c) = true := by
    intro a b c hab hbc
    exact decide_eq_true (String.le_trans (of_decide_eq_true hab) (of_decide_eq_true hbc))
  have htotal : forall a b : String, (decide (a ≤ b) || decide (b ≤ a)) = true := by
    intro a b
    rw [Bool.or_eq_true, decide_eq_true_eq, decide_eq_true_eq]
    exact String.le_total a b
  have hsorted := List.pairwise_mergeSort htrans htotal names
  have hnodup := (List.mergeSort_perm names (fun a b => decide (a ≤ b))).nodup_iff.mpr h
  refine (hsorted.and hnodup).imp ?_
  rintro a b ⟨hle, hne⟩
  rw [← String.not_le]
  intro hge
  exact hne (String.le_antisymm (of_decide_eq_true hle) hge)

theorem exist_iff {store : FilesystemStore} {worldId : String} :
    store.exist worldId = true <-> validateWorldIdResult worldId = .ok () ∧
      ((store.names worldId).read "meta.json").isSome = true := by
  unfold exist metaPath worldDir fileExists
  cases validateWorldIdResult worldId with
  | error e => exact iff_of_false nofun nofun
  | ok _ => exact ⟨fun h => ⟨rfl, h⟩, fun h => h.right⟩

theorem mem_of_read {store : FilesystemStore} {worldId name : String}
    (h : ((store.names worldId).read name).isSome = true) : worldId ∈ store.worlds := by
  rw [BTreeMap.mem_iff]
  cases hworld : store.worlds[worldId]? with
  | some d => exact ⟨d, rfl⟩
  | none =>
      unfold names at h
      rw [hworld] at h
      cases h

theorem storageStatus_complete {store : FilesystemStore} {worldId : String} :
    store.storageStatus worldId = .ok .complete <->
      store.exist worldId = true ∧
        exists snapshot : Bytes, store.loadSnapshot worldId = .ok snapshot := by
  have hload : (exists snapshot : Bytes, store.loadSnapshot worldId = .ok snapshot) <->
      validateWorldIdResult worldId = .ok () ∧
        ((store.names worldId).read "snapshot.json").isSome = true := by
    rw [Option.isSome_iff_exists]
    constructor
    · rintro ⟨snapshot, h⟩
      exact ⟨(loadSnapshot_eq_ok.mp h).left, snapshot, (loadSnapshot_eq_ok.mp h).right⟩
    · rintro ⟨hvalid, snapshot, hread⟩
      exact ⟨snapshot, loadSnapshot_eq_ok.mpr ⟨hvalid, hread⟩⟩
  rw [exist_iff, hload]
  unfold storageStatus storageStatusWith worldDir
  cases validateWorldIdResult worldId with
  | error e => exact iff_of_false nofun nofun
  | ok _ =>
      by_cases hmem : worldId ∈ store.worlds
      · cases hmeta : ((store.names worldId).read "meta.json").isSome <;>
          cases hsnapshot : ((store.names worldId).read "snapshot.json").isSome <;>
          simp [bind, Except.bind, pure, Except.pure, hmem, fileExists, hmeta, hsnapshot]
      · have habsent : ((store.names worldId).read "meta.json").isSome = false :=
          Bool.eq_false_iff.mpr fun h => hmem (mem_of_read h)
        simp [bind, Except.bind, pure, Except.pure, hmem, habsent]

theorem exist_iff_loadMeta [MetaJson] [MetaJson.Lossless] {store final : FilesystemStore}
    (hstart : store.worlds = ∅) {inputs : List StoreInput} {answers : List (SimResult Unit)}
    (hrun : run serve inputs store = some (answers, final)) (worldId : String) :
    final.exist worldId = true <-> exists worldMeta : WorldMeta,
      final.loadMeta worldId = .ok worldMeta ∧ worldMeta.worldId = worldId := by
  have hsound := SoundDocument.of_run hstart hrun worldId (Or.inl rfl)
  rw [exist_iff, loadMeta_eq]
  rcases hsound.read with ⟨_, hread⟩ | ⟨bytes, ⟨input, _, hwrites⟩, hread⟩
  · rw [hread]
    refine iff_of_false (fun h => absurd h.right Bool.false_ne_true) ?_
    rintro ⟨worldMeta, hload, _⟩
    cases hvalid : validateWorldIdResult worldId <;> simp [hvalid] at hload
  · rcases hwrites.of_meta with ⟨worldMeta, _, text, _, hid, htext, hbytes⟩
    rw [hread, hbytes]
    cases validateWorldIdResult worldId with
    | error e =>
        refine iff_of_false (fun h => nomatch h.left) ?_
        rintro ⟨_, hload, _⟩
        cases hload
    | ok _ =>
        refine iff_of_true ⟨rfl, rfl⟩ ⟨worldMeta, decodeMeta_encoded htext, hid⟩

/-- In a data directory that began without worlds, exactly the worlds whose metadata load
are listed, in order, and exactly those with both documents are complete. -/
theorem listing_agrees [MetaJson] [MetaJson.Lossless] {store final : FilesystemStore}
    (hstart : store.worlds = ∅) {inputs : List StoreInput} {answers : List (SimResult Unit)}
    (hrun : run serve inputs store = some (answers, final)) {entries : List String}
    (hentries : entries.Perm final.worlds.keys) :
    exists worlds : List String, final.listWorlds none entries = .ok worlds ∧
      worlds.Pairwise (fun a b => a < b) ∧
      (forall worldId : String, worldId ∈ worlds <-> exists worldMeta : WorldMeta,
        final.loadMeta worldId = .ok worldMeta ∧ worldMeta.worldId = worldId) ∧
      forall worldId : String, final.storageStatus worldId = .ok .complete <->
        worldId ∈ worlds ∧
          exists snapshot : Bytes, final.loadSnapshot worldId = .ok snapshot := by
  have hlisted : forall worldId : String,
      worldId ∈ (entries.filter final.exist).mergeSort (fun a b => a ≤ b) <->
        final.exist worldId = true := by
    intro worldId
    rw [List.mem_mergeSort, List.mem_filter, hentries.mem_iff, Std.ExtTreeMap.mem_keys]
    exact ⟨fun h => h.right, fun h => ⟨mem_of_read (exist_iff.mp h).right, h⟩⟩
  have hnodup : entries.Nodup := hentries.nodup_iff.mpr Std.ExtTreeMap.nodup_keys
  refine ⟨_, rfl, mergeSort_lt (hnodup.filter _), ?_, ?_⟩
  · intro worldId
    rw [hlisted, exist_iff_loadMeta hstart hrun]
  · intro worldId
    rw [hlisted, storageStatus_complete]

theorem listing_agrees_two :
    letI := knownMetas [(World.new "Vale" ⟨7⟩).worldMeta, (World.new "Fen" ⟨8⟩).worldMeta]
    exists (answers : List (SimResult Unit)) (final : FilesystemStore),
      run serve twoWorlds emptyStore = some (answers, final) ∧
      final.listWorlds none ["world_8", "world_7"] = .ok ["world_7"] ∧
      exists worlds : List String, final.listWorlds none ["world_8", "world_7"] = .ok worlds ∧
        worlds.Pairwise (fun a b => a < b) ∧
        (forall worldId : String, worldId ∈ worlds <-> exists worldMeta : WorldMeta,
          final.loadMeta worldId = .ok worldMeta ∧ worldMeta.worldId = worldId) ∧
        forall worldId : String, final.storageStatus worldId = .ok .complete <->
          worldId ∈ worlds ∧
            exists snapshot : Bytes, final.loadSnapshot worldId = .ok snapshot := by
  let _ := knownMetas [(World.new "Vale" ⟨7⟩).worldMeta, (World.new "Fen" ⟨8⟩).worldMeta]
  have _ : MetaJson.Lossless := knownMetas_lossless (by decide +kernel)
  have hfound : (run serve twoWorlds emptyStore).map (fun result =>
      (result.2.worlds.keys, (result.2.listWorlds none ["world_8", "world_7"]).toOption)) =
        some (["world_7", "world_8"], some ["world_7"]) := by
    decide +kernel
  rcases Option.map_eq_some_iff.mp hfound with ⟨⟨answers, final⟩, hrun, hlists⟩
  have hkeys : final.worlds.keys = ["world_7", "world_8"] := congrArg Prod.fst hlists
  have hentries : ["world_8", "world_7"].Perm final.worlds.keys := by
    rw [hkeys]
    exact List.Perm.swap _ _ _
  rcases listing_agrees rfl hrun hentries with ⟨worlds, hworlds, hall⟩
  have hlist : (final.listWorlds none ["world_8", "world_7"]).toOption = some ["world_7"] :=
    congrArg Prod.snd hlists
  rw [hworlds] at hlist
  have hsame : worlds = ["world_7"] := Option.some.inj hlist
  exact ⟨answers, final, hrun, hsame ▸ hworlds, worlds, hworlds, hall⟩

end FilesystemStore

end Seej
