import Seej.Foundation.Transition
import Seej.StoreAtomicity

/-!
# Documents and power failures

Runs of saves and deletions, each with its own faults, and power failures at any moment
between two of them; a save that a power failure interrupts is one that fails at that
step.  No run makes a document hold bytes that were not given to a save of it, and a
save whose directory was synchronised is undone by nothing but a deletion and a power
failure that takes the directory itself: no call synchronises the names of the
directories of the worlds.
-/

namespace Seej

open Foundation

/-!
## Runs of a store
-/

/-- What a power failure leaves: the worlds whose directories are lost, and the
meanings that the names in the other directories fall back to. -/
structure Outage where
  lost : List String := []
  pick : String -> String -> NameSlot.Pick UInt8

inductive StoreInput where
  | saveMeta (worldMeta : WorldMeta) (io : SaveIo)
  | saveSnapshot (worldId : String) (snapshot : Bytes) (io : SaveIo)
  | deleteWorld (worldId : String) (fault : Option DeleteFault)
  | powerFailure (outage : Outage)

/-- The directory of the world is gone after the input, or part of it. -/
def StoreInput.Takes (worldId : String) : StoreInput -> Prop
  | .deleteWorld target _ => target = worldId
  | .powerFailure outage => worldId ∈ outage.lost
  | _ => False

namespace FilesystemStore

def survive (store : FilesystemStore) (outage : Outage) : FilesystemStore :=
  { store with
    worlds := store.worlds.filterMap fun worldId d =>
      if worldId ∈ outage.lost then none else some (d.survive (outage.pick worldId)) }

def withSaves (store : FilesystemStore) (saves : List SaveIo) : FilesystemStore :=
  { store with saves := saves }

def serve [MetaJson] (store : FilesystemStore) :
    StoreInput -> Option (SimResult Unit × FilesystemStore)
  | .saveMeta worldMeta io => some ((store.withSaves [io]).saveMeta worldMeta)
  | .saveSnapshot worldId snapshot io =>
      some ((store.withSaves [io]).saveSnapshot worldId snapshot)
  | .deleteWorld worldId fault => some (store.deleteWorld fault worldId)
  | .powerFailure outage => some (.ok (), store.survive outage)

theorem worlds_survive (store : FilesystemStore) (outage : Outage) (worldId : String) :
    (store.survive outage).worlds[worldId]? =
      if worldId ∈ outage.lost then none
      else store.worlds[worldId]?.map fun d => d.survive (outage.pick worldId) := by
  unfold survive
  rw [Std.ExtTreeMap.getElem?_filterMap']
  cases store.worlds[worldId]? with
  | some d => rfl
  | none =>
      split
      · rfl
      · rfl

theorem names_survive (store : FilesystemStore) {outage : Outage} {worldId : String}
    (hkept : worldId ∉ outage.lost) :
    (store.survive outage).names worldId =
      (store.names worldId).survive (outage.pick worldId) := by
  unfold names
  rw [worlds_survive, if_neg hkept]
  cases store.worlds[worldId]? with
  | some d => rfl
  | none =>
      funext name
      show NameSlot.empty = NameSlot.survive NameSlot.empty _
      unfold NameSlot.survive NameSlot.versions NameSlot.empty
      cases (outage.pick worldId name).version with
      | zero => rfl
      | succ n => rfl

theorem names_survive_lost (store : FilesystemStore) {outage : Outage} {worldId : String}
    (hlost : worldId ∈ outage.lost) :
    (store.survive outage).names worldId = Directory.empty := by
  unfold names
  rw [worlds_survive, if_pos hlost]
  rfl

end FilesystemStore

inductive StoreInput.Writes [MetaJson] (worldId : String) : String -> Bytes -> StoreInput -> Prop
    where
  | worldMeta {worldMeta : WorldMeta} {io : SaveIo} {text : String}
      (hid : worldMeta.worldId = worldId)
      (htext : MetaJson.toStringPretty worldMeta = .ok text) :
      Writes worldId "meta.json" (textBytes text) (.saveMeta worldMeta io)
  | snapshot {snapshot : Bytes} {io : SaveIo} :
      Writes worldId "snapshot.json" snapshot (.saveSnapshot worldId snapshot io)

namespace StoreInput.Writes

variable [MetaJson] {worldId : String} {bytes : Bytes} {input : StoreInput}

theorem of_snapshot (h : input.Writes worldId "snapshot.json" bytes) :
    exists io : SaveIo, input = .saveSnapshot worldId bytes io := by
  generalize hname : "snapshot.json" = name at h
  cases h with
  | worldMeta _ _ => exact absurd hname (by decide)
  | @snapshot _ io => exact ⟨io, rfl⟩

theorem of_meta (h : input.Writes worldId "meta.json" bytes) :
    exists (worldMeta : WorldMeta) (io : SaveIo) (text : String),
      input = .saveMeta worldMeta io ∧ worldMeta.worldId = worldId ∧
        MetaJson.toStringPretty worldMeta = .ok text ∧ bytes = textBytes text := by
  generalize hname : "meta.json" = name at h
  cases h with
  | @worldMeta worldMeta io text hid htext => exact ⟨worldMeta, io, text, rfl, hid, htext, rfl⟩
  | snapshot => exact absurd hname (by decide)

end StoreInput.Writes

def IsDocument (name : String) : Prop :=
  name = "meta.json" ∨ name = "snapshot.json"

theorem IsDocument.ne_temp {name other : String} (h : IsDocument name) (h' : IsDocument other) :
    name ≠ tempName other := by
  rcases h with h | h <;> rcases h' with h' | h' <;> rw [h, h'] <;> decide

/-- What a document may be after a power failure: some bytes that are flushed and
meet the condition, or nothing where that is allowed. -/
inductive Sound (missing : Prop) (condition : Bytes -> Prop) : Option (StoredFile UInt8) -> Prop
    where
  | absent (h : missing) : Sound missing condition none
  | present {content : Bytes} (h : condition content) :
      Sound missing condition (some ⟨content, true⟩)

def SoundDocument (store : FilesystemStore) (worldId name : String) (missing : Prop)
    (condition : Bytes -> Prop) : Prop :=
  forall version : Option (StoredFile UInt8),
    version ∈ (store.names worldId name).versions -> Sound missing condition version

namespace SoundDocument

variable {store next : FilesystemStore} {worldId name : String} {missing : Prop}
  {condition : Bytes -> Prop}

theorem flushed (h : SoundDocument store worldId name missing condition) :
    (store.names worldId name).Flushed := by
  intro file hmem
  cases h _ hmem with
  | present _ => rfl

theorem read (h : SoundDocument store worldId name missing condition) :
    (missing ∧ (store.names worldId).read name = none) ∨
      exists content : Bytes, condition content ∧
        (store.names worldId).read name = some content := by
  unfold Directory.read
  have hcurrent := h _ List.mem_cons_self
  cases hversion : (store.names worldId name).current with
  | none =>
      rw [hversion] at hcurrent
      cases hcurrent with
      | absent hmissing => exact Or.inl ⟨hmissing, rfl⟩
  | some file =>
      rw [hversion] at hcurrent
      cases hcurrent with
      | @present content hcontent => exact Or.inr ⟨content, hcontent, rfl⟩

theorem saved (h : SoundDocument store worldId name missing condition) (hname : IsDocument name)
    {target document : String} {content : Except String Bytes} {io : SaveIo}
    {result : SimResult Unit} (hdocument : IsDocument document)
    (hsaved : FilesystemStore.Saved store target document content io result next)
    (hwrites : target = worldId -> document = name ->
      forall bytes : Bytes, content = .ok bytes -> condition bytes) :
    SoundDocument next worldId name missing condition := by
  intro version hmem
  by_cases htarget : target = worldId
  · subst htarget
    rcases hsaved.names_self with ⟨hsame, _⟩ | ⟨bytes, _, hcontent, _, hreplaced, _⟩
    · rw [hsame] at hmem
      exact h version hmem
    · by_cases hsame : document = name
      · subst hsame
        rcases hreplaced.versions_target (hname.ne_temp hname) hmem with hnew | hold
        · rw [hnew]
          exact Sound.present (hwrites rfl rfl bytes hcontent)
        · exact h version hold
      · exact h version
          (hreplaced.versions_other (hname.ne_temp hdocument) (Ne.symm hsame) hmem)
  · rw [hsaved.names_other (Ne.symm htarget)] at hmem
    exact h version hmem

theorem survive (h : SoundDocument store worldId name missing condition) {outage : Outage}
    (hmissing : worldId ∈ outage.lost -> missing) :
    SoundDocument (store.survive outage) worldId name missing condition := by
  intro version hmem
  by_cases hlost : worldId ∈ outage.lost
  · rw [FilesystemStore.names_survive_lost store hlost] at hmem
    rw [List.mem_singleton.mp hmem]
    exact Sound.absent (hmissing hlost)
  · rw [FilesystemStore.names_survive store hlost] at hmem
    rw [List.mem_singleton.mp hmem]
    exact h _ (NameSlot.survive_current h.flushed _)

/-- Deleting the world takes the document away, or other documents only. -/
theorem deleted (h : SoundDocument store worldId name missing condition)
    {fault : Option DeleteFault} {target : String}
    (hmissing : target = worldId -> missing) :
    SoundDocument (store.deleteWorld fault target).2 worldId name missing condition := by
  intro version hmem
  rcases store.deleteWorld_cases fault target with hsame | ⟨removed, hremoved⟩ | herased
  · rw [hsame] at hmem
    exact h version hmem
  · rw [FilesystemStore.names_of_worlds hremoved] at hmem
    by_cases htarget : target = worldId
    · rw [if_pos htarget] at hmem
      split at hmem
      · rcases List.mem_cons.mp hmem with hnone | hold
        · rw [hnone]
          exact Sound.absent (hmissing htarget)
        · exact h version (htarget ▸ hold)
      · exact h version (htarget ▸ hmem)
    · rw [if_neg htarget] at hmem
      exact h version hmem
  · by_cases htarget : target = worldId
    · subst htarget
      rw [FilesystemStore.names_of_erased herased, if_pos rfl] at hmem
      rw [List.mem_singleton.mp hmem]
      exact Sound.absent (hmissing rfl)
    · rw [FilesystemStore.names_of_erased herased, if_neg htarget] at hmem
      exact h version hmem

theorem step [MetaJson] (h : SoundDocument store worldId name missing condition)
    (hname : IsDocument name) {input : StoreInput} {answer : SimResult Unit}
    (hserve : store.serve input = some (answer, next))
    (hwrites : forall bytes : Bytes, input.Writes worldId name bytes -> condition bytes)
    (htakes : input.Takes worldId -> missing) :
    SoundDocument next worldId name missing condition := by
  cases input with
  | deleteWorld target fault =>
      have hnext : next = (store.deleteWorld fault target).2 :=
        (congrArg Prod.snd (Option.some.inj hserve)).symm
      rw [hnext]
      exact h.deleted htakes
  | saveMeta worldMeta io =>
      have hsaved := (store.withSaves [io]).saveMeta_saved worldMeta
      rw [Option.some.inj hserve] at hsaved
      have hbefore : SoundDocument (store.withSaves [io]) worldId name missing condition := h
      apply hbefore.saved hname (Or.inl rfl) hsaved
      rintro hid hdocument bytes hcontent
      subst hdocument
      cases htext : MetaJson.toStringPretty worldMeta with
      | error e =>
          rw [htext] at hcontent
          cases hcontent
      | ok text =>
          rw [htext] at hcontent
          cases hcontent
          exact hwrites _ (StoreInput.Writes.worldMeta hid htext)
  | saveSnapshot target snapshot io =>
      have hsaved := (store.withSaves [io]).saveSnapshot_saved target snapshot
      rw [Option.some.inj hserve] at hsaved
      have hbefore : SoundDocument (store.withSaves [io]) worldId name missing condition := h
      apply hbefore.saved hname (Or.inr rfl) hsaved
      rintro hid hdocument bytes hcontent
      subst hid hdocument
      cases hcontent
      exact hwrites _ StoreInput.Writes.snapshot
  | powerFailure outage =>
      cases hserve
      exact h.survive htakes

theorem run [MetaJson] {inputs : List StoreInput} {answers : List (SimResult Unit)}
    (h : SoundDocument store worldId name missing condition) (hname : IsDocument name)
    (hrun : Foundation.run FilesystemStore.serve inputs store = some (answers, next))
    (hwrites : forall (input : StoreInput) (bytes : Bytes), input ∈ inputs ->
      input.Writes worldId name bytes -> condition bytes)
    (htakes : forall input : StoreInput, input ∈ inputs -> input.Takes worldId -> missing) :
    SoundDocument next worldId name missing condition := by
  have hstep : forall (before after : FilesystemStore) (input : StoreInput)
      (answer : SimResult Unit), SoundDocument before worldId name missing condition ->
      ((forall bytes : Bytes, input.Writes worldId name bytes -> condition bytes) ∧
        (input.Takes worldId -> missing)) ->
      before.serve input = some (answer, after) ->
      SoundDocument after worldId name missing condition :=
    fun _ _ _ _ hbefore hinput hserve => hbefore.step hname hserve hinput.left hinput.right
  refine run_invariant_of_mem hstep hrun ?_ h
  intro input hmem
  exact ⟨fun bytes => hwrites input bytes hmem, htakes input hmem⟩

end SoundDocument

/-!
## Documents of a run
-/

/-- In a data directory that began without worlds a document holds what a save was
given. -/
theorem SoundDocument.of_run [MetaJson] {store final : FilesystemStore}
    (hstart : store.worlds = ∅) {inputs : List StoreInput} {answers : List (SimResult Unit)}
    (hrun : Foundation.run FilesystemStore.serve inputs store = some (answers, final))
    (worldId : String) {name : String} (hname : IsDocument name) :
    SoundDocument final worldId name True
      fun bytes => exists input : StoreInput, input ∈ inputs ∧ input.Writes worldId name bytes := by
  have hempty : SoundDocument store worldId name True
      fun bytes => exists input : StoreInput, input ∈ inputs ∧
        input.Writes worldId name bytes := by
    intro version hmem
    have hnames : store.names worldId = Directory.empty := by
      unfold FilesystemStore.names
      rw [hstart]
      rfl
    rw [hnames] at hmem
    rw [List.mem_singleton.mp hmem]
    exact Sound.absent trivial
  exact hempty.run hname hrun (fun input _ hmem hwrites => ⟨input, hmem, hwrites⟩)
    fun _ _ _ => trivial

/-- A load finds what a save was given, or nothing. -/
theorem loads_were_saved [MetaJson] [MetaJson.Lossless] {store final : FilesystemStore}
    (hstart : store.worlds = ∅) {inputs : List StoreInput} {answers : List (SimResult Unit)}
    (hrun : run FilesystemStore.serve inputs store = some (answers, final))
    {worldId : String} (hvalid : validateWorldIdResult worldId = .ok ()) :
    (final.loadSnapshot worldId = .error (.notFound worldId) ∨
      exists (snapshot : Bytes) (io : SaveIo), final.loadSnapshot worldId = .ok snapshot ∧
        StoreInput.saveSnapshot worldId snapshot io ∈ inputs) ∧
    (final.loadMeta worldId = .error (.notFound worldId) ∨
      exists (worldMeta : WorldMeta) (io : SaveIo), final.loadMeta worldId = .ok worldMeta ∧
        worldMeta.worldId = worldId ∧ StoreInput.saveMeta worldMeta io ∈ inputs) := by
  constructor
  · rcases (SoundDocument.of_run hstart hrun worldId (Or.inr rfl)).read with
      ⟨_, hread⟩ | ⟨bytes, ⟨input, hmem, hwrites⟩, hread⟩
    · left
      rw [FilesystemStore.loadSnapshot_eq, hvalid, hread]
    · right
      rcases hwrites.of_snapshot with ⟨io, hinput⟩
      rw [hinput] at hmem
      exact ⟨bytes, io, FilesystemStore.loadSnapshot_eq_ok.mpr ⟨hvalid, hread⟩, hmem⟩
  · rcases (SoundDocument.of_run hstart hrun worldId (Or.inl rfl)).read with
      ⟨_, hread⟩ | ⟨bytes, ⟨input, hmem, hwrites⟩, hread⟩
    · left
      rw [FilesystemStore.loadMeta_eq, hvalid, hread]
    · right
      rcases hwrites.of_meta with ⟨worldMeta, io, text, hinput, hid, htext, hbytes⟩
      rw [hinput] at hmem
      refine ⟨worldMeta, io, ?_, hid, hmem⟩
      rw [FilesystemStore.loadMeta_eq, hvalid, hread, hbytes]
      exact FilesystemStore.decodeMeta_encoded htext

/-- After a save that succeeds, directory included, the document is that one or one
that a later save was given. -/
theorem SoundDocument.of_saved {store next : FilesystemStore} {worldId name : String}
    {content : Except String Bytes} {io : SaveIo} {condition : Bytes -> Prop}
    (hsaved : FilesystemStore.Saved store worldId name content io (.ok ()) next)
    (hsynced : io.replace.namesSynced = true)
    (hcondition : forall bytes : Bytes, content = .ok bytes -> condition bytes) :
    SoundDocument next worldId name False condition := by
  intro version hmem
  rcases hsaved.names_self with ⟨_, _, herror⟩ | ⟨bytes, answer, hcontent, _, hreplaced, hresult⟩
  · cases herror
  · rw [hsynced, hresult.mp rfl] at hreplaced
    rw [hreplaced.versions_settled] at hmem
    rw [List.mem_singleton.mp hmem]
    exact Sound.present (hcondition bytes hcontent)

/-- A snapshot that was saved, with its directory synchronised, is not lost: whatever
fails later, a world that is not deleted and whose directory no power failure takes has
that snapshot or one of a later save. -/
theorem saved_snapshot_survives [MetaJson] {store saved final : FilesystemStore}
    {worldId : String} {snapshot : Bytes} {io : SaveIo}
    (hsynced : io.replace.namesSynced = true)
    (hsave : store.serve (.saveSnapshot worldId snapshot io) = some (.ok (), saved))
    {inputs : List StoreInput} {answers : List (SimResult Unit)}
    (hrun : run FilesystemStore.serve inputs saved = some (answers, final))
    (hdeleted : forall fault : Option DeleteFault,
      StoreInput.deleteWorld worldId fault ∉ inputs)
    (hdirectory : forall outage : Outage, StoreInput.powerFailure outage ∈ inputs ->
      worldId ∉ outage.lost) :
    exists bytes : Bytes, final.loadSnapshot worldId = .ok bytes ∧
      (bytes = snapshot ∨
        exists io : SaveIo, StoreInput.saveSnapshot worldId bytes io ∈ inputs) := by
  have hsaved := (store.withSaves [io]).saveSnapshot_saved worldId snapshot
  rw [Option.some.inj hsave] at hsaved
  rcases hsaved.read_of_ok with ⟨_, _, hvalid, _⟩
  have hstart : SoundDocument saved worldId "snapshot.json" False fun bytes =>
      bytes = snapshot ∨ exists io : SaveIo, StoreInput.saveSnapshot worldId bytes io ∈ inputs := by
    apply SoundDocument.of_saved hsaved hsynced
    intro bytes hcontent
    cases hcontent
    exact Or.inl rfl
  have hwrites : forall (input : StoreInput) (bytes : Bytes), input ∈ inputs ->
      input.Writes worldId "snapshot.json" bytes ->
      bytes = snapshot ∨ exists io : SaveIo, StoreInput.saveSnapshot worldId bytes io ∈ inputs := by
    intro input bytes hmem hwrites
    rcases hwrites.of_snapshot with ⟨io, hinput⟩
    rw [hinput] at hmem
    exact Or.inr ⟨io, hmem⟩
  have hkept : forall input : StoreInput, input ∈ inputs -> input.Takes worldId -> False := by
    intro input hmem htakes
    cases input with
    | deleteWorld target fault =>
        subst htakes
        exact hdeleted fault hmem
    | powerFailure outage => exact hdirectory outage hmem htakes
    | saveMeta worldMeta io => exact htakes
    | saveSnapshot target snapshot io => exact htakes
  have hend := hstart.run (Or.inr rfl) hrun hwrites hkept
  rcases hend.read with ⟨hfalse, _⟩ | ⟨bytes, hbytes, hread⟩
  · exact hfalse.elim
  · exact ⟨bytes, FilesystemStore.loadSnapshot_eq_ok.mpr ⟨hvalid, hread⟩, hbytes⟩

def emptyStore : FilesystemStore :=
  { basePath := "data", worlds := ∅, saves := [] }

/-- The directory is not synchronised after the second save, and the first snapshot comes
back. -/
def fallenBack : List StoreInput :=
  [.saveSnapshot "vale" [2] { replace := { namesSynced := false } },
    .powerFailure { lost := ["fen"], pick := fun _ _ => ⟨1, []⟩ }]

theorem saved_snapshot_survives_fallenBack :
    letI := knownMetas []
    exists (saved final : FilesystemStore) (answers : List (SimResult Unit)) (bytes : Bytes),
      emptyStore.serve (.saveSnapshot "vale" [1] {}) = some (.ok (), saved) ∧
      run FilesystemStore.serve fallenBack saved = some (answers, final) ∧
      final.loadSnapshot "vale" = .ok bytes ∧
      (bytes = [1] ∨
        exists io : SaveIo, StoreInput.saveSnapshot "vale" bytes io ∈ fallenBack) := by
  let _ := knownMetas []
  have hsave : (emptyStore.serve (.saveSnapshot "vale" [1] {})).map Prod.fst = some (.ok ()) := by
    decide +kernel
  rcases Option.map_eq_some_iff.mp hsave with ⟨⟨answer, saved⟩, hserve, hanswer⟩
  rw [show answer = _ from hanswer] at hserve
  have hdeleted : forall fault : Option DeleteFault,
      StoreInput.deleteWorld "vale" fault ∉ fallenBack := by
    intro fault hmem
    simp [fallenBack] at hmem
  have hdirectory : forall outage : Outage, StoreInput.powerFailure outage ∈ fallenBack ->
      "vale" ∉ outage.lost := by
    intro outage hmem
    simp only [fallenBack, List.mem_cons, StoreInput.powerFailure.injEq, reduceCtorEq,
      List.not_mem_nil, false_or, or_false] at hmem
    rw [hmem]
    decide
  have hrun : run FilesystemStore.serve fallenBack saved = some (_, _) := rfl
  rcases saved_snapshot_survives rfl hserve hrun hdeleted hdirectory with ⟨bytes, hload, hbytes⟩
  exact ⟨saved, _, _, bytes, hserve, hrun, hload, hbytes⟩

def unrenamed : List StoreInput :=
  [.saveSnapshot "vale" [1] {},
    .saveSnapshot "vale" [2] { replace := { rename := some "Input/output error (os error 5)" } },
    .powerFailure { pick := fun _ _ => ⟨0, [3]⟩ }]

theorem loads_were_saved_unrenamed :
    letI := knownMetas []
    exists (answers : List (SimResult Unit)) (final : FilesystemStore),
      run FilesystemStore.serve unrenamed emptyStore = some (answers, final) ∧
      final.loadSnapshot "vale" = .ok [1] ∧
      (final.loadSnapshot "vale" = .error (.notFound "vale") ∨
        exists (snapshot : Bytes) (io : SaveIo), final.loadSnapshot "vale" = .ok snapshot ∧
          StoreInput.saveSnapshot "vale" snapshot io ∈ unrenamed) := by
  let _ := knownMetas []
  have _ : MetaJson.Lossless := knownMetas_lossless (by decide)
  have hload : (run FilesystemStore.serve unrenamed emptyStore).map
      (fun result => result.2.loadSnapshot "vale") = some (.ok [1]) := by
    decide +kernel
  rcases Option.map_eq_some_iff.mp hload with ⟨⟨answers, final⟩, hrun, hfound⟩
  have hvalid : validateWorldIdResult "vale" = .ok () := by decide
  exact ⟨answers, final, hrun, hfound, (loads_were_saved rfl hrun hvalid).left⟩

end Seej
