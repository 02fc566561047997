import Seej.Durability
import Seej.StoreDurability

/-!
# Checkpoints and power failures

After a power failure the documents of the filesystem store fall back to what their
directory has made durable.  Whatever a save got to before it, a checkpoint is left,
as long as the directories themselves are there.
-/

namespace Seej

open Foundation

/-!
## Stores with the same documents
-/

section Documents

variable {S : Type} [IWorldStore S] {store next : S} {first : World} {journal : List SimEvent}

theorem EmptyStore.congr (h : EmptyStore store)
    (hsnapshot : forall worldId : String,
      IWorldStore.loadSnapshot next worldId = IWorldStore.loadSnapshot store worldId)
    (hmeta : forall worldId : String,
      IWorldStore.loadMeta next worldId = IWorldStore.loadMeta store worldId) :
    EmptyStore next := by
  constructor
  · intro worldId snapshot
    rw [hsnapshot]
    exact h.snapshot worldId snapshot
  · intro worldId hvalid
    rw [hmeta]
    exact h.worldMeta worldId hvalid

variable [SnapshotJson]

theorem Stored.congr (h : Stored store first journal)
    (hsnapshot : forall worldId : String,
      IWorldStore.loadSnapshot next worldId = IWorldStore.loadSnapshot store worldId)
    (hmeta : forall worldId : String,
      IWorldStore.loadMeta next worldId = IWorldStore.loadMeta store worldId) :
    Stored next first journal := by
  cases h with
  | nothing hempty => exact Stored.nothing (hempty.congr hsnapshot hmeta)
  | saved hsaved =>
      refine Stored.saved ⟨hsaved.reaches, ?_, hsaved.mirror.transfer (Nat.le_refl _) hmeta, ?_⟩
      · rw [hsnapshot]
        exact hsaved.snapshot
      · intro worldId bytes hload
        rw [hsnapshot] at hload
        exact hsaved.other worldId bytes hload

theorem SavedAt.of_snapshot [SnapshotJson.Lossless] {world : World} {bytes : Bytes}
    (h : Stored store first journal) (hid : validateWorldIdResult first.id = .ok ())
    (hformat : first.worldMeta.formatVersion = WorldMeta.currentFormatVersion)
    (hworld : Reaches first journal journal.length world)
    (hencode : encodeWorld (world.savedAt journal.length) = .ok bytes)
    (hnew : IWorldStore.loadSnapshot next first.id = .ok bytes)
    (hother : forall worldId : String, worldId ≠ first.id ->
      IWorldStore.loadSnapshot next worldId = IWorldStore.loadSnapshot store worldId)
    (hmeta : forall worldId : String,
      IWorldStore.loadMeta next worldId = IWorldStore.loadMeta store worldId) :
    SavedAt next first journal journal.length world := by
  constructor
  case reaches => exact hworld
  case snapshot => exact ⟨bytes, hnew, decodeWorld_encodeWorld (hworld.savable hformat) hencode⟩
  case mirror => exact (h.mirrors hid).transfer (Nat.le_refl _) hmeta
  case other =>
    intro worldId found hload
    by_contra hne
    rw [hother worldId hne] at hload
    exact hne (h.other worldId found hload)

theorem SavedAt.of_meta {world : World} {n : Nat} (h : SavedAt store first journal n world)
    (hsnapshot : forall worldId : String,
      IWorldStore.loadSnapshot next worldId = IWorldStore.loadSnapshot store worldId)
    (hmeta : IWorldStore.loadMeta next first.id = .ok (world.savedAt n).worldMeta ∨
      IWorldStore.loadMeta next first.id = IWorldStore.loadMeta store first.id) :
    SavedAt next first journal n world := by
  constructor
  case reaches => exact h.reaches
  case snapshot =>
    rw [hsnapshot]
    exact h.snapshot
  case mirror =>
    rcases hmeta with hnew | hsame
    · exact Mirrors.saved (Nat.le_refl n) h.reaches hnew
    · cases h.mirror with
      | missing hfound => exact Mirrors.missing (hsame.trans hfound)
      | saved hle hreaches hfound => exact Mirrors.saved hle hreaches (hsame.trans hfound)
  case other =>
    intro worldId found hload
    rw [hsnapshot] at hload
    exact h.other worldId found hload

end Documents

namespace FilesystemStore

/-- The data directory after a power failure that takes no directory of a world. -/
def fallBack (store : FilesystemStore) (pick : String -> String -> NameSlot.Pick UInt8) :
    FilesystemStore :=
  store.survive { pick := pick }

theorem names_fallBack (store : FilesystemStore)
    (pick : String -> String -> NameSlot.Pick UInt8) (worldId : String) :
    (store.fallBack pick).names worldId = (store.names worldId).survive (pick worldId) :=
  store.names_survive List.not_mem_nil

def SameDocuments (left right : FilesystemStore) : Prop :=
  forall worldId name : String, IsDocument name ->
    left.names worldId name = right.names worldId name

namespace SameDocuments

variable {left right : FilesystemStore}

theorem loadSnapshot (h : SameDocuments left right) (worldId : String) :
    left.loadSnapshot worldId = right.loadSnapshot worldId := by
  apply loadSnapshot_congr
  unfold Directory.read
  rw [h worldId _ (Or.inr rfl)]

theorem loadMeta [MetaJson] (h : SameDocuments left right) (worldId : String) :
    left.loadMeta worldId = right.loadMeta worldId := by
  apply loadMeta_congr
  unfold Directory.read
  rw [h worldId _ (Or.inl rfl)]

theorem fallBack (h : SameDocuments left right)
    (pick : String -> String -> NameSlot.Pick UInt8) :
    SameDocuments (left.fallBack pick) (right.fallBack pick) := by
  intro worldId name hname
  rw [names_fallBack, names_fallBack]
  show (left.names worldId name).survive _ = (right.names worldId name).survive _
  rw [h worldId name hname]

theorem stored [MetaJson] [SnapshotJson] {first : World} {journal : List SimEvent}
    (h : SameDocuments left right) (hstored : Stored right first journal) :
    Stored left first journal :=
  hstored.congr h.loadSnapshot h.loadMeta

theorem emptyStore [MetaJson] (h : SameDocuments left right) (hempty : EmptyStore right) :
    EmptyStore left :=
  hempty.congr h.loadSnapshot h.loadMeta

end SameDocuments

theorem fallBack_fallBack (store : FilesystemStore)
    (pick other : String -> String -> NameSlot.Pick UInt8) :
    SameDocuments ((store.fallBack pick).fallBack other) (store.fallBack pick) := by
  intro worldId name _
  rw [names_fallBack, names_fallBack]
  exact NameSlot.survive_survive _ _ _

/-- A power failure after a save leaves the new document, or what one before the save
could have left, and of all other documents what one before it could have left. -/
theorem Saved.fallBack {store next : FilesystemStore} {worldId name : String}
    {content : Except String Bytes} {io : SaveIo} {result : SimResult Unit}
    (h : Saved store worldId name content io result next) (hname : IsDocument name)
    (pick : String -> String -> NameSlot.Pick UInt8) :
    exists before : String -> String -> NameSlot.Pick UInt8,
      (forall other document : String, IsDocument document ->
        other ≠ worldId ∨ document ≠ name ->
          (next.fallBack pick).names other document =
            (store.fallBack before).names other document) ∧
      ((exists bytes : Bytes, content = .ok bytes ∧ validateWorldIdResult worldId = .ok () ∧
          ((next.fallBack pick).names worldId).read name = some bytes) ∨
        (next.fallBack pick).names worldId name = (store.fallBack before).names worldId name) := by
  rcases h.names_self with ⟨hsame, _⟩ | ⟨bytes, _, hcontent, hvalid, hreplaced, _⟩
  · have hall : forall other : String, next.names other = store.names other := by
      intro other
      by_cases hother : other = worldId
      · rw [hother, hsame]
      · exact h.names_other hother
    refine ⟨pick, ?_, Or.inr ?_⟩
    · intro other document _ _
      rw [names_fallBack, names_fallBack, hall]
    · rw [names_fallBack, names_fallBack, hall]
  · rcases hreplaced.survive (hname.ne_temp hname) (pick worldId) with ⟨before, hothers, htarget⟩
    refine ⟨Function.update pick worldId before, ?_, ?_⟩
    · intro other document hdocument hdifferent
      rw [names_fallBack, names_fallBack]
      by_cases hother : other = worldId
      · subst hother
        rw [Function.update_self]
        rcases hdifferent with hne | hne
        · exact absurd rfl hne
        · exact hothers document (hdocument.ne_temp hname) hne
      · rw [Function.update_of_ne hother, h.names_other hother]
    · rw [names_fallBack, names_fallBack, Function.update_self]
      rcases htarget with hnew | hold
      · left
        refine ⟨bytes, hcontent, hvalid, ?_⟩
        unfold Directory.read
        rw [hnew]
        rfl
      · exact Or.inr hold

end FilesystemStore

theorem SoundDocument.fallBack {store : FilesystemStore} {worldId name : String}
    {missing : Prop} {condition : Bytes -> Prop}
    (h : SoundDocument store worldId name missing condition)
    (pick : String -> String -> NameSlot.Pick UInt8) :
    SoundDocument (store.fallBack pick) worldId name missing condition :=
  h.survive fun hlost => absurd hlost List.not_mem_nil

/-!
## Checkpoints and power failures
-/

def Secure (P : FilesystemStore -> Prop) (store : FilesystemStore) : Prop :=
  P store ∧ forall pick : String -> String -> NameSlot.Pick UInt8, P (store.fallBack pick)

namespace Secure

variable {P Q : FilesystemStore -> Prop} {store next : FilesystemStore}

theorem imp (h : Secure P store) (himp : forall s : FilesystemStore, P s -> Q s) :
    Secure Q store :=
  ⟨himp _ h.left, fun pick => himp _ (h.right pick)⟩

theorem congr (h : Secure P store) (hsame : FilesystemStore.SameDocuments next store)
    (hP : forall left right : FilesystemStore, FilesystemStore.SameDocuments left right ->
      P right -> P left) : Secure P next :=
  ⟨hP _ _ hsame h.left, fun pick => hP _ _ (hsame.fallBack pick) (h.right pick)⟩

theorem fallBack (h : Secure P store)
    (hP : forall left right : FilesystemStore, FilesystemStore.SameDocuments left right ->
      P right -> P left)
    (pick : String -> String -> NameSlot.Pick UInt8) : Secure P (store.fallBack pick) :=
  ⟨h.right pick, fun other => hP _ _ (store.fallBack_fallBack pick other) (h.right pick)⟩

end Secure

section Saving

variable [MetaJson] [MetaJson.Lossless] [SnapshotJson] [SnapshotJson.Lossless]
  {store next : FilesystemStore} {first world : World} {journal : List SimEvent}
  (h : Secure (fun s => Stored s first journal) store)
  (hid : validateWorldIdResult first.id = .ok ())
  (hformat : first.worldMeta.formatVersion = WorldMeta.currentFormatVersion)
  (hworld : Reaches first journal journal.length world) {bytes : Bytes}
  (hencode : encodeWorld (world.savedAt journal.length) = .ok bytes)

include h hid hformat hworld hencode

/-- However a save of the snapshot ends, a power failure after it leaves a
checkpoint. -/
theorem Secure.replaced {result : SimResult Unit}
    (hsave : store.saveSnapshot first.id bytes = (result, next)) :
    Secure (fun s => Stored s first journal) next := by
  refine ⟨h.left.replaced hid hformat hworld hencode hsave, ?_⟩
  intro pick
  have hsaved := store.saveSnapshot_saved first.id bytes
  rw [hsave] at hsaved
  rcases hsaved.fallBack (Or.inr rfl) pick with ⟨before, hothers, htarget⟩
  have hmeta : forall worldId : String, (next.fallBack pick).loadMeta worldId =
      (store.fallBack before).loadMeta worldId := by
    intro worldId
    apply FilesystemStore.loadMeta_congr
    unfold Directory.read
    rw [hothers worldId "meta.json" (Or.inl rfl) (Or.inr (by decide))]
  have hother : forall worldId : String, worldId ≠ first.id ->
      (next.fallBack pick).loadSnapshot worldId = (store.fallBack before).loadSnapshot worldId := by
    intro worldId hne
    apply FilesystemStore.loadSnapshot_congr
    unfold Directory.read
    rw [hothers worldId "snapshot.json" (Or.inr rfl) (Or.inl hne)]
  rcases htarget with ⟨found, hcontent, hvalid, hread⟩ | hold
  · cases hcontent
    have hnew := FilesystemStore.loadSnapshot_eq_ok.mpr ⟨hvalid, hread⟩
    exact Stored.saved (SavedAt.of_snapshot (h.right before) hid hformat hworld hencode hnew
      hother hmeta)
  · refine (h.right before).congr ?_ hmeta
    intro worldId
    by_cases hne : worldId = first.id
    · subst hne
      apply FilesystemStore.loadSnapshot_congr
      unfold Directory.read
      rw [hold]
    · exact hother worldId hne

/-- A save of the snapshot that succeeds, directory included, leaves nothing but the
new checkpoint. -/
theorem Secure.written (hsynced : store.nextSave.1.replace.namesSynced = true)
    (hsave : store.saveSnapshot first.id bytes = (.ok (), next)) :
    Secure (fun s => SavedAt s first journal journal.length world) next := by
  have hsaved := store.saveSnapshot_saved first.id bytes
  rw [hsave] at hsaved
  have hnew := AtomicWorldStore.saveSnapshot_ok store next first.id bytes hsave
  refine ⟨h.left.written hid hformat hworld hencode hsave hnew, ?_⟩
  intro pick
  have hsound : SoundDocument next first.id "snapshot.json" False (fun found => found = bytes) := by
    apply SoundDocument.of_saved hsaved hsynced
    intro found hcontent
    exact (Except.ok.inj hcontent).symm
  rcases (hsound.fallBack pick).read with ⟨hfalse, _⟩ | ⟨found, hfound, hread⟩
  · exact hfalse.elim
  · rw [hfound] at hread
    have hload := FilesystemStore.loadSnapshot_eq_ok.mpr ⟨hid, hread⟩
    rcases hsaved.fallBack (Or.inr rfl) pick with ⟨before, hothers, _⟩
    apply SavedAt.of_snapshot (h.right before) hid hformat hworld hencode hload
    · intro worldId hne
      apply FilesystemStore.loadSnapshot_congr
      unfold Directory.read
      rw [hothers worldId "snapshot.json" (Or.inr rfl) (Or.inl hne)]
    · intro worldId
      apply FilesystemStore.loadMeta_congr
      unfold Directory.read
      rw [hothers worldId "meta.json" (Or.inl rfl) (Or.inr (by decide))]

end Saving

theorem Secure.mirrored [MetaJson] [MetaJson.Lossless] [SnapshotJson]
    {store next : FilesystemStore} {first world : World} {journal : List SimEvent} {n : Nat}
    (h : Secure (fun s => SavedAt s first journal n world) store)
    (hid : (world.savedAt n).worldMeta.worldId = first.id) {result : SimResult Unit}
    (hsave : store.saveMeta (world.savedAt n).worldMeta = (result, next)) :
    Secure (fun s => SavedAt s first journal n world) next := by
  refine ⟨h.left.mirrored hsave, ?_⟩
  intro pick
  have hsaved := store.saveMeta_saved (world.savedAt n).worldMeta
  rw [hsave] at hsaved
  rcases hsaved.fallBack (Or.inl rfl) pick with ⟨before, hothers, htarget⟩
  rw [hid] at htarget
  refine (h.right before).of_meta ?_ ?_
  · intro worldId
    apply FilesystemStore.loadSnapshot_congr
    unfold Directory.read
    rw [hothers worldId "snapshot.json" (Or.inr rfl) (Or.inr (by decide))]
  · rcases htarget with ⟨found, hcontent, hvalid, hread⟩ | hold
    · left
      show (next.fallBack pick).loadMeta first.id = _
      rw [FilesystemStore.loadMeta_eq, hvalid, hread]
      cases htext : MetaJson.toStringPretty (world.savedAt n).worldMeta with
      | error e =>
          rw [htext] at hcontent
          cases hcontent
      | ok text =>
          rw [htext] at hcontent
          cases hcontent
          exact FilesystemStore.decodeMeta_encoded htext
    · right
      apply FilesystemStore.loadMeta_congr
      unfold Directory.read
      rw [hold]

end Seej
