import Seej.FilesystemStore
import Seej.Json

/-!
# Saves of the filesystem store

A save replaces one document of one world as a whole or leaves it, whatever the
file system answers, and touches no other document.  This is what the runtime asks
of its store.
-/

namespace Seej

open Foundation

theorem bytesText_textBytes (text : String) : bytesText (textBytes text) = some text := by
  unfold bytesText textBytes
  have hdata : (⟨text.toByteArray.data.toList.toArray⟩ : ByteArray) = text.toByteArray := by
    rw [Array.toArray_toList]
  rw [hdata]
  exact dif_pos text.isValidUTF8

namespace FilesystemStore

/-!
## Names and paths
-/

theorem names_of_worlds {store next : FilesystemStore} {worldId : String}
    {d : Directory String UInt8} (h : next.worlds = store.worlds.insert worldId d)
    (other : String) :
    next.names other = if worldId = other then d else store.names other := by
  unfold names
  rw [h, BTreeMap.getElem?_insert]
  split
  · rfl
  · rfl

theorem names_of_same {store next : FilesystemStore} (h : next.worlds = store.worlds)
    (worldId : String) : next.names worldId = store.names worldId := by
  unfold names
  rw [h]

theorem worldDir_eq_ok {store : FilesystemStore} {worldId : String} {dir : PathBuf}
    (h : store.worldDir worldId = .ok dir) : validateWorldIdResult worldId = .ok () := by
  unfold worldDir at h
  cases hvalid : validateWorldIdResult worldId with
  | error e =>
      rw [hvalid] at h
      cases h
  | ok _ => rfl

theorem worldDir_of_valid {worldId : String} (h : validateWorldIdResult worldId = .ok ())
    (store : FilesystemStore) :
    store.worldDir worldId = .ok ((PathBuf.join store.basePath "worlds").join worldId) := by
  unfold worldDir
  rw [h]
  rfl

/-!
## Saving
-/

/-- What a save of a document of a world can do. -/
inductive Saved (store : FilesystemStore) (worldId name : String) (content : Except String Bytes)
    (io : SaveIo) : SimResult Unit -> FilesystemStore -> Prop where
  | refused {e : SimError} {next : FilesystemStore} (hworlds : next.worlds = store.worlds) :
      Saved store worldId name content io (.error e) next
  | made {e : SimError} {next : FilesystemStore}
      (hvalid : validateWorldIdResult worldId = .ok ())
      (hworlds : next.worlds = store.worlds.insert worldId (store.names worldId)) :
      Saved store worldId name content io (.error e) next
  | replaced {answer : Except (ReplaceStep × String) Unit} {d : Directory String UInt8}
      {result : SimResult Unit} {bytes : Bytes} {next : FilesystemStore}
      (hvalid : validateWorldIdResult worldId = .ok ()) (hcontent : content = .ok bytes)
      (hreplaced : Directory.Replaced (store.names worldId) (tempName name) name bytes
        io.replace.namesSynced answer d)
      (hresult : result = .ok () <-> answer = .ok ())
      (hworlds : next.worlds = store.worlds.insert worldId d) :
      Saved store worldId name content io result next

theorem insert_names (store : FilesystemStore) (worldId : String) (d : Directory String UInt8) :
    (store.worlds.insert worldId (store.names worldId)).insert worldId d =
      store.worlds.insert worldId d := by
  apply Std.ExtTreeMap.ext_getElem?
  intro k
  rw [BTreeMap.getElem?_insert, BTreeMap.getElem?_insert, BTreeMap.getElem?_insert]
  split
  · rfl
  · rfl

theorem replaceFile_saved {store : FilesystemStore} {io : SaveIo} {worldId name : String}
    (hname : name ≠ tempName name) (hvalid : validateWorldIdResult worldId = .ok ())
    (dir : PathBuf) (texts : SaveTexts) (bytes : Bytes) :
    Saved store worldId name (.ok bytes) io
      (store.replaceFile io worldId name dir texts bytes).1
      (store.replaceFile io worldId name dir texts bytes).2 := by
  have hreplaced := Directory.replace_cases (d := store.names worldId) hname bytes io.replace
  apply Saved.replaced hvalid rfl hreplaced _ rfl
  unfold replaceFile
  cases (store.names worldId).replace (tempName name) name bytes io.replace with
  | mk answer d =>
      cases answer with
      | ok _ => exact iff_of_true rfl rfl
      | error _ => exact iff_of_false nofun nofun

theorem Saved.after_dir {store made : FilesystemStore} {worldId name : String}
    {content : Except String Bytes} {io : SaveIo} {result : SimResult Unit}
    {next : FilesystemStore} (h : Saved made worldId name content io result next)
    (hmade : made.worlds = store.worlds.insert worldId (store.names worldId))
    (hvalid : validateWorldIdResult worldId = .ok ()) :
    Saved store worldId name content io result next := by
  have hnames : made.names worldId = store.names worldId := by
    rw [names_of_worlds hmade, if_pos rfl]
  cases h with
  | refused hworlds => exact Saved.made hvalid (hworlds.trans hmade)
  | made _ hworlds =>
      apply Saved.made hvalid
      rw [hworlds, hmade, hnames, insert_names]
  | replaced _ hcontent hreplaced hresult hworlds =>
      rw [hnames] at hreplaced
      apply Saved.replaced hvalid hcontent hreplaced hresult
      rw [hworlds, hmade, insert_names]

theorem ensureWorldDir_cases (store : FilesystemStore) (io : SaveIo) (worldId : String) :
    (exists e : SimError, store.ensureWorldDir io worldId = (.error e, store)) ∨
      (validateWorldIdResult worldId = .ok () ∧
        store.ensureWorldDir io worldId =
          (.ok (), store.setNames worldId (store.names worldId))) := by
  unfold ensureWorldDir
  cases hdir : store.worldDir worldId with
  | error e => exact Or.inl ⟨e, rfl⟩
  | ok dir =>
      cases io.createDir with
      | some e => exact Or.inl ⟨_, rfl⟩
      | none => exact Or.inr ⟨worldDir_eq_ok hdir, rfl⟩

theorem saveSnapshot_saved (store : FilesystemStore) (worldId : String) (snapshot : Bytes) :
    Saved store worldId "snapshot.json" (.ok snapshot) store.nextSave.1
      (store.saveSnapshot worldId snapshot).1 (store.saveSnapshot worldId snapshot).2 := by
  have hname : "snapshot.json" ≠ tempName "snapshot.json" := by decide
  unfold saveSnapshot
  simp only
  rcases store.nextSave.2.ensureWorldDir_cases store.nextSave.1 worldId with
    ⟨e, hfailed⟩ | ⟨hvalid, hmade⟩
  · rw [hfailed]
    exact Saved.refused rfl
  · rw [hmade]
    simp only
    rw [worldDir_of_valid hvalid]
    exact (replaceFile_saved hname hvalid _ _ _).after_dir rfl hvalid

theorem saveMeta_saved [MetaJson] (store : FilesystemStore) (worldMeta : WorldMeta) :
    Saved store worldMeta.worldId "meta.json"
      ((MetaJson.toStringPretty worldMeta).map textBytes) store.nextSave.1
      (store.saveMeta worldMeta).1 (store.saveMeta worldMeta).2 := by
  have hname : "meta.json" ≠ tempName "meta.json" := by decide
  unfold saveMeta
  simp only
  rcases store.nextSave.2.ensureWorldDir_cases store.nextSave.1 worldMeta.worldId with
    ⟨e, hfailed⟩ | ⟨hvalid, hmade⟩
  · rw [hfailed]
    exact Saved.refused rfl
  · rw [hmade]
    simp only
    rw [worldDir_of_valid hvalid]
    cases MetaJson.toStringPretty worldMeta with
    | error e => exact Saved.made hvalid rfl
    | ok text =>
        exact (replaceFile_saved hname hvalid _ _ _).after_dir rfl hvalid

namespace Saved

variable {store next : FilesystemStore} {worldId name : String} {content : Except String Bytes}
  {io : SaveIo} {result : SimResult Unit}

theorem worlds_other (h : Saved store worldId name content io result next) {other : String}
    (hother : other ≠ worldId) : next.worlds[other]? = store.worlds[other]? := by
  cases h with
  | refused hworlds => rw [hworlds]
  | made _ hworlds => rw [hworlds, BTreeMap.getElem?_insert, if_neg hother.symm]
  | replaced _ _ _ _ hworlds => rw [hworlds, BTreeMap.getElem?_insert, if_neg hother.symm]

theorem names_other (h : Saved store worldId name content io result next) {other : String}
    (hother : other ≠ worldId) : next.names other = store.names other := by
  unfold names
  rw [h.worlds_other hother]

theorem names_self (h : Saved store worldId name content io result next) :
    (next.names worldId = store.names worldId ∧ exists e : SimError, result = .error e) ∨
      exists (bytes : Bytes) (answer : Except (ReplaceStep × String) Unit),
        content = .ok bytes ∧ validateWorldIdResult worldId = .ok () ∧
        Directory.Replaced (store.names worldId) (tempName name) name bytes
          io.replace.namesSynced answer (next.names worldId) ∧
        (result = .ok () <-> answer = .ok ()) := by
  cases h with
  | @refused e _ hworlds => exact Or.inl ⟨names_of_same hworlds worldId, e, rfl⟩
  | @made e _ _ hworlds =>
      refine Or.inl ⟨?_, e, rfl⟩
      rw [names_of_worlds hworlds, if_pos rfl]
  | @replaced answer d _ bytes _ hvalid hcontent hreplaced hresult hworlds =>
      refine Or.inr ⟨bytes, answer, hcontent, hvalid, ?_, hresult⟩
      rw [names_of_worlds hworlds, if_pos rfl]
      exact hreplaced

/-- A document that is neither the one that is saved nor its temporary file reads as
before. -/
theorem read_other (h : Saved store worldId name content io result next) (other : String)
    {document : String} (hname : document ≠ name) (htemp : document ≠ tempName name) :
    (next.names other).read document = (store.names other).read document := by
  by_cases hother : other = worldId
  · subst hother
    rcases h.names_self with ⟨hsame, _⟩ | ⟨_, _, _, _, hreplaced, _⟩
    · rw [hsame]
    · exact hreplaced.read_other htemp hname
  · rw [h.names_other hother]

/-- The document reads as the new bytes or as before. -/
theorem read_self (h : Saved store worldId name content io result next)
    (hname : name ≠ tempName name) :
    (exists bytes : Bytes, content = .ok bytes ∧ validateWorldIdResult worldId = .ok () ∧
        (next.names worldId).read name = some bytes) ∨
      (next.names worldId).read name = (store.names worldId).read name := by
  rcases h.names_self with ⟨hsame, _⟩ | ⟨bytes, _, hcontent, hvalid, hreplaced, _⟩
  · right
    rw [hsame]
  · rcases hreplaced.read_target hname with hnew | hold
    · exact Or.inl ⟨bytes, hcontent, hvalid, hnew⟩
    · exact Or.inr hold

theorem read_of_ok (h : Saved store worldId name content io (.ok ()) next) :
    exists bytes : Bytes, content = .ok bytes ∧ validateWorldIdResult worldId = .ok () ∧
      (next.names worldId).read name = some bytes := by
  rcases h.names_self with ⟨_, _, herror⟩ | ⟨bytes, answer, hcontent, hvalid, hreplaced, hresult⟩
  · cases herror
  · rw [hresult.mp rfl] at hreplaced
    exact ⟨bytes, hcontent, hvalid, hreplaced.read_of_ok⟩

end Saved

/-!
## Loading
-/

theorem loadSnapshot_eq (store : FilesystemStore) (worldId : String) :
    store.loadSnapshot worldId =
      match validateWorldIdResult worldId, (store.names worldId).read "snapshot.json" with
      | .error e, _ => .error e
      | .ok _, none => .error (.notFound worldId)
      | .ok _, some content => .ok content := by
  unfold loadSnapshot loadSnapshotWith snapshotPath worldDir
  cases validateWorldIdResult worldId with
  | error e => rfl
  | ok _ => cases (store.names worldId).read "snapshot.json" <;> rfl

theorem loadSnapshot_eq_ok {store : FilesystemStore} {worldId : String} {bytes : Bytes} :
    store.loadSnapshot worldId = .ok bytes <->
      validateWorldIdResult worldId = .ok () ∧
        (store.names worldId).read "snapshot.json" = some bytes := by
  rw [loadSnapshot_eq]
  cases validateWorldIdResult worldId with
  | error e => simp
  | ok _ => cases (store.names worldId).read "snapshot.json" <;> simp

theorem loadSnapshot_congr {store next : FilesystemStore} {worldId : String}
    (h : (next.names worldId).read "snapshot.json" =
      (store.names worldId).read "snapshot.json") :
    next.loadSnapshot worldId = store.loadSnapshot worldId := by
  rw [loadSnapshot_eq, loadSnapshot_eq, h]

def decodeMeta [MetaJson] (content : Bytes) : SimResult WorldMeta :=
  match bytesText content with
  | none =>
      .error (.persistenceError "Failed to read meta: stream did not contain valid UTF-8")
  | some text =>
      match MetaJson.fromStr text with
      | .error e => .error (.persistenceError s!"Failed to parse meta: {e}")
      | .ok worldMeta => .ok worldMeta

theorem decodeMeta_encoded [MetaJson] [MetaJson.Lossless] {worldMeta : WorldMeta} {text : String}
    (h : MetaJson.toStringPretty worldMeta = .ok text) :
    decodeMeta (textBytes text) = .ok worldMeta := by
  unfold decodeMeta
  rw [bytesText_textBytes]
  simp only
  rw [MetaJson.Lossless.fromStr_toStringPretty worldMeta text h]

theorem loadMeta_eq [MetaJson] (store : FilesystemStore) (worldId : String) :
    store.loadMeta worldId =
      match validateWorldIdResult worldId, (store.names worldId).read "meta.json" with
      | .error e, _ => .error e
      | .ok _, none => .error (.notFound worldId)
      | .ok _, some content => decodeMeta content := by
  unfold loadMeta loadMetaWith metaPath worldDir
  cases validateWorldIdResult worldId with
  | error e => rfl
  | ok _ => cases (store.names worldId).read "meta.json" <;> rfl

theorem loadMeta_congr [MetaJson] {store next : FilesystemStore} {worldId : String}
    (h : (next.names worldId).read "meta.json" = (store.names worldId).read "meta.json") :
    next.loadMeta worldId = store.loadMeta worldId := by
  rw [loadMeta_eq, loadMeta_eq, h]

/-!
## Deleting
-/

theorem names_of_erased {store next : FilesystemStore} {worldId : String}
    (h : next.worlds = store.worlds.erase worldId) (other : String) :
    next.names other = if worldId = other then Directory.empty else store.names other := by
  unfold names
  rw [h, BTreeMap.getElem?_erase]
  split
  · rfl
  · rfl

theorem deleteWorld_cases (store : FilesystemStore) (fault : Option DeleteFault)
    (worldId : String) :
    (store.deleteWorld fault worldId).2 = store ∨
      (exists removed : List String, (store.deleteWorld fault worldId).2.worlds =
        store.worlds.insert worldId fun name =>
          if name ∈ removed then (store.names worldId name).assign none
          else store.names worldId name) ∨
      (store.deleteWorld fault worldId).2.worlds = store.worlds.erase worldId := by
  unfold deleteWorld
  cases store.worldDir worldId with
  | error e => exact Or.inl rfl
  | ok dir =>
      simp only
      split
      · cases fault with
        | some fault => exact Or.inr (Or.inl ⟨fault.removed, rfl⟩)
        | none => exact Or.inr (Or.inr rfl)
      · exact Or.inl rfl

end FilesystemStore

/-!
## The contract of a store
-/

instance [MetaJson] [MetaJson.Lossless] : AtomicWorldStore FilesystemStore where
  saveSnapshot_ok := by
    intro store next worldId snapshot h
    have hsaved := store.saveSnapshot_saved worldId snapshot
    rw [show store.saveSnapshot worldId snapshot = (.ok (), next) from h] at hsaved
    rcases hsaved.read_of_ok with ⟨bytes, hcontent, hvalid, hread⟩
    cases hcontent
    exact FilesystemStore.loadSnapshot_eq_ok.mpr ⟨hvalid, hread⟩
  saveSnapshot_atomic := by
    intro store next worldId snapshot result h
    have hsaved := store.saveSnapshot_saved worldId snapshot
    rw [show store.saveSnapshot worldId snapshot = (result, next) from h] at hsaved
    rcases hsaved.read_self (by decide) with ⟨bytes, hcontent, hvalid, hread⟩ | hsame
    · cases hcontent
      exact Or.inl (FilesystemStore.loadSnapshot_eq_ok.mpr ⟨hvalid, hread⟩)
    · exact Or.inr (FilesystemStore.loadSnapshot_congr hsame)
  saveSnapshot_other := by
    intro store next worldId snapshot result h
    have hsaved := store.saveSnapshot_saved worldId snapshot
    rw [show store.saveSnapshot worldId snapshot = (result, next) from h] at hsaved
    constructor
    · intro other hother
      apply FilesystemStore.loadSnapshot_congr
      rw [hsaved.names_other hother]
    · intro other
      exact FilesystemStore.loadMeta_congr (hsaved.read_other other (by decide) (by decide))
  saveMeta_atomic := by
    intro store next worldMeta result h
    have hsaved := store.saveMeta_saved worldMeta
    rw [show store.saveMeta worldMeta = (result, next) from h] at hsaved
    rcases hsaved.read_self (by decide) with ⟨bytes, hcontent, hvalid, hread⟩ | hsame
    · left
      show next.loadMeta worldMeta.worldId = _
      rw [FilesystemStore.loadMeta_eq, hvalid, hread]
      cases htext : MetaJson.toStringPretty worldMeta with
      | error e =>
          rw [htext] at hcontent
          cases hcontent
      | ok text =>
          rw [htext] at hcontent
          cases hcontent
          exact FilesystemStore.decodeMeta_encoded htext
    · exact Or.inr (FilesystemStore.loadMeta_congr hsame)
  saveMeta_other := by
    intro store next worldMeta result h other
    have hsaved := store.saveMeta_saved worldMeta
    rw [show store.saveMeta worldMeta = (result, next) from h] at hsaved
    exact FilesystemStore.loadSnapshot_congr (hsaved.read_other other (by decide) (by decide))

def metaText (worldMeta : WorldMeta) : String :=
  String.ofList ((Json.layOut 0 false (Json.worldMeta worldMeta)).map fun b => Char.ofNat b.toNat)

/-- `serde_json` on the metadata given, which are written as JSON text and read back
from it. -/
@[reducible] def knownMetas (known : List WorldMeta) : MetaJson where
  toStringPretty worldMeta :=
    if worldMeta ∈ known then .ok (metaText worldMeta) else .error "not among the documents"
  fromStr text :=
    match known.find? (fun worldMeta => metaText worldMeta = text) with
    | some worldMeta => .ok worldMeta
    | none => .error "not among the documents"

theorem knownMetas_lossless {known : List WorldMeta}
    (h : forall a, a ∈ known -> forall b, b ∈ known -> metaText a = metaText b -> a = b) :
    @MetaJson.Lossless (knownMetas known) := by
  refine @MetaJson.Lossless.mk (knownMetas known) ?_
  intro worldMeta text hwrite
  have hwritten : worldMeta ∈ known ∧ metaText worldMeta = text := mem_of_written hwrite
  have hfind : known.find? (fun other => metaText other = text) = some worldMeta := by
    apply find_of_unique hwritten.left
    · rw [decide_eq_true_eq]
      exact hwritten.right
    · intro other hother hsame
      rw [decide_eq_true_eq] at hsame
      exact h other hother worldMeta hwritten.left (hsame.trans hwritten.right.symm)
  show (match known.find? (fun other => metaText other = text) with
    | some other => Except.ok other
    | none => .error _) = Except.ok worldMeta
  rw [hfind]

theorem FilesystemStore.empty_of_no_worlds [MetaJson] {store : FilesystemStore}
    (h : store.worlds = ∅) : EmptyStore store := by
  have hnames : forall worldId : String, store.names worldId = Directory.empty := by
    intro worldId
    unfold FilesystemStore.names
    rw [h]
    rfl
  constructor
  · intro worldId snapshot hload
    have hread := (FilesystemStore.loadSnapshot_eq_ok.mp hload).right
    rw [hnames] at hread
    cases hread
  · intro worldId hvalid
    refine ⟨worldId, ?_⟩
    show store.loadMeta worldId = _
    rw [FilesystemStore.loadMeta_eq, hvalid, hnames]
    rfl

end Seej
