import Seej.Foundation.Directory
import Seej.Checkpoints
import Seej.Validation

/-!
# Filesystem store

One directory for each world, with its metadata and its snapshot as files that are
replaced through a temporary file.  The answers of the file system to the coming
saves are a script in the state; where it ends, they succeed.  Paths are those of a
Unix system.
-/

namespace Seej

open Foundation

/-!
## Paths
-/

abbrev PathBuf : Type :=
  String

/-- An absolute path replaces the base. -/
def PathBuf.join (base path : PathBuf) : PathBuf :=
  if path.toList.head? = some '/' ∨ base.isEmpty then path
  else if base.toList.getLast? = some '/' then base ++ path
  else base ++ "/" ++ path

def PathBuf.components (path : PathBuf) : List (List Char) :=
  (path.toList.splitOn '/').filter (fun part => part ≠ [])

theorem PathBuf.components_name {name : PathBuf} (hne : name ≠ "") (hslash : '/' ∉ name.toList) :
    name.components = [name.toList] := by
  have hchars : name.toList ≠ [] := fun h => hne (String.toList_inj.mp h)
  unfold components
  rw [List.splitOn_eq_singleton hslash, List.filter_cons_of_pos (by simpa using hchars)]
  rfl

theorem PathBuf.components_join (base : PathBuf) {name : PathBuf} (hne : name ≠ "")
    (hslash : '/' ∉ name.toList) :
    (base.join name).components = base.components ++ [name.toList] := by
  have hname := components_name hne hslash
  have hfirst : name.toList.head? ≠ some '/' := fun h => hslash (List.mem_of_head? h)
  unfold join
  by_cases hempty : base.isEmpty
  · have hbase : base = "" := String.isEmpty_iff.mp hempty
    rw [if_pos (Or.inr hempty), hname, hbase]
    rfl
  · rw [if_neg (fun h => h.elim hfirst hempty)]
    unfold components at hname ⊢
    split
    · rename_i hlast
      rcases List.getLast?_eq_some_iff.mp hlast with ⟨front, hfront⟩
      rw [String.toList_append, hfront, List.append_assoc, List.singleton_append,
        List.splitOn_append_cons_self, List.splitOn_append_cons_self, List.filter_append,
        List.filter_append, hname, List.splitOn_nil]
      simp
    · rw [String.toList_append, String.toList_append, List.append_assoc]
      show ((base.toList ++ '/' :: name.toList).splitOn '/').filter _ = _
      rw [List.splitOn_append_cons_self, List.filter_append, hname]

/-- Neither path leads to the other. -/
def PathBuf.Apart (left right : PathBuf) : Prop :=
  ¬ left.components <+: right.components ∧ ¬ right.components <+: left.components

/-- The name up to its last dot, unless that is its first character. -/
def fileStem (name : String) : String :=
  match name.toList.reverse.dropWhile (fun c => c ≠ '.') with
  | _ :: c :: rest => String.ofList (c :: rest).reverse
  | _ => name

/-- `with_extension` on the name of a file. -/
def withExtension (name extension : String) : String :=
  fileStem name ++ "." ++ extension

def tempName (name : String) : String :=
  withExtension name "json.tmp"

@[simp] theorem tempName_meta : tempName "meta.json" = "meta.json.tmp" := by decide

@[simp] theorem tempName_snapshot : tempName "snapshot.json" = "snapshot.json.tmp" := by decide

/-!
## The store
-/

/-- `serde_json` on metadata. -/
class MetaJson where
  toStringPretty : WorldMeta -> Except String String
  fromStr : String -> Except String WorldMeta

/-- `serde_json` loses nothing of metadata, which hold integers and strings. -/
class MetaJson.Lossless [MetaJson] : Prop where
  fromStr_toStringPretty : forall (worldMeta : WorldMeta) (text : String),
    toStringPretty worldMeta = .ok text -> fromStr text = .ok worldMeta

structure SaveIo where
  createDir : Option String := none
  replace : ReplaceFaults := {}

structure ReadIo where
  openFile : Option String := none
  read : Option String := none

inductive ListFault where
  | readDir (message : String)
  | entry (message : String)

/-- `remove_dir_all`, which may fail after it removed some files. -/
structure DeleteFault where
  removed : List String
  message : String

structure SaveTexts where
  create : String
  write : String
  sync : String

structure FilesystemStore where
  basePath : PathBuf
  worlds : BTreeMap String (Directory String UInt8)
  saves : List SaveIo

/-- The bytes of a text, `as_bytes`. -/
def textBytes (text : String) : Bytes :=
  text.toByteArray.data.toList

def bytesText (bytes : Bytes) : Option String :=
  String.fromUTF8? ⟨bytes.toArray⟩

namespace FilesystemStore

/-- `FilesystemStore::new` in a data directory that holds the given worlds. -/
def new (basePath : PathBuf) (worlds : BTreeMap String (Directory String UInt8))
    (createDir : Option String) : SimResult FilesystemStore :=
  match createDir with
  | some e => .error (.persistenceError s!"Failed to create worlds dir: {e}")
  | none => .ok { basePath := basePath, worlds := worlds, saves := [] }

def worldDir (store : FilesystemStore) (worldId : String) : SimResult PathBuf := do
  validateWorldIdResult worldId
  return (PathBuf.join store.basePath "worlds").join worldId

theorem worldDir_components {store : FilesystemStore} {worldId : String} {dir : PathBuf}
    (h : store.worldDir worldId = .ok dir) :
    dir.components = (PathBuf.join store.basePath "worlds").components ++ [worldId.toList] := by
  unfold worldDir at h
  cases hvalid : validateWorldIdResult worldId with
  | error e =>
      rw [hvalid] at h
      cases h
  | ok _ =>
      rw [hvalid] at h
      cases h
      rcases validateWorldIdResult_iff.mp hvalid with ⟨hne, hchars⟩
      apply PathBuf.components_join _ hne
      intro hslash
      exact absurd (hchars _ hslash) (by decide)

def metaPath (store : FilesystemStore) (worldId : String) : SimResult PathBuf := do
  let dir <- store.worldDir worldId
  return dir.join "meta.json"

def snapshotPath (store : FilesystemStore) (worldId : String) : SimResult PathBuf := do
  let dir <- store.worldDir worldId
  return dir.join "snapshot.json"

def eventsDir (store : FilesystemStore) (worldId : String) : SimResult PathBuf := do
  let dir <- store.worldDir worldId
  return dir.join "events"

def names (store : FilesystemStore) (worldId : String) : Directory String UInt8 :=
  (store.worlds[worldId]?).getD Directory.empty

def setNames (store : FilesystemStore) (worldId : String) (d : Directory String UInt8) :
    FilesystemStore :=
  { store with worlds := store.worlds.insert worldId d }

def fileExists (store : FilesystemStore) (worldId name : String) : Bool :=
  ((store.names worldId).read name).isSome

/-- `create_dir_all` on the directory of a world. -/
def ensureWorldDir (store : FilesystemStore) (io : SaveIo) (worldId : String) :
    SimResult Unit × FilesystemStore :=
  match store.worldDir worldId with
  | .error e => (.error e, store)
  | .ok _ =>
      match io.createDir with
      | some e => (.error (.persistenceError s!"Failed to create world dir: {e}"), store)
      | none => (.ok (), store.setNames worldId (store.names worldId))

def nextSave (store : FilesystemStore) : SaveIo × FilesystemStore :=
  (store.saves.headD {}, { store with saves := store.saves.tail })

/-!
## Saving
-/

def replaceError (texts : SaveTexts) (dir : PathBuf) (name : String) :
    ReplaceStep × String -> SimError
  | (.create, e) => .persistenceError s!"{texts.create}: {e}"
  | (.write, e) => .persistenceError s!"{texts.write}: {e}"
  | (.sync, e) => .persistenceError s!"{texts.sync}: {e}"
  | (.rename, e) =>
      .persistenceError
        s!"Failed to rename {dir.join (tempName name)} to {dir.join name}: {e}"

def replaceFile (store : FilesystemStore) (io : SaveIo) (worldId name : String) (dir : PathBuf)
    (texts : SaveTexts) (content : Bytes) : SimResult Unit × FilesystemStore :=
  let (answer, d) := (store.names worldId).replace (tempName name) name content io.replace
  (answer.mapError (replaceError texts dir name), store.setNames worldId d)

def metaTexts : SaveTexts :=
  { create := "Failed to create meta file"
    write := "Failed to write meta"
    sync := "Failed to sync meta" }

def snapshotTexts : SaveTexts :=
  { create := "Failed to create temp file"
    write := "Failed to write snapshot"
    sync := "Failed to sync snapshot" }

def saveMeta [MetaJson] (store : FilesystemStore) (worldMeta : WorldMeta) :
    SimResult Unit × FilesystemStore :=
  let (io, store) := store.nextSave
  match store.ensureWorldDir io worldMeta.worldId with
  | (.error e, store) => (.error e, store)
  | (.ok (), store) =>
      match store.worldDir worldMeta.worldId, MetaJson.toStringPretty worldMeta with
      | .error e, _ => (.error e, store)
      | .ok _, .error e =>
          (.error (.persistenceError s!"Failed to serialize meta: {e}"), store)
      | .ok dir, .ok text =>
          store.replaceFile io worldMeta.worldId "meta.json" dir metaTexts (textBytes text)

def saveSnapshot (store : FilesystemStore) (worldId : String) (snapshot : Bytes) :
    SimResult Unit × FilesystemStore :=
  let (io, store) := store.nextSave
  match store.ensureWorldDir io worldId with
  | (.error e, store) => (.error e, store)
  | (.ok (), store) =>
      match store.worldDir worldId with
      | .error e => (.error e, store)
      | .ok dir => store.replaceFile io worldId "snapshot.json" dir snapshotTexts snapshot

/-!
## Loading
-/

def readFile (io : ReadIo) (content : Bytes) (what : String) : SimResult Bytes :=
  match io.openFile, io.read with
  | some e, _ => .error (.persistenceError s!"Failed to open {what}: {e}")
  | none, some e => .error (.persistenceError s!"Failed to read {what}: {e}")
  | none, none => .ok content

def loadMetaWith [MetaJson] (io : ReadIo) (store : FilesystemStore) (worldId : String) :
    SimResult WorldMeta := do
  let _ <- store.metaPath worldId
  match (store.names worldId).read "meta.json" with
  | none => .error (.notFound worldId)
  | some content => do
      let bytes <- readFile io content "meta"
      match bytesText bytes with
      | none =>
          .error (.persistenceError
            "Failed to read meta: stream did not contain valid UTF-8")
      | some text =>
          match MetaJson.fromStr text with
          | .error e => .error (.persistenceError s!"Failed to parse meta: {e}")
          | .ok worldMeta => .ok worldMeta

def loadMeta [MetaJson] (store : FilesystemStore) (worldId : String) : SimResult WorldMeta :=
  store.loadMetaWith {} worldId

def loadSnapshotWith (io : ReadIo) (store : FilesystemStore) (worldId : String) :
    SimResult Bytes := do
  let _ <- store.snapshotPath worldId
  match (store.names worldId).read "snapshot.json" with
  | none => .error (.notFound worldId)
  | some content => readFile io content "snapshot"

def loadSnapshot (store : FilesystemStore) (worldId : String) : SimResult Bytes :=
  store.loadSnapshotWith {} worldId

/-!
## Inspecting
-/

/-- `exists`, which is false for an identifier that is refused. -/
def exist (store : FilesystemStore) (worldId : String) : Bool :=
  match store.metaPath worldId with
  | .ok _ => store.fileExists worldId "meta.json"
  | .error _ => false

/-- What of a world is present without the rest. -/
def present (hasMeta hasSnapshot : Bool) (walLen : Nat) : List String :=
  let found :=
    (if hasMeta then ["meta.json"] else []) ++
    (if hasSnapshot then ["snapshot.json"] else []) ++
    (if walLen > 0 then ["non-empty WAL"] else [])
  if found.isEmpty then ["world directory"] else found

def storageStatusWith (inspect : Option String) (store : FilesystemStore) (worldId : String) :
    SimResult WorldStorageStatus := do
  let _ <- store.worldDir worldId
  if worldId ∉ store.worlds then return .absent
  let hasMeta := store.fileExists worldId "meta.json"
  let hasSnapshot := store.fileExists worldId "snapshot.json"
  match inspect with
  | some e => .error (.persistenceError s!"Failed to inspect WAL metadata: {e}")
  | none =>
      let walLen := (((store.names worldId).read "events").getD []).length
      if hasMeta ∧ hasSnapshot then return .complete
      let found := ", ".intercalate (present hasMeta hasSnapshot walLen)
      return .incomplete s!"{found} present without coherent meta.json and snapshot.json"

def storageStatus (store : FilesystemStore) (worldId : String) : SimResult WorldStorageStatus :=
  store.storageStatusWith none worldId

/-- `list_worlds` over the entries in the order in which `read_dir` gives them. -/
def listWorlds (fault : Option ListFault) (entries : List String) (store : FilesystemStore) :
    SimResult (List String) :=
  match fault with
  | some (.readDir e) => .error (.persistenceError s!"Failed to read worlds dir: {e}")
  | some (.entry e) => .error (.persistenceError s!"Failed to read dir entry: {e}")
  | none => .ok ((entries.filter store.exist).mergeSort (fun a b => a ≤ b))

def deleteWorld (fault : Option DeleteFault) (store : FilesystemStore) (worldId : String) :
    SimResult Unit × FilesystemStore :=
  match store.worldDir worldId with
  | .error e => (.error e, store)
  | .ok _ =>
      if worldId ∈ store.worlds then
        match fault with
        | some fault =>
            (.error (.persistenceError s!"Failed to delete world: {fault.message}"),
              store.setNames worldId fun name =>
                if name ∈ fault.removed then (store.names worldId name).assign none
                else store.names worldId name)
        | none => (.ok (), { store with worlds := store.worlds.erase worldId })
      else (.ok (), store)

end FilesystemStore

instance [MetaJson] : IWorldStore FilesystemStore where
  storageStatus := FilesystemStore.storageStatus
  loadMeta := FilesystemStore.loadMeta
  saveMeta := FilesystemStore.saveMeta
  loadSnapshot := FilesystemStore.loadSnapshot
  saveSnapshot := FilesystemStore.saveSnapshot

end Seej
