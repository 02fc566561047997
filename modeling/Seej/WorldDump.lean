import Mathlib.Data.List.Infix
import Seej.Json
import Seej.Runtime
import Seej.Wal

/-!
# Dumping a world

The command line opens the log for inspection, recovers the world, gives its metadata
the cursor of the last replayed event and prints it as JSON.
-/

namespace Seej

open Foundation

/-- `serde_json::Value`, a document without a type, and the two ways to print it. -/
class ValueJson where
  Value : Type
  fromSlice : Bytes -> Except String Value
  toString : Value -> Except String Bytes
  toStringPretty : Value -> Except String Bytes

def ValueJson.printJson [ValueJson] (pretty : Bool) (value : ValueJson.Value) :
    Except String Bytes :=
  if pretty then ValueJson.toStringPretty value else ValueJson.toString value

/-- `serde_json` reads a snapshot back that it has read without a type and printed again,
also if a line ends behind it. -/
class ValueJson.Keeps [SnapshotJson] [ValueJson] : Prop where
  reprints : forall (snapshot : WorldSnapshotDto) (bytes : Bytes),
    SnapshotJson.toVec snapshot = .ok bytes ->
      exists value : ValueJson.Value, ValueJson.fromSlice bytes = .ok value ∧
        forall pretty : Bool, exists json : Bytes, ValueJson.printJson pretty value = .ok json ∧
          SnapshotJson.fromSlice json = .ok snapshot ∧
          SnapshotJson.fromSlice (json ++ [10]) = .ok snapshot

/-- Where the document goes.  Writing a file may fail. -/
inductive DumpTarget where
  | stdout
  | file (fault : Option String)
deriving DecidableEq

/-!
## Recovery
-/

def namesMissingWorld (message : String) : Bool :=
  "Snapshot not found".toList <:+: message.toList ∨
    "World not found".toList <:+: message.toList

def recoveryMessage (worldId : String) (e : SimError) : String :=
  match e with
  | .notFound _ => s!"World not found: {worldId}"
  | e =>
      if namesMissingWorld (toString e) then s!"World not found: {worldId}"
      else s!"Failed to recover world: {e}"

section Dump

variable {S : Type} [IWorldStore S] [SnapshotJson] [Crc32] [BatchJson]

/-- The world and the events that were replayed for it, from the store as it was opened
and from the file of the log. -/
def loadWorldWithReplayed (opened : SimResult S) (file : Option Bytes) (worldId : String) :
    Option (Except String (World × List SimEvent)) :=
  match opened with
  | .error e => some (.error s!"Failed to open store: {e}")
  | .ok store =>
      match validateWorldIdResult worldId with
      | .error e => some (.error s!"Invalid world id: {e}")
      | .ok () =>
          match FileEventLog.openReadOnly file with
          | none => none
          | some (.error e) => some (.error s!"Failed to open event log: {e}")
          | some (.ok eventLog) =>
              (loadRecoveredWorld store eventLog worldId).map fun recovered =>
                recovered.mapError (recoveryMessage worldId)

/-!
## The document
-/

/-- The metadata that a dump writes: the cursor moves to the last replayed event, if any
was replayed. -/
def World.stampForDump (world : World) (replayed : List SimEvent) : World :=
  let lastEventId :=
    match replayed.getLast? with
    | some lastEvent => lastEvent.eventId
    | none => world.worldMeta.lastEventId
  { world with
    worldMeta := { world.worldMeta with
      lastEventId := lastEventId
      currentTick := world.currentTick
      simTime := world.simTime
      snapshotTick := world.currentTick } }

variable [ValueJson]

def formatJson (pretty : Bool) (bytes : Bytes) : Except String Bytes :=
  match ValueJson.fromSlice bytes with
  | .error e => .error s!"Failed to format JSON: {e}"
  | .ok value => (ValueJson.printJson pretty value).mapError fun e => s!"Failed to serialize: {e}"

/-- `println!` ends the document with a newline; a file gets it as it is. -/
def DumpTarget.write (json : Bytes) : DumpTarget -> Except String Bytes
  | .stdout => .ok (json ++ [10])
  | .file none => .ok json
  | .file (some fault) => .error s!"Failed to write file: {fault}"

/-- `cmd_dump`, which answers with what arrives at the target. -/
def cmdDump (opened : SimResult S) (file : Option Bytes) (worldId : String)
    (target : DumpTarget) (pretty : Bool) : Option (Except String Bytes) :=
  (loadWorldWithReplayed opened file worldId).map fun loaded => do
    let (world, replayed) <- loaded
    let bytes <- (encodeWorld (world.stampForDump replayed)).mapError
      fun e => s!"Failed to serialize: {e}"
    let json <- formatJson pretty bytes
    target.write json

end Dump

/-- `serde_json::Value` on the snapshots given. -/
@[reducible] def knownValues (known : List WorldSnapshotDto) : ValueJson where
  Value := WorldSnapshotDto
  fromSlice bytes :=
    match known.find? (fun snapshot => Json.snapshot snapshot = bytes) with
    | some snapshot => .ok snapshot
    | none => .error "not among the documents"
  toString snapshot := .ok (Json.sortedSnapshot snapshot)
  toStringPretty snapshot := .ok (Json.layOut 0 false (Json.sortedSnapshot snapshot))

theorem knownValues_keeps {known : List WorldSnapshotDto}
    (h : forall a, a ∈ known -> forall b, b ∈ known -> forall bytes, bytes ∈ Json.printings a ->
      bytes ∈ Json.printings b -> a = b) :
    @ValueJson.Keeps (knownDocuments known) (knownValues known) := by
  refine @ValueJson.Keeps.mk (knownDocuments known) (knownValues known) ?_
  intro snapshot bytes hwrite
  rcases mem_of_written hwrite with ⟨hmem, htext⟩
  subst htext
  have hvalue : (knownValues known).fromSlice (Json.snapshot snapshot) = .ok snapshot := by
    have hfind : known.find? (fun other => Json.snapshot other = Json.snapshot snapshot) =
        some snapshot := by
      apply find_of_unique hmem (decide_eq_true rfl)
      intro other hother htext
      have hprinting : Json.snapshot snapshot ∈ Json.printings other := by
        rw [← of_decide_eq_true htext]
        exact List.mem_cons_self
      exact h other hother snapshot hmem _ hprinting List.mem_cons_self
    change (match known.find? (fun other => Json.snapshot other = Json.snapshot snapshot) with
      | some other => Except.ok other
      | none => .error _) = Except.ok snapshot
    rw [hfind]
  refine ⟨snapshot, hvalue, ?_⟩
  intro pretty
  cases pretty with
  | false =>
      refine ⟨_, rfl, knownDocuments_fromSlice h hmem ?_, knownDocuments_fromSlice h hmem ?_⟩
      · simp [Json.printings]
      · simp [Json.printings]
  | true =>
      refine ⟨_, rfl, knownDocuments_fromSlice h hmem ?_, knownDocuments_fromSlice h hmem ?_⟩
      · simp [Json.printings]
      · simp [Json.printings]

end Seej
