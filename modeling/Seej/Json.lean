import Seej.Snapshot

/-!
# JSON documents

The compact text that `serde_json` writes for snapshots and for batches of
events.  The proofs take `serde_json` as a parameter; this printer makes it
concrete on given documents.  The shortest decimal of a float is not modelled, so
a batch that holds one has no text here.
-/

namespace Seej

open Foundation

namespace Json

/-!
## Text
-/

def text (s : String) : Bytes :=
  s.toByteArray.data.toList

def quoted (s : String) : Bytes :=
  [34] ++ text s ++ [34]

/-- `serde_json` escapes the quote, the backslash and the control characters. -/
def escape (c : Char) : Bytes :=
  if c = '"' then text "\\\""
  else if c = '\\' then text "\\\\"
  else if c = '\n' then text "\\n"
  else if c = '\r' then text "\\r"
  else if c = '\t' then text "\\t"
  else if c.toNat = 8 then text "\\b"
  else if c.toNat = 12 then text "\\f"
  else if c.toNat < 32 then
    text "\\u00" ++ [c.toNat / 16, c.toNat % 16].flatMap
      (fun digit => text (String.singleton (Nat.digitChar digit)))
  else String.utf8EncodeChar c

def string (s : String) : Bytes :=
  [34] ++ s.toList.flatMap escape ++ [34]

def number (n : Nat) : Bytes :=
  text (toString n)

def integer (n : Int) : Bytes :=
  text (toString n)

def boolean (b : Bool) : Bytes :=
  text (toString b)

def nullable {α : Type} (print : α -> Bytes) : Option α -> Bytes
  | some a => print a
  | none => text "null"

def commaSeparated : List Bytes -> Bytes
  | [] => []
  | [item] => item
  | item :: rest => item ++ [44] ++ commaSeparated rest

def array (items : List Bytes) : Bytes :=
  [91] ++ commaSeparated items ++ [93]

def object (fields : List (String × Bytes)) : Bytes :=
  [123] ++ commaSeparated (fields.map (fun field => quoted field.1 ++ [58] ++ field.2)) ++ [125]

def variant (tag : String) (fields : List (String × Bytes)) : Bytes :=
  object [(tag, object fields)]

/-!
## Primitive types
-/

def tick (t : Tick) : Bytes := number t.val.toNat

def simTime (t : SimTime) : Bytes := object [("units", number t.units.toNat)]

def entityId (id : EntityId) : Bytes := number id.val.toNat

def zoneId (id : ZoneId) : Bytes := number id.val.toNat

def eventId (id : EventId) : Bytes := number id.val.toNat

def position (p : WorldPos) : Bytes :=
  object
    [("zone", zoneId p.zone),
      ("pos", object [("x", integer p.pos.x.toInt), ("y", integer p.pos.y.toInt),
        ("z", integer p.pos.z.toInt)])]

def entityKind : EntityKind -> Bytes
  | .resource => quoted "Resource"
  | .creature => quoted "Creature"
  | .item => quoted "Item"
  | .structure => quoted "Structure"

def entityState (state : EntityState) : Bytes :=
  string state.debug

def properties (p : EntityProperties) : Bytes :=
  object
    [("name", nullable string p.name), ("amount", nullable (fun n => number n.toNat) p.amount),
      ("health", nullable (fun n => number n.toNat) p.health)]

/-!
## Snapshots
-/

def worldMeta (m : WorldMeta) : Bytes :=
  object
    [("world_id", string m.worldId), ("name", string m.name),
      ("seed", number m.seed.val.toNat), ("current_tick", tick m.currentTick),
      ("sim_time", simTime m.simTime), ("created_tick", tick m.createdTick),
      ("snapshot_tick", tick m.snapshotTick), ("last_event_id", eventId m.lastEventId),
      ("format_version", number m.formatVersion.toNat)]

def entity (e : EntityDto) : Bytes :=
  object
    [("id", entityId e.id), ("kind", entityKind e.kind), ("state", entityState e.state),
      ("position", position e.position), ("created_at", tick e.createdAt),
      ("properties", properties e.properties)]

def zone (z : ZoneDto) : Bytes :=
  object
    [("id", zoneId z.id), ("name", nullable string z.name), ("loaded", boolean z.loaded),
      ("entities", array (z.entities.map entityId))]

def snapshot (s : WorldSnapshotDto) : Bytes :=
  object
    [("meta", worldMeta s.worldMeta), ("current_tick", tick s.currentTick),
      ("sim_time", simTime s.simTime), ("rng_state", number s.rngState.toNat),
      ("next_entity_id", number s.nextEntityId.toNat),
      ("entities", object (s.entities.toList.map fun entry =>
        (toString entry.1.val.toNat, entity entry.2))),
      ("zones", object (s.zones.toList.map fun entry =>
        (toString entry.1.val.toNat, zone entry.2)))]

/-!
## Documents without a type

`serde_json::Value` keeps the fields of an object in the order of their keys, and can be
printed over several lines.
-/

def sortedObject (fields : List (String × Bytes)) : Bytes :=
  object (fields.foldl (fun map field => map.insert field.1 field.2)
    (∅ : BTreeMap String Bytes)).toList

def sortedPosition (p : WorldPos) : Bytes :=
  sortedObject
    [("zone", zoneId p.zone),
      ("pos", sortedObject [("x", integer p.pos.x.toInt), ("y", integer p.pos.y.toInt),
        ("z", integer p.pos.z.toInt)])]

def sortedProperties (p : EntityProperties) : Bytes :=
  sortedObject
    [("name", nullable string p.name), ("amount", nullable (fun n => number n.toNat) p.amount),
      ("health", nullable (fun n => number n.toNat) p.health)]

def sortedMeta (m : WorldMeta) : Bytes :=
  sortedObject
    [("world_id", string m.worldId), ("name", string m.name),
      ("seed", number m.seed.val.toNat), ("current_tick", tick m.currentTick),
      ("sim_time", simTime m.simTime), ("created_tick", tick m.createdTick),
      ("snapshot_tick", tick m.snapshotTick), ("last_event_id", eventId m.lastEventId),
      ("format_version", number m.formatVersion.toNat)]

def sortedEntity (e : EntityDto) : Bytes :=
  sortedObject
    [("id", entityId e.id), ("kind", entityKind e.kind), ("state", entityState e.state),
      ("position", sortedPosition e.position), ("created_at", tick e.createdAt),
      ("properties", sortedProperties e.properties)]

def sortedZone (z : ZoneDto) : Bytes :=
  sortedObject
    [("id", zoneId z.id), ("name", nullable string z.name), ("loaded", boolean z.loaded),
      ("entities", array (z.entities.map entityId))]

def sortedSnapshot (s : WorldSnapshotDto) : Bytes :=
  sortedObject
    [("meta", sortedMeta s.worldMeta), ("current_tick", tick s.currentTick),
      ("sim_time", simTime s.simTime), ("rng_state", number s.rngState.toNat),
      ("next_entity_id", number s.nextEntityId.toNat),
      ("entities", sortedObject (s.entities.toList.map fun entry =>
        (toString entry.1.val.toNat, sortedEntity entry.2))),
      ("zones", sortedObject (s.zones.toList.map fun entry =>
        (toString entry.1.val.toNat, sortedZone entry.2)))]

def newLine (level : Nat) : Bytes :=
  10 :: List.replicate (2 * level) 32

def isOpening (c : UInt8) : Bool := c = 123 ∨ c = 91

def isClosing (c : UInt8) : Bool := c = 125 ∨ c = 93

/-- The layout of `to_string_pretty`, made from the compact text.  Nothing inside a string
is touched, and an empty container stays on its line. -/
def layOut (level : Nat) (inString : Bool) : Bytes -> Bytes
  | [] => []
  | [c] => if !inString && isClosing c then newLine (level - 1) ++ [c] else [c]
  | c :: next :: rest =>
      if inString then
        if c = 92 then c :: next :: layOut level true rest
        else c :: layOut level (c != 34) (next :: rest)
      else if isOpening c then
        if next = c + 2 then c :: next :: layOut level false rest
        else c :: newLine (level + 1) ++ layOut (level + 1) false (next :: rest)
      else if isClosing c then
        newLine (level - 1) ++ c :: layOut (level - 1) false (next :: rest)
      else if c = 44 then c :: newLine level ++ layOut level false (next :: rest)
      else if c = 58 then c :: 32 :: layOut level false (next :: rest)
      else c :: layOut level (c == 34) (next :: rest)

/-- The texts from which a snapshot is read: as it was written, and as the document was
printed again, with or without a line end. -/
def printings (s : WorldSnapshotDto) : List Bytes :=
  let compact := sortedSnapshot s
  let pretty := layOut 0 false compact
  [snapshot s, compact, compact ++ [10], pretty, pretty ++ [10]]

/-!
## Events
-/

def despawnReason : DespawnReason -> Bytes
  | .command => quoted "Command"
  | .death => quoted "Death"
  | .depleted => quoted "Depleted"
  | .expired => quoted "Expired"

/-- A non-finite float is written as `null`. -/
def propertyValue : PropertyValue -> Option Bytes
  | .none => some (quoted "None")
  | .int value => some (object [("Int", integer value.toInt)])
  | .uint value => some (object [("UInt", number value.toNat)])
  | .float value =>
      if value.isFinite then none else some (object [("Float", text "null")])
  | .bool value => some (object [("Bool", boolean value)])
  | .string value => some (object [("String", string value)])

def eventData : EventData -> Option Bytes
  | .worldCreated worldId name seed =>
      some (variant "WorldCreated"
        [("world_id", string worldId), ("name", string name),
          ("seed", number seed.val.toNat)])
  | .worldLoaded worldId t =>
      some (variant "WorldLoaded" [("world_id", string worldId), ("tick", tick t)])
  | .worldSaved t =>
      some (variant "WorldSaved" [("tick", tick t)])
  | .tickProcessed t time processed rngStateAfter =>
      some (variant "TickProcessed"
        [("tick", tick t), ("sim_time", simTime time),
          ("entities_processed", number processed.toNat),
          ("rng_state_after", nullable (fun n => number n.toNat) rngStateAfter)])
  | .zoneCreated id name =>
      some (variant "ZoneCreated" [("zone_id", zoneId id), ("name", nullable string name)])
  | .zoneLoaded id =>
      some (variant "ZoneLoaded" [("zone_id", zoneId id)])
  | .zoneUnloaded id =>
      some (variant "ZoneUnloaded" [("zone_id", zoneId id)])
  | .entitySpawned id kind p props =>
      some (variant "EntitySpawned"
        [("entity_id", entityId id), ("kind", entityKind kind), ("position", position p),
          ("properties", properties props)])
  | .entityDespawned id reason =>
      some (variant "EntityDespawned"
        [("entity_id", entityId id), ("reason", despawnReason reason)])
  | .entityMoved id source target =>
      some (variant "EntityMoved"
        [("entity_id", entityId id), ("from", position source), ("to", position target)])
  | .entityStateChanged id oldState newState =>
      some (variant "EntityStateChanged"
        [("entity_id", entityId id), ("old_state", entityState oldState),
          ("new_state", entityState newState)])
  | .entityPropertyChanged id property oldValue newValue => do
      let oldText <- propertyValue oldValue
      let newText <- propertyValue newValue
      return variant "EntityPropertyChanged"
        [("entity_id", entityId id), ("property", string property), ("old_value", oldText),
          ("new_value", newText)]
  | .resourceDepleted id amount remaining =>
      some (variant "ResourceDepleted"
        [("entity_id", entityId id), ("amount", number amount.toNat),
          ("remaining", number remaining.toNat)])
  | .entityDegraded id oldHealth newHealth =>
      some (variant "EntityDegraded"
        [("entity_id", entityId id), ("old_health", number oldHealth.toNat),
          ("new_health", number newHealth.toNat)])

def event (e : SimEvent) : Option Bytes := do
  let data <- eventData e.data
  return object [("event_id", eventId e.eventId), ("tick", tick e.tick), ("data", data)]

/-- `WalPayload::Batch`, adjacently tagged. -/
def batch (events : List SimEvent) : Option Bytes := do
  let items <- events.mapM event
  return object [("type", quoted "Batch"), ("data", object [("events", array items)])]

end Json

theorem find_of_unique {α : Type} {known : List α} {p : α -> Bool} {a : α} (hmem : a ∈ known)
    (ha : p a = true) (hunique : forall b : α, b ∈ known -> p b = true -> b = a) :
    known.find? p = some a := by
  cases hfind : known.find? p with
  | none => exact absurd ha (List.find?_eq_none.mp hfind a hmem)
  | some found =>
      rw [hunique found (List.mem_of_find?_eq_some hfind) (List.find?_some hfind)]

theorem mem_of_written {α β ε : Type} [DecidableEq α] {known : List α} {a : α}
    {text bytes : β} {e : ε}
    (h : (if a ∈ known then Except.ok text else .error e) = Except.ok bytes) :
    a ∈ known ∧ text = bytes := by
  by_cases hmem : a ∈ known
  · rw [if_pos hmem, Except.ok.injEq] at h
    exact ⟨hmem, h⟩
  · rw [if_neg hmem] at h
    cases h

/-- `serde_json` on the snapshots given, which are written as JSON text and read
back from it. -/
@[reducible] def knownSnapshots (known : List WorldSnapshotDto) : SnapshotJson where
  toVec snapshot :=
    if snapshot ∈ known then .ok (Json.snapshot snapshot) else .error "not among the documents"
  fromSlice bytes :=
    match known.find? (fun snapshot => Json.snapshot snapshot = bytes) with
    | some snapshot => .ok snapshot
    | none => .error "not among the documents"

theorem knownSnapshots_lossless {known : List WorldSnapshotDto}
    (h : forall a, a ∈ known -> forall b, b ∈ known ->
      Json.snapshot a = Json.snapshot b -> a = b) :
    @SnapshotJson.Lossless (knownSnapshots known) := by
  refine @SnapshotJson.Lossless.mk (knownSnapshots known) ?_
  intro snapshot bytes hwrite
  rcases mem_of_written hwrite with ⟨hmem, htext⟩
  have hfind : known.find? (fun other => Json.snapshot other = bytes) = some snapshot := by
    apply find_of_unique hmem (decide_eq_true htext)
    intro other hother hsame
    exact h other hother snapshot hmem ((of_decide_eq_true hsame).trans htext.symm)
  change (match known.find? (fun other => Json.snapshot other = bytes) with
    | some other => Except.ok other
    | none => .error _) = Except.ok snapshot
  rw [hfind]

/-- `serde_json` on the snapshots given, which are read from all their printings. -/
@[reducible] def knownDocuments (known : List WorldSnapshotDto) : SnapshotJson where
  toVec snapshot :=
    if snapshot ∈ known then .ok (Json.snapshot snapshot) else .error "not among the documents"
  fromSlice bytes :=
    match known.find? (fun snapshot => bytes ∈ Json.printings snapshot) with
    | some snapshot => .ok snapshot
    | none => .error "not among the documents"

section Documents

variable {known : List WorldSnapshotDto}
  (h : forall a, a ∈ known -> forall b, b ∈ known -> forall bytes, bytes ∈ Json.printings a ->
    bytes ∈ Json.printings b -> a = b)

include h

theorem knownDocuments_fromSlice {snapshot : WorldSnapshotDto} (hmem : snapshot ∈ known)
    {bytes : Bytes} (hbytes : bytes ∈ Json.printings snapshot) :
    (knownDocuments known).fromSlice bytes = .ok snapshot := by
  have hfind : known.find? (fun other => bytes ∈ Json.printings other) = some snapshot := by
    apply find_of_unique hmem (decide_eq_true hbytes)
    intro other hother htext
    exact h other hother snapshot hmem bytes (of_decide_eq_true htext) hbytes
  change (match known.find? (fun other => bytes ∈ Json.printings other) with
    | some other => Except.ok other
    | none => .error _) = Except.ok snapshot
  rw [hfind]

theorem knownDocuments_lossless : @SnapshotJson.Lossless (knownDocuments known) := by
  refine @SnapshotJson.Lossless.mk (knownDocuments known) ?_
  intro snapshot bytes hwrite
  rcases mem_of_written hwrite with ⟨hmem, htext⟩
  apply knownDocuments_fromSlice h hmem
  rw [← htext]
  exact List.mem_cons_self

end Documents

end Seej
