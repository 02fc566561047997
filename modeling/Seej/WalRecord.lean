import Seej.Foundation.Framing
import Seej.Persistence

/-!
# Log records

The binary format of the log.  A record is a header (magic, version, length, last
event identifier and tick), the JSON of a batch of events, and a checksum over
both.  Every integer is little-endian.  The reader stops at the first field that
cannot be read or is not what the writer puts there.
-/

namespace Seej

open Foundation

/-- `serde_json` on the payload of a record. -/
class BatchJson where
  toVec : List SimEvent -> Except String Bytes
  fromSlice : Bytes -> Except String (List SimEvent)

/-- The hasher of `crc32fast`. -/
class Crc32 where
  hash : Bytes -> UInt32

/-- `"WAL1"` in ASCII. -/
def walMagic : Nat := 0x57414C31

def walVersion : Nat := 1

def recordHeaderSize : Nat := 4 + 2 + 4 + 8 + 8

def crcSize : Nat := 4

def maxWalPayloadLen : Nat := 16 * 1024 * 1024

/-- `{:08x}`. -/
def hex08 (n : Nat) : String :=
  String.ofList (List.leftpad 8 '0' (Nat.toDigits 16 n))

section Crc

variable [Crc32]

def headerBytes (version payloadLen eventId tick : Nat) : Bytes :=
  leBytes 4 walMagic ++ (leBytes 2 version ++ (leBytes 4 payloadLen ++
    (leBytes 8 eventId ++ leBytes 8 tick)))

def computeCrc (version payloadLen eventId tick : Nat) (payload : Bytes) : Nat :=
  (Crc32.hash (headerBytes version payloadLen eventId tick ++ payload)).toNat

/-!
## Writing
-/

def recordBytes (eventId tick : Nat) (payload : Bytes) : Bytes :=
  leBytes 4 walMagic ++ (leBytes 2 walVersion ++ (leBytes 4 payload.length ++
    (leBytes 8 eventId ++ (leBytes 8 tick ++ (payload ++
      leBytes 4 (computeCrc walVersion payload.length eventId tick payload))))))

variable [BatchJson]

def encodeEventRecord (events : List SimEvent) : SimResult Bytes :=
  match events.getLast? with
  | none => .error (.persistenceError "Cannot encode empty WAL batch")
  | some last =>
      match BatchJson.toVec events with
      | .error e => .error (.persistenceError s!"Serialize WAL batch failed: {e}")
      | .ok payload =>
          if payload.length > maxWalPayloadLen then
            .error (.persistenceError
              s!"WAL payload length {payload.length} exceeds max record payload {maxWalPayloadLen}")
          else .ok (recordBytes last.eventId.val.toNat last.tick.val.toNat payload)

end Crc

/-!
## Reading

Each call of the file system that the reader makes may fail on its own.
-/

/-- The calls made while one record is read. -/
inductive ReadStep where
  | seek
  | magic
  | version
  | length
  | eventId
  | tick
  | position
  | metadata
  | payload
  | crc
  | recordEnd
deriving DecidableEq

abbrev ReadFaults : Type :=
  ReadStep -> Option String

def ReadFaults.none : ReadFaults :=
  fun _ => Option.none

def failIf (fault : Option String) (what : String) : SimResult Unit :=
  match fault with
  | some e => .error (.persistenceError s!"{what}: {e}")
  | none => .ok ()

/-- `read_exact`, from a position of the file to the next one. -/
def readExact (fault : Option String) (what : String) (file : Bytes) (position width : Nat) :
    SimResult (Bytes × Nat) := do
  failIf fault what
  ensure (width ≤ file.length - position)
    (.persistenceError s!"{what}: failed to fill whole buffer")
  return ((file.drop position).take width, position + width)

def readInt (fault : Option String) (what : String) (file : Bytes) (position width : Nat) :
    SimResult (Nat × Nat) := do
  let (bytes, position) <- readExact fault what file position width
  return (leNat bytes, position)

section Read

variable [Crc32] [BatchJson]

def decodeBatch (payload : Bytes) (eventId tick : Nat) : SimResult (List SimEvent) :=
  match BatchJson.fromSlice payload with
  | .error e => .error (.corruptedState s!"Invalid WAL batch payload: {e}")
  | .ok events =>
      match events.getLast? with
      | none => .error (.corruptedState "WAL batch record contains no events")
      | some last => do
          ensure (last.eventId.val.toNat = eventId ∧ last.tick.val.toNat = tick)
            (.corruptedState
              s!"WAL batch header mismatch: header=({eventId}, {tick}), last=({last.eventId.val}, {last.tick.val})")
          return events

def readRecordAt (faults : ReadFaults) (file : Bytes) (offset : Nat) :
    SimResult (List SimEvent × Nat) := do
  failIf (faults .seek) "Seek failed"
  let (magic, position) <- readInt (faults .magic) "Read magic failed" file offset 4
  ensure (magic = walMagic)
    (.corruptedState s!"Invalid magic: expected {hex08 walMagic}, got {hex08 magic}")
  let (version, position) <- readInt (faults .version) "Read version failed" file position 2
  ensure (version = walVersion) (.corruptedState s!"Unsupported WAL version: {version}")
  let (payloadLen, position) <- readInt (faults .length) "Read length failed" file position 4
  let (eventId, position) <- readInt (faults .eventId) "Read event_id failed" file position 8
  let (tick, position) <- readInt (faults .tick) "Read tick failed" file position 8
  ensure (payloadLen ≤ maxWalPayloadLen)
    (.corruptedState
      s!"WAL payload length {payloadLen} exceeds max record payload {maxWalPayloadLen}")
  failIf (faults .position) "Stream position error"
  failIf (faults .metadata) "Failed to get WAL metadata"
  ensure (payloadLen + crcSize ≤ file.length - position)
    (.persistenceError
      s!"WAL record length {payloadLen + crcSize} exceeds remaining file bytes {file.length - position}")
  let (payload, position) <-
    readExact (faults .payload) "Read payload failed" file position payloadLen
  let (storedCrc, position) <- readInt (faults .crc) "Read CRC failed" file position 4
  let computedCrc := computeCrc version payloadLen eventId tick payload
  ensure (storedCrc = computedCrc)
    (.corruptedState
      s!"CRC mismatch: stored={hex08 storedCrc}, computed={hex08 computedCrc}")
  let events <- decodeBatch payload eventId tick
  return (events, position)

end Read

end Seej
