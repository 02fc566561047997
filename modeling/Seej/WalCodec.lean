import Seej.Json
import Seej.WalJournal

/-!
# Codecs of the log

`crc32fast` and `serde_json` are parameters of the log.  The checksum here is the
published one, and the batch codec is `serde_json` on given batches.
-/

namespace Seej

open Foundation

def crcBit (crc : UInt32) : UInt32 :=
  if crc % 2 = 1 then (crc >>> 1) ^^^ 0xEDB88320 else crc >>> 1

def crcByte (crc : UInt32) (byte : UInt8) : UInt32 :=
  crcBit (crcBit (crcBit (crcBit (crcBit (crcBit (crcBit (crcBit
    (crc ^^^ byte.toUInt32))))))))

/-- The register after some bytes.  The match makes the kernel compute the register
before it goes on to the next byte. -/
def crcBytes : Bytes -> UInt32 -> UInt32
  | [], crc => crc
  | byte :: rest, crc =>
      match (crcByte crc byte).toNat with
      | 0 => crcBytes rest 0
      | n + 1 => crcBytes rest (UInt32.ofNat (n + 1))

theorem crcBytes_cons (byte : UInt8) (rest : Bytes) (crc : UInt32) :
    crcBytes (byte :: rest) crc = crcBytes rest (crcByte crc byte) := by
  change (match (crcByte crc byte).toNat with
    | 0 => crcBytes rest 0
    | n + 1 => crcBytes rest (UInt32.ofNat (n + 1))) = _
  generalize crcByte crc byte = next
  have hback : UInt32.ofNat next.toNat = next := UInt32.ofNat_toNat
  revert hback
  cases next.toNat with
  | zero =>
      intro hback
      exact congrArg (crcBytes rest) hback
  | succ n =>
      intro hback
      exact congrArg (crcBytes rest) hback

def crc32 (bytes : Bytes) : UInt32 :=
  crcBytes bytes 0xFFFFFFFF ^^^ 0xFFFFFFFF

example : crc32 (Json.text "123456789") = 0xCBF43926 := by decide +kernel

@[reducible] def ieeeCrc32 : Crc32 where
  hash := crc32

/-- `serde_json` on the batches of a list. -/
@[reducible] def knownBatches (known : List (List SimEvent)) : BatchJson where
  toVec events :=
    match Json.batch events with
    | some bytes => if events ∈ known then .ok bytes else .error "not among the batches"
    | none => .error "not among the batches"
  fromSlice bytes :=
    match known.find? (fun events => Json.batch events = some bytes) with
    | some events => .ok events
    | none => .error "not among the batches"

theorem knownBatches_toVec {known : List (List SimEvent)} {events : List SimEvent}
    {bytes : Bytes} :
    (knownBatches known).toVec events = .ok bytes <->
      events ∈ known ∧ Json.batch events = some bytes := by
  change (match Json.batch events with
    | some text => if events ∈ known then Except.ok text else .error _
    | none => .error _) = Except.ok bytes <-> _
  cases Json.batch events with
  | none => simp
  | some text => by_cases hmem : events ∈ known <;> simp [hmem]

theorem knownBatches_fromSlice {known : List (List SimEvent)} {events : List SimEvent}
    {bytes : Bytes} :
    (knownBatches known).fromSlice bytes = .ok events <->
      known.find? (fun other => Json.batch other = some bytes) = some events := by
  change (match known.find? (fun other => Json.batch other = some bytes) with
    | some other => Except.ok other
    | none => .error _) = Except.ok events <-> _
  cases known.find? (fun other => Json.batch other = some bytes) with
  | none => simp
  | some other => simp

theorem knownBatches_roundTrips {known : List (List SimEvent)}
    (h : forall a, a ∈ known -> forall b, b ∈ known ->
      Json.batch a = Json.batch b -> a = b) (events : List SimEvent) :
    @RoundTrips (knownBatches known) events := by
  intro payload hwrite
  rcases knownBatches_toVec.mp hwrite with ⟨hmem, hbatch⟩
  apply knownBatches_fromSlice.mpr
  apply find_of_unique hmem (decide_eq_true hbatch)
  intro other hother htext
  exact h other hother events hmem ((of_decide_eq_true htext).trans hbatch.symm)

theorem IsRecord.mem_known [Crc32] {known : List (List SimEvent)} {events : List SimEvent}
    {bytes : Bytes} (h : @IsRecord _ (knownBatches known) events bytes) : events ∈ known := by
  cases h with
  | mk _ _ hjson =>
      exact List.mem_of_find?_eq_some (knownBatches_fromSlice.mp hjson)

theorem knownBatches_fits {known : List (List SimEvent)}
    (h : forall a, a ∈ known -> forall b, b ∈ known ->
      Json.batch a = Json.batch b -> a = b)
    (hlength : known.all (fun events =>
      (Json.batch events).any (fun bytes => bytes.length ≤ maxWalPayloadLen)) = true)
    {events : List SimEvent} (hmem : events ∈ known) :
    @Fits (knownBatches known) events := by
  have htext := List.all_eq_true.mp hlength events hmem
  cases hbatch : Json.batch events with
  | none => simp [hbatch] at htext
  | some bytes =>
      rw [hbatch, Option.any_some, decide_eq_true_eq] at htext
      have hwrite := knownBatches_toVec.mpr ⟨hmem, hbatch⟩
      exact ⟨bytes, hwrite, htext, knownBatches_roundTrips h events bytes hwrite⟩

end Seej
