import Seej.WalCursor

/-!
# Damaged records

A record is a message and its checksum.  A byte that changes in one of them leaves the
other as it was, so the two no longer belong together; only the length must be intact,
since it says where the message ends.
-/

namespace Seej

open Foundation

/-!
## Checksums that see every byte
-/

/-- Two messages that differ in one byte have different checksums. -/
def DetectsByte (hash : Bytes -> UInt32) : Prop :=
  forall (before after : Bytes) (a b : UInt8), a ≠ b ->
    hash (before ++ a :: after) ≠ hash (before ++ b :: after)

theorem toNat_half (z : UInt32) : (z >>> 1).toNat = z.toNat / 2 := by
  rw [UInt32.toNat_shiftRight]
  exact Nat.shiftRight_eq_div_pow _ _

theorem crcBit_top (z : UInt32) : (crcBit z).toNat.testBit 31 = decide (z % 2 = 1) := by
  have hlow : (z >>> 1).toNat.testBit 31 = false := by
    apply Nat.testBit_lt_two_pow
    have hlt := z.toNat_lt
    rw [toNat_half]
    omega
  unfold crcBit
  by_cases hodd : z % 2 = 1
  · rw [if_pos hodd, UInt32.toNat_xor, Nat.testBit_xor, hlow, decide_eq_true hodd]
    decide
  · rw [if_neg hodd, hlow, decide_eq_false hodd]

theorem crcBit_inj {x y : UInt32} (h : crcBit x = crcBit y) : x = y := by
  have htop := congrArg (fun z => z.toNat.testBit 31) h
  simp only [crcBit_top, decide_eq_decide] at htop
  have hhalf : x >>> 1 = y >>> 1 := by
    unfold crcBit at h
    by_cases hodd : x % 2 = 1
    · rw [if_pos hodd, if_pos (htop.mp hodd)] at h
      exact (UInt32.xor_left_inj _).mp h
    · rw [if_neg hodd, if_neg (mt htop.mpr hodd)] at h
      exact h
  have hnat := congrArg UInt32.toNat hhalf
  rw [toNat_half, toNat_half] at hnat
  have hparity (z : UInt32) : z % 2 = 1 <-> z.toNat % 2 = 1 := by
    rw [← UInt32.toNat_inj, UInt32.toNat_mod]
    rfl
  rw [hparity, hparity] at htop
  apply UInt32.toNat_inj.mp
  omega

theorem crcByte_inj {x y : UInt32} {a b : UInt8} (h : crcByte x a = crcByte y b) :
    x ^^^ a.toUInt32 = y ^^^ b.toUInt32 := by
  unfold crcByte at h
  iterate 8 replace h := crcBit_inj h
  exact h

theorem crcBytes_append (left right : Bytes) (crc : UInt32) :
    crcBytes (left ++ right) crc = crcBytes right (crcBytes left crc) := by
  induction left generalizing crc with
  | nil => rfl
  | cons byte rest ih => rw [List.cons_append, crcBytes_cons, crcBytes_cons, ih]

/-- Registers that differ once differ from then on. -/
theorem crcBytes_inj {x y : UInt32} {bytes : Bytes} (h : crcBytes bytes x = crcBytes bytes y) :
    x = y := by
  induction bytes generalizing x y with
  | nil => exact h
  | cons byte rest ih =>
      rw [crcBytes_cons, crcBytes_cons] at h
      exact (UInt32.xor_left_inj _).mp (crcByte_inj (ih h))

theorem crc32_detectsByte : DetectsByte crc32 := by
  intro before after a b hne heq
  unfold crc32 at heq
  have hregister := (UInt32.xor_left_inj _).mp heq
  rw [crcBytes_append, crcBytes_append, crcBytes_cons, crcBytes_cons] at hregister
  have hbyte := (UInt32.xor_right_inj _).mp (crcByte_inj (crcBytes_inj hregister))
  apply hne
  rw [← UInt8.toNat_inj, ← UInt8.toNat_toUInt32, ← UInt8.toNat_toUInt32, hbyte]

/-!
## One record
-/

section Corruption

variable [Crc32] [BatchJson]

def recordMessage (eventId tick : Nat) (payload : Bytes) : Bytes :=
  headerBytes walVersion payload.length eventId tick ++ payload

omit [BatchJson] in
theorem recordBytes_eq (eventId tick : Nat) (payload : Bytes) :
    recordBytes eventId tick payload =
      recordMessage eventId tick payload ++
        leBytes 4 (Crc32.hash (recordMessage eventId tick payload)).toNat := by
  simp only [recordBytes, recordMessage, headerBytes, computeCrc, List.append_assoc]

omit [Crc32] [BatchJson] in
theorem recordMessage_length (eventId tick : Nat) (payload : Bytes) :
    (recordMessage eventId tick payload).length = recordHeaderSize + payload.length := by
  simp only [recordMessage, headerBytes, List.length_append, leBytes_length, recordHeaderSize]

omit [BatchJson] in
theorem recordBytes_lengthField (eventId tick : Nat) (payload rest : Bytes) :
    ((recordBytes eventId tick payload ++ rest).drop 6).take 4 = leBytes 4 payload.length := by
  have hsplit : recordBytes eventId tick payload ++ rest =
      (leBytes 4 walMagic ++ leBytes 2 walVersion) ++ (leBytes 4 payload.length ++
        (leBytes 8 eventId ++ (leBytes 8 tick ++ (payload ++
          leBytes 4 (computeCrc walVersion payload.length eventId tick payload))) ++ rest)) := by
    simp only [recordBytes, List.append_assoc]
  have hfront : (leBytes 4 walMagic ++ leBytes 2 walVersion).length = 6 := by
    rw [List.length_append, leBytes_length, leBytes_length]
  rw [hsplit, List.drop_left' hfront, List.take_left' (leBytes_length 4 _)]

omit [Crc32] [BatchJson] in
theorem set_lengthField {bytes : Bytes} {k : Nat} (b : UInt8) (hk : k < 6 ∨ 10 ≤ k) :
    ((bytes.set k b).drop 6).take 4 = (bytes.drop 6).take 4 := by
  apply List.ext_getElem?
  intro i
  rw [List.getElem?_take, List.getElem?_take]
  by_cases hi : i < 4
  · rw [if_pos hi, if_pos hi, List.getElem?_drop, List.getElem?_drop,
      List.getElem?_set_ne (by omega)]
  · rw [if_neg hi, if_neg hi]

omit [BatchJson] in
/-- No record comes from another one of its length by changing one byte. -/
theorem recordBytes_set_ne (hcrc : DetectsByte Crc32.hash) {eventId tick eventId' tick' : Nat}
    {payload payload' : Bytes} {k : Nat} {b : UInt8} (hlength : payload.length = payload'.length)
    (hb : (recordBytes eventId tick payload)[k]? ≠ some b)
    (hk : k < (recordBytes eventId tick payload).length) :
    (recordBytes eventId tick payload).set k b ≠ recordBytes eventId' tick' payload' := by
  intro heq
  have hsame : (recordMessage eventId tick payload).length =
      (recordMessage eventId' tick' payload').length := by
    rw [recordMessage_length, recordMessage_length, hlength]
  rw [recordBytes_eq] at hb hk heq
  rw [recordBytes_eq eventId'] at heq
  generalize recordMessage eventId tick payload = m at hb hk heq hsame
  generalize recordMessage eventId' tick' payload' = m' at heq hsame
  by_cases hmessage : k < m.length
  · -- the message changes and the checksum stays
    rw [List.set_append_left _ _ hmessage] at heq
    rcases List.append_inj heq (by rw [List.length_set, hsame]) with ⟨hm, hfield⟩
    have hhash := leBytes_inj (UInt32.toNat_lt _) (UInt32.toNat_lt _) hfield
    rw [List.getElem?_append_left hmessage, List.getElem?_eq_getElem hmessage] at hb
    have hne : m[k] ≠ b := fun h => hb (congrArg some h)
    have hset : m.take k ++ b :: m.drop (k + 1) = m' := by
      rw [← hm, List.set_eq_take_append_cons_drop, if_pos hmessage]
    have hdiffers := hcrc (m.take k) (m.drop (k + 1)) m[k] b hne
    rw [← List.drop_eq_getElem_cons hmessage, List.take_append_drop, hset] at hdiffers
    exact hdiffers (UInt32.toNat_inj.mp hhash)
  · -- the message stays and the checksum changes
    rw [List.set_append_right _ _ (Nat.le_of_not_lt hmessage)] at heq
    rcases List.append_inj heq hsame with ⟨hm, hfield⟩
    rw [← hm] at hfield
    rw [List.getElem?_append_right (Nat.le_of_not_lt hmessage), ← hfield,
      List.getElem?_set_self] at hb
    · exact hb rfl
    · rw [List.length_append] at hk
      rw [leBytes_length] at hk ⊢
      omega

/-- Where a byte of a record is damaged, no record begins any more. -/
theorem noRecord_of_set (hcrc : DetectsByte Crc32.hash) {events : List SimEvent} {bytes : Bytes}
    (h : IsRecord events bytes) {k : Nat} {b : UInt8} (hk : k < bytes.length)
    (hlength : ¬ (6 ≤ k ∧ k < 10)) (hb : bytes[k]? ≠ some b) (rest : Bytes) :
    NoRecord (bytes.set k b ++ rest) := by
  cases hread : readRecordAt ReadFaults.none (bytes.set k b ++ rest) 0 with
  | error e => exact noRecord_of_error hread
  | ok result =>
      exfalso
      rcases readRecordAt_eq_ok.mp hread with ⟨_, found, hfound, _, hsplit⟩
      rw [List.drop_zero] at hsplit
      cases h with
      | mk _ hmax _ =>
          cases hfound with
          | mk _ hmax' _ =>
              have hfield := congrArg (fun l : Bytes => (l.drop 6).take 4) hsplit
              simp only [← List.set_append_left _ _ hk] at hfield
              rw [set_lengthField b (by omega), recordBytes_lengthField,
                recordBytes_lengthField] at hfield
              have hbound : maxWalPayloadLen < 256 ^ 4 := by decide
              have hpayload := leBytes_inj (Nat.lt_of_le_of_lt hmax hbound)
                (Nat.lt_of_le_of_lt hmax' hbound) hfield
              have hrecord := (List.append_inj hsplit (by
                rw [List.length_set, recordBytes_length, recordBytes_length, hpayload])).left
              exact recordBytes_set_ne hcrc hpayload hb hk hrecord

/-!
## A file of records
-/

namespace FileEventLog

/-- A byte that changes outside the length of a record cuts the file in front of that
record, exactly if the records there can be counted. -/
theorem new_damaged_iff (hcrc : DetectsByte Crc32.hash) {before after : List WalFrame}
    {damaged : WalFrame} {k : Nat} {b : UInt8}
    (hframes : Records (before ++ damaged :: after)) (hk : k < damaged.bytes.length)
    (hlength : ¬ (6 ≤ k ∧ k < 10)) (hb : damaged.bytes[k]? ≠ some b) :
    (exists log : FileEventLog,
      new (some ((joined (before ++ damaged :: after)).set ((joined before).length + k) b)) =
          some (.ok log) ∧
        log.file = some (joined before) ∧ log.readAllValid = .ok (framesEvents before)) <->
      Countable (before.map Frame.value) := by
  have hfile : (joined (before ++ damaged :: after)).set ((joined before).length + k) b =
      joined before ++ (damaged.bytes.set k b ++ joined after) := by
    rw [joined_append, joined_cons, List.set_append_right _ _ (Nat.le_add_right _ _),
      Nat.add_sub_cancel_left, List.set_append_left _ _ hk]
  have hbefore : Records before := fun frame hmem => hframes frame (List.mem_append_left _ hmem)
  have hrecord := hframes damaged (List.mem_append_right _ List.mem_cons_self)
  have hlongest : ValidPrefix (joined before ++ (damaged.bytes.set k b ++ joined after)) before :=
    validPrefix_of_noRecord hbefore (noRecord_of_set hcrc hrecord hk hlength hb _)
  rw [hfile]
  constructor
  · rintro ⟨log, hnew, _⟩
    rcases @new_cases _ _ (some _) before hlongest with ⟨hcount, _⟩ | ⟨_, hnone⟩
    · exact hcount
    · rw [hnew] at hnone
      cases hnone
  · intro hcount
    rcases new_opened hlongest hcount with ⟨log, hnew, _, hopened⟩
    refine ⟨log, hnew, hopened.file, ?_⟩
    apply readAllEvents_records hbefore (Or.inl rfl) hopened.readError
    rw [hopened.file, Option.getD_some, List.append_nil]

end FileEventLog

end Corruption

namespace FileEventLog

/-- A record of the save under this identifier, and one of the save under `2`. -/
def twoSaves (eventId : UInt64) : List WalFrame :=
  [⟨savedAs eventId, savedFile eventId⟩, ⟨savedAs 2, savedFile 2⟩]

def damagedFile (eventId : UInt64) : Bytes :=
  (joined (twoSaves eventId)).set ((savedFile eventId).length + 30) 0

theorem twoSaves_records {eventId : UInt64}
    (hknown : forall a, a ∈ [savedAs eventId, savedAs 2] ->
      forall b, b ∈ [savedAs eventId, savedAs 2] -> Json.batch a = Json.batch b -> a = b)
    (hfirst : @encodeEventRecord ieeeCrc32 (knownBatches [savedAs eventId, savedAs 2])
      (savedAs eventId) = .ok (savedFile eventId))
    (hsecond : @encodeEventRecord ieeeCrc32 (knownBatches [savedAs eventId, savedAs 2])
      (savedAs 2) = .ok (savedFile 2)) :
    @Records ieeeCrc32 (knownBatches [savedAs eventId, savedAs 2]) (twoSaves eventId) := by
  let _ := ieeeCrc32
  let _ := knownBatches [savedAs eventId, savedAs 2]
  have hround (events : List SimEvent) : RoundTrips events := knownBatches_roundTrips hknown events
  intro frame hmem
  rcases List.mem_pair.mp hmem with heq | heq
  · rw [heq]
    exact (hround _).isRecord hfirst
  · rw [heq]
    exact (hround _).isRecord hsecond

theorem new_damaged_first :
    letI := ieeeCrc32
    letI := knownBatches [savedAs 1, savedAs 2]
    exists log : FileEventLog,
      new (some (damagedFile 1)) = some (.ok log) ∧ log.file = some (savedFile 1) ∧
        log.readAllValid = .ok (savedAs 1) := by
  let _ := ieeeCrc32
  let _ := knownBatches [savedAs 1, savedAs 2]
  have hframes := @twoSaves_records 1 (by decide +kernel) (by decide +kernel) (by decide +kernel)
  have hcount : Countable ([(⟨savedAs 1, savedFile 1⟩ : WalFrame)].map Frame.value) := by
    intro events hmem last hlast
    rw [List.mem_singleton.mp hmem] at hlast
    cases hlast
    decide
  exact (@new_damaged_iff _ _ crc32_detectsByte [⟨savedAs 1, savedFile 1⟩] []
    ⟨savedAs 2, savedFile 2⟩ 30 0 hframes (by decide +kernel) (by decide)
    (by decide +kernel)).mpr hcount

/-- The record in front of the damaged one ends with the last `u64`. -/
theorem new_damaged_overflows :
    letI := ieeeCrc32
    letI := knownBatches [savedAs u64Max, savedAs 2]
    Records (twoSaves u64Max) ∧
      ¬ exists log : FileEventLog,
        new (some (damagedFile u64Max)) = some (.ok log) ∧
          log.file = some (savedFile u64Max) ∧ log.readAllValid = .ok (savedAs u64Max) := by
  let _ := ieeeCrc32
  let _ := knownBatches [savedAs u64Max, savedAs 2]
  refine ⟨twoSaves_records (by decide +kernel) (by decide +kernel) (by decide +kernel), ?_⟩
  have hopen : new (some (damagedFile u64Max)) = none := by
    rw [← Option.isNone_iff_eq_none]
    decide +kernel
  rintro ⟨log, hnew, _⟩
  rw [hopen] at hnew
  cases hnew

end FileEventLog

end Seej
