import Seej.WalRecord

/-!
# Records as frames

A record that the reader accepts has exactly the bytes that the writer would put
there for its header and payload, and the length in its header says where it
ends.  So a record is read wherever it stands, and no proper part of it is.
-/

namespace Seej

open Foundation

/-!
## Fields
-/

theorem failIf_eq_ok {fault : Option String} {what : String} :
    failIf fault what = .ok () <-> fault = none := by
  cases fault with
  | none => simp [failIf]
  | some e => simp [failIf]

theorem readExact_eq_ok {fault : Option String} {what : String} {file bytes : Bytes}
    {position width next : Nat} :
    readExact fault what file position width = .ok (bytes, next) <->
      fault = none ∧ bytes.length = width ∧ next = position + width ∧
        file.drop position = bytes ++ file.drop next := by
  unfold readExact
  rw [check_bind_eq_ok, check_bind_eq_ok, failIf_eq_ok, ensure_eq_ok]
  simp only [pure, Except.pure, Except.ok.injEq, Prod.mk.injEq]
  constructor
  · rintro ⟨hfault, hfits, hbytes, hnext⟩
    refine ⟨hfault, ?_, hnext.symm, ?_⟩
    · rw [← hbytes, List.length_take, List.length_drop]
      exact Nat.min_eq_left hfits
    · rw [← hbytes, ← hnext, ← List.drop_drop, List.take_append_drop]
  · rintro ⟨hfault, hwidth, hnext, hsplit⟩
    have hlen := congrArg List.length hsplit
    rw [List.length_drop, List.length_append, hwidth] at hlen
    refine ⟨hfault, by omega, ?_, hnext.symm⟩
    rw [hsplit, ← hwidth, List.take_left]

theorem readInt_eq_ok {fault : Option String} {what : String} {file : Bytes}
    {position width value next : Nat} :
    readInt fault what file position width = .ok (value, next) <->
      fault = none ∧ value < 256 ^ width ∧ next = position + width ∧
        file.drop position = leBytes width value ++ file.drop next := by
  unfold readInt
  rw [bind_eq_ok]
  simp only [Prod.exists, readExact_eq_ok, pure, Except.pure, Except.ok.injEq, Prod.mk.injEq]
  constructor
  · rintro ⟨bytes, position', ⟨hfault, hwidth, hnext, hsplit⟩, hvalue, hposition⟩
    rw [← hvalue, ← hposition, ← hwidth]
    refine ⟨hfault, leNat_lt bytes, by rw [hnext, hwidth], ?_⟩
    rw [leBytes_leNat]
    exact hsplit
  · rintro ⟨hfault, hvalue, hnext, hsplit⟩
    exact ⟨leBytes width value, next, ⟨hfault, leBytes_length _ _, hnext, hsplit⟩,
      leNat_leBytes_of_lt hvalue, rfl⟩

/-!
## Records
-/

section Records

variable [Crc32]

theorem recordBytes_length (eventId tick : Nat) (payload : Bytes) :
    (recordBytes eventId tick payload).length =
      recordHeaderSize + payload.length + crcSize := by
  simp only [recordBytes, List.length_append, leBytes_length, recordHeaderSize, crcSize]
  omega

theorem computeCrc_lt (version payloadLen eventId tick : Nat) (payload : Bytes) :
    computeCrc version payloadLen eventId tick payload < 256 ^ 4 :=
  UInt32.toNat_lt _

variable [BatchJson]

/-- The bytes of a record that holds these events. -/
inductive IsRecord (events : List SimEvent) : Bytes -> Prop where
  | mk {last : SimEvent} {payload : Bytes} (hlast : events.getLast? = some last)
      (hlength : payload.length ≤ maxWalPayloadLen)
      (hjson : BatchJson.fromSlice payload = .ok events) :
      IsRecord events (recordBytes last.eventId.val.toNat last.tick.val.toNat payload)

theorem encodeEventRecord_eq_ok {events : List SimEvent} {bytes : Bytes} :
    encodeEventRecord events = .ok bytes <->
      exists (last : SimEvent) (payload : Bytes), events.getLast? = some last ∧
        BatchJson.toVec events = .ok payload ∧ payload.length ≤ maxWalPayloadLen ∧
        bytes = recordBytes last.eventId.val.toNat last.tick.val.toNat payload := by
  unfold encodeEventRecord
  cases hlast : events.getLast? with
  | none => simp
  | some last =>
      cases hjson : BatchJson.toVec events with
      | error e => simp
      | ok payload =>
          by_cases hlength : payload.length > maxWalPayloadLen
          · simp [hlength, Nat.not_le_of_lt hlength]
          · simp [hlength, Nat.le_of_not_lt hlength, eq_comm]

theorem encodeEventRecord_isOk {events : List SimEvent} (hne : events ≠ []) :
    (exists record : Bytes, encodeEventRecord events = .ok record) <->
      exists payload : Bytes, BatchJson.toVec events = .ok payload ∧
        payload.length ≤ maxWalPayloadLen := by
  constructor
  · rintro ⟨record, h⟩
    rcases encodeEventRecord_eq_ok.mp h with ⟨_, payload, _, hjson, hlength, _⟩
    exact ⟨payload, hjson, hlength⟩
  · rintro ⟨payload, hjson, hlength⟩
    cases hlast : events.getLast? with
    | none => exact absurd (List.getLast?_eq_none_iff.mp hlast) hne
    | some last =>
        exact ⟨_, encodeEventRecord_eq_ok.mpr ⟨last, payload, hlast, hjson, hlength, rfl⟩⟩

omit [Crc32] in
theorem decodeBatch_eq_ok {payload : Bytes} {eventId tick : Nat} {events : List SimEvent} :
    decodeBatch payload eventId tick = .ok events <->
      BatchJson.fromSlice payload = .ok events ∧
        exists last : SimEvent, events.getLast? = some last ∧
          last.eventId.val.toNat = eventId ∧ last.tick.val.toNat = tick := by
  unfold decodeBatch
  cases hjson : BatchJson.fromSlice payload with
  | error e => simp
  | ok found =>
      rw [Except.ok.injEq]
      constructor
      · intro h
        cases hlast : found.getLast? with
        | none => simp [hlast] at h
        | some last =>
            simp only [hlast, check_bind_eq_ok, ensure_eq_ok, pure, Except.pure,
              Except.ok.injEq] at h
            exact ⟨h.right, last, by rw [← h.right, hlast], h.left⟩
      · rintro ⟨hfound, last, hlast, hheader⟩
        rw [← hfound] at hlast
        simp only [hlast, check_bind_eq_ok, ensure_eq_ok, pure, Except.pure, Except.ok.injEq]
        exact ⟨hheader, hfound⟩

omit [Crc32] [BatchJson] in
theorem drop_add_of_split {file field rest : Bytes} {position width : Nat}
    (h : file.drop position = field ++ rest) (hwidth : field.length = width) :
    file.drop (position + width) = rest := by
  rw [← List.drop_drop, h, ← hwidth, List.drop_left]

/-- What the reader accepts, and only that. -/
theorem readRecordAt_eq_ok {faults : ReadFaults} {file : Bytes} {offset next : Nat}
    {events : List SimEvent} :
    readRecordAt faults file offset = .ok (events, next) <->
      (forall step : ReadStep, step ≠ .recordEnd -> faults step = none) ∧
      exists bytes : Bytes, IsRecord events bytes ∧ next = offset + bytes.length ∧
        file.drop offset = bytes ++ file.drop next := by
  unfold readRecordAt
  simp only [bind_eq_ok, exists_unit, failIf_eq_ok, ensure_eq_ok, Prod.exists, readInt_eq_ok,
    readExact_eq_ok]
  constructor
  · rintro ⟨hseek, magic, p1, ⟨hmagic, _, h1, hsplit1⟩, hmagicEq, version, p2,
      ⟨hversion, _, h2, hsplit2⟩, hversionEq, payloadLen, p3, ⟨hlength, _, h3, hsplit3⟩,
      eventId, p4, ⟨heventId, _, h4, hsplit4⟩, tick, p5, ⟨htick, _, h5, hsplit5⟩, hmax,
      hposition, hmetadata, _, payload, p6, ⟨hpayload, hpayloadLen, h6, hsplit6⟩, crc, p7,
      ⟨hcrc, _, h7, hsplit7⟩, hcrcEq, found, hdecode, hreturn⟩
    simp only [pure, Except.pure, Except.ok.injEq, Prod.mk.injEq] at hreturn
    rcases hreturn with ⟨hfound, hnext⟩
    rw [hfound] at hdecode
    rcases decodeBatch_eq_ok.mp hdecode with ⟨hjson, last, hlast, hlastId, hlastTick⟩
    constructor
    · intro step hstep
      cases step
      case recordEnd => exact absurd rfl hstep
      all_goals assumption
    · refine ⟨_, IsRecord.mk hlast (hpayloadLen ▸ hmax) hjson, ?_, ?_⟩
      · rw [recordBytes_length, ← hnext, hpayloadLen, recordHeaderSize, crcSize]
        omega
      · rw [hsplit1, hsplit2, hsplit3, hsplit4, hsplit5, hsplit6, hsplit7, hmagicEq, hversionEq,
          hcrcEq, hversionEq, hlastId, hlastTick, recordBytes, hpayloadLen, hnext]
        simp only [List.append_assoc]
  · rintro ⟨hfaults, bytes, hrecord, hnext, hsplit⟩
    cases hrecord with
    | mk hlast hmax hjson =>
        rename_i last payload
        have hlen : payload.length + crcSize ≤ file.length - (offset + 4 + 2 + 4 + 8 + 8) := by
          have htotal := congrArg List.length hsplit
          rw [List.length_drop, List.length_append, recordBytes_length, recordHeaderSize]
            at htotal
          omega
        simp only [recordBytes, List.append_assoc] at hsplit
        have h1 := drop_add_of_split hsplit (leBytes_length 4 _)
        have h2 := drop_add_of_split h1 (leBytes_length 2 _)
        have h3 := drop_add_of_split h2 (leBytes_length 4 _)
        have h4 := drop_add_of_split h3 (leBytes_length 8 _)
        have h5 := drop_add_of_split h4 (leBytes_length 8 _)
        have h6 := drop_add_of_split h5 rfl
        have h7 := drop_add_of_split h6 (leBytes_length 4 _)
        have hsmall : payload.length < 256 ^ 4 :=
          Nat.lt_of_le_of_lt hmax (by decide)
        refine ⟨hfaults .seek nofun, walMagic, _,
          ⟨hfaults .magic nofun, by decide, rfl, by rw [hsplit, h1]⟩, rfl, walVersion, _,
          ⟨hfaults .version nofun, by decide, rfl, by rw [h1, h2]⟩, rfl, payload.length, _,
          ⟨hfaults .length nofun, hsmall, rfl, by rw [h2, h3]⟩, last.eventId.val.toNat, _,
          ⟨hfaults .eventId nofun, last.eventId.val.toNat_lt, rfl, by rw [h3, h4]⟩,
          last.tick.val.toNat, _,
          ⟨hfaults .tick nofun, last.tick.val.toNat_lt, rfl, by rw [h4, h5]⟩, hmax,
          hfaults .position nofun, hfaults .metadata nofun, hlen, payload, _,
          ⟨hfaults .payload nofun, rfl, rfl, by rw [h5, h6]⟩, _, _,
          ⟨hfaults .crc nofun, computeCrc_lt _ _ _ _ _, rfl, by rw [h6, h7]⟩, rfl, events,
          decodeBatch_eq_ok.mpr ⟨hjson, last, hlast, rfl, rfl⟩, ?_⟩
        have hend : offset + 4 + 2 + 4 + 8 + 8 + payload.length + 4 = next := by
          rw [hnext, recordBytes_length, recordHeaderSize, crcSize]
          omega
        rw [hend]
        rfl

omit [BatchJson] in
theorem recordBytes_length_inj {eventId tick eventId' tick' : Nat}
    {payload payload' rest rest' : Bytes} (hmax : payload.length ≤ maxWalPayloadLen)
    (hmax' : payload'.length ≤ maxWalPayloadLen)
    (h : recordBytes eventId tick payload ++ rest =
      recordBytes eventId' tick' payload' ++ rest') : payload.length = payload'.length := by
  have hbound : maxWalPayloadLen < 256 ^ 4 := by decide
  simp only [recordBytes, List.append_assoc] at h
  have hafterMagic := List.append_cancel_left h
  have hafterVersion := List.append_cancel_left hafterMagic
  have hlength := (List.append_inj hafterVersion (by rw [leBytes_length, leBytes_length])).left
  exact leBytes_inj (Nat.lt_of_le_of_lt hmax hbound) (Nat.lt_of_le_of_lt hmax' hbound) hlength

theorem IsRecord.length_pos {events : List SimEvent} {bytes : Bytes}
    (h : IsRecord events bytes) : 0 < bytes.length := by
  cases h
  rw [recordBytes_length, recordHeaderSize]
  omega

theorem IsRecord.ne_nil {events : List SimEvent} {bytes : Bytes} (h : IsRecord events bytes) :
    events ≠ [] := by
  cases h with
  | mk hlast _ _ =>
      intro hnil
      rw [hnil] at hlast
      cases hlast

theorem IsRecord.length_eq {events events' : List SimEvent} {bytes bytes' rest rest' : Bytes}
    (h : IsRecord events bytes) (h' : IsRecord events' bytes')
    (heq : bytes ++ rest = bytes' ++ rest') : bytes.length = bytes'.length := by
  cases h with
  | mk _ hmax _ =>
      cases h' with
      | mk _ hmax' _ =>
          rw [recordBytes_length, recordBytes_length, recordBytes_length_inj hmax hmax' heq]

/-- A record is read wherever it stands and nowhere in part. -/
theorem IsRecord.framed {events : List SimEvent} {bytes : Bytes} (h : IsRecord events bytes) :
    Framed (readRecordAt ReadFaults.none) ⟨events, bytes⟩ := by
  constructor
  case nonempty => exact List.ne_nil_of_length_pos h.length_pos
  case reads =>
    intro before after
    apply readRecordAt_eq_ok.mpr
    refine ⟨fun _ _ => rfl, bytes, h, rfl, ?_⟩
    rw [List.drop_left, ← List.drop_drop, List.drop_left, List.drop_left]
  case torn =>
    -- a record read from a proper part would end where the whole one does
    intro k _ hlt before
    change k < bytes.length at hlt
    change exists e : SimError, readRecordAt ReadFaults.none (before ++ bytes.take k)
      before.length = .error e
    cases hread : readRecordAt ReadFaults.none (before ++ bytes.take k) before.length with
    | error e => exact ⟨e, rfl⟩
    | ok result =>
        exfalso
        rcases result with ⟨found, next⟩
        rcases readRecordAt_eq_ok.mp hread with ⟨_, bytes', hrecord, _, hsplit⟩
        rw [List.drop_left] at hsplit
        have hwhole : bytes ++ [] =
            bytes' ++ ((before ++ bytes.take k).drop next ++ bytes.drop k) := by
          rw [← List.append_assoc, ← hsplit, List.take_append_drop, List.append_nil]
        have hlen := h.length_eq hrecord hwhole
        have hpart := congrArg List.length hsplit
        rw [List.length_take, List.length_append] at hpart
        omega

end Records

end Seej
