import Mathlib.Algebra.GroupWithZero.Nat
import Seej.Json
import Seej.TickJournal

/-!
# Lengths of JSON documents

How long the text of a batch is.  Every event takes some bytes, and those of a tick
take a bounded number of them.
-/

namespace Seej

open Foundation

namespace Json

/-!
## Text and numbers
-/

theorem text_length (s : String) : (text s).length = s.utf8ByteSize :=
  Array.length_toList

theorem quoted_length (s : String) : (quoted s).length = s.utf8ByteSize + 2 := by
  simp only [quoted, List.length_append, text_length, List.length_singleton]
  omega

theorem utf8Encode_size (cs : List Char) :
    cs.utf8Encode.size = (cs.map Char.utf8Size).sum := by
  induction cs with
  | nil => rfl
  | cons c rest ih =>
      rw [List.utf8Encode_cons, ByteArray.size_append, ih, List.utf8Encode_singleton,
        List.size_toByteArray, String.length_utf8EncodeChar, List.map_cons, List.sum_cons]

theorem number_eq_digits (n : Nat) : (number n).length = (Nat.toDigits 10 n).length := by
  have hone : forall c : Char, c ∈ Nat.toDigits 10 n -> c.utf8Size = 1 := by
    intro c hmem
    have hdigit := Nat.isDigit_of_mem_toDigits (by decide) (by decide) hmem
    rw [Char.isDigit, Bool.and_eq_true, decide_eq_true_eq, decide_eq_true_eq] at hdigit
    exact Char.utf8Size_eq_one_iff.mpr (UInt32.le_trans hdigit.right (by decide))
  rw [number, text_length, Nat.toString_eq_ofList_toDigits, ← String.size_toByteArray,
    String.toByteArray_ofList, utf8Encode_size, List.map_congr_left hone]
  simp

theorem number_length {n : Nat} (h : n < 2 ^ 64) : (number n).length ≤ 20 := by
  rw [number_eq_digits, Nat.length_toDigits_le_iff (by decide) (by decide)]
  exact Nat.lt_trans h (by decide)

/-!
## Lists and objects
-/

theorem commaSeparated_length {items : List Bytes} (h : items ≠ []) :
    (commaSeparated items).length + 1 = (items.map fun item => item.length + 1).sum := by
  induction items with
  | nil => exact absurd rfl h
  | cons item rest ih =>
      cases rest with
      | nil => simp [commaSeparated]
      | cons next rest =>
          have hrest := ih (List.cons_ne_nil _ _)
          rw [List.map_cons, List.sum_cons, ← hrest, commaSeparated, List.length_append,
            List.length_append, List.length_singleton]
          · omega
          · exact List.cons_ne_nil _ _

def fieldLength (field : String × Bytes) : Nat :=
  field.1.utf8ByteSize + field.2.length + 4

theorem object_length {fields : List (String × Bytes)} (h : fields ≠ []) :
    (object fields).length = (fields.map fieldLength).sum + 1 := by
  have hitems : (commaSeparated
      (fields.map fun field => quoted field.1 ++ [58] ++ field.2)).length + 1 = _ :=
    commaSeparated_length (mt List.map_eq_nil_iff.mp h)
  have hfields : ((fields.map fun field => quoted field.1 ++ [58] ++ field.2).map
      fun item => item.length + 1) = fields.map fieldLength := by
    rw [List.map_map]
    apply List.map_congr_left
    intro field _
    simp only [Function.comp, List.length_append, quoted_length, List.length_singleton,
      fieldLength]
    omega
  rw [hfields] at hitems
  rw [← hitems, object]
  simp only [List.length_append, List.length_singleton]
  omega

theorem variant_length (tag : String) {fields : List (String × Bytes)} (h : fields ≠ []) :
    (variant tag fields).length = tag.utf8ByteSize + (fields.map fieldLength).sum + 6 := by
  rw [variant, object_length (List.cons_ne_nil _ _), List.map_singleton, List.sum_singleton]
  show tag.utf8ByteSize + (object fields).length + 4 + 1 = _
  rw [object_length h]
  omega

/-!
## Events
-/

theorem event_length {e : SimEvent} {bytes : Bytes} (h : event e = some bytes) :
    exists data : Bytes, eventData e.data = some data ∧
      bytes.length =
        29 + (eventId e.eventId).length + (tick e.tick).length + data.length := by
  rcases Option.bind_eq_some_iff.mp h with ⟨data, hdata, heq⟩
  refine ⟨data, hdata, ?_⟩
  rw [← Option.some.inj heq, object_length (List.cons_ne_nil _ _)]
  show 8 + (eventId e.eventId).length + 4 + (4 + (tick e.tick).length + 4 +
    (4 + data.length + 4 + 0)) + 1 = _
  omega

theorem uint64_length (n : UInt64) : (number n.toNat).length ≤ 20 :=
  number_length n.toNat_lt

theorem uint32_length (n : UInt32) : (number n.toNat).length ≤ 20 :=
  number_length (Nat.lt_trans n.toNat_lt (by decide))

theorem entityState_length (state : EntityState) : (entityState state).length ≤ 9 := by
  cases state <;> decide

theorem event_length_le {e : SimEvent} {data : Bytes} {limit : Nat}
    (hdata : eventData e.data = some data) (hlength : data.length ≤ limit) :
    exists bytes : Bytes, event e = some bytes ∧ bytes.length ≤ limit + 69 := by
  have hevent : event e = some _ := Option.bind_eq_some_iff.mpr ⟨data, hdata, rfl⟩
  refine ⟨_, hevent, ?_⟩
  rcases event_length hevent with ⟨data', hdata', hsum⟩
  cases hdata.symm.trans hdata'
  have hid : (eventId e.eventId).length ≤ 20 := uint64_length e.eventId.val
  have htick : (tick e.tick).length ≤ 20 := uint64_length e.tick.val
  omega

theorem systemic_length {e : SimEvent} (h : e.data.isSystemic = true) :
    exists bytes : Bytes, event e = some bytes ∧ bytes.length ≤ 200 := by
  rcases e with ⟨id, t, data⟩
  have hshort : exists text : Bytes, eventData data = some text ∧ text.length ≤ 131 := by
    cases data with
    | resourceDepleted entity amount remaining =>
        refine ⟨_, rfl, ?_⟩
        rw [variant_length _ (List.cons_ne_nil _ _)]
        show 16 + (9 + (number entity.val.toNat).length + 4 +
          (6 + (number amount.toNat).length + 4 +
            (9 + (number remaining.toNat).length + 4 + 0))) + 6 ≤ _
        have hentity := uint64_length entity.val
        have hamount := uint32_length amount
        have hremaining := uint32_length remaining
        omega
    | entityDegraded entity oldHealth newHealth =>
        refine ⟨_, rfl, ?_⟩
        rw [variant_length _ (List.cons_ne_nil _ _)]
        show 14 + (9 + (number entity.val.toNat).length + 4 +
          (10 + (number oldHealth.toNat).length + 4 +
            (10 + (number newHealth.toNat).length + 4 + 0))) + 6 ≤ _
        have hentity := uint64_length entity.val
        have hold := uint32_length oldHealth
        have hnew := uint32_length newHealth
        omega
    | entityStateChanged entity oldState newState =>
        refine ⟨_, rfl, ?_⟩
        rw [variant_length _ (List.cons_ne_nil _ _)]
        show 18 + (9 + (number entity.val.toNat).length + 4 +
          (9 + (entityState oldState).length + 4 +
            (9 + (entityState newState).length + 4 + 0))) + 6 ≤ _
        have hentity := uint64_length entity.val
        have hold := entityState_length oldState
        have hnew := entityState_length newState
        omega
    | entityDespawned entity reason =>
        refine ⟨_, rfl, ?_⟩
        rw [variant_length _ (List.cons_ne_nil _ _)]
        have hreason : reason = .death := of_decide_eq_true h
        rw [hreason]
        show 15 + (9 + (number entity.val.toNat).length + 4 + (6 + 7 + 4 + 0)) + 6 ≤ _
        have hentity := uint64_length entity.val
        omega
    | _ => cases h
  rcases hshort with ⟨text, htext, hlength⟩
  exact event_length_le htext hlength

theorem tickProcessed_length (id : EventId) (t after : Tick) (time : SimTime)
    (processed : UInt32) (state : UInt64) :
    exists bytes : Bytes,
      event ⟨id, t, .tickProcessed after time processed (some state)⟩ = some bytes ∧
        bytes.length ≤ 300 := by
  let data : EventData := .tickProcessed after time processed (some state)
  have hshort : exists text : Bytes, eventData data = some text ∧ text.length ≤ 231 := by
    refine ⟨_, rfl, ?_⟩
    rw [variant_length _ (List.cons_ne_nil _ _)]
    show 13 + (4 + (number after.val.toNat).length + 4 + (8 + (simTime time).length + 4 +
      (18 + (number processed.toNat).length + 4 +
        (15 + (number state.toNat).length + 4 + 0)))) + 6 ≤ _
    have htime : (simTime time).length = 5 + (number time.units.toNat).length + 4 + 0 + 1 :=
      object_length (List.cons_ne_nil _ _)
    have hunits := uint64_length time.units
    have hafter := uint64_length after.val
    have hprocessed := uint32_length processed
    have hstate := uint64_length state
    omega
  rcases hshort with ⟨text, htext, hlength⟩
  exact event_length_le htext hlength

/-!
## Batches
-/

theorem mapM_event_cons {e : SimEvent} {rest : List SimEvent} {items : List Bytes} :
    (e :: rest).mapM event = some items <->
      exists (item : Bytes) (later : List Bytes), event e = some item ∧
        rest.mapM event = some later ∧ items = item :: later := by
  rw [List.mapM_cons]
  constructor
  · intro h
    rcases Option.bind_eq_some_iff.mp h with ⟨item, hitem, hrest⟩
    rcases Option.bind_eq_some_iff.mp hrest with ⟨later, hlater, heq⟩
    exact ⟨item, later, hitem, hlater, (Option.some.inj heq).symm⟩
  · rintro ⟨item, later, hitem, hlater, hitems⟩
    rw [hitem, hlater, hitems]
    rfl

def itemsLength (items : List Bytes) : Nat :=
  (items.map fun item => item.length + 1).sum

theorem batch_length {events : List SimEvent} {items : List Bytes}
    (h : events.mapM event = some items) (hne : items ≠ []) :
    exists bytes : Bytes, batch events = some bytes ∧ bytes.length = itemsLength items + 36 := by
  refine ⟨_, Option.bind_eq_some_iff.mpr ⟨items, h, rfl⟩, ?_⟩
  rw [object_length (List.cons_ne_nil _ _)]
  show 4 + (quoted "Batch").length + 4 +
    (4 + (object [("events", array items)]).length + 4 + 0) + 1 = _
  have hdata : (object [("events", array items)]).length = 6 + (array items).length + 4 + 0 + 1 :=
    object_length (List.cons_ne_nil _ _)
  have harray : (array items).length = 1 + (commaSeparated items).length + 1 := by
    simp only [array, List.length_append, List.length_singleton]
  have hitems : _ = itemsLength items := commaSeparated_length hne
  rw [quoted_length]
  show 4 + (5 + 2) + 4 + _ + 1 = _
  omega

theorem itemsLength_ge {events : List SimEvent} {items : List Bytes}
    (h : events.mapM event = some items) : 30 * events.length ≤ itemsLength items := by
  induction events generalizing items with
  | nil => exact Nat.zero_le _
  | cons e rest ih =>
      rcases mapM_event_cons.mp h with ⟨item, later, hitem, hlater, hitems⟩
      rcases event_length hitem with ⟨_, _, hsum⟩
      have hrest := ih hlater
      have hcons : itemsLength items = item.length + 1 + itemsLength later := by rw [hitems]; rfl
      rw [List.length_cons]
      omega

theorem batch_length_ge {events : List SimEvent} {bytes : Bytes} (h : batch events = some bytes) :
    30 * events.length ≤ bytes.length := by
  rcases Option.bind_eq_some_iff.mp h with ⟨items, hitems, heq⟩
  by_cases hne : items = []
  · have hlength := itemsLength_ge hitems
    rw [hne] at hlength
    exact Nat.le_trans hlength (Nat.zero_le _)
  · rcases batch_length hitems hne with ⟨bytes', hbatch, hlength⟩
    cases h.symm.trans hbatch
    have hge := itemsLength_ge hitems
    omega

theorem itemsLength_le {events : List SimEvent} {limit : Nat}
    (h : forall e : SimEvent, e ∈ events ->
      exists bytes : Bytes, event e = some bytes ∧ bytes.length ≤ limit) :
    exists items : List Bytes, events.mapM event = some items ∧
      itemsLength items ≤ (limit + 1) * events.length ∧ items.length = events.length := by
  induction events with
  | nil => exact ⟨[], rfl, Nat.zero_le _, rfl⟩
  | cons e rest ih =>
      rcases h e List.mem_cons_self with ⟨item, hitem, hlength⟩
      rcases ih fun later hmem => h later (List.mem_cons_of_mem _ hmem) with
        ⟨later, hlater, hle, hsame⟩
      refine ⟨item :: later, mapM_event_cons.mpr ⟨item, later, hitem, hlater, rfl⟩, ?_, ?_⟩
      · have hcons : itemsLength (item :: later) = item.length + 1 + itemsLength later := rfl
        rw [List.length_cons, Nat.mul_succ]
        omega
      · rw [List.length_cons, List.length_cons, hsame]

theorem batch_length_le {events : List SimEvent} {limit : Nat} (hne : events ≠ [])
    (h : forall e : SimEvent, e ∈ events ->
      exists bytes : Bytes, event e = some bytes ∧ bytes.length ≤ limit) :
    exists bytes : Bytes, batch events = some bytes ∧
      bytes.length ≤ (limit + 1) * events.length + 36 := by
  rcases itemsLength_le h with ⟨items, hitems, hle, hsame⟩
  have hnonempty : items ≠ [] := by
    rintro rfl
    exact hne (List.length_eq_zero_iff.mp hsame.symm)
  rcases batch_length hitems hnonempty with ⟨bytes, hbatch, hlength⟩
  exact ⟨bytes, hbatch, by omega⟩

end Json

end Seej
