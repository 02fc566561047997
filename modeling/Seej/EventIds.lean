import Seej.Runtime

/-!
# Event identifiers

A log numbers its events from `1` upwards.  The recovery checks walk over the
identifiers with a saturating counter, so they say what they should only while
the counter has not reached the end.
-/

namespace Seej

open Foundation

/-- The identifiers run upwards by one from `start`. -/
def NumberedFrom : EventId -> List SimEvent -> Prop
  | _, [] => True
  | start, event :: rest => event.eventId = start ∧ NumberedFrom start.next rest

/-- The identifier after `count` steps. -/
def EventId.skip (start : EventId) : Nat -> EventId
  | 0 => start
  | count + 1 => start.next.skip count

theorem EventId.next_toNat {id : EventId} (h : id.val ≠ u64Max) :
    id.next.val.toNat = id.val.toNat + 1 := by
  unfold EventId.next saturatingSucc
  rw [if_neg h, toNat_succ h]

theorem EventId.ne_max {id : EventId} {n : Nat} (h : id.val.toNat + (n + 1) < 2 ^ 64) :
    id.val ≠ u64Max := by
  intro hmax
  have hnat : id.val.toNat = 18446744073709551615 := by
    rw [hmax]
    rfl
  omega

theorem EventId.skip_toNat {start : EventId} {count : Nat}
    (h : start.val.toNat + count < 2 ^ 64) :
    (start.skip count).val.toNat = start.val.toNat + count := by
  induction count generalizing start with
  | zero => rfl
  | succ count ih =>
      have hnext := EventId.next_toNat (EventId.ne_max h)
      rw [EventId.skip, ih (by omega), hnext]
      omega

theorem EventId.skip_toNat_of_le {start : EventId} {count : Nat}
    (h : 2 ^ 64 ≤ start.val.toNat + count + 1) :
    (start.skip count).val.toNat + 1 = 2 ^ 64 := by
  induction count generalizing start with
  | zero =>
      have hlt := start.val.toNat_lt
      rw [EventId.skip]
      omega
  | succ count ih =>
      rw [EventId.skip]
      apply ih
      by_cases hmax : start.val = u64Max
      · have hnext : start.next = start := by
          unfold EventId.next saturatingSucc
          rw [if_pos hmax]
        have hnat : start.val.toNat = 18446744073709551615 := by
          rw [hmax]
          rfl
        rw [hnext]
        omega
      · rw [EventId.next_toNat hmax]
        omega

theorem EventId.eq_of_toNat {a b : EventId} (h : a.val.toNat = b.val.toNat) : a = b := by
  cases a
  cases b
  exact congrArg EventId.mk (UInt64.toNat_inj.mp h)

theorem EventId.skip_add (start : EventId) (m n : Nat) :
    start.skip (m + n) = (start.skip m).skip n := by
  induction m generalizing start with
  | zero => rw [Nat.zero_add, EventId.skip]
  | succ m ih => rw [Nat.succ_add, EventId.skip, EventId.skip, ih]

theorem expectEventIds_eq_ok {message : EventId -> EventId -> String} {start final : EventId}
    {events : List SimEvent} :
    expectEventIds message start events = .ok final <->
      NumberedFrom start events ∧ final = start.skip events.length := by
  induction events generalizing start with
  | nil => simp [expectEventIds, NumberedFrom, EventId.skip, eq_comm]
  | cons event rest ih =>
      rw [expectEventIds, check_bind_eq_ok, ensure_eq_ok, ih, NumberedFrom, List.length_cons,
        EventId.skip, and_assoc]

namespace NumberedFrom

theorem append_iff {start : EventId} {left right : List SimEvent} :
    NumberedFrom start (left ++ right) <->
      NumberedFrom start left ∧ NumberedFrom (start.skip left.length) right := by
  induction left generalizing start with
  | nil => simp [NumberedFrom, EventId.skip]
  | cons event rest ih =>
      rw [List.cons_append, NumberedFrom, NumberedFrom, ih, List.length_cons, EventId.skip,
        and_assoc]

theorem toNat_eq {start : EventId} {events : List SimEvent}
    (h : NumberedFrom start events) (hlen : start.val.toNat + events.length < 2 ^ 64) :
    events.map (fun event => event.eventId.val.toNat) =
      List.range' start.val.toNat events.length := by
  induction events generalizing start with
  | nil => rfl
  | cons event rest ih =>
      rw [List.length_cons] at hlen
      have hnext := EventId.next_toNat (EventId.ne_max hlen)
      rw [List.map_cons, List.length_cons, List.range'_succ, ih h.right (by omega), h.left,
        hnext]

theorem durableLast {events : List SimEvent} (h : NumberedFrom ⟨1⟩ events)
    (hlen : events.length + 1 < 2 ^ 64) :
    (durableLastEventId events).val.toNat = events.length := by
  unfold durableLastEventId
  cases hlast : events.getLast? with
  | none =>
      rw [List.getLast?_eq_none_iff] at hlast
      rw [hlast]
      rfl
  | some event =>
      rcases List.getLast?_eq_some_iff.mp hlast with ⟨init, hinit⟩
      rw [hinit, List.length_append, List.length_singleton] at hlen ⊢
      rw [hinit, append_iff] at h
      have hone : ((⟨1⟩ : EventId)).val.toNat = 1 := rfl
      have hid : event.eventId = (⟨1⟩ : EventId).skip init.length := h.right.left
      rw [Option.map_some, Option.getD_some, hid, EventId.skip_toNat (by rw [hone]; omega),
        hone, Nat.add_comm]

theorem length_lt {events : List SimEvent} (h : NumberedFrom ⟨1⟩ events)
    (hlast : (durableLastEventId events).val.toNat + 1 < 2 ^ 64) :
    events.length + 1 < 2 ^ 64 := by
  cases hfound : events.getLast? with
  | none =>
      rw [List.getLast?_eq_none_iff] at hfound
      rw [hfound]
      decide
  | some event =>
      rcases List.getLast?_eq_some_iff.mp hfound with ⟨init, hinit⟩
      have hid : event.eventId = (⟨1⟩ : EventId).skip init.length := by
        rw [hinit, append_iff] at h
        exact h.right.left
      have hdurable : durableLastEventId events = event.eventId := by
        rw [durableLastEventId, hfound]
        rfl
      rw [hdurable, hid] at hlast
      rw [hinit, List.length_append, List.length_singleton]
      by_contra hlong
      have hone : ((⟨1⟩ : EventId)).val.toNat = 1 := rfl
      have hend : ((⟨1⟩ : EventId).skip init.length).val.toNat + 1 = 2 ^ 64 :=
        EventId.skip_toNat_of_le (by omega)
      omega

theorem le_of_mem {start : EventId} {events : List SimEvent} {event : SimEvent}
    (h : NumberedFrom start events) (hlen : start.val.toNat + events.length < 2 ^ 64)
    (hmem : event ∈ events) : start.val.toNat ≤ event.eventId.val.toNat := by
  have hnat : event.eventId.val.toNat ∈ List.range' start.val.toNat events.length := by
    rw [← toNat_eq h hlen]
    exact List.mem_map_of_mem hmem
  rw [List.mem_range'_1] at hnat
  exact hnat.left

theorem filter_gt {start cursor : EventId} {events : List SimEvent}
    (h : NumberedFrom start events) (hlen : start.val.toNat + events.length < 2 ^ 64)
    (hcursor : start.val.toNat ≤ cursor.val.toNat + 1) :
    events.filter (fun event => event.eventId > cursor) =
      events.drop (cursor.val.toNat + 1 - start.val.toNat) := by
  induction events generalizing start with
  | nil => simp
  | cons event rest ih =>
      rw [List.length_cons] at hlen
      have hnext := EventId.next_toNat (EventId.ne_max hlen)
      have hgt : event.eventId > cursor <-> cursor.val.toNat < start.val.toNat := by
        rw [h.left]
        exact UInt64.lt_iff_toNat_lt
      by_cases hin : start.val.toNat ≤ cursor.val.toNat
      · have hnot : ¬ event.eventId > cursor := by
          rw [hgt]
          omega
        have hdrop : cursor.val.toNat + 1 - start.val.toNat =
            (cursor.val.toNat + 1 - start.next.val.toNat) + 1 := by
          omega
        rw [List.filter_cons_of_neg (by simpa using hnot), ih h.right (by omega) (by omega),
          hdrop, List.drop_succ_cons]
      · -- from here on every identifier is above the cursor
        have hall : forall e : SimEvent, e ∈ event :: rest -> e.eventId > cursor := by
          intro e hmem
          have hle := le_of_mem h (by rw [List.length_cons]; exact hlen) hmem
          have hlt : cursor.val < e.eventId.val := by
            rw [UInt64.lt_iff_toNat_lt]
            omega
          exact hlt
        have hzero : cursor.val.toNat + 1 - start.val.toNat = 0 := by omega
        rw [hzero, List.drop_zero, List.filter_eq_self]
        intro e hmem
        simpa using hall e hmem

theorem filter_le {start cursor : EventId} {events : List SimEvent}
    (h : NumberedFrom start events) (hlen : start.val.toNat + events.length < 2 ^ 64) :
    exists k : Nat, events.filter (fun event => event.eventId ≤ cursor) = events.take k := by
  induction events generalizing start with
  | nil => exact ⟨0, rfl⟩
  | cons event rest ih =>
      have hshort := hlen
      rw [List.length_cons] at hshort
      have hnext := EventId.next_toNat (EventId.ne_max hshort)
      have hhead : event.eventId ≤ cursor <-> start.val.toNat ≤ cursor.val.toNat := by
        rw [h.left]
        exact UInt64.le_iff_toNat_le
      by_cases hin : start.val.toNat ≤ cursor.val.toNat
      · rcases ih h.right (by omega) with ⟨k, hk⟩
        refine ⟨k + 1, ?_⟩
        rw [List.filter_cons_of_pos (by simpa using hhead.mpr hin), hk, List.take_succ_cons]
      · refine ⟨0, ?_⟩
        rw [List.take_zero, List.filter_eq_nil_iff]
        intro e hmem
        have hle := le_of_mem h hlen hmem
        rw [decide_eq_true_eq]
        change ¬ e.eventId.val ≤ cursor.val
        rw [UInt64.le_iff_toNat_le]
        omega

end NumberedFrom

end Seej
