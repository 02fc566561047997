import Mathlib.Data.List.Basic
import Mathlib.Data.Nat.Basic
import Mathlib.Order.Lattice

/-!
# Agendas

Entries that are due at a key, in any order.  A stable sort puts them in the
order of their keys and keeps the order of equal ones, so the sorted agenda
depends only on what is due at each key.  From a sorted agenda the entries of
the smallest key are split off at the front.
-/

namespace Foundation

variable {α κ : Type} [LinearOrder κ]

/-- The entries due at `t`, in their order. -/
def dueAt (key : α -> κ) (t : κ) (entries : List α) : List α :=
  entries.filter (fun a => decide (key a = t))

/-- The entries due later than `t`, in their order. -/
def dueAfter (key : α -> κ) (t : κ) (entries : List α) : List α :=
  entries.filter (fun a => decide (t < key a))

/-- The entries due at `t` or later, in their order. -/
def dueFrom (key : α -> κ) (t : κ) (entries : List α) : List α :=
  entries.filter (fun a => decide (t ≤ key a))

def sortByKey (key : α -> κ) (entries : List α) : List α :=
  entries.mergeSort (fun a b => decide (key a ≤ key b))

def SameAgenda (key : α -> κ) (left right : List α) : Prop :=
  forall t : κ, dueAt key t left = dueAt key t right

def SortedBy (key : α -> κ) (entries : List α) : Prop :=
  entries.Pairwise (fun a b => key a ≤ key b)

variable {key : α -> κ}

theorem dueAt_cons_of_eq {t : κ} {a : α} {rest : List α} (h : key a = t) :
    dueAt key t (a :: rest) = a :: dueAt key t rest :=
  List.filter_cons_of_pos (decide_eq_true h)

theorem dueAt_cons_of_ne {t : κ} {a : α} {rest : List α} (h : key a ≠ t) :
    dueAt key t (a :: rest) = dueAt key t rest :=
  List.filter_cons_of_neg (by simpa using h)

/-!
## The stable sort
-/

theorem le_trans_key (a b c : α) :
    decide (key a ≤ key b) -> decide (key b ≤ key c) -> decide (key a ≤ key c) := by
  simp only [decide_eq_true_eq]
  exact le_trans

theorem le_total_key (a b : α) : decide (key a ≤ key b) || decide (key b ≤ key a) := by
  simp only [Bool.or_eq_true, decide_eq_true_eq]
  exact le_total (key a) (key b)

theorem sortByKey_perm (entries : List α) : (sortByKey key entries).Perm entries :=
  List.mergeSort_perm entries _

theorem sortByKey_sorted (entries : List α) : SortedBy key (sortByKey key entries) := by
  have hpairwise : (entries.mergeSort (fun a b => decide (key a ≤ key b))).Pairwise
      (fun a b => decide (key a ≤ key b)) :=
    List.pairwise_mergeSort le_trans_key le_total_key entries
  exact hpairwise.imp (fun h => of_decide_eq_true h)

/-- Stability: the sort keeps the order of the entries of one key. -/
theorem dueAt_sortByKey (t : κ) (entries : List α) :
    dueAt key t (sortByKey key entries) = dueAt key t entries := by
  have hequal : (dueAt key t entries).Pairwise (fun a b => decide (key a ≤ key b)) := by
    rw [List.pairwise_iff_forall_sublist]
    intro a b hab
    have ha : a ∈ dueAt key t entries := hab.subset (by simp)
    have hb : b ∈ dueAt key t entries := hab.subset (by simp)
    unfold dueAt at ha hb
    rw [List.mem_filter, decide_eq_true_eq] at ha hb
    rw [decide_eq_true_eq, ha.right, hb.right]
  have hsublist : (dueAt key t entries).Sublist (sortByKey key entries) :=
    List.sublist_mergeSort le_trans_key le_total_key hequal List.filter_sublist
  have hfiltered : (dueAt key t entries).Sublist (dueAt key t (sortByKey key entries)) := by
    have h := hsublist.filter (fun a => decide (key a = t))
    unfold dueAt at h
    rw [List.filter_filter] at h
    simp only [Bool.and_self] at h
    exact h
  exact (hfiltered.eq_of_length
    ((sortByKey_perm entries).filter (fun a => decide (key a = t))).length_eq.symm).symm

/-!
## Sorted agendas
-/

theorem mem_of_mem_dueAt {t : κ} {entries : List α} {a : α} (h : a ∈ dueAt key t entries) :
    a ∈ entries ∧ key a = t := by
  unfold dueAt at h
  rw [List.mem_filter, decide_eq_true_eq] at h
  exact h

theorem mem_dueAt_key {entries : List α} {a : α} (h : a ∈ entries) :
    a ∈ dueAt key (key a) entries := by
  unfold dueAt
  rw [List.mem_filter]
  exact ⟨h, decide_eq_true rfl⟩

namespace SameAgenda

variable {left right : List α}

theorem symm (h : SameAgenda key left right) : SameAgenda key right left :=
  fun t => (h t).symm

theorem mem (h : SameAgenda key left right) {a : α} (ha : a ∈ left) : a ∈ right := by
  have hdue : a ∈ dueAt key (key a) left := mem_dueAt_key ha
  rw [h (key a)] at hdue
  exact (mem_of_mem_dueAt hdue).left

theorem swap {a b : α} (h : key a ≠ key b) (rest : List α) :
    SameAgenda key (a :: b :: rest) (b :: a :: rest) := by
  intro t
  by_cases ha : key a = t
  · have hb : key b ≠ t := fun hb => h (ha.trans hb.symm)
    rw [dueAt_cons_of_eq ha, dueAt_cons_of_ne hb, dueAt_cons_of_ne hb, dueAt_cons_of_eq ha]
  · by_cases hb : key b = t
    · rw [dueAt_cons_of_ne ha, dueAt_cons_of_eq hb, dueAt_cons_of_eq hb, dueAt_cons_of_ne ha]
    · rw [dueAt_cons_of_ne ha, dueAt_cons_of_ne hb, dueAt_cons_of_ne hb, dueAt_cons_of_ne ha]

theorem head_eq {a b : α} {rest rest' : List α}
    (h : SameAgenda key (a :: rest) (b :: rest')) (hleft : SortedBy key (a :: rest))
    (hright : SortedBy key (b :: rest')) : a = b := by
  have hab : key a ≤ key b := by
    rcases List.mem_cons.mp (h.symm.mem List.mem_cons_self) with hb | hb
    · rw [hb]
    · exact List.rel_of_pairwise_cons hleft hb
  have hba : key b ≤ key a := by
    rcases List.mem_cons.mp (h.mem List.mem_cons_self) with ha | ha
    · rw [ha]
    · exact List.rel_of_pairwise_cons hright ha
  have hkey : key b = key a := le_antisymm hba hab
  have hdue := h (key a)
  rw [dueAt_cons_of_eq rfl, dueAt_cons_of_eq hkey] at hdue
  exact (List.cons.inj hdue).left

theorem tail {a : α} {rest rest' : List α} (h : SameAgenda key (a :: rest) (a :: rest')) :
    SameAgenda key rest rest' := by
  intro t
  have hdue := h t
  by_cases hkey : key a = t
  · rw [dueAt_cons_of_eq hkey, dueAt_cons_of_eq hkey] at hdue
    exact (List.cons.inj hdue).right
  · rw [dueAt_cons_of_ne hkey, dueAt_cons_of_ne hkey] at hdue
    exact hdue

/-- A sorted agenda is determined by what is due at each key. -/
theorem eq_of_sorted (h : SameAgenda key left right) (hleft : SortedBy key left)
    (hright : SortedBy key right) : left = right := by
  induction left generalizing right with
  | nil =>
      cases right with
      | nil => rfl
      | cons b rest' => cases h.symm.mem List.mem_cons_self
  | cons a rest ih =>
      cases right with
      | nil => cases h.mem List.mem_cons_self
      | cons b rest' =>
          have hhead : a = b := h.head_eq hleft hright
          subst hhead
          rw [ih h.tail (List.Pairwise.of_cons hleft) (List.Pairwise.of_cons hright)]

theorem sortByKey_eq (h : SameAgenda key left right) :
    sortByKey key left = sortByKey key right := by
  have hsorted : SameAgenda key (sortByKey key left) (sortByKey key right) := by
    intro t
    rw [dueAt_sortByKey, dueAt_sortByKey, h t]
  exact hsorted.eq_of_sorted (sortByKey_sorted left) (sortByKey_sorted right)

end SameAgenda

/-!
## Splitting off the entries of one key
-/

theorem dueFrom_of_forall_le {t : κ} {entries : List α}
    (h : forall a : α, a ∈ entries -> t ≤ key a) : dueFrom key t entries = entries :=
  List.filter_eq_self.mpr (fun a ha => decide_eq_true (h a ha))

theorem lt_of_mem_dueAfter {t : κ} {entries : List α} {a : α}
    (h : a ∈ dueAfter key t entries) : t < key a := by
  unfold dueAfter at h
  rw [List.mem_filter, decide_eq_true_eq] at h
  exact h.right

theorem dueFrom_eq_append {t : κ} {entries : List α} (h : SortedBy key entries) :
    dueFrom key t entries = dueAt key t entries ++ dueAfter key t entries := by
  unfold dueFrom dueAt dueAfter
  induction entries with
  | nil => rfl
  | cons a rest ih =>
      have hrest := ih (List.Pairwise.of_cons h)
      rcases lt_trichotomy (key a) t with hlt | heq | hgt
      · rw [List.filter_cons_of_neg (by simpa using hlt),
          List.filter_cons_of_neg (by simpa using ne_of_lt hlt),
          List.filter_cons_of_neg (by simpa using le_of_lt hlt), hrest]
      · rw [List.filter_cons_of_pos (by simpa using le_of_eq heq.symm),
          List.filter_cons_of_pos (by simpa using heq),
          List.filter_cons_of_neg (by simpa using le_of_eq heq), hrest, List.cons_append]
      · -- nothing behind `a` is due at `t`
        have hnone : (a :: rest).filter (fun b => decide (key b = t)) = [] := by
          rw [List.filter_eq_nil_iff]
          intro b hb
          rw [decide_eq_true_eq]
          rcases List.mem_cons.mp hb with hhead | htail
          · rw [hhead]
            exact ne_of_gt hgt
          · exact ne_of_gt (lt_of_lt_of_le hgt (List.rel_of_pairwise_cons h htail))
        rw [hnone, List.nil_append]
        apply List.filter_congr
        intro b hb
        have hlater : t < key b := by
          rcases List.mem_cons.mp hb with hhead | htail
          · rw [hhead]
            exact hgt
          · exact lt_of_lt_of_le hgt (List.rel_of_pairwise_cons h htail)
        rw [decide_eq_true hlater, decide_eq_true (le_of_lt hlater)]

/-!
## Turns
-/

section Turns

variable {turn : α -> Nat}

theorem dueAfter_eq_dueFrom (t : Nat) (entries : List α) :
    dueAfter turn t entries = dueFrom turn (t + 1) entries := rfl

/-- The entries of the first turns, one turn after the other, are the ones that are
due before the end of these turns, each as often as it stands in the agenda. -/
theorem flatMap_dueAt_perm (n : Nat) (entries : List α) :
    ((List.range n).flatMap (fun t => dueAt turn t entries)).Perm
      (entries.filter (fun a => decide (turn a < n))) := by
  induction n with
  | zero => simp
  | succ n ih =>
      have hsplit := List.filter_append_perm (fun a => decide (turn a < n))
        (entries.filter (fun a => decide (turn a < n + 1)))
      have hbefore : (entries.filter (fun a => decide (turn a < n + 1))).filter
          (fun a => decide (turn a < n)) = entries.filter (fun a => decide (turn a < n)) := by
        rw [List.filter_filter]
        apply List.filter_congr
        intro a _
        rw [Bool.eq_iff_iff, Bool.and_eq_true, decide_eq_true_eq, decide_eq_true_eq]
        omega
      have hlast : (entries.filter (fun a => decide (turn a < n + 1))).filter
          (fun a => !decide (turn a < n)) = dueAt turn n entries := by
        unfold dueAt
        rw [List.filter_filter]
        apply List.filter_congr
        intro a _
        rw [Bool.eq_iff_iff, Bool.and_eq_true, Bool.not_eq_true', decide_eq_false_iff_not,
          decide_eq_true_eq, decide_eq_true_eq]
        omega
      rw [hbefore, hlast] at hsplit
      rw [List.range_succ, List.flatMap_append, List.flatMap_singleton]
      exact (ih.append_right (dueAt turn n entries)).trans hsplit

end Turns

end Foundation
