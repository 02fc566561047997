import Mathlib.Data.List.Basic

/-!
# Ordered maps

Extensional ordered maps over a key type with a lawful comparison.  The library
lemmas are restated with equality of keys in place of the comparison, which is
the form that case splits on keys produce.
-/

namespace Foundation

abbrev BTreeMap (κ ν : Type) [Ord κ] : Type :=
  Std.ExtTreeMap κ ν compare

abbrev BTreeSet (κ : Type) [Ord κ] : Type :=
  Std.ExtTreeSet κ compare

namespace BTreeMap

section Iteration

variable {κ ν : Type} [Ord κ] [Std.TransOrd κ]

def values (m : BTreeMap κ ν) : List ν :=
  m.toList.map Prod.snd

theorem mem_iff (m : BTreeMap κ ν) (k : κ) :
    k ∈ m <-> exists v : ν, m[k]? = some v := by
  rw [Std.ExtTreeMap.mem_iff_isSome_getElem?, Option.isSome_iff_exists]

theorem mem_values [Std.LawfulEqOrd κ] (m : BTreeMap κ ν) (v : ν) :
    v ∈ values m <-> exists k : κ, m[k]? = some v := by
  unfold values
  constructor
  · intro h
    rcases List.mem_map.mp h with ⟨⟨k, w⟩, hmem, hw⟩
    subst hw
    exact ⟨k, Std.ExtTreeMap.mem_toList_iff_getElem?_eq_some.mp hmem⟩
  · intro h
    rcases h with ⟨k, hk⟩
    exact List.mem_map.mpr
      ⟨(k, v), Std.ExtTreeMap.mem_toList_iff_getElem?_eq_some.mpr hk, rfl⟩

theorem mem_keys_filter [Std.LawfulEqOrd κ] {m : BTreeMap κ ν} {key : ν -> κ}
    (hkey : forall (a : κ) (v : ν), m[a]? = some v -> key v = a) {p : ν -> Bool} {k : κ} :
    k ∈ ((values m).filter p).map key <-> exists v : ν, m[k]? = some v ∧ p v = true := by
  constructor
  · intro h
    rcases List.mem_map.mp h with ⟨v, hfilter, hk⟩
    rcases List.mem_filter.mp hfilter with ⟨hvalue, hp⟩
    rcases (mem_values m v).mp hvalue with ⟨a, ha⟩
    rw [← hk, hkey a v ha]
    exact ⟨v, ha, hp⟩
  · rintro ⟨v, hv, hp⟩
    have hmem : v ∈ (values m).filter p :=
      List.mem_filter.mpr ⟨(mem_values m v).mpr ⟨k, hv⟩, hp⟩
    rw [← hkey k v hv]
    exact List.mem_map_of_mem hmem

end Iteration

section Updates

variable {κ ν : Type} [Ord κ] [Std.TransOrd κ] [Std.LawfulEqOrd κ] [DecidableEq κ]

theorem getElem?_insert (m : BTreeMap κ ν) (k a : κ) (v : ν) :
    (m.insert k v)[a]? = if k = a then some v else m[a]? := by
  simp [Std.ExtTreeMap.getElem?_insert]

theorem getElem?_erase (m : BTreeMap κ ν) (k a : κ) :
    (m.erase k)[a]? = if k = a then none else m[a]? := by
  simp [Std.ExtTreeMap.getElem?_erase]

theorem getElem?_modify (m : BTreeMap κ ν) (k a : κ) (f : ν -> ν) :
    (m.modify k f)[a]? = if k = a then m[a]?.map f else m[a]? := by
  rw [Std.ExtTreeMap.getElem?_modify]
  by_cases h : k = a
  · simp [h]
  · simp [h]

omit [DecidableEq κ] in
theorem map_map_eq_self {μ : Type} (m : BTreeMap κ ν) (f : ν -> μ) (g : μ -> ν)
    (h : forall v : ν, g (f v) = v) :
    (m.map fun _ v => f v).map (fun _ v => g v) = m := by
  apply Std.ExtTreeMap.ext_getElem?
  intro k
  rw [Std.ExtTreeMap.getElem?_map, Std.ExtTreeMap.getElem?_map, Option.map_map]
  have hid : (fun v => g v) ∘ (fun v => f v) = id := funext h
  rw [hid, Option.map_id, id]

omit [DecidableEq κ] in
theorem toList_nodup_keys (m : BTreeMap κ ν) :
    m.toList.Pairwise (fun a b => a.1 ≠ b.1) := by
  apply Std.ExtTreeMap.distinct_keys_toList.imp
  intro a b hne heq
  exact hne (Std.LawfulEqCmp.compare_eq_iff_eq.mpr heq)

theorem erase_eq_filter (m : BTreeMap κ ν) (k : κ) :
    m.erase k = m.filter (fun a _ => decide (a ≠ k)) := by
  apply Std.ExtTreeMap.ext_getElem?
  intro a
  rw [getElem?_erase, Std.ExtTreeMap.getElem?_filter']
  by_cases h : k = a
  · simp [h]
  · rw [if_neg h]
    cases m[a]? with
    | none => rfl
    | some v => exact (if_pos (decide_eq_true (Ne.symm h))).symm

theorem values_erase {m : BTreeMap κ ν} {key : ν -> κ}
    (hkey : forall (a : κ) (v : ν), m[a]? = some v -> key v = a) (k : κ) :
    values (m.erase k) = (values m).filter (fun v => decide (key v ≠ k)) := by
  rw [erase_eq_filter, values, Std.ExtTreeMap.toList_filter, values, List.filter_map]
  congr 1
  apply List.filter_congr
  rintro ⟨a, v⟩ hmem
  have hv := hkey a v (Std.ExtTreeMap.mem_toList_iff_getElem?_eq_some.mp hmem)
  simp [hv]

end Updates

end BTreeMap

namespace BTreeSet

variable {κ : Type} [Ord κ] [Std.TransOrd κ] [Std.LawfulEqOrd κ]

theorem mem_insert (s : BTreeSet κ) (k a : κ) : a ∈ s.insert k <-> a = k ∨ a ∈ s := by
  rw [Std.ExtTreeSet.mem_insert, Std.LawfulEqCmp.compare_eq_iff_eq, eq_comm]

end BTreeSet

end Foundation
