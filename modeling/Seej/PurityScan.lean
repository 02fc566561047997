import Seej.PurityGate

/-!
# The loop of the purity gate

The scanner moves on with every turn, changes nothing behind its cursor, and looks
only at what lies ahead.  Whatever the text is, characters are kept or blanked and
no line break changes.
-/

namespace Seej

namespace PurityGate

/-!
## Progress
-/

theorem findLoop_ge {pattern text : List Char} {cursor stop : Nat}
    (h : findLoop pattern text cursor = some stop) : cursor ≤ stop := by
  induction text generalizing cursor with
  | nil =>
      unfold findLoop at h
      split at h
      · cases h
        exact Nat.le_refl _
      · cases h
  | cons c rest ih =>
      unfold findLoop at h
      split at h
      · cases h
        exact Nat.le_refl _
      · have hle := ih h
        omega

theorem quotedLoop_ge (text : List Char) (cursor : Nat) : cursor ≤ quotedLoop text cursor := by
  fun_induction quotedLoop text cursor with
  | case1 => exact Nat.le_refl _
  | case2 => omega
  | case3 => omega
  | case4 => omega
  | case5 => omega

theorem blockLoop_ge (text : List Char) (depth cursor : Nat) :
    cursor ≤ blockLoop text depth cursor := by
  fun_induction blockLoop text depth cursor with
  | case1 => exact Nat.le_refl _
  | case2 => exact Nat.le_refl _
  | case3 => omega
  | case4 => omega
  | case5 => omega

theorem rawBodyEnd_gt {source : List Char} {cursor stop : Nat}
    (h : rawBodyEnd source cursor = some stop) : cursor < stop := by
  unfold rawBodyEnd at h
  simp only at h
  split at h
  · case isTrue hquote =>
      have hlt := (List.getElem?_eq_some_iff.mp hquote).1
      split at h
      · cases h
        omega
      · case h_2 endIndex hfind =>
          cases h
          have hge := findLoop_ge hfind
          omega
  · cases h

theorem rawStringEnd_gt {source : List Char} {cursor stop : Nat}
    (h : rawStringEnd source cursor = some stop) : cursor < stop := by
  unfold rawStringEnd at h
  split at h
  · have hgt := rawBodyEnd_gt h
    omega
  · split at h
    · have hgt := rawBodyEnd_gt h
      omega
    · cases h

theorem maskedEnd_gt {source : List Char} {cursor stop : Nat} (hcursor : cursor < source.length)
    (h : maskedEnd source cursor = some stop) : cursor < stop := by
  unfold maskedEnd at h
  split at h
  · case h_1 rawEnd hraw =>
      cases h
      exact rawStringEnd_gt hraw
  · split at h
    · case isTrue hslashes =>
        cases h
        cases hfind : find source ['\n'] cursor with
        | none => exact hcursor
        | some stop =>
            -- the line break is not the slash under the cursor
            unfold find at hfind
            unfold startsWith at hslashes
            rw [List.isPrefixOf_iff_prefix] at hslashes
            rcases hslashes with ⟨rest, hrest⟩
            rw [← hrest] at hfind
            rw [List.cons_append, findLoop, if_neg (by simp [List.isPrefixOf])] at hfind
            exact findLoop_ge hfind
    · split at h
      · cases h
        have hge := blockLoop_ge (source.drop (cursor + 2)) 1 (cursor + 2)
        unfold blockCommentEnd
        omega
      · split at h
        · cases h
          exact quotedLoop_ge (source.drop (cursor + 1)) (cursor + 1)
        · split at h
          · cases h
            have hge := quotedLoop_ge (source.drop (cursor + 1 + 1)) (cursor + 1 + 1)
            unfold quotedStringEnd
            omega
          · cases h

/-- More turns than characters ahead change nothing. -/
theorem maskLoop_fuel {source : List Char} (fuel extra : Nat) (chars : List Char) (cursor : Nat)
    (h : source.length ≤ cursor + fuel) :
    maskLoop source (fuel + extra) chars cursor = maskLoop source fuel chars cursor := by
  induction fuel generalizing chars cursor with
  | zero =>
      cases extra with
      | zero => rfl
      | succ extra =>
          have hcursor : ¬ cursor < source.length := by omega
          show maskLoop source (0 + extra + 1) chars cursor = chars
          rw [maskLoop, if_neg hcursor]
  | succ fuel ih =>
      rw [Nat.succ_add, maskLoop, maskLoop]
      by_cases hcursor : cursor < source.length
      · rw [if_pos hcursor, if_pos hcursor]
        cases hend : maskedEnd source cursor with
        | none => exact ih chars (cursor + 1) (by omega)
        | some stop =>
            have hgt := maskedEnd_gt hcursor hend
            exact ih (maskPreserveNewlines chars cursor stop) stop (by omega)
      · rw [if_neg hcursor, if_neg hcursor]

/-!
## The loop without a bound
-/

def maskFrom (source chars : List Char) (cursor : Nat) : List Char :=
  maskLoop source source.length chars cursor

theorem maskCommentsAndLiterals_eq (source : List Char) :
    maskCommentsAndLiterals source = maskFrom source source 0 := rfl

theorem maskFrom_end {source chars : List Char} {cursor : Nat} (h : source.length ≤ cursor) :
    maskFrom source chars cursor = chars := by
  have hfuel := maskLoop_fuel 0 source.length chars cursor h
  rw [Nat.zero_add] at hfuel
  exact hfuel

theorem maskFrom_step {source chars : List Char} {cursor : Nat} (h : cursor < source.length) :
    maskFrom source chars cursor =
      match maskedEnd source cursor with
      | some stop => maskFrom source (maskPreserveNewlines chars cursor stop) stop
      | none => maskFrom source chars (cursor + 1) := by
  unfold maskFrom
  have hfuel : maskLoop source (source.length + 1) chars cursor =
      maskLoop source source.length chars cursor :=
    maskLoop_fuel source.length 1 chars cursor (by omega)
  cases hend : maskedEnd source cursor with
  | none => rw [← hfuel, maskLoop, if_pos h, hend]
  | some stop => rw [← hfuel, maskLoop, if_pos h, hend]

theorem maskFrom_masked {source chars : List Char} {cursor stop : Nat}
    (h : cursor < source.length) (hend : maskedEnd source cursor = some stop) :
    maskFrom source chars cursor =
      maskFrom source (maskPreserveNewlines chars cursor stop) stop := by
  rw [maskFrom_step h, hend]

theorem maskFrom_code {source chars : List Char} {cursor : Nat}
    (h : cursor < source.length) (hend : maskedEnd source cursor = none) :
    maskFrom source chars cursor = maskFrom source chars (cursor + 1) := by
  rw [maskFrom_step h, hend]

theorem maskFrom_invariant {P : Nat -> List Char -> Prop}
    (hcode : forall (chars : List Char) (cursor : Nat), P cursor chars -> P (cursor + 1) chars)
    (hmasked : forall (chars : List Char) (cursor stop : Nat), cursor < stop ->
      P cursor chars -> P stop (maskPreserveNewlines chars cursor stop))
    (source : List Char) {chars : List Char} {cursor : Nat} (h : P cursor chars) :
    exists stop : Nat, P stop (maskFrom source chars cursor) := by
  unfold maskFrom
  generalize source.length = fuel
  induction fuel generalizing chars cursor with
  | zero => exact ⟨cursor, h⟩
  | succ fuel ih =>
      rw [maskLoop]
      by_cases hcursor : cursor < source.length
      · rw [if_pos hcursor]
        cases hend : maskedEnd source cursor with
        | none => exact ih (hcode chars cursor h)
        | some stop => exact ih (hmasked chars cursor stop (maskedEnd_gt hcursor hend) h)
      · rw [if_neg hcursor]
        exact ⟨cursor, h⟩

/-!
## What the loop keeps
-/

theorem blank_blank (c : Char) : blank (blank c) = blank c := by
  by_cases h : isLineBreak c = true
  · have hsame : blank c = c := if_pos h
    rw [hsame, hsame]
  · have hspace : blank c = ' ' := if_neg h
    rw [hspace]
    rfl

theorem maskPreserveNewlines_append (out stretch rest : List Char) :
    maskPreserveNewlines (out ++ (stretch ++ rest)) out.length (out.length + stretch.length) =
      out ++ (stretch.map blank ++ rest) := by
  have htake : (out ++ (stretch ++ rest)).take (out.length + stretch.length) = out ++ stretch := by
    rw [← List.append_assoc, ← List.length_append, List.take_left]
  have hdrop : (out ++ (stretch ++ rest)).drop (out.length + stretch.length) = rest := by
    rw [← List.append_assoc, ← List.length_append, List.drop_left]
  unfold maskPreserveNewlines
  rw [htake, hdrop, List.take_left, List.drop_left, List.append_assoc]

theorem maskPreserveNewlines_getElem?_of_lt (chars : List Char) {start stop i : Nat}
    (hi : i < start) (hle : start ≤ stop) :
    (maskPreserveNewlines chars start stop)[i]? = chars[i]? := by
  unfold maskPreserveNewlines
  by_cases hlength : i < chars.length
  · have hin : i < (chars.take start).length := by
      rw [List.length_take]
      omega
    rw [List.append_assoc, List.getElem?_append_left hin, List.getElem?_take_of_lt hi]
  · have hout : (chars.take start ++ ((chars.take stop).drop start).map blank ++
        chars.drop stop).length ≤ i := by
      simp only [List.length_append, List.length_map, List.length_take, List.length_drop]
      omega
    rw [List.getElem?_eq_none hout, List.getElem?_eq_none (by omega)]

theorem maskFrom_getElem?_of_lt (source chars : List Char) {cursor i : Nat} (hi : i < cursor) :
    (maskFrom source chars cursor)[i]? = chars[i]? := by
  have hkept := maskFrom_invariant
    (P := fun reached later => i < reached ∧ later[i]? = chars[i]?)
    (fun later reached h => ⟨Nat.lt_succ_of_lt h.left, h.right⟩)
    (fun later reached stop hlt h => ⟨Nat.lt_trans h.left hlt, by
      rw [maskPreserveNewlines_getElem?_of_lt later h.left (Nat.le_of_lt hlt), h.right]⟩)
    source ⟨hi, rfl⟩
  rcases hkept with ⟨stop, _, hsame⟩
  exact hsame

def KeptOrBlanked (c d : Char) : Prop := d = c ∨ d = blank c

theorem KeptOrBlanked.blank_right {c d : Char} (h : KeptOrBlanked c d) :
    KeptOrBlanked c (blank d) := by
  rcases h with h | h
  · exact Or.inr (by rw [h])
  · exact Or.inr (by rw [h, blank_blank])

theorem take_append_stretch_append_drop (chars : List Char) {start stop : Nat}
    (hle : start ≤ stop) :
    chars.take start ++ (chars.take stop).drop start ++ chars.drop stop = chars := by
  have htake : chars.take start = (chars.take stop).take start := by
    rw [List.take_take, Nat.min_eq_left hle]
  rw [htake, List.take_append_drop, List.take_append_drop]

theorem forall₂_maskPreserveNewlines {source chars : List Char} {start stop : Nat}
    (hle : start ≤ stop) (h : List.Forall₂ KeptOrBlanked source chars) :
    List.Forall₂ KeptOrBlanked source (maskPreserveNewlines chars start stop) := by
  have hbefore := List.forall₂_take start h
  have hstretch : List.Forall₂ KeptOrBlanked ((source.take stop).drop start)
      (((chars.take stop).drop start).map blank) := by
    rw [List.forall₂_map_right_iff]
    exact (List.forall₂_drop start (List.forall₂_take stop h)).imp
      (fun _ _ hkept => hkept.blank_right)
  have hafter := List.forall₂_drop stop h
  rw [← take_append_stretch_append_drop source hle]
  exact List.rel_append (List.rel_append hbefore hstretch) hafter

/-- Whatever the text is, every character is kept or blanked. -/
theorem maskCommentsAndLiterals_kept (source : List Char) :
    List.Forall₂ KeptOrBlanked source (maskCommentsAndLiterals source) := by
  have hstart : List.Forall₂ KeptOrBlanked source source :=
    List.forall₂_same.mpr (fun _ _ => Or.inl rfl)
  have hkept : exists stop : Nat,
      (fun _ chars => List.Forall₂ KeptOrBlanked source chars) stop (maskFrom source source 0) :=
    maskFrom_invariant (P := fun (_ : Nat) chars => List.Forall₂ KeptOrBlanked source chars)
      (fun _ _ h => h)
      (fun _ _ _ hlt h => forall₂_maskPreserveNewlines (Nat.le_of_lt hlt) h) source hstart
  rcases hkept with ⟨_, h⟩
  exact h

end PurityGate

end Seej
