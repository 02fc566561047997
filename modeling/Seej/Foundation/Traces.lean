import Mathlib.Data.List.Basic

/-!
# Traces

A trace is a list of what happened, first things first.  A condition on what comes
next holds of a concatenation if it holds of its parts.
-/

namespace Foundation

variable {α : Type}

theorem append_eq_append_cons {left right before after : List α} {x : α}
    (h : left ++ right = before ++ x :: after) :
    (exists tail : List α, left = before ++ x :: tail ∧ after = tail ++ right) ∨
      exists head : List α, before = left ++ head ∧ right = head ++ x :: after := by
  rcases List.append_eq_append_iff.mp h with ⟨gap, hbefore, hright⟩ | ⟨gap, hleft, hafter⟩
  · exact Or.inr ⟨gap, hbefore, hright⟩
  · cases gap with
    | nil => exact Or.inr ⟨[], by rw [hleft, List.append_nil, List.append_nil], hafter.symm⟩
    | cons head tail =>
        rw [List.cons_append, List.cons.injEq] at hafter
        rw [← hafter.left] at hleft
        exact Or.inl ⟨tail, hleft, hafter.right⟩

/-- What `next` asks for after an element follows it at once. -/
def Prompt (next : α -> Option α) (trace : List α) : Prop :=
  forall (before after : List α) (x y : α), trace = before ++ x :: after -> next x = some y ->
    exists later : List α, after = y :: later

namespace Prompt

variable {next : α -> Option α} {left right trace : List α} {x y : α}

theorem append (hleft : Prompt next left) (hright : Prompt next right) :
    Prompt next (left ++ right) := by
  intro before after x y htrace hnext
  rcases append_eq_append_cons htrace with ⟨tail, hin, hafter⟩ | ⟨head, _, hin⟩
  · rcases hleft before tail x y hin hnext with ⟨later, htail⟩
    exact ⟨later ++ right, by rw [hafter, htail, List.cons_append]⟩
  · exact hright head after x y hin hnext

theorem of_none (h : forall x : α, x ∈ trace -> next x = none) : Prompt next trace := by
  intro before after x y htrace hnext
  have hmem : x ∈ trace := by
    rw [htrace]
    exact List.mem_append_right _ List.mem_cons_self
  rw [h x hmem] at hnext
  cases hnext

theorem single (h : next x = none) : Prompt next [x] := by
  apply of_none
  intro z hmem
  rw [List.mem_singleton.mp hmem]
  exact h

theorem pair (hx : next x = some y) (hy : next y = none) : Prompt next [x, y] := by
  intro before after z w htrace hnext
  cases before with
  | nil =>
      rw [List.nil_append, List.cons.injEq] at htrace
      rw [← htrace.left, hx] at hnext
      cases hnext
      exact ⟨[], htrace.right.symm⟩
  | cons head tail =>
      rw [List.cons_append, List.cons.injEq] at htrace
      exact single hy tail after z w htrace.right hnext

end Prompt

end Foundation
