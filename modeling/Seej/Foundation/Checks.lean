import Mathlib.Data.List.Basic

/-!
# Checks that stop at the first failure

Validation code is a sequence of guards and loops over collections, each of
which returns early with an error.  One lemma for each shape turns the success of
a check into the condition it checks.
-/

namespace Foundation

variable {ε α β : Type}

def ensure (condition : Prop) [Decidable condition] (failure : ε) : Except ε Unit :=
  if condition then .ok () else .error failure

def checkAll (check : α -> Except ε Unit) : List α -> Except ε Unit
  | [] => .ok ()
  | a :: rest => do
      check a
      checkAll check rest

theorem bind_eq_ok {x : Except ε α} {f : α -> Except ε β} {b : β} :
    x >>= f = .ok b <-> exists a : α, x = .ok a ∧ f a = .ok b := by
  cases x with
  | error e => simp [bind, Except.bind]
  | ok a => simp [bind, Except.bind]

theorem bind_eq_error {x : Except ε α} {f : α -> Except ε β} {e : ε} :
    x >>= f = .error e <->
      x = .error e ∨ exists a : α, x = .ok a ∧ f a = .error e := by
  cases x with
  | error e' => simp [bind, Except.bind]
  | ok a => simp [bind, Except.bind]

theorem exists_unit {P : Unit -> Prop} : (exists u : Unit, P u) <-> P () := by
  constructor
  · intro h
    rcases h with ⟨_, hP⟩
    exact hP
  · intro h
    exact ⟨(), h⟩

theorem check_bind_eq_ok {x : Except ε Unit} {f : Unit -> Except ε β} {b : β} :
    x >>= f = .ok b <-> x = .ok () ∧ f () = .ok b := by
  rw [bind_eq_ok, exists_unit]

theorem ensure_eq_ok {condition : Prop} [Decidable condition] {failure : ε} :
    ensure condition failure = .ok () <-> condition := by
  unfold ensure
  by_cases h : condition
  · simp [h]
  · simp [h]

theorem checkAll_eq_ok {check : α -> Except ε Unit} {items : List α} :
    checkAll check items = .ok () <-> forall a : α, a ∈ items -> check a = .ok () := by
  induction items with
  | nil => simp [checkAll]
  | cons a rest ih =>
      rw [checkAll, check_bind_eq_ok, ih, List.forall_mem_cons]

end Foundation
