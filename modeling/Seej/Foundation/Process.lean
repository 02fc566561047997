import Mathlib.Data.List.Basic

/-!
# Processes that may be stopped

A process works on a state until it returns a value or is stopped: it gives up with an
error, it panics, or it is killed from outside.  Whatever stops it, its last state is
what the next process finds.  A triple promises a state for a return and one for every
stop, and has one rule for each way of building a process.
-/

namespace Foundation

/-- What stops a process before it returns. -/
inductive Stop (ε π : Type) where
  | failed (error : ε)
  | panicked (site : π)
  | killed
deriving DecidableEq

inductive Ended (ε π α : Type) where
  | returned (value : α)
  | stopped (stop : Stop ε π)
deriving DecidableEq

def Ended.value {ε π α : Type} : Ended ε π α -> Option α
  | .returned value => some value
  | .stopped _ => none

def Process (σ ε π α : Type) : Type :=
  σ -> Ended ε π α × σ

variable {σ ε ε' π α β : Type}

def Stop.mapError (f : ε -> ε') : Stop ε π -> Stop ε' π
  | .failed error => .failed (f error)
  | .panicked site => .panicked site
  | .killed => .killed

namespace Process

/-!
## Building processes
-/

def ret (value : α) : Process σ ε π α :=
  fun state => (.returned value, state)

def stop (reason : Stop ε π) : Process σ ε π α :=
  fun state => (.stopped reason, state)

def andThen (first : Process σ ε π α) (next : α -> Process σ ε π β) : Process σ ε π β :=
  fun state =>
    match first state with
    | (.returned value, state) => next value state
    | (.stopped reason, state) => (.stopped reason, state)

instance : Monad (Process σ ε π) where
  pure := ret
  bind := andThen

def read (view : σ -> α) : Process σ ε π α :=
  fun state => (.returned (view state), state)

def orPanic (site : π) : Option α -> Process σ ε π α
  | some value => ret value
  | none => stop (.panicked site)

def mapError (f : ε -> ε') (process : Process σ ε π α) : Process σ ε' π α :=
  fun state =>
    match process state with
    | (.returned value, state) => (.returned value, state)
    | (.stopped reason, state) => (.stopped (reason.mapError f), state)

/-- A loop that goes on as long as its body asks for it, but at most for the given number
of passes. -/
def loop (body : β -> Process σ ε π (β ⊕ α)) (interrupted : β -> α) :
    Nat -> β -> Process σ ε π α
  | 0, local_ => ret (interrupted local_)
  | passes + 1, local_ => do
      match <- body local_ with
      | .inl local_ => loop body interrupted passes local_
      | .inr value => ret value

/-- A loop over the numbers from `start` on. -/
def forRange (body : Nat -> Process σ ε π Unit) (start : Nat) : Nat -> Process σ ε π Unit
  | 0 => ret ()
  | count + 1 => do
      body start
      forRange body (start + 1) count

end Process

/-!
## Triples
-/

def Ended.Meets (returns : α -> σ -> Prop) (stops : Stop ε π -> σ -> Prop) :
    Ended ε π α × σ -> Prop
  | (.returned value, state) => returns value state
  | (.stopped reason, state) => stops reason state

theorem Ended.Meets.weaken {returns returns' : α -> σ -> Prop}
    {stops stops' : Stop ε π -> σ -> Prop} {result : Ended ε π α × σ}
    (h : Ended.Meets returns stops result)
    (hreturns : forall (value : α) (state : σ), returns value state -> returns' value state)
    (hstops : forall (reason : Stop ε π) (state : σ), stops reason state -> stops' reason state) :
    Ended.Meets returns' stops' result := by
  rcases result with ⟨ended, state⟩
  cases ended with
  | returned value => exact hreturns value state h
  | stopped reason => exact hstops reason state h

/-- From every state that meets the first condition, the process ends as promised. -/
structure Triple (before : σ -> Prop) (process : Process σ ε π α) (returns : α -> σ -> Prop)
    (stops : Stop ε π -> σ -> Prop) : Prop where
  meets : forall state : σ, before state -> Ended.Meets returns stops (process state)

namespace Triple

variable {before : σ -> Prop} {returns : α -> σ -> Prop} {stops : Stop ε π -> σ -> Prop}

theorem returned {process : Process σ ε π α} (h : Triple before process returns stops)
    {state final : σ} {value : α} (hbefore : before state)
    (hrun : process state = (.returned value, final)) : returns value final := by
  have hend := h.meets state hbefore
  rw [hrun] at hend
  exact hend

theorem stopped {process : Process σ ε π α} (h : Triple before process returns stops)
    {state final : σ} {reason : Stop ε π} (hbefore : before state)
    (hrun : process state = (.stopped reason, final)) : stops reason final := by
  have hend := h.meets state hbefore
  rw [hrun] at hend
  exact hend

theorem ret {value : α} (h : forall state : σ, before state -> returns value state) :
    Triple before (Process.ret value) returns stops :=
  ⟨h⟩

theorem stop {reason : Stop ε π} (h : forall state : σ, before state -> stops reason state) :
    Triple before (Process.stop reason : Process σ ε π α) returns stops :=
  ⟨h⟩

theorem bind {first : Process σ ε π α} {next : α -> Process σ ε π β}
    {returns : β -> σ -> Prop} (middle : α -> σ -> Prop)
    (hfirst : Triple before first middle stops)
    (hnext : forall value : α, Triple (middle value) (next value) returns stops) :
    Triple before (first >>= next) returns stops := by
  constructor
  intro state hbefore
  have hmiddle := hfirst.meets state hbefore
  show Ended.Meets returns stops (Process.andThen first next state)
  unfold Process.andThen
  revert hmiddle
  rcases first state with ⟨ended, later⟩
  intro hmiddle
  cases ended with
  | returned value => exact (hnext value).meets later hmiddle
  | stopped reason => exact hmiddle

theorem weaken {process : Process σ ε π α} {before' : σ -> Prop} {returns' : α -> σ -> Prop}
    {stops' : Stop ε π -> σ -> Prop} (h : Triple before process returns stops)
    (hbefore : forall state : σ, before' state -> before state)
    (hreturns : forall (value : α) (state : σ), returns value state -> returns' value state)
    (hstops : forall (reason : Stop ε π) (state : σ), stops reason state -> stops' reason state) :
    Triple before' process returns' stops' := by
  constructor
  intro state hstate
  exact (h.meets state (hbefore state hstate)).weaken hreturns hstops

theorem exists_before {ι : Type} {before : ι -> σ -> Prop} {process : Process σ ε π α}
    (h : forall i : ι, Triple (before i) process returns stops) :
    Triple (fun state => exists i : ι, before i state) process returns stops := by
  constructor
  rintro state ⟨i, hbefore⟩
  exact (h i).meets state hbefore

theorem read {view : σ -> α}
    (h : forall state : σ, before state -> returns (view state) state) :
    Triple before (Process.read view) returns stops :=
  ⟨h⟩

theorem orPanic {site : π} {value : Option α}
    (hsome : forall a : α, value = some a -> forall state : σ, before state -> returns a state)
    (hnone : value = none -> forall state : σ, before state -> stops (.panicked site) state) :
    Triple before (Process.orPanic site value) returns stops := by
  cases value with
  | some a => exact Triple.ret (hsome a rfl)
  | none => exact Triple.stop (hnone rfl)

theorem mapError {f : ε -> ε'} {process : Process σ ε π α} {stops : Stop ε' π -> σ -> Prop}
    (h : Triple before process returns fun reason => stops (reason.mapError f)) :
    Triple before (process.mapError f) returns stops := by
  constructor
  intro state hbefore
  have hend := h.meets state hbefore
  unfold Process.mapError
  revert hend
  rcases process state with ⟨ended, later⟩
  intro hend
  cases ended with
  | returned value => exact hend
  | stopped reason => exact hend

/-- An invariant of the body, which may count the passes that are left, is one of the
loop. -/
theorem loop {body : β -> Process σ ε π (β ⊕ α)} {interrupted : β -> α}
    (invariant : Nat -> β -> σ -> Prop)
    (hbody : forall (left : Nat) (local_ : β), Triple (invariant (left + 1) local_) (body local_)
      (fun next => next.elim (invariant left) returns) stops)
    (hend : forall (local_ : β) (state : σ), invariant 0 local_ state ->
      returns (interrupted local_) state)
    (passes : Nat) (local_ : β) :
    Triple (invariant passes local_) (Process.loop body interrupted passes local_) returns
      stops := by
  induction passes generalizing local_ with
  | zero => exact Triple.ret (hend local_)
  | succ passes ih =>
      rw [Process.loop]
      refine Triple.bind _ (hbody passes local_) ?_
      intro next
      cases next with
      | inl next => exact ih next
      | inr value => exact Triple.ret fun _ h => h

theorem forRange {body : Nat -> Process σ ε π Unit} {invariant : Nat -> σ -> Prop}
    {start count : Nat}
    (hbody : forall i : Nat, start ≤ i -> i < start + count ->
      Triple (invariant i) (body i) (fun _ => invariant (i + 1)) stops) :
    Triple (invariant start) (Process.forRange body start count)
      (fun _ => invariant (start + count)) stops := by
  induction count generalizing start with
  | zero => exact Triple.ret fun _ h => h
  | succ count ih =>
      rw [Process.forRange]
      refine Triple.bind _ (hbody start (Nat.le_refl _) ?_) ?_
      · exact Nat.lt_add_of_pos_right (Nat.succ_pos count)
      · intro _
        have hrest := @ih (start + 1) fun i hle hlt =>
          hbody i (Nat.le_of_succ_le hle) (by rw [Nat.add_succ, ← Nat.succ_add]; exact hlt)
        rw [Nat.succ_add] at hrest
        exact hrest

end Triple

end Foundation
