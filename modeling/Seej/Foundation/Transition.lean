import Mathlib.Data.List.Basic

/-!
# Runs of a step function

A component reads one input at a time, answers it and moves to its next state; a
step without a result stands for one that aborts.  The rules here reduce a
property of all runs to a property of one step: an invariant, an invariant that
grows with the outputs, and the simulation of one component by another.
-/

namespace Foundation

variable {σ τ ι ο : Type}

def run (step : σ -> ι -> Option (ο × σ)) : List ι -> σ -> Option (List ο × σ)
  | [], state => some ([], state)
  | input :: rest, state => do
      let (output, state) <- step state input
      let (outputs, state) <- run step rest state
      return (output :: outputs, state)

section Rules

variable {step : σ -> ι -> Option (ο × σ)}

theorem run_cons {input : ι} {rest : List ι} {state final : σ} {outputs : List ο} :
    run step (input :: rest) state = some (outputs, final) <->
      exists (output : ο) (middle : σ) (later : List ο),
        step state input = some (output, middle) ∧
          run step rest middle = some (later, final) ∧ outputs = output :: later := by
  rw [run]
  cases hstep : step state input with
  | none => simp
  | some first =>
      rcases first with ⟨output, middle⟩
      cases hrest : run step rest middle with
      | none => simp [hrest]
      | some second =>
          rcases second with ⟨later, last⟩
          simp only [hrest, bind, Option.bind, pure, Option.some.injEq, Prod.mk.injEq]
          constructor
          · rintro ⟨houtputs, hfinal⟩
            exact ⟨output, middle, later, ⟨rfl, rfl⟩,
              by rw [hrest, hfinal], houtputs.symm⟩
          · rintro ⟨output', middle', later', ⟨houtput, hmiddle⟩, hlater, houtputs⟩
            rw [← hmiddle, hrest, Option.some.injEq, Prod.mk.injEq] at hlater
            exact ⟨by rw [houtputs, houtput, hlater.left], hlater.right⟩

theorem run_append {left right : List ι} {state final : σ} {outputs : List ο} :
    run step (left ++ right) state = some (outputs, final) <->
      exists (middle : σ) (before after : List ο),
        run step left state = some (before, middle) ∧
          run step right middle = some (after, final) ∧ outputs = before ++ after := by
  induction left generalizing state outputs with
  | nil =>
      simp only [List.nil_append, run, Option.some.injEq, Prod.mk.injEq]
      constructor
      · intro h
        exact ⟨state, [], outputs, ⟨rfl, rfl⟩, h, rfl⟩
      · rintro ⟨middle, before, after, ⟨hbefore, hmiddle⟩, hafter, houtputs⟩
        rw [hmiddle, houtputs, ← hbefore]
        exact hafter
  | cons input rest ih =>
      rw [List.cons_append, run_cons]
      constructor
      · rintro ⟨output, next, later, hstep, hlater, houtputs⟩
        rcases ih.mp hlater with ⟨middle, before, after, hbefore, hafter, heq⟩
        refine ⟨middle, output :: before, after, ?_, hafter, ?_⟩
        · exact run_cons.mpr ⟨output, next, before, hstep, hbefore, rfl⟩
        · rw [houtputs, heq, List.cons_append]
      · rintro ⟨middle, before, after, hbefore, hafter, houtputs⟩
        rcases run_cons.mp hbefore with ⟨output, next, later, hstep, hlater, heq⟩
        refine ⟨output, next, later ++ after, hstep, ?_, ?_⟩
        · exact ih.mpr ⟨middle, later, after, hlater, hafter, rfl⟩
        · rw [houtputs, heq, List.cons_append]

/-- What every step keeps holds after every run. -/
theorem run_invariant {P : σ -> Prop}
    (hstep : forall (state next : σ) (input : ι) (output : ο),
      P state -> step state input = some (output, next) -> P next)
    {inputs : List ι} {state final : σ} {outputs : List ο}
    (hrun : run step inputs state = some (outputs, final)) (hstart : P state) : P final := by
  induction inputs generalizing state outputs with
  | nil =>
      cases hrun
      exact hstart
  | cons input rest ih =>
      rcases run_cons.mp hrun with ⟨output, middle, later, hfirst, hlater, _⟩
      exact ih hlater (hstep state middle input output hstart hfirst)

theorem run_invariant_of_mem {P : σ -> Prop} {condition : ι -> Prop}
    (hstep : forall (state next : σ) (input : ι) (output : ο),
      P state -> condition input -> step state input = some (output, next) -> P next)
    {inputs : List ι} {state final : σ} {outputs : List ο}
    (hrun : run step inputs state = some (outputs, final))
    (hinputs : forall input : ι, input ∈ inputs -> condition input) (hstart : P state) :
    P final := by
  induction inputs generalizing state outputs with
  | nil =>
      cases hrun
      exact hstart
  | cons input rest ih =>
      rcases run_cons.mp hrun with ⟨output, middle, later, hfirst, hlater, _⟩
      have hnext := hstep state middle input output hstart (hinputs input List.mem_cons_self)
        hfirst
      exact ih hlater (fun later hmem => hinputs later (List.mem_cons_of_mem _ hmem)) hnext

/-!
## Conditions along a run
-/

/-- The condition holds of every input at the state it is read in. -/
def Along (step : σ -> ι -> Option (ο × σ)) (condition : σ -> ι -> Prop) :
    List ι -> σ -> Prop
  | [], _ => True
  | input :: rest, state =>
      condition state input ∧
        forall (output : ο) (next : σ), step state input = some (output, next) ->
          Along step condition rest next

theorem Along.of_forall {condition : σ -> ι -> Prop}
    (h : forall (state : σ) (input : ι), condition state input) {inputs : List ι} {state : σ} :
    Along step condition inputs state := by
  induction inputs generalizing state with
  | nil => trivial
  | cons input rest ih => exact ⟨h state input, fun _ _ _ => ih⟩

theorem Along.of_mem {condition : σ -> ι -> Prop} {inputs : List ι} {state : σ}
    (h : forall input : ι, input ∈ inputs -> forall state : σ, condition state input) :
    Along step condition inputs state := by
  induction inputs generalizing state with
  | nil => trivial
  | cons input rest ih =>
      exact ⟨h input List.mem_cons_self state,
        fun _ _ _ => ih fun later hmem => h later (List.mem_cons_of_mem _ hmem)⟩

def checkAlong (step : σ -> ι -> Option (ο × σ)) (check : σ -> ι -> Bool) :
    List ι -> σ -> Bool
  | [], _ => true
  | input :: rest, state =>
      check state input &&
        match step state input with
        | none => true
        | some (_, next) => checkAlong step check rest next

theorem Along.of_check {check : σ -> ι -> Bool} {condition : σ -> ι -> Prop}
    (hcheck : forall (state : σ) (input : ι),
      check state input = true -> condition state input)
    {inputs : List ι} {state : σ} (h : checkAlong step check inputs state = true) :
    Along step condition inputs state := by
  induction inputs generalizing state with
  | nil => trivial
  | cons input rest ih =>
      rw [checkAlong, Bool.and_eq_true] at h
      refine ⟨hcheck state input h.left, ?_⟩
      intro output next hstep
      rw [hstep] at h
      exact ih h.right

theorem run_along {condition : σ -> ι -> Prop} {P : List ο -> σ -> Prop}
    (hstep : forall (before : List ο) (state next : σ) (input : ι) (output : ο),
      P before state -> condition state input -> step state input = some (output, next) ->
        P (before ++ [output]) next)
    {inputs : List ι} {state final : σ} {before outputs : List ο}
    (hrun : run step inputs state = some (outputs, final))
    (halong : Along step condition inputs state) (hstart : P before state) :
    P (before ++ outputs) final := by
  induction inputs generalizing state before outputs with
  | nil =>
      cases hrun
      rw [List.append_nil]
      exact hstart
  | cons input rest ih =>
      rcases run_cons.mp hrun with ⟨output, middle, later, hfirst, hlater, houtputs⟩
      have hnext := ih hlater (halong.right output middle hfirst)
        (hstep before state middle input output hstart halong.left hfirst)
      rw [houtputs, List.append_cons]
      exact hnext

/-- Two steps that abort together, or give the same output and related states. -/
inductive Agree (related : σ -> τ -> Prop) : Option (ο × σ) -> Option (ο × τ) -> Prop where
  | aborted : Agree related none none
  | stepped {output : ο} {state : σ} {other : τ} (h : related state other) :
      Agree related (some (output, state)) (some (output, other))

theorem Agree.of_eq {related : σ -> τ -> Prop} {left : ο × σ} {right : ο × τ}
    (houtput : left.1 = right.1) (hstate : related left.2 right.2) :
    Agree related (some left) (some right) := by
  rcases left with ⟨output, state⟩
  rcases right with ⟨output', other⟩
  cases houtput
  exact Agree.stepped hstate

/-- A component whose steps agree with those of another has the same outputs. -/
theorem run_simulation {other : τ -> ι -> Option (ο × τ)} {condition : τ -> ι -> Prop}
    {related : σ -> τ -> Prop}
    (hstep : forall (state : σ) (image : τ) (input : ι),
      related state image -> condition image input ->
        Agree related (step state input) (other image input))
    {inputs : List ι} {state : σ} {image : τ} (hstart : related state image)
    (halong : Along other condition inputs image) :
    Agree related (run step inputs state) (run other inputs image) := by
  induction inputs generalizing state image with
  | nil => exact Agree.stepped hstart
  | cons input rest ih =>
      have hfirst := hstep state image input hstart halong.left
      rw [run, run]
      cases hleft : step state input with
      | none =>
          rw [hleft] at hfirst
          cases hright : other image input with
          | none => exact Agree.aborted
          | some result =>
              rw [hright] at hfirst
              cases hfirst
      | some result =>
          rw [hleft] at hfirst
          cases hright : other image input with
          | none =>
              rw [hright] at hfirst
              cases hfirst
          | some result' =>
              rw [hright] at hfirst
              cases hfirst with
              | stepped h =>
                  have hlater := ih h (halong.right _ _ hright)
                  simp only [bind, Option.bind, pure]
                  revert hlater
                  generalize run step rest _ = x
                  generalize run other rest _ = y
                  intro hlater
                  cases hlater with
                  | aborted => exact Agree.aborted
                  | stepped hend => exact Agree.stepped hend

def outputsOf (concerns : ι -> Bool) (inputs : List ι) (outputs : List ο) : List ο :=
  ((inputs.zip outputs).filter fun exchange => concerns exchange.1).map Prod.snd

/-- A run without the inputs that leave a view of the state alone: the others are answered
as before, and the view is the same at the end. -/
theorem run_project {concerns : ι -> Bool} {related : σ -> σ -> Prop}
    (hmine : forall (state image : σ) (input : ι), related state image ->
      concerns input = true -> Agree related (step state input) (step image input))
    (hother : forall (state image next : σ) (input : ι) (output : ο), related state image ->
      concerns input = false -> step state input = some (output, next) -> related next image)
    {inputs : List ι} {state image final : σ} {outputs : List ο} (hstart : related state image)
    (hrun : run step inputs state = some (outputs, final)) :
    exists last : σ, run step (inputs.filter concerns) image =
      some (outputsOf concerns inputs outputs, last) ∧ related final last := by
  induction inputs generalizing state image outputs with
  | nil =>
      cases hrun
      exact ⟨image, rfl, hstart⟩
  | cons input rest ih =>
      rcases run_cons.mp hrun with ⟨output, middle, later, hfirst, hlater, houtputs⟩
      rw [houtputs, outputsOf, List.zip_cons_cons, List.filter_cons, List.filter_cons]
      cases hconcerns : concerns input with
      | false =>
          simp only [Bool.false_eq_true, if_false]
          exact ih (hother _ _ _ _ _ hstart hconcerns hfirst) hlater
      | true =>
          have hagree := hmine state image input hstart hconcerns
          rw [hfirst] at hagree
          cases himage : step image input with
          | none =>
              rw [himage] at hagree
              cases hagree
          | some result =>
              rw [himage] at hagree
              cases hagree with
              | stepped hrelated =>
                  rcases ih hrelated hlater with ⟨last, hlast, hend⟩
                  refine ⟨last, ?_, hend⟩
                  simp only [if_true, List.map_cons]
                  exact run_cons.mpr ⟨_, _, _, himage, hlast, rfl⟩

theorem Agree.outputs_eq {related : σ -> τ -> Prop} {x : Option (ο × σ)} {y : Option (ο × τ)}
    (h : Agree related x y) : x.map Prod.fst = y.map Prod.fst := by
  cases h <;> rfl

end Rules

end Foundation
