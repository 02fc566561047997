import Mathlib.Data.List.Basic

/-!
# Self-delimiting encodings

An encoding is self-delimiting if it says itself where the value ends.  Then a
concatenation of encodings is parsed in only one way, without separators: fields of
fixed width, tags, counts and terminators are the building blocks, and products,
options and lists are put together from them.  A delimited encoding leaves it to what
follows it to say where the value ends, as the separators of a text do.
-/

namespace Foundation

variable {α β γ : Type}

/-- Encodings at the front of the same list are of the same value and end at the same
place. -/
def SelfDelimiting (valid : α -> Prop) (encode : α -> List β) : Prop :=
  forall a b : α, valid a -> valid b -> forall rest rest' : List β,
    encode a ++ rest = encode b ++ rest' -> a = b ∧ rest = rest'

namespace SelfDelimiting

variable {valid : α -> Prop} {encode : α -> List β}

theorem injective (h : SelfDelimiting valid encode) {a b : α} (ha : valid a) (hb : valid b)
    (heq : encode a = encode b) : a = b := by
  apply (h a b ha hb [] [] ?_).left
  rw [heq]

theorem of_width {width : Nat} (hwidth : forall a : α, (encode a).length = width)
    (hinj : forall a b : α, valid a -> valid b -> encode a = encode b -> a = b) :
    SelfDelimiting valid encode := by
  intro a b ha hb rest rest' heq
  rcases List.append_inj heq ((hwidth a).trans (hwidth b).symm) with ⟨hcode, hrest⟩
  exact ⟨hinj a b ha hb hcode, hrest⟩

theorem mono {valid' : α -> Prop} (h : SelfDelimiting valid encode)
    (himp : forall a : α, valid' a -> valid a) : SelfDelimiting valid' encode :=
  fun a b ha hb => h a b (himp a ha) (himp b hb)

theorem of_prefix
    (h : forall a b : α, valid a -> valid b -> encode a <+: encode b -> a = b) :
    SelfDelimiting valid encode := by
  intro a b ha hb rest rest' heq
  have hsame : a = b := by
    rcases List.append_eq_append_iff.mp heq with ⟨more, hlonger, _⟩ | ⟨more, hlonger, _⟩
    · exact h a b ha hb ⟨more, hlonger.symm⟩
    · exact (h b a hb ha ⟨more, hlonger.symm⟩).symm
  subst hsame
  exact ⟨rfl, List.append_cancel_left heq⟩

theorem pair {valid' : γ -> Prop} {encode' : γ -> List β} (h : SelfDelimiting valid encode)
    (h' : SelfDelimiting valid' encode') :
    SelfDelimiting (fun p : α × γ => valid p.1 ∧ valid' p.2)
      (fun p => encode p.1 ++ encode' p.2) := by
  rintro ⟨a, c⟩ ⟨b, d⟩ ⟨ha, hc⟩ ⟨hb, hd⟩ rest rest' heq
  rw [List.append_assoc, List.append_assoc] at heq
  rcases h a b ha hb _ _ heq with ⟨hfirst, hlater⟩
  rcases h' c d hc hd rest rest' hlater with ⟨hsecond, hrest⟩
  exact ⟨by rw [hfirst, hsecond], hrest⟩

theorem option (h : SelfDelimiting valid encode) {absent present : β}
    (hne : absent ≠ present) :
    SelfDelimiting (fun o : Option α => forall a : α, o = some a -> valid a)
      (fun
        | some a => present :: encode a
        | none => [absent]) := by
  intro x y hx hy rest rest' heq
  cases x with
  | none =>
      cases y with
      | none => exact ⟨rfl, (List.cons.inj heq).right⟩
      | some b => exact absurd (List.cons.inj heq).left hne
  | some a =>
      cases y with
      | none => exact absurd (List.cons.inj heq).left.symm hne
      | some b =>
          rcases h a b (hx a rfl) (hy b rfl) rest rest' (List.cons.inj heq).right with
            ⟨hsame, hrest⟩
          exact ⟨congrArg some hsame, hrest⟩

theorem items (h : SelfDelimiting valid encode) {xs ys : List α}
    (hxs : forall a : α, a ∈ xs -> valid a) (hys : forall a : α, a ∈ ys -> valid a)
    (hlength : xs.length = ys.length) {rest rest' : List β}
    (heq : xs.flatMap encode ++ rest = ys.flatMap encode ++ rest') : xs = ys ∧ rest = rest' := by
  induction xs generalizing ys with
  | nil =>
      have hnil : ys = [] := List.eq_nil_of_length_eq_zero hlength.symm
      rw [hnil] at heq ⊢
      exact ⟨rfl, heq⟩
  | cons x xs ih =>
      cases ys with
      | nil => cases hlength
      | cons y ys =>
          rw [List.flatMap_cons, List.flatMap_cons, List.append_assoc, List.append_assoc] at heq
          rcases h x y (hxs x List.mem_cons_self) (hys y List.mem_cons_self) _ _ heq with
            ⟨hhead, hlater⟩
          rcases ih (fun a ha => hxs a (List.mem_cons_of_mem _ ha))
            (fun a ha => hys a (List.mem_cons_of_mem _ ha)) (Nat.succ.inj hlength) hlater with
            ⟨htail, hrest⟩
          exact ⟨by rw [hhead, htail], hrest⟩

theorem counted (h : SelfDelimiting valid encode) {small : Nat -> Prop}
    {count : Nat -> List β} (hcount : SelfDelimiting small count) :
    SelfDelimiting (fun xs : List α => small xs.length ∧ forall a : α, a ∈ xs -> valid a)
      (fun xs => count xs.length ++ xs.flatMap encode) := by
  intro xs ys hxs hys rest rest' heq
  rw [List.append_assoc, List.append_assoc] at heq
  rcases hcount xs.length ys.length hxs.left hys.left _ _ heq with ⟨hlength, hlater⟩
  exact h.items hxs.right hys.right hlength hlater

theorem terminated (h : SelfDelimiting valid encode) (stop : β)
    (hopens : forall a : α, valid a -> exists (first : β) (more : List β),
      encode a = first :: more ∧ first ≠ stop) :
    SelfDelimiting (fun xs : List α => forall a : α, a ∈ xs -> valid a)
      (fun xs => xs.flatMap encode ++ [stop]) := by
  intro xs
  induction xs with
  | nil =>
      intro ys _ hys rest rest' heq
      cases ys with
      | nil => exact ⟨rfl, (List.cons.inj heq).right⟩
      | cons y ys =>
          rcases hopens y (hys y List.mem_cons_self) with ⟨first, more, hfirst, hne⟩
          simp only [List.flatMap_cons, hfirst] at heq
          exact absurd (List.cons.inj heq).left.symm hne
  | cons x xs ih =>
      intro ys hxs hys rest rest' heq
      cases ys with
      | nil =>
          rcases hopens x (hxs x List.mem_cons_self) with ⟨first, more, hfirst, hne⟩
          simp only [List.flatMap_cons, hfirst] at heq
          exact absurd (List.cons.inj heq).left hne
      | cons y ys =>
          simp only [List.flatMap_cons, List.append_assoc] at heq
          rcases h x y (hxs x List.mem_cons_self) (hys y List.mem_cons_self) _ _ heq with
            ⟨hhead, hlater⟩
          rw [← List.append_assoc, ← List.append_assoc] at hlater
          rcases ih ys (fun a ha => hxs a (List.mem_cons_of_mem _ ha))
            (fun a ha => hys a (List.mem_cons_of_mem _ ha)) rest rest' hlater with
            ⟨htail, hrest⟩
          exact ⟨by rw [hhead, htail], hrest⟩

end SelfDelimiting

/-!
## Encodings that end where something else begins
-/

/-- Encodings at the front of the same list are of the same value and end at the same
place, if both are followed by what can follow an encoding. -/
def Delimited (follows : List β -> Prop) (valid : α -> Prop) (encode : α -> List β) : Prop :=
  forall a b : α, valid a -> valid b -> forall rest rest' : List β, follows rest ->
    follows rest' -> encode a ++ rest = encode b ++ rest' -> a = b ∧ rest = rest'

theorem SelfDelimiting.delimited {valid : α -> Prop} {encode : α -> List β}
    (h : SelfDelimiting valid encode) (follows : List β -> Prop) :
    Delimited follows valid encode :=
  fun a b ha hb rest rest' _ _ => h a b ha hb rest rest'

theorem SelfDelimiting.of_delimited {valid : α -> Prop} {encode : α -> List β}
    (h : Delimited (fun _ => True) valid encode) : SelfDelimiting valid encode :=
  fun a b ha hb rest rest' => h a b ha hb rest rest' trivial trivial

namespace Delimited

variable {follows : List β -> Prop} {valid : α -> Prop} {encode : α -> List β}

theorem comap (h : Delimited follows valid encode) {fields : γ -> α}
    (hfields : forall c d : γ, fields c = fields d -> c = d) :
    Delimited follows (fun c => valid (fields c)) (fun c => encode (fields c)) := by
  intro c d hc hd rest rest' hrest hrest' heq
  rcases h (fields c) (fields d) hc hd rest rest' hrest hrest' heq with ⟨hsame, hsuffix⟩
  exact ⟨hfields c d hsame, hsuffix⟩

theorem of_alphabet {inside : β -> Prop} [DecidablePred inside]
    (hinside : forall a : α, valid a -> forall x : β, x ∈ encode a -> inside x)
    (hfollows : forall rest : List β, follows rest -> forall x : β, x ∈ rest.head? -> ¬ inside x)
    (hinj : forall a b : α, valid a -> valid b -> encode a = encode b -> a = b) :
    Delimited follows valid encode := by
  have hsplit : forall (a : α) (rest : List β), valid a -> follows rest ->
      (encode a ++ rest).takeWhile (fun x => decide (inside x)) = encode a := by
    intro a rest ha hrest
    rw [List.takeWhile_append_of_pos fun x hmem => decide_eq_true (hinside a ha x hmem)]
    have hnone : rest.takeWhile (fun x => decide (inside x)) = [] := by
      cases rest with
      | nil => rfl
      | cons x rest =>
          have hout := hfollows (x :: rest) hrest x rfl
          simp [hout]
    rw [hnone, List.append_nil]
  intro a b ha hb rest rest' hrest hrest' heq
  have hcode : encode a = encode b := by
    rw [← hsplit a rest ha hrest, heq, hsplit b rest' hb hrest']
  rw [hcode] at heq
  exact ⟨hinj a b ha hb hcode, List.append_cancel_left heq⟩

theorem option (h : Delimited follows valid encode) (mark : β) (absent : List β)
    (hopens : forall a : α, valid a -> exists (first : β) (more : List β),
      encode a = first :: more ∧ first ≠ mark) :
    Delimited follows (fun o : Option α => forall a : α, o = some a -> valid a)
      (fun
        | some a => encode a
        | none => mark :: absent) := by
  intro x y hx hy rest rest' hrest hrest' heq
  cases x with
  | none =>
      cases y with
      | none => exact ⟨rfl, List.append_cancel_left heq⟩
      | some b =>
          rcases hopens b (hy b rfl) with ⟨first, more, hfirst, hne⟩
          simp only [hfirst] at heq
          exact absurd (List.cons.inj heq).left.symm hne
  | some a =>
      cases y with
      | none =>
          rcases hopens a (hx a rfl) with ⟨first, more, hfirst, hne⟩
          simp only [hfirst] at heq
          exact absurd (List.cons.inj heq).left hne
      | some b =>
          rcases h a b (hx a rfl) (hy b rfl) rest rest' hrest hrest' heq with
            ⟨hsame, hsuffix⟩
          exact ⟨congrArg some hsame, hsuffix⟩

end Delimited

theorem SelfDelimiting.comap {valid : α -> Prop} {encode : α -> List β}
    (h : SelfDelimiting valid encode) {fields : γ -> α}
    (hfields : forall c d : γ, fields c = fields d -> c = d) :
    SelfDelimiting (fun c => valid (fields c)) (fun c => encode (fields c)) :=
  of_delimited ((h.delimited _).comap hfields)

end Foundation
