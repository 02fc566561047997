import Mathlib.Data.List.Basic

/-!
# Scanning framed records

A log is a concatenation of self-delimiting records, read from an offset until
the first one that cannot be read.  A frame is a value with its bytes; it is read
wherever it stands whole, and a proper part of it at the end of a file is
refused.  From these two facts a scan finds every whole frame and stops exactly
at the end of the last one.
-/

namespace Foundation

structure ScanResult (α ε : Type) where
  values : List α
  offset : Nat
  failure : Option ε

section Scan

variable {α β ε : Type}

/-- Read from `offset` on until the end or the first failure. -/
def scan (read : Nat -> Except ε (α × Nat)) (size : Nat) : Nat -> Nat -> ScanResult α ε
  | 0, offset => ⟨[], offset, none⟩
  | fuel + 1, offset =>
      if offset < size then
        match read offset with
        | .ok (value, next) =>
            let later := scan read size fuel next
            ⟨value :: later.values, later.offset, later.failure⟩
        | .error e => ⟨[], offset, some e⟩
      else ⟨[], offset, none⟩

structure Frame (α β : Type) where
  value : α
  bytes : List β

/-- The bytes of a list of frames. -/
def joined (frames : List (Frame α β)) : List β :=
  frames.flatMap Frame.bytes

@[simp] theorem joined_nil : joined ([] : List (Frame α β)) = [] := rfl

@[simp] theorem joined_cons (frame : Frame α β) (rest : List (Frame α β)) :
    joined (frame :: rest) = frame.bytes ++ joined rest := rfl

@[simp] theorem joined_append (left right : List (Frame α β)) :
    joined (left ++ right) = joined left ++ joined right :=
  List.flatMap_append

variable (read : List β -> Nat -> Except ε (α × Nat))

/-- Nothing can be read where `tail` is all that is left. -/
def Refuses (tail : List β) : Prop :=
  forall before : List β, exists e : ε, read (before ++ tail) before.length = .error e

/-- Read wherever it stands whole, refused where it is cut. -/
structure Framed (frame : Frame α β) : Prop where
  nonempty : frame.bytes ≠ []
  reads : forall before after : List β,
    read (before ++ (frame.bytes ++ after)) before.length =
      .ok (frame.value, before.length + frame.bytes.length)
  torn : forall k : Nat, 0 < k -> k < frame.bytes.length ->
    Refuses read (frame.bytes.take k)

/-- An empty rest, or one that cannot be read. -/
def EndsScan (tail : List β) : Prop :=
  tail = [] ∨ Refuses read tail

variable {read}

/-- The scan of whole frames followed by a rest that ends it. -/
theorem scan_frames {frames : List (Frame α β)} {before tail : List β} {fuel : Nat}
    (hframes : forall frame : Frame α β, frame ∈ frames -> Framed read frame)
    (htail : EndsScan read tail) (hfuel : frames.length < fuel) :
    exists failure : Option ε,
      scan (read (before ++ (joined frames ++ tail)))
          (before ++ (joined frames ++ tail)).length fuel before.length =
        ⟨frames.map Frame.value, before.length + (joined frames).length, failure⟩ ∧
      (failure = none <-> tail = []) := by
  induction frames generalizing before fuel with
  | nil =>
      cases fuel with
      | zero => exact absurd hfuel (Nat.not_lt_zero _)
      | succ fuel =>
          rcases htail with hnil | hrefuse
          · subst hnil
            refine ⟨none, ?_, by simp⟩
            simp [scan]
          · rcases hrefuse before with ⟨e, he⟩
            cases tail with
            | nil =>
                refine ⟨none, ?_, by simp⟩
                simp [scan]
            | cons byte rest =>
                refine ⟨some e, ?_, by simp⟩
                have hlt : before.length <
                    (before ++ (joined ([] : List (Frame α β)) ++ byte :: rest)).length := by
                  simp
                rw [joined_nil, List.nil_append] at hlt ⊢
                rw [scan, if_pos hlt, he]
                rfl
  | cons frame rest ih =>
      cases fuel with
      | zero => exact absurd hfuel (Nat.not_lt_zero _)
      | succ fuel =>
          have hframe := hframes frame List.mem_cons_self
          have hpos : 0 < frame.bytes.length := List.length_pos_iff.mpr hframe.nonempty
          have hsplit : before ++ (joined (frame :: rest) ++ tail) =
              before ++ (frame.bytes ++ (joined rest ++ tail)) := by
            rw [joined_cons, List.append_assoc]
          have hassoc : before ++ (frame.bytes ++ (joined rest ++ tail)) =
              (before ++ frame.bytes) ++ (joined rest ++ tail) := by
            rw [List.append_assoc]
          have hlt : before.length < (before ++ (frame.bytes ++ (joined rest ++ tail))).length := by
            simp only [List.length_append]
            omega
          have hread := hframe.reads before (joined rest ++ tail)
          rcases @ih (before ++ frame.bytes) fuel
            (fun f hf => hframes f (List.mem_cons_of_mem _ hf))
            (Nat.lt_of_succ_lt_succ hfuel) with ⟨failure, hlater, hnone⟩
          refine ⟨failure, ?_, hnone⟩
          rw [hsplit, scan, if_pos hlt, hread]
          have hnext : before.length + frame.bytes.length = (before ++ frame.bytes).length := by
            rw [List.length_append]
          simp only [hnext]
          rw [hassoc, hlater, joined_cons]
          simp only [List.map_cons, List.length_append, Nat.add_assoc]

/-- Where every read moves on, fuel for the bytes that are left is enough. -/
theorem scan_fuel {reads : Nat -> Except ε (α × Nat)} {size fuel fuel' offset : Nat}
    (hmoves : forall (offset next : Nat) (value : α),
      reads offset = .ok (value, next) -> offset < next)
    (h : size - offset < fuel) (h' : size - offset < fuel') :
    scan reads size fuel offset = scan reads size fuel' offset := by
  induction fuel generalizing fuel' offset with
  | zero => exact absurd h (Nat.not_lt_zero _)
  | succ fuel ih =>
      cases fuel' with
      | zero => exact absurd h' (Nat.not_lt_zero _)
      | succ fuel' =>
          by_cases hlt : offset < size
          · rw [scan, scan, if_pos hlt, if_pos hlt]
            cases hread : reads offset with
            | error e => rfl
            | ok result =>
                rcases result with ⟨value, next⟩
                have hnext := hmoves offset next value hread
                have hlater : scan reads size fuel next = scan reads size fuel' next :=
                  ih (by omega) (by omega)
                simp only [hlater]
          · rw [scan, scan, if_neg hlt, if_neg hlt]

/-- Frames are read in only one way: any frames at the front of a list are the first
ones of those that the scan finds there. -/
theorem prefix_of_joined {frames others : List (Frame α β)} {tail rest : List β}
    (hframes : forall frame : Frame α β, frame ∈ frames -> Framed read frame)
    (hothers : forall frame : Frame α β, frame ∈ others -> Framed read frame)
    (htail : EndsScan read tail) (h : joined others ++ rest = joined frames ++ tail) :
    others <+: frames := by
  induction others generalizing frames with
  | nil => exact List.nil_prefix
  | cons other others ih =>
      have hother := hothers other List.mem_cons_self
      have hread := hother.reads [] (joined others ++ rest)
      rw [← List.append_assoc other.bytes, ← joined_cons, h] at hread
      cases frames with
      | nil =>
          rcases htail with hnil | hrefuse
          · rw [hnil, joined_cons, List.append_assoc] at h
            exact absurd (List.append_eq_nil_iff.mp h).left hother.nonempty
          · rcases hrefuse [] with ⟨e, he⟩
            rw [joined_nil, List.nil_append] at hread
            rw [he] at hread
            cases hread
      | cons frame frames =>
          have hframe := hframes frame List.mem_cons_self
          have hfound := hframe.reads [] (joined frames ++ tail)
          rw [← List.append_assoc frame.bytes, ← joined_cons] at hfound
          rw [hread, Except.ok.injEq, Prod.mk.injEq, List.length_nil, Nat.zero_add,
            Nat.zero_add] at hfound
          rw [joined_cons, joined_cons, List.append_assoc, List.append_assoc] at h
          rcases List.append_inj h hfound.right with ⟨hbytes, hlater⟩
          have hsame : other = frame := by
            cases other
            cases frame
            cases hfound.left
            cases hbytes
            rfl
          rw [hsame]
          exact List.prefix_cons_inj frame |>.mpr
            (ih (fun f hf => hframes f (List.mem_cons_of_mem _ hf))
              (fun f hf => hothers f (List.mem_cons_of_mem _ hf)) hlater)

/-- Any prefix of a list of frames is whole frames and a torn piece of the next. -/
theorem take_joined (frames : List (Frame α β)) (m : Nat) :
    exists (count : Nat) (tail : List β),
      (joined frames).take m = joined (frames.take count) ++ tail ∧
      (joined (frames.take count)).length ≤ m ∧
      (tail = [] ∨ exists (frame : Frame α β) (k : Nat), frame ∈ frames ∧ 0 < k ∧
        k < frame.bytes.length ∧ tail = frame.bytes.take k) := by
  induction frames generalizing m with
  | nil => exact ⟨0, [], by simp, Nat.zero_le _, Or.inl rfl⟩
  | cons frame rest ih =>
      by_cases hle : frame.bytes.length ≤ m
      · rcases ih (m - frame.bytes.length) with ⟨count, tail, htake, hlen, htail⟩
        refine ⟨count + 1, tail, ?_, ?_, ?_⟩
        · rw [joined_cons, List.take_append, List.take_of_length_le hle, htake,
            List.take_succ_cons, joined_cons, List.append_assoc]
        · rw [List.take_succ_cons, joined_cons, List.length_append]
          omega
        · rcases htail with hnil | ⟨torn, k, hmem, hpos, hlt, heq⟩
          · exact Or.inl hnil
          · exact Or.inr ⟨torn, k, List.mem_cons_of_mem _ hmem, hpos, hlt, heq⟩
      · have hlt : m < frame.bytes.length := Nat.lt_of_not_le hle
        refine ⟨0, frame.bytes.take m, ?_, Nat.zero_le _, ?_⟩
        · rw [joined_cons, List.take_append_of_le_length (Nat.le_of_lt hlt)]
          simp
        · by_cases hzero : m = 0
          · left
            rw [hzero, List.take_zero]
          · exact Or.inr ⟨frame, m, List.mem_cons_self, Nat.pos_of_ne_zero hzero, hlt, rfl⟩

/-- A torn piece ends a scan. -/
theorem endsScan_of_torn {frames : List (Frame α β)} {tail : List β}
    (hframes : forall frame : Frame α β, frame ∈ frames -> Framed read frame)
    (htail : tail = [] ∨ exists (frame : Frame α β) (k : Nat), frame ∈ frames ∧ 0 < k ∧
      k < frame.bytes.length ∧ tail = frame.bytes.take k) : EndsScan read tail := by
  rcases htail with hnil | ⟨frame, k, hmem, hpos, hlt, heq⟩
  · exact Or.inl hnil
  · right
    rw [heq]
    exact (hframes frame hmem).torn k hpos hlt

end Scan

end Foundation
