import Mathlib.Data.List.Basic

/-!
# Append-only files behind a buffer

A writer that appends to a file through a buffer of fixed capacity.  Small
writes go to the buffer, large ones to the file itself once the buffer has been
flushed.  A call of the file system may end with an error after a part of the
bytes: what is left of a flush stays in the buffer for the next one, what is left
of a direct write is lost.  A crash loses the buffer and may cut the file down to
what was synchronised.
-/

namespace Foundation

structure WriteFault where
  written : Nat
  message : String

/-- The fault of a write of `size` bytes.  One that comes after the last byte does
not show. -/
def effective (fault : Option WriteFault) (size : Nat) : Option WriteFault :=
  fault.filter fun f => f.written < size

structure BufferedFile (α : Type) where
  file : List α
  synced : Nat
  buffer : List α
deriving DecidableEq

namespace BufferedFile

variable {α : Type}

/-- Everything written so far, on its way or already in the file. -/
def contents (b : BufferedFile α) : List α :=
  b.file ++ b.buffer

def push (b : BufferedFile α) (bytes : List α) : BufferedFile α :=
  { b with buffer := b.buffer ++ bytes }

/-- Write out the buffer.  A fault keeps the unwritten rest in it. -/
def flush (b : BufferedFile α) (fault : Option WriteFault) :
    Except String Unit × BufferedFile α :=
  match effective fault b.buffer.length with
  | some f =>
      (.error f.message,
        { b with
          file := b.file ++ b.buffer.take f.written
          buffer := b.buffer.drop f.written })
  | none => (.ok (), { b with file := b.file ++ b.buffer, buffer := [] })

/-- Write past the buffer.  A fault loses the unwritten rest. -/
def writeDirect (b : BufferedFile α) (bytes : List α) (fault : Option WriteFault) :
    Except String Unit × BufferedFile α :=
  match effective fault bytes.length with
  | some f => (.error f.message, { b with file := b.file ++ bytes.take f.written })
  | none => (.ok (), { b with file := b.file ++ bytes })

/-- Flush the buffer if `size` more bytes do not fit. -/
def makeRoom (capacity : Nat) (b : BufferedFile α) (size : Nat) (fault : Option WriteFault) :
    Except String Unit × BufferedFile α :=
  if capacity - b.buffer.length < size then b.flush fault else (.ok (), b)

/-- A write that does not fit is preceded by a flush, and one that would fill the
buffer by itself goes past it. -/
def writeAll (capacity : Nat) (b : BufferedFile α) (bytes : List α)
    (flushFault directFault : Option WriteFault) : Except String Unit × BufferedFile α :=
  if bytes.length < capacity - b.buffer.length then (.ok (), b.push bytes)
  else
    match b.makeRoom capacity bytes.length flushFault with
    | (.error e, b) => (.error e, b)
    | (.ok (), b) =>
        if capacity ≤ bytes.length then b.writeDirect bytes directFault
        else (.ok (), b.push bytes)

/-- `fsync`. -/
def sync (b : BufferedFile α) (fault : Option String) : Except String Unit × BufferedFile α :=
  match fault with
  | some message => (.error message, b)
  | none => (.ok (), { b with synced := b.file.length })

inductive AppendStep where
  | write
  | flush
  | sync
deriving DecidableEq

structure AppendFaults where
  flushFirst : Option WriteFault := none
  direct : Option WriteFault := none
  flush : Option WriteFault := none
  sync : Option String := none

def append (capacity : Nat) (b : BufferedFile α) (bytes : List α) (faults : AppendFaults) :
    Except (AppendStep × String) Unit × BufferedFile α :=
  match b.writeAll capacity bytes faults.flushFirst faults.direct with
  | (.error e, b) => (.error (.write, e), b)
  | (.ok (), b) =>
      match b.flush faults.flush with
      | (.error e, b) => (.error (.flush, e), b)
      | (.ok (), b) =>
          match b.sync faults.sync with
          | (.error e, b) => (.error (.sync, e), b)
          | (.ok (), b) => (.ok (), b)

/-- The process ends without a chance to flush.  Of what was never synchronised
only the first bytes survive, up to the length `cut`. -/
def crash (b : BufferedFile α) (cut : Nat) : BufferedFile α :=
  let file := b.file.take (max b.synced cut)
  { file := file, synced := file.length, buffer := [] }

/-!
## What a write can do

Written bytes move from the buffer to the file, and the file never gives any
back.  `Moved` is that much and no more: the contents stay.
-/

/-- The same contents, more of them in the file. -/
structure Moved (b after : BufferedFile α) : Prop where
  contents : after.contents = b.contents
  file : b.file.length ≤ after.file.length
  synced : after.synced = b.synced

theorem Moved.refl (b : BufferedFile α) : Moved b b :=
  ⟨rfl, Nat.le_refl _, rfl⟩

theorem Moved.trans {b middle after : BufferedFile α} (h : Moved b middle)
    (hnext : Moved middle after) : Moved b after :=
  ⟨hnext.contents.trans h.contents, Nat.le_trans h.file hnext.file,
    hnext.synced.trans h.synced⟩

theorem effective_eq_some {fault : Option WriteFault} {size : Nat} {f : WriteFault}
    (h : effective fault size = some f) : f.written < size := by
  unfold effective at h
  rw [Option.filter_eq_some_iff] at h
  exact of_decide_eq_true h.right

/-- A flush that succeeds leaves nothing in the buffer; one that fails leaves
something. -/
theorem flush_moved {b after : BufferedFile α} {fault : Option WriteFault}
    {result : Except String Unit} (h : b.flush fault = (result, after)) :
    Moved b after ∧ (result = .ok () <-> after.buffer = []) := by
  unfold flush at h
  cases hfault : effective fault b.buffer.length with
  | none =>
      simp only [hfault, Prod.mk.injEq] at h
      rw [← h.left, ← h.right]
      refine ⟨⟨?_, ?_, rfl⟩, by simp⟩
      · exact List.append_nil _
      · rw [List.length_append]
        exact Nat.le_add_right _ _
  | some f =>
      have hlt := effective_eq_some hfault
      simp only [hfault, Prod.mk.injEq] at h
      rw [← h.left, ← h.right]
      refine ⟨⟨?_, ?_, rfl⟩, ?_⟩
      · change b.file ++ b.buffer.take f.written ++ b.buffer.drop f.written = _
        rw [List.append_assoc, List.take_append_drop]
        rfl
      · rw [List.length_append]
        exact Nat.le_add_right _ _
      · rw [List.drop_eq_nil_iff]
        constructor
        · intro hok
          cases hok
        · intro hle
          exact absurd hlt (Nat.not_lt_of_le hle)

theorem flush_of_buffer_eq_nil {b : BufferedFile α} (h : b.buffer = [])
    (fault : Option WriteFault) : b.flush fault = (.ok (), b) := by
  have hnone : effective fault b.buffer.length = none := by
    cases hfault : effective fault b.buffer.length with
    | none => rfl
    | some f =>
        have hlt := effective_eq_some hfault
        rw [h] at hlt
        exact absurd hlt (Nat.not_lt_zero _)
  unfold flush
  rw [hnone]
  simp only [h, List.append_nil]
  cases b
  cases h
  rfl

/-- The bytes go past the buffer, and an error comes when some of them, but not
all, are in the file. -/
def tears (capacity : Nat) (b : BufferedFile α) (bytes : List α) (faults : AppendFaults) :
    Bool :=
  capacity ≤ bytes.length ∧ (effective faults.flushFirst b.buffer.length).isNone ∧
    (effective faults.direct bytes.length).any fun f => 0 < f.written

/-- How an append ends.  Either it succeeds, or its bytes were not taken, or all
of them were taken, or a direct write lost the end of them. -/
inductive Appended (capacity : Nat) (b : BufferedFile α) (bytes : List α)
    (faults : AppendFaults) : Except (AppendStep × String) Unit -> BufferedFile α -> Prop where
  | done {after : BufferedFile α} (hfile : after.file = b.contents ++ bytes)
      (hsynced : after.synced = after.file.length) (hbuffer : after.buffer = []) :
      Appended capacity b bytes faults (.ok ()) after
  | kept {e : AppendStep × String} {after : BufferedFile α} (hmoved : Moved b after) :
      Appended capacity b bytes faults (.error e) after
  | pending {e : AppendStep × String} {after : BufferedFile α}
      (hmoved : Moved (b.push bytes) after)
      (hcause : after.buffer ≠ [] ∨ faults.sync ≠ none) :
      Appended capacity b bytes faults (.error e) after
  | torn {e : AppendStep × String} {k : Nat} {after : BufferedFile α}
      (htears : tears capacity b bytes faults = true) (hlt : k < bytes.length)
      (hfile : after.file = b.contents ++ bytes.take k) (hsynced : after.synced = b.synced)
      (hbuffer : after.buffer = []) : Appended capacity b bytes faults (.error e) after

theorem push_contents (b : BufferedFile α) (bytes : List α) :
    (b.push bytes).contents = b.contents ++ bytes :=
  (List.append_assoc _ _ _).symm

theorem Moved.push {b after : BufferedFile α} (h : Moved b after) (bytes : List α) :
    Moved (b.push bytes) (after.push bytes) := by
  refine ⟨?_, h.file, h.synced⟩
  rw [push_contents, push_contents, h.contents]

theorem contents_of_buffer_eq_nil {b : BufferedFile α} (h : b.buffer = []) :
    b.contents = b.file := by
  rw [contents, h, List.append_nil]

theorem append_of_written {capacity : Nat} {b middle after : BufferedFile α} {bytes : List α}
    {faults : AppendFaults} {result : Except (AppendStep × String) Unit}
    (hwrite : b.writeAll capacity bytes faults.flushFirst faults.direct = (.ok (), middle))
    (hmoved : Moved (b.push bytes) middle)
    (h : b.append capacity bytes faults = (result, after)) :
    Appended capacity b bytes faults result after := by
  unfold append at h
  simp only [hwrite] at h
  cases hflush : middle.flush faults.flush with
  | mk flushed flushedFile =>
      rcases flush_moved hflush with ⟨hmove, hok⟩
      have hall := hmoved.trans hmove
      cases flushed with
      | error e =>
          simp only [hflush, Prod.mk.injEq] at h
          rw [← h.left, ← h.right]
          refine Appended.pending hall (Or.inl fun hnil => ?_)
          cases hok.mpr hnil
      | ok _ =>
          have hempty := hok.mp rfl
          simp only [hflush] at h
          cases hfault : faults.sync with
          | some message =>
              simp only [sync, hfault, Prod.mk.injEq] at h
              rw [← h.left, ← h.right]
              exact Appended.pending hall (Or.inr (by rw [hfault]; exact nofun))
          | none =>
              simp only [sync, hfault, Prod.mk.injEq] at h
              rw [← h.left, ← h.right]
              refine Appended.done ?_ rfl hempty
              change flushedFile.file = _
              rw [← contents_of_buffer_eq_nil hempty, hall.contents, push_contents]

theorem makeRoom_moved {capacity size : Nat} {b after : BufferedFile α}
    {fault : Option WriteFault} {result : Except String Unit}
    (h : b.makeRoom capacity size fault = (result, after)) : Moved b after := by
  unfold makeRoom at h
  split at h
  · exact (flush_moved h).left
  · rw [← (Prod.mk.inj h).right]
    exact Moved.refl b

theorem makeRoom_buffer {capacity size : Nat} {b after : BufferedFile α}
    {fault : Option WriteFault} (hcapacity : 0 < capacity) (hlarge : capacity ≤ size)
    (h : b.makeRoom capacity size fault = (.ok (), after)) : after.buffer = [] := by
  unfold makeRoom at h
  split at h
  · exact (flush_moved h).right.mp rfl
  · rename_i hfits
    rw [← (Prod.mk.inj h).right]
    apply List.eq_nil_of_length_eq_zero
    omega

theorem makeRoom_effective {capacity size : Nat} {b after : BufferedFile α}
    {fault : Option WriteFault} (hcapacity : 0 < capacity) (hlarge : capacity ≤ size)
    (h : b.makeRoom capacity size fault = (.ok (), after)) :
    effective fault b.buffer.length = none := by
  cases hfault : effective fault b.buffer.length with
  | none => rfl
  | some f =>
      exfalso
      have hlt := effective_eq_some hfault
      unfold makeRoom flush at h
      rw [if_pos (by omega), hfault] at h
      cases h

theorem append_appended {capacity : Nat} {b after : BufferedFile α} {bytes : List α}
    {faults : AppendFaults} {result : Except (AppendStep × String) Unit}
    (hcapacity : 0 < capacity) (h : b.append capacity bytes faults = (result, after)) :
    Appended capacity b bytes faults result after := by
  by_cases hsmall : bytes.length < capacity - b.buffer.length
  · have hwrite : b.writeAll capacity bytes faults.flushFirst faults.direct =
        (.ok (), b.push bytes) := by
      unfold writeAll
      rw [if_pos hsmall]
    exact append_of_written hwrite (Moved.refl _) h
  · cases hroom : b.makeRoom capacity bytes.length faults.flushFirst with
    | mk made room =>
        have hmoved := makeRoom_moved hroom
        cases made with
        | error e =>
            unfold append writeAll at h
            simp only [if_neg hsmall, hroom, Prod.mk.injEq] at h
            rw [← h.left, ← h.right]
            exact Appended.kept hmoved
        | ok _ =>
            by_cases hlarge : capacity ≤ bytes.length
            · have hempty := makeRoom_buffer hcapacity hlarge hroom
              have hroomFile : room.file = b.contents := by
                rw [← contents_of_buffer_eq_nil hempty, hmoved.contents]
              cases hfault : effective faults.direct bytes.length with
              | none =>
                  have hwrite : b.writeAll capacity bytes faults.flushFirst faults.direct =
                      (.ok (), { room with file := room.file ++ bytes }) := by
                    unfold writeAll
                    rw [if_neg hsmall, hroom]
                    simp only [if_pos hlarge, writeDirect, hfault]
                  refine append_of_written hwrite ⟨?_, ?_, hmoved.synced⟩ h
                  · change room.file ++ bytes ++ room.buffer = _
                    rw [hempty, List.append_nil, hroomFile, push_contents]
                  · change b.file.length ≤ (room.file ++ bytes).length
                    rw [List.length_append]
                    exact Nat.le_trans hmoved.file (Nat.le_add_right _ _)
              | some f =>
                  have hlt := effective_eq_some hfault
                  unfold append writeAll at h
                  simp only [if_neg hsmall, hroom, if_pos hlarge, writeDirect, hfault,
                    Prod.mk.injEq] at h
                  rw [← h.left, ← h.right]
                  by_cases hpos : 0 < f.written
                  · refine Appended.torn ?_ hlt ?_ hmoved.synced hempty
                    · simp [tears, hlarge, makeRoom_effective hcapacity hlarge hroom, hfault,
                        hpos]
                    · rw [hroomFile]
                  · have hzero : f.written = 0 := by omega
                    rw [hzero, List.take_zero, List.append_nil]
                    exact Appended.kept hmoved
            · have hwrite : b.writeAll capacity bytes faults.flushFirst faults.direct =
                  (.ok (), room.push bytes) := by
                unfold writeAll
                rw [if_neg hsmall, hroom]
                simp only [if_neg hlarge]
              exact append_of_written hwrite (hmoved.push bytes) h

/-!
## How much of an append reaches the file
-/

/-- How much of a write of `size` bytes reaches the file. -/
def written (fault : Option WriteFault) (size : Nat) : Nat :=
  ((effective fault size).map WriteFault.written).getD size

/-- How much of the buffer, and of `bytes` after it, an append brings into the file. -/
def emitted (capacity : Nat) (b : BufferedFile α) (bytes : List α)
    (faults : AppendFaults) : Nat :=
  if capacity ≤ bytes.length ∨ capacity - b.buffer.length < bytes.length then
    match effective faults.flushFirst b.buffer.length with
    | some f => f.written
    | none =>
        b.buffer.length +
          written (if capacity ≤ bytes.length then faults.direct else faults.flush) bytes.length
  else written faults.flush (b.buffer ++ bytes).length

theorem flush_file (b : BufferedFile α) (fault : Option WriteFault) :
    (b.flush fault).2.file = b.file ++ b.buffer.take (written fault b.buffer.length) := by
  unfold flush written
  cases effective fault b.buffer.length with
  | some f => rfl
  | none => exact congrArg (b.file ++ ·) List.take_length.symm

theorem writeDirect_file (b : BufferedFile α) (bytes : List α) (fault : Option WriteFault) :
    (b.writeDirect bytes fault).2.file = b.file ++ bytes.take (written fault bytes.length) := by
  unfold writeDirect written
  cases effective fault bytes.length with
  | some f => rfl
  | none => exact congrArg (b.file ++ ·) List.take_length.symm

theorem append_file_of_written {capacity : Nat} {b middle : BufferedFile α} {bytes : List α}
    {faults : AppendFaults}
    (hwrite : b.writeAll capacity bytes faults.flushFirst faults.direct = (.ok (), middle)) :
    (b.append capacity bytes faults).2.file = (middle.flush faults.flush).2.file := by
  unfold append
  simp only [hwrite]
  cases hflush : middle.flush faults.flush with
  | mk flushed after =>
      cases flushed with
      | error e => rfl
      | ok _ =>
          unfold sync
          cases hsync : faults.sync <;> rfl

theorem append_file_of_refused {capacity : Nat} {b middle : BufferedFile α} {bytes : List α}
    {faults : AppendFaults} {e : String}
    (hwrite : b.writeAll capacity bytes faults.flushFirst faults.direct = (.error e, middle)) :
    (b.append capacity bytes faults).2.file = middle.file := by
  unfold append
  rw [hwrite]

theorem append_file_direct {capacity : Nat} {b : BufferedFile α} {bytes : List α}
    {faults : AppendFaults} (h : b.buffer = []) (hlarge : capacity ≤ bytes.length) :
    (b.append capacity bytes faults).2.file =
      b.file ++ bytes.take (written faults.direct bytes.length) := by
  have hroom : b.makeRoom capacity bytes.length faults.flushFirst = (.ok (), b) := by
    unfold makeRoom
    split
    · exact flush_of_buffer_eq_nil h _
    · rfl
  have hwrite : b.writeAll capacity bytes faults.flushFirst faults.direct =
      b.writeDirect bytes faults.direct := by
    unfold writeAll
    rw [if_neg (by rw [h]; exact Nat.not_lt_of_le hlarge), hroom]
    exact if_pos hlarge
  have hfile := writeDirect_file b bytes faults.direct
  cases hdirect : b.writeDirect bytes faults.direct with
  | mk result middle =>
      rw [hdirect] at hwrite hfile
      cases result with
      | error e => exact (append_file_of_refused hwrite).trans hfile
      | ok _ =>
          have hbuffer : middle.buffer = [] := by
            unfold writeDirect at hdirect
            cases hfault : effective faults.direct bytes.length with
            | some f => simp [hfault] at hdirect
            | none =>
                simp only [hfault, Prod.mk.injEq] at hdirect
                rw [← hdirect.right]
                exact h
          rw [append_file_of_written hwrite, flush_of_buffer_eq_nil hbuffer]
          exact hfile

theorem append_file_small {capacity : Nat} {b : BufferedFile α} {bytes : List α}
    {faults : AppendFaults}
    (hwrite : b.writeAll capacity bytes faults.flushFirst faults.direct = (.ok (), b.push bytes)) :
    (b.append capacity bytes faults).2.file =
      b.file ++ (b.buffer ++ bytes).take (written faults.flush (b.buffer ++ bytes).length) :=
  (append_file_of_written hwrite).trans (flush_file _ _)

theorem append_file {capacity : Nat} (b : BufferedFile α) (bytes : List α)
    (faults : AppendFaults) (hcapacity : 0 < capacity) :
    (b.append capacity bytes faults).2.file =
      b.file ++ (b.buffer ++ bytes).take (emitted capacity b bytes faults) := by
  unfold emitted
  by_cases hout : capacity ≤ bytes.length ∨ capacity - b.buffer.length < bytes.length
  · rw [if_pos hout]
    have hbig : ¬ bytes.length < capacity - b.buffer.length := by omega
    cases hfault : effective faults.flushFirst b.buffer.length with
    | some f =>
        have hlt := effective_eq_some hfault
        have hroom : b.makeRoom capacity bytes.length faults.flushFirst =
            b.flush faults.flushFirst := if_pos (by omega)
        have hflush : b.flush faults.flushFirst =
            (.error f.message,
              { b with
                file := b.file ++ b.buffer.take f.written
                buffer := b.buffer.drop f.written }) := by
          unfold flush
          rw [hfault]
        have hwrite : b.writeAll capacity bytes faults.flushFirst faults.direct =
            (.error f.message,
              { b with
                file := b.file ++ b.buffer.take f.written
                buffer := b.buffer.drop f.written }) := by
          unfold writeAll
          rw [if_neg hbig, hroom, hflush]
        rw [append_file_of_refused hwrite, List.take_append_of_le_length (Nat.le_of_lt hlt)]
    | none =>
        -- the buffer gets out, and the append goes on with the flushed file
        let room : BufferedFile α := { b with file := b.file ++ b.buffer, buffer := [] }
        have hroom : b.makeRoom capacity bytes.length faults.flushFirst = (.ok (), room) := by
          unfold makeRoom
          split
          · unfold flush
            rw [hfault]
          · have hnil : b.buffer = [] := List.eq_nil_of_length_eq_zero (by omega)
            have hsame : room = b := by
              cases b
              cases hnil
              simp only [room, List.append_nil]
            rw [hsame]
        have hwrite : b.writeAll capacity bytes faults.flushFirst faults.direct =
            room.writeAll capacity bytes none faults.direct := by
          have hempty : room.makeRoom capacity bytes.length none = (.ok (), room) := by
            unfold makeRoom
            split
            · exact flush_of_buffer_eq_nil rfl _
            · rfl
          unfold writeAll
          rw [if_neg hbig, hroom, hempty]
          by_cases hlarge : capacity ≤ bytes.length
          · rw [if_neg (by simpa [room] using hlarge)]
          · simp [room, hlarge, Nat.lt_of_not_le hlarge]
        have happend : (b.append capacity bytes faults).2.file =
            (room.append capacity bytes { faults with flushFirst := none }).2.file := by
          unfold append
          rw [hwrite]
        have htake (n : Nat) : (b.buffer ++ bytes).take (b.buffer.length + n) =
            b.buffer ++ bytes.take n := by
          rw [List.take_append, List.take_of_length_le (Nat.le_add_right _ _),
            Nat.add_sub_cancel_left]
        rw [happend]
        simp only [htake]
        rw [← List.append_assoc]
        by_cases hlarge : capacity ≤ bytes.length
        · rw [if_pos hlarge]
          exact append_file_direct rfl hlarge
        · rw [if_neg hlarge]
          have hpush : room.writeAll capacity bytes none faults.direct =
              (.ok (), room.push bytes) := by
            unfold writeAll
            rw [if_pos (by simpa [room] using Nat.lt_of_not_le hlarge)]
          exact append_file_small hpush
  · rw [if_neg hout]
    rw [not_or] at hout
    apply append_file_small
    unfold writeAll makeRoom
    by_cases hsmall : bytes.length < capacity - b.buffer.length
    · rw [if_pos hsmall]
    · rw [if_neg hsmall, if_neg hout.right]
      exact if_neg hout.left

theorem append_of_emitted {capacity : Nat} {b : BufferedFile α} {bytes : List α}
    {faults : AppendFaults} (hcapacity : 0 < capacity) (hne : bytes ≠ [])
    (hall : emitted capacity b bytes faults = (b.buffer ++ bytes).length)
    (hsync : faults.sync = none) : (b.append capacity bytes faults).1 = .ok () := by
  have hfile := append_file b bytes faults hcapacity
  have hpos : 0 < bytes.length := List.length_pos_iff.mpr hne
  rw [hall, List.take_length] at hfile
  cases happend : b.append capacity bytes faults with
  | mk result after =>
      rw [happend] at hfile
      have hlength : after.file.length = _ := congrArg List.length hfile
      simp only [List.length_append] at hlength
      cases append_appended hcapacity happend with
      | done _ _ _ => rfl
      | kept hmoved =>
          have hle := congrArg List.length hmoved.contents
          simp only [contents, List.length_append] at hle
          omega
      | pending hmoved hcause =>
          rcases hcause with hbuffer | hfault
          · have hle := congrArg List.length hmoved.contents
            have hrest : 0 < after.buffer.length := List.length_pos_iff.mpr hbuffer
            simp only [contents, push, List.length_append] at hle
            omega
          · exact absurd hsync hfault
      | torn _ hlt htorn _ _ =>
          have hle := congrArg List.length htorn
          simp only [contents, List.length_append, List.length_take] at hle
          omega

theorem append_of_no_faults {capacity : Nat} {b : BufferedFile α}
    (hcapacity : 0 < capacity) (h : b.buffer = []) (bytes : List α) :
    b.append capacity bytes {} =
      (.ok (),
        { file := b.file ++ bytes, synced := (b.file ++ bytes).length, buffer := [] }) := by
  cases bytes with
  | nil =>
      have hwrite : b.writeAll capacity [] none none = (.ok (), b) := by
        unfold writeAll push
        rw [List.length_nil, if_pos (by rw [h]; exact hcapacity), List.append_nil]
      unfold append
      simp only [hwrite, flush_of_buffer_eq_nil h, sync, List.append_nil, h]
  | cons first rest =>
      have hall : emitted capacity b (first :: rest) {} =
          (b.buffer ++ first :: rest).length := by
        unfold emitted
        split
        · simp [effective, written]
        · rfl
      have hok := append_of_emitted hcapacity (List.cons_ne_nil _ _) hall rfl
      cases happend : b.append capacity (first :: rest) {} with
      | mk result after =>
          rw [happend] at hok
          cases hok
          cases append_appended hcapacity happend with
          | done hfile hsynced hbuffer =>
              rw [contents_of_buffer_eq_nil h] at hfile
              rw [← hfile, ← hsynced, ← hbuffer]

/-!
## Crashes
-/

/-- A crash leaves a prefix of the contents that keeps what was synchronised. -/
theorem crash_file (b : BufferedFile α) (cut : Nat) (hsynced : b.synced ≤ b.file.length) :
    exists m : Nat, b.synced ≤ m ∧ m ≤ b.file.length ∧ (b.crash cut).file = b.contents.take m := by
  refine ⟨min (max b.synced cut) b.file.length, ?_, Nat.min_le_right _ _, ?_⟩
  · exact Nat.le_min.mpr ⟨Nat.le_max_left _ _, hsynced⟩
  · change b.file.take (max b.synced cut) = _
    rw [contents, List.take_append_of_le_length (Nat.min_le_right _ _), List.take_eq_take_iff]
    simp

end BufferedFile

end Foundation
