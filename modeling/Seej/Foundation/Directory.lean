import Seej.Foundation.BufferedFile
import Mathlib.Logic.Function.Basic

/-!
# Directories and power failures

The names of one directory and the files behind them.  A name is changed at once
for the programs that look at it, but it becomes durable only when the directory is
synchronised: until then a power failure may bring back any of its earlier
meanings, independently of other names.  The bytes of a file are durable once it was
flushed; before that a power failure may leave any bytes.
-/

namespace Foundation

structure StoredFile (β : Type) where
  content : List β
  flushed : Bool

/-- What a name means now, and what it may mean again after a power failure. -/
structure NameSlot (β : Type) where
  current : Option (StoredFile β)
  earlier : List (Option (StoredFile β))

namespace NameSlot

variable {β : Type}

def empty : NameSlot β :=
  { current := none, earlier := [] }

/-- Every meaning that a power failure may leave. -/
def versions (slot : NameSlot β) : List (Option (StoredFile β)) :=
  slot.current :: slot.earlier

/-- The directory was synchronised. -/
def settle (slot : NameSlot β) : NameSlot β :=
  { slot with earlier := [] }

def assign (slot : NameSlot β) (file : Option (StoredFile β)) : NameSlot β :=
  { current := file, earlier := slot.versions }

@[simp] theorem versions_settle (slot : NameSlot β) : slot.settle.versions = [slot.current] := rfl

@[simp] theorem versions_assign (slot : NameSlot β) (file : Option (StoredFile β)) :
    (slot.assign file).versions = file :: slot.versions := rfl

def create (slot : NameSlot β) : NameSlot β :=
  match slot.current with
  | some _ => { slot with current := some ⟨[], false⟩ }
  | none => slot.assign (some ⟨[], false⟩)

def modify (slot : NameSlot β) (f : StoredFile β -> StoredFile β) : NameSlot β :=
  { slot with current := slot.current.map f }

/-- The choice of a power failure: one of the versions, and the bytes of a file that
was not flushed. -/
structure Pick (β : Type) where
  version : Nat
  torn : List β

def survive (slot : NameSlot β) (pick : Pick β) : NameSlot β :=
  { current := (slot.versions.getD pick.version slot.current).map fun file =>
      if file.flushed then file else ⟨pick.torn, true⟩
    earlier := [] }

/-- Every version is flushed, so that a power failure invents no bytes. -/
def Flushed (slot : NameSlot β) : Prop :=
  forall file : StoredFile β, some file ∈ slot.versions -> file.flushed = true

theorem survive_current {slot : NameSlot β} (h : slot.Flushed) (pick : Pick β) :
    (slot.survive pick).current ∈ slot.versions := by
  have hmem : slot.versions.getD pick.version slot.current ∈ slot.versions := by
    rw [List.getD_eq_getElem?_getD]
    cases hget : slot.versions[pick.version]? with
    | none => exact List.mem_cons_self
    | some version => exact List.mem_of_getElem? hget
  unfold survive
  cases hversion : slot.versions.getD pick.version slot.current with
  | none =>
      rw [hversion] at hmem
      exact hmem
  | some file =>
      rw [hversion] at hmem
      rw [Option.map_some, if_pos (h file hmem)]
      exact hmem

theorem survive_settle (slot : NameSlot β) (pick : Pick β) :
    slot.settle.survive pick = slot.survive ⟨0, pick.torn⟩ := by
  unfold survive settle versions
  cases pick.version with
  | zero => rfl
  | succ n => rfl

theorem survive_survive (slot : NameSlot β) (pick other : Pick β) :
    (slot.survive pick).survive other = slot.survive pick := by
  have hsame : forall current : Option (StoredFile β),
      (current.map fun file => if file.flushed then file else ⟨pick.torn, true⟩).map
        (fun file => if file.flushed then file else ⟨other.torn, true⟩) =
      current.map fun file => if file.flushed then file else ⟨pick.torn, true⟩ := by
    intro current
    cases current with
    | none => rfl
    | some file =>
        rw [Option.map_some, Option.map_some]
        cases hflushed : file.flushed with
        | true => rw [if_pos rfl, hflushed, if_pos rfl]
        | false => rfl
  have hversion : forall current : Option (StoredFile β),
      ([current] : List (Option (StoredFile β))).getD other.version current = current := by
    intro current
    cases other.version with
    | zero => rfl
    | succ n => rfl
  unfold survive versions
  simp only
  rw [hversion, hsame]

/-- After a change a name has its new meaning, or one that it could have before. -/
theorem survive_assign (slot : NameSlot β) (content : List β) (pick : Pick β) :
    ((slot.assign (some ⟨content, true⟩)).survive pick).current = some ⟨content, true⟩ ∨
      exists before : Pick β,
        (slot.assign (some ⟨content, true⟩)).survive pick = slot.survive before := by
  cases hversion : pick.version with
  | zero =>
      left
      unfold survive
      rw [hversion]
      rfl
  | succ n =>
      cases hget : slot.versions[n]? with
      | none =>
          left
          unfold survive
          rw [versions_assign, List.getD_eq_getElem?_getD, hversion, List.getElem?_cons_succ, hget]
          rfl
      | some version =>
          right
          refine ⟨⟨n, pick.torn⟩, ?_⟩
          unfold survive
          rw [versions_assign, List.getD_eq_getElem?_getD, hversion, List.getElem?_cons_succ,
            List.getD_eq_getElem?_getD, hget]
          rfl

end NameSlot

abbrev Directory (N β : Type) : Type :=
  N -> NameSlot β

/-- The faults of replacing a file through a temporary one.  An error of
synchronising the directory is not reported. -/
structure ReplaceFaults where
  create : Option String := none
  write : Option WriteFault := none
  sync : Option String := none
  rename : Option String := none
  namesSynced : Bool := true

inductive ReplaceStep where
  | create
  | write
  | sync
  | rename
deriving DecidableEq

namespace Directory

variable {N β : Type} [DecidableEq N]

def empty : Directory N β :=
  fun _ => NameSlot.empty

omit [DecidableEq N] in
def read (d : Directory N β) (name : N) : Option (List β) :=
  (d name).current.map StoredFile.content

def create (d : Directory N β) (name : N) : Directory N β :=
  Function.update d name (d name).create

def write (d : Directory N β) (name : N) (content : List β) : Directory N β :=
  Function.update d name ((d name).modify fun _ => ⟨content, false⟩)

def flush (d : Directory N β) (name : N) : Directory N β :=
  Function.update d name ((d name).modify fun file => { file with flushed := true })

def rename (d : Directory N β) (source target : N) : Directory N β :=
  Function.update (Function.update d target ((d target).assign (d source).current)) source
    ((d source).assign none)

omit [DecidableEq N] in
def syncNames (d : Directory N β) : Directory N β :=
  fun name => (d name).settle

omit [DecidableEq N] in
def survive (d : Directory N β) (pick : N -> NameSlot.Pick β) : Directory N β :=
  fun name => (d name).survive (pick name)

/-- Write the temporary file, flush it, and rename it over the other one. -/
def replace (d : Directory N β) (temp target : N) (content : List β) (faults : ReplaceFaults) :
    Except (ReplaceStep × String) Unit × Directory N β :=
  match faults.create with
  | some e => (.error (.create, e), d)
  | none =>
      let d := d.create temp
      match effective faults.write content.length with
      | some fault => (.error (.write, fault.message), d.write temp (content.take fault.written))
      | none =>
          let d := d.write temp content
          match faults.sync with
          | some e => (.error (.sync, e), d)
          | none =>
              let d := d.flush temp
              match faults.rename with
              | some e => (.error (.rename, e), d)
              | none =>
                  let d := d.rename temp target
                  (.ok (), if faults.namesSynced then d.syncNames else d)

/-!
## What a replacement can do
-/

/-- Nothing but the temporary file is changed, or the file is replaced as a whole. -/
inductive Replaced (d : Directory N β) (temp target : N) (content : List β) (synced : Bool) :
    Except (ReplaceStep × String) Unit -> Directory N β -> Prop where
  | kept {step : ReplaceStep} {message : String} {next : Directory N β}
      (hother : forall name : N, name ≠ temp -> next name = d name) :
      Replaced d temp target content synced (.error (step, message)) next
  | renamed {next : Directory N β} (hsynced : synced = false)
      (htarget : next target = (d target).assign (some ⟨content, true⟩))
      (hother : forall name : N, name ≠ temp -> name ≠ target -> next name = d name) :
      Replaced d temp target content synced (.ok ()) next
  | settled {next : Directory N β} (hsynced : synced = true)
      (htarget : next target = ((d target).assign (some ⟨content, true⟩)).settle)
      (hother : forall name : N, name ≠ temp -> name ≠ target ->
        next name = (d name).settle) :
      Replaced d temp target content synced (.ok ()) next

theorem write_create_current (d : Directory N β) (temp : N) (content : List β) :
    (((d.create temp).write temp content).flush temp temp).current = some ⟨content, true⟩ := by
  unfold flush write create
  rw [Function.update_self, Function.update_self, Function.update_self]
  unfold NameSlot.create
  cases (d temp).current <;> rfl

theorem rename_target {d : Directory N β} {source target : N} (h : target ≠ source) :
    d.rename source target target = (d target).assign (d source).current := by
  unfold rename
  rw [Function.update_of_ne h, Function.update_self]

theorem rename_other {d : Directory N β} {source target name : N} (hsource : name ≠ source)
    (htarget : name ≠ target) : d.rename source target name = d name := by
  unfold rename
  rw [Function.update_of_ne hsource, Function.update_of_ne htarget]

theorem prepare_other {d : Directory N β} {temp name : N} (content : List β) (h : name ≠ temp) :
    d.create temp name = d name ∧ (d.create temp).write temp content name = d name ∧
      ((d.create temp).write temp content).flush temp name = d name := by
  unfold flush write create
  refine ⟨Function.update_of_ne h _ _, ?_, ?_⟩
  · rw [Function.update_of_ne h, Function.update_of_ne h]
  · rw [Function.update_of_ne h, Function.update_of_ne h, Function.update_of_ne h]

theorem replace_cases {d : Directory N β} {temp target : N} (hne : target ≠ temp)
    (content : List β) (faults : ReplaceFaults) :
    Replaced d temp target content faults.namesSynced (d.replace temp target content faults).1
      (d.replace temp target content faults).2 := by
  unfold replace
  cases faults.create with
  | some _ => exact Replaced.kept fun _ _ => rfl
  | none =>
      simp only
      cases effective faults.write content.length with
      | some fault => exact Replaced.kept fun name h => (prepare_other _ h).right.left
      | none =>
          simp only
          cases faults.sync with
          | some _ => exact Replaced.kept fun name h => (prepare_other _ h).right.left
          | none =>
              simp only
              cases faults.rename with
              | some _ => exact Replaced.kept fun name h => (prepare_other _ h).right.right
              | none =>
                  simp only
                  have hcurrent := write_create_current d temp content
                  have htarget := (prepare_other (d := d) content hne).right.right
                  cases faults.namesSynced with
                  | true =>
                      apply Replaced.settled rfl
                      · rw [if_pos rfl, syncNames, rename_target hne, hcurrent, htarget]
                      · intro name hsource hother
                        rw [if_pos rfl, syncNames, rename_other hsource hother,
                          (prepare_other content hsource).right.right]
                  | false =>
                      rw [if_neg Bool.false_ne_true]
                      apply Replaced.renamed rfl
                      · rw [rename_target hne, hcurrent, htarget]
                      · intro name hsource hother
                        rw [rename_other hsource hother,
                          (prepare_other content hsource).right.right]

namespace Replaced

variable {d next : Directory N β} {temp target : N} {content : List β} {synced : Bool}
  {result : Except (ReplaceStep × String) Unit}

omit [DecidableEq N] in
/-- The new content is there, or the old one is. -/
theorem read_target (h : Replaced d temp target content synced result next)
    (hne : target ≠ temp) :
    next.read target = some content ∨ next.read target = d.read target := by
  cases h with
  | kept hother =>
      right
      unfold read
      rw [hother target hne]
  | renamed _ htarget _ =>
      left
      unfold read
      rw [htarget]
      rfl
  | settled _ htarget _ =>
      left
      unfold read
      rw [htarget]
      rfl

omit [DecidableEq N] in
theorem read_of_ok (h : Replaced d temp target content synced (.ok ()) next) :
    next.read target = some content := by
  unfold read
  cases h with
  | renamed _ htarget _ =>
      rw [htarget]
      rfl
  | settled _ htarget _ =>
      rw [htarget]
      rfl

omit [DecidableEq N] in
theorem read_other (h : Replaced d temp target content synced result next) {name : N}
    (htemp : name ≠ temp) (htarget : name ≠ target) : next.read name = d.read name := by
  unfold read
  cases h with
  | kept hother => rw [hother name htemp]
  | renamed _ _ hother => rw [hother name htemp htarget]
  | settled _ _ hother =>
      rw [hother name htemp htarget]
      rfl

omit [DecidableEq N] in
theorem versions_target (h : Replaced d temp target content synced result next)
    (hne : target ≠ temp) {version : Option (StoredFile β)}
    (hmem : version ∈ (next target).versions) :
    version = some ⟨content, true⟩ ∨ version ∈ (d target).versions := by
  cases h with
  | kept hother =>
      rw [hother target hne] at hmem
      exact Or.inr hmem
  | renamed _ htarget _ =>
      rw [htarget, NameSlot.versions_assign] at hmem
      exact List.mem_cons.mp hmem
  | settled _ htarget _ =>
      rw [htarget, NameSlot.versions_settle] at hmem
      exact Or.inl (List.mem_singleton.mp hmem)

/-- A power failure after the replacement leaves the new file, or what one before it
could have left; the other names are as one before it could have left them. -/
theorem survive (h : Replaced d temp target content synced result next) (hne : target ≠ temp)
    (pick : N -> NameSlot.Pick β) :
    exists before : N -> NameSlot.Pick β,
      (forall name : N, name ≠ temp -> name ≠ target ->
        next.survive pick name = d.survive before name) ∧
      ((next.survive pick target).current = some ⟨content, true⟩ ∨
        next.survive pick target = d.survive before target) := by
  cases h with
  | kept hother =>
      refine ⟨pick, ?_, Or.inr ?_⟩
      · intro name htemp _
        show (next name).survive _ = _
        rw [hother name htemp]
        rfl
      · show (next target).survive _ = _
        rw [hother target hne]
        rfl
  | renamed _ htarget hother =>
      rcases NameSlot.survive_assign (d target) content (pick target) with hnew | ⟨before, hold⟩
      · refine ⟨pick, ?_, Or.inl ?_⟩
        · intro name htemp hname
          show (next name).survive _ = _
          rw [hother name htemp hname]
          rfl
        · show ((next target).survive _).current = _
          rw [htarget]
          exact hnew
      · refine ⟨Function.update pick target before, ?_, Or.inr ?_⟩
        · intro name htemp hname
          show (next name).survive _ = (d name).survive _
          rw [hother name htemp hname, Function.update_of_ne hname]
        · show (next target).survive _ = (d target).survive _
          rw [htarget, hold, Function.update_self]
  | settled _ htarget hother =>
      refine ⟨fun name => ⟨0, (pick name).torn⟩, ?_, Or.inl ?_⟩
      · intro name htemp hname
        show (next name).survive _ = _
        rw [hother name htemp hname, NameSlot.survive_settle]
        rfl
      · show ((next target).survive _).current = _
        rw [htarget, NameSlot.survive_settle]
        rfl

omit [DecidableEq N] in
/-- Once the directory was synchronised the name can mean the new file only. -/
theorem versions_settled (h : Replaced d temp target content true (.ok ()) next) :
    (next target).versions = [some ⟨content, true⟩] := by
  cases h with
  | renamed hsynced _ _ => cases hsynced
  | settled _ htarget _ =>
      rw [htarget]
      rfl

omit [DecidableEq N] in
theorem versions_other (h : Replaced d temp target content synced result next) {name : N}
    (htemp : name ≠ temp) (htarget : name ≠ target) {version : Option (StoredFile β)}
    (hmem : version ∈ (next name).versions) : version ∈ (d name).versions := by
  cases h with
  | kept hother =>
      rw [hother name htemp] at hmem
      exact hmem
  | renamed _ _ hother =>
      rw [hother name htemp htarget] at hmem
      exact hmem
  | settled _ _ hother =>
      rw [hother name htemp htarget] at hmem
      rw [List.mem_singleton.mp hmem]
      exact List.mem_cons_self

end Replaced

end Directory

end Foundation
