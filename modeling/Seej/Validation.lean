import Mathlib.Data.List.Infix
import Seej.Api

/-!
# Validation

Checks made on a command before the simulation runs it, and on a world
identifier before the store builds a path from it.
-/

namespace Seej

/-!
## Commands
-/

def validateCreateWorld (cmd : CreateWorldCmd) : List ValidationError :=
  (if cmd.name.isEmpty then
    [⟨"name", "World name cannot be empty"⟩] else []) ++
  (if cmd.name.utf8ByteSize > 64 then
    [⟨"name", "World name too long (max 64 chars)"⟩] else [])

def validateSpawnEntity (_cmd : SpawnEntityCmd) : List ValidationError :=
  []

def validateCreateZone (cmd : CreateZoneCmd) : List ValidationError :=
  match cmd.name with
  | some name =>
      if name.utf8ByteSize > 64 then
        [⟨"name", "Zone name too long (max 64 chars)"⟩] else []
  | none => []

def validateTickN (n : UInt32) : List ValidationError :=
  if n = 0 then [⟨"n", "Tick count must be > 0"⟩]
  else if n > 10000 then [⟨"n", "Tick count too large (max 10000)"⟩]
  else []

def validateSimCommand (cmd : SimCommand) : Except (List ValidationError) Unit :=
  let errors :=
    match cmd with
    | .createWorld c => validateCreateWorld c
    | .spawnEntity c => validateSpawnEntity c
    | .createZone c => validateCreateZone c
    | .tickN n => validateTickN n
    | _ => []
  if errors.isEmpty then .ok () else .error errors

/-!
## World identifiers
-/

/-- ASCII letters, digits, `_` and `-`.  Every byte of another character is
outside this set, so checking characters agrees with checking bytes. -/
def isWorldIdChar (c : Char) : Bool :=
  c.isAlphanum || c == '_' || c == '-'

def validateWorldId (worldId : String) : List ValidationError :=
  let chars := worldId.toList
  if worldId.isEmpty then
    [⟨"world_id", "World ID cannot be empty"⟩]
  else
    (if worldId = "." ∨ worldId = ".." ∨ ['.', '.'] <:+: chars then
      [⟨"world_id", "World ID cannot contain path traversal"⟩] else []) ++
    (if '/' ∈ chars ∨ '\\' ∈ chars ∨ '\x00' ∈ chars then
      [⟨"world_id", "World ID cannot contain path separators or NUL"⟩] else []) ++
    (if ':' ∈ chars then
      [⟨"world_id", "World ID cannot contain drive or scheme separators"⟩] else []) ++
    (if chars.all isWorldIdChar then [] else
      [⟨"world_id",
        "World ID must use only ASCII letters, numbers, '_' or '-'"⟩])

def validateWorldIdResult (worldId : String) : SimResult Unit :=
  let errors := validateWorldId worldId
  if errors.isEmpty then .ok ()
  else
    .error (.invalidOperation
      ("Invalid world_id '" ++ worldId ++ "': [" ++
        ", ".intercalate (errors.map ValidationError.debug) ++ "]"))

/-!
## Generated world identifiers

A world is stored under the identifier derived from its seed, which passes the
identifier check for every seed.
-/

/-- `format!("world_{}", seed)`. -/
def worldIdOfSeed (seed : RngSeed) : String :=
  s!"world_{seed.val}"

theorem validateWorldId_of_chars {worldId : String}
    (hne : worldId ≠ "") (hchars : forall c, c ∈ worldId.toList -> isWorldIdChar c = true) :
    validateWorldId worldId = [] := by
  have hdot : '.' ∉ worldId.toList := fun h => absurd (hchars _ h) (by decide)
  have hslash : '/' ∉ worldId.toList := fun h => absurd (hchars _ h) (by decide)
  have hback : '\\' ∉ worldId.toList := fun h => absurd (hchars _ h) (by decide)
  have hnul : '\x00' ∉ worldId.toList := fun h => absurd (hchars _ h) (by decide)
  have hcolon : ':' ∉ worldId.toList := fun h => absurd (hchars _ h) (by decide)
  have hone : worldId ≠ "." := by
    intro h
    exact hdot (by rw [h]; decide)
  have htwo : worldId ≠ ".." := by
    intro h
    exact hdot (by rw [h]; decide)
  have hinfix : ¬ ['.', '.'] <:+: worldId.toList := by
    intro h
    exact hdot (h.subset (by simp))
  have hall : worldId.toList.all isWorldIdChar = true := List.all_eq_true.mpr hchars
  have hempty : worldId.isEmpty = false := by
    simpa using hne
  simp [validateWorldId, hempty, hone, htwo, hinfix, hslash, hback, hnul, hcolon, hall]

theorem validateWorldIdResult_iff {worldId : String} :
    validateWorldIdResult worldId = .ok () <->
      worldId ≠ "" ∧ forall c : Char, c ∈ worldId.toList -> isWorldIdChar c = true := by
  unfold validateWorldIdResult
  constructor
  · intro h
    simp only at h
    split at h
    · rename_i hnone
      have herrors : validateWorldId worldId = [] := List.isEmpty_iff.mp hnone
      unfold validateWorldId at herrors
      split at herrors
      · cases herrors
      · rename_i hne
        have hchars := (List.append_eq_nil_iff.mp herrors).right
        split at hchars
        · rename_i hall
          exact ⟨fun hempty => hne (by rw [hempty]; rfl), List.all_eq_true.mp hall⟩
        · cases hchars
    · cases h
  · rintro ⟨hne, hchars⟩
    rw [validateWorldId_of_chars hne hchars]
    rfl

theorem worldIdOfSeed_toList (seed : RngSeed) :
    (worldIdOfSeed seed).toList =
      ['w', 'o', 'r', 'l', 'd', '_'] ++ Nat.toDigits 10 seed.val.toNat := by
  have htext : worldIdOfSeed seed = "world_" ++ seed.val.toNat.repr := rfl
  rw [htext, String.toList_append, Nat.toList_repr]
  rfl

theorem validateWorldIdResult_worldIdOfSeed (seed : RngSeed) :
    validateWorldIdResult (worldIdOfSeed seed) = .ok () := by
  have hne : worldIdOfSeed seed ≠ "" := by
    intro h
    have hlist := worldIdOfSeed_toList seed
    rw [h] at hlist
    simp at hlist
  have hchars : forall c, c ∈ (worldIdOfSeed seed).toList -> isWorldIdChar c = true := by
    intro c hc
    rw [worldIdOfSeed_toList] at hc
    rcases List.mem_append.mp hc with hprefix | hdigit
    · simp at hprefix
      rcases hprefix with h | h | h | h | h | h <;> subst h <;> decide
    · have hd := Nat.isDigit_of_mem_toDigits (by decide) (by decide) hdigit
      simp [isWorldIdChar, Char.isAlphanum, hd]
  exact validateWorldIdResult_iff.mpr ⟨hne, hchars⟩

end Seej
