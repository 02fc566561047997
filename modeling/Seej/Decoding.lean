import Seej.Json
import Seej.SnapshotLemmas

/-!
# Round trips of snapshots

Decoding gives a world back as it was encoded or refuses it, and it refuses exactly the
worlds whose format, clocks, identifiers or zone index do not agree.
-/

namespace Seej

section Codec

variable [SnapshotJson] [SnapshotJson.Lossless]

/-- What was encoded from a world that is not coherent is refused. -/
theorem decodeWorld_refuses {world : World} {data : Bytes} (hnot : ¬ Savable world)
    (h : encodeWorld world = .ok data) : exists e : SimError, decodeWorld data = .error e := by
  have hslice := SnapshotJson.Lossless.fromSlice_toVec _ _ (encodeWorld_eq_ok.mp h)
  cases hdecode : decodeWorld data with
  | error e => exact ⟨e, rfl⟩
  | ok found =>
      exfalso
      rcases decodeWorld_eq_ok.mp hdecode with ⟨snapshot, hsnapshot, hsavable, _⟩
      rw [hslice] at hsnapshot
      rw [← Except.ok.inj hsnapshot, WorldSnapshotDto.toWorld_fromWorld] at hsavable
      exact hnot hsavable

omit [SnapshotJson.Lossless] in
theorem savable_of_decoded {world : World} {text : Bytes} (h : decodeWorld text = .ok world) :
    Savable world := by
  rcases decodeWorld_eq_ok.mp h with ⟨_, _, hsavable, hworld⟩
  rw [hworld]
  exact hsavable

/-- Decoding accepts exactly the coherent worlds, each as it was encoded, and every world
that it has accepted once. -/
theorem decodeWorld_accepts {world : World} {data : Bytes} (h : encodeWorld world = .ok data) :
    (Savable world -> decodeWorld data = .ok world) ∧
      (¬ Savable world -> exists e : SimError, decodeWorld data = .error e) ∧
      forall text : Bytes, decodeWorld text = .ok world -> decodeWorld data = .ok world :=
  ⟨fun hsavable => decodeWorld_encodeWorld hsavable h, fun hnot => decodeWorld_refuses hnot h,
    fun _ hdecode => decodeWorld_encodeWorld (savable_of_decoded hdecode) h⟩

end Codec

def unallocated : World :=
  { World.new "Vale" ⟨7⟩ with nextEntityId := 0 }

theorem decodeWorld_accepts_vale :
    letI := knownSnapshots
      [WorldSnapshotDto.fromWorld (World.new "Vale" ⟨7⟩), WorldSnapshotDto.fromWorld unallocated]
    exists data data' : Bytes,
      encodeWorld (World.new "Vale" ⟨7⟩) = .ok data ∧
        decodeWorld data = .ok (World.new "Vale" ⟨7⟩) ∧
        encodeWorld unallocated = .ok data' ∧ exists e : SimError, decodeWorld data' = .error e := by
  let _ := knownSnapshots
    [WorldSnapshotDto.fromWorld (World.new "Vale" ⟨7⟩), WorldSnapshotDto.fromWorld unallocated]
  have _ : SnapshotJson.Lossless := knownSnapshots_lossless (by decide +kernel)
  have hvale : encodeWorld (World.new "Vale" ⟨7⟩) =
      .ok (Json.snapshot (WorldSnapshotDto.fromWorld (World.new "Vale" ⟨7⟩))) := by
    decide +kernel
  have hunallocated : encodeWorld unallocated =
      .ok (Json.snapshot (WorldSnapshotDto.fromWorld unallocated)) := by
    decide +kernel
  refine ⟨_, _, hvale, (decodeWorld_accepts hvale).left ?_, hunallocated,
    (decodeWorld_accepts hunallocated).right.left ?_⟩
  · exact ⟨rfl, rfl, WorldIntegrity.new "Vale" ⟨7⟩⟩
  · exact fun hsavable => hsavable.integrity.next_valid rfl

end Seej
