import PluginAudit.Proofs.Disk
import PluginAudit.Proofs.RuntimeEnvironment

/-!
# What becomes of the drop-in file

A drop-in file that was written where there was none is found as it was written,
and its removal gives back the file tree.  A file of someone else in its place is
neither written nor removed.
-/

namespace PluginAudit

theorem Disk.pathExists_of_read {d : Disk} {p : Path} {content : ByteArray}
    (found : d.read p = .ok content) : d.pathExists p := by
  unfold read at found
  unfold pathExists resolve?
  split at found
  · cases found
  · rename_i location located
    simp only [located]
    split at found <;> simp_all

namespace RuntimeEnvironment

variable {world : World} {disk start : Disk}

/-- A file of someone else stands in the place of the drop-in file. -/
def HoldsForeign (world : World) : Prop :=
  ∃ content, world.disk.read (dropInPath world.host) = .ok content ∧ content ≠ dropInBytes

theorem HoldsForeign.congr {after : World} (foreign : HoldsForeign world) (disk : after.disk = world.disk)
    (path : dropInPath after.host = dropInPath world.host) : HoldsForeign after := by
  rwa [HoldsForeign, disk, path]

theorem runIn_writeDropIn_present (present : world.disk.pathExists (dropInPath world.host)) :
    writeDropIn.runIn world = (.ok (), world) := by
  unfold writeDropIn
  rw [Act.runIn_eq]
  simp [present]

/-- Where no file is found, writing one comes to what the disk says to it. -/
theorem runIn_writeDropIn_missing (missing : world.disk.pathExists (dropInPath world.host) = false) :
    writeDropIn.runIn world = match world.disk.write (dropInPath world.host) dropInBytes with
      | .ok disk => (.ok (), { world with disk })
      | .error fault => (.error (.file (dropInPath world.host) fault), world) := by
  unfold writeDropIn
  rw [Act.runIn_eq]
  simp only [missing]
  cases world.disk.write (dropInPath world.host) dropInBytes <;> rfl

theorem runIn_writeDropIn_written (absent : world.disk.hasEntry (dropInPath world.host) = false)
    (written : world.disk.write (dropInPath world.host) dropInBytes = .ok disk) :
    writeDropIn.runIn world = (.ok (), { world with disk }) := by
  rw [runIn_writeDropIn_missing (Disk.pathExists_of_not_hasEntry absent), written]

theorem runIn_removeDropIn_own (own : world.disk.read (dropInPath world.host) = .ok dropInBytes)
    (removed : world.disk.remove (dropInPath world.host) = .ok disk) :
    removeDropIn.runIn world = (.ok (), { world with disk }) := by
  unfold removeDropIn
  rw [Act.runIn_eq]
  have itself : (dropInBytes == dropInBytes) = true := beq_self_eq_true dropInBytes.data
  simp only [own, itself, if_true, removed]

theorem runIn_removeDropIn_written (absent : start.hasEntry (dropInPath world.host) = false)
    (written : start.write (dropInPath world.host) dropInBytes = .ok world.disk) :
    removeDropIn.runIn world = (.ok (), { world with disk := start }) :=
  runIn_removeDropIn_own (Disk.read_write absent written) (Disk.remove_write absent written)

theorem runIn_writeDropIn_foreign (foreign : HoldsForeign world) :
    writeDropIn.runIn world = (.ok (), world) := by
  obtain ⟨content, found, -⟩ := foreign
  exact runIn_writeDropIn_present (Disk.pathExists_of_read found)

theorem runIn_removeDropIn_foreign (foreign : HoldsForeign world) :
    removeDropIn.runIn world = (.ok (), world) := by
  obtain ⟨content, found, different⟩ := foreign
  unfold removeDropIn
  rw [Act.runIn_eq]
  have notOwn : (content == dropInBytes) = false := by
    change (content.data == dropInBytes.data) = false
    simpa [ByteArray.ext_iff] using different
  simp [found, notOwn]

end RuntimeEnvironment

end PluginAudit
