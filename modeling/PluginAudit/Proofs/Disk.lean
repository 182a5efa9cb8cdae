import PluginAudit.Proofs.SortedList

/-!
# Writing a file where there is none

A path that leads to a free place leads to the file that is written there, and
when that file is removed the tree is the one it was before.
-/

namespace PluginAudit

namespace Disk

/-- Whether there is an entry at a path, be it a link that leads nowhere. -/
def hasEntry (d : Disk) (p : Path) : Bool :=
  match d.place false p with
  | .ok found => found.present
  | .error _ => false

variable {d : Disk} {location : Location} {entry : Entry}

theorem entry?_put_other {other : Location} (different : other ≠ location) :
    entry? (d.put location entry) other = d.entry? other := by
  simp [put, entry?, Assoc.get?_put_other .location different]

theorem ne_nil_of_entry?_eq_none (absent : d.entry? location = none) : location ≠ [] := by
  rintro rfl
  simp [ entry?] at absent

theorem entry?_put_self (absent : d.entry? location = none) :
    entry? (d.put location entry) location = some entry := by
  simp [put, entry?, Assoc.get?_put_self .location, ne_nil_of_entry?_eq_none absent]

/-- Removing an entry that was stored where there was none gives back the tree. -/
theorem erase_put (absent : d.entry? location = none) : (d.put location entry).erase location = d := by
  have new : Assoc.get? location d.entries = none := by
    simpa [ne_nil_of_entry?_eq_none absent, entry?] using absent
  simp [erase, put, Assoc.erase_put .location new]

/-! ## Following names -/

/-- Where a free place is found, there is no entry. -/
theorem followFrom_free {follow : Bool} {links : Nat} {here : Location} {names : List String}
    {found : Place} (led : d.followFrom follow links here names = .ok found)
    (free : found.present = false) : d.entry? found.location = none := by
  fun_induction followFrom d follow links here names with
  | case1 => simp [← Except.ok.inj led] at free
  -- the only way to a free place: the last name has no entry in its directory
  | case4 _ _ _ _ _ _ _ _ absent =>
    rw [← Except.ok.inj led]
    exact absent
  | case6 => simp [← Except.ok.inj led] at free
  | _ => simp_all

/-- Expanding a link at the end makes no difference where there is no entry. -/
theorem followFrom_true {links : Nat} {here : Location} {names : List String}
    (free : ∀ found, d.followFrom false links here names = .ok found → found.present = false) :
    d.followFrom true links here names = d.followFrom false links here names := by
  fun_induction followFrom d false links here names with
  | case1 => exact absurd (free _ rfl) (by simp)
  | case6 => exact absurd (free _ rfl) (by simp)
  | _ => rw [followFrom]; simp_all +zetaDelta

/-- Names that lead to a place without entry lead to the file that is stored there. -/
theorem followFrom_put {follow present : Bool} {links : Nat} {here : Location} {names : List String}
    {content : ByteArray} {executable : Bool}
    (led : d.followFrom follow links here names = .ok ⟨location, present⟩)
    (absent : d.entry? location = none) :
    (d.put location (.file content executable)).followFrom follow links here names =
      .ok ⟨location, true⟩ := by
  -- every place on the way has an entry, so that it is not the one stored at
  have same {other : Location} {entry : Entry} (found : d.entry? other = some entry) :
      entry? (d.put location (.file content executable)) other = some entry := by
    rw [entry?_put_other, found]
    rintro rfl
    rw [absent] at found
    cases found
  have stored := @entry?_put_self d location (.file content executable) absent
  fun_induction followFrom d follow links here names with
  | case1 =>
    cases led
    rw [followFrom]
  | case4 =>
    rw [followFrom]
    simp_all +zetaDelta
    rw [followFrom]
  | _ => rw [followFrom]; simp_all +zetaDelta

/-! ## Paths -/

variable {p : Path} {content : ByteArray}

theorem place_true (absent : d.hasEntry p = false) : d.place true p = d.place false p := by
  unfold hasEntry place at *
  split at absent
  · rename_i found led
    split
    · rfl
    · rename_i notEmpty
      rw [if_neg notEmpty] at led
      exact followFrom_true fun other otherLed => by
        rw [Except.ok.inj (otherLed.symm.trans led)]
        exact absent
  · rename_i fault led
    split
    · rfl
    · rename_i notEmpty
      rw [if_neg notEmpty] at led
      exact followFrom_true fun other otherLed => by simp [led] at otherLed

theorem place_free {follow : Bool} (led : d.place follow p = .ok ⟨location, false⟩) :
    d.entry? location = none := by
  unfold place at led
  split at led
  · cases led
  · exact followFrom_free led rfl

theorem place_put {follow present executable : Bool}
    (led : d.place follow p = .ok ⟨location, present⟩) (absent : d.entry? location = none) :
    (d.put location (.file content executable)).place follow p = .ok ⟨location, true⟩ := by
  unfold place at *
  split at led
  · cases led
  · rename_i notEmpty
    rw [if_neg notEmpty]
    exact followFrom_put led absent

theorem pathExists_of_not_hasEntry (absent : d.hasEntry p = false) : d.pathExists p = false := by
  have same := place_true absent
  unfold hasEntry at absent
  unfold pathExists resolve? locate
  rw [same]
  split at absent
  · rename_i led
    simp [led, absent]
  · rename_i led
    simp [led]

/-- Where there is no entry, a file is written to a free place of a directory
that may be changed. -/
theorem write_of_not_hasEntry {changed : Disk} (absent : d.hasEntry p = false)
    (written : d.write p content = .ok changed) :
    ∃ location, d.place false p = .ok ⟨location, false⟩ ∧ d.isSealed location = false ∧
      changed = d.put location (.file content false) := by
  have same := place_true absent
  unfold hasEntry at absent
  unfold write at written
  rw [same] at written
  split at written
  · cases written
  · rename_i found led
    rw [led] at absent
    obtain ⟨location, present⟩ := found
    obtain rfl : present = false := absent
    simp only [place_free led] at written
    split at written
    · cases written
    · rename_i notSealed
      exact ⟨location, led, by simpa using notSealed, (Except.ok.inj written).symm⟩

/-- What was written where there was no entry is read back. -/
theorem read_write {changed : Disk} (absent : d.hasEntry p = false)
    (written : d.write p content = .ok changed) : changed.read p = .ok content := by
  obtain ⟨location, led, -, rfl⟩ := write_of_not_hasEntry absent written
  have ledTrue : d.place true p = .ok ⟨location, false⟩ := (place_true absent).trans led
  simp [read, locate, place_put ledTrue (place_free led), entry?_put_self (place_free led)]

/-- Removing a file that was written where there was no entry gives back the
tree. -/
theorem remove_write {changed : Disk} (absent : d.hasEntry p = false)
    (written : d.write p content = .ok changed) : changed.remove p = .ok d := by
  obtain ⟨location, led, notSealed, rfl⟩ := write_of_not_hasEntry absent written
  have stillNotSealed : (d.put location (.file content false)).isSealed location = false := notSealed
  simp [remove, place_put led (place_free led), entry?_put_self (place_free led), stillNotSealed,
    erase_put (place_free led)]

/-- Where a path leads to nothing, it leads to the file that is written there. -/
theorem pathExists_write {changed : Disk} (nothing : d.pathExists p = false)
    (written : d.write p content = .ok changed) : changed.pathExists p := by
  unfold pathExists resolve? locate at nothing
  unfold write at written
  cases led : d.place true p with
  | error fault =>
    rw [led] at written
    cases written
  | ok found =>
    obtain ⟨location, present⟩ := found
    have absent : d.entry? location = none := by
      cases present with
      | false => exact place_free led
      | true => simpa [led] using nothing
    simp only [led, absent] at written
    split at written
    · cases written
    · cases written
      simp [pathExists, resolve?, locate, place_put led absent, entry?_put_self absent]

end Disk

end PluginAudit
