import PluginAudit.Proofs.Disk.Directory

/-!
# What is at a path

Two trees can be the same at a path and different elsewhere.  A file that was
written where there was none can still be removed when other files have changed,
and then the tree is at its path as it was before.
-/

namespace PluginAudit

open PluginAudit.Text

namespace Disk

variable {d other : Disk} {location : Location} {names : List String} {p : Path} {name : String}
  {content : ByteArray} {executable : Bool}

/-- Two trees are the same at a path: it leads to the same place with the same entry,
in a directory that may be changed in both or in neither. -/
structure AgreesAt (d : Disk) (p : Path) (other : Disk) : Prop where
  place : d.place false p = other.place false p
  read : d.read p = other.read p
  entry : ∀ {found}, other.place false p = .ok found →
    d.entry? found.location = other.entry? found.location ∧
      d.isSealed found.location = other.isSealed found.location

theorem AgreesAt.refl (d : Disk) (p : Path) : d.AgreesAt p d := ⟨rfl, rfl, fun _ => ⟨rfl, rfl⟩⟩

/-! ## Removing a file -/

theorem entry?_erase_other {at_ : Location} (different : at_ ≠ location) :
    entry? (d.erase location) at_ = d.entry? at_ := by
  simp [erase, entry?, Assoc.get?_erase_other different]

theorem entry?_erase_self (ordered : Assoc.Ascending locationLess d.entries) (notRoot : location ≠ []) :
    entry? (d.erase location) location = none := by
  simp [erase, entry?, notRoot, Assoc.get?_erase_self .location location ordered]

/-- Names that lead to a regular file lead to a free place when it is removed, if the
last of them is its name. -/
theorem followFrom_erase {links : Nat} {here : Location} {names : List String}
    (last : names.getLast? = some name) (isName : IsName name)
    (removed : entry? (d.erase location) location = none)
    (file : d.entry? location = some (.file content executable))
    (led : d.followFrom false links here names = .ok ⟨location, true⟩) :
    (d.erase location).followFrom false links here names = .ok ⟨location, false⟩ := by
  -- a directory or a link on the way is not the file
  have same {other : Location} {entry : Entry} (found : d.entry? other = some entry)
      (notFile : entry ≠ .file content executable) :
      entry? (d.erase location) other = some entry := by
    rw [entry?_erase_other, found]
    rintro rfl
    exact notFile (Option.some.inj (found.symm.trans file))
  have directoryStays {other : Location} (found : d.entry? other = some .directory) :
      entry? (d.erase location) other = some .directory := same found (by simp)
  have notIdle : name ≠ "." ∧ name ≠ ".." := isName.2.2
  fun_induction followFrom d false links here names with
  | case1 => cases last
  | case2 _ _ _ rest isDirectory | case3 _ _ _ rest isDirectory =>
    rw [followFrom, directoryStays isDirectory]
    cases rest with
    | nil => simp_all
    | cons first others => simp_all
  | case4 | case5 | case7 | case10 => simp at led
  | case6 => simp_all
  | case8 _ _ rest isDirectory _ _ _ target isLink =>
    have linkStays := same isLink (by simp)
    rw [followFrom, directoryStays isDirectory]
    cases rest with
    | nil => simp_all
    | cons first others => simp_all +zetaDelta
  | case9 _ here step rest isDirectory notHere notUp child entry notLink found inductionHypothesis =>
    rw [followFrom, directoryStays isDirectory]
    cases rest with
    | nil =>
      -- the file itself was reached
      have reached : child = location := by simpa [followFrom] using led
      simp_all +zetaDelta
    | cons first others =>
      -- there is nothing below a file
      cases entry with
      | file _ _ => simp [followFrom, found] at led
      | directory =>
        have childStays := directoryStays found
        simp_all +zetaDelta
      | link target => exact absurd rfl (notLink target)

/-! ## Undoing a write -/

/-- The last step of a path to a name is the name. -/
theorem getLast?_steps_join (isName : IsName name) :
    (steps (p.join name).text).getLast? = some name := by
  by_cases given : p.text = ""
  · have joined : (p.join name).text = name := by simp [Path.join, given]
    simp [joined, steps, splitOn, splitBy_of_none isName.1, isName.2.1]
  · obtain ⟨front, text_eq, -, -⟩ := exists_text_join isName given
    simp [steps_slash_name isName text_eq]

theorem read_free (free : d.place false p = .ok ⟨location, false⟩) : d.read p = .error .missing := by
  have absent : d.hasEntry p = false := by simp [hasEntry, free]
  simp [read, locate, place_true absent, free]

/-- A file that was written to a free place can be removed as long as it is there,
and then the place is free as it was before. -/
theorem AgreesAt.exists_remove {written : Disk} (agrees : d.AgreesAt p written)
    (last : (steps p.text).getLast? = some name) (isName : IsName name)
    (absent : other.hasEntry p = false) (wrote : other.write p content = .ok written) :
    ∃ removed, d.remove p = .ok removed ∧
      (Assoc.Ascending locationLess d.entries → removed.AgreesAt p other) := by
  obtain ⟨location, free, notSealed, rfl⟩ := write_of_not_hasEntry absent wrote
  have leads : (other.put location (.file content false)).place false p = .ok ⟨location, true⟩ :=
    place_put free (place_free free)
  have led : d.place false p = .ok ⟨location, true⟩ := agrees.place.trans leads
  obtain ⟨sameEntry, sameSeal⟩ := agrees.entry leads
  have file : d.entry? location = some (.file content false) :=
    sameEntry.trans (entry?_put_self (place_free free))
  have changeable : d.isSealed location = false := sameSeal.trans notSealed
  refine ⟨d.erase location, by simp [remove, led, file, changeable], fun ordered => ?_⟩
  have gone : entry? (d.erase location) location = none :=
    entry?_erase_self ordered (ne_nil_of_entry?_eq_none (place_free free))
  have place : (d.erase location).place false p = .ok ⟨location, false⟩ := by
    unfold Disk.place at led ⊢
    split at led
    · cases led
    · rename_i given
      rw [if_neg given]
      exact followFrom_erase last isName gone file led
  refine ⟨place.trans free.symm, (read_free place).trans (read_free free).symm, fun there => ?_⟩
  obtain rfl := Except.ok.inj (there.symm.trans free)
  exact ⟨gone.trans (place_free free).symm, changeable.trans notSealed.symm⟩

end Disk

end PluginAudit
