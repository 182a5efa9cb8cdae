import PluginAudit.Proofs.Disk
import PluginAudit.Proofs.Text.Slicing

/-!
# Names below a directory

Following a path and then a name is following the name from where the path
leads to.  So where a path leads to a directory that may be changed, a file can
be written under every name that is free in it.
-/

namespace PluginAudit

open PluginAudit.Text

namespace Disk

variable {d : Disk} {follow : Bool} {links : Nat} {here location directory : Location}
  {names more : List String} {p : Path} {name : String}

/-! ## Names of a path -/

/-- A text that names an entry of a directory. -/
def IsName (name : String) : Prop :=
  (∀ c ∈ name.toList, (c == '/') = false) ∧ name ≠ "" ∧ name ≠ "." ∧ name ≠ ".."

instance (name : String) : Decidable (IsName name) :=
  -- only the characters of the name are looked at
  haveI : Decidable (∀ c ∈ name.toList, (c == '/') = false) := List.decidableBAll _ name.toList
  inferInstanceAs (Decidable (_ ∧ name ≠ "" ∧ name ≠ "." ∧ name ≠ ".."))

def namesOf (text : List Char) : List String :=
  ((splitOn '/' text).filter fun piece => !piece.isEmpty).map String.ofList

/-- A slash at the end asks for no more than that there is a directory. -/
theorem steps_eq (text : String) :
    steps text = namesOf text.toList ∨ steps text = namesOf text.toList ++ ["."] := by
  simp only [steps, namesOf]
  split
  · exact .inr rfl
  · exact .inl rfl

theorem namesOf_slash (front back : List Char) :
    namesOf (front ++ '/' :: back) = namesOf front ++ namesOf back := by
  simp [namesOf, splitOn, splitBy_append_cons]

/-- A text that ends with a name asks for no directory. -/
theorem steps_slash_name (isName : IsName name) {text : String} {front : List Char}
    (written : text.toList = front ++ '/' :: name.toList) : steps text = namesOf front ++ [name] := by
  have pieces : splitOn '/' text.toList = splitOn '/' front ++ [name.toList] := by
    simp [written, splitOn, splitBy_append_cons, splitBy_of_none isName.1]
  have notEmpty : ((splitOn '/' text.toList).getLast? == some []) = false := by
    simp [pieces, isName.2.1]
  simp only [steps, notEmpty, Bool.false_and, Bool.false_eq_true, if_false]
  simp [pieces, namesOf, isName.2.1]

theorem isAbsolute_eq (p : Path) : p.isAbsolute = (p.text.toList.head? == some '/') := by
  unfold Path.isAbsolute
  split
  · rename_i text_eq
    simp [text_eq]
  · rename_i notSlash
    cases text_eq : p.text.toList with
    | nil => rfl
    | cons c cs => simpa using fun same => notSlash cs (by rw [text_eq, same])

/-- A name is joined to a path behind a slash, which the path may end with. -/
theorem exists_text_join (isName : IsName name) (given : p.text ≠ "") :
    ∃ front, (p.join name).text.toList = front ++ '/' :: name.toList ∧
      namesOf front = namesOf p.text.toList ∧ (p.join name).isAbsolute = p.isAbsolute := by
  have relative : (Path.mk name).isAbsolute = false := by
    rw [isAbsolute_eq]
    cases text_eq : name.toList with
    | nil => rfl
    | cons c cs => exact isName.1 c (by simp [text_eq])
  unfold Path.join
  simp only [relative, Bool.false_eq_true, if_false]
  split
  · rename_i last
    simp [given] at last
  · rename_i last
    obtain ⟨front, text_eq⟩ := List.getLast?_eq_some_iff.mp last
    refine ⟨front, by simp [text_eq], ?_, ?_⟩
    · rw [text_eq, namesOf_slash]
      simp [namesOf, splitOn, splitBy]
    · cases front <;> simp [isAbsolute_eq, text_eq]
  · rename_i last
    refine ⟨p.text.toList, by simp, rfl, ?_⟩
    cases text_eq : p.text.toList with
    | nil => simp [text_eq] at last
    | cons c cs => simp [isAbsolute_eq, text_eq]

/-! ## Following names -/

/-- Behind names that lead to an entry, the following goes on from there. -/
theorem followFrom_append (led : d.followFrom true links here names = .ok ⟨location, true⟩)
    (continued : more ≠ []) :
    ∃ left, d.followFrom follow links here (names ++ more) =
      d.followFrom follow left location more := by
  fun_induction followFrom d true links here names with
  | case1 =>
    cases led
    exact ⟨_, rfl⟩
  | case4 | case5 | case7 | case10 => simp at led
  | case6 => simp_all
  | _ =>
    rw [List.cons_append, followFrom]
    simp_all +zetaDelta

/-- A `.` before further names makes no difference. -/
theorem followFrom_idle (names : List String) (continued : more ≠ []) :
    d.followFrom follow links here (names ++ "." :: more) =
      d.followFrom follow links here (names ++ more) := by
  -- with more names behind them, links are expanded also at the end of the names
  fun_induction followFrom d true links here names with
  | case1 =>
    obtain ⟨first, others, rfl⟩ := List.exists_cons_of_ne_nil continued
    simp only [List.nil_append]
    rw [followFrom]
    split
    · simp
    · rw [followFrom]
      simp_all
  | case6 => simp_all
  | _ =>
    simp only [List.cons_append]
    conv_lhs => rw [followFrom]
    conv_rhs => rw [followFrom]
    simp_all +zetaDelta

/-- In a directory a name leads to its entry, be it a link, or to a free place. -/
theorem followFrom_name (isDirectory : d.entry? directory = some .directory) (isName : IsName name) :
    d.followFrom false links directory [name] =
      .ok ⟨directory ++ [name], (d.entry? (directory ++ [name])).isSome⟩ := by
  have notIdle : (name == ".") = false ∧ (name == "..") = false := by simpa using isName.2.2
  rw [followFrom]
  simp only [isDirectory, notIdle, Bool.false_eq_true, if_false]
  cases d.entry? (directory ++ [name]) with
  | none => rfl
  | some entry => cases entry <;> simp [followFrom]

/-! ## Files of a directory -/

/-- A path leads to a directory in which entries can be made and removed. -/
structure Opens (d : Disk) (p : Path) (directory : Location) : Prop where
  located : d.locate p = .ok directory
  isDirectory : d.entry? directory = some .directory
  changeable : directory ∉ d.sealedDirectories

theorem place_of_locate (located : d.locate p = .ok location) :
    p.text ≠ "" ∧ d.place true p = .ok ⟨location, true⟩ := by
  unfold locate at located
  split at located
  · cases located
  · rename_i found led
    split at located
    · rename_i present
      obtain ⟨other, isPresent⟩ := found
      simp only at present
      subst present
      cases located
      refine ⟨?_, led⟩
      rintro empty
      simp [place, empty] at led
    · cases located

/-- A name below a path is looked up in the directory that the path leads to. -/
theorem exists_place_join (located : d.locate p = .ok directory) (isName : IsName name)
    (follow : Bool) :
    ∃ left, d.place follow (p.join name) = d.followFrom follow left directory [name] := by
  obtain ⟨given, led⟩ := place_of_locate located
  obtain ⟨front, text_eq, sameNames, sameStart⟩ := exists_text_join isName given
  have notEmpty : (p.join name).text.isEmpty = false := by
    have characters : (p.join name).text.toList ≠ [] := by simp [text_eq]
    simpa using characters
  simp only [place, String.isEmpty_iff, given, if_false] at led
  simp only [place, notEmpty, sameStart, steps_slash_name isName text_eq, sameNames]
  -- the slash that the path may end with asks for the directory the name is in
  rcases steps_eq p.text with same | same
  · rw [same] at led
    exact followFrom_append led (List.cons_ne_nil name [])
  · rw [same] at led
    rw [← followFrom_idle _ (List.cons_ne_nil name [])]
    simpa using followFrom_append led (List.cons_ne_nil name [])

theorem place_join (located : d.locate p = .ok directory)
    (isDirectory : d.entry? directory = some .directory) (isName : IsName name) :
    d.place false (p.join name) =
      .ok ⟨directory ++ [name], (d.entry? (directory ++ [name])).isSome⟩ := by
  obtain ⟨left, led⟩ := exists_place_join located isName false
  rw [led, followFrom_name isDirectory isName]

theorem hasEntry_join (located : d.locate p = .ok directory)
    (isDirectory : d.entry? directory = some .directory) (isName : IsName name) :
    d.hasEntry (p.join name) = (d.entry? (directory ++ [name])).isSome := by
  simp [hasEntry, place_join located isDirectory isName]

/-- A file can be written under a name that is free in an open directory. -/
theorem Opens.write_join (opens : d.Opens p directory) (isName : IsName name)
    (absent : d.hasEntry (p.join name) = false) (content : ByteArray) :
    d.write (p.join name) content = .ok (d.put (directory ++ [name]) (.file content false)) := by
  have led := place_join opens.located opens.isDirectory isName
  rw [hasEntry_join opens.located opens.isDirectory isName] at absent
  rw [absent] at led
  have notThere : d.hasEntry (p.join name) = false := by simp [hasEntry, led]
  have changeable : d.isSealed (directory ++ [name]) = false := by
    simpa [isSealed] using opens.changeable
  simp [write, place_true notThere, led, place_free led, changeable]

end Disk

end PluginAudit
