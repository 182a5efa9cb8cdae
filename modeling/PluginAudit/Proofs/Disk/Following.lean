import PluginAudit.Proofs.Disk.Tree

/-!
# Following a path along names

Names behind a path are followed from where the path leads, with the links that it has left.  So a
path that leads somewhere leads through directories, and names that come back to where they were
can be left out.  No path leads to a link.
-/

namespace PluginAudit

open PluginAudit.Text

def Entry.isLink : Entry → Bool
  | .link _ => true
  | _ => false

namespace Disk

variable {d : Disk} {follow : Bool} {links more : Nat} {here location : Location} {names others : List String}
  {p : Path} {name : String}

/-! ## Names behind names -/

/-- With more links allowed, names lead to the same place. -/
theorem followFrom_more (le : links ≤ more) (led : d.followFrom follow links here names = .ok ⟨location, true⟩) :
    d.followFrom follow more here names = .ok ⟨location, true⟩ := by
  fun_induction followFrom d follow links here names generalizing more with
  | case1 => simpa [followFrom] using led
  | case4 | case5 | case7 | case10 => simp at led
  | case8 =>
    -- the link that is expanded here uses up one of either
    obtain ⟨fewer, rfl⟩ : ∃ fewer, more = fewer + 1 := ⟨more - 1, by omega⟩
    rw [followFrom]
    simp_all +zetaDelta
  | _ =>
    rw [followFrom]
    simp_all +zetaDelta

/-- Whatever names follow are followed from where the first ones lead, with the links that these
have left. -/
theorem exists_left (led : d.followFrom true links here names = .ok ⟨location, true⟩) :
    ∃ left ≤ links, ∀ follow others, others ≠ [] →
      d.followFrom follow links here (names ++ others) = d.followFrom follow left location others := by
  fun_induction followFrom d true links here names with
  | case1 =>
    cases led
    exact ⟨_, le_rfl, fun _ _ _ => rfl⟩
  | case4 | case5 | case7 | case10 => simp at led
  | case6 => simp_all
  | _ =>
    rename_i inductionHypothesis
    obtain ⟨left, le, goesOn⟩ := inductionHypothesis led
    refine ⟨left, by omega, fun follow others continued => ?_⟩
    rw [List.cons_append, followFrom, ← goesOn follow others continued]
    simp_all +zetaDelta

/-- Names that lead somewhere lead somewhere up to each of them. -/
theorem exists_middle (continued : others ≠ [])
    (led : d.followFrom follow links here (names ++ others) = .ok ⟨location, true⟩) :
    ∃ middle, d.followFrom true links here names = .ok ⟨middle, true⟩ := by
  fun_induction followFrom d true links here names with
  | case1 => exact ⟨_, rfl⟩
  | case6 => simp_all
  | _ =>
    rw [List.cons_append, followFrom] at led
    simp_all +zetaDelta

/-- Only in a directory names lead on. -/
theorem isDirectory_of_followFrom (continued : names ≠ [])
    (led : d.followFrom follow links here names = .ok ⟨location, true⟩) : d.entry? here = some .directory := by
  obtain ⟨first, others, rfl⟩ := List.exists_cons_of_ne_nil continued
  rw [followFrom] at led
  split at led
  · assumption
  · cases led

/-! ## Names behind a path -/

/-- Where a path starts. -/
def start (d : Disk) (p : Path) : Location := if p.isAbsolute then [] else d.workingDirectory

theorem namesOf_name (isName : IsName name) : namesOf name.toList = [name] := by
  have piece : splitOn '/' name.toList = [name.toList] := by
    simp [splitOn, splitBy_of_none isName.1]
  simp [namesOf, piece, isName.2.1]

/-- A path along names asks for these behind those of the path. -/
theorem exists_text_along (given : p.text ≠ "") (isName : ∀ name ∈ names, IsName name) :
    (p.along names).text ≠ "" ∧ (p.along names).isAbsolute = p.isAbsolute ∧
      namesOf (p.along names).text.toList = namesOf p.text.toList ++ names := by
  induction names generalizing p with
  | nil => simp [Path.along, given]
  | cons name rest inductionHypothesis =>
    obtain ⟨here, later⟩ := List.forall_mem_cons.mp isName
    obtain ⟨front, text_eq, sameNames, sameStart⟩ := exists_text_join here given
    have joinedGiven : (p.join name).text ≠ "" := by
      intro empty
      simp [empty] at text_eq
    obtain ⟨alongGiven, alongStart, alongNames⟩ := inductionHypothesis joinedGiven later
    refine ⟨alongGiven, alongStart.trans sameStart, ?_⟩
    rw [text_eq, namesOf_slash, sameNames, namesOf_name here] at alongNames
    simpa [Path.along] using alongNames

theorem along_concat (p : Path) (names : List String) (name : String) :
    p.along (names ++ [name]) = (p.along names).join name := by
  simp [Path.along]

theorem place_along (given : p.text ≠ "") (isName : ∀ name ∈ names, IsName name) (some : names ≠ []) :
    d.place follow (p.along names) = d.followFrom follow maximalLinks (d.start p) (namesOf p.text.toList ++ names) := by
  cases names using List.reverseRecOn with
  | nil => exact absurd rfl some
  | append_singleton before name =>
    have isNameBefore : ∀ other ∈ before, IsName other := fun other member => isName other (by simp [member])
    have isNameLast : IsName name := isName name (by simp)
    obtain ⟨givenBefore, startBefore, namesBefore⟩ := exists_text_along given isNameBefore
    obtain ⟨front, text_eq, sameNames, sameStart⟩ := exists_text_join isNameLast givenBefore
    have notEmpty : (p.along (before ++ [name])).text.isEmpty = false := by
      simpa using (exists_text_along given isName).1
    rw [along_concat] at notEmpty ⊢
    rw [place, notEmpty]
    simp only [Bool.false_eq_true, if_false]
    rw [steps_slash_name isNameLast text_eq, sameNames, namesBefore, sameStart, startBefore, start, List.append_assoc]

/-- Where a path leads, its names do, be there a slash at its end or not. -/
theorem followFrom_of_locate (located : d.locate p = .ok location) :
    d.followFrom true maximalLinks (d.start p) (namesOf p.text.toList) = .ok ⟨location, true⟩ := by
  obtain ⟨given, led⟩ := place_of_locate located
  simp only [place, String.isEmpty_iff, given, if_false] at led
  rcases steps_eq p.text with same | same
  · rwa [same] at led
  · rw [same] at led
    obtain ⟨middle, front⟩ := exists_middle (by simp) led
    obtain ⟨left, -, goesOn⟩ := exists_left front
    rw [goesOn true ["."] (by simp)] at led
    rw [start, front]
    rw [followFrom] at led
    split at led
    · simpa [followFrom] using led
    · cases led

theorem locate_eq_ok_iff : d.locate p = .ok location ↔ d.place true p = .ok ⟨location, true⟩ := by
  constructor
  · exact fun located => (place_of_locate located).2
  · intro led
    simp [locate, led]

theorem locate_along_iff (located : d.locate p = .ok here) (isName : ∀ name ∈ names, IsName name) :
    d.locate (p.along names) = .ok location ↔
      d.followFrom true maximalLinks (d.start p) (namesOf p.text.toList ++ names) = .ok ⟨location, true⟩ := by
  by_cases some : names = []
  · subst some
    rw [List.append_nil, followFrom_of_locate located]
    simp [Path.along, located]
  · rw [locate_eq_ok_iff, place_along (place_of_locate located).1 isName some]

/-- A path that leads somewhere leads through directories. -/
theorem exists_locate_front (located : d.locate p = .ok here) (isName : ∀ name ∈ names ++ others, IsName name)
    (continued : others ≠ []) (led : d.locate (p.along (names ++ others)) = .ok location) :
    ∃ middle, d.locate (p.along names) = .ok middle ∧ d.entry? middle = some .directory := by
  rw [locate_along_iff located isName, ← List.append_assoc] at led
  obtain ⟨middle, front⟩ := exists_middle continued led
  obtain ⟨left, -, goesOn⟩ := exists_left front
  rw [goesOn true others continued] at led
  have isNameFront : ∀ name ∈ names, IsName name := fun name member =>
    isName name (List.mem_append_left others member)
  exact ⟨middle, (locate_along_iff located isNameFront).mpr front, isDirectory_of_followFrom continued led⟩

/-- Names that lead back to where others before them led can be left out. -/
theorem locate_shortcut {round rest : List String} (located : d.locate p = .ok here)
    (isName : ∀ name ∈ names ++ round ++ rest, IsName name)
    (back : d.locate (p.along (names ++ round)) = d.locate (p.along names))
    (led : d.locate (p.along (names ++ round ++ rest)) = .ok location) :
    d.locate (p.along (names ++ rest)) = .ok location := by
  by_cases none : round = []
  · simpa [none] using led
  by_cases last : rest = []
  · subst last
    rw [List.append_nil] at led ⊢
    exact back.symm.trans led
  have isNameRound : ∀ name ∈ names ++ round, IsName name := fun name member =>
    isName name (List.mem_append_left rest member)
  have isNameFront : ∀ name ∈ names, IsName name := fun name member =>
    isNameRound name (List.mem_append_left round member)
  have isNameShort : ∀ name ∈ names ++ rest, IsName name := by
    intro name member
    refine isName name ?_
    simp only [List.mem_append] at member ⊢
    tauto
  obtain ⟨middle, roundLed, -⟩ := exists_locate_front located isName last led
  have frontLed := back.symm.trans roundLed
  rw [locate_along_iff located isNameRound, ← List.append_assoc] at roundLed
  rw [locate_along_iff located isNameFront] at frontLed
  rw [locate_along_iff located isName, ← List.append_assoc, ← List.append_assoc] at led
  rw [locate_along_iff located isNameShort, ← List.append_assoc]
  -- behind the first names the round uses up links and comes back
  obtain ⟨left, -, fromFront⟩ := exists_left frontLed
  rw [fromFront true round none] at roundLed
  obtain ⟨fewer, le, fromRound⟩ := exists_left roundLed
  rw [List.append_assoc, fromFront true (round ++ rest) (by simp [none]), fromRound true rest last] at led
  rw [fromFront true rest last]
  exact followFrom_more le led

/-! ## Entries under a name -/

/-- A path leads to an entry of a directory that is a link itself. -/
def isLink (d : Disk) (p : Path) : Bool :=
  match d.place false p with
  | .ok found => (d.entry? found.location).any Entry.isLink
  | .error _ => false

theorem isLink_join (located : d.locate p = .ok here) (isDirectory : d.entry? here = some .directory)
    (isName : IsName name) : d.isLink (p.join name) = (d.entry? (here ++ [name])).any Entry.isLink := by
  simp [isLink, place_join located isDirectory isName]

/-- In a directory a name leads to its entry if that is no link. -/
theorem followFrom_entry {directory : Location} (isDirectory : d.entry? directory = some .directory) (isName : IsName name)
    {entry : Entry} (found : d.entry? (directory ++ [name]) = some entry) (notLink : entry.isLink = false) :
    d.followFrom follow links directory [name] = .ok ⟨directory ++ [name], true⟩ := by
  have notIdle : (name == ".") = false ∧ (name == "..") = false := by simpa using isName.2.2
  cases entry with
  | link target => cases notLink
  | file content executable => simp [followFrom, isDirectory, notIdle, found]
  | directory => simp [followFrom, isDirectory, notIdle, found]

/-- An entry that is no link is where its name is in its directory. -/
theorem locate_join (located : d.locate p = .ok here) (isDirectory : d.entry? here = some .directory)
    (isName : IsName name) {entry : Entry} (found : d.entry? (here ++ [name]) = some entry)
    (notLink : entry.isLink = false) : d.locate (p.join name) = .ok (here ++ [name]) := by
  obtain ⟨left, led⟩ := exists_place_join located isName true
  rw [locate_eq_ok_iff, led, followFrom_entry isDirectory isName found notLink]

/-- A path with a name joined to it asks for that name last, also where nothing is before it. -/
theorem exists_steps_join (isName : IsName name) (p : Path) :
    (p.join name).text ≠ "" ∧ ∃ front, steps (p.join name).text = front ++ [name] := by
  by_cases given : p.text = ""
  · have joined : p.join name = ⟨name⟩ := by
      unfold Path.join
      simp [given]
    have piece : splitOn '/' name.toList = [name.toList] := by
      simp [splitOn, splitBy_of_none isName.1]
    rw [joined]
    exact ⟨isName.2.1, [], by simp [steps, piece, isName.2.1]⟩
  · obtain ⟨front, text_eq, -, -⟩ := exists_text_join isName given
    refine ⟨fun empty => ?_, namesOf front, steps_slash_name isName text_eq⟩
    simp [empty] at text_eq

/-- Where there is an entry under a name, there is a directory that it is in. -/
theorem exists_directory_of_hasEntry (isName : IsName name) (present : d.hasEntry (p.join name)) :
    ∃ directory left, d.entry? directory = some .directory ∧
      ∀ follow, d.place follow (p.join name) = d.followFrom follow left directory [name] := by
  obtain ⟨given, front, steps_eq⟩ := exists_steps_join isName p
  have place_eq (follow : Bool) : d.place follow (p.join name) =
      d.followFrom follow maximalLinks (d.start (p.join name)) (front ++ [name]) := by
    simp [place, given, steps_eq, start]
  unfold hasEntry at present
  cases led : d.place false (p.join name) with
  | error fault => simp [led] at present
  | ok found =>
    obtain ⟨location, _⟩ := found
    simp only [led] at present
    subst present
    rw [place_eq] at led
    obtain ⟨directory, ledFront⟩ := exists_middle (List.cons_ne_nil name []) led
    obtain ⟨left, -, goesOn⟩ := exists_left ledFront
    rw [goesOn false [name] (List.cons_ne_nil name [])] at led
    refine ⟨directory, left, isDirectory_of_followFrom (List.cons_ne_nil name []) led, fun follow => ?_⟩
    rw [place_eq, goesOn follow [name] (List.cons_ne_nil name [])]

/-- There is an entry at a location, and it is no link. -/
def Settled (d : Disk) (location : Location) : Prop :=
  ∃ entry, d.entry? location = some entry ∧ entry.isLink = false

theorem settled_of_isDirectory (isDirectory : d.entry? location = some .directory) : d.Settled location :=
  ⟨.directory, isDirectory, rfl⟩

theorem settled_followFrom (tree : d.IsTree) (settled : names = [] → d.Settled here)
    (led : d.followFrom true links here names = .ok ⟨location, true⟩) : d.Settled location := by
  fun_induction followFrom d true links here names with
  | case1 =>
    cases led
    exact settled rfl
  | case4 | case5 | case7 | case10 => simp at led
  | case6 => simp_all
  | case2 _ _ _ _ isDirectory _ inductionHypothesis =>
    exact inductionHypothesis (fun _ => settled_of_isDirectory isDirectory) led
  | case3 _ here _ _ isDirectory _ _ inductionHypothesis =>
    -- above a directory is a directory, be it the root itself
    refine inductionHypothesis (fun _ => settled_of_isDirectory ?_) led
    cases here using List.reverseRecOn with
    | nil => rfl
    | append_singleton before name =>
      simpa using tree.isDirectory (List.cons_ne_nil name []) (Option.isSome_of_eq_some isDirectory)
  | case8 =>
    -- and so is where the text of a link is followed from
    rename_i isDirectory _ _ _ _ _ _ _ base inductionHypothesis
    refine inductionHypothesis (fun _ => settled_of_isDirectory ?_) led
    unfold base
    split
    · rfl
    · exact isDirectory
  | case9 =>
    rename_i entry notLink found inductionHypothesis
    refine inductionHypothesis (fun _ => ⟨entry, found, ?_⟩) led
    cases entry with
    | link target => exact absurd rfl (notLink target)
    | file | directory => rfl

/-- Every path but the empty one asks for something. -/
theorem steps_ne_nil {text : String} (given : text ≠ "") : steps text ≠ [] := by
  intro none
  simp only [steps] at none
  split at none
  case isTrue => simp at none
  case isFalse notMore =>
    have empty : ∀ piece ∈ splitOn '/' text.toList, piece = [] := by simpa using none
    obtain ⟨piece, last⟩ : ∃ piece, (splitOn '/' text.toList).getLast? = some piece :=
      Option.ne_none_iff_exists'.mp (by simp [splitOn, splitBy_ne_nil])
    obtain rfl : piece = [] := empty piece (List.mem_of_getLast? last)
    -- one empty piece is all there is of the empty text only
    have joined := joinWith_splitOn '/' text.toList
    rcases pieces : splitOn '/' text.toList with _ | ⟨only, _ | ⟨second, rest⟩⟩
    · simp [pieces] at last
    · rw [pieces] at empty joined
      rw [empty only (by simp)] at joined
      exact given (by simpa [joinWith] using joined.symm)
    · rw [last, pieces] at notMore
      simp at notMore

/-- A path does not lead to a link, as links are followed. -/
theorem settled_of_locate (tree : d.IsTree) (located : d.locate p = .ok location) : d.Settled location := by
  obtain ⟨given, led⟩ := place_of_locate located
  simp only [place, String.isEmpty_iff, given, if_false] at led
  exact settled_followFrom tree (fun none => absurd none (steps_ne_nil given)) led

end Disk

end PluginAudit
