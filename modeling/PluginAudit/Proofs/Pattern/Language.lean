import Mathlib.Computability.Language
import PluginAudit.Proofs.Pattern.Bytes

/-!
# What regular expressions take up

The places a match may end at, put down as the language of what lies before them.  The language
of an expression is put together from those of its parts, and an expression that is tied to both
ends of a text matches the texts of its language and no others.
-/

namespace PluginAudit

open PluginAudit.Text PluginAudit.Text.Utf8

/-! ## Places of a text -/

/-- A front of what follows a place leads to another one. -/
inductive Cursor.Passes : Cursor → List Char → Cursor → Prop
  | stay (here : Cursor) : Passes here [] here
  | next {before : Option Char} {c : Char} {rest front : List Char} {offset : Nat} {there : Cursor}
      (later : Passes ⟨some c, rest, offset + c.utf8Size⟩ front there) :
      Passes ⟨before, c :: rest, offset⟩ (c :: front) there

namespace Cursor.Passes

variable {here there other : Cursor} {front back : List Char}

theorem rest_eq (passes : Passes here front there) : here.rest = front ++ there.rest := by
  induction passes with
  | stay => rfl
  | next _ inductionHypothesis => rw [List.cons_append, ← inductionHypothesis]

theorem offset_eq (passes : Passes here front there) : there.offset = here.offset + textSize front := by
  induction passes with
  | stay => rfl
  | next _ inductionHypothesis =>
    rw [inductionHypothesis, textSize_cons]
    exact Nat.add_assoc _ _ _

theorem determined (first : Passes here front there) (second : Passes here front other) : there = other := by
  induction first with
  | stay =>
    cases second
    rfl
  | next _ inductionHypothesis =>
    cases second with
    | next later => exact inductionHypothesis later

theorem append_iff : Passes here (front ++ back) there ↔ ∃ middle, Passes here front middle ∧ Passes middle back there := by
  induction front generalizing here with
  | nil =>
    refine ⟨fun passes => ⟨here, .stay here, passes⟩, ?_⟩
    rintro ⟨_, ⟨⟩, passes⟩
    exact passes
  | cons c cs inductionHypothesis =>
    constructor
    · rintro (_ | later)
      obtain ⟨middle, first, second⟩ := inductionHypothesis.mp later
      exact ⟨middle, .next first, second⟩
    · rintro ⟨middle, _ | first, second⟩
      exact .next (inductionHypothesis.mpr ⟨middle, first, second⟩)

theorem exists_end (here : Cursor) : ∃ there, Passes here here.rest there := by
  obtain ⟨before, rest, offset⟩ := here
  induction rest generalizing before offset with
  | nil => exact ⟨_, .stay _⟩
  | cons c cs inductionHypothesis =>
    obtain ⟨there, later⟩ := inductionHypothesis (some c) (offset + c.utf8Size)
    exact ⟨there, .next later⟩

theorem eq_nil_of_before (passes : Passes here front there) (start : there.before = none) : front = [] := by
  have moved : front = [] ∨ there.before.isSome := by
    clear start
    induction passes with
    | stay => exact .inl rfl
    | next later inductionHypothesis =>
      rcases inductionHypothesis with rfl | isSome
      · cases later
        exact .inr rfl
      · exact .inr isSome
  exact moved.resolve_right (by simp [start])

/-- A place is known by its offset. -/
theorem eq_of_offset_eq (first : Passes here front there) (second : Passes here back other)
    (same : there.offset = other.offset) : there = other := by
  rw [first.offset_eq, second.offset_eq, Nat.add_left_cancel_iff] at same
  obtain rfl := eq_of_textSize_eq ⟨_, first.rest_eq.symm⟩ ⟨_, second.rest_eq.symm⟩ same
  exact first.determined second

end Cursor.Passes

namespace Regex

open Cursor (Passes)

variable {a b : Regex} {A B : Language Char} {text : List Char}

/-! ## Ends of matches -/

theorem mem_distinctPlaces {places : List Cursor}
    (known : ∀ first ∈ places, ∀ second ∈ places, first.offset = second.offset → first = second) (seen : List Nat)
    (place : Cursor) : place ∈ distinctPlaces seen places ↔ place ∈ places ∧ place.offset ∉ seen := by
  induction places generalizing seen with
  | nil => simp [distinctPlaces]
  | cons first others inductionHypothesis =>
    have later := inductionHypothesis fun second member third member' =>
      known second (List.mem_cons_of_mem first member) third (List.mem_cons_of_mem first member')
    rw [distinctPlaces]
    split
    case isTrue again =>
      have seenFirst : first.offset ∈ seen := by simpa using again
      rw [later, List.mem_cons]
      refine ⟨fun both => ⟨.inr both.1, both.2⟩, fun both => ⟨both.1.resolve_left ?_, both.2⟩⟩
      rintro rfl
      exact both.2 seenFirst
    case isFalse new =>
      have unseenFirst : first.offset ∉ seen := by simpa using new
      rw [List.mem_cons, List.mem_cons, later, List.mem_cons, not_or]
      constructor
      · rintro (rfl | ⟨member, -, unseen⟩)
        · exact ⟨.inl rfl, unseenFirst⟩
        · exact ⟨.inr member, unseen⟩
      · rintro ⟨rfl | member, unseen⟩
        · exact .inl rfl
        · -- what the first place hides is that place itself
          by_cases same : place.offset = first.offset
          · exact .inl (known place (List.mem_cons_of_mem first member) first List.mem_cons_self same)
          · exact .inr ⟨member, same, unseen⟩

theorem distinct_eq (places : List Cursor) : distinct places = distinctPlaces [] places := by
  match places with
  | [] => rfl
  | [_] => rfl
  | _ :: _ :: _ => rfl

/-- Of places that are reached from one place none is lost when each is kept once. -/
theorem mem_distinct (here : Cursor) {places : List Cursor}
    (reached : ∀ place ∈ places, ∃ front, Passes here front place) (place : Cursor) :
    place ∈ distinct places ↔ place ∈ places := by
  rw [distinct_eq, mem_distinctPlaces]
  · simp
  · intro first isFirst second isSecond
    obtain ⟨_, toFirst⟩ := reached first isFirst
    obtain ⟨_, toSecond⟩ := reached second isSecond
    exact toFirst.eq_of_offset_eq toSecond

/-! ## Languages -/

/-- What an expression takes up is a text of a language, wherever it stands. -/
def Reads (r : Regex) (language : Language Char) : Prop :=
  ∀ here there, there ∈ r.ends here ↔ ∃ front ∈ language, Passes here front there

/-- An expression takes up all of what follows a place if that is a text of a language. -/
def ReadsAll (r : Regex) (language : Language Char) : Prop :=
  ∀ here there, there ∈ r.ends here ↔ here.rest ∈ language ∧ Passes here here.rest there

/-- The texts of one character or more that are made of characters of one kind. -/
def runsOf (p : Char → Bool) : Language Char := {text | text ≠ [] ∧ ∀ c ∈ text, p c}

theorem reads_char (set : CharSet) : Reads (.char set) {text | ∃ c, set.mem c ∧ text = [c]} := by
  rintro ⟨before, rest, offset⟩ there
  cases rest with
  | nil =>
    refine iff_of_false List.not_mem_nil ?_
    rintro ⟨_, ⟨c, -, rfl⟩, ⟨⟩⟩
  | cons c cs =>
    simp only [ends]
    split
    case isTrue inSet =>
      rw [List.mem_singleton]
      constructor
      · rintro rfl
        exact ⟨[c], ⟨c, inSet, rfl⟩, .next (.stay _)⟩
      · rintro ⟨_, ⟨d, -, rfl⟩, ⟨⟨⟩⟩⟩
        cases ‹Passes _ [] there›
        rfl
    case isFalse notInSet =>
      refine iff_of_false List.not_mem_nil ?_
      rintro ⟨_, ⟨d, inSet, rfl⟩, ⟨⟨⟩⟩⟩
      exact notInSet inSet

theorem reads_literal (c : Char) : Reads (.char (.oneOf [c])) {[c]} := by
  have same : ({[c]} : Language Char) = {text | ∃ d, (CharSet.oneOf [c]).mem d ∧ text = [d]} := by
    ext text
    change text = [c] ↔ ∃ d, (CharSet.oneOf [c]).mem d ∧ text = [d]
    simp [CharSet.mem]
  rw [same]
  exact reads_char _

theorem mem_runEnds {set : CharSet} {done : List Cursor} {before : Option Char} {offset : Nat} {rest : List Char}
    {there : Cursor} :
    there ∈ runEnds set done before offset rest ↔
      there ∈ done ∨ ∃ front ∈ runsOf set.mem, Passes ⟨before, rest, offset⟩ front there := by
  induction rest generalizing done before offset with
  | nil =>
    rw [runEnds, or_iff_left]
    rintro ⟨_, ⟨some, -⟩, ⟨⟩⟩
    exact some rfl
  | cons c cs inductionHypothesis =>
    rw [runEnds]
    split
    case isTrue inSet =>
      rw [inductionHypothesis, List.mem_cons, or_comm (a := there = _), or_assoc]
      refine or_congr_right ⟨?_, ?_⟩
      · rintro (rfl | ⟨front, ⟨-, all⟩, passes⟩)
        · exact ⟨[c], ⟨List.cons_ne_nil c [], by simpa using inSet⟩, .next (.stay _)⟩
        · exact ⟨c :: front, ⟨List.cons_ne_nil c front, List.forall_mem_cons.mpr ⟨inSet, all⟩⟩, .next passes⟩
      · rintro ⟨front, ⟨some, all⟩, passes⟩
        cases passes with
        | stay => exact absurd rfl some
        | @next _ _ _ front _ _ later =>
          cases front with
          | nil =>
            cases later
            exact .inl rfl
          | cons d ds => exact .inr ⟨d :: ds, ⟨List.cons_ne_nil d ds, (List.forall_mem_cons.mp all).2⟩, later⟩
    case isFalse notInSet =>
      rw [or_iff_left]
      rintro ⟨front, ⟨some, all⟩, passes⟩
      cases passes with
      | stay => exact some rfl
      | next _ => exact notInSet (all c List.mem_cons_self)

theorem reads_repeated (greedy : Bool) (set : CharSet) :
    Reads (.repeated greedy (.char set)) (runsOf set.mem) := by
  intro here there
  have member : there ∈ runEnds set [] here.before here.offset here.rest ↔
      there ∈ [] ∨ ∃ front ∈ runsOf set.mem, Passes here front there := mem_runEnds
  rw [or_iff_right List.not_mem_nil] at member
  cases greedy with
  | true => simpa [ends] using member
  | false => simpa [ends] using member

/-- The ends of a match are places behind its start. -/
def Advances (r : Regex) : Prop := ∀ here, ∀ there ∈ r.ends here, ∃ front, Passes here front there

theorem Reads.advances (reads : Reads a A) : Advances a := by
  intro here there member
  obtain ⟨front, -, passes⟩ := (reads here there).mp member
  exact ⟨front, passes⟩

theorem ReadsAll.advances (readsAll : ReadsAll a A) : Advances a :=
  fun here there member => ⟨here.rest, ((readsAll here there).mp member).2⟩

theorem mem_ends_sequence (first : Advances a) (second : Advances b) {here there : Cursor} :
    there ∈ (sequence a b).ends here ↔ ∃ middle ∈ a.ends here, there ∈ b.ends middle := by
  rw [ends, mem_distinct here, List.mem_flatMap]
  intro place member
  obtain ⟨middle, isMiddle, isEnd⟩ := List.mem_flatMap.mp member
  obtain ⟨front, toMiddle⟩ := first here middle isMiddle
  obtain ⟨back, toEnd⟩ := second middle place isEnd
  exact ⟨front ++ back, Passes.append_iff.mpr ⟨middle, toMiddle, toEnd⟩⟩

namespace Reads

theorem sequence (first : Reads a A) (second : Reads b B) : Reads (.sequence a b) (A * B) := by
  intro here there
  rw [mem_ends_sequence first.advances second.advances]
  constructor
  · rintro ⟨middle, isMiddle, isEnd⟩
    obtain ⟨front, inA, toMiddle⟩ := (first here middle).mp isMiddle
    obtain ⟨back, inB, toEnd⟩ := (second middle there).mp isEnd
    exact ⟨front ++ back, Language.append_mem_mul inA inB, Passes.append_iff.mpr ⟨middle, toMiddle, toEnd⟩⟩
  · rintro ⟨whole, inBoth, passes⟩
    obtain ⟨front, inA, back, inB, rfl⟩ := Language.mem_mul.mp inBoth
    obtain ⟨middle, toMiddle, toEnd⟩ := Passes.append_iff.mp passes
    exact ⟨middle, (first here middle).mpr ⟨front, inA, toMiddle⟩, (second middle there).mpr ⟨back, inB, toEnd⟩⟩

theorem optional (greedy : Bool) (reads : Reads a A) : Reads (.optional greedy a) (1 + A) := by
  intro here there
  have reached : ∀ place, place ∈ a.ends here ∨ place = here → ∃ front, Passes here front place := by
    rintro place (member | rfl)
    · exact reads.advances here place member
    · exact ⟨[], .stay place⟩
  have either : there ∈ (Regex.optional greedy a).ends here ↔ there ∈ a.ends here ∨ there = here := by
    cases greedy with
    | true =>
      rw [ends, if_pos rfl, mem_distinct here (by simpa using reached), List.mem_append, List.mem_singleton]
    | false =>
      rw [ends, if_neg Bool.false_ne_true, mem_distinct here (by simpa [or_comm] using reached),
        List.mem_cons, or_comm]
  rw [either, reads here there]
  constructor
  · rintro (⟨front, inA, passes⟩ | rfl)
    · exact ⟨front, .inr inA, passes⟩
    · exact ⟨[], .inl Language.nil_mem_one, .stay there⟩
  · rintro ⟨front, empty | inA, passes⟩
    · obtain rfl := (Language.mem_one front).mp empty
      cases passes
      exact .inr rfl
    · exact .inl ⟨front, inA, passes⟩

end Reads

theorem readsAll_textEnd : ReadsAll (.assertion .textEnd) 1 := by
  rintro ⟨before, rest, offset⟩ there
  cases rest with
  | nil =>
    refine List.mem_singleton.trans ⟨?_, ?_⟩
    · rintro rfl
      exact ⟨Language.nil_mem_one, .stay _⟩
    · rintro ⟨-, ⟨⟩⟩
      rfl
  | cons c cs => exact iff_of_false List.not_mem_nil fun both => nomatch (Language.mem_one _).mp both.1

theorem Reads.sequenceAll (first : Reads a A) (second : ReadsAll b B) : ReadsAll (.sequence a b) (A * B) := by
  intro here there
  rw [mem_ends_sequence first.advances second.advances]
  constructor
  · rintro ⟨middle, isMiddle, isEnd⟩
    obtain ⟨front, inA, toMiddle⟩ := (first here middle).mp isMiddle
    obtain ⟨inB, toEnd⟩ := (second middle there).mp isEnd
    rw [toMiddle.rest_eq]
    exact ⟨Language.append_mem_mul inA inB, Passes.append_iff.mpr ⟨middle, toMiddle, toEnd⟩⟩
  · rintro ⟨inBoth, passes⟩
    obtain ⟨front, inA, back, inB, split⟩ := Language.mem_mul.mp inBoth
    rw [← split] at passes
    obtain ⟨middle, toMiddle, toEnd⟩ := Passes.append_iff.mp passes
    have follows : middle.rest = back := List.append_cancel_left (toMiddle.rest_eq.symm.trans split.symm)
    refine ⟨middle, (first here middle).mpr ⟨front, inA, toMiddle⟩, (second middle there).mpr ?_⟩
    exact ⟨follows.symm ▸ inB, follows.symm ▸ toEnd⟩

/-! ## Whole texts -/

theorem length_le_spansFrom (attempt : Cursor → Option Cursor) (lastStop : Option Nat) (done : List Span)
    (before : Option Char) (offset : Nat) (text : List Char) :
    done.length ≤ (spansFrom attempt lastStop done before offset text).length := by
  induction text generalizing lastStop done before offset with
  | nil =>
    rw [spansFrom]
    split
    · simp
    · simp
  | cons c cs inductionHypothesis =>
    rw [spansFrom]
    split
    · exact (Nat.le_succ _).trans (inductionHypothesis _ (_ :: done) _ _)
    · exact inductionHypothesis _ _ _ _

theorem spanAt?_none (attempt : Cursor → Option Cursor) (here : Cursor) :
    spanAt? attempt none here = (attempt here).map fun there => ⟨here.offset, there.offset⟩ := by
  rw [spanAt?, Option.getD_none, if_neg (Nat.not_lt_zero _)]
  cases attempt here with
  | none => rfl
  | some there => simp

/-- Nothing is found if no attempt succeeds at any place. -/
theorem spansFrom_eq_nil_iff {attempt : Cursor → Option Cursor} {before : Option Char} {offset : Nat}
    {text : List Char} :
    spansFrom attempt none [] before offset text = [] ↔
      ∀ front here, Passes ⟨before, text, offset⟩ front here → attempt here = none := by
  induction text generalizing before offset with
  | nil =>
    rw [spansFrom, spanAt?_none]
    constructor
    · rintro nothing _ _ ⟨⟩
      cases tried : attempt ⟨before, [], offset⟩ with
      | none => rfl
      | some there => simp [tried] at nothing
    · intro fails
      simp [fails [] _ (.stay _)]
  | cons c cs inductionHypothesis =>
    rw [spansFrom, spanAt?_none]
    cases tried : attempt ⟨before, c :: cs, offset⟩ with
    | none =>
      refine inductionHypothesis.trans ⟨?_, fun fails front here passes => fails (c :: front) here (.next passes)⟩
      rintro fails _ _ (_ | later)
      · exact tried
      · exact fails _ _ later
    | some there =>
      constructor
      · intro nothing
        have found := length_le_spansFrom attempt (some there.offset) [⟨offset, there.offset⟩] (some c)
          (offset + c.utf8Size) cs
        simp only [Option.map_some] at nothing
        rw [nothing] at found
        cases found
      · intro fails
        have none := fails [] _ (.stay _)
        rw [tried] at none
        cases none

theorem advances_assertion (condition : Assertion) : Advances (.assertion condition) := by
  intro here there member
  rw [ends] at member
  split at member
  · exact ⟨[], List.mem_singleton.mp member ▸ .stay here⟩
  · cases member

theorem attempt_eq_none_iff {r : Regex} {here : Cursor} :
    r.attempt here = none ↔ ∀ there, there ∉ r.ends here := by
  rw [attempt, List.head?_eq_none_iff, List.eq_nil_iff_forall_not_mem]

/-- An expression that is tied to both ends of a text matches the texts of its language. -/
theorem isMatch_textStart (readsAll : ReadsAll a A) (content : String) :
    (Pattern.regex (.sequence (.assertion .textStart) a)).isMatch content ↔ content.toList ∈ A := by
  have tried : ∀ here there, there ∈ (sequence (.assertion .textStart) a).ends here ↔
      here.before = none ∧ there ∈ a.ends here := by
    intro here there
    rw [mem_ends_sequence (advances_assertion _) readsAll.advances]
    cases start : here.before with
    | none => simp [ends, Assertion.holds, start]
    | some c => simp [ends, Assertion.holds, start]
  have found : (Pattern.regex (.sequence (.assertion .textStart) a)).findAll content = [] ↔
      ∀ front here, Passes (.atStart content.toList) front here →
        attempt (.sequence (.assertion .textStart) a) here = none := spansFrom_eq_nil_iff
  rw [Pattern.isMatch_iff, ← not_iff_not, not_ne_iff, found]
  constructor
  · intro fails isText
    obtain ⟨there, passes⟩ := Passes.exists_end (.atStart content.toList)
    refine attempt_eq_none_iff.mp (fails [] _ (.stay _)) there ((tried _ there).mpr ⟨rfl, ?_⟩)
    exact (readsAll _ there).mpr ⟨isText, passes⟩
  · intro noText front here passes
    refine attempt_eq_none_iff.mpr fun there isEnd => ?_
    obtain ⟨start, isEnd⟩ := (tried here there).mp isEnd
    -- only the place before the whole text has nothing before it
    have whole : content.toList = here.rest := by
      rw [← List.nil_append here.rest, ← passes.eq_nil_of_before start, ← passes.rest_eq]
      rfl
    exact noText (whole ▸ ((readsAll here there).mp isEnd).1)

end Regex

end PluginAudit
