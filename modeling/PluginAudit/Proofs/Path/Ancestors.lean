import PluginAudit.Config.Discovery
import PluginAudit.Proofs.Path

/-!
# The paths above a path

Each parent lacks the last component of its path, whatever that is, so the paths above a path
stand for the starts of its components, from the longest one on, and there are no more of them
than that.
-/

namespace PluginAudit

open PluginAudit.Text

namespace Path

variable {p q : Path} {n : Nat}

/-- A path has a parent as long as it has a component that is no root. -/
theorem parent?_cases (p : Path) :
    (∃ parent last, p.parent? = some parent ∧ p.components = parent.components ++ [last]) ∨
      p.parent? = none ∧ (p.components = [] ∨ p.components = [.root]) := by
  have components := p.components_eq
  rw [← named_dropIdleEnd] at components
  rcases List.eq_nil_or_concat (dropIdleEnd p.cut.pieces) with none | ⟨before, last, left⟩
  · -- there is only a root or a `.`, if anything
    rw [none, named_nil, List.append_nil] at components
    obtain ⟨all, cut_eq⟩ | cut_eq | ⟨all, cut_eq⟩ | ⟨first, others, cut_eq⟩ := p.cut_cases
    all_goals rw [cut_eq] at none components
    · exact .inr ⟨by simp [parent?, cut_eq, none], .inr components⟩
    · exact .inl ⟨⟨""⟩, .here, by simp [parent?, cut_eq, none], components⟩
    · exact .inl ⟨⟨""⟩, .here, by simp [parent?, cut_eq, none], components⟩
    · exact .inr ⟨by simp [parent?, cut_eq, none], .inl components⟩
  · rw [List.concat_eq_append] at left
    obtain ⟨parent, isParent, parentComponents⟩ := exists_parent?_of_pieces left
    refine .inl ⟨parent, .ofPiece last, isParent, ?_⟩
    rw [components, left, named_append, named_cons (not_isIdle_of_dropIdleEnd left), named_nil, parentComponents,
      List.append_assoc]

theorem components_parent? {parent : Path} (isParent : p.parent? = some parent) :
    ∃ last, p.components = parent.components ++ [last] := by
  obtain ⟨other, last, isOther, components⟩ | ⟨none, -⟩ := p.parent?_cases
  · rw [isParent] at isOther
    cases isOther
    exact ⟨last, components⟩
  · rw [isParent] at none
    cases none

/-! ## All of them -/

/-- The path that many steps above a path. -/
def above (p : Path) : Nat → Option Path
  | 0 => some p
  | n + 1 => p.parent?.bind (above · n)

theorem components_above (isAbove : p.above n = some q) :
    ∃ lost, p.components = q.components ++ lost ∧ lost.length = n := by
  induction n generalizing p with
  | zero =>
    obtain rfl := Option.some.inj isAbove
    exact ⟨[], by simp⟩
  | succ n inductionHypothesis =>
    obtain ⟨parent, isParent, higher⟩ := Option.bind_eq_some_iff.mp isAbove
    obtain ⟨last, components⟩ := components_parent? isParent
    obtain ⟨lost, parentComponents, length⟩ := inductionHypothesis higher
    exact ⟨lost ++ [last], by simp [components, parentComponents], by simp [length]⟩

/-- Each start of the components that keeps the root, if there is one, is that of a path above. -/
theorem exists_above {front lost : List Component} (components : p.components = front ++ lost)
    (rooted : .root ∉ lost) : ∃ q, p.above lost.length = some q ∧ q.components = front := by
  induction lost using List.reverseRecOn generalizing p with
  | nil => exact ⟨p, rfl, by simpa using components⟩
  | append_singleton before last inductionHypothesis =>
    rw [List.mem_append, List.mem_singleton, not_or] at rooted
    rw [← List.append_assoc] at components
    obtain ⟨parent, lastOfParent, isParent, split⟩ | ⟨-, none | root⟩ := p.parent?_cases
    · -- the parent lacks the last component, which is that of the start
      obtain ⟨same, -⟩ := List.append_inj' (components.symm.trans split) rfl
      obtain ⟨q, isAbove, front_eq⟩ := inductionHypothesis same.symm rooted.1
      exact ⟨q, by simp [above, isParent, isAbove], front_eq⟩
    · simp [none] at components
    · have isLast : last ∈ [Component.root] := by simp [← root, components]
      exact absurd (List.mem_singleton.mp isLast).symm rooted.2

/-- There are no more paths above a path than it has components. -/
theorem above_eq_none (many : p.components.length < n) : p.above n = none := by
  by_contra some
  obtain ⟨q, isAbove⟩ := Option.ne_none_iff_exists'.mp some
  obtain ⟨lost, components, length⟩ := components_above isAbove
  simp only [components, List.length_append] at many
  omega

theorem length_splitBy_le (separates : Char → Bool) (text : List Char) :
    (splitBy separates text).length ≤ text.length + 1 := by
  induction text with
  | nil => exact le_rfl
  | cons c cs inductionHypothesis =>
    rw [splitBy]
    split
    · simpa using inductionHypothesis
    · split
      · simp
      · rename_i pieces
        rw [pieces] at inductionHypothesis
        simp only [List.length_cons] at inductionHypothesis ⊢
        omega

theorem length_named_le (pieces : List (List Char)) : (named pieces).length ≤ pieces.length := by
  simpa [named] using List.length_filter_le (fun piece => !isIdle piece) pieces

/-- A path has at most one component more than it has characters. -/
theorem length_components_le (p : Path) : p.components.length ≤ p.text.length + 1 := by
  have bound (text : List Char) : (named (splitOn '/' text)).length ≤ text.length + 1 :=
    (length_named_le _).trans (length_splitBy_le _ text)
  rw [components_eq, ← String.length_toList]
  unfold cut
  split
  case h_1 rest written => simpa [written, Nat.add_comm 1] using bound rest
  case h_2 written => simp [written]
  case h_3 rest written =>
    have behind := bound rest
    simp only [written, named_cons_idle (show isIdle [] from rfl), Option.toList_some, List.length_append,
      List.length_cons, List.length_nil]
    omega
  case h_4 => simpa using bound p.text.toList

end Path

namespace Config

/-- With room for all of them, a directory and those above it are listed in order. -/
theorem getElem?_upward {room : Nat} {start : Path} (enough : start.components.length < room) (n : Nat) :
    (upward room start)[n]? = start.above n := by
  induction room generalizing start n with
  | zero => omega
  | succ room inductionHypothesis =>
    cases n with
    | zero => rfl
    | succ n =>
      rw [upward, List.getElem?_cons_succ, Path.above]
      cases isParent : start.parent? with
      | none => rfl
      | some parent =>
        obtain ⟨last, components⟩ := Path.components_parent? isParent
        have fewer : parent.components.length < room := by
          simp only [components, List.length_append, List.length_singleton] at enough
          omega
        exact inductionHypothesis fewer n

theorem getElem?_ancestors (start : Path) (n : Nat) : (ancestors start)[n]? = start.above n :=
  getElem?_upward (Nat.lt_succ_of_le start.length_components_le) n

end Config

end PluginAudit
