import Mathlib.Data.List.Infix
import PluginAudit.Proofs.Text.Slicing

/-!
# Replacing in parts

A replaced text is looked for in the parts of a text one by one where it does not reach from one
part into the next.  It does not where the next part starts with a character that it has not,
and where its own first character is not in the part before.
-/

namespace PluginAudit.Text

variable {needle replacement front back part : List Char} {d : Char}

theorem hasInfix_iff {text : List Char} : hasInfix needle text ↔ needle <:+: text := by
  induction text with
  | nil => simp [hasInfix]
  | cons c cs inductionHypothesis =>
    rw [hasInfix, Bool.or_eq_true, isSome_after?, inductionHypothesis, List.infix_cons_iff]

/-! ## Parts that nothing is replaced across -/

theorem isPrefix_append_cons_iff (absent : d ∉ needle) : needle <+: front ++ d :: back ↔ needle <+: front := by
  refine ⟨fun starts => ?_, fun starts => starts.trans (List.prefix_append _ _)⟩
  rcases List.prefix_or_prefix_of_prefix starts (List.prefix_append front (d :: back)) with within | ⟨rest, split⟩
  · exact within
  · rw [← split, List.prefix_append_right_inj] at starts
    cases rest with
    | nil => rw [← split, List.append_nil]
    | cons next rest =>
      have border : next = d := (List.cons_prefix_cons.mp starts).1
      exact absurd (by simp [← split, border]) absent

theorem replaceFrom_append (absent : d ∉ needle) (skip : Nat) (inside : skip ≤ front.length) :
    replaceFrom needle replacement skip (front ++ d :: back) =
      replaceFrom needle replacement skip front ++ replaceFrom needle replacement 0 (d :: back) := by
  induction front generalizing skip with
  | nil =>
    rw [Nat.le_zero.mp inside]
    rfl
  | cons c cs inductionHypothesis =>
    cases skip with
    | succ skip => exact inductionHypothesis skip (Nat.le_of_succ_le_succ inside)
    | zero =>
      have same : (after? needle (c :: (cs ++ d :: back))).isSome = (after? needle (c :: cs)).isSome := by
        rw [Bool.eq_iff_iff, isSome_after?, isSome_after?]
        rw [← List.cons_append, isPrefix_append_cons_iff absent]
      rw [List.cons_append, replaceFrom, replaceFrom, same]
      split
      case isTrue here =>
        have fits := (isSome_after?.mp here).length_le
        rw [List.length_cons] at fits
        rw [inductionHypothesis (needle.length - 1) (by omega), List.append_assoc]
      case isFalse => rw [inductionHypothesis 0 (Nat.zero_le _), List.cons_append]

/-- A part without the first character of what is replaced is passed over. -/
theorem replaceFrom_pass (absent : ∀ c ∈ part, needle.head? ≠ some c) (nonempty : needle ≠ [])
    (replacement back : List Char) :
    replaceFrom needle replacement 0 (part ++ back) = part ++ replaceFrom needle replacement 0 back := by
  induction part with
  | nil => rfl
  | cons c cs inductionHypothesis =>
    obtain ⟨first, others⟩ := List.forall_mem_cons.mp absent
    have notHere : ¬ (after? needle (c :: (cs ++ back))).isSome := by
      rw [isSome_after?]
      rintro ⟨rest, split⟩
      cases needle with
      | nil => exact nonempty rfl
      | cons start _ => exact first (congrArg List.head? split)
    rw [List.cons_append, replaceFrom, if_neg notHere, inductionHypothesis others, List.cons_append]

/-- What is replaced does not start with a character of a kind, and it does not reach into such
characters from a text: it has none of them, or it does not start in the text. -/
structure Avoids (p : Char → Bool) (needle front : List Char) : Prop where
  starts : needle.head?.any (!p ·)
  ends : (∀ c ∈ needle, p c = false) ∨ ∀ c ∈ front, needle.head? ≠ some c

instance (p : Char → Bool) (needle front : List Char) : Decidable (Avoids p needle front) :=
  have : Decidable (∀ c ∈ needle, p c = false) := List.decidableBAll _ needle
  have : Decidable (∀ c ∈ front, needle.head? ≠ some c) := List.decidableBAll _ front
  decidable_of_iff (_ ∧ (_ ∨ _)) ⟨fun both => ⟨both.1, both.2⟩, fun avoids => ⟨avoids.starts, avoids.ends⟩⟩

/-- A part of the characters that are avoided stands between what becomes of the text in front of
it and of the text behind it. -/
theorem Avoids.replace_append {p : Char → Bool} (avoids : Avoids p needle front) (isPart : ∀ c ∈ part, p c)
    (nonempty : part ≠ []) (back : List Char) :
    replace needle replacement (front ++ part ++ back) =
      replace needle replacement front ++ part ++ replace needle replacement back := by
  obtain ⟨start, rest, rfl⟩ : ∃ start rest, needle = start :: rest := by
    cases needle with
    | nil => exact absurd avoids.starts Bool.false_ne_true
    | cons start rest => exact ⟨start, rest, rfl⟩
  have startOther : p start = false := by simpa using avoids.starts
  have passPart : ∀ c ∈ part, (start :: rest).head? ≠ some c := by
    intro c member same
    cases same
    exact absurd (isPart start member) (by simp [startOther])
  have pass := replaceFrom_pass passPart (List.cons_ne_nil start rest) replacement back
  have replaceBy (text : List Char) :
      replace (start :: rest) replacement text = replaceFrom (start :: rest) replacement 0 text := rfl
  rw [replaceBy, replaceBy, replaceBy, List.append_assoc, List.append_assoc, ← pass]
  rcases avoids.ends with none | passFront
  · cases part with
    | nil => exact absurd rfl nonempty
    | cons d ds =>
      have absent : d ∉ start :: rest := fun member => by
        simpa [isPart d List.mem_cons_self] using none d member
      exact replaceFrom_append absent 0 (Nat.zero_le _)
  · have alone := replaceFrom_pass passFront (List.cons_ne_nil start rest) replacement []
    rw [List.append_nil, replaceFrom, List.append_nil] at alone
    rw [alone, replaceFrom_pass passFront (List.cons_ne_nil start rest)]

end PluginAudit.Text
