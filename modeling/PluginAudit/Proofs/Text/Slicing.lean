import PluginAudit.Text.Slicing

/-!
# What cutting text finds

A text is cut behind a head, or before a tail, exactly if it starts or ends
with it.  Cutting a text that has a separator in it is cutting what stands
before and behind the separator.
-/

namespace PluginAudit.Text

theorem after?_eq_some {head text rest : List Char} :
    after? head text = some rest ↔ text = head ++ rest := by
  induction head generalizing text with
  | nil => simp [after?]
  | cons h hs inductionHypothesis =>
    cases text with
    | nil => simp [after?]
    | cons c cs =>
      by_cases same : h = c
      · simp [after?, same, inductionHypothesis]
      · simp [after?, same, Ne.symm same]

theorem isSome_after? {head text : List Char} : (after? head text).isSome ↔ head <+: text := by
  rw [Option.isSome_iff_exists]
  simp only [after?_eq_some]
  exact exists_congr fun _ => eq_comm

theorem before?_eq_some {tail text front : List Char} :
    before? tail text = some front ↔ text = front ++ tail := by
  simp only [before?, Option.map_eq_some_iff, after?_eq_some]
  constructor
  · rintro ⟨reversed, found, rfl⟩
    simpa using congrArg List.reverse found
  · rintro rfl
    exact ⟨front.reverse, by simp, by simp⟩

/-- A text ends before the first occurrence of a needle if the first character of the needle is
not met earlier. -/
theorem upTo?_append {c : Char} {front : List Char} (absent : c ∉ front) (needle back : List Char) :
    upTo? (c :: needle) (front ++ (c :: needle) ++ back) = some front := by
  induction front with
  | nil =>
    have here : (after? (c :: needle) (c :: (needle ++ back))).isSome :=
      isSome_after?.mpr (List.prefix_append (c :: needle) back)
    simp [upTo?, here]
  | cons first others inductionHypothesis =>
    rw [List.mem_cons, not_or] at absent
    have notHere : after? (c :: needle) (first :: (others ++ (c :: needle) ++ back)) = none := by
      simp [after?, absent.1]
    rw [List.cons_append, List.cons_append, upTo?, notHere, inductionHypothesis absent.2]
    rfl

theorem upTo?_eq_none {needle text : List Char} (absent : ¬ needle <:+: text) : upTo? needle text = none := by
  induction text with
  | nil =>
    have some : needle ≠ [] := fun empty => absent (empty ▸ List.nil_infix)
    simp [upTo?, some]
  | cons c cs inductionHypothesis =>
    have notHere : ¬ (after? needle (c :: cs)).isSome := fun here => absent (isSome_after?.mp here).isInfix
    have later := inductionHypothesis fun isInfix => absent (isInfix.trans (List.suffix_cons c cs).isInfix)
    rw [upTo?, if_neg notHere, later]
    rfl

theorem upTo?_isPrefix {needle text front : List Char} (found : upTo? needle text = some front) : front <+: text := by
  induction text generalizing front with
  | nil =>
    rw [upTo?] at found
    split at found <;> simp_all
  | cons c cs inductionHypothesis =>
    rw [upTo?] at found
    split at found
    case isTrue =>
      cases found
      exact List.nil_prefix
    case isFalse =>
      obtain ⟨others, later, rfl⟩ := Option.map_eq_some_iff.mp found
      exact List.cons_prefix_cons.mpr ⟨rfl, inductionHypothesis later⟩

theorem afterFolded?_append {head front value : List Char} (found : afterFolded? head front = some value) (back : List Char) :
    afterFolded? head (front ++ back) = some (value ++ back) := by
  induction head generalizing front with
  | nil =>
    cases found
    rfl
  | cons h hs inductionHypothesis =>
    cases front with
    | nil => simp [afterFolded?] at found
    | cons c cs =>
      rw [afterFolded?] at found
      split at found
      case isTrue same =>
        rw [List.cons_append, afterFolded?, if_pos same]
        exact inductionHypothesis found
      case isFalse => simp at found

/-! ## Pieces -/

variable {p : Char → Bool} {separator : Char}

theorem splitBy_ne_nil (p : Char → Bool) (text : List Char) : splitBy p text ≠ [] := by
  cases text with
  | nil => simp [splitBy]
  | cons c cs =>
    simp only [splitBy]
    split
    · simp
    · split <;> simp

theorem splitBy_append_cons (separates : p separator) (front back : List Char) :
    splitBy p (front ++ separator :: back) = splitBy p front ++ splitBy p back := by
  induction front with
  | nil => simp [splitBy, separates]
  | cons c cs inductionHypothesis =>
    simp only [List.cons_append, splitBy, inductionHypothesis]
    split
    · rfl
    · -- the first piece grows, and there is one also without what stands behind
      cases pieces : splitBy p cs with
      | nil => exact absurd pieces (splitBy_ne_nil p cs)
      | cons piece others => rfl

/-- The pieces of a text that goes on: the last one goes on, and others may follow. -/
theorem splitBy_append (p : Char → Bool) (front back : List Char) :
    ∃ pieces last more others, splitBy p front = pieces ++ [last] ∧ splitBy p back = more :: others ∧
      splitBy p (front ++ back) = pieces ++ (last ++ more) :: others := by
  obtain ⟨more, others, continued⟩ := List.exists_cons_of_ne_nil (splitBy_ne_nil p back)
  induction front with
  | nil => exact ⟨[], [], more, others, rfl, continued, continued⟩
  | cons c cs inductionHypothesis =>
    obtain ⟨pieces, last, more, others, start, back, whole⟩ := inductionHypothesis
    rw [List.cons_append, splitBy, splitBy, start, whole]
    split
    case isTrue => exact ⟨[] :: pieces, last, more, others, rfl, back, rfl⟩
    case isFalse =>
      cases pieces with
      | nil => exact ⟨[], c :: last, more, others, rfl, back, rfl⟩
      | cons piece pieces => exact ⟨(c :: piece) :: pieces, last, more, others, rfl, back, rfl⟩

theorem splitBy_of_none {text : List Char} (none : ∀ c ∈ text, p c = false) :
    splitBy p text = [text] := by
  induction text with
  | nil => rfl
  | cons c cs inductionHypothesis =>
    have others := inductionHypothesis fun other member => none other (List.mem_cons_of_mem c member)
    simp [splitBy, none c List.mem_cons_self, others]

theorem splitOn_of_not_mem {text : List Char} (absent : separator ∉ text) : splitOn separator text = [text] := by
  refine splitBy_of_none fun c member => ?_
  rw [beq_eq_false_iff_ne]
  rintro rfl
  exact absent member

theorem splitOn_append_cons (separator : Char) (front back : List Char) :
    splitOn separator (front ++ separator :: back) = splitOn separator front ++ splitOn separator back :=
  splitBy_append_cons (p := (· == separator)) (beq_self_eq_true separator) front back

theorem splitOnce?_append {separator : Char} {front : List Char} (absent : separator ∉ front) (back : List Char) :
    splitOnce? separator (front ++ separator :: back) = some (front, back) := by
  induction front with
  | nil => simp [splitOnce?]
  | cons c cs inductionHypothesis =>
    rw [List.mem_cons, not_or] at absent
    simp [splitOnce?, Ne.symm absent.1, inductionHypothesis absent.2]

theorem joinWith_cons {pieces : List (List Char)} (some : pieces ≠ []) (between piece : List Char) :
    joinWith between (piece :: pieces) = piece ++ between ++ joinWith between pieces := by
  cases pieces with
  | nil => exact absurd rfl some
  | cons next others => rfl

theorem not_mem_joinWith {c : Char} {between : List Char} {pieces : List (List Char)} (notBetween : c ∉ between)
    (inNone : ∀ piece ∈ pieces, c ∉ piece) : c ∉ joinWith between pieces := by
  induction pieces with
  | nil => simp [joinWith]
  | cons piece others inductionHypothesis =>
    obtain ⟨first, later⟩ := List.forall_mem_cons.mp inNone
    cases others with
    | nil => exact first
    | cons next others =>
      rw [joinWith_cons (List.cons_ne_nil next others)]
      simp [first, notBetween, inductionHypothesis later]

theorem joinWith_splitOn (separator : Char) (text : List Char) :
    joinWith [separator] (splitOn separator text) = text := by
  induction text with
  | nil => rfl
  | cons c cs inductionHypothesis =>
    rw [splitOn] at inductionHypothesis
    rw [splitOn, splitBy]
    cases same : c == separator with
    | true =>
      rw [if_pos rfl, joinWith_cons (splitBy_ne_nil _ cs), inductionHypothesis, beq_iff_eq.mp same]
      rfl
    | false =>
      rw [if_neg Bool.false_ne_true]
      cases pieces : splitBy (· == separator) cs with
      | nil => exact absurd pieces (splitBy_ne_nil _ cs)
      | cons piece others =>
        rw [pieces] at inductionHypothesis
        rw [← inductionHypothesis]
        cases others <;> rfl

end PluginAudit.Text
