import PluginAudit.Proofs.Text.Trimming

/-!
# Lines of a text

A text of lines that each end with a line feed is cut into just these lines, if no line has
a line feed in it and none ends with a carriage return.
-/

namespace PluginAudit.Text

variable {text front back line : List Char} {texts : List (List Char)}

/-- What can stand before the end of a line. -/
structure IsLine (line : List Char) : Prop where
  oneLine : '\n' ∉ line
  noReturn : line.getLast? ≠ some '\r'

instance (line : List Char) : Decidable (IsLine line) :=
  decidable_of_iff ('\n' ∉ line ∧ line.getLast? ≠ some '\r')
    ⟨fun both => ⟨both.1, both.2⟩, fun isLine => ⟨isLine.oneLine, isLine.noReturn⟩⟩

namespace IsLine

theorem nil : IsLine [] := ⟨by simp, by simp⟩

theorem of_trimmed (oneLine : '\n' ∉ line) (trimmed : Trimmed line) : IsLine line :=
  ⟨oneLine, fun last => absurd (trimmed.stops '\r' last) (by decide)⟩

theorem append (oneLine : '\n' ∉ front) (last : IsLine back) (ends : back = [] → front.getLast? ≠ some '\r') :
    IsLine (front ++ back) := by
  refine ⟨by simp [oneLine, last.oneLine], ?_⟩
  cases back with
  | nil => simpa using ends rfl
  | cons c cs =>
    have := last.noReturn
    simp_all [List.getLast?_append]

theorem dropLineReturn (isLine : IsLine line) : dropLineReturn line = line := by
  rw [Text.dropLineReturn]
  cases cut : before? ['\r'] line with
  | none => rfl
  | some front =>
    rw [before?_eq_some] at cut
    exact absurd (by simp [cut]) isLine.noReturn

end IsLine

/-- The text of lines that each end with a line feed. -/
def ofTextLines (texts : List (List Char)) : List Char := texts.flatMap (· ++ ['\n'])

theorem ofTextLines_cons (line : List Char) (texts : List (List Char)) :
    ofTextLines (line :: texts) = line ++ '\n' :: ofTextLines texts := by
  simp [ofTextLines]

theorem splitOn_ofTextLines_append (isLine : ∀ line ∈ texts, IsLine line) (oneLine : '\n' ∉ line) :
    splitOn '\n' (ofTextLines texts ++ line) = texts ++ [line] := by
  induction texts with
  | nil => exact splitOn_of_not_mem oneLine
  | cons first others inductionHypothesis =>
    have later := inductionHypothesis fun other member => isLine other (List.mem_cons_of_mem first member)
    rw [ofTextLines_cons, List.append_assoc, List.cons_append, splitOn_append_cons,
      splitOn_of_not_mem (isLine first List.mem_cons_self).oneLine, later]
    rfl

theorem linesOfPieces_append (texts : List (List Char)) (line : List Char) :
    linesOfPieces (texts ++ [line]) = texts.map dropLineReturn ++ if line.isEmpty then [] else [line] := by
  induction texts with
  | nil => rfl
  | cons first others inductionHypothesis =>
    rw [List.cons_append, List.map_cons, List.cons_append, ← inductionHypothesis]
    cases others <;> rfl

/-- The lines are read back from their text, with what is behind the last line feed as one
more line. -/
theorem lines_ofTextLines_append (isLine : ∀ line ∈ texts, IsLine line) (oneLine : '\n' ∉ line) :
    lines (ofTextLines texts ++ line) = texts ++ if line.isEmpty then [] else [line] := by
  have kept : texts.map dropLineReturn = texts :=
    (List.map_congr_left fun line member => (isLine line member).dropLineReturn).trans (List.map_id _)
  rw [lines, splitOn_ofTextLines_append isLine oneLine, linesOfPieces_append, kept]

theorem lines_ofTextLines (isLine : ∀ line ∈ texts, IsLine line) : lines (ofTextLines texts) = texts := by
  have := lines_ofTextLines_append isLine (List.not_mem_nil : '\n' ∉ [])
  simpa using this

/-! ## Ends -/

/-- Lines that are the same up to an empty line at the end of the second. -/
def EndAlike (first second : List (List Char)) : Prop := second = first ∨ second = first ++ [[]]

/-- A text without the line feed at its end has the same lines up to an empty one at the
end. -/
theorem endAlike_lines (isLine : ∀ line ∈ texts, IsLine line) (written : text ++ ['\n'] = ofTextLines texts) :
    EndAlike (lines text) texts := by
  rcases List.eq_nil_or_concat texts with rfl | ⟨init, last, rfl⟩
  · simp [ofTextLines] at written
  · simp only [List.concat_eq_append, List.forall_mem_append, List.forall_mem_singleton] at isLine
    have split : text = ofTextLines init ++ last := by
      simpa [ofTextLines, ← List.append_assoc] using written
    rw [split, lines_ofTextLines_append isLine.1 isLine.2.oneLine, List.concat_eq_append]
    cases last with
    | nil => exact .inr (by simp)
    | cons c cs => exact .inl rfl

namespace EndAlike

variable {first second : List (List Char)}

theorem cons (line : List Char) (alike : EndAlike first second) : EndAlike (line :: first) (line :: second) :=
  alike.imp (congrArg _) (congrArg _)

theorem span (alike : EndAlike first second) (p : List Char → Bool) :
    EndAlike (first.takeWhile p) (second.takeWhile p) ∧ EndAlike (first.dropWhile p) (second.dropWhile p) := by
  rcases alike with rfl | rfl
  · exact ⟨.inl rfl, .inl rfl⟩
  · induction first with
    | nil => cases keeps : p [] <;> simp [keeps, EndAlike]
    | cons line others inductionHypothesis =>
      cases keeps : p line with
      | false =>
        simp only [List.cons_append, List.takeWhile_cons, List.dropWhile_cons, keeps]
        exact ⟨.inl rfl, .inr rfl⟩
      | true =>
        simp only [List.cons_append, List.takeWhile_cons, List.dropWhile_cons, keeps, if_true]
        exact ⟨inductionHypothesis.1.cons line, inductionHypothesis.2⟩

theorem map {f : List Char → List Char} (alike : EndAlike first second) (empty : f [] = []) :
    EndAlike (first.map f) (second.map f) := by
  rcases alike with rfl | rfl
  · exact .inl rfl
  · exact .inr (by simp [empty])

theorem map_trim (alike : EndAlike first second) : EndAlike (first.map trim) (second.map trim) :=
  alike.map Trimmed.nil.trim

theorem subset (alike : EndAlike first second) : first ⊆ second := by
  rcases alike with rfl | rfl
  · exact List.Subset.refl second
  · exact List.subset_append_left first [[]]

theorem joinWith (alike : EndAlike first second) (between : List Char) :
    joinWith between second = joinWith between first ∨
      joinWith between second = joinWith between first ++ between := by
  rcases alike with rfl | rfl
  · exact .inl rfl
  · induction first with
    | nil => exact .inl rfl
    | cons line others inductionHypothesis =>
      rw [List.cons_append]
      cases others with
      | nil => exact .inr (by simp [Text.joinWith])
      | cons next others =>
        rw [joinWith_cons (by simp), joinWith_cons (by simp)]
        exact inductionHypothesis.imp (fun same => by rw [same]) fun more => by simp only [more, List.append_assoc]

theorem trim_joinWith (alike : EndAlike first second) {between : List Char}
    (blank : ∀ c ∈ between, isBlank c) :
    trim (Text.joinWith between second) = trim (Text.joinWith between first) := by
  rcases alike.joinWith between with same | more
  · rw [same]
  · rw [more, trim_append blank]

theorem words_joinWith (alike : EndAlike first second) :
    words (Text.joinWith [' '] second) = words (Text.joinWith [' '] first) := by
  rcases alike.joinWith [' '] with same | more
  · rw [same]
  · rw [more, words_append (by decide)]
    simp [words, splitBy]

end EndAlike

/-! ## Line endings -/

/-- A text in which nothing is replaced. -/
theorem replace_eq_self {needle replacement : List Char} (absent : ¬ needle <:+: text) :
    replace needle replacement text = text := by
  rw [replace]
  split
  · rfl
  · induction text with
    | nil => rfl
    | cons c cs inductionHypothesis =>
      have notHere : ¬ (after? needle (c :: cs)).isSome :=
        fun here => absent (isSome_after?.mp here).isInfix
      have later := inductionHypothesis fun isInfix => absent (isInfix.trans (List.suffix_cons c cs).isInfix)
      rw [replaceFrom, if_neg notHere, later]

theorem not_returns_infix_ofTextLines (isLine : ∀ line ∈ texts, IsLine line) :
    ¬ ['\r', '\n'] <:+: ofTextLines texts := by
  induction texts with
  | nil => simp [ofTextLines]
  | cons line others inductionHypothesis =>
    have later := inductionHypothesis fun other member => isLine other (List.mem_cons_of_mem line member)
    obtain ⟨oneLine, noReturn⟩ := isLine line List.mem_cons_self
    rw [ofTextLines_cons]
    rintro ⟨front, back, split⟩
    rw [List.append_assoc, List.append_eq_append_iff] at split
    rcases split with ⟨middle, rfl, behind⟩ | ⟨middle, -, behind⟩
    · -- the carriage return stands in the line, so its last character is one or it goes on
      match middle, behind with
      | [], behind => simp at behind
      | [c], behind =>
        simp only [List.cons_append, List.nil_append, List.cons.injEq] at behind
        exact noReturn (by simp [← behind.1])
      | c :: d :: ds, behind =>
        simp only [List.cons_append, List.nil_append, List.cons.injEq] at behind
        exact oneLine (by simp [← behind.2.1])
    · match middle, behind with
      | [], behind => simp at behind
      | c :: cs, behind =>
        simp only [List.cons_append, List.cons.injEq] at behind
        exact later ⟨cs, back, by simp [behind.2]⟩

/-! ## Texts of lines -/

/-- A text has given lines, with a line feed behind the last one or without. -/
def IsTextOf (texts : List (List Char)) (text : List Char) : Prop :=
  text = ofTextLines texts ∨ text ++ ['\n'] = ofTextLines texts

namespace IsTextOf

theorem joinWith (some : texts ≠ []) : IsTextOf texts (joinWith ['\n'] texts) := by
  right
  induction texts with
  | nil => exact absurd rfl some
  | cons line others inductionHypothesis =>
    cases others with
    | nil => simp [Text.joinWith, ofTextLines]
    | cons next others =>
      have later := inductionHypothesis (List.cons_ne_nil next others)
      rw [joinWith_cons (List.cons_ne_nil next others), ofTextLines_cons, ← later]
      simp

theorem lines (isLine : ∀ line ∈ texts, IsLine line) (isText : IsTextOf texts text) :
    EndAlike (lines text) texts := by
  rcases isText with whole | unfinished
  · rw [whole, lines_ofTextLines isLine]
    exact .inl rfl
  · exact endAlike_lines isLine unfinished

theorem isPrefix (isText : IsTextOf texts text) : text <+: ofTextLines texts := by
  rcases isText with whole | unfinished
  · exact whole ▸ List.prefix_rfl
  · exact ⟨['\n'], unfinished⟩

/-- No line ending is taken for a longer one. -/
theorem replace_returns (isLine : ∀ line ∈ texts, IsLine line) (isText : IsTextOf texts text) :
    replace ['\r', '\n'] ['\n'] text = text :=
  replace_eq_self fun isInfix =>
    not_returns_infix_ofTextLines isLine (isInfix.trans isText.isPrefix.isInfix)

theorem dropWhile {p : Char → Bool} (isText : IsTextOf texts text)
    (starts : ∀ c, (ofTextLines texts).head? = some c → p c = false) : text.dropWhile p = text := by
  obtain ⟨rest, whole⟩ := isText.isPrefix
  cases text with
  | nil => rfl
  | cons c cs => exact List.dropWhile_cons_of_neg (by simp [starts c (by rw [← whole]; rfl)])

end IsTextOf

end PluginAudit.Text
