import PluginAudit.Proofs.Text.Lines
import PluginAudit.Proofs.Text.Trimming
import PluginAudit.Readme

/-!
# Headings and what they head

A title between equals signs is read back as a heading with this title and level, whatever
the title itself is made of.  Lines that headings of one level start are cut into the parts
they were put together from.
-/

namespace PluginAudit.Readme

open PluginAudit.Text

variable {level : Nat} {title line : List Char}

/-- A text in one line that is not empty and has no white space around it. -/
structure IsPhrase (title : List Char) : Prop where
  nonempty : title ≠ []
  oneLine : '\n' ∉ title
  trimmed : Trimmed title

instance (title : List Char) : Decidable (IsPhrase title) :=
  decidable_of_iff (title ≠ [] ∧ '\n' ∉ title ∧ Trimmed title)
    ⟨fun all => ⟨all.1, all.2.1, all.2.2⟩, fun phrase => ⟨phrase.nonempty, phrase.oneLine, phrase.trimmed⟩⟩

/-- The heading of a level with a title. -/
def headingLine (level : Nat) (title : List Char) : List Char :=
  List.replicate level '=' ++ (' ' :: title ++ [' ']) ++ List.replicate level '='

theorem headingLine_succ (level : Nat) (title : List Char) :
    headingLine (level + 1) title =
      '=' :: (List.replicate level '=' ++ (' ' :: title ++ [' ']) ++ List.replicate (level + 1) '=') := rfl

theorem getLast?_headingLine (positive : 0 < level) (title : List Char) :
    (headingLine level title).getLast? = some '=' := by
  obtain ⟨level, rfl⟩ := Nat.exists_eq_succ_of_ne_zero positive.ne'
  rw [headingLine, List.replicate_succ', ← List.append_assoc, List.getLast?_concat]

theorem trimmed_headingLine (positive : 0 < level) (title : List Char) : Trimmed (headingLine level title) := by
  constructor
  · intro c start
    obtain ⟨level, rfl⟩ := Nat.exists_eq_succ_of_ne_zero positive.ne'
    rw [headingLine_succ, List.head?_cons] at start
    cases start
    decide
  · intro c stop
    rw [getLast?_headingLine positive] at stop
    cases stop
    decide

theorem isLine_headingLine (positive : 0 < level) (oneLine : '\n' ∉ title) : IsLine (headingLine level title) := by
  constructor
  · simp [headingLine, oneLine]
  · rw [getLast?_headingLine positive]
    decide

/-- A heading is read back. -/
theorem heading?_headingLine (positive : 0 < level) (small : level ≤ 3) (isPhrase : IsPhrase title) :
    heading? (headingLine level title) = some (level, title) := by
  have whole := (trimmed_headingLine positive title).trim
  have marks : (headingLine level title).takeWhile (· == '=') = List.replicate level '=' := by
    rw [headingLine, List.append_assoc, List.takeWhile_append_of_pos (by simp)]
    simp
  -- the spaces keep marks at the ends of the title from being taken for those of the heading
  have inner : trimBy (· == '=') (headingLine level title) = ' ' :: title ++ [' '] := by
    rw [headingLine, trimBy_append (by simp) (by simp), trimBy_spaced (by decide)]
  have levelFits : (level == 0 || decide (level > 3) || title.isEmpty) = false := by
    simp [isPhrase.nonempty]
    omega
  simp only [heading?, whole, marks, inner, isPhrase.trimmed.trim_spaced, List.length_replicate, levelFits,
    getLast?_headingLine positive, beq_self_eq_true, if_true, Bool.false_eq_true, if_false]

/-- A line that starts with something else is no heading. -/
theorem heading?_of_head {c : Char} (notBlank : isBlank c = false) (notMark : c ≠ '=') (cs : List Char) :
    heading? (c :: cs) = none := by
  have start := head?_trimBy (p := isBlank) notBlank cs
  have level : ((trim (c :: cs)).takeWhile (· == '=')).length = 0 := by
    rw [trim]
    cases trimmed : trimBy isBlank (c :: cs) with
    | nil => rfl
    | cons d ds =>
      rw [trimmed, List.head?_cons, Option.some.injEq] at start
      rw [start, List.takeWhile_cons_of_neg (by simpa using notMark), List.length_nil]
  simp [heading?, level]

theorem heading?_nil : heading? [] = none := rfl

theorem isHeadingOf_headingLine (positive : 0 < level) (small : level ≤ 3) (isPhrase : IsPhrase title) (other : Nat) :
    isHeadingOf other (headingLine level title) = (level == other) := by
  rw [isHeadingOf, heading?_headingLine positive small isPhrase]

/-! ## The first line -/

/-- Lines of which the first that is not blank starts with a mark. -/
def StartsWith (mark : Char) (texts : List (List Char)) : Prop :=
  ∃ rest, texts.find? (fun line => !isBlankText line) = some (mark :: rest)

namespace StartsWith

variable {mark : Char} {texts : List (List Char)} {text : List Char}

theorem headingLine (positive : 0 < level) (title : List Char) (rest : List (List Char)) :
    StartsWith '=' (headingLine level title :: rest) := by
  obtain ⟨level, rfl⟩ := Nat.exists_eq_succ_of_ne_zero positive.ne'
  exact ⟨_, List.find?_cons_of_pos (by rw [headingLine_succ]; rfl)⟩

theorem ne_nil (starts : StartsWith mark texts) : texts ≠ [] := by
  rintro rfl
  exact nomatch starts

theorem isMarkdown (starts : StartsWith mark texts) (notBlank : isBlank mark = false) :
    isMarkdown texts = (mark == '#') := by
  obtain ⟨rest, first⟩ := starts
  rw [Readme.isMarkdown, first]
  simp only [List.dropWhile_cons_of_neg (a := mark) (p := isBlank) (by simp [notBlank]), List.head?_cons]
  rfl

theorem of_endAlike {first second : List (List Char)} (starts : StartsWith mark second)
    (alike : EndAlike first second) : StartsWith mark first := by
  rcases alike with rfl | rfl
  · exact starts
  · obtain ⟨rest, found⟩ := starts
    rw [List.find?_append] at found
    exact ⟨rest, by simpa [isBlankText] using found⟩

/-- What stands first in the text is white space or the mark. -/
theorem head?_ofTextLines (starts : StartsWith mark texts) {c : Char} (head : (ofTextLines texts).head? = some c) :
    isBlank c ∨ c = mark := by
  obtain ⟨rest, found⟩ := starts
  cases texts with
  | nil => exact nomatch found
  | cons line others =>
    rw [ofTextLines_cons] at head
    cases blank : isBlankText line with
    | true =>
      cases line with
      | nil =>
        cases head
        exact .inl (by decide)
      | cons d ds =>
        cases head
        exact .inl (List.all_eq_true.mp blank c List.mem_cons_self)
    | false =>
      rw [List.find?_cons_of_pos (by simp [blank])] at found
      cases found
      cases head
      exact .inr rfl

/-- A text whose lines start with a mark has no byte order mark and no line ending that is
taken for a longer one; the mark decides whether it is Markdown. -/
theorem plainLines (starts : StartsWith mark texts) (notBlank : isBlank mark = false)
    (noOrderMark : mark ≠ Char.ofNat 0xFEFF) (isLine : ∀ line ∈ texts, IsLine line)
    (isText : IsTextOf texts text) :
    plainLines text =
      if mark = '#' then lines (joinWith ['\n'] ((lines text).map plainLine)) else lines text := by
  have first : ∀ c, (ofTextLines texts).head? = some c → (c == Char.ofNat 0xFEFF) = false := by
    intro c head
    rw [beq_eq_false_iff_ne]
    rintro rfl
    exact (starts.head?_ofTextLines head).elim (by decide) fun same => noOrderMark same.symm
  have markdown := (starts.of_endAlike (isText.lines isLine)).isMarkdown notBlank
  rw [Readme.plainLines]
  simp only [isText.dropWhile first, isText.replace_returns isLine, markdown, beq_iff_eq]

end StartsWith

/-! ## Parts -/

/-- The lines of parts that each start with a heading. -/
def partLines (level : Nat) (parts : List (List Char × List (List Char))) : List (List Char) :=
  parts.flatMap fun part => headingLine level part.1 :: part.2

theorem partLines_cons (level : Nat) (part : List Char × List (List Char))
    (parts : List (List Char × List (List Char))) :
    partLines level (part :: parts) = headingLine level part.1 :: (part.2 ++ partLines level parts) := rfl

theorem isLine_partLines (positive : 0 < level) {parts : List (List Char × List (List Char))}
    (titles : ∀ part ∈ parts, IsPhrase part.1) (isLine : ∀ part ∈ parts, ∀ line ∈ part.2, IsLine line) :
    ∀ line ∈ partLines level parts, IsLine line := by
  intro line member
  obtain ⟨part, isPart, member⟩ := List.mem_flatMap.mp member
  rcases List.mem_cons.mp member with rfl | member
  · exact isLine_headingLine positive (titles part isPart).oneLine
  · exact isLine part isPart line member

/-- Headings of one level are none of another. -/
theorem isHeadingOf_partLines (positive : 0 < level) (small : level ≤ 3) {other : Nat} (different : level ≠ other)
    {parts : List (List Char × List (List Char))} (titles : ∀ part ∈ parts, IsPhrase part.1)
    (noHeading : ∀ part ∈ parts, ∀ line ∈ part.2, isHeadingOf other line = false) :
    ∀ line ∈ partLines level parts, isHeadingOf other line = false := by
  intro line member
  obtain ⟨part, isPart, member⟩ := List.mem_flatMap.mp member
  rcases List.mem_cons.mp member with rfl | member
  · rw [isHeadingOf_headingLine positive small (titles part isPart)]
    simpa using different
  · exact noHeading part isPart line member

theorem partsAt_append {body : List (List Char)} (noHeading : ∀ line ∈ body, isHeadingOf level line = false)
    (rest : List (List Char)) : partsAt level (body ++ rest) = partsAt level rest := by
  induction body with
  | nil => rfl
  | cons line others inductionHypothesis =>
    have later := inductionHypothesis fun other member => noHeading other (List.mem_cons_of_mem line member)
    have first := noHeading line List.mem_cons_self
    rw [isHeadingOf] at first
    rw [List.cons_append, partsAt]
    cases isHeading : heading? line with
    | none => exact later
    | some found =>
      simp only [isHeading] at first
      simp only [first, Bool.false_eq_true, if_false]
      exact later

theorem takeWhile_partLines {body : List (List Char)} (positive : 0 < level) (small : level ≤ 3)
    (noHeading : ∀ line ∈ body, isHeadingOf level line = false)
    {parts : List (List Char × List (List Char))} (titles : ∀ part ∈ parts, IsPhrase part.1) :
    (body ++ partLines level parts).takeWhile (fun line => !isHeadingOf level line) = body ∧
      (body ++ partLines level parts).dropWhile (fun line => !isHeadingOf level line) =
        partLines level parts := by
  have passed : ∀ line ∈ body, !isHeadingOf level line := fun line member => by simp [noHeading line member]
  rw [List.takeWhile_append_of_pos passed, List.dropWhile_append_of_pos passed]
  cases parts with
  | nil => simp [partLines]
  | cons part others =>
    have isHeading := isHeadingOf_headingLine positive small (titles part List.mem_cons_self) level
    have stops : (!isHeadingOf level (headingLine level part.1)) = false := by simp [isHeading]
    rw [partLines_cons, List.takeWhile_cons_of_neg (by simp [stops]),
      List.dropWhile_cons_of_neg (by simp [stops]), List.append_nil]
    exact ⟨rfl, rfl⟩

/-- The parts are read back from their lines. -/
theorem partsAt_partLines (positive : 0 < level) (small : level ≤ 3)
    {parts : List (List Char × List (List Char))} (titles : ∀ part ∈ parts, IsPhrase part.1)
    (noHeading : ∀ part ∈ parts, ∀ line ∈ part.2, isHeadingOf level line = false) :
    partsAt level (partLines level parts) = parts := by
  induction parts with
  | nil => rfl
  | cons part others inductionHypothesis =>
    have laterTitles := fun other member => titles other (List.mem_cons_of_mem part member)
    have later := inductionHypothesis laterTitles
      fun other member => noHeading other (List.mem_cons_of_mem part member)
    have body := noHeading part List.mem_cons_self
    rw [partLines_cons, partsAt, heading?_headingLine positive small (titles part List.mem_cons_self)]
    simp only [beq_self_eq_true, if_true, partsAt_append body, later,
      (takeWhile_partLines positive small body laterTitles).1]

end PluginAudit.Readme
