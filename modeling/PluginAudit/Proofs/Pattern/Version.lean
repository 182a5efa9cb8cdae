import PluginAudit.Proofs.Pattern.Language
import PluginAudit.Proofs.Text.Parts
import PluginAudit.Text.Version

/-!
# The patterns of versions

Release versions are recognised by cutting a text at its dots.  The patterns that they are known by
say the same: one and the other come to two or three numerals with dots between them.
-/

namespace PluginAudit

open PluginAudit.Text PluginAudit.Text.Unicode

/-- What is written for a dot and a run of characters behind it. -/
def dotted (p : Char → Bool) : Language Char := {['.']} * Regex.runsOf p

theorem mem_decimalRanges (c : Char) : (CharSet.property decimalRanges).mem c = isDecimal c := by
  have ascii : ∀ n < 0x80, decimalRanges.contains n = (decide (0x30 ≤ n) && decide (n ≤ 0x39)) := by decide +kernel
  rw [CharSet.mem, isDecimal]
  split
  case isTrue small => exact ascii c.toNat small
  case isFalse => rfl

theorem isNumeral_iff {piece : List Char} : isNumeral piece ↔ piece ∈ Regex.runsOf isDecimal := by
  simp only [isNumeral, Bool.and_eq_true, Bool.not_eq_true', List.isEmpty_eq_false_iff, List.all_eq_true]
  rfl

theorem not_mem_numeral {piece : List Char} (numeral : isNumeral piece) : '.' ∉ piece := by
  rw [isNumeral_iff] at numeral
  exact fun member => absurd (numeral.2 '.' member) (by decide)

theorem mem_dotted {p : Char → Bool} {text : List Char} :
    text ∈ dotted p ↔ ∃ piece ∈ Regex.runsOf p, text = '.' :: piece := by
  rw [dotted, Language.mem_mul]
  constructor
  · rintro ⟨_, rfl, piece, isRun, rfl⟩
    exact ⟨piece, isRun, rfl⟩
  · rintro ⟨piece, isRun, rfl⟩
    exact ⟨['.'], rfl, piece, isRun, rfl⟩

theorem isReleaseVersion_iff {text : List Char} :
    isReleaseVersion text ↔ ∃ first second, isNumeral first ∧ isNumeral second ∧
      (text = first ++ '.' :: second ∨
        ∃ third, isNumeral third ∧ text = first ++ '.' :: (second ++ '.' :: third)) := by
  constructor
  · intro version
    have whole := joinWith_splitOn '.' text
    rw [isReleaseVersion, Bool.and_eq_true, Bool.or_eq_true, beq_iff_eq, beq_iff_eq, List.all_eq_true] at version
    obtain ⟨two | three, numerals⟩ := version
    · obtain ⟨first, second, pieces⟩ := List.length_eq_two.mp two
      simp only [pieces, List.forall_mem_cons] at numerals
      rw [pieces] at whole
      exact ⟨first, second, numerals.1, numerals.2.1, .inl (by simp [← whole, joinWith])⟩
    · obtain ⟨first, second, third, pieces⟩ := List.length_eq_three.mp three
      simp only [pieces, List.forall_mem_cons] at numerals
      rw [pieces] at whole
      exact ⟨first, second, numerals.1, numerals.2.1,
        .inr ⟨third, numerals.2.2.1, by simp [← whole, joinWith]⟩⟩
  · rintro ⟨first, second, isFirst, isSecond, rfl | ⟨third, isThird, rfl⟩⟩
    · simp [isReleaseVersion, splitOn_append_cons, splitOn_of_not_mem (not_mem_numeral isFirst),
        splitOn_of_not_mem (not_mem_numeral isSecond), isFirst, isSecond]
    · simp [isReleaseVersion, splitOn_append_cons, splitOn_of_not_mem (not_mem_numeral isFirst),
        splitOn_of_not_mem (not_mem_numeral isSecond), splitOn_of_not_mem (not_mem_numeral isThird), isFirst,
        isSecond, isThird]

/-- The language of release versions. -/
theorem isReleaseVersion_iff_mem {text : List Char} :
    isReleaseVersion text ↔ text ∈ Regex.runsOf isDecimal * (dotted isDecimal * (1 + dotted isDecimal)) := by
  rw [isReleaseVersion_iff]
  constructor
  · rintro ⟨first, second, isFirst, isSecond, last⟩
    rw [isNumeral_iff] at isFirst isSecond
    have middle := mem_dotted.mpr ⟨second, isSecond, rfl⟩
    rcases last with rfl | ⟨third, isThird, rfl⟩
    · have nothing : [] ∈ 1 + dotted isDecimal := .inl Language.nil_mem_one
      have others := Language.append_mem_mul middle nothing
      rw [List.append_nil] at others
      exact Language.append_mem_mul isFirst others
    · have another : '.' :: third ∈ 1 + dotted isDecimal :=
        .inr (mem_dotted.mpr ⟨third, isNumeral_iff.mp isThird, rfl⟩)
      exact Language.append_mem_mul isFirst (Language.append_mem_mul middle another)
  · intro member
    obtain ⟨first, isFirst, _, others, rfl⟩ := Language.mem_mul.mp member
    obtain ⟨_, isDotted, last, isLast, rfl⟩ := Language.mem_mul.mp others
    obtain ⟨second, isSecond, rfl⟩ := mem_dotted.mp isDotted
    refine ⟨first, second, isNumeral_iff.mpr isFirst, isNumeral_iff.mpr isSecond, ?_⟩
    rcases isLast with empty | isDotted
    · obtain rfl := (Language.mem_one last).mp empty
      exact .inl (by simp)
    · obtain ⟨third, isThird, rfl⟩ := mem_dotted.mp isDotted
      exact .inr ⟨third, isNumeral_iff.mpr isThird, rfl⟩

namespace Pattern

/-- Whether a text has a match of the pattern that a source is compiled to. -/
def Accepts (source text : String) : Prop := ∃ pattern, compile source = .ok pattern ∧ pattern.isMatch text

/-- The pattern of versions of the site software. -/
def sitePattern : String := "^\\d+\\.\\d+(\\.\\d+)?$"

/-- The pattern of versions of the language that plugins are written in. -/
def languagePattern : String := "^\\d+(\\.\\d+)\x7b1,2\x7d$"

theorem accepts_iff {source text : String} {body : Regex} {language : Language Char}
    (compiled : compile source = .ok (.regex (.sequence (.assertion .textStart) body)))
    (readsAll : body.ReadsAll language) : Accepts source text ↔ text.toList ∈ language := by
  rw [← Regex.isMatch_textStart readsAll]
  constructor
  · rintro ⟨pattern, same, isMatch⟩
    cases compiled.symm.trans same
    exact isMatch
  · exact fun isMatch => ⟨_, compiled, isMatch⟩

theorem reads_numeral : Regex.Reads (.repeated true (.char (.property decimalRanges))) (Regex.runsOf isDecimal) := by
  rw [← funext mem_decimalRanges]
  exact Regex.reads_repeated true _

theorem reads_dotted :
    Regex.Reads (.sequence (.char (.oneOf ['.'])) (.repeated true (.char (.property decimalRanges)))) (dotted isDecimal) :=
  (Regex.reads_literal '.').sequence reads_numeral

theorem accepts_sitePattern_iff {text : String} : Accepts sitePattern text ↔ isReleaseVersion text.toList := by
  have last := (reads_dotted.optional true).sequenceAll Regex.readsAll_textEnd
  rw [isReleaseVersion_iff_mem]
  refine (accepts_iff rfl (reads_numeral.sequenceAll
    ((Regex.reads_literal '.').sequenceAll (reads_numeral.sequenceAll last)))).trans ?_
  simp only [dotted, mul_one, mul_assoc]

theorem accepts_languagePattern_iff {text : String} : Accepts languagePattern text ↔ isReleaseVersion text.toList := by
  rw [isReleaseVersion_iff_mem]
  refine (accepts_iff rfl (reads_numeral.sequenceAll
    ((reads_dotted.sequence (reads_dotted.optional true)).sequenceAll Regex.readsAll_textEnd))).trans ?_
  rw [mul_one]

end Pattern

end PluginAudit
