import Mathlib.Tactic.SplitIfs
import PluginAudit.Checks.PluginReadme
import PluginAudit.Proofs.Text.Case
import PluginAudit.Proofs.Text.Replacing

/-!
# Spellings of a license

The spellings of one version of the General Public License have one comparable form, whatever
the number of the version and whatever the case of the letters.  No replaced text reaches into
the number, so what stands before and behind it is brought into its form on its own.  A readme
and a header with two such spellings are told apart exactly if the versions differ.
-/

namespace PluginAudit

open PluginAudit.Text

namespace License

/-- A version of the license, alone or with all later ones. -/
structure GplVersion where
  number : String
  orLater : Bool
  nonempty : number ≠ ""
  digits : ∀ c ∈ number.toList, isAsciiDigit c

/-- What stands before and behind the number. -/
def spellings (orLater : Bool) : List (String × String) :=
  if orLater then
    [("GPLv", " or later"), ("GPLv", "+"), ("GPL-", ".0-or-later"), ("GPL-", ".0+"),
      ("GNU General Public License v", " or later"), ("GNU General Public License version ", " or later")]
  else
    [("GPLv", ""), ("GPL ", ""), ("GPL-", ".0"), ("GPL-", ".0-only"), ("GNU General Public License version ", "")]

/-- A name is a spelling of a version, in any case. -/
def Spells (name : String) (version : GplVersion) : Prop :=
  ∃ spelling ∈ spellings version.orLater,
    sameAsciiFolded name.toList (spelling.1 ++ version.number ++ spelling.2).toList

instance (name : String) (version : GplVersion) : Decidable (Spells name version) :=
  inferInstanceAs (Decidable (∃ spelling ∈ spellings version.orLater, _))

variable {name : String} {version : GplVersion}

/-! ## Replacing around a number -/

/-- A text after some replacements. -/
def replaced (texts : List (String × String)) (text : List Char) : List Char :=
  texts.foldl (fun text (old, new) => replace old.toList new.toList text) text

/-- The comparable form of a text in lower case. -/
def condensed (text : List Char) : List Char :=
  replace "gplv".toList "gpl".toList
    ((replaced replacements text).filter fun c => isAsciiAlphanumeric c || c == '+')

theorem normalize_eq (name : String) : normalize name = String.ofList (condensed (lowercase name.toList)) := rfl

/-- Each of the replaced texts, in its turn, avoids digits behind a text. -/
def AvoidDigits : List (String × String) → List Char → Prop
  | [], _ => True
  | (old, new) :: others, front =>
      Avoids isAsciiDigit old.toList front ∧ AvoidDigits others (replace old.toList new.toList front)

instance decidableAvoidDigits :
    (texts : List (String × String)) → (front : List Char) → Decidable (AvoidDigits texts front)
  | [], _ => inferInstanceAs (Decidable True)
  | (old, new) :: others, front =>
      have := decidableAvoidDigits others (replace old.toList new.toList front)
      inferInstanceAs (Decidable (_ ∧ _))

section

variable {number front : List Char} (digits : ∀ c ∈ number, isAsciiDigit c) (nonempty : number ≠ [])
include digits nonempty

theorem replaced_append {texts : List (String × String)} (avoid : AvoidDigits texts front) (back : List Char) :
    replaced texts (front ++ number ++ back) = replaced texts front ++ number ++ replaced texts back := by
  induction texts generalizing front back with
  | nil => rfl
  | cons text others inductionHypothesis =>
    obtain ⟨here, later⟩ := avoid
    have step := inductionHypothesis later (replace text.1.toList text.2.toList back)
    rw [← here.replace_append digits nonempty] at step
    exact step

theorem condensed_append (avoid : AvoidDigits replacements front) (back : List Char) :
    condensed (front ++ number ++ back) = condensed front ++ number ++ condensed back := by
  have kept : number.filter (fun c => isAsciiAlphanumeric c || c == '+') = number :=
    List.filter_eq_self.mpr fun c member => by simp [isAsciiAlphanumeric, digits c member]
  have letters : "gplv".toList.all (!isAsciiDigit ·) := by decide
  have avoids (front : List Char) : Avoids isAsciiDigit "gplv".toList front :=
    ⟨by decide, .inl fun c member => by simpa using List.all_eq_true.mp letters c member⟩
  rw [condensed, replaced_append digits nonempty avoid, List.filter_append, List.filter_append, kept,
    (avoids _).replace_append digits nonempty]
  rfl

end

/-! ## Spellings -/

/-- What a spelling comes to before and behind the number. -/
structure Condenses (orLater : Bool) (spelling : String × String) : Prop where
  ascii : IsAscii (spelling.1.toList ++ spelling.2.toList)
  avoid : AvoidDigits replacements (asciiLowercase spelling.1.toList)
  front : condensed (asciiLowercase spelling.1.toList) = "gpl".toList
  back : condensed (asciiLowercase spelling.2.toList) = (if orLater then "+" else "").toList
  compatible : compatibleParts.any (hasInfix ·.toList (asciiLowercase spelling.1.toList))

instance (orLater : Bool) (spelling : String × String) : Decidable (Condenses orLater spelling) :=
  decidable_of_iff (_ ∧ _ ∧ _ ∧ _ ∧ _)
    ⟨fun ⟨ascii, avoid, front, back, compatible⟩ => ⟨ascii, avoid, front, back, compatible⟩,
      fun condenses => ⟨condenses.ascii, condenses.avoid, condenses.front, condenses.back, condenses.compatible⟩⟩

theorem condenses_spellings : ∀ orLater, ∀ spelling ∈ spellings orLater, Condenses orLater spelling := by decide +kernel

theorem exists_lowercase_of_spells (spells : Spells name version) :
    ∃ spelling, Condenses version.orLater spelling ∧
      lowercase name.toList =
        asciiLowercase spelling.1.toList ++ version.number.toList ++ asciiLowercase spelling.2.toList := by
  obtain ⟨spelling, member, same⟩ := spells
  have condenses := condenses_spellings version.orLater spelling member
  obtain ⟨asciiFront, asciiBack⟩ := List.forall_mem_append.mp condenses.ascii
  rw [sameAsciiFolded, beq_iff_eq, String.toList_append, String.toList_append] at same
  have ascii : IsAscii (spelling.1.toList ++ version.number.toList ++ spelling.2.toList) :=
    List.forall_mem_append.mpr ⟨List.forall_mem_append.mpr
      ⟨asciiFront, fun c member => ascii_of_isAsciiDigit (version.digits c member)⟩, asciiBack⟩
  refine ⟨spelling, condenses, ?_⟩
  rw [lowercase_ascii (ascii.of_asciiLowercase_eq same), same, asciiLowercase_append, asciiLowercase_append,
    asciiLowercase_of_digits version.digits]

theorem GplVersion.number_ne_nil (version : GplVersion) : version.number.toList ≠ [] :=
  fun empty => version.nonempty (String.toList_eq_nil_iff.mp empty)

/-- The form that all spellings of a version have. -/
theorem normalize_of_spells (spells : Spells name version) :
    normalize name = "gpl" ++ version.number ++ if version.orLater then "+" else "" := by
  obtain ⟨spelling, condenses, lower⟩ := exists_lowercase_of_spells spells
  rw [normalize_eq, lower, condensed_append version.digits version.number_ne_nil condenses.avoid, condenses.front,
    condenses.back, ← String.toList_append, ← String.toList_append, String.ofList_toList]

theorem isCompatible_of_spells (spells : Spells name version) : isCompatible name := by
  obtain ⟨spelling, condenses, lower⟩ := exists_lowercase_of_spells spells
  obtain ⟨part, listed, isPart⟩ := List.any_eq_true.mp condenses.compatible
  refine List.any_eq_true.mpr ⟨part, listed, ?_⟩
  rw [hasInfix_iff] at isPart ⊢
  rw [lower, List.append_assoc]
  exact isPart.trans (List.prefix_append _ _).isInfix

theorem isEmpty_of_spells (spells : Spells name version) : name.isEmpty = false := by
  obtain ⟨spelling, -, lower⟩ := exists_lowercase_of_spells spells
  rw [String.isEmpty_eq_false_iff]
  rintro rfl
  have none : [] = asciiLowercase spelling.1.toList ++ version.number.toList ++ asciiLowercase spelling.2.toList := lower
  exact version.number_ne_nil (List.append_eq_nil_iff.mp (List.append_eq_nil_iff.mp none.symm).1).2

/-- The comparable forms of two versions are the same only if the versions are: no number has a
plus sign in it. -/
theorem form_eq_iff {first second : GplVersion} :
    ("gpl" ++ first.number ++ if first.orLater then "+" else "") =
        ("gpl" ++ second.number ++ if second.orLater then "+" else "") ↔
      first.number = second.number ∧ first.orLater = second.orLater := by
  refine ⟨fun same => ?_, fun ⟨number, orLater⟩ => by rw [number, orLater]⟩
  have parts := congrArg String.toList same
  simp only [String.toList_append, List.append_assoc, List.append_cancel_left_eq] at parts
  have signed (version : GplVersion) :
      version.orLater ↔ '+' ∈ version.number.toList ++ (if version.orLater then "+" else "").toList := by
    have noSign : '+' ∉ version.number.toList := fun member => absurd (version.digits '+' member) (by decide)
    cases version.orLater <;> simp [noSign]
  have orLater : first.orLater = second.orLater := by
    rw [Bool.eq_iff_iff, signed first, signed second, parts]
  rw [orLater] at parts
  exact ⟨String.toList_inj.mp (List.append_cancel_right parts), orLater⟩

end License

namespace PluginReadmeCheck

open License

variable {file : Path} {readme : Readme} {header : PluginHeader} {first second : GplVersion}

/-- The warning about different licenses. -/
def mismatch (file : Path) (readme : Readme) (header : PluginHeader) : Finding :=
  finding file .warning "license_mismatch"
    ("Your plugin has a different license declared in the readme file (\"" ++ readme.license ++
      "\") and plugin header (\"" ++ header.license ++ "\").")

theorem licenseFindings_of_spells (inReadme : Spells readme.license first) (inHeader : Spells header.license second) :
    licenseFindings file readme header =
      if first.number = second.number ∧ first.orLater = second.orLater then [] else [mismatch file readme header] := by
  have differ : (License.normalize header.license != License.normalize readme.license) =
      !decide (first.number = second.number ∧ first.orLater = second.orLater) := by
    rw [bne, Bool.not_inj_iff, Bool.beq_eq_decide_eq, normalize_of_spells inReadme, normalize_of_spells inHeader]
    exact decide_eq_decide.mpr (eq_comm.trans form_eq_iff)
  simp only [licenseFindings, isEmpty_of_spells inReadme, isCompatible_of_spells inReadme, isEmpty_of_spells inHeader,
    differ]
  by_cases same : first.number = second.number ∧ first.orLater = second.orLater
  · simp [same]
  · simp [same, mismatch]

/-- No other finding about a readme has the code of the warning. -/
theorem filter_readmeFindings (file : Path) (readme : Readme) (header : PluginHeader) :
    (readmeFindings file readme header).filter (·.code == "license_mismatch") =
      (licenseFindings file readme header).filter (·.code == "license_mismatch") := by
  have none {findings : List Finding} (other : ∀ finding ∈ findings, finding.code ≠ "license_mismatch") :
      findings.filter (·.code == "license_mismatch") = [] := by
    simpa [List.filter_eq_nil_iff] using other
  have warnings : ∀ found ∈ warningFindings file readme, found.code ≠ "license_mismatch" := by
    intro found member
    obtain ⟨warning, -, rfl⟩ := List.mem_map.mp member
    cases warning <;> simp [finding, ReadmeWarning.code]
  have defaults : ∀ found ∈ defaultTextFindings file readme, found.code ≠ "license_mismatch" := by
    intro found member
    rw [defaultTextFindings] at member
    split at member <;> simp_all [finding]
  have tags : ∀ found ∈ stableTagFindings file readme header, found.code ≠ "license_mismatch" := by
    intro found member
    simp only [stableTagFindings] at member
    split_ifs at member <;> simp_all [finding]
  have names : ∀ found ∈ nameFindings file readme header, found.code ≠ "license_mismatch" := by
    intro found member
    rw [nameFindings] at member
    split at member <;> simp_all [finding]
  have notices : ∀ found ∈ noticeFindings file readme, found.code ≠ "license_mismatch" := by
    intro found member
    obtain ⟨notice, -, rfl⟩ := List.mem_map.mp member
    simp [finding]
  simp only [readmeFindings, List.filter_append, none warnings, none defaults, none tags, none names, none notices,
    List.nil_append, List.append_nil]

/-- A spelling has the comparable form of its version, which has nothing but the number and a plus
sign for all later versions in it.  So a readme and a header with two spellings are warned about
once if the numbers differ or only one of them goes on to later versions, and else not at all. -/
theorem normalize_spellings :
    (∀ name version, Spells name version →
        License.normalize name = "gpl" ++ version.number ++ if version.orLater then "+" else "") ∧
      ∀ file readme header first second, Spells readme.license first → Spells header.license second →
        (readmeFindings file readme header).filter (·.code == "license_mismatch") =
          if first.number = second.number ∧ first.orLater = second.orLater then []
          else [mismatch file readme header] := by
  refine ⟨fun name version => normalize_of_spells, fun file readme header first second inReadme inHeader => ?_⟩
  rw [filter_readmeFindings, licenseFindings_of_spells inReadme inHeader]
  split
  case isTrue => rfl
  case isFalse => rfl

def versionTen (orLater : Bool) : GplVersion := ⟨"10", orLater, by decide, by simp [isAsciiDigit]⟩

def versionHundred : GplVersion := ⟨"100", false, by decide, by simp [isAsciiDigit]⟩

/-- Two spellings of one version, and two of versions whose numbers start alike. -/
theorem normalize_spellings_ten :
    (Spells "GNU general PUBLIC license Version 10 or later" (versionTen true) ∧ Spells "gpl-10.0+" (versionTen true) ∧
      Spells "GPL 10" (versionTen false) ∧ Spells "gplV100" versionHundred) ∧
      License.normalize "GNU general PUBLIC license Version 10 or later" = "gpl10+" ∧
      (readmeFindings ⟨"readme.txt"⟩ { license := "GNU general PUBLIC license Version 10 or later" }
        { license := "gpl-10.0+" }).filter (·.code == "license_mismatch") = [] ∧
      (readmeFindings ⟨"readme.txt"⟩ { license := "GPL 10" } { license := "gplV100" }).filter
        (·.code == "license_mismatch") =
          [mismatch ⟨"readme.txt"⟩ { license := "GPL 10" } { license := "gplV100" }] := by
  have spelled : Spells "GNU general PUBLIC license Version 10 or later" (versionTen true) ∧
      Spells "gpl-10.0+" (versionTen true) ∧ Spells "GPL 10" (versionTen false) ∧ Spells "gplV100" versionHundred := by
    decide +kernel
  obtain ⟨long, short, alone, other⟩ := spelled
  obtain ⟨form, warned⟩ := normalize_spellings
  exact ⟨⟨long, short, alone, other⟩, form _ _ long,
    warned ⟨"readme.txt"⟩ { license := _ } { license := _ } _ _ long short,
    warned ⟨"readme.txt"⟩ { license := _ } { license := _ } _ _ alone other⟩

end PluginReadmeCheck

end PluginAudit
