import Mathlib.Data.Char
import Mathlib.Data.List.Basic
import PluginAudit.Proofs.Text.Trimming

/-!
# Lower case

A character in lower case stays as it is.  The tables say so run by run: no image of a run lies
in a run again.  ASCII text is brought into lower case one character at a time, and what it is
equal to up to case is ASCII text as well.
-/

namespace PluginAudit.Text

open PluginAudit.Text.Unicode

variable {c d : Char} {text other : List Char}

/-! ## ASCII characters -/

/-- What holds of all ASCII characters is found by looking at them. -/
theorem forall_ascii {p : Char → Prop} (all : ∀ code < 0x80, p (Char.ofNat code)) (ascii : c.toNat < 0x80) :
    p c := by
  have := all c.toNat ascii
  rwa [Char.ofNat_toNat] at this

theorem ascii_of_isAsciiLetter (letter : isAsciiLetter c) : c.toNat < 0x80 := by
  simp only [isAsciiLetter, Bool.or_eq_true, Bool.and_eq_true, decide_eq_true_eq, Char.le_def,
    UInt32.le_iff_toNat_le] at letter
  change c.val.toNat < 0x80
  have : 'z'.val.toNat = 122 := rfl
  have : 'Z'.val.toNat = 90 := rfl
  omega

theorem ascii_of_isAsciiDigit (digit : isAsciiDigit c) : c.toNat < 0x80 := by
  simp only [isAsciiDigit, Bool.and_eq_true, decide_eq_true_eq, Char.le_def, UInt32.le_iff_toNat_le] at digit
  change c.val.toNat < 0x80
  have : '9'.val.toNat = 57 := rfl
  omega

/-- What holds of a character in lower case and of the capital letters. -/
theorem toLower_cases {p : Char → Prop} (capital : ∀ code < 0x80, p (Char.ofNat code)) (other : c.toLower = c → p c) :
    p c := by
  by_cases upper : c.val ≥ 'A'.val ∧ c.val ≤ 'Z'.val
  · have last := UInt32.le_iff_toNat_le.mp upper.2
    have : 'Z'.val.toNat = 90 := rfl
    exact forall_ascii capital (show c.val.toNat < 0x80 by omega)
  · exact other (dif_neg upper)

theorem isAsciiLetter_toLower : isAsciiLetter c.toLower = isAsciiLetter c :=
  toLower_cases (p := fun c => isAsciiLetter c.toLower = isAsciiLetter c) (by decide) fun same => by rw [same]

theorem ascii_toLower : c.toLower.toNat < 0x80 ↔ c.toNat < 0x80 :=
  toLower_cases (p := fun c => c.toLower.toNat < 0x80 ↔ c.toNat < 0x80) (by decide) fun same => by rw [same]

theorem toLower_toLower (c : Char) : c.toLower.toLower = c.toLower :=
  toLower_cases (p := fun c => c.toLower.toLower = c.toLower) (by decide) fun same => by rw [same, same]

theorem isBlank_toLower : isBlank c.toLower = isBlank c :=
  toLower_cases (p := fun c => isBlank c.toLower = isBlank c) (by decide) fun same => by rw [same]

theorem sameFolded_ascii (first : c.toNat < 0x80) (second : d.toNat < 0x80) :
    sameFolded c d = (c.toLower == d.toLower) := by
  simp [sameFolded, foldChar, first, second]

theorem toLower_of_isAsciiDigit (digit : isAsciiDigit c) : c.toLower = c :=
  toLower_cases (p := fun c => isAsciiDigit c → c.toLower = c) (by decide) (fun same _ => same) digit

/-! ## ASCII text -/

def IsAscii (text : List Char) : Prop := ∀ c ∈ text, c.toNat < 0x80

instance (text : List Char) : Decidable (IsAscii text) := List.decidableBAll _ text

theorem IsAscii.of_asciiLowercase_eq (ascii : IsAscii text) (same : asciiLowercase other = asciiLowercase text) :
    IsAscii other := by
  intro d member
  have lower : d.toLower ∈ asciiLowercase text := same ▸ List.mem_map_of_mem member
  obtain ⟨c, inText, alike⟩ := List.mem_map.mp lower
  rw [← ascii_toLower, ← alike, ascii_toLower]
  exact ascii c inText

theorem asciiLowercase_append (front back : List Char) :
    asciiLowercase (front ++ back) = asciiLowercase front ++ asciiLowercase back := List.map_append

theorem asciiLowercase_of_digits (digits : ∀ c ∈ text, isAsciiDigit c) : asciiLowercase text = text :=
  (List.map_congr_left fun c member => toLower_of_isAsciiDigit (digits c member)).trans (List.map_id' text)

theorem asciiLowercase_trimEndBy {p : Char → Bool} (same : ∀ c, p c.toLower = p c) (text : List Char) :
    asciiLowercase (trimEndBy p text) = trimEndBy p (asciiLowercase text) := by
  have composed : p ∘ Char.toLower = p := funext same
  rw [asciiLowercase, asciiLowercase, trimEndBy, trimEndBy, ← List.map_reverse, List.dropWhile_map, composed,
    List.map_reverse]

theorem trimmed_of_asciiLowercase (trimmed : Trimmed (asciiLowercase text)) : Trimmed text where
  starts c first := by
    rw [← isBlank_toLower]
    exact trimmed.starts c.toLower (by rw [asciiLowercase, List.head?_map, first, Option.map_some])
  stops c last := by
    rw [← isBlank_toLower]
    exact trimmed.stops c.toLower (by rw [asciiLowercase, List.getLast?_map, last, Option.map_some])

theorem lowercaseAfter_ascii (before : List Char) (ascii : IsAscii text) :
    lowercaseAfter before text = asciiLowercase text := by
  induction text generalizing before with
  | nil => rfl
  | cons c cs inductionHypothesis =>
    obtain ⟨first, others⟩ := List.forall_mem_cons.mp ascii
    have noSigma : c ≠ 'Σ' := by
      rintro rfl
      exact absurd first (by decide)
    rw [lowercaseAfter, inductionHypothesis (c :: before) others]
    simp [noSigma, lowercaseChar, first, asciiLowercase]

theorem lowercase_ascii (ascii : IsAscii text) : lowercase text = asciiLowercase text := lowercaseAfter_ascii [] ascii

/-! ## Runs of a character map -/

/-- The first and the last code point of a run, its step and the first image. -/
abbrev Run := Nat × Nat × Nat × Nat

/-- A run moves the code points that it has an image for. -/
def Moves (run : Run) (n : Nat) : Prop := run.1 ≤ n ∧ n ≤ run.2.1 ∧ (n - run.1) % run.2.2.1 = 0

instance (run : Run) (n : Nat) : Decidable (Moves run n) := inferInstanceAs (Decidable (_ ∧ _ ∧ _))

theorem apply_cases (runs : Runs) (n : Nat) :
    runs.apply n = n ∨ ∃ run ∈ runs, Moves run n ∧ runs.apply n = run.2.2.2 + (n - run.1) := by
  induction runs with
  | nil => exact .inl rfl
  | cons run others inductionHypothesis =>
    obtain ⟨low, high, step, image⟩ := run
    have later : Runs.apply others n = n ∨ ∃ run ∈ (low, high, step, image) :: others, Moves run n ∧
        Runs.apply others n = run.2.2.2 + (n - run.1) :=
      inductionHypothesis.imp_right fun ⟨run, member, moved⟩ => ⟨run, List.mem_cons_of_mem _ member, moved⟩
    rw [Runs.apply]
    split
    case isTrue => exact .inl rfl
    case isFalse starts =>
      split
      case isTrue stops =>
        split
        case isTrue steps => exact .inr ⟨_, List.mem_cons_self, ⟨not_lt.mp starts, stops, steps⟩, rfl⟩
        case isFalse => exact later
      case isFalse => exact later

theorem apply_eq_self {runs : Runs} {n : Nat} (unmoved : ∀ run ∈ runs, ¬ Moves run n) : runs.apply n = n :=
  (apply_cases runs n).resolve_right fun ⟨run, member, moved, _⟩ => unmoved run member moved

/-- The images of a run are moved by no other one: they lie before or behind it, or the two runs
have the even and the odd code points among themselves. -/
def apart (run other : Run) : Bool :=
  Nat.blt (run.2.2.2 + (run.2.1 - run.1)) other.1 || Nat.blt other.2.1 run.2.2.2 ||
    ((Nat.beq run.1 run.2.1 || Nat.beq (run.2.2.1 % 2) 0) && Nat.beq (other.2.2.1 % 2) 0 &&
      Nat.beq ((run.2.2.2 + other.1) % 2) 1)

theorem even_of_mod_eq_zero {n step : Nat} (even : step % 2 = 0) (steps : n % step = 0) : n % 2 = 0 :=
  Nat.mod_eq_zero_of_dvd (Nat.dvd_trans (Nat.dvd_of_mod_eq_zero even) (Nat.dvd_of_mod_eq_zero steps))

theorem not_moves_of_apart {run other : Run} {n : Nat} (isApart : apart run other) (moved : Moves run n) :
    ¬ Moves other (run.2.2.2 + (n - run.1)) := by
  obtain ⟨low, high, step, image⟩ := run
  obtain ⟨otherLow, otherHigh, otherStep, otherImage⟩ := other
  obtain ⟨starts, stops, steps⟩ := moved
  rintro ⟨otherStarts, otherStops, otherSteps⟩
  simp only [apart, Bool.or_eq_true, Bool.and_eq_true, Nat.blt_eq, Nat.beq_eq] at *
  rcases isApart with (before | behind) | ⟨⟨even, otherEven⟩, parity⟩
  · omega
  · omega
  · have otherOffset := even_of_mod_eq_zero otherEven otherSteps
    rcases even with single | even
    · omega
    · have offset := even_of_mod_eq_zero even steps
      omega

/-! ## The lowercase forms of characters -/

/-- The runs, and one for the only character whose lowercase form has two. -/
def loweredRuns : Runs := (0x130, 0x130, 1, 0x69) :: lowercaseRuns

theorem apart_loweredRuns : (lowercaseRuns.all fun run => loweredRuns.all (apart run)) = true := by decide +kernel

theorem toNat_ofNat (n : Nat) : (Char.ofNat n).toNat = n ∨ (Char.ofNat n).toNat = 0 := by
  by_cases valid : n.isValidChar
  · exact .inl (by rw [Char.ofNat, dif_pos valid]; rfl)
  · exact .inr (by rw [Char.ofNat, dif_neg valid]; rfl)

/-- A character that no run moves is its own lowercase form. -/
theorem lowercaseChar_of_unmoved (unmoved : ∀ run ∈ loweredRuns, ¬ Moves run c.toNat) : lowercaseChar c = [c] := by
  obtain ⟨notDotted, others⟩ := List.forall_mem_cons.mp unmoved
  have single : (c.toNat == 0x130) ≠ true := fun dotted => by
    rw [beq_iff_eq] at dotted
    simp [Moves, dotted] at notDotted
  have unmovedCapital := others (0x41, 0x5A, 1, 0x61) (by decide)
  rw [lowercaseChar, if_neg single, apply_eq_self others, Char.ofNat_toNat]
  split
  case isTrue ascii =>
    have notCapital : ¬ (0x41 ≤ c.toNat ∧ c.toNat ≤ 0x5A) := by
      simpa [Moves, Nat.mod_one] using unmovedCapital
    exact congrArg (fun d => [d]) (dif_neg notCapital)
  case isFalse => rfl

/-- A character that a lowercase form is made of is its own lowercase form. -/
theorem lowercaseChar_of_mem (member : d ∈ lowercaseChar c) : lowercaseChar d = [d] := by
  have form := member
  simp only [lowercaseChar] at form
  split at form
  case isTrue ascii =>
    rw [List.mem_singleton] at form
    rw [form, lowercaseChar, if_pos (ascii_toLower.mpr ascii), toLower_toLower]
  case isFalse beyond =>
    split at form
    case isTrue =>
      have both : lowercaseChar 'i' = ['i'] ∧ lowercaseChar (Char.ofNat 0x307) = [Char.ofNat 0x307] := by decide +kernel
      rcases List.mem_pair.mp form with rfl | rfl
      · exact both.1
      · exact both.2
    case isFalse single =>
      rw [List.mem_singleton] at form
      rcases apply_cases lowercaseRuns c.toNat with idle | ⟨run, isRun, moved, image⟩
      · rw [idle, Char.ofNat_toNat] at form
        rw [form, lowercaseChar, if_neg beyond, if_neg single, idle, Char.ofNat_toNat]
      · rw [form]
        refine lowercaseChar_of_unmoved fun other isOther => ?_
        rcases toNat_ofNat (lowercaseRuns.apply c.toNat) with code | none
        · rw [code, image]
          have runsApart := List.all_eq_true.mp (List.all_eq_true.mp apart_loweredRuns run isRun) other isOther
          exact not_moves_of_apart runsApart moved
        · rw [none]
          have unmoved : ∀ run ∈ loweredRuns, ¬ Moves run 0 := by decide +kernel
          exact unmoved other isOther

/-! ## White space -/

def blankCodes : List Nat :=
  [0x9, 0xA, 0xB, 0xC, 0xD, 0x20, 0x85, 0xA0, 0x1680, 0x2000, 0x2001, 0x2002, 0x2003, 0x2004, 0x2005, 0x2006, 0x2007,
    0x2008, 0x2009, 0x200A, 0x2028, 0x2029, 0x202F, 0x205F, 0x3000]

theorem mem_blankCodes (blank : isBlank c) : c.toNat ∈ blankCodes := by
  simp only [isBlank, Bool.or_eq_true, Bool.and_eq_true, decide_eq_true_eq, beq_iff_eq] at blank
  simp only [blankCodes, List.mem_cons, List.not_mem_nil, or_false]
  omega

/-- White space has no letters and no numbers in its lowercase form. -/
theorem not_isAlphanumeric_of_isBlank (blank : isBlank c) : ∀ d ∈ lowercaseChar c, isAlphanumeric d = false := by
  have all : ∀ code ∈ blankCodes, (lowercaseChar (Char.ofNat code)).all (!isAlphanumeric ·) := by decide +kernel
  have here := all c.toNat (mem_blankCodes blank)
  rw [Char.ofNat_toNat, List.all_eq_true] at here
  exact fun d member => by simpa using here d member

end PluginAudit.Text
