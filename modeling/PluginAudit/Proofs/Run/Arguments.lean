import PluginAudit.Proofs.Text.Slicing
import PluginAudit.Run.Arguments

/-!
# Scanning the words of an invocation

An invocation is written in parts, which are positional arguments, options with a value behind a
`=` or in a word of its own, and flags.  The scans for positional arguments, for options and for
flags know different things about where a part ends, but as long as neither positional arguments
nor values start with a dash they agree: each of them finds its parts in whatever order they stand.
-/

namespace PluginAudit

open PluginAudit.Text

namespace Arguments

/-- The flag that asks for experimental checks. -/
def experimentalFlag : String := "--include-experimental"

/-! ## Parts of an invocation -/

/-- An option that takes a value, as it is written. -/
structure WrittenOption where
  name : String
  value : String
  /-- Whether the value stands in the same word, behind a `=`. -/
  joined : Bool
  known : name ∈ valueOptions
  undashed : isDashed value = false

/-- A part of an invocation behind the name of the program. -/
inductive Part
  | positional (text : String) (undashed : isDashed text = false)
  | option (written : WrittenOption)
  | experimental

namespace Part

def words : Part → List String
  | positional text _ => [text]
  | option written =>
      if written.joined then [written.name ++ "=" ++ written.value] else [written.name, written.value]
  | experimental => [experimentalFlag]

def positional? : Part → Option String
  | positional text _ => some text
  | option _ | experimental => none

/-- The value that is given to the option with a name. -/
def valueOf? (name : String) : Part → Option String
  | option written => if written.name = name then some written.value else none
  | positional _ _ | experimental => none

def isExperimental : Part → Bool
  | experimental => true
  | positional _ _ | option _ => false

end Part

/-- The name of a program and the parts behind it. -/
structure Invocation where
  program : String
  parts : List Part
  undashed : isDashed program = false

def Invocation.arguments (i : Invocation) : Arguments := ⟨i.program :: i.parts.flatMap Part.words⟩

/-- The parts say, in any order, that a plugin is to be checked and which checks are selected. -/
structure Invocation.Writes (i : Invocation) (s : WrittenSelection) : Prop where
  positionals : i.parts.filterMap Part.positional? = ["check", s.plugin]
  checks : i.parts.filterMap (Part.valueOf? "--checks") = s.checks.toList
  excluded : i.parts.filterMap (Part.valueOf? "--exclude-checks") = s.excluded.toList
  categories : i.parts.filterMap (Part.valueOf? "--categories") = s.categories.toList
  experimental : i.parts.any Part.isExperimental = s.includesExperimental

/-! ## Words -/

variable {word name value : String} {rest : List String}

theorem option_shape : ∀ name ∈ valueOptions, isDashed name ∧ '=' ∉ name.toList ∧ name ≠ experimentalFlag := by
  decide +kernel

theorem flag_shape : isDashed experimentalFlag ∧ '=' ∉ experimentalFlag.toList ∧ experimentalFlag ∉ valueOptions := by
  decide +kernel

theorem not_mem_valueOptions (undashed : isDashed word = false) : word ∉ valueOptions := by
  intro known
  simp [(option_shape word known).1] at undashed

theorem ne_of_undashed (undashed : isDashed word = false) (dashed : isDashed name) : word ≠ name := by
  rintro rfl
  simp [undashed] at dashed

/-- A word with a `=` in it is no option or flag itself. -/
theorem joined_shape (known : name ∈ valueOptions) (value : String) :
    isDashed (name ++ "=" ++ value) ∧ '=' ∈ (name ++ "=" ++ value).toList := by
  refine ⟨?_, by simp⟩
  have dashed := (option_shape name known).1
  unfold isDashed at *
  cases characters : name.toList with
  | nil => simp [characters] at dashed
  | cons c cs => simpa [characters] using dashed

/-! ## Positional arguments -/

theorem positionalsIn_option (known : word ∈ valueOptions) (value : String) (rest : List String) :
    positionalsIn (word :: value :: rest) = positionalsIn rest := by
  simp [positionalsIn, known]

theorem positionalsIn_dashed (unknown : word ∉ valueOptions) (dashed : isDashed word) (rest : List String) :
    positionalsIn (word :: rest) = positionalsIn rest := by
  cases rest <;> simp [positionalsIn, unknown, dashed]

theorem positionalsIn_undashed (undashed : isDashed word = false) (rest : List String) :
    positionalsIn (word :: rest) = word :: positionalsIn rest := by
  cases rest <;> simp [positionalsIn, not_mem_valueOptions undashed, undashed]

theorem positionalsIn_words (part : Part) (rest : List String) :
    positionalsIn (part.words ++ rest) = part.positional?.toList ++ positionalsIn rest := by
  cases part with
  | positional text undashed => exact positionalsIn_undashed undashed rest
  | option written =>
    simp only [Part.words, Part.positional?, Option.toList_none, List.nil_append]
    split
    · obtain ⟨dashed, hasSign⟩ := joined_shape written.known written.value
      exact positionalsIn_dashed (fun known => (option_shape _ known).2.1 hasSign) dashed rest
    · exact positionalsIn_option written.known written.value rest
  | experimental => exact positionalsIn_dashed flag_shape.2.2 flag_shape.1 rest

theorem positionals_arguments (i : Invocation) : i.arguments.positionals = i.parts.filterMap Part.positional? := by
  simp only [Invocation.arguments, positionals, List.drop_one, List.tail_cons]
  induction i.parts with
  | nil => rfl
  | cons part others inductionHypothesis =>
    rw [List.flatMap_cons, positionalsIn_words, inductionHypothesis]
    cases read : part.positional? <;> simp [read]

/-! ## Options -/

theorem optionIn?_other (unjoined : ¬ ("--" ++ name ++ "=").toList <+: word.toList) (different : word ≠ "--" ++ name)
    (rest : List String) : optionIn? name (word :: rest) = optionIn? name rest := by
  have nothing : after? ("--" ++ name ++ "=").toList word.toList = none := by
    rwa [← Option.not_isSome_iff_eq_none, isSome_after?]
  rw [optionIn?, nothing]
  simp [different]

theorem not_sign_isPrefix (absent : '=' ∉ word.toList) : ¬ ("--" ++ name ++ "=").toList <+: word.toList := by
  rintro ⟨back, written⟩
  exact absent (by simp [← written])

theorem optionIn?_undashed (undashed : isDashed word = false) (rest : List String) :
    optionIn? name (word :: rest) = optionIn? name rest := by
  refine optionIn?_other (fun joined => ?_) (fun same => ?_) rest
  · obtain ⟨back, written⟩ := joined
    simp [isDashed, ← written] at undashed
  · simp [isDashed, same] at undashed

/-- What stands before the first `=` of two equal texts is equal. -/
theorem eq_of_append_sign {front front' back back' : List Char} (absent : '=' ∉ front) (absent' : '=' ∉ front')
    (same : front ++ '=' :: back = front' ++ '=' :: back') : front = front' := by
  have before {text : List Char} (absent : '=' ∉ text) (back : List Char) :
      (text ++ '=' :: back).takeWhile (· != '=') = text := by
    rw [List.takeWhile_append_of_pos]
    · simp
    · intro c member
      simpa using fun isSign : c = '=' => absent (isSign ▸ member)
  rw [← before absent back, same, before absent' back']

/-- An option is found in either spelling. -/
theorem optionIn?_own (known : "--" ++ name ∈ valueOptions) (joined : Bool) (value : String) (rest : List String) :
    optionIn? name ((if joined then ["--" ++ name ++ "=" ++ value] else ["--" ++ name, value]) ++ rest) = some value := by
  cases joined with
  | true =>
    have behind : after? ("--" ++ name ++ "=").toList ("--" ++ name ++ "=" ++ value).toList = some value.toList :=
      after?_eq_some.mpr (String.toList_append ..)
    simp only [if_true, List.cons_append, optionIn?, behind, String.ofList_toList]
  | false =>
    have nothing : after? ("--" ++ name ++ "=").toList ("--" ++ name).toList = none := by
      rw [← Option.not_isSome_iff_eq_none, isSome_after?]
      exact not_sign_isPrefix (option_shape _ known).2.1
    simp only [Bool.false_eq_true, if_false, List.cons_append, optionIn?, nothing, beq_self_eq_true, if_true,
      List.head?_cons]

theorem optionIn?_words (known : "--" ++ name ∈ valueOptions) (part : Part) (rest : List String) :
    optionIn? name (part.words ++ rest) = (part.valueOf? ("--" ++ name)).or (optionIn? name rest) := by
  obtain ⟨-, noSign, notFlag⟩ := option_shape _ known
  cases part with
  | positional text undashed => exact optionIn?_undashed undashed rest
  | option written =>
    obtain ⟨option, value, joined, optionKnown, undashed⟩ := written
    obtain ⟨-, noSign', -⟩ := option_shape _ optionKnown
    by_cases own : option = "--" ++ name
    · subst own
      simpa [Part.words, Part.valueOf?] using optionIn?_own known joined value rest
    · simp only [Part.words, Part.valueOf?, own, if_false, Option.none_or]
      cases joined with
      | true =>
        refine optionIn?_other ?_ ?_ rest
        · -- the names in front of the first `=` differ
          rintro ⟨back, same⟩
          have written : option.toList ++ '=' :: value.toList = ("--" ++ name).toList ++ '=' :: back := by
            simpa using same.symm
          exact own (String.toList_injective (eq_of_append_sign noSign' noSign written))
        · intro same
          exact noSign (by simp [← same])
      | false =>
        have ownWord := optionIn?_other (not_sign_isPrefix noSign') own (value :: rest)
        exact ownWord.trans (optionIn?_undashed undashed rest)
  | experimental => exact optionIn?_other (not_sign_isPrefix flag_shape.2.1) (Ne.symm notFlag) rest

theorem optionIn?_arguments (known : "--" ++ name ∈ valueOptions) (i : Invocation) :
    optionIn? name i.arguments.words = (i.parts.filterMap (Part.valueOf? ("--" ++ name))).head? := by
  simp only [Invocation.arguments]
  rw [optionIn?_undashed i.undashed]
  induction i.parts with
  | nil => rfl
  | cons part others inductionHypothesis =>
    rw [List.flatMap_cons, optionIn?_words known, inductionHypothesis]
    cases read : part.valueOf? ("--" ++ name) <;> simp [read]

theorem listOf_arguments (known : "--" ++ name ∈ valueOptions) {i : Invocation} {given : Option String}
    (written : i.parts.filterMap (Part.valueOf? ("--" ++ name)) = given.toList) :
    i.arguments.listOf name = (given.map listItems).getD [] := by
  rw [listOf, optionIn?_arguments known, written]
  cases given <;> rfl

/-! ## Flags -/

theorem flag_mem_words (part : Part) : experimentalFlag ∈ part.words ↔ part.isExperimental := by
  cases part with
  | positional text undashed =>
    have other : text ≠ experimentalFlag := ne_of_undashed undashed flag_shape.1
    simp [Part.words, Part.isExperimental, other.symm]
  | option written =>
    obtain ⟨option, value, joined, known, undashed⟩ := written
    have otherName : option ≠ experimentalFlag := (option_shape _ known).2.2
    have otherValue : value ≠ experimentalFlag := ne_of_undashed undashed flag_shape.1
    have otherWord : option ++ "=" ++ value ≠ experimentalFlag := by
      intro same
      have hasSign := (joined_shape known value).2
      rw [same] at hasSign
      exact flag_shape.2.1 hasSign
    cases joined <;> simp [Part.words, Part.isExperimental, otherName.symm, otherValue.symm, otherWord.symm]
  | experimental => simp [Part.words, Part.isExperimental]

theorem hasFlag_arguments (i : Invocation) :
    i.arguments.hasFlag "include-experimental" = i.parts.any Part.isExperimental := by
  have other : i.program ≠ experimentalFlag := ne_of_undashed i.undashed flag_shape.1
  have flag : "--" ++ "include-experimental" = experimentalFlag := by decide +kernel
  rw [Bool.eq_iff_iff, hasFlag, flag, List.contains_iff_mem, Invocation.arguments, List.mem_cons, List.any_eq_true,
    List.mem_flatMap]
  simp only [flag_mem_words, other.symm, false_or]

/-! ## The request -/

/-- The scan of an invocation answers what was written in it, like a request that was given the
values by a parser. -/
theorem request_written {i : Invocation} {s : WrittenSelection} (writes : i.Writes s) (other : Arguments) :
    i.arguments.request = { other.requestFor s with isPluginCheck := true } := by
  have positionals := (positionals_arguments i).trans writes.positionals
  have checks : i.arguments.listOf "checks" = _ := listOf_arguments (by decide +kernel) writes.checks
  have excluded : i.arguments.listOf "exclude-checks" = _ := listOf_arguments (by decide +kernel) writes.excluded
  have categories : i.arguments.listOf "categories" = _ := listOf_arguments (by decide +kernel) writes.categories
  have experimental := (hasFlag_arguments i).trans writes.experimental
  simp [request, requestFor, isCheck, plugin?, positionals, checks, excluded, categories, experimental]

/-- An invocation with a value like a command and a list between its two positional arguments. -/
def mixed : Invocation where
  program := "plugin-check"
  parts :=
    [.option ⟨"-C", "check", false, by decide +kernel, by decide +kernel⟩,
      .option ⟨"--categories", "general", true, by decide +kernel, by decide +kernel⟩,
      .positional "check" (by decide +kernel), .experimental,
      .option ⟨"--checks", "a, b=c", false, by decide +kernel, by decide +kernel⟩,
      .option ⟨"--color", "", true, by decide +kernel, by decide +kernel⟩, .positional "form" (by decide +kernel)]
  undashed := by decide +kernel

def mixedSelection : WrittenSelection where
  plugin := "form"
  checks := some "a, b=c"
  categories := some "general"
  includesExperimental := true

theorem request_written_mixed :
    mixed.arguments.words = ["plugin-check", "-C", "check", "--categories=general", "check", "--include-experimental",
      "--checks", "a, b=c", "--color=", "form"] ∧
    mixed.Writes mixedSelection ∧
    mixed.arguments.request = { (Arguments.mk []).requestFor mixedSelection with isPluginCheck := true } := by
  have writes : mixed.Writes mixedSelection := by
    refine ⟨?positionals, ?checks, ?excluded, ?categories, ?experimental⟩
    all_goals decide +kernel
  exact ⟨by decide +kernel, writes, request_written writes _⟩

end Arguments

end PluginAudit
