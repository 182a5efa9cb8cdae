import PluginAudit.Checks.Trademarks
import PluginAudit.Proofs.Text.Case
import PluginAudit.Proofs.Text.Parts

/-!
# Slugs

The slug of a name is its words with single dashes between them.  A word is a run of letters and
numbers in lower case, so a slug has neither a dash at its ends nor two in a row, and it is its
own slug.  Names with the same words have the same slug, and one uses the terms that the other
one uses.
-/

namespace PluginAudit.Trademarks

open PluginAudit.Text

variable {c : Char} {text front back run : List Char} {name other : String}

/-! ## Words -/

/-- The runs of letters and numbers in a text. -/
def runs (text : List Char) : List (List Char) :=
  (splitBy (fun c => !isAlphanumeric c) text).filter fun piece => !piece.isEmpty

/-- The words of a name: the runs of letters and numbers in its lowercase form. -/
def wordsOf (name : List Char) : List (List Char) := runs (name.flatMap lowercaseChar)

/-- Some letters and numbers, and nothing else. -/
structure IsRun (run : List Char) : Prop where
  nonempty : run ≠ []
  letters : ∀ c ∈ run, isAlphanumeric c

theorem isRun_of_mem_runs (member : run ∈ runs text) : IsRun run := by
  rw [runs, List.mem_filter] at member
  exact ⟨by simpa using member.2, fun c inRun => by simpa using not_of_mem_splitBy member.1 c inRun⟩

theorem isRun_of_mem_wordsOf {name : List Char} (member : run ∈ wordsOf name) : IsRun run := isRun_of_mem_runs member

theorem IsRun.runs_eq (isRun : IsRun run) : runs run = [run] := by
  have whole : splitBy (fun c => !isAlphanumeric c) run = [run] :=
    splitBy_of_none fun c member => by simp [isRun.letters c member]
  simp [runs, whole, isRun.nonempty]

theorem runs_append_cons (separates : isAlphanumeric c = false) (front back : List Char) :
    runs (front ++ c :: back) = runs front ++ runs back := by
  rw [runs, splitBy_append_cons (by simp [separates]), List.filter_append]
  rfl

theorem runs_cons (separates : isAlphanumeric c = false) (text : List Char) : runs (c :: text) = runs text :=
  runs_append_cons separates [] text

/-- What has no letters and no numbers in it makes no difference at the ends. -/
theorem runs_append (before : ∀ c ∈ front, isAlphanumeric c = false) (behind : ∀ c ∈ back, isAlphanumeric c = false)
    (text : List Char) : runs (front ++ text ++ back) = runs text := by
  have ends : ∀ back : List Char, (∀ c ∈ back, isAlphanumeric c = false) → ∀ text, runs (text ++ back) = runs text := by
    intro back behind
    induction back with
    | nil => exact fun text => by rw [List.append_nil]
    | cons c cs inductionHypothesis =>
      obtain ⟨first, others⟩ := List.forall_mem_cons.mp behind
      intro text
      have none : runs cs = [] := inductionHypothesis others []
      rw [runs_append_cons first, none, List.append_nil]
  rw [ends back behind]
  induction front with
  | nil => rfl
  | cons c cs inductionHypothesis =>
    obtain ⟨first, others⟩ := List.forall_mem_cons.mp before
    rw [List.cons_append, runs_cons first, inductionHypothesis others]

/-- Runs are read back from the text that they are joined to. -/
theorem runs_joinWith {pieces : List (List Char)} (isRun : ∀ piece ∈ pieces, IsRun piece) :
    runs (joinWith ['-'] pieces) = pieces := by
  induction pieces with
  | nil => rfl
  | cons piece others inductionHypothesis =>
    obtain ⟨first, later⟩ := List.forall_mem_cons.mp isRun
    cases others with
    | nil => exact first.runs_eq
    | cons next others =>
      rw [joinWith_cons (List.cons_ne_nil next others), List.append_assoc, List.singleton_append,
        runs_append_cons (by decide), first.runs_eq, inductionHypothesis later, List.singleton_append]

/-! ## Slugs as joined words -/

theorem joinWith_eq_flatMap (piece : List Char) (others : List (List Char)) :
    joinWith ['-'] (piece :: others) = piece ++ others.flatMap ('-' :: ·) := by
  induction others generalizing piece with
  | nil => simp [joinWith]
  | cons next others inductionHypothesis =>
    rw [joinWith_cons (List.cons_ne_nil next others), inductionHypothesis next]
    simp

/-- Within a word the first piece goes on with it; behind one each word comes with a dash. -/
theorem dashedFrom_started (text : List Char) :
    (∃ first others, splitBy (fun c => !isAlphanumeric c) text = first :: others ∧
      dashedFrom true false text = first ++ (others.filter (!·.isEmpty)).flatMap ('-' :: ·)) ∧
    dashedFrom true true text = (runs text).flatMap ('-' :: ·) := by
  induction text with
  | nil => exact ⟨⟨[], [], rfl, rfl⟩, rfl⟩
  | cons c cs inductionHypothesis =>
    obtain ⟨⟨first, others, pieces, within⟩, behind⟩ := inductionHypothesis
    cases letter : isAlphanumeric c with
    | true =>
      have pieces : splitBy (fun c => !isAlphanumeric c) (c :: cs) = (c :: first) :: others := by
        simp [splitBy, letter, pieces]
      refine ⟨⟨c :: first, others, pieces, by simp [dashedFrom, letter, within]⟩, ?_⟩
      simp [dashedFrom, letter, within, runs, pieces]
    | false =>
      refine ⟨⟨[], splitBy (fun c => !isAlphanumeric c) cs, by simp [splitBy, letter], ?_⟩, ?_⟩
      · rw [dashedFrom, letter, if_neg Bool.false_ne_true, behind]
        rfl
      · rw [dashedFrom, letter, if_neg Bool.false_ne_true, behind, runs_cons letter]

theorem dashedFrom_start (text : List Char) : dashedFrom false false text = joinWith ['-'] (runs text) := by
  induction text with
  | nil => rfl
  | cons c cs inductionHypothesis =>
    cases letter : isAlphanumeric c with
    | true =>
      obtain ⟨first, others, pieces, within⟩ := (dashedFrom_started cs).1
      have pieces : runs (c :: cs) = (c :: first) :: others.filter (!·.isEmpty) := by
        simp [runs, splitBy, letter, pieces]
      rw [pieces, joinWith_eq_flatMap, dashedFrom, if_pos letter, if_neg Bool.false_ne_true, within]
      rfl
    | false =>
      rw [runs_cons letter, dashedFrom, letter, if_neg Bool.false_ne_true, inductionHypothesis]

/-- A text with the white space around it. -/
theorem exists_trim (text : List Char) :
    ∃ front back, text = front ++ trim text ++ back ∧ (∀ c ∈ front, isBlank c) ∧ ∀ c ∈ back, isBlank c := by
  obtain ⟨back, split, behind⟩ := exists_eq_trimEndBy_append isBlank (text.dropWhile isBlank)
  refine ⟨text.takeWhile isBlank, back, ?_, fun c member => List.mem_takeWhile_imp member, behind⟩
  rw [trim, trimBy, trimStartBy, List.append_assoc, ← split, List.takeWhile_append_dropWhile]

theorem slugOf_eq_joinWith (name : List Char) : slugOf name = joinWith ['-'] (wordsOf name) := by
  obtain ⟨front, back, split, before, behind⟩ := exists_trim name
  have separate {ends : List Char} (blank : ∀ c ∈ ends, isBlank c) :
      ∀ d ∈ ends.flatMap lowercaseChar, isAlphanumeric d = false := by
    intro d member
    obtain ⟨c, inEnds, inForm⟩ := List.mem_flatMap.mp member
    exact not_isAlphanumeric_of_isBlank (blank c inEnds) d inForm
  have same : wordsOf name = runs ((trim name).flatMap lowercaseChar) := by
    conv_lhs => rw [wordsOf, split, List.flatMap_append, List.flatMap_append]
    exact runs_append (separate before) (separate behind) _
  rw [same, slugOf, dashedFrom_start]

/-! ## The normal form -/

/-- Letters and numbers in lower case, with single dashes between them. -/
structure IsSlug (slug : List Char) : Prop where
  letters : ∀ c ∈ slug, c = '-' ∨ isAlphanumeric c ∧ lowercaseChar c = [c]
  starts : slug.head? ≠ some '-'
  stops : slug.getLast? ≠ some '-'
  single : ¬ ['-', '-'] <:+: slug

theorem mem_dashedFrom {started due : Bool} (member : c ∈ dashedFrom started due text) :
    c = '-' ∨ isAlphanumeric c ∧ c ∈ text := by
  induction text generalizing started due with
  | nil => cases member
  | cons d ds inductionHypothesis =>
    have later {started due : Bool} (member : c ∈ dashedFrom started due ds) :
        c = '-' ∨ isAlphanumeric c ∧ c ∈ d :: ds :=
      (inductionHypothesis member).imp_right fun ⟨letter, inText⟩ => ⟨letter, List.mem_cons_of_mem d inText⟩
    rw [dashedFrom] at member
    split at member
    case isTrue letter =>
      have written (member : c ∈ d :: dashedFrom true false ds) : c = '-' ∨ isAlphanumeric c ∧ c ∈ d :: ds := by
        rcases List.mem_cons.mp member with rfl | inText
        · exact .inr ⟨letter, List.mem_cons_self⟩
        · exact later inText
      split at member
      case isTrue => exact (List.mem_cons.mp member).elim .inl written
      case isFalse => exact written member
    case isFalse => exact later member

/-- A letter or a number of a slug comes from the lowercase form of a character of the name. -/
theorem mem_slugOf {name : List Char} (member : c ∈ slugOf name) :
    c = '-' ∨ isAlphanumeric c ∧ ∃ d ∈ name, c ∈ lowercaseChar d := by
  refine (mem_dashedFrom member).imp_right fun ⟨letter, lower⟩ => ⟨letter, ?_⟩
  obtain ⟨d, inName, inForm⟩ := List.mem_flatMap.mp lower
  exact ⟨d, (trim_isInfix name).subset inName, inForm⟩

/-- No piece between the dashes of a slug is empty. -/
theorem nil_not_mem_splitOn_slugOf {name : List Char} (some : slugOf name ≠ []) : [] ∉ splitOn '-' (slugOf name) := by
  have words : ∀ word ∈ wordsOf name, IsRun word := fun word => isRun_of_mem_wordsOf
  have notEmpty : wordsOf name ≠ [] := fun empty => some (by rw [slugOf_eq_joinWith, empty]; rfl)
  rw [slugOf_eq_joinWith, splitOn_joinWith notEmpty]
  · exact fun member => (words [] member).nonempty rfl
  · exact fun word member dash => absurd ((words word member).letters '-' dash) (by decide)

theorem isSlug_slugOf (name : List Char) : IsSlug (slugOf name) := by
  have pieces : slugOf name ≠ [] → [] ∉ splitOn '-' (slugOf name) := nil_not_mem_splitOn_slugOf
  refine ⟨fun c member => ?_, fun starts => ?_, fun stops => ?_, fun ⟨front, back, twice⟩ => ?_⟩
  · exact (mem_slugOf member).imp_right fun ⟨letter, _, _, inForm⟩ => ⟨letter, lowercaseChar_of_mem inForm⟩
  · obtain ⟨back, split⟩ := List.head?_eq_some_iff.mp starts
    refine pieces (by simp [split]) ?_
    rw [split, ← List.nil_append ('-' :: back), splitOn_append_cons]
    exact List.mem_cons_self
  · obtain ⟨front, split⟩ := List.getLast?_eq_some_iff.mp stops
    refine pieces (by simp [split]) ?_
    rw [split, splitOn_append_cons]
    exact List.mem_append_right _ List.mem_cons_self
  · refine pieces (by simp [← twice]) ?_
    rw [← twice, List.append_assoc, List.cons_append, List.cons_append, splitOn_append_cons,
      ← List.nil_append ('-' :: _), splitOn_append_cons]
    exact List.mem_append_right _ List.mem_cons_self

/-- Within a slug nothing is due, and behind a dash the next character is. -/
theorem dashedFrom_eq_self (letters : ∀ c ∈ text, c = '-' ∨ isAlphanumeric c) (stops : text.getLast? ≠ some '-')
    (single : ¬ ['-', '-'] <:+: text) :
    dashedFrom true false text = text ∧
      (text ≠ [] → text.head? ≠ some '-' → ∀ started, dashedFrom started true text = '-' :: text) := by
  induction text with
  | nil => exact ⟨rfl, fun some => absurd rfl some⟩
  | cons c cs inductionHypothesis =>
    obtain ⟨first, others⟩ := List.forall_mem_cons.mp letters
    have stopsLater : cs.getLast? ≠ some '-' := fun last => stops (by rw [List.getLast?_cons, last]; rfl)
    have later := inductionHypothesis others stopsLater fun isInfix =>
      single (isInfix.trans (List.suffix_cons c cs).isInfix)
    rcases first with rfl | letter
    · refine ⟨?_, fun _ starts => absurd rfl starts⟩
      have goesOn : cs ≠ [] := fun empty => stops (by rw [empty]; rfl)
      have starts : cs.head? ≠ some '-' := fun next => by
        obtain ⟨back, rfl⟩ := List.head?_eq_some_iff.mp next
        exact single (List.prefix_append ['-', '-'] back).isInfix
      rw [dashedFrom, if_neg (by decide), later.2 goesOn starts]
    · simp [dashedFrom, letter, later.1]

theorem lowercase_eq_self (isSlug : IsSlug text) : text.flatMap lowercaseChar = text := by
  have same : ∀ c ∈ text, lowercaseChar c = [c] := by
    intro c member
    rcases isSlug.letters c member with rfl | letter
    · decide
    · exact letter.2
  rw [List.flatMap_congr same, List.flatMap_singleton']

/-- The texts in normal form are the slugs, and each of them is its own slug. -/
theorem slugOf_eq_self_iff : slugOf text = text ↔ IsSlug text := by
  refine ⟨fun same => same ▸ isSlug_slugOf text, fun isSlug => ?_⟩
  have letters : ∀ c ∈ text, c = '-' ∨ isAlphanumeric c := fun c member =>
    (isSlug.letters c member).imp_right And.left
  have within := (dashedFrom_eq_self letters isSlug.stops isSlug.single).1
  rw [slugOf_eq_joinWith, wordsOf, lowercase_eq_self isSlug, ← dashedFrom_start]
  cases text with
  | nil => rfl
  | cons c cs =>
    -- the first character is no dash, so it is written whether anything was before it or not
    have letter : isAlphanumeric c := (letters c List.mem_cons_self).resolve_left fun dash => isSlug.starts (dash ▸ rfl)
    rw [dashedFrom, if_pos letter] at within ⊢
    exact within

/-! ## Names with the same slug -/

theorem slugify_eq_iff : slugify other = slugify name ↔ wordsOf other.toList = wordsOf name.toList := by
  rw [slugify, slugify, String.ofList_inj, slugOf_eq_joinWith, slugOf_eq_joinWith]
  refine ⟨fun same => ?_, fun same => by rw [same]⟩
  have read := congrArg runs same
  rwa [runs_joinWith fun word => isRun_of_mem_wordsOf, runs_joinWith fun word => isRun_of_mem_wordsOf] at read

theorem slugify_slugify (name : String) : slugify (slugify name) = slugify name := by
  simp only [slugify, String.toList_ofList]
  rw [slugOf_eq_self_iff.mpr (isSlug_slugOf name.toList)]

theorem findTerm?_of_slugify_eq (same : slugify other = slugify name) (terms : List String) :
    findTerm? terms other = findTerm? terms name := by
  rw [slugify, slugify, String.ofList_inj] at same
  simp only [findTerm?, same]

/-- A slug is in normal form: letters and numbers of the lowercase form of the name with single
dashes between them.  It is its own slug, so whatever terms are added, a name uses those that its
slug uses, and those of every other name with the same words. -/
theorem slugify_normalForm (name : String) :
    IsSlug (slugify name).toList ∧
      (∀ c ∈ (slugify name).toList, c = '-' ∨ isAlphanumeric c ∧ ∃ d ∈ name.toList, c ∈ lowercaseChar d) ∧
      slugify (slugify name) = slugify name ∧
      (∀ extra, findTerm? (allTerms extra) name = findTerm? (allTerms extra) (slugify name)) ∧
      ∀ other : String, wordsOf other.toList = wordsOf name.toList →
        ∀ extra, findTerm? (allTerms extra) other = findTerm? (allTerms extra) name := by
  refine ⟨?_, fun c member => ?_, slugify_slugify name, fun extra => ?_, fun other same extra => ?_⟩
  · rw [slugify, String.toList_ofList]
    exact isSlug_slugOf name.toList
  · rw [slugify, String.toList_ofList] at member
    exact mem_slugOf member
  · exact (findTerm?_of_slugify_eq (slugify_slugify name) _).symm
  · exact findTerm?_of_slugify_eq (slugify_eq_iff.mpr same) _

/-- The lowercase form of the first character has a mark in it that parts two words. -/
theorem slugify_normalForm_dotted :
    wordsOf "i Stanbul -- TWEETS".toList = wordsOf " \u0130stanbul Tweets!".toList ∧
      slugify " \u0130stanbul Tweets!" = "i-stanbul-tweets" ∧
      findTerm? (allTerms ["Stanbul"]) "i Stanbul -- TWEETS" = findTerm? (allTerms ["Stanbul"]) " \u0130stanbul Tweets!" := by
  have same : wordsOf "i Stanbul -- TWEETS".toList = wordsOf " \u0130stanbul Tweets!".toList := by decide +kernel
  exact ⟨same, by decide +kernel, (slugify_normalForm " \u0130stanbul Tweets!").2.2.2.2 _ same _⟩

end PluginAudit.Trademarks
