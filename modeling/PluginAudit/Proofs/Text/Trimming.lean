import Mathlib.Data.List.Basic
import Mathlib.Data.List.TakeWhile
import PluginAudit.Proofs.Text.Slicing

/-!
# What trimming leaves

Trimming drops what it is told to at both ends and stops at the first character that stays.
A text that starts and ends with such characters is left alone, also with characters around
it that go.  The words of a text and the items of a list are read back from the text that
they are joined to.
-/

namespace PluginAudit.Text

variable {p : Char → Bool} {c : Char} {text front back : List Char}

theorem trimStartBy_eq_self (starts : ∀ c, text.head? = some c → p c = false) : trimStartBy p text = text := by
  cases text with
  | nil => rfl
  | cons c cs => exact List.dropWhile_cons_of_neg (by simp [starts c rfl])

theorem trimEndBy_append (behind : ∀ c ∈ back, p c) (text : List Char) :
    trimEndBy p (text ++ back) = trimEndBy p text := by
  rw [trimEndBy, trimEndBy, List.reverse_append, List.dropWhile_append_of_pos]
  exact fun c member => behind c (List.mem_reverse.mp member)

/-- Trimming goes no further than to a character that stays. -/
theorem trimEndBy_append_of_stops (stops : ∀ c, front.getLast? = some c → p c = false) (back : List Char) :
    trimEndBy p (front ++ back) = front ++ trimEndBy p back := by
  rcases front.eq_nil_or_concat' with rfl | ⟨others, last, rfl⟩
  · rfl
  · have kept : p last = false := stops last List.getLast?_concat
    rw [trimEndBy, trimEndBy, List.reverse_append, List.dropWhile_append, List.reverse_concat,
      List.dropWhile_cons_of_neg (by simp [kept])]
    split
    case isTrue isEmpty => simp [List.isEmpty_iff.mp isEmpty]
    case isFalse => simp

theorem trimEndBy_eq_self (stops : ∀ c, text.getLast? = some c → p c = false) : trimEndBy p text = text := by
  simpa [trimEndBy] using trimEndBy_append_of_stops stops []

theorem trimBy_eq_self (starts : ∀ c, text.head? = some c → p c = false)
    (stops : ∀ c, text.getLast? = some c → p c = false) : trimBy p text = text := by
  rw [trimBy, trimStartBy_eq_self starts, trimEndBy_eq_self stops]

/-- Trimming drops a run of what it is told to at the end. -/
theorem exists_eq_trimEndBy_append (p : Char → Bool) (text : List Char) :
    ∃ back, text = trimEndBy p text ++ back ∧ ∀ c ∈ back, p c := by
  refine ⟨(text.reverse.takeWhile p).reverse, ?_, fun c member => List.mem_takeWhile_imp (List.mem_reverse.mp member)⟩
  rw [trimEndBy, ← List.reverse_append, List.takeWhile_append_dropWhile, List.reverse_reverse]

/-- What is dropped around a text makes no difference. -/
theorem trimBy_append (before : ∀ c ∈ front, p c) (behind : ∀ c ∈ back, p c) :
    trimBy p (front ++ text ++ back) = trimBy p text := by
  have noneBehind : back.dropWhile p = [] := List.dropWhile_eq_nil_iff.mpr behind
  rw [trimBy, trimBy, trimStartBy, trimStartBy, List.append_assoc, List.dropWhile_append_of_pos before,
    List.dropWhile_append]
  split
  case isTrue isEmpty => rw [noneBehind, List.isEmpty_iff.mp isEmpty]
  case isFalse => exact trimEndBy_append behind _

theorem trim_space (text : List Char) : trim (' ' :: text) = trim text := by
  rw [trim, trimBy, trimStartBy, List.dropWhile_cons_of_pos (by decide)]
  rfl

theorem trim_append (behind : ∀ c ∈ back, isBlank c) (text : List Char) : trim (text ++ back) = trim text :=
  trimBy_append (List.forall_mem_nil _) behind

theorem length_trim_le (text : List Char) : (trim text).length ≤ text.length := by
  have start : (trimStartBy isBlank text).length ≤ text.length := (List.dropWhile_sublist _).length_le
  have stop := (List.dropWhile_sublist isBlank (l := (trimStartBy isBlank text).reverse)).length_le
  rw [trim, trimBy, trimEndBy, List.length_reverse]
  rw [List.length_reverse] at stop
  omega

theorem head?_trimBy (kept : p c = false) (text : List Char) :
    (trimBy p (c :: text)).head? = some c := by
  have last : [c].dropWhile p = [c] := List.dropWhile_cons_of_neg (by simp [kept])
  rw [trimBy, trimStartBy, List.dropWhile_cons_of_neg (by simp [kept]), trimEndBy, List.reverse_cons,
    List.dropWhile_append, last]
  split <;> simp

/-- Spaces at the ends keep what is behind them. -/
theorem trimBy_spaced (kept : p ' ' = false) (text : List Char) :
    trimBy p (' ' :: text ++ [' ']) = ' ' :: text ++ [' '] := by
  refine trimBy_eq_self (fun c start => ?_) (fun c stop => ?_)
  · cases start
    exact kept
  · rw [List.getLast?_concat] at stop
    cases stop
    exact kept

/-- A text without white space at its ends. -/
structure Trimmed (text : List Char) : Prop where
  starts : ∀ c, text.head? = some c → isBlank c = false
  stops : ∀ c, text.getLast? = some c → isBlank c = false

instance (text : List Char) : Decidable (Trimmed text) :=
  decidable_of_iff (text.head?.all (!isBlank ·) ∧ text.getLast?.all (!isBlank ·))
    ⟨fun both => ⟨by simpa [Option.all_eq_true] using both.1, by simpa [Option.all_eq_true] using both.2⟩,
      fun trimmed => by simpa [Option.all_eq_true] using And.intro trimmed.starts trimmed.stops⟩

namespace Trimmed

theorem nil : Trimmed [] := ⟨by simp, by simp⟩

theorem trim (trimmed : Trimmed text) : trim text = text := trimBy_eq_self trimmed.starts trimmed.stops

theorem trim_spaced (trimmed : Trimmed text) : Text.trim (' ' :: text ++ [' ']) = text := by
  have dropped : ∀ c ∈ [' '], isBlank c := List.forall_mem_singleton.mpr (by decide)
  exact (trimBy_append dropped dropped).trans trimmed.trim

/-- Trimming ends within the part behind a trimmed text. -/
theorem trim_append (trimmed : Trimmed front) (nonempty : front ≠ []) (back : List Char) :
    Text.trim (front ++ back) = front ++ trimEndBy isBlank back := by
  have starts : trimStartBy isBlank (front ++ back) = front ++ back := by
    refine trimStartBy_eq_self fun c first => trimmed.starts c ?_
    rwa [List.head?_append_of_ne_nil _ nonempty] at first
  rw [Text.trim, trimBy, starts, trimEndBy_append_of_stops trimmed.stops]

theorem append (first : Trimmed front) (some : front ≠ []) (last : Trimmed back) (others : back ≠ [])
    (between : List Char) : Trimmed (front ++ between ++ back) := by
  constructor
  · intro c start
    rw [List.append_assoc, List.head?_append_of_ne_nil _ some] at start
    exact first.starts c start
  · intro c stop
    rw [List.getLast?_append_of_ne_nil _ others] at stop
    exact last.stops c stop

theorem joinWith {pieces : List (List Char)} (trimmed : ∀ piece ∈ pieces, piece ≠ [] ∧ Trimmed piece)
    (between : List Char) : Trimmed (joinWith between pieces) := by
  induction pieces with
  | nil => exact nil
  | cons piece others inductionHypothesis =>
    obtain ⟨some, first⟩ := trimmed piece List.mem_cons_self
    have later := inductionHypothesis fun other member => trimmed other (List.mem_cons_of_mem piece member)
    cases others with
    | nil => exact first
    | cons next others =>
      rw [joinWith_cons (List.cons_ne_nil next others)]
      refine first.append some later ?_ between
      have nextSome := (trimmed next (by simp)).1
      cases others with
      | nil => exact nextSome
      | cons _ _ => simp [Text.joinWith, nextSome]

end Trimmed

/-! ## Words -/

/-- A text with characters in it, none of which is white space. -/
structure IsWord (text : List Char) : Prop where
  nonempty : text ≠ []
  letters : ∀ c ∈ text, isBlank c = false

instance (text : List Char) : Decidable (IsWord text) :=
  decidable_of_iff (text ≠ [] ∧ text.all (!isBlank ·))
    ⟨fun both => ⟨both.1, by simpa using both.2⟩, fun word => ⟨word.nonempty, by simpa using word.letters⟩⟩

theorem IsWord.trimmed (word : IsWord text) : Trimmed text where
  starts c start := word.letters c (List.mem_of_head? start)
  stops c stop := word.letters c (List.mem_of_getLast? stop)

theorem words_append (blank : isBlank c) (front back : List Char) :
    words (front ++ c :: back) = words front ++ words back := by
  rw [words, splitBy_append_cons blank, List.filter_append]
  rfl

theorem IsWord.words_eq (word : IsWord text) : words text = [text] := by
  rw [words, splitBy_of_none word.letters]
  simp [word.nonempty]

/-- The words of a text with single spaces between them. -/
theorem words_joinWith {pieces : List (List Char)}
    (word : ∀ piece ∈ pieces, IsWord piece) : words (joinWith [' '] pieces) = pieces := by
  induction pieces with
  | nil => rfl
  | cons piece others inductionHypothesis =>
    have first := (word piece List.mem_cons_self).words_eq
    have later := inductionHypothesis fun other member => word other (List.mem_cons_of_mem piece member)
    cases others with
    | nil => exact first
    | cons next others =>
      rw [joinWith_cons (List.cons_ne_nil next others), List.append_assoc, List.singleton_append,
        words_append (by decide), first, later, List.singleton_append]

/-! ## Items -/

theorem commaItems_append (front back : List Char) :
    commaItems (front ++ ',' :: back) = commaItems front ++ commaItems back := by
  rw [commaItems, splitOn_append_cons, List.map_append, List.filter_append]
  rfl

theorem commaItems_space (text : List Char) : commaItems (' ' :: text) = commaItems text := by
  rw [commaItems, splitOn, splitBy, if_neg (by decide), commaItems, splitOn]
  cases pieces : splitBy (· == ',') text with
  | nil => exact absurd pieces (splitBy_ne_nil _ text)
  | cons piece others => simp only [List.map_cons, trim_space]

theorem commaItems_of_item (some : text ≠ []) (trimmed : Trimmed text) (noComma : ',' ∉ text) :
    commaItems text = [text] := by
  simp [commaItems, splitOn_of_not_mem noComma, trimmed.trim, some]

/-- The items of a list with a comma and a space between them. -/
theorem commaItems_joinWith {items : List (List Char)}
    (item : ∀ item ∈ items, item ≠ [] ∧ Trimmed item ∧ ',' ∉ item) :
    commaItems (joinWith [',', ' '] items) = items := by
  induction items with
  | nil => rfl
  | cons text others inductionHypothesis =>
    obtain ⟨some, trimmed, noComma⟩ := item text List.mem_cons_self
    have first := commaItems_of_item some trimmed noComma
    have later := inductionHypothesis fun other member => item other (List.mem_cons_of_mem text member)
    cases others with
    | nil => exact first
    | cons next others =>
      rw [joinWith_cons (List.cons_ne_nil next others), List.append_assoc]
      change commaItems (text ++ ',' :: ' ' :: joinWith [',', ' '] (next :: others)) = _
      rw [commaItems_append, commaItems_space, first, later, List.singleton_append]

end PluginAudit.Text
