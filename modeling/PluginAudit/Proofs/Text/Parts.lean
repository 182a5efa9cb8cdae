import PluginAudit.Proofs.Text.Trimming

/-!
# Parts of a text

What cutting a text gives is a part of it: pieces, items, trimmed texts and what stands before a
mark or behind a head.  A part has no character that the text has not, and what it was cut at
is not in it.
-/

namespace PluginAudit.Text

variable {p : Char → Bool} {c separator : Char} {text piece item mark front rest : List Char}

/-! ## Trimming -/

theorem trimEndBy_isPrefix (p : Char → Bool) (text : List Char) : trimEndBy p text <+: text := by
  rw [← List.reverse_suffix, trimEndBy, List.reverse_reverse]
  exact List.dropWhile_suffix p

theorem trim_isInfix (text : List Char) : trim text <:+: text :=
  (trimEndBy_isPrefix isBlank _).isInfix.trans (List.dropWhile_suffix isBlank).isInfix

theorem not_of_head?_dropWhile {α : Type} {p : α → Bool} {items : List α} {first : α}
    (starts : (items.dropWhile p).head? = some first) : p first = false := by
  have := List.head?_dropWhile_not p items
  rw [starts] at this
  simpa using this

theorem not_of_head?_trimBy (starts : (trimBy p text).head? = some c) : p c = false := by
  obtain ⟨rest, whole⟩ := trimEndBy_isPrefix p (trimStartBy p text)
  have first : (text.dropWhile p).head? = some c := by
    rw [← trimStartBy, ← whole, ← trimBy, List.head?_append, starts, Option.some_or]
  exact not_of_head?_dropWhile first

theorem not_of_getLast?_trimBy (stops : (trimBy p text).getLast? = some c) : p c = false := by
  rw [trimBy, trimEndBy, List.getLast?_reverse] at stops
  exact not_of_head?_dropWhile stops

theorem trimBy_trimBy (p : Char → Bool) (text : List Char) : trimBy p (trimBy p text) = trimBy p text :=
  trimBy_eq_self (fun _ => not_of_head?_trimBy) fun _ => not_of_getLast?_trimBy

theorem trimmed_trim (text : List Char) : Trimmed (trim text) :=
  ⟨fun _ => not_of_head?_trimBy, fun _ => not_of_getLast?_trimBy⟩

/-! ## Marks -/

theorem not_infix_of_upTo?_eq_none (absent : upTo? mark text = none) : ¬ mark <:+: text := by
  induction text with
  | nil =>
    rw [upTo?] at absent
    intro isInfix
    simp [List.infix_nil.mp isInfix] at absent
  | cons c cs inductionHypothesis =>
    rw [upTo?] at absent
    split at absent
    case isTrue => cases absent
    case isFalse notHere =>
      rw [Option.map_eq_none_iff] at absent
      rw [List.infix_cons_iff, not_or]
      exact ⟨fun isPrefix => notHere (isSome_after?.mpr isPrefix), inductionHypothesis absent⟩

/-- A mark does not stand before its first place. -/
theorem not_infix_of_upTo? (nonempty : mark ≠ []) (found : upTo? mark text = some front) : ¬ mark <:+: front := by
  induction text generalizing front with
  | nil =>
    rw [upTo?, if_neg (by simpa using nonempty)] at found
    cases found
  | cons c cs inductionHypothesis =>
    rw [upTo?] at found
    split at found
    case isTrue =>
      cases found
      exact fun isInfix => nonempty (List.infix_nil.mp isInfix)
    case isFalse notHere =>
      obtain ⟨others, later, rfl⟩ := Option.map_eq_some_iff.mp found
      rw [List.infix_cons_iff, not_or]
      refine ⟨fun isPrefix => notHere (isSome_after?.mpr (isPrefix.trans ?_)), inductionHypothesis later⟩
      exact List.cons_prefix_cons.mpr ⟨rfl, upTo?_isPrefix later⟩

theorem afterFolded?_isSuffix {head : List Char} (found : afterFolded? head text = some rest) : rest <:+ text := by
  induction head generalizing text with
  | nil =>
    cases found
    exact List.suffix_rfl
  | cons h hs inductionHypothesis =>
    cases text with
    | nil => cases found
    | cons c cs =>
      rw [afterFolded?] at found
      split at found
      case isTrue => exact (inductionHypothesis found).trans (List.suffix_cons c cs)
      case isFalse => cases found

/-! ## Pieces -/

theorem not_of_mem_splitBy (member : piece ∈ splitBy p text) : ∀ c ∈ piece, p c = false := by
  induction text generalizing piece with
  | nil =>
    rw [splitBy, List.mem_singleton] at member
    simp [member]
  | cons c cs inductionHypothesis =>
    rw [splitBy] at member
    split at member
    case isTrue =>
      rcases List.mem_cons.mp member with rfl | later
      · exact List.forall_mem_nil _
      · exact inductionHypothesis later
    case isFalse kept =>
      cases pieces : splitBy p cs with
      | nil => exact absurd pieces (splitBy_ne_nil p cs)
      | cons first others =>
        simp only [pieces] at member inductionHypothesis
        rcases List.mem_cons.mp member with rfl | later
        · exact List.forall_mem_cons.mpr ⟨by simpa using kept, inductionHypothesis List.mem_cons_self⟩
        · exact inductionHypothesis (List.mem_cons_of_mem _ later)

theorem not_mem_of_mem_splitOn (member : piece ∈ splitOn separator text) : separator ∉ piece :=
  fun inPiece => by simpa using not_of_mem_splitBy member separator inPiece

theorem isInfix_joinWith {pieces : List (List Char)} (member : piece ∈ pieces) (between : List Char) :
    piece <:+: joinWith between pieces := by
  induction pieces with
  | nil => cases member
  | cons first others inductionHypothesis =>
    cases others with
    | nil => exact List.mem_singleton.mp member ▸ List.infix_rfl
    | cons next others =>
      rw [joinWith_cons (List.cons_ne_nil next others), List.append_assoc]
      rcases List.mem_cons.mp member with rfl | later
      · exact (List.prefix_append _ _).isInfix
      · exact (inductionHypothesis later).trans
          ((List.suffix_append _ _).trans (List.suffix_append _ _)).isInfix

theorem isInfix_of_mem_splitOn (member : piece ∈ splitOn separator text) : piece <:+: text := by
  have := isInfix_joinWith member [separator]
  rwa [joinWith_splitOn] at this

/-- Pieces without a separator in them are read back from the text that they are joined to. -/
theorem splitOn_joinWith {pieces : List (List Char)} (some : pieces ≠ []) (absent : ∀ piece ∈ pieces, separator ∉ piece) :
    splitOn separator (joinWith [separator] pieces) = pieces := by
  induction pieces with
  | nil => exact absurd rfl some
  | cons first others inductionHypothesis =>
    obtain ⟨here, later⟩ := List.forall_mem_cons.mp absent
    cases others with
    | nil => exact splitOn_of_not_mem here
    | cons next others =>
      rw [joinWith_cons (List.cons_ne_nil next others), List.append_assoc, List.singleton_append, splitOn_append_cons,
        splitOn_of_not_mem here, inductionHypothesis (List.cons_ne_nil next others) later, List.singleton_append]

/-! ## Items -/

/-- An item of a list: some text without a comma and without white space at its ends. -/
structure IsItem (item : List Char) : Prop where
  nonempty : item ≠ []
  trimmed : Trimmed item
  noComma : ',' ∉ item

theorem mem_commaItems (member : item ∈ commaItems text) : IsItem item ∧ item <:+: text := by
  rw [commaItems, List.mem_filter, List.mem_map] at member
  obtain ⟨⟨piece, isPiece, rfl⟩, nonempty⟩ := member
  have part := trim_isInfix piece
  refine ⟨⟨by simpa using nonempty, trimmed_trim piece, ?_⟩, part.trans (isInfix_of_mem_splitOn isPiece)⟩
  exact fun inItem => not_mem_of_mem_splitOn isPiece (part.subset inItem)

end PluginAudit.Text
