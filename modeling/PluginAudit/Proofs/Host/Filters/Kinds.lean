import Mathlib.Tactic.ByContra
import PluginAudit.Proofs.Host.Filters

/-!
# Filters that change the kind of a value

A filter may answer a text with a list, or a list with a text.  Such an answer does not count,
but that is looked at only once, behind the last filter.  Until then it is handed on, and where
it is the last one, all that the filters before it have done is gone as well.  So a filter leaves
the work of others alone in any company only if it keeps the kind of every value.
-/

namespace PluginAudit

namespace FilterValue

def isText : FilterValue → Bool
  | .text _ => true
  | .list _ => false

@[simp] theorem isText_text (text : String) : (FilterValue.text text).isText = true := rfl

@[simp] theorem isText_list (items : List String) : (FilterValue.list items).isText = false := rfl

/-- What counts once a value has been answered: an answer of the other kind does not. -/
def heeding (value answer : FilterValue) : FilterValue :=
  if answer.isText = value.isText then answer else value

theorem heeding_same {value answer : FilterValue} (same : answer.isText = value.isText) :
    value.heeding answer = answer := by
  rw [heeding, if_pos same]

theorem heeding_other {value answer : FilterValue} (other : answer.isText ≠ value.isText) :
    value.heeding answer = value := by
  rw [heeding, if_neg other]

theorem isText_heeding (value answer : FilterValue) : (value.heeding answer).isText = value.isText := by
  unfold heeding
  split
  · assumption
  · rfl

theorem exists_ne_of_isText (value : FilterValue) : ∃ other, other ≠ value ∧ other.isText = value.isText := by
  cases value with
  | text text =>
    refine ⟨.text (text ++ "x"), fun same => ?_, rfl⟩
    have sameLength := congrArg String.length (FilterValue.text.inj same)
    simp at sameLength
  | list items => exact ⟨.list ("" :: items), by simp, rfl⟩

end FilterValue

namespace Filters

variable {f : Filters} {hook : Hook} {change : FilterValue → FilterValue} {value : FilterValue}
  {entries : List FilterEntry}

/-! ## Where answers are looked at -/

/-- What the filters of a hook make of a value if each answer of the other kind is left out. -/
def heeded (f : Filters) (hook : Hook) (value : FilterValue) : FilterValue :=
  (f.on hook).foldl (fun value entry => value.heeding (entry.change value)) value

/-- What a hook answers is what its filters make of a value without the answers of the other
kind. -/
def HeedsKinds (f : Filters) (hook : Hook) : Prop :=
  (∀ text, .text (f.applyText hook text) = f.heeded hook (.text text)) ∧
    ∀ items, .list (f.applyList hook items) = f.heeded hook (.list items)

/-- Only the last answer is looked at. -/
theorem text_applyText (f : Filters) (hook : Hook) (text : String) :
    .text (f.applyText hook text) = (FilterValue.text text).heeding (f.apply hook (.text text)) := by
  unfold applyText
  cases f.apply hook (.text text) <;> rfl

theorem list_applyList (f : Filters) (hook : Hook) (items : List String) :
    .list (f.applyList hook items) = (FilterValue.list items).heeding (f.apply hook (.list items)) := by
  unfold applyList
  cases f.apply hook (.list items) <;> rfl

theorem heedsKinds_iff : f.HeedsKinds hook ↔ ∀ value, value.heeding (f.apply hook value) = f.heeded hook value := by
  unfold HeedsKinds
  simp only [text_applyText, list_applyList]
  constructor
  · rintro ⟨texts, lists⟩ value
    cases value with
    | text text => exact texts text
    | list items => exact lists items
  · intro all
    exact ⟨fun text => all (.text text), fun items => all (.list items)⟩

/-! ## Filters that keep kinds -/

/-- A filter that answers texts with texts and lists with lists. -/
def KeepsKind (change : FilterValue → FilterValue) : Prop := ∀ value, (change value).isText = value.isText

theorem keepsKind_heeding (answer : FilterValue) : KeepsKind (FilterValue.heeding · answer) :=
  fun value => value.isText_heeding answer

theorem isText_foldl (keeps : ∀ entry ∈ entries, KeepsKind entry.change) (value : FilterValue) :
    (entries.foldl (fun value entry => entry.change value) value).isText = value.isText := by
  induction entries generalizing value with
  | nil => rfl
  | cons entry others inductionHypothesis =>
    obtain ⟨first, later⟩ := List.forall_mem_cons.mp keeps
    rw [List.foldl_cons, inductionHypothesis later, first]

theorem foldl_heeding (keeps : ∀ entry ∈ entries, KeepsKind entry.change) (value : FilterValue) :
    entries.foldl (fun value entry => value.heeding (entry.change value)) value =
      entries.foldl (fun value entry => entry.change value) value := by
  induction entries generalizing value with
  | nil => rfl
  | cons entry others inductionHypothesis =>
    obtain ⟨first, later⟩ := List.forall_mem_cons.mp keeps
    rw [List.foldl_cons, List.foldl_cons, FilterValue.heeding_same (first value), inductionHypothesis later]

/-- Where all filters keep kinds, it makes no difference when their answers are looked at. -/
theorem HeedsKinds.of_keepsKind (keeps : ∀ entry ∈ f.on hook, KeepsKind entry.change) : f.HeedsKinds hook := by
  rw [heedsKinds_iff]
  intro value
  rw [heeded, foldl_heeding keeps]
  exact FilterValue.heeding_same (isText_foldl keeps value)

/-! ## Filters that do not -/

/-- An answer of the other kind by the filter that was added last gives back the value that the
filters were handed first. -/
theorem heeding_apply_add (other : (change (f.apply hook value)).isText ≠ value.isText) :
    value.heeding ((f.add hook change).1.apply hook value) = value := by
  rw [apply_add_same]
  exact FilterValue.heeding_other other

/-- Two filters on one hook, the second of which is handed what the first one answers. -/
def following (hook : Hook) (first change : FilterValue → FilterValue) : Filters :=
  ((({} : Filters).add hook first).1.add hook change).1

theorem on_following (hook : Hook) (first change : FilterValue → FilterValue) :
    (following hook first change).on hook = [⟨0, hook, first⟩, ⟨1, hook, change⟩] := by
  simp [following, on, add]

/-- A filter that does not keep the kind of a value undoes one that has just made that value. -/
theorem keepsKind_of_heedsKinds (heeds : ∀ first, KeepsKind first → (following hook first change).HeedsKinds hook) :
    KeepsKind change := by
  intro value
  by_contra changed
  obtain ⟨other, different, sameKind⟩ := value.exists_ne_of_isText
  have answered := heedsKinds_iff.mp (heeds _ (keepsKind_heeding value)) other
  have made : other.heeding value = value := FilterValue.heeding_same sameKind.symm
  have lost : other.heeding (change value) = other := FilterValue.heeding_other (sameKind ▸ changed)
  have kept : value.heeding (change value) = value := FilterValue.heeding_other changed
  simp only [apply, heeded, on_following, List.foldl_cons, List.foldl_nil, made, lost, kept] at answered
  exact different answered

/-- Answers of the other kind are left out in any company that keeps kinds just if there are no
such answers; one by the last filter takes what all others have done along. -/
theorem heedsKinds_iff_keepsKind (hook : Hook) (change : FilterValue → FilterValue) :
    ((∀ f : Filters, (∀ entry ∈ f.on hook, KeepsKind entry.change ∨ entry.change = change) → f.HeedsKinds hook) ↔
      KeepsKind change) ∧
    (∀ (f : Filters) (text : String), (change (f.apply hook (.text text))).isText = false →
      (f.add hook change).1.applyText hook text = text) ∧
    ∀ (f : Filters) (items : List String), (change (f.apply hook (.list items))).isText = true →
      (f.add hook change).1.applyList hook items = items := by
  refine ⟨⟨fun all => ?company, fun keeps f company => ?alike⟩, fun f text isList => ?lastList,
    fun f items isText => ?lastText⟩
  case company =>
    refine keepsKind_of_heedsKinds fun first keeps => all _ ?_
    simp [on_following, keeps]
  case alike =>
    refine .of_keepsKind fun entry member => ?_
    obtain kept | same := company entry member
    · exact kept
    · exact same ▸ keeps
  case lastList =>
    have given := text_applyText (f.add hook change).1 hook text
    rw [heeding_apply_add (by simp [isList])] at given
    exact FilterValue.text.inj given
  case lastText =>
    have given := list_applyList (f.add hook change).1 hook items
    rw [heeding_apply_add (by simp [isText])] at given
    exact FilterValue.list.inj given

/-- A filter that puts an `x` behind its value, then one that answers everything with a list. -/
def extended : Filters :=
  following .template
    (fun
      | .text text => .text (text ++ "x")
      | .list items => .list (items ++ ["x"]))
    fun _ => .list ["y"]

/-- The list that the second filter answers takes away what the first one has done. -/
theorem applyText_extended : extended.applyText .template "a" = "a" ∧ extended.heeded .template (.text "a") = .text "ax" := by
  decide

end Filters

end PluginAudit
