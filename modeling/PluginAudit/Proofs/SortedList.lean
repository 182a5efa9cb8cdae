import Mathlib.Data.String.Basic
import Mathlib.Data.List.Sort
import PluginAudit.Disk

/-!
# Sorted lists as sets and maps

What looking up, storing and removing do to a map that is kept as a list.  The
statements about looking up need no order of the entries; that a key is stored
once does.
-/

namespace PluginAudit

variable {κ α : Type}

/-- What the order of the keys of a sorted list has to be. -/
structure KeyOrder (less : κ → κ → Bool) : Prop where
  irreflexive : ∀ a, less a a = false
  transitive : ∀ {a b c}, less a b → less b c → less a c
  /-- Of two keys one comes first, or they are the same. -/
  connected : ∀ {a b}, less a b = false → less b a = false → a = b

namespace KeyOrder

/-- A key order that a linear order decides. -/
theorem ofLinear [LinearOrder κ] {less : κ → κ → Bool} (decides : ∀ a b, less a b = decide (a < b)) :
    KeyOrder less where
  irreflexive a := by simp [decides]
  transitive := by
    intro a b c first second
    simp only [decides, decide_eq_true_eq] at *
    exact first.trans second
  connected := by
    intro a b notLess notGreater
    simp only [decides, decide_eq_false_iff_not, not_lt] at *
    exact le_antisymm notGreater notLess

theorem text : KeyOrder textLess := ofLinear fun _ _ => rfl

theorem number : KeyOrder natLess := ofLinear fun _ _ => rfl

theorem location : KeyOrder Disk.locationLess :=
  ofLinear fun _ _ => by unfold Disk.locationLess; congr

theorem ne {less : κ → κ → Bool} (order : KeyOrder less) {a b : κ} (before : less a b) : a ≠ b := by
  rintro rfl
  simp [order.irreflexive] at before

/-- The third way that two keys can lie, beside the two that were tried. -/
theorem eq_of_not {less : κ → κ → Bool} (order : KeyOrder less) {a b : κ} (notBefore : ¬ less a b)
    (notBehind : ¬ less b a) : a = b :=
  order.connected (Bool.eq_false_iff.mpr notBefore) (Bool.eq_false_iff.mpr notBehind)

/-- Sorting what has different keys gives it in the order of the keys. -/
theorem pairwise_mergeSort {less : κ → κ → Bool} (order : KeyOrder less) {key : α → κ} {items : List α}
    (distinct : (items.map key).Nodup) :
    (items.mergeSort fun a b => !less (key b) (key a)).Pairwise fun a b => less (key a) (key b) := by
  have sorted : (items.mergeSort fun a b => !less (key b) (key a)).Pairwise fun a b => !less (key b) (key a) := by
    refine List.pairwise_mergeSort (fun a b c first second => ?_) (fun a b => ?_) items
    · simp only [Bool.not_eq_true'] at *
      by_contra before
      rw [Bool.not_eq_false] at before
      -- the middle key would have to lie both before and behind an outer one
      by_cases same : less (key b) (key c)
      · simp [order.transitive same before] at first
      · have equal := order.connected second (Bool.eq_false_iff.mpr same)
        simp [← equal, before] at first
    · by_cases before : less (key b) (key a)
      · have notBehind : less (key a) (key b) = false := by
          by_contra behind
          exact order.ne (order.transitive before (by simpa using behind)) rfl
        simp [notBehind]
      · simp [before]
  have different : (items.mergeSort fun a b => !less (key b) (key a)).Pairwise fun a b => key a ≠ key b :=
    List.pairwise_map.mp (((List.mergeSort_perm items _).map key).nodup_iff.mpr distinct)
  refine (sorted.and different).imp fun {a b} both => ?_
  by_contra notBefore
  exact both.2 (order.connected (Bool.eq_false_iff.mpr notBefore) (by simpa using both.1))

/-- Lists in strict order are equal where they have the same members. -/
theorem eq_of_mem_iff {less : κ → κ → Bool} (order : KeyOrder less) {key : α → κ} {items items' : List α}
    (ascending : items.Pairwise fun a b => less (key a) (key b))
    (ascending' : items'.Pairwise fun a b => less (key a) (key b)) (same : ∀ item, item ∈ items ↔ item ∈ items') :
    items = items' := by
  have irreflexive : Std.Irrefl fun a b : α => (less (key a) (key b) : Prop) := ⟨fun a before => order.ne before rfl⟩
  have antisymmetric : Std.Antisymm fun a b : α => (less (key a) (key b) : Prop) :=
    ⟨fun a b before behind => absurd rfl (order.ne (order.transitive before behind))⟩
  exact ascending.eq_of_mem_iff ascending' same

end KeyOrder

/-- Entries whose keys ascend. -/
def Assoc.Ascending (less : κ → κ → Bool) (entries : List (κ × α)) : Prop :=
  entries.Pairwise fun a b => less a.1 b.1

namespace Assoc

variable {less : κ → κ → Bool}

/-! ## The order of the entries -/

theorem mem_put {key : κ} {value : α} {entries : List (κ × α)} {entry : κ × α}
    (member : entry ∈ put less key value entries) : entry = (key, value) ∨ entry ∈ entries := by
  induction entries with
  | nil => simpa [put] using member
  | cons head rest inductionHypothesis =>
    simp only [put] at member
    split at member
    · simpa using member
    · split at member
      · rcases List.mem_cons.mp member with rfl | member
        · exact .inr List.mem_cons_self
        · exact (inductionHypothesis member).imp_right (List.mem_cons_of_mem head)
      · exact (List.mem_cons.mp member).imp_right (List.mem_cons_of_mem head)

/-- A key behind all others is stored at the end. -/
theorem put_last (order : KeyOrder less) {key : κ} (value : α) {entries : List (κ × α)}
    (behind : ∀ entry ∈ entries, less entry.1 key) :
    put less key value entries = entries ++ [(key, value)] := by
  induction entries with
  | nil => rfl
  | cons entry rest inductionHypothesis =>
    have before := behind entry List.mem_cons_self
    have notBehind : less key entry.1 = false := by
      by_contra other
      exact order.ne (order.transitive before (by simpa using other)) rfl
    have others := inductionHypothesis fun other member => behind other (List.mem_cons_of_mem entry member)
    simp [put, before, notBehind, others]

theorem ascending_put (order : KeyOrder less) (key : κ) (value : α) {entries : List (κ × α)}
    (ascending : Ascending less entries) : Ascending less (put less key value entries) := by
  induction entries with
  | nil => simp [put, Ascending]
  | cons entry rest inductionHypothesis =>
    obtain ⟨first, others⟩ := List.pairwise_cons.mp ascending
    simp only [put]
    split
    · rename_i before
      refine List.pairwise_cons.mpr ⟨fun other member => ?_, ascending⟩
      rcases List.mem_cons.mp member with rfl | member
      · exact before
      · exact order.transitive before (first other member)
    · split
      · rename_i behind
        refine List.pairwise_cons.mpr ⟨fun other member => ?_, inductionHypothesis others⟩
        rcases mem_put member with rfl | member
        · exact behind
        · exact first other member
      · rename_i notBefore notBehind
        have same := order.eq_of_not notBefore notBehind
        exact List.pairwise_cons.mpr ⟨fun other member => by simpa [same] using first other member, others⟩

/-- The value that was stored last counts. -/
theorem put_put (order : KeyOrder less) (key : κ) (value previous : α) (entries : List (κ × α)) :
    put less key value (put less key previous entries) = put less key value entries := by
  induction entries with
  | nil => simp [put, order.irreflexive]
  | cons entry rest inductionHypothesis =>
    by_cases before : less key entry.1
    · simp [put, before, order.irreflexive]
    · by_cases behind : less entry.1 key
      · simp [put, before, behind, inductionHypothesis]
      · simp [put, before, behind, order.irreflexive]

/-! ## Maps of given entries -/

/-- The entries in the order of their keys. -/
def inOrder (less : κ → κ → Bool) (entries : List (κ × α)) : List (κ × α) :=
  entries.mergeSort fun a b => !less b.1 a.1

theorem inOrder_perm (less : κ → κ → Bool) (entries : List (κ × α)) : (inOrder less entries).Perm entries :=
  List.mergeSort_perm entries _

theorem ascending_inOrder (order : KeyOrder less) {entries : List (κ × α)}
    (distinct : (entries.map Prod.fst).Nodup) : Ascending less (inOrder less entries) :=
  order.pairwise_mergeSort distinct

theorem inOrder_eq_self (order : KeyOrder less) {entries : List (κ × α)} (ascending : Ascending less entries) :
    inOrder less entries = entries := by
  refine List.mergeSort_of_pairwise (ascending.imp fun {a b} before => ?_)
  rw [Bool.not_eq_true', Bool.eq_false_iff]
  exact fun behind => order.ne (order.transitive before behind) rfl

theorem Ascending.nodup_keys (order : KeyOrder less) {entries : List (κ × α)}
    (ascending : Ascending less entries) : (entries.map Prod.fst).Nodup :=
  List.pairwise_map.mpr (ascending.imp order.ne)

theorem put_perm (order : KeyOrder less) {key : κ} {entries : List (κ × α)}
    (absent : ∀ entry ∈ entries, entry.1 ≠ key) (value : α) :
    (put less key value entries).Perm ((key, value) :: entries) := by
  induction entries with
  | nil => exact .refl _
  | cons entry rest inductionHypothesis =>
    have later := inductionHypothesis fun other member => absent other (List.mem_cons_of_mem entry member)
    simp only [put]
    split
    · exact .refl _
    · split
      · exact (later.cons entry).trans (.swap _ _ _)
      · rename_i notBefore notBehind
        exact absurd (order.eq_of_not notBehind notBefore) (absent entry List.mem_cons_self)

theorem foldl_put_perm (order : KeyOrder less) {before entries : List (κ × α)}
    (distinct : ((before ++ entries).map Prod.fst).Nodup) (ascending : Ascending less before) :
    (entries.foldl (fun stored entry => put less entry.1 entry.2 stored) before).Perm (before ++ entries) ∧
      Ascending less (entries.foldl (fun stored entry => put less entry.1 entry.2 stored) before) := by
  induction entries generalizing before with
  | nil => simpa using ascending
  | cons entry rest inductionHypothesis =>
    have absent : ∀ other ∈ before, other.1 ≠ entry.1 := by
      intro other member same
      rw [List.map_append, List.map_cons, List.nodup_append] at distinct
      exact distinct.2.2 other.1 (List.mem_map_of_mem member) entry.1 List.mem_cons_self same
    have added := put_perm order absent entry.2
    have moved : (put less entry.1 entry.2 before ++ rest).Perm (before ++ entry :: rest) :=
      (added.append_right rest).trans List.perm_middle.symm
    obtain ⟨permuted, sorted⟩ := inductionHypothesis ((moved.map Prod.fst).nodup_iff.mpr distinct)
      (ascending_put order entry.1 entry.2 ascending)
    exact ⟨permuted.trans moved, sorted⟩

/-- Storing entries with different keys one after another gives them in order. -/
theorem foldl_put_eq_inOrder (order : KeyOrder less) {entries : List (κ × α)}
    (distinct : (entries.map Prod.fst).Nodup) :
    entries.foldl (fun stored entry => put less entry.1 entry.2 stored) [] = inOrder less entries := by
  have none : Ascending less ([] : List (κ × α)) := .nil
  obtain ⟨permuted, ascending⟩ := foldl_put_perm order distinct none
  refine List.Perm.eq_of_pairwise (fun a b _ _ before behind => ?_) ascending
    (ascending_inOrder order distinct) (permuted.trans (inOrder_perm less entries).symm)
  exact absurd rfl (order.ne (order.transitive before behind))

theorem erase_sublist [BEq κ] (key : κ) (entries : List (κ × α)) : (erase key entries).Sublist entries := by
  induction entries with
  | nil => exact .slnil
  | cons entry rest inductionHypothesis =>
    simp only [erase]
    split
    · exact List.sublist_cons_self entry rest
    · exact inductionHypothesis.cons_cons entry

variable [BEq κ] [LawfulBEq κ]

/-! ## Looking up -/

theorem get?_eq_none {key : κ} {entries : List (κ × α)} :
    get? key entries = none ↔ ∀ entry ∈ entries, entry.1 ≠ key := by
  induction entries with
  | nil => simp [get?]
  | cons entry rest inductionHypothesis =>
    by_cases same : entry.1 = key <;> simp [get?, same, inductionHypothesis]

theorem get?_eq_none_iff_not_mem {key : κ} {entries : List (κ × α)} :
    get? key entries = none ↔ key ∉ keys entries := by
  rw [get?_eq_none]
  constructor
  · intro absent member
    obtain ⟨entry, stored, same⟩ := List.mem_map.mp member
    exact absent entry stored same
  · intro absent entry stored same
    exact absent (same ▸ List.mem_map_of_mem stored)

/-- What is found under a key is stored with it. -/
theorem mem_of_get?_eq_some {key : κ} {value : α} {entries : List (κ × α)}
    (found : get? key entries = some value) : (key, value) ∈ entries := by
  induction entries with
  | nil => cases found
  | cons entry rest inductionHypothesis =>
    simp only [get?] at found
    split at found
    · rename_i same
      rw [← Option.some.inj found, ← eq_of_beq same]
      exact List.mem_cons_self
    · exact List.mem_cons_of_mem entry (inductionHypothesis found)

/-- Where no key occurs twice, what is stored is found. -/
theorem get?_of_mem {key : κ} {value : α} {entries : List (κ × α)}
    (distinct : (entries.map Prod.fst).Nodup) (member : (key, value) ∈ entries) :
    get? key entries = some value := by
  induction entries with
  | nil => cases member
  | cons entry rest inductionHypothesis =>
    simp only [List.map_cons, List.nodup_cons] at distinct
    rcases List.mem_cons.mp member with rfl | later
    · simp [get?]
    · have different : entry.1 ≠ key := by
        rintro rfl
        exact distinct.1 (List.mem_map.mpr ⟨_, later, rfl⟩)
      simpa [get?, different] using inductionHypothesis distinct.2 later

theorem contains_iff {key : κ} {entries : List (κ × α)} :
    contains key entries ↔ ∃ value, (key, value) ∈ entries := by
  constructor
  · intro present
    obtain ⟨value, found⟩ := Option.isSome_iff_exists.mp present
    exact ⟨value, mem_of_get?_eq_some found⟩
  · rintro ⟨value, member⟩
    rw [contains, Option.isSome_iff_ne_none, ne_eq, get?_eq_none]
    exact fun absent => absent _ member rfl

theorem get?_inOrder {key : κ} {value : α} {entries : List (κ × α)}
    (distinct : (entries.map Prod.fst).Nodup) (member : (key, value) ∈ entries) :
    get? key (inOrder less entries) = some value := by
  refine get?_of_mem ?_ ((inOrder_perm less entries).mem_iff.mpr member)
  exact ((inOrder_perm less entries).map Prod.fst).nodup_iff.mpr distinct

theorem Ascending.get?_eq_some (order : KeyOrder less) {entries : List (κ × α)}
    (ascending : Ascending less entries) {key : κ} {value : α} :
    get? key entries = some value ↔ (key, value) ∈ entries :=
  ⟨mem_of_get?_eq_some, get?_of_mem (ascending.nodup_keys order)⟩

/-- Maps that are kept in order are equal where they hold the same under each key. -/
theorem Ascending.ext (order : KeyOrder less) {entries entries' : List (κ × α)}
    (ascending : Ascending less entries) (ascending' : Ascending less entries')
    (same : ∀ key, get? key entries = get? key entries') : entries = entries' := by
  have permuted : entries.Perm entries' := by
    refine (List.perm_ext_iff_of_nodup (ascending.nodup_keys order).of_map
      (ascending'.nodup_keys order).of_map).mpr fun (key, value) => ?_
    rw [← ascending.get?_eq_some order, ← ascending'.get?_eq_some order, same]
  refine permuted.eq_of_pairwise (fun a b _ _ before behind => ?_) ascending ascending'
  exact absurd rfl (order.ne (order.transitive before behind))

theorem get?_append (key : κ) (front back : List (κ × α)) :
    get? key (front ++ back) = (get? key front).or (get? key back) := by
  induction front with
  | nil => rfl
  | cons entry rest inductionHypothesis =>
    by_cases same : entry.1 = key <;> simp [get?, same, inductionHypothesis]

theorem get?_append_right {key : κ} {front : List (κ × α)} (absent : get? key front = none)
    (back : List (κ × α)) : get? key (front ++ back) = get? key back := by
  rw [get?_append, absent, Option.none_or]

/-! ## Storing -/

theorem get?_put_self (order : KeyOrder less) (key : κ) (value : α) (entries : List (κ × α)) :
    get? key (put less key value entries) = some value := by
  induction entries with
  | nil => simp [put, get?]
  | cons entry rest inductionHypothesis =>
    simp only [put]
    split
    · simp [get?]
    · split
      · rename_i before
        simpa [get?, order.ne before] using inductionHypothesis
      · simp [get?]

theorem get?_put_other (order : KeyOrder less) {key other : κ} (different : other ≠ key)
    (value : α) (entries : List (κ × α)) :
    get? other (put less key value entries) = get? other entries := by
  induction entries with
  | nil => simp [put, get?, different.symm]
  | cons entry rest inductionHypothesis =>
    simp only [put]
    split
    · simp [get?, different.symm]
    · split
      · simp [get?, inductionHypothesis]
      · rename_i notBefore notBehind
        have same := order.eq_of_not notBefore notBehind
        simp [get?, ← same, different.symm]

theorem get?_update_other (order : KeyOrder less) {key other : κ} (different : other ≠ key)
    (initial : α) (change : α → α) (entries : List (κ × α)) :
    get? other (update less key initial change entries) = get? other entries := by
  induction entries with
  | nil => simp [update, get?, different.symm]
  | cons entry rest inductionHypothesis =>
    simp only [update]
    split
    · simp [get?, different.symm]
    · split
      · simp [get?, inductionHypothesis]
      · rename_i notBefore notBehind
        have same := order.eq_of_not notBefore notBehind
        simp [get?, ← same, different.symm]

/-- Changing a value is storing the changed value. -/
theorem update_eq_put (order : KeyOrder less) (key : κ) (initial : α) (change : α → α)
    {entries : List (κ × α)} (ascending : Ascending less entries) :
    update less key initial change entries =
      put less key (change ((get? key entries).getD initial)) entries := by
  induction entries with
  | nil => rfl
  | cons entry rest inductionHypothesis =>
    obtain ⟨first, others⟩ := List.pairwise_cons.mp ascending
    simp only [update, put]
    split
    · rename_i before
      have absent : get? key (entry :: rest) = none := by
        refine get?_eq_none.mpr fun other member => ?_
        rcases List.mem_cons.mp member with rfl | member
        · exact (order.ne before).symm
        · exact (order.ne (order.transitive before (first other member))).symm
      rw [absent]
      rfl
    · split
      · rename_i behind
        have different : entry.1 ≠ key := order.ne behind
        simp [inductionHypothesis others, get?, different]
      · rename_i notBefore notBehind
        have same := order.eq_of_not notBefore notBehind
        simp [get?, same]

theorem get?_update_self (order : KeyOrder less) (key : κ) (initial : α) (change : α → α)
    {entries : List (κ × α)} (ascending : Ascending less entries) :
    get? key (update less key initial change entries) = some (change ((get? key entries).getD initial)) := by
  rw [update_eq_put order key initial change ascending, get?_put_self order]

theorem ascending_update (order : KeyOrder less) (key : κ) (initial : α) (change : α → α)
    {entries : List (κ × α)} (ascending : Ascending less entries) :
    Ascending less (update less key initial change entries) := by
  rw [update_eq_put order key initial change ascending]
  exact ascending_put order key _ ascending

/-- What is stored after a change was stored before or is what the change made. -/
theorem mem_update (order : KeyOrder less) {key : κ} {initial : α} {change : α → α}
    {entries : List (κ × α)} (ascending : Ascending less entries) {entry : κ × α}
    (member : entry ∈ update less key initial change entries) :
    entry = (key, change ((get? key entries).getD initial)) ∨ entry ∈ entries :=
  mem_put (update_eq_put order key initial change ascending ▸ member)

/-! ## Removing -/

/-- Where nothing is stored, nothing is removed. -/
theorem erase_eq_self {key : κ} {entries : List (κ × α)} (absent : get? key entries = none) :
    erase key entries = entries := by
  induction entries with
  | nil => rfl
  | cons entry rest inductionHypothesis =>
    by_cases same : entry.1 = key
    · simp [get?, same] at absent
    · simp_all [erase, get?]

theorem get?_erase_other {key other : κ} (different : other ≠ key) (entries : List (κ × α)) :
    get? other (erase key entries) = get? other entries := by
  induction entries with
  | nil => rfl
  | cons entry rest inductionHypothesis =>
    by_cases same : entry.1 = key
    · simp [erase, get?, same, different.symm]
    · simp [erase, get?, same, inductionHypothesis]

theorem get?_erase_self (order : KeyOrder less) (key : κ) {entries : List (κ × α)}
    (ascending : Ascending less entries) : get? key (erase key entries) = none := by
  induction entries with
  | nil => rfl
  | cons entry rest inductionHypothesis =>
    obtain ⟨first, others⟩ := List.pairwise_cons.mp ascending
    by_cases same : entry.1 = key
    · have absent : get? key rest = none :=
        get?_eq_none.mpr fun other member => (order.ne (same ▸ first other member)).symm
      simpa [erase, same] using absent
    · simpa [erase, get?, same] using inductionHypothesis others

/-- What is made of the entries stays the same if nothing is made of a new one. -/
theorem filterMap_put {β : Type} (order : KeyOrder less) {key : κ} {value : α} {entries : List (κ × α)}
    (absent : get? key entries = none) {f : κ × α → Option β} (nothing : f (key, value) = none) :
    (put less key value entries).filterMap f = entries.filterMap f := by
  induction entries with
  | nil => simp [put, nothing]
  | cons entry rest inductionHypothesis =>
    rw [get?_eq_none] at absent
    have others := inductionHypothesis
      (get?_eq_none.mpr fun other member => absent other (List.mem_cons_of_mem entry member))
    simp only [put]
    split
    · simp [nothing]
    · split
      · simp [List.filterMap_cons, others]
      · rename_i notBefore notBehind
        exact absurd (order.eq_of_not notBehind notBefore) (absent entry List.mem_cons_self)

/-- Removing what was stored under a new key gives back the entries. -/
theorem erase_put (order : KeyOrder less) {key : κ} {entries : List (κ × α)}
    (absent : get? key entries = none) (value : α) :
    erase key (put less key value entries) = entries := by
  induction entries with
  | nil => simp [put, erase]
  | cons entry rest inductionHypothesis =>
    rw [get?_eq_none] at absent
    have different : entry.1 ≠ key := absent entry List.mem_cons_self
    have others := inductionHypothesis
      (get?_eq_none.mpr fun other member => absent other (List.mem_cons_of_mem entry member))
    simp only [put]
    split
    · simp [erase]
    · split
      · simp [erase, different, others]
      · rename_i notBefore notBehind
        exact absurd (order.eq_of_not notBehind notBefore) different

/-- Removing the first entry behind entries with other keys. -/
theorem erase_append_cons {key : κ} {front : List (κ × α)} (absent : get? key front = none)
    (value : α) (back : List (κ × α)) :
    erase key (front ++ (key, value) :: back) = front ++ back := by
  induction front with
  | nil => simp [erase]
  | cons entry rest inductionHypothesis =>
    rw [get?_eq_none] at absent
    have different : entry.1 ≠ key := absent entry List.mem_cons_self
    have others := inductionHypothesis
      (get?_eq_none.mpr fun other member => absent other (List.mem_cons_of_mem entry member))
    simp [erase, different, others]

end Assoc

/-! ## Sets -/

theorem SortedList.mem_insert {less : κ → κ → Bool} (order : KeyOrder less) {x y : κ}
    {items : List κ} : y ∈ SortedList.insert less x items ↔ y = x ∨ y ∈ items := by
  induction items with
  | nil => simp [SortedList.insert]
  | cons item rest inductionHypothesis =>
    simp only [SortedList.insert]
    split
    · simp
    · split
      · simp only [List.mem_cons, inductionHypothesis]
        tauto
      · rename_i notBefore notBehind
        have same := order.eq_of_not notBefore notBehind
        simp [same]

theorem SortedList.mem_foldl_insert {less : κ → κ → Bool} (order : KeyOrder less) {y : κ}
    (added items : List κ) :
    y ∈ added.foldl (fun all x => SortedList.insert less x all) items ↔ y ∈ added ∨ y ∈ items := by
  induction added generalizing items with
  | nil => simp
  | cons x rest inductionHypothesis =>
    simp only [List.foldl_cons, inductionHypothesis, mem_insert order, List.mem_cons]
    tauto

/-- Leaving an inserted item out again leaves what is left of the list it was
inserted into. -/
theorem SortedList.filter_insert {less : κ → κ → Bool} {keep : κ → Bool} {x : κ}
    (dropped : keep x = false) (items : List κ) :
    (SortedList.insert less x items).filter keep = items.filter keep := by
  induction items with
  | nil => simp [SortedList.insert, dropped]
  | cons item rest inductionHypothesis =>
    simp only [SortedList.insert]
    split
    · simp [dropped]
    · split
      · simp only [List.filter_cons, inductionHypothesis]
      · rfl

theorem SortedList.filter_foldl_insert {less : κ → κ → Bool} {keep : κ → Bool} {added : List κ}
    (dropped : ∀ x ∈ added, keep x = false) (items : List κ) :
    (added.foldl (fun all x => SortedList.insert less x all) items).filter keep =
      items.filter keep := by
  induction added generalizing items with
  | nil => rfl
  | cons x rest inductionHypothesis =>
    have others := inductionHypothesis fun other member => dropped other (List.mem_cons_of_mem x member)
    simp only [List.foldl_cons, others, filter_insert (dropped x List.mem_cons_self)]

theorem SortedList.pairwise_insert {less : κ → κ → Bool} (order : KeyOrder less) (x : κ) {items : List κ}
    (ascending : items.Pairwise (less · ·)) : (SortedList.insert less x items).Pairwise (less · ·) := by
  induction items with
  | nil => exact List.pairwise_singleton _ x
  | cons item rest inductionHypothesis =>
    obtain ⟨first, others⟩ := List.pairwise_cons.mp ascending
    simp only [SortedList.insert]
    split
    · rename_i before
      refine List.pairwise_cons.mpr ⟨fun other member => ?_, ascending⟩
      rcases List.mem_cons.mp member with rfl | member
      · exact before
      · exact order.transitive before (first other member)
    · split
      · rename_i behind
        refine List.pairwise_cons.mpr ⟨fun other member => ?_, inductionHypothesis others⟩
        rcases (mem_insert order).mp member with rfl | member
        · exact behind
        · exact first other member
      · exact ascending

theorem SortedList.pairwise_foldl_insert {less : κ → κ → Bool} (order : KeyOrder less) (added : List κ)
    {items : List κ} (ascending : items.Pairwise (less · ·)) :
    (added.foldl (fun all x => SortedList.insert less x all) items).Pairwise (less · ·) := by
  induction added generalizing items with
  | nil => exact ascending
  | cons x rest inductionHypothesis => exact inductionHypothesis (pairwise_insert order x ascending)

end PluginAudit
