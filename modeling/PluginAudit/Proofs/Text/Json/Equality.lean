import PluginAudit.Proofs.SortedList
import PluginAudit.Text.Json

/-!
# Equal JSON values

An object is a map: the order of its members says nothing, and of several
members with one name the last counts.  Two values are equal as JSON exactly
when sorting the members of their objects makes them the same.
-/

namespace PluginAudit

namespace Text.Json

/-- What holds of a list or an object if it holds of its parts, holds of all values. -/
@[elab_as_elim]
theorem induction_parts {motive : Json → Prop} (null : motive .null)
    (bool : ∀ value, motive (.bool value)) (number : ∀ value, motive (.number value))
    (text : ∀ value, motive (.text value))
    (list : ∀ items, (∀ item ∈ items, motive item) → motive (.list items))
    (object : ∀ members, (∀ entry ∈ members, motive entry.2) → motive (.object members))
    (unusable : motive .unusable) : ∀ value, motive value
  | .null => null
  | .bool value => bool value
  | .number value => number value
  | .text value => text value
  | .list items => list items fun item _ =>
      induction_parts null bool number text list object unusable item
  | .object members => object members fun entry _ =>
      induction_parts null bool number text list object unusable entry.2
  | .unusable => unusable
termination_by value => sizeOf value
decreasing_by
  · have smaller := List.sizeOf_lt_of_mem ‹item ∈ items›
    rw [Json.list.sizeOf_spec]
    omega
  · have smaller := List.sizeOf_lt_of_mem ‹entry ∈ members›
    have part : sizeOf entry = 1 + sizeOf entry.1 + sizeOf entry.2 := rfl
    rw [Json.object.sizeOf_spec]
    omega

/-! ## Equality -/

/-- The value of the last member with a name. -/
def member? (name : String) (members : List (String × Json)) : Option Json :=
  Assoc.get? name members.reverse

/-- Values that are equal as JSON. -/
inductive Same : Json → Json → Prop
  | null : Same .null .null
  | bool (value : Bool) : Same (.bool value) (.bool value)
  | number (value : Int) : Same (.number value) (.number value)
  | text (value : String) : Same (.text value) (.text value)
  | list {items items' : List Json} : List.Forall₂ Same items items' →
      Same (.list items) (.list items')
  /-- Under each name there is a member in both, and of equal values, or in neither. -/
  | object {members members' : List (String × Json)} :
      (∀ name, Option.Rel Same (member? name members) (member? name members')) →
      Same (.object members) (.object members')

/-- Values without numbers that are no integers. -/
inductive Usable : Json → Prop
  | null : Usable .null
  | bool (value : Bool) : Usable (.bool value)
  | number (value : Int) : Usable (.number value)
  | text (value : String) : Usable (.text value)
  | list {items : List Json} : (∀ item ∈ items, Usable item) → Usable (.list items)
  | object {members : List (String × Json)} : (∀ entry ∈ members, Usable entry.2) →
      Usable (.object members)

variable {members : List (String × Json)} {name : String} {value : Json}

theorem member?_cons (name key : String) (value : Json) (rest : List (String × Json)) :
    member? name ((key, value) :: rest) =
      (member? name rest).or (if key = name then some value else none) := by
  rw [member?, List.reverse_cons, Assoc.get?_append]
  simp only [Assoc.get?, beq_iff_eq]
  rfl

theorem mem_of_member? (found : member? name members = some value) : (name, value) ∈ members :=
  List.mem_reverse.mp (Assoc.mem_of_get?_eq_some found)

/-! ## Sorted values -/

theorem sortedItems_eq (items : List Json) : sortedItems items = items.map sorted := by
  induction items with
  | nil => simp [sortedItems]
  | cons item rest inductionHypothesis => simp [sortedItems, inductionHypothesis]

/-- A sorted object has the same members. -/
theorem get?_sortedMembers (members : List (String × Json)) (name : String) :
    Assoc.get? name (sortedMembers members) = (member? name members).map sorted := by
  induction members with
  | nil => simp [sortedMembers, member?, Assoc.get?]
  | cons entry rest inductionHypothesis =>
    obtain ⟨key, value⟩ := entry
    rw [member?_cons]
    simp only [sortedMembers]
    by_cases same : key = name
    · subst same
      cases found : member? key rest with
      | some later =>
        rw [found] at inductionHypothesis
        simp [Assoc.contains, inductionHypothesis]
      | none =>
        rw [found] at inductionHypothesis
        simp [Assoc.contains, inductionHypothesis, Assoc.get?_put_self .text]
    · rw [if_neg same, Option.or_none]
      split
      · exact inductionHypothesis
      · rw [Assoc.get?_put_other .text (Ne.symm same), inductionHypothesis]

theorem ascending_sortedMembers (members : List (String × Json)) :
    Assoc.Ascending textLess (sortedMembers members) := by
  induction members with
  | nil => simp [sortedMembers, Assoc.Ascending]
  | cons entry rest inductionHypothesis =>
    simp only [sortedMembers]
    split
    · exact inductionHypothesis
    · exact Assoc.ascending_put .text _ _ inductionHypothesis

theorem sortedMembers_eq_iff {members members' : List (String × Json)} :
    sortedMembers members = sortedMembers members' ↔
      ∀ name, (member? name members).map sorted = (member? name members').map sorted := by
  simp only [← get?_sortedMembers]
  exact ⟨fun same name => by rw [same],
    (ascending_sortedMembers members).ext .text (ascending_sortedMembers members')⟩

section Maps

variable {α β : Type} {f : α → β} {relates : α → α → Prop}

theorem map_eq_of_rel {a b : Option α} (related : Option.Rel relates a b)
    (agrees : ∀ x y, a = some x → relates x y → f x = f y) : a.map f = b.map f := by
  cases related with
  | none => rfl
  | some holds => exact congrArg some (agrees _ _ rfl holds)

theorem rel_of_map_eq {a b : Option α} (same : a.map f = b.map f)
    (agrees : ∀ x y, a = some x → f x = f y → relates x y) : Option.Rel relates a b := by
  cases a with
  | none =>
    cases b with
    | none => exact .none
    | some y => cases same
  | some x =>
    cases b with
    | none => cases same
    | some y => exact .some (agrees x y rfl (Option.some.inj same))

theorem map_eq_of_forall₂ {items items' : List α} (related : List.Forall₂ relates items items')
    (agrees : ∀ x y, x ∈ items → relates x y → f x = f y) : items.map f = items'.map f := by
  induction related with
  | nil => rfl
  | cons holds _ inductionHypothesis =>
    rw [List.map_cons, List.map_cons, agrees _ _ List.mem_cons_self holds,
      inductionHypothesis fun x y member => agrees x y (List.mem_cons_of_mem _ member)]

theorem forall₂_of_map_eq {items items' : List α} (same : items.map f = items'.map f)
    (agrees : ∀ x y, x ∈ items → f x = f y → relates x y) : List.Forall₂ relates items items' := by
  induction items generalizing items' with
  | nil =>
    obtain rfl := List.map_eq_nil_iff.mp same.symm
    exact .nil
  | cons x rest inductionHypothesis =>
    cases items' with
    | nil => cases same
    | cons y rest' =>
      obtain ⟨first, others⟩ := List.cons.inj same
      exact .cons (agrees x y List.mem_cons_self first)
        (inductionHypothesis others fun x y member => agrees x y (List.mem_cons_of_mem _ member))

end Maps

/-- Equal values are the same once they are sorted. -/
theorem Same.sorted_eq {value other : Json} (same : Same value other) : value.sorted = other.sorted := by
  induction value using induction_parts generalizing other with
  | null | bool | number | text | unusable => cases same <;> rfl
  | list items each =>
    cases same with
    | list alike =>
      simp only [sorted, sortedItems_eq]
      exact congrArg _ (map_eq_of_forall₂ alike fun item _ member => each item member)
  | object members each =>
    cases same with
    | object alike =>
      simp only [sorted]
      refine congrArg _ (sortedMembers_eq_iff.mpr fun name => ?_)
      exact map_eq_of_rel (alike name) fun _ _ found => each _ (mem_of_member? found)

/-- Values that are the same once they are sorted are equal. -/
theorem Usable.same_of_sorted_eq {value other : Json} (usable : Usable value)
    (sameSorted : value.sorted = other.sorted) : Same value other := by
  induction value using induction_parts generalizing other with
  | unusable => cases usable
  | null | bool | number | text =>
    cases other <;> simp only [sorted, reduceCtorEq] at sameSorted
    cases sameSorted
    constructor
  | list items each =>
    cases usable with
    | list usable =>
      cases other <;> simp only [sorted, reduceCtorEq, Json.list.injEq, sortedItems_eq] at sameSorted
      exact .list (forall₂_of_map_eq sameSorted fun item _ member =>
        each item member (usable item member))
  | object members each =>
    cases usable with
    | object usable =>
      cases other <;> simp only [sorted, reduceCtorEq, Json.object.injEq] at sameSorted
      refine .object fun name => rel_of_map_eq (sortedMembers_eq_iff.mp sameSorted name) fun _ _ found => ?_
      exact each _ (mem_of_member? found) (usable _ (mem_of_member? found))

/-- Sorting brings in nothing unusable. -/
theorem Usable.sorted {value : Json} (usable : Usable value) : Usable value.sorted := by
  induction value using induction_parts with
  | null | bool | number | text | unusable => exact usable
  | list items each =>
    cases usable with
    | list usable =>
      simp only [Json.sorted, sortedItems_eq]
      refine .list fun item member => ?_
      obtain ⟨original, isItem, rfl⟩ := List.mem_map.mp member
      exact each original isItem (usable original isItem)
  | object members each =>
    cases usable with
    | object usable =>
      simp only [Json.sorted]
      refine .object fun (name, value) member => ?_
      have found := ((ascending_sortedMembers members).get?_eq_some .text).mpr member
      rw [get?_sortedMembers, Option.map_eq_some_iff] at found
      obtain ⟨original, isMember, rfl⟩ := found
      have there := mem_of_member? isMember
      exact each _ there (usable _ there)

end Text.Json

end PluginAudit
