import PluginAudit.Disk.Walk
import PluginAudit.Proofs.Path

/-!
# Trees

Every entry of a tree has a name in a directory of it.  So the names that lead to an entry lead
through directories, and each of these has the next name among the names of its entries.
-/

namespace PluginAudit

open PluginAudit.Text

namespace Disk

/-- A disk whose entries are kept in order and have names in directories of it. -/
structure IsTree (d : Disk) : Prop where
  ascending : Assoc.Ascending locationLess d.entries
  named : ∀ entry ∈ d.entries, ∀ name ∈ entry.1, IsName name
  inDirectory : ∀ entry ∈ d.entries, d.entry? entry.1.dropLast = some .directory

instance (d : Disk) : Decidable d.IsTree :=
  haveI : Decidable (Assoc.Ascending locationLess d.entries) :=
    inferInstanceAs (Decidable (d.entries.Pairwise fun a b => locationLess a.1 b.1))
  decidable_of_iff
    (Assoc.Ascending locationLess d.entries ∧ (∀ entry ∈ d.entries, ∀ name ∈ entry.1, IsName name) ∧
      ∀ entry ∈ d.entries, d.entry? entry.1.dropLast = some .directory)
    ⟨fun ⟨ascending, named, inDirectory⟩ => ⟨ascending, named, inDirectory⟩,
      fun tree => ⟨tree.ascending, tree.named, tree.inDirectory⟩⟩

variable {d : Disk} {location front back : Location} {name : String} {entry : Entry}

theorem mem_entries (given : location ≠ []) (found : d.entry? location = some entry) :
    (location, entry) ∈ d.entries := by
  apply Assoc.mem_of_get?_eq_some
  simpa [ entry?, given] using found

theorem length_le_foldr {entries : List (Location × Entry)} (member : (location, entry) ∈ entries) :
    location.length ≤ entries.foldr (fun e n => max e.1.length n) 0 := by
  induction entries with
  | nil => cases member
  | cons head rest inductionHypothesis =>
    rw [List.foldr_cons]
    cases List.mem_cons.mp member with
    | inl same => simp [← same]
    | inr later => exact le_max_of_le_right (inductionHypothesis later)

/-- No entry lies deeper than the tree is high. -/
theorem length_le_height (found : (d.entry? location).isSome) : location.length ≤ d.height := by
  by_cases given : location = []
  · simp [given]
  · obtain ⟨entry, found⟩ := Option.isSome_iff_exists.mp found
    exact length_le_foldr (mem_entries given found)

theorem nameIn_eq_some {key : Location} :
    (if key.dropLast == location then key.getLast? else none) = some name ↔ key = location ++ [name] := by
  constructor
  · intro same
    split at same
    case isTrue parent =>
      obtain ⟨before, rfl⟩ := List.getLast?_eq_some_iff.mp same
      simpa using parent
    case isFalse => cases same
  · intro key_eq
    simp [key_eq]

/-- The names in a directory are those of its entries. -/
theorem mem_childNames : name ∈ d.childNames location ↔ (d.entry? (location ++ [name])).isSome := by
  simp only [childNames, List.mem_filterMap, nameIn_eq_some]
  constructor
  · intro ⟨entry, member, key⟩
    have present : Assoc.contains (location ++ [name]) d.entries :=
      Assoc.contains_iff.mpr ⟨entry.2, key ▸ member⟩
    simpa [ entry?, Assoc.contains] using present
  · intro present
    obtain ⟨entry, found⟩ := Option.isSome_iff_exists.mp present
    exact ⟨_, mem_entries (by simp) found, rfl⟩

namespace IsTree

theorem nodup_childNames (tree : d.IsTree) (location : Location) : (d.childNames location).Nodup := by
  have distinct := List.pairwise_map.mp (tree.ascending.nodup_keys .location)
  apply List.Pairwise.filterMap _ _ distinct
  intro first second different name here other there same
  have firstKey := nameIn_eq_some.mp here
  have secondKey := nameIn_eq_some.mp there
  exact different (firstKey.trans (same ▸ secondKey.symm))

theorem isName (tree : d.IsTree) (found : (d.entry? location).isSome) : ∀ name ∈ location, IsName name := by
  intro name member
  obtain ⟨entry, found⟩ := Option.isSome_iff_exists.mp found
  exact tree.named _ (mem_entries (List.ne_nil_of_mem member) found) name member

/-- Names lead to an entry through directories. -/
theorem isDirectory (tree : d.IsTree) (given : back ≠ []) (found : (d.entry? (front ++ back)).isSome) :
    d.entry? front = some .directory := by
  induction back using List.reverseRecOn with
  | nil => exact absurd rfl given
  | append_singleton before last inductionHypothesis =>
    obtain ⟨entry, found⟩ := Option.isSome_iff_exists.mp found
    have parent := tree.inDirectory _ (mem_entries (by simp) found)
    rw [← List.append_assoc, List.dropLast_concat] at parent
    by_cases none : before = []
    · simpa [none] using parent
    · exact inductionHypothesis none (by rw [parent]; rfl)

theorem mem_childNames_of_append (tree : d.IsTree) (found : (d.entry? (front ++ name :: back)).isSome) :
    name ∈ d.childNames front := by
  rw [mem_childNames]
  by_cases none : back = []
  · simpa [none] using found
  · rw [List.append_cons] at found
    rw [tree.isDirectory none found]
    rfl

end IsTree

end Disk

/-! ## Paths along names -/

namespace Path

open Disk (IsName)

/-- The path that is reached along names. -/
def along (p : Path) (names : List String) : Path := names.foldl Path.join p

variable {names others : List String}

theorem components_along (isName : ∀ name ∈ names, IsName name) (p : Path) :
    (p.along names).components = p.components ++ names.map fun name => .normal name.toList := by
  induction names generalizing p with
  | nil => simp [along]
  | cons name rest inductionHypothesis =>
    obtain ⟨here, later⟩ := List.forall_mem_cons.mp isName
    have extended := inductionHypothesis later (p.join name)
    rw [components_join here, List.append_assoc] at extended
    exact extended

/-- Different names lead to different paths. -/
theorem along_injective (p : Path) (isName : ∀ name ∈ names, IsName name) (isName' : ∀ name ∈ others, IsName name)
    (same : (p.along names).components = (p.along others).components) : names = others := by
  rw [components_along isName, components_along isName', List.append_cancel_left_eq] at same
  apply List.map_injective_iff.mpr _ same
  intro name other equal
  injection equal with characters
  exact String.toList_injective characters

end Path

end PluginAudit
