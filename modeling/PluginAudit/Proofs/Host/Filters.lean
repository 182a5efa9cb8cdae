import PluginAudit.Host

/-!
# What filters answer

A filter that is added last has the last word on the answers of its hook and
does not touch those of other hooks.
-/

namespace PluginAudit

namespace Filters

theorem apply_add_same (f : Filters) (hook : Hook) (change : FilterValue → FilterValue)
    (value : FilterValue) : (f.add hook change).1.apply hook value = change (f.apply hook value) := by
  simp [apply, on, add]

theorem apply_add_other (f : Filters) {hook other : Hook} (different : hook ≠ other)
    (change : FilterValue → FilterValue) (value : FilterValue) :
    (f.add hook change).1.apply other value = f.apply other value := by
  simp [apply, on, add, different]

/-- The filters of the active plugins answer lists with lists. -/
def AnswerLists (f : Filters) : Prop :=
  ∀ entry ∈ f.entries, entry.hook = .activePlugins →
    ∀ items, ∃ answer, entry.change (.list items) = .list answer

theorem exists_foldl_eq_list {entries : List FilterEntry} (items : List String)
    (each : ∀ entry ∈ entries, ∀ items, ∃ answer, entry.change (.list items) = .list answer) :
    ∃ answer, entries.foldl (fun value entry => entry.change value) (.list items) = .list answer := by
  induction entries generalizing items with
  | nil => exact ⟨items, rfl⟩
  | cons entry rest inductionHypothesis =>
    obtain ⟨answer, changed⟩ := each entry List.mem_cons_self items
    rw [List.foldl_cons, changed]
    exact inductionHypothesis answer fun other member => each other (List.mem_cons_of_mem entry member)

/-- Filters that answer lists with lists do so together. -/
theorem AnswerLists.apply {f : Filters} (answering : f.AnswerLists) (items : List String) :
    f.apply .activePlugins (.list items) = .list (f.applyList .activePlugins items) := by
  have each : ∀ entry ∈ f.on .activePlugins, ∀ items, ∃ answer,
      entry.change (.list items) = .list answer := by
    intro entry member
    obtain ⟨present, onHook⟩ := List.mem_filter.mp member
    exact answering entry present (by simpa using onHook)
  obtain ⟨answer, applied⟩ := exists_foldl_eq_list items each
  have whole : f.apply .activePlugins (.list items) = .list answer := applied
  rw [applyList, whole]

/-- A filter that is added last and gives a fixed text is what the hook answers. -/
theorem applyText_of_apply {f : Filters} {hook : Hook} {text : String}
    (applied : ∀ value, f.apply hook value = .text text) (start : String) :
    f.applyText hook start = text := by
  rw [applyText, applied]

end Filters

end PluginAudit
