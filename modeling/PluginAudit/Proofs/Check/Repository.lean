import Mathlib.Data.List.Perm.Basic
import Mathlib.Tactic.SplitIfs
import PluginAudit.Check.Repository

/-!
# Registering checks

A repository takes a check whose slug is new and that belongs to a category, and
leaves everything as it was otherwise.  What calls have done to a repository is
therefore decided by those of them that succeeded: their slugs are the ones that
are taken, and what is selected is made of them.
-/

namespace PluginAudit

namespace CheckRepository

variable {r : CheckRepository}

/-- All checks of a repository, those that read files first. -/
def all (r : CheckRepository) : List (String × Check) := r.staticChecks ++ r.runtimeChecks

/-- The repository with one more check. -/
def adding (r : CheckRepository) (slug : String) (check : Check) : CheckRepository :=
  match check.mode with
  | .static => { r with staticChecks := r.staticChecks ++ [(slug, check)] }
  | .runtime => { r with runtimeChecks := r.runtimeChecks ++ [(slug, check)] }

theorem register_eq {slug : String} {check : Check} (new : r.contains slug = false)
    (categorized : check.categories ≠ []) : r.register slug check = .ok (r.adding slug check) := by
  have some : check.categories.isEmpty = false := by simpa using categorized
  rw [register, new, some, adding]
  cases check.mode <;> rfl

theorem contains_adding (slug other : String) (check : Check) :
    (r.adding slug check).contains other = (r.contains other || slug == other) := by
  rw [adding]
  cases check.mode <;> simp [contains, Bool.or_comm, Bool.or_left_comm]

/-- Checks with new slugs and with categories are registered, each behind those of its mode. -/
theorem registerAll_eq {checks : List (String × Check)} (distinct : (checks.map Prod.fst).Nodup)
    (new : ∀ entry ∈ checks, r.contains entry.1 = false)
    (categorized : ∀ entry ∈ checks, entry.2.categories ≠ []) :
    r.registerAll checks = .ok
      { staticChecks := r.staticChecks ++ checks.filter fun entry => entry.2.mode == .static
        runtimeChecks := r.runtimeChecks ++ checks.filter fun entry => entry.2.mode == .runtime } := by
  induction checks generalizing r with
  | nil => simp [registerAll, pure, Except.pure]
  | cons first others inductionHypothesis =>
    obtain ⟨slug, check⟩ := first
    obtain ⟨some, laterSome⟩ := List.forall_mem_cons.mp categorized
    obtain ⟨here, laterNew⟩ := List.forall_mem_cons.mp new
    rw [List.map_cons, List.nodup_cons] at distinct
    have stillNew : ∀ entry ∈ others, (r.adding slug check).contains entry.1 = false := by
      intro entry member
      have other : slug ≠ entry.1 := fun same => distinct.1 (List.mem_map.mpr ⟨entry, member, same.symm⟩)
      rw [contains_adding, laterNew entry member, Bool.false_or, beq_eq_false_iff_ne]
      exact other
    have rest := inductionHypothesis distinct.2 stillNew laterSome
    have registered : r.register slug check = .ok (r.adding slug check) := register_eq here some
    have step : r.registerAll ((slug, check) :: others) = (r.adding slug check).registerAll others := by
      rw [registerAll, List.foldlM_cons]
      simp only [registered]
      rfl
    rw [step, rest, adding]
    cases mode : check.mode <;> simp [mode]

/-! ## One call -/

/-- Why a call that registers a check fails, if it does, and the repository that
it leaves. -/
def attempt (r : CheckRepository) (call : String × Check) : Option Error × CheckRepository :=
  match r.register call.1 call.2 with
  | .ok changed => (none, changed)
  | .error e => (some e, r)

theorem attempt_eq (r : CheckRepository) (call : String × Check) :
    r.attempt call =
      if r.contains call.1 then (some (.duplicateCheck call.1), r)
      else if call.2.categories = [] then (some (.missingCategories call.1), r)
      else (none, r.adding call.1 call.2) := by
  unfold attempt
  split_ifs with taken missing
  · simp [register, taken]
  · simp [register, taken, missing]
  · rw [register_eq (by simpa using taken) missing]

/-- A call that fails leaves the repository as it is. -/
theorem attempt_of_fails {call : String × Check} (fails : (r.attempt call).1 ≠ none) : (r.attempt call).2 = r := by
  rw [attempt_eq] at fails ⊢
  split_ifs at fails ⊢ with taken missing
  · rfl
  · rfl
  · exact absurd rfl fails

theorem attempt_of_succeeds {call : String × Check} (succeeds : (r.attempt call).1 = none) :
    r.contains call.1 = false ∧ (r.attempt call).2 = r.adding call.1 call.2 := by
  rw [attempt_eq] at succeeds ⊢
  split_ifs at succeeds ⊢ with taken missing
  exact ⟨by simpa using taken, rfl⟩

theorem contains_iff {slug : String} : r.contains slug ↔ slug ∈ r.all.map Prod.fst := by
  simp [contains, all]

theorem all_adding (r : CheckRepository) (slug : String) (check : Check) :
    (r.adding slug check).all.Perm ((slug, check) :: r.all) := by
  rw [adding]
  cases check.mode with
  | static => simp [all, List.perm_middle]
  | runtime => simp [all, ← List.append_assoc, List.perm_append_singleton]

/-- No slug occurs twice, in one mode or in both. -/
def Distinct (r : CheckRepository) : Prop := (r.all.map Prod.fst).Nodup

theorem Distinct.attempt (distinct : r.Distinct) (call : String × Check) : (r.attempt call).2.Distinct := by
  by_cases succeeds : (r.attempt call).1 = none
  · obtain ⟨new, changed⟩ := attempt_of_succeeds succeeds
    have absent : call.1 ∉ r.all.map Prod.fst := fun taken => by simp [contains_iff.mpr taken] at new
    rw [changed]
    exact ((all_adding r call.1 call.2).map Prod.fst).nodup_iff.mpr (List.nodup_cons.mpr ⟨absent, distinct⟩)
  · rw [attempt_of_fails succeeds]
    exact distinct

/-! ## Calls one after the other -/

/-- The repository that calls leave. -/
def after (r : CheckRepository) (calls : List (String × Check)) : CheckRepository :=
  calls.foldl (fun r call => (r.attempt call).2) r

/-- The calls that succeed, in order. -/
def succeeding (r : CheckRepository) : List (String × Check) → List (String × Check)
  | [] => []
  | call :: rest =>
      match r.attempt call with
      | (none, changed) => call :: changed.succeeding rest
      | (some _, changed) => changed.succeeding rest

theorem after_cons (r : CheckRepository) (call : String × Check) (rest : List (String × Check)) :
    r.after (call :: rest) = (r.attempt call).2.after rest := rfl

theorem after_concat (r : CheckRepository) (calls : List (String × Check)) (call : String × Check) :
    r.after (calls ++ [call]) = ((r.after calls).attempt call).2 := by
  simp [after, List.foldl_append]

theorem succeeding_of_succeeds {call : String × Check} (succeeds : (r.attempt call).1 = none)
    (rest : List (String × Check)) :
    r.succeeding (call :: rest) = call :: (r.adding call.1 call.2).succeeding rest := by
  have answer : r.attempt call = (none, r.adding call.1 call.2) := Prod.ext succeeds (attempt_of_succeeds succeeds).2
  rw [succeeding, answer]

theorem succeeding_of_fails {call : String × Check} (fails : (r.attempt call).1 ≠ none)
    (rest : List (String × Check)) : r.succeeding (call :: rest) = r.succeeding rest := by
  obtain ⟨e, failed⟩ := Option.ne_none_iff_exists'.mp fails
  have answer : r.attempt call = (some e, r) := Prod.ext failed (attempt_of_fails fails)
  rw [succeeding, answer]

/-- Calls add those of them that succeed, each behind the others of its mode. -/
theorem after_eq (r : CheckRepository) (calls : List (String × Check)) :
    r.after calls =
      { staticChecks := r.staticChecks ++ (r.succeeding calls).filter fun call => call.2.mode == .static
        runtimeChecks := r.runtimeChecks ++ (r.succeeding calls).filter fun call => call.2.mode == .runtime } := by
  induction calls generalizing r with
  | nil => simp [after, succeeding]
  | cons call rest inductionHypothesis =>
    rw [after_cons]
    by_cases succeeds : (r.attempt call).1 = none
    · rw [(attempt_of_succeeds succeeds).2, succeeding_of_succeeds succeeds, inductionHypothesis, adding]
      cases mode : call.2.mode <;> simp [mode]
    · rw [attempt_of_fails succeeds, succeeding_of_fails succeeds, inductionHypothesis]

theorem Distinct.after (distinct : r.Distinct) (calls : List (String × Check)) : (r.after calls).Distinct := by
  induction calls generalizing r with
  | nil => exact distinct
  | cons call rest inductionHypothesis => exact inductionHypothesis (distinct.attempt call)

theorem distinct_after (calls : List (String × Check)) : (after {} calls).Distinct :=
  Distinct.after (r := {}) List.nodup_nil calls

/-- Checks that are all registered are registered by calls of which none fails. -/
theorem after_of_registerAll {checks : List (String × Check)} {filled : CheckRepository}
    (registered : r.registerAll checks = .ok filled) : filled = r.after checks := by
  induction checks generalizing r with
  | nil => exact (Except.ok.inj registered).symm
  | cons call rest inductionHypothesis =>
    rw [registerAll, List.foldlM_cons] at registered
    cases first : r.register call.1 call.2 with
    | error e =>
      simp only [first] at registered
      cases registered
    | ok changed =>
      simp only [first] at registered
      have left : (r.attempt call).2 = changed := by simp [attempt, first]
      rw [after_cons, left]
      exact inductionHypothesis registered

/-! ## What a repository of calls is -/

/-- A call that succeeded used the slug, in whatever mode. -/
def Taken (calls : List (String × Check)) (slug : String) : Prop := ∃ call ∈ succeeding {} calls, call.1 = slug

theorem contains_after (calls : List (String × Check)) (slug : String) :
    (after {} calls).contains slug ↔ Taken calls slug := by
  rw [after_eq, contains_iff, all, List.mem_map]
  simp only [List.nil_append, List.mem_append, List.mem_filter, ← and_or_left, Taken]
  refine exists_congr fun call => and_congr_left' (and_iff_left ?_)
  cases call.2.mode <;> simp

/-- Which slugs are taken is decided by what was asked for: the first call with a
category takes its slug, and none takes it away. -/
theorem taken_iff {calls : List (String × Check)} {slug : String} :
    Taken calls slug ↔ ∃ call ∈ calls, call.1 = slug ∧ call.2.categories ≠ [] := by
  have generally (r : CheckRepository) : (r.after calls).contains slug ↔
      r.contains slug ∨ ∃ call ∈ calls, call.1 = slug ∧ call.2.categories ≠ [] := by
    induction calls generalizing r with
    | nil => simp [after]
    | cons call rest inductionHypothesis =>
      rw [after_cons, inductionHypothesis, attempt_eq, List.exists_mem_cons_iff]
      split_ifs with taken missing
      · -- a slug that is taken stays so, whatever the call that was refused had
        by_cases same : call.1 = slug
        · simp [← same, taken]
        · simp [same]
      · simp [missing]
      · simp [contains_adding, missing, or_assoc]
  rw [← contains_after, generally]
  simp [contains]

/-- The checks that flags ask for among those that were registered. -/
def wanted (flags : CheckFlags) (registered : List (String × Check)) (mode : ExecutionMode) : List (String × Check) :=
  registered.filter fun call => call.2.mode == mode && (flags.experimental || call.2.stability == .stable)

/-- What a repository is after calls, and what one more call does to it. -/
structure Registers (earlier : List (String × Check)) : Prop where
  taken : ∀ slug, Taken earlier slug ↔ ∃ call ∈ earlier, call.1 = slug ∧ call.2.categories ≠ []
  duplicate : ∀ call, ((after {} earlier).attempt call).1 = some (.duplicateCheck call.1) ↔ Taken earlier call.1
  missing : ∀ call, ((after {} earlier).attempt call).1 = some (.missingCategories call.1) ↔
    ¬ Taken earlier call.1 ∧ call.2.categories = []
  succeeds : ∀ call, ((after {} earlier).attempt call).1 = none ↔ ¬ Taken earlier call.1 ∧ call.2.categories ≠ []
  unchanged : ∀ call, ((after {} earlier).attempt call).1 ≠ none → after {} (earlier ++ [call]) = after {} earlier
  distinct : (after {} earlier).Distinct
  /-- Each check that was registered, and no other, is selected by flags that ask for it. -/
  selected : ∀ flags, ((after {} earlier).select flags).entries =
    (if flags.static then wanted flags (succeeding {} earlier) .static else []) ++
      if flags.runtime then wanted flags (succeeding {} earlier) .runtime else []

theorem select_after (calls : List (String × Check)) (flags : CheckFlags) :
    ((after {} calls).select flags).entries =
      (if flags.static then wanted flags (succeeding {} calls) .static else []) ++
        if flags.runtime then wanted flags (succeeding {} calls) .runtime else [] := by
  have wanted_eq (mode : ExecutionMode) : wanted flags (succeeding {} calls) mode =
      ((succeeding {} calls).filter fun call => call.2.mode == mode).filter fun entry =>
        flags.experimental || !entry.2.isExperimental := by
    rw [wanted, List.filter_filter]
    have stable (check : Check) : (!check.isExperimental) = (check.stability == .stable) := by
      rw [Check.isExperimental]
      cases check.stability <;> rfl
    exact List.filter_congr fun call _ => by rw [stable, Bool.and_comm]
  rw [wanted_eq, wanted_eq, after_eq, select, List.filter_append]
  split_ifs <;> rfl

/-- Whatever calls are made on an empty repository: a taken slug is refused in
either mode, then a check without a category, each without a trace, and what is
selected are the checks that were registered. -/
theorem registers_calls (earlier : List (String × Check)) : Registers earlier where
  taken _ := taken_iff
  duplicate call := by
    rw [attempt_eq, ← contains_after]
    split_ifs <;> simp [*]
  missing call := by
    rw [attempt_eq, ← contains_after]
    split_ifs <;> simp [*]
  succeeds call := by
    rw [attempt_eq, ← contains_after]
    split_ifs <;> simp [*]
  unchanged call fails := by rw [after_concat, attempt_of_fails fails]
  distinct := distinct_after earlier
  selected flags := select_after earlier flags

end CheckRepository

end PluginAudit
