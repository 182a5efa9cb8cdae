import PluginAudit.Audit
import PluginAudit.Proofs.Effect
import PluginAudit.Proofs.SortedList

/-!
# The checks of an audit

The checks of an audit have each property that those of the repository have and
that extensions keep.  Running them spares what each of them spares, and a list
of slugs stands for the checks that have them.
-/

namespace PluginAudit

variable {γ : Type} {view : World → γ} {property : CheckCollection → Prop}

/-! ## Properties of collections -/

/-- A property that each part of a collection has if the whole has it. -/
def CheckCollection.Hereditary (property : CheckCollection → Prop) : Prop :=
  ∀ {all part : CheckCollection}, part.entries.Sublist all.entries → property all → property part

/-- All checks of a collection have a property. -/
def CheckCollection.All (fits : Check → Prop) (checks : CheckCollection) : Prop :=
  ∀ entry ∈ checks.entries, fits entry.2

/-- No slug occurs twice. -/
def CheckCollection.Distinct (checks : CheckCollection) : Prop := checks.slugs.Nodup

theorem CheckCollection.hereditary_all (fits : Check → Prop) : Hereditary (All fits) :=
  fun part all entry member => all entry (part.subset member)

theorem CheckCollection.hereditary_distinct : Hereditary Distinct :=
  fun part distinct => distinct.sublist (part.map Prod.fst)

/-- An extension gives back a collection with a property where it is given
one. -/
def Extension.Keeps (property : CheckCollection → Prop) (extension : Extension) : Prop :=
  ∀ {checks changed world after}, property checks →
    (extension checks).runIn world = (.ok changed, after) → property changed

/-! ## Extending -/

namespace Audit

theorem extend_keeps {extensions : List Extension}
    (keeps : ∀ extension ∈ extensions, extension.Keeps property) {checks changed : CheckCollection}
    {world after : World} (holds : property checks)
    (ran : (extend extensions checks).runIn world = (.ok changed, after)) : property changed := by
  induction extensions generalizing checks world with
  | nil =>
    simp only [extend, Act.runIn_pure, Prod.mk.injEq, Except.ok.injEq] at ran
    exact ran.1 ▸ holds
  | cons extension rest inductionHypothesis =>
    simp only [extend, Act.runIn_bind] at ran
    cases first : (extension checks).runIn world with
    | mk outcome middle =>
      rw [first] at ran
      cases outcome with
      | error e => cases ran
      | ok extended =>
        have kept := keeps extension List.mem_cons_self holds first
        exact inductionHypothesis
          (fun other member => keeps other (List.mem_cons_of_mem extension member)) kept ran

theorem extend_spares {extensions : List Extension}
    (spares : ∀ extension ∈ extensions, extension.Spares view) (checks : CheckCollection) :
    Act.Spares view (extend extensions checks) := by
  induction extensions generalizing checks with
  | nil => exact .pure checks
  | cons extension rest inductionHypothesis =>
    exact .bind (spares extension List.mem_cons_self checks)
      (inductionHypothesis fun other member => spares other (List.mem_cons_of_mem extension member))

theorem requireCategories_eq {checks known : CheckCollection}
    (required : requireCategories checks = .ok known) : known = checks := by
  simp only [requireCategories] at required
  split at required
  · cases required
  · exact (Except.ok.inj required).symm

theorem runIn_checks_known {audit : Audit} {all : CheckCollection} (known : audit.available = some all)
    (world : World) : audit.checks.runIn world = (.ok (all, audit), world) := by
  simp [checks, known]

/-- The checks of an audit are those of the repository after all extensions, and
the audit keeps them. -/
theorem runIn_checks_new {audit changed : Audit} (unknown : audit.available = none)
    {world after : World} {all : CheckCollection}
    (ran : audit.checks.runIn world = (.ok (all, changed), after)) :
    changed = { audit with available := some all } ∧
      (extend audit.extensions
        (audit.repository.select (CheckFlags.all.withExperimental true))).runIn world =
          (.ok all, after) := by
  simp only [checks, unknown, Act.runIn_bind, Act.runIn_liftM] at ran
  split at ran
  · rename_i extended middle extensionsRan
    cases required : requireCategories extended with
    | error e => simp [required] at ran
    | ok known =>
      simp only [required, Act.runIn_pure, Prod.mk.injEq, Except.ok.injEq] at ran
      obtain ⟨⟨rfl, rfl⟩, rfl⟩ := ran
      exact ⟨rfl, requireCategories_eq required ▸ extensionsRan⟩
  · cases ran

theorem checks_spares {audit : Audit} (spares : ∀ extension ∈ audit.extensions, extension.Spares view) :
    Act.Spares view audit.checks := by
  unfold checks
  split
  · exact .pure _
  · refine .bind (extend_spares spares _) fun extended => .bind (fun world => ?_) fun known => .pure _
    simp

/-! ## Running -/

theorem runPlain_spares {check : Check} (spares : check.Spares view) (slug : String)
    (findings : Findings) (world : World) :
    view (runPlain slug check findings world).2 = view world :=
  spares.running findings.context world

theorem runCheck_spares {check : Check} (spares : check.Spares view) (slug : String)
    (findings : Findings) (world : World) :
    view (runCheck slug check findings world).2 = view world := by
  unfold runCheck
  split
  · exact runPlain_spares spares slug findings world
  · rename_i own isOwn
    have ownSpares := spares.own isOwn
    split
    · rename_i made
      exact ownSpares.making.of_runIn made
    · rename_i cleanup prepared made
      have before := ownSpares.making.of_runIn made
      have during := runPlain_spares spares slug findings prepared
      exact (ownSpares.undoing made _).trans (during.trans before)

/-- Whatever slugs are given, running them spares what all checks spare. -/
theorem runSlugs_spares {checks : CheckCollection} (spares : checks.All (Check.Spares view))
    (slugs seen : List String) (findings : Findings) (world : World) :
    view (runSlugs checks seen findings world slugs).2 = view world := by
  induction slugs generalizing seen findings world with
  | nil => rfl
  | cons slug rest inductionHypothesis =>
    unfold runSlugs
    split
    · exact inductionHypothesis seen findings world
    · split
      · exact inductionHypothesis (slug :: seen) findings world
      · rename_i check found
        have kept := runCheck_spares (spares _ (Assoc.mem_of_get?_eq_some found)) slug findings world
        split
        · rename_i ran
          simpa [ran] using kept
        · rename_i ran
          rw [ran] at kept
          exact (inductionHypothesis _ _ _).trans kept

/-- Run checks in order, up to the first that breaks. -/
def runEntries (findings : Findings) (world : World) :
    List (String × Check) → (Findings × Option Error) × World
  | [] => ((findings, none), world)
  | (slug, check) :: rest =>
      match runCheck slug check findings world with
      | ((findings, some e), world) => ((findings, some e), world)
      | ((findings, none), world) => runEntries findings world rest

/-- The slugs of some of the checks stand for just these checks. -/
theorem runSlugs_eq_runEntries {all : CheckCollection} (distinct : all.Distinct)
    {entries : List (String × Check)} (among : entries.Sublist all.entries) {seen : List String}
    (new : ∀ entry ∈ entries, entry.1 ∉ seen) (findings : Findings) (world : World) :
    runSlugs all seen findings world (entries.map Prod.fst) = runEntries findings world entries := by
  induction entries generalizing seen findings world with
  | nil => rfl
  | cons entry rest inductionHypothesis =>
    obtain ⟨slug, check⟩ := entry
    have found : all.get? slug = some check :=
      Assoc.get?_of_mem distinct (among.subset List.mem_cons_self)
    have unseen : seen.contains slug = false := by
      simpa using new (slug, check) List.mem_cons_self
    have restNew : ∀ other ∈ rest, other.1 ∉ slug :: seen := by
      intro other member
      have slugs : (slug :: rest.map Prod.fst).Nodup := (among.map Prod.fst).nodup distinct
      have different := (List.nodup_cons.mp slugs).1
      simp only [List.mem_cons, not_or]
      refine ⟨?_, new other (List.mem_cons_of_mem _ member)⟩
      rintro rfl
      exact different (List.mem_map_of_mem member)
    simp only [List.map_cons, runSlugs, unseen, Bool.false_eq_true, if_false, found, runEntries]
    rcases runCheck slug check findings world with ⟨⟨found, failure⟩, after⟩
    cases failure with
    | some e => rfl
    | none => exact inductionHypothesis ((List.sublist_cons_self _ _).trans among) restNew found after

end Audit

end PluginAudit
