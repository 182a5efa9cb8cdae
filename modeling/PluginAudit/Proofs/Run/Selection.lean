import PluginAudit.Proofs.Audit
import PluginAudit.Proofs.Rehearsal
import PluginAudit.Run

/-!
# Which checks are selected

The rule by which the checks of a run are chosen, apart from the passes over the
collection that carry it out: a slug that names no check is refused first, then
a check that was asked for and cannot run, and what is left are the wanted
checks that can run.
-/

namespace PluginAudit

/-- Why a check cannot run: for a reason of its own, or because it needs
requests and the site answers none. -/
inductive Check.Unavailable (world : World) (check : Check) : String → Prop
  | own {reason} : check.unavailability world = some reason → Unavailable world check reason
  | unanswered : check.unavailability world = none → check.mode = .runtime →
      world.host.answersRequests = false →
      Unavailable world check "the host cannot simulate front-end requests"

theorem Check.obstacle_eq_some {world : World} {check : Check} {reason : String} :
    check.obstacle world = some reason ↔ check.Unavailable world reason := by
  unfold obstacle isRuntime
  constructor
  · intro found
    split at found
    · rename_i own
      exact .own (own.trans found)
    · rename_i none
      split at found
      · rename_i unanswered
        simp only [Bool.and_eq_true, beq_iff_eq, Bool.not_eq_true'] at unanswered
        cases found
        exact .unanswered none unanswered.1 unanswered.2
      · cases found
  · intro unavailable
    cases unavailable with
    | own own => simp [own]
    | unanswered none runtime silent => simp [none, runtime, silent]

def Check.Available (world : World) (check : Check) : Prop :=
  ∀ reason, ¬ check.Unavailable world reason

theorem Check.isNone_obstacle {world : World} {check : Check} :
    (check.obstacle world).isNone ↔ check.Available world := by
  simp only [Option.isNone_iff_eq_none, Option.eq_none_iff_forall_ne_some, ne_eq,
    Check.obstacle_eq_some, Available]

instance (world : World) (check : Check) : Decidable (check.Available world) :=
  decidable_of_iff _ Check.isNone_obstacle

namespace Selection

variable {s : Selection} {world : World} {all : CheckCollection}

/-! ## The rule -/

/-- The checks that there are for a selection, in their order. -/
def offered (s : Selection) (all : CheckCollection) : List (String × Check) :=
  all.entries.filter fun entry =>
    decide (s.includesExperimental = true ∨ entry.2.stability = .stable)

/-- A check is wanted if its slug is listed and not excluded and one of its
categories is listed.  An empty list leaves the choice open. -/
structure Wants (s : Selection) (entry : String × Check) : Prop where
  listed : s.checks = [] ∨ entry.1 ∈ s.checks
  notExcluded : entry.1 ∉ s.excluded
  categorized : s.categories = [] ∨ ∃ category ∈ entry.2.categories, category ∈ s.categories

instance (s : Selection) (entry : String × Check) : Decidable (s.Wants entry) :=
  decidable_of_iff
    ((s.checks = [] ∨ entry.1 ∈ s.checks) ∧ entry.1 ∉ s.excluded ∧
      (s.categories = [] ∨ ∃ category ∈ entry.2.categories, category ∈ s.categories))
    ⟨fun ⟨listed, notExcluded, categorized⟩ => ⟨listed, notExcluded, categorized⟩,
      fun ⟨listed, notExcluded, categorized⟩ => ⟨listed, notExcluded, categorized⟩⟩

def wanted (s : Selection) (all : CheckCollection) : List (String × Check) :=
  (s.offered all).filter fun entry => decide (s.Wants entry)

/-- Every slug that is asked for names one of the checks that there are. -/
def Known (s : Selection) (all : CheckCollection) : Prop :=
  ∀ slug ∈ s.checks, slug ∈ (s.offered all).map Prod.fst

instance (s : Selection) (all : CheckCollection) : Decidable (s.Known all) :=
  inferInstanceAs (Decidable (∀ slug ∈ s.checks, slug ∈ (s.offered all).map Prod.fst))

/-- What comes of a selection. -/
inductive Selects (s : Selection) (world : World) (all : CheckCollection) :
    Except Error CheckCollection → Prop
  /-- A slug names no check.  The first of them is given. -/
  | unknown {front slug back} : s.checks = front ++ slug :: back →
      (∀ other ∈ front, other ∈ (s.offered all).map Prod.fst) →
      slug ∉ (s.offered all).map Prod.fst →
      Selects s world all (.error (.unknownCheck slug))
  /-- A wanted check was asked for and cannot run.  The first of them is given. -/
  | unavailable {front slug check back reason} : s.Known all →
      s.wanted all = front ++ (slug, check) :: back →
      (∀ entry ∈ front, entry.1 ∈ s.checks → entry.2.Available world) →
      slug ∈ s.checks → check.Unavailable world reason →
      Selects s world all (.error (.checkUnavailable slug reason))
  /-- The wanted checks that can run are selected. -/
  | selected : s.Known all →
      (∀ entry ∈ s.wanted all, entry.1 ∈ s.checks → entry.2.Available world) →
      Selects s world all
        (.ok ⟨(s.wanted all).filter fun entry => decide (entry.2.Available world)⟩)

/-! ## The passes over the collection -/

theorem entries_admitted (s : Selection) (all : CheckCollection) :
    (s.admitted all).entries = s.offered all := by
  unfold admitted offered
  cases experimental : s.includesExperimental with
  | true => simp
  | false =>
    refine List.filter_congr fun entry _ => ?_
    unfold Check.isExperimental
    cases stability : entry.2.stability <;> simp [stability]

theorem contains_admitted {slug : String} :
    (s.admitted all).contains slug ↔ slug ∈ (s.offered all).map Prod.fst := by
  unfold CheckCollection.contains CheckCollection.get?
  rw [entries_admitted, Option.isSome_iff_ne_none, ne_eq, Assoc.get?_eq_none]
  simp

/-- The passes over the slugs, the excluded slugs and the categories leave the
wanted checks. -/
theorem candidates_of_known (known : s.Known all) : s.candidates all = .ok ⟨s.wanted all⟩ := by
  have noneMissing : s.checks.find? (fun slug => !(s.admitted all).contains slug) = none := by
    refine List.find?_eq_none.mpr fun slug member => ?_
    simpa using contains_admitted.mpr (known slug member)
  have passes (entry : String × Check) :
      decide (s.Wants entry) =
        ((s.checks.isEmpty || s.checks.contains entry.1) && (!s.excluded.contains entry.1 &&
          (s.categories.isEmpty || entry.2.categories.any s.categories.contains))) := by
    rw [Bool.eq_iff_iff]
    simp only [decide_eq_true_eq, Bool.and_eq_true, Bool.or_eq_true, List.isEmpty_iff,
      List.contains_iff_mem, Bool.not_eq_true', List.any_eq_true, ← Bool.not_eq_true]
    exact ⟨fun wants => ⟨wants.listed, wants.notExcluded, wants.categorized⟩,
      fun ⟨listed, notExcluded, categorized⟩ => ⟨listed, notExcluded, categorized⟩⟩
  unfold candidates CheckCollection.requiring
  rw [noneMissing]
  simp only [Except.map, Except.ok.injEq]
  -- an empty list stands for no pass at all, so both cases are looked at
  unfold wanted CheckCollection.including CheckCollection.excluding CheckCollection.inCategories
  simp only [CheckCollection.filter, passes, ← entries_admitted]
  cases slugs : s.checks.isEmpty <;> cases categories : s.categories.isEmpty <;>
    simp [List.filter_filter, Bool.and_comm, Bool.and_assoc]

theorem candidates_of_unknown {front back : List String} {slug : String}
    (split : s.checks = front ++ slug :: back)
    (before : ∀ other ∈ front, other ∈ (s.offered all).map Prod.fst)
    (absent : slug ∉ (s.offered all).map Prod.fst) :
    s.candidates all = .error (.unknownCheck slug) := by
  have missing : s.checks.find? (fun slug => !(s.admitted all).contains slug) = some slug := by
    refine List.find?_eq_some_iff_append.mpr ⟨?_, front, back, split, fun other member => ?_⟩
    · simpa using mt contains_admitted.mp absent
    · simpa using contains_admitted.mpr (before other member)
  -- the slugs are looked up before any pass
  unfold candidates CheckCollection.requiring
  rw [missing]
  rfl

theorem firstObstacle?_eq_none {entries : List (String × Check)} :
    s.firstObstacle? world entries = none ↔
      ∀ entry ∈ entries, entry.1 ∈ s.checks → entry.2.Available world := by
  induction entries with
  | nil => simp [firstObstacle?]
  | cons entry rest inductionHypothesis =>
    obtain ⟨slug, check⟩ := entry
    rw [List.forall_mem_cons, ← inductionHypothesis, ← Check.isNone_obstacle, firstObstacle?]
    cases check.obstacle world with
    | none => simp
    | some reason => by_cases asked : slug ∈ s.checks <;> simp [asked]

theorem firstObstacle?_append {front back : List (String × Check)}
    (clear : ∀ entry ∈ front, entry.1 ∈ s.checks → entry.2.Available world) :
    s.firstObstacle? world (front ++ back) = s.firstObstacle? world back := by
  induction front with
  | nil => rfl
  | cons entry rest inductionHypothesis =>
    obtain ⟨slug, check⟩ := entry
    obtain ⟨first, others⟩ := List.forall_mem_cons.mp clear
    rw [List.cons_append, firstObstacle?, inductionHypothesis others]
    cases blocked : check.obstacle world with
    | none => rfl
    | some reason =>
      -- a check that cannot run is passed over only if nobody asked for it
      have notAsked : slug ∉ s.checks := fun asked =>
        first asked reason (Check.obstacle_eq_some.mp blocked)
      simp [notAsked]

/-- The passes carry out the rule. -/
theorem select_of_selects {outcome : Except Error CheckCollection}
    (selects : s.Selects world all outcome) : s.select world all = outcome := by
  cases selects with
  | unknown split before absent => simp [select, candidates_of_unknown split before absent]
  | unavailable known split clear asked unavailable =>
    have blocked := Check.obstacle_eq_some.mpr unavailable
    rw [select, candidates_of_known known]
    simp [split, firstObstacle?_append clear, firstObstacle?, blocked, asked]
  | selected known clear =>
    rw [select, candidates_of_known known]
    simp only [firstObstacle?_eq_none.mpr clear, CheckCollection.filter, ← Check.isNone_obstacle,
      Bool.decide_eq_true]

/-- The rule gives an outcome for every selection. -/
theorem exists_selects (s : Selection) (world : World) (all : CheckCollection) :
    ∃ outcome, s.Selects world all outcome := by
  cases missing : s.checks.find? fun slug => decide (slug ∉ (s.offered all).map Prod.fst) with
  | some slug =>
    obtain ⟨absent, front, back, split, before⟩ := List.find?_eq_some_iff_append.mp missing
    exact ⟨_, .unknown split (fun other member => by simpa using before other member)
      (by simpa using absent)⟩
  | none =>
    have known : s.Known all := fun slug member => by
      simpa using List.find?_eq_none.mp missing slug member
    cases blocked : (s.wanted all).find? fun entry =>
        decide (entry.1 ∈ s.checks) && !decide (entry.2.Available world) with
    | none =>
      refine ⟨_, .selected known fun entry member asked => ?_⟩
      simpa [asked] using List.find?_eq_none.mp blocked entry member
    | some entry =>
      obtain ⟨slug, check⟩ := entry
      obtain ⟨blocks, front, back, split, before⟩ := List.find?_eq_some_iff_append.mp blocked
      simp only [Bool.and_eq_true, decide_eq_true_eq, Bool.not_eq_true',
        decide_eq_false_iff_not] at blocks
      obtain ⟨asked, notAvailable⟩ := blocks
      obtain ⟨reason, unavailable⟩ : ∃ reason, check.Unavailable world reason := by
        simpa [Check.Available] using notAvailable
      refine ⟨_, .unavailable known split (fun other member otherAsked => ?_) asked unavailable⟩
      simpa [otherAsked] using before other member

theorem select_eq_iff {outcome : Except Error CheckCollection} :
    s.select world all = outcome ↔ s.Selects world all outcome := by
  refine ⟨?_, select_of_selects⟩
  rintro rfl
  obtain ⟨outcome, selects⟩ := exists_selects s world all
  rwa [select_of_selects selects]

end Selection

/-! ## The checks of a run -/

namespace Audit

theorem runIn_checks_of_extend {audit : Audit} (unknown : audit.available = none)
    {world after : World} {all : CheckCollection}
    (extended : (extend audit.extensions
      (audit.repository.select (CheckFlags.all.withExperimental true))).runIn world = (.ok all, after))
    (categorized : ∀ entry ∈ all.entries, entry.2.categories ≠ []) :
    audit.checks.runIn world = (.ok (all, { audit with available := some all }), after) := by
  have noneBare : all.entries.find? (fun entry => entry.2.categories.isEmpty) = none := by
    refine List.find?_eq_none.mpr fun entry member => ?_
    simpa using categorized entry member
  have required : requireCategories all = .ok all := by
    unfold requireCategories
    rw [noneBare]
  simp only [checks, unknown, Act.runIn_bind, extended, required, Act.runIn_liftM, Act.runIn_pure]

end Audit

namespace Run

variable {r : Run} {world after : World}

/-- Where the plugin is found and the extensions succeed, the outcome is that of
the selection among the extended checks. -/
theorem outcome_checksToRun {plugin basename : String} {all : CheckCollection}
    (confirmed : r.confirmedPlugin = .ok plugin) (found : basenameOf plugin world = .ok basename)
    (unresolved : r.target = none)
    (extended : (Audit.extend r.extensions
      (r.repository.select (CheckFlags.all.withExperimental true))).runIn world = (.ok all, after))
    (categorized : ∀ entry ∈ all.entries, entry.2.categories ≠ []) :
    (r.checksToRun world).outcome = r.selection.select after all := by
  have checks : (Audit.checks ⟨contextOf basename world.host, r.repository, r.extensions, none⟩).runIn
      world = _ := Audit.runIn_checks_of_extend rfl extended categorized
  unfold checksToRun resolve
  simp only [confirmed, unresolved, found]
  unfold findTarget
  rw [Act.runIn_eq]
  simp only [checks]
  cases r.selection.select after all <;> rfl

/-- The checks of a run are those of the rule: which slug or check is refused, and
which checks are taken, in which order.  What is excluded, or left out for its
categories, is never refused for being unavailable. -/
theorem checksToRun_eq_iff_selects (r : Run) (world after : World) (plugin basename : String)
    (all : CheckCollection) (outcome : Except Error CheckCollection)
    (confirmed : r.confirmedPlugin = .ok plugin) (found : basenameOf plugin world = .ok basename)
    (unresolved : r.target = none)
    (extended : (Audit.extend r.extensions
      (r.repository.select (CheckFlags.all.withExperimental true))).runIn world = (.ok all, after))
    (categorized : ∀ entry ∈ all.entries, entry.2.categories ≠ []) :
    ((r.checksToRun world).outcome = outcome ↔ r.selection.Selects after all outcome) ∧
      ∀ slug reason, (r.checksToRun world).outcome = .error (.checkUnavailable slug reason) →
        slug ∉ r.selection.excluded ∧
          ∃ check, (slug, check) ∈ all.entries ∧ check.Unavailable after reason ∧
            (r.selection.categories = [] ∨
              ∃ category ∈ check.categories, category ∈ r.selection.categories) := by
  have same := outcome_checksToRun confirmed found unresolved extended categorized
  refine ⟨by rw [same, Selection.select_eq_iff], fun slug reason refused => ?_⟩
  rw [same, Selection.select_eq_iff] at refused
  cases refused with
  | @unavailable _ _ check _ _ _ split _ _ unavailable =>
    have member : (slug, check) ∈ r.selection.wanted all := by simp [split]
    obtain ⟨offered, wants⟩ := List.mem_filter.mp member
    have wants : r.selection.Wants (slug, check) := of_decide_eq_true wants
    exact ⟨wants.notExcluded, check, List.mem_of_mem_filter offered, unavailable, wants.categorized⟩

/-- Of three checks that are asked for by name the first is excluded, the second
can run and the third needs requests. -/
theorem checksToRun_eq_iff_selects_silentSite :
    let broken : Check :=
      { Rehearsal.visitor "late" .static with unavailability := fun _ => some "no tool" }
    let request : RunRequest :=
      { Rehearsal.visitRequest with checks := ["front", "files", "late"], excluded := ["late"] }
    let extension : Extension :=
      Rehearsal.extension fun checks => .ok ⟨("late", broken) :: checks.entries⟩
    let simulation : Simulation := { plugins := Rehearsal.busyPlugins, answersRequests := false }
    let world : World := { disk := .empty, host := .simulated ⟨"site"⟩ simulation }
    ((Run.ofRequest Rehearsal.visits request {} [extension]).checksToRun world).outcome =
      .error (.checkUnavailable "front" "the host cannot simulate front-end requests") := by
  intro broken request extension simulation world
  let after : World := { world with journal := ["extension"] }
  let all : CheckCollection :=
    ⟨("late", broken) :: (Rehearsal.visits.staticChecks ++ Rehearsal.visits.runtimeChecks)⟩
  let r := Run.ofRequest Rehearsal.visits request {} [extension]
  have wanted : r.selection.wanted all = [("files", Rehearsal.visitor "files" .static)] ++
      ("front", Rehearsal.visitor "front" .runtime) :: [] := rfl
  have files : (Rehearsal.visitor "files" .static).Available after := Check.isNone_obstacle.mp rfl
  have selects : r.selection.Selects after all
      (.error (.checkUnavailable "front" "the host cannot simulate front-end requests")) :=
    .unavailable (by decide) wanted (by simpa using fun _ => files) (by decide)
      (.unanswered rfl rfl rfl)
  have categorized : ∀ entry ∈ all.entries, entry.2.categories ≠ [] := by
    simp [all, broken, Rehearsal.visits, Rehearsal.visitor]
  exact (checksToRun_eq_iff_selects r world after "foo/foo.php" "foo/foo.php" all _ rfl rfl rfl rfl
    categorized).1.mpr selects

end Run

end PluginAudit
