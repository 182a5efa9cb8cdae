import PluginAudit.Proofs.Run.Lifecycle

/-!
# Running checks by their slugs

A list of slugs stands for the checks that have them, each once, in the order
they are first named in; a slug that no check has stands for nothing.  Running
such a list is checking these checks in order, up to the first that fails.
-/

namespace PluginAudit

open RunEvent (Happen)

/-! ## The checks that slugs name -/

namespace CheckCollection

theorem nodup_eraseDups (items : List String) : items.eraseDups.Nodup := by
  cases items with
  | nil => exact .nil
  | cons item rest =>
    rw [List.eraseDups_cons]
    refine List.nodup_cons.mpr ⟨?_, nodup_eraseDups _⟩
    simp [List.mem_eraseDups]
termination_by items.length
decreasing_by exact Nat.lt_succ_of_le (List.length_filter_le _ _)

variable {all : CheckCollection} {slug : String} {slugs : List String}

/-- The slugs that checks have, each once, in the order they are first named in. -/
def knownSlugs (all : CheckCollection) (slugs : List String) : List String :=
  (slugs.filter all.contains).eraseDups

/-- The checks that slugs name. -/
def named (all : CheckCollection) (slugs : List String) : List (String × Check) :=
  (all.knownSlugs slugs).filterMap fun slug => (all.get? slug).map (slug, ·)

theorem mem_knownSlugs : slug ∈ all.knownSlugs slugs ↔ slug ∈ slugs ∧ all.contains slug := by
  simp [knownSlugs]

theorem knownSlugs_cons_known (known : all.contains slug) (rest : List String) :
    all.knownSlugs (slug :: rest) = slug :: all.knownSlugs (rest.filter (· != slug)) := by
  have others : (rest.filter all.contains).filter (fun other => !other == slug) =
      (rest.filter (· != slug)).filter all.contains := by
    simp only [List.filter_filter, Bool.and_comm, bne]
  rw [knownSlugs, List.filter_cons_of_pos known, List.eraseDups_cons, others]
  rfl

theorem knownSlugs_cons_unknown (unknown : ¬ all.contains slug) (rest : List String) :
    all.knownSlugs (slug :: rest) = all.knownSlugs rest := by
  rw [knownSlugs, List.filter_cons_of_neg unknown]
  rfl

/-- A slug that no check has can be left out. -/
theorem knownSlugs_filter_unknown (unknown : ¬ all.contains slug) (rest : List String) :
    all.knownSlugs (rest.filter (· != slug)) = all.knownSlugs rest := by
  have same : (rest.filter (· != slug)).filter all.contains = rest.filter all.contains := by
    rw [List.filter_filter]
    refine List.filter_congr fun other _ => ?_
    by_cases equal : other = slug
    · subst equal
      simp [unknown]
    · simp [equal]
  rw [knownSlugs, same]
  rfl

/-- No check is named twice. -/
theorem nodup_knownSlugs (all : CheckCollection) (slugs : List String) :
    (all.knownSlugs slugs).Nodup := nodup_eraseDups _

theorem slugs_named (all : CheckCollection) (slugs : List String) :
    (all.named slugs).map Prod.fst = all.knownSlugs slugs := by
  have each : ∀ slug ∈ all.knownSlugs slugs,
      ((all.get? slug).map (slug, ·)).map Prod.fst = some slug := by
    intro slug member
    obtain ⟨check, found⟩ := Option.isSome_iff_exists.mp (mem_knownSlugs.mp member).2
    simp [found]
  rw [named, List.map_filterMap, List.filterMap_congr each, List.filterMap_some]

theorem named_cons_known {check : Check} (found : all.get? slug = some check) (rest : List String) :
    all.named (slug :: rest) = (slug, check) :: all.named (rest.filter (· != slug)) := by
  have known : all.contains slug := Option.isSome_iff_exists.mpr ⟨check, found⟩
  simp [named, knownSlugs_cons_known known, found]

theorem named_cons_unknown (missing : all.get? slug = none) (rest : List String) :
    all.named (slug :: rest) = all.named (rest.filter (· != slug)) := by
  have unknown : ¬ all.contains slug := by simp [contains, missing]
  rw [named, named, knownSlugs_cons_unknown unknown, knownSlugs_filter_unknown unknown]

end CheckCollection

/-! ## What checking runs -/

namespace RunEvent

/-- The slug of the check that is run by an event. -/
def ran? : RunEvent → Option String
  | ran slug _ _ => some slug
  | _ => none

/-- What is found by an event. -/
def findings : RunEvent → List Finding
  | ran _ _ outcome => outcome.findings
  | _ => []

end RunEvent

variable {slug : String} {check : Check} {entries : List (String × Check)}
  {events : List RunEvent} {found : List Finding} {failure : Option Error}

/-- What an attempt finds is what the run of the check finds. -/
theorem Attempt.found_eq (attempt : Attempt slug check events found failure) :
    found = events.flatMap RunEvent.findings := by
  cases attempt <;> simp [RunEvent.findings]

/-- An attempt runs its check at most once, and runs it unless it fails. -/
theorem Attempt.ran (attempt : Attempt slug check events found failure) :
    events.filterMap RunEvent.ran? = [slug] ∨
      events.filterMap RunEvent.ran? = [] ∧ failure.isSome := by
  cases attempt with
  | plain => exact .inl rfl
  | unprepared => exact .inr ⟨rfl, rfl⟩
  | between => exact .inl rfl

/-- A check whose own preparation cannot be made is not run. -/
theorem Attempt.of_refused (attempt : Attempt slug check events found failure) {name : String}
    {own : Preparation} {e : Error} (refused : .ownPrepared name own (.error e) ∈ events) :
    name = slug ∧ events.filterMap RunEvent.ran? = [] ∧ failure = some e := by
  cases attempt <;> simp_all [RunEvent.ran?]

theorem Checking.found_eq (checking : Checking entries events found failure) :
    found = events.flatMap RunEvent.findings := by
  induction checking with
  | done => rfl
  | next attempt _ inductionHypothesis =>
    rw [List.flatMap_append, ← attempt.found_eq, ← inductionHypothesis]
  | broken attempt => exact attempt.found_eq

/-- The checks that are run are the first of those to check, and all of them where none
fails. -/
theorem Checking.ran (checking : Checking entries events found failure) :
    events.filterMap RunEvent.ran? <+: entries.map Prod.fst ∧
      (failure = none → events.filterMap RunEvent.ran? = entries.map Prod.fst) := by
  induction checking with
  | done => simp
  | next attempt _ inductionHypothesis =>
    obtain ⟨isPrefix, whole⟩ := inductionHypothesis
    rcases attempt.ran with ran | ⟨-, failed⟩
    · rw [List.filterMap_append, ran]
      exact ⟨List.cons_prefix_cons.mpr ⟨rfl, isPrefix⟩, fun none => by rw [whole none]; rfl⟩
    · cases failed
  | broken attempt =>
    refine ⟨?_, nofun⟩
    rcases attempt.ran with ran | ⟨ran, -⟩ <;> rw [ran]
    · exact List.cons_prefix_cons.mpr ⟨rfl, List.nil_prefix⟩
    · exact List.nil_prefix

/-- Where no slug is there twice, a check whose own preparation cannot be made is not run at
all, and the failure of the preparation is given. -/
theorem Checking.of_refused (checking : Checking entries events found failure)
    (distinct : (entries.map Prod.fst).Nodup) {own : Preparation} {e : Error}
    (refused : .ownPrepared slug own (.error e) ∈ events) :
    slug ∈ entries.map Prod.fst ∧ slug ∉ events.filterMap RunEvent.ran? ∧ failure = some e := by
  induction checking with
  | done => cases refused
  | next attempt _ inductionHypothesis =>
    obtain ⟨new, others⟩ := List.nodup_cons.mp distinct
    rcases List.mem_append.mp refused with first | later
    · cases (attempt.of_refused first).2.2
    · obtain ⟨member, notRan, given⟩ := inductionHypothesis others later
      refine ⟨List.mem_cons_of_mem _ member, ?_, given⟩
      rcases attempt.ran with ran | ⟨-, failed⟩
      · -- the check that was run before is another one
        rw [List.filterMap_append, ran, List.singleton_append, List.mem_cons, not_or]
        exact ⟨fun same => new (same ▸ member), notRan⟩
      · cases failed
  | broken attempt =>
    obtain ⟨rfl, notRan, given⟩ := attempt.of_refused refused
    exact ⟨List.mem_cons_self, by simp [notRan], given⟩

/-! ## Running slugs -/

namespace Audit

variable {all : CheckCollection} {world ready : World}

/-- Slugs that were not seen before stand for the checks that they name. -/
theorem runSlugs_eq_runEntries_named (slugs seen : List String) (findings : Findings)
    (world : World) :
    runSlugs all seen findings world slugs =
      runEntries findings world (all.named (slugs.filter (· ∉ seen))) := by
  induction slugs generalizing seen findings world with
  | nil => rfl
  | cons slug rest inductionHypothesis =>
    by_cases before : slug ∈ seen
    · have rest_eq : (slug :: rest).filter (· ∉ seen) = rest.filter (· ∉ seen) :=
        List.filter_cons_of_neg (by simpa using before)
      rw [runSlugs, if_pos (List.contains_iff_mem.mpr before), inductionHypothesis, rest_eq]
    · have kept : (slug :: rest).filter (· ∉ seen) = slug :: rest.filter (· ∉ seen) :=
        List.filter_cons_of_pos (by simpa using before)
      have others : (rest.filter (· ∉ seen)).filter (· != slug) =
          rest.filter (· ∉ slug :: seen) := by
        rw [List.filter_filter]
        refine List.filter_congr fun other _ => ?_
        by_cases same : other = slug <;> simp [same]
      rw [runSlugs, if_neg (List.contains_iff_mem.not.mpr before), kept]
      cases found : all.get? slug with
      | none =>
        dsimp only
        rw [inductionHypothesis, CheckCollection.named_cons_unknown found, others]
      | some check =>
        dsimp only
        rw [CheckCollection.named_cons_known found, others, runEntries]
        rcases runCheck slug check findings world with ⟨⟨given, failure⟩, after⟩
        cases failure with
        | some e => rfl
        | none => exact inductionHypothesis (slug :: seen) given after

/-- What running the checks that slugs name comes to. -/
structure NamedRun (context : PluginContext) (all : CheckCollection) (slugs : List String)
    (ready after : World) (events : List RunEvent) (failure : Option Error) : Prop where
  happen : Happen context ready events after
  /-- The checks that are named are tried in order, up to the first that fails. -/
  checking : Checking (all.named slugs) events (events.flatMap RunEvent.findings) failure
  /-- Those that are run are the first of the known ones. -/
  ran : events.filterMap RunEvent.ran? <+: all.knownSlugs slugs
  /-- Where none fails, all known ones are run. -/
  complete : failure = none → events.filterMap RunEvent.ran? = all.knownSlugs slugs
  /-- A check whose own preparation cannot be made is not run at all. -/
  refused : ∀ slug own e, .ownPrepared slug own (.error e) ∈ events →
    slug ∉ events.filterMap RunEvent.ran? ∧ failure = some e

theorem NamedRun.ofChecking {context : PluginContext} {slugs : List String} {after : World}
    (checking : Checking (all.named slugs) events found failure)
    (happen : Happen context ready events after) :
    NamedRun context all slugs ready after events failure := by
  have names := all.slugs_named slugs
  have distinct : ((all.named slugs).map Prod.fst).Nodup := names ▸ all.nodup_knownSlugs slugs
  obtain ⟨isPrefix, whole⟩ := checking.ran
  exact
    { happen
      checking := checking.found_eq ▸ checking
      ran := names ▸ isPrefix
      complete := names ▸ whole
      refused := fun slug own e isRefused => (checking.of_refused distinct isRefused).2 }

/-- Running a list of slugs goes through one sequence of events, and only one: the known checks,
each once and in the order they are first named in, up to the first that fails.  What their
runs found is recorded in order behind what was found before, and the first failure is
given. -/
theorem runInto_named {audit changed : Audit}
    (available : audit.checks.runIn world = (.ok (all, changed), ready)) (slugs : List String)
    (findings : Findings) :
    ∃ events failure after,
      audit.runInto slugs findings world =
        (⟨findings.addAll (events.flatMap RunEvent.findings), failure, changed⟩, after) ∧
      NamedRun findings.context all slugs ready after events failure ∧
      ∀ events' failure' after', NamedRun findings.context all slugs ready after' events' failure' →
        events' = events ∧ failure' = failure ∧ after' = after := by
  obtain ⟨events, found, failure, after, checking, happen, ran⟩ :=
    runEntries_checking (all.named slugs) findings ready
  obtain rfl := checking.found_eq
  refine ⟨events, failure, after, ?_, .ofChecking checking happen, fun events' failure' after' other => ?_⟩
  · have unseen : slugs.filter (· ∉ ([] : List String)) = slugs := by simp
    rw [runInto, available]
    dsimp only
    rw [runSlugs_eq_runEntries_named, unseen, ran]
  · obtain ⟨rfl, -, rfl⟩ := other.checking.deterministic checking other.happen happen
    exact ⟨rfl, rfl, other.happen.deterministic happen⟩

/-- Slugs with repetitions and one that no check has.  The preparation of the second check cannot
be undone, so the third one is not run. -/
theorem runInto_named_rehearsed :
    let users : RehearsedPreparation := { name := "users", failsToCleanUp := true }
    let check (slug : String) (own : Option Preparation) : Check :=
      { categories := [.general]
        preparation := own
        run := fun _ => Rehearsal.run slug none false }
    let all : CheckCollection :=
      ⟨[("first", check "first" none), ("second", check "second" (some users.prepare)),
        ("third", check "third" none)]⟩
    let world : World := { disk := .empty, host := .simulated ⟨"site"⟩ {} }
    let audit : Audit := { context := default, repository := {}, available := some all }
    let slugs := ["first", "missing", "first", "second", "third"]
    audit.checks.runIn world = (.ok (all, audit), world) ∧
    ∃ events failure after,
      audit.runInto slugs (.none default) world =
        (⟨(Findings.none default).addAll (events.flatMap RunEvent.findings), failure, audit⟩, after) ∧
      NamedRun default all slugs world after events failure ∧
      ∀ events' failure' after', NamedRun default all slugs world after' events' failure' →
        events' = events ∧ failure' = failure ∧ after' = after :=
  ⟨rfl, runInto_named rfl _ _⟩

end Audit

end PluginAudit
