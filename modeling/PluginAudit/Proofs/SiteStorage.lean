import PluginAudit.Proofs.Administration

/-!
# The site's own tables

What is stored under the site's own prefix outlasts every use of the runtime
environment exactly if the testing prefix is another one: nothing else keeps an
environment from being cleaned up on the site itself.
-/

namespace PluginAudit

open RuntimeEnvironment

namespace EnvironmentCall

/-- A call that sets up or cleans up under no other prefix. -/
def Under (pre : String) : EnvironmentCall → Prop
  | setUp other | cleanUp other => other = pre
  | usePrefix _ => True

/-- Calls in turn spare what the runtime environment under their prefix spares. -/
theorem performAll_spares {γ : Type} {view : World → γ} {pre : String}
    (unprefixed : World.Unprefixed view) (environment : RuntimeEnvironment.Spares pre view)
    {calls : List EnvironmentCall} (under : ∀ call ∈ calls, call.Under pre) (world : World) :
    view (performAll world calls) = view world := by
  refine performAll_keeps (fun later => view later = view world) (fun {later} call member kept => ?_) rfl
  have same := under call member
  cases call with
  | setUp other =>
    obtain rfl : other = pre := same
    exact (environment.setUp later).trans kept
  | cleanUp other =>
    obtain rfl : other = pre := same
    exact (environment.cleanUp later).trans kept
  | usePrefix next => exact (Host.useTablePrefix_spares unprefixed next later).trans kept

end EnvironmentCall

/-- What is stored under a prefix stays as it is, whatever is done with the runtime
environment, with a run or in a session under given settings, as long as the checks
themselves leave it. -/
structure RunSettings.Protects (settings : RunSettings) (pre : String) (world : World) : Prop where
  environment : ∀ calls : List EnvironmentCall,
    (∀ call ∈ calls, call.Under settings.testingPrefix) →
      (EnvironmentCall.performAll world calls).storageUnder pre = world.storageUnder pre
  runs : ∀ (repository : CheckRepository) (request : RunRequest) (extensions : List Extension)
    (calls : List RunCall),
    (∀ entry ∈ repository.staticChecks ++ repository.runtimeChecks,
        entry.2.Leaves (World.storageUnder pre)) →
    (∀ extension ∈ extensions,
        extension.Keeps (CheckCollection.All (Check.Leaves (World.storageUnder pre)))) →
    (∀ extension ∈ extensions, extension.Spares (World.storageUnder pre)) →
      let scene :=
        (RunCall.performAll ⟨Run.ofRequest repository request settings extensions, world⟩ calls).2
      scene.world.storageUnder pre = world.storageUnder pre ∧
        (scene.run.release scene.world).storageUnder pre = world.storageUnder pre
  sessions : ∀ (repository : CheckRepository) (requests : List AdminRequest),
    (∀ entry ∈ repository.staticChecks ++ repository.runtimeChecks,
        entry.2.Leaves (World.storageUnder pre)) →
      (Administration.answerAll { repository, settings } world requests).storageUnder pre =
        world.storageUnder pre

namespace RunSettings.Protects

variable {settings : RunSettings} {pre : String} {world : World}

theorem of_ne (different : pre ≠ settings.testingPrefix) : settings.Protects pre world := by
  have environment := spares_storageUnder different
  have unfiltered := World.unfiltered_storageUnder pre
  have unprefixed := World.unprefixed_storageUnder pre
  constructor
  case environment =>
    exact fun calls under => EnvironmentCall.performAll_spares unprefixed environment under world
  case runs =>
    intro repository request extensions calls leaving keeping sparing
    have start : Run.Sparing (World.storageUnder pre) (world.storageUnder pre)
        (Run.ofRequest repository request settings extensions) world :=
      .ofRequest leaving keeping sparing (fun _ => environment) world
    have held := (Run.invariant_sparing unfiltered unprefixed environment _).performAll
      (s := ⟨_, world⟩) ⟨start, rfl⟩ calls
    exact ⟨held.1.kept, held.1.release⟩
  case sessions =>
    intro repository requests leaving
    exact Administration.answerAll_spares unfiltered unprefixed environment leaving world requests

/-- Cleaning up takes the tables under the testing prefix, whoever installed them. -/
theorem ne_testingPrefix (protects : settings.Protects pre world) (lawful : world.host.Lawful)
    (tables : world.host.tablesUnder pre ≠ []) : pre ≠ settings.testingPrefix := by
  rintro rfl
  -- one cleanup is enough, without any setup before it
  have kept := protects.environment [.cleanUp settings.testingPrefix] (by simp [EnvironmentCall.Under])
  simp only [World.storageUnder, EnvironmentCall.host_performAll lawful, List.foldl_cons,
    List.foldl_nil, EnvironmentCall.hostAfter] at kept
  have none : world.host.tablesUnder settings.testingPrefix = [] := by
    simpa [Host.storageUnder, tablesUnder_stripped] using (congrArg Storage.tables kept).symm
  exact tables none

end RunSettings.Protects

/-- The site's own tables and the active plugins stored with them are safe from the
runtime environment, from runs and from sessions exactly if the testing prefix is
not the site's own. -/
theorem RunSettings.protects_site_iff (settings : RunSettings) (world : World)
    (lawful : world.host.Lawful) (tables : world.host.tablesUnder world.host.sitePrefix ≠ []) :
    settings.Protects world.host.sitePrefix world ↔
      world.host.sitePrefix ≠ settings.testingPrefix :=
  ⟨fun protects => protects.ne_testingPrefix lawful tables, .of_ne⟩

/-- Under the settings that are the default a simulated site is safe. -/
theorem RunSettings.protects_site_simulated :
    let world : World := { disk := .empty, host := .simulated ⟨"site"⟩ {} }
    ({} : RunSettings).Protects world.host.sitePrefix world := by
  intro world
  have tables : world.host.tablesUnder world.host.sitePrefix ≠ [] :=
    List.ne_nil_of_mem (Host.options_mem_fresh _ _ _ _)
  exact (RunSettings.protects_site_iff {} world (.simulated _ _) tables).mpr (by decide)

/-- Under the prefix of a simulated site nothing is installed, and then all tables
of the site are dropped together with the active plugins they store. -/
theorem RunSettings.site_lost_simulated :
    let world : World := { disk := .empty, host := .simulated ⟨"site"⟩ {} }
    let cleaned := EnvironmentCall.performAll world [.setUp "wp_", .cleanUp "wp_"]
    Host.isTablePrefix "wp_" ∧ world.host.sitePrefix = "wp_" ∧
      "wp_options" ∈ (world.storageUnder "wp_").tables ∧
      (world.storageUnder "wp_").activePlugins = some [] ∧
      cleaned.storageUnder "wp_" = ⟨[], none⟩ := by
  intro world cleaned
  have options : "wp_options" ∈ world.host.tablesUnder "wp_" := Host.options_mem_fresh _ _ _ _
  have lawful : world.host.Lawful := .simulated _ _
  have wellFormed : Host.isTablePrefix "wp_" := by decide
  have left : cleaned.host = stripped "wp_" world.host := by
    have host := EnvironmentCall.host_performAll lawful [.setUp "wp_", .cleanUp "wp_"]
    simpa [EnvironmentCall.hostAfter, wellFormed, equipped_of_tables (List.ne_nil_of_mem options)] using host
  have lost := storageUnder_stripped lawful.storage.ascending options
  exact ⟨wellFormed, rfl, options, rfl, by rwa [World.storageUnder, left]⟩

end PluginAudit
