import PluginAudit.Checks.HeaderFields
import PluginAudit.Checks.LinterRules
import PluginAudit.Checks.Obfuscation
import PluginAudit.Checks.PluginReadme
import PluginAudit.Checks.FileType
import PluginAudit.Checks.Trademarks
import PluginAudit.Checks.UnfilteredUploads
import PluginAudit.Proofs.Disk.Beside
import PluginAudit.Proofs.Preparation.Sparing
import PluginAudit.Proofs.Rehearsal
import PluginAudit.Proofs.Residue

/-!
# What checks look at

A check that reads files finds the same as long as the files of its plugin are the same, whatever
happens to the site.  A check that visits pages asks for demo posts, and finds the same as long as
the pages have the same addresses and load the same assets.  Neither leaves more behind than
records.
-/

namespace PluginAudit

open EnqueuedAssets (IsAssetCheck addresses demoPosts)

variable {check : Check} {context : PluginContext} {one other : World}

/-- Two trees with the same files of a plugin: one is the other, maybe with one more file, which
no path into the plugin leads to. -/
def PluginContext.SameFiles (context : PluginContext) (d grown : Disk) : Prop :=
  grown = d ∨ d.GainsBeside context grown

theorem PluginContext.SameFiles.congr {α : Type} {look : Disk → α} {d grown : Disk} (same : context.SameFiles d grown)
    (overlooks : d.GainsBeside context grown → look grown = look d) : look grown = look d := by
  rcases same with rfl | beside
  · rfl
  · exact overlooks beside

namespace World

/-- The world without records of what was requested and noted. -/
def quiet (world : World) : World :=
  { world with
    host := { world.host with runtime := world.host.runtime.recording world.host.runtime.insertions [] }
    journal := [] }

theorem unrequested_quiet : Unrequested quiet := by
  intro world visited
  simp only [quiet, Host.requesting]
  cases world.host.runtime <;> rfl

theorem files_of_quiet {here there : World} (same : here.quiet = there.quiet) :
    here.disk = there.disk ∧ here.searchPath = there.searchPath := by
  have disk := congrArg World.disk same
  have searchPath := congrArg World.searchPath same
  exact ⟨disk, searchPath⟩

/-- What checks look at: files, and which assets are loaded on which pages. -/
structure Outlook where
  disk : Disk
  searchPath : List String
  addresses : Except Error (List String)
  assets : String → Except Error (List Asset)

def outlook (world : World) : Outlook where
  disk := world.disk
  searchPath := world.searchPath
  addresses := EnqueuedAssets.addresses world.host
  assets address := (world.host.dispatch address).2

theorem assets_requesting (h : Host) (visited : List String) (address : String) :
    ((h.requesting visited).dispatch address).2 = (h.dispatch address).2 := by
  unfold Host.dispatch Host.requesting Runtime.requesting
  cases h.runtime with
  | installed root => rfl
  | simulated simulation =>
    dsimp only
    split <;> rfl

theorem unrequested_outlook : Unrequested outlook := by
  intro world visited
  simp only [outlook, EnqueuedAssets.addresses_requesting, assets_requesting]

/-- Records are not looked at. -/
theorem outlook_quiet (world : World) : world.quiet.outlook = world.outlook := by
  have visits : EnqueuedAssets.addresses world.quiet.host = EnqueuedAssets.addresses world.host := by
    refine EnqueuedAssets.addresses_congr rfl ?_ rfl rfl
    simp only [quiet, Host.publicPostTypes]
    cases world.host.runtime <;> rfl
  have assets (address : String) : (world.quiet.host.dispatch address).2 = (world.host.dispatch address).2 := by
    unfold quiet Host.dispatch Runtime.recording
    cases world.host.runtime with
    | installed root => rfl
    | simulated simulation =>
      dsimp only
      split <;> rfl
  simp only [outlook, visits, assets]
  rfl

end World

/-! ## Checks that read files -/

/-- A check that reads files of the plugin. -/
structure Check.ReadsFiles (check : Check) : Prop where
  unprepared : check.preparation = none
  unasking : ∀ host, check.sharedPreparations host = []
  spares : check.Spares World.quiet
  outcome : ∀ {context : PluginContext} {one other : World}, context.SameFiles one.disk other.disk →
    other.searchPath = one.searchPath → (check.run context other).1 = (check.run context one).1

theorem Check.ReadsFiles.ofFiles {look : PluginContext → Disk → CheckOutcome}
    (overlooks : ∀ {context d grown}, d.GainsBeside context grown → look context grown = look context d)
    (categories : List Category) (description documentation : String) :
    (Check.ofFiles categories description documentation look).ReadsFiles where
  unprepared := rfl
  unasking _ := rfl
  spares := ⟨fun _ _ => rfl, nofun⟩
  outcome same _ := same.congr overlooks

section Overlooking

variable {d grown : Disk}

theorem FileTypeCheck.look_beside (wanted : List FileKind) (environment : EnvironmentType) (options : WalkOptions)
    (beside : d.GainsBeside context grown) :
    look wanted environment options context grown = look wanted environment options context d := by
  simp only [look, beside.files]

theorem PluginContext.sourceFiles_beside (beside : d.GainsBeside context grown) :
    context.sourceFiles grown = context.sourceFiles d := by
  simp only [sourceFiles, beside.files]

theorem CheckOutcome.each_congr {α : Type} {items : List α} {part part' : α → CheckOutcome}
    (same : ∀ item ∈ items, part item = part' item) : each items part = each items part' :=
  List.foldl_ext _ _ _ fun outcome item member => congrArg outcome.andThen (same item member)

theorem ObfuscationCheck.look_beside (wanted : List ObfuscationTool) (beside : d.GainsBeside context grown) :
    look wanted context grown = look wanted context d := by
  unfold look
  rw [PluginContext.sourceFiles_beside beside]
  exact CheckOutcome.each_congr fun file member => by rw [beside.source? member]

theorem UnfilteredUploadsCheck.look_beside (pattern : Pattern) (beside : d.GainsBeside context grown) :
    look pattern context grown = look pattern context d := by
  unfold look
  rw [PluginContext.sourceFiles_beside beside]
  exact CheckOutcome.each_congr fun file member => by rw [beside.source? member]

theorem Trademarks.look_beside (terms : List String) (beside : d.GainsBeside context grown) :
    look terms context grown = look terms context d := by
  have readme : readmeOutcome terms context grown = readmeOutcome terms context d := by
    unfold readmeOutcome
    split
    · rfl
    · rename_i inDirectory
      have isDirectory : context.isSingleFile = false := by simpa using inDirectory
      rw [beside.find? isDirectory]
      split
      · rfl
      · rename_i path found
        rw [beside.readme isDirectory found]
  simp only [look, readme, beside.header]

theorem PluginReadmeCheck.look_beside (beside : d.GainsBeside context grown) : look context grown = look context d := by
  unfold look
  split
  · rfl
  · rename_i inDirectory
    have isDirectory : context.isSingleFile = false := by simpa using inDirectory
    rw [beside.find? isDirectory]
    split
    · rfl
    · rename_i path found
      rw [beside.readme isDirectory found, beside.header]

end Overlooking

/-! ## Linters -/

/-- A linter that leaves nothing behind but notes, and reports the same as long as the files of
the plugin are the same. -/
structure Linter.ReadsFiles (linter : Linter) : Prop where
  spares : ∀ standard options target, Act.Spares World.quiet (linter.lint standard options target)
  report : ∀ standard options {context : PluginContext} {one other : World}, context.SameFiles one.disk other.disk →
    other.searchPath = one.searchPath → ((linter.lint standard options context.root).runIn other).1 =
      ((linter.lint standard options context.root).runIn one).1

theorem LinterRule.readsFiles (rule : LinterRule) {linter : Linter} (reads : linter.ReadsFiles) :
    (rule.check linter).ReadsFiles where
  unprepared := rfl
  unasking _ := rfl
  spares := ⟨fun context world => reads.spares _ _ _ world, nofun⟩
  outcome same searchPath := by
    have report := reads.report rule.standard rule.options same searchPath
    exact congrArg (CheckOutcome.needing · fun report => .found report.findings) report

/-! ## Checks that visit pages -/

/-- A check that visits pages of the site, with demo posts on them. -/
structure Check.VisitsPages (check : Check) : Prop where
  isRuntime : check.isRuntime
  unprepared : check.preparation = none
  asking : ∀ host, check.sharedPreparations host = [demoPosts host]
  spares : check.Spares World.quiet
  outcome : ∀ context {one other : World}, one.outlook = other.outlook →
    (check.run context one).1 = (check.run context other).1

namespace EnqueuedAssets

theorem visit_congr (same : one.outlook = other.outlook) (context : PluginContext) (kind : AssetKind) (address : String) :
    ((visit context kind address).runIn one).1 = ((visit context kind address).runIn other).1 := by
  have assets := congrFun (congrArg World.Outlook.assets same) address
  exact congrArg (Except.map _) assets

theorem lookAtSizes_congr (same : one.outlook = other.outlook) (context : PluginContext) (kind : AssetKind)
    (threshold : UInt64) (all : List String) :
    (lookAtSizes context kind threshold one all).1 = (lookAtSizes context kind threshold other all).1 := by
  induction all generalizing one other with
  | nil => rfl
  | cons address rest inductionHypothesis =>
    have visited := visit_congr same context kind address
    have left := visit_spares World.unrequested_outlook context kind address one
    have left' := visit_spares World.unrequested_outlook context kind address other
    simp only [lookAtSizes]
    rcases first : (visit context kind address).runIn one with ⟨outcome, after⟩
    rcases second : (visit context kind address).runIn other with ⟨outcome', after'⟩
    rw [first, second] at visited
    rw [first] at left
    rw [second] at left'
    obtain rfl : outcome = outcome' := visited
    have later := inductionHypothesis (left.trans (same.trans left'.symm))
    cases outcome with
    | error e => rfl
    | ok assets =>
      dsimp only at later ⊢
      cases sizeFindings context kind threshold address assets with
      | error e => rfl
      | ok found => simp only [later]

theorem tallyPages_congr (same : one.outlook = other.outlook) (context : PluginContext) (kind : AssetKind)
    (tally : Tally) (all : List String) :
    ((tallyPages context kind tally all).runIn one).1 = ((tallyPages context kind tally all).runIn other).1 := by
  induction all generalizing one other tally with
  | nil => rfl
  | cons address rest inductionHypothesis =>
    have visited := visit_congr same context kind address
    have left := visit_spares World.unrequested_outlook context kind address one
    have left' := visit_spares World.unrequested_outlook context kind address other
    simp only [tallyPages, Act.runIn_bind]
    rcases first : (visit context kind address).runIn one with ⟨outcome, after⟩
    rcases second : (visit context kind address).runIn other with ⟨outcome', after'⟩
    rw [first, second] at visited
    rw [first] at left
    rw [second] at left'
    obtain rfl : outcome = outcome' := visited
    cases outcome with
    | error e => rfl
    | ok assets => exact inductionHypothesis (left.trans (same.trans left'.symm)) _

theorem IsAssetCheck.visitsPages (isAsset : IsAssetCheck check) : check.VisitsPages where
  isRuntime := isAsset.isRuntime
  unprepared := isAsset.preparation
  asking := isAsset.sharedPreparations
  spares := isAsset.spares World.unrequested_quiet
  outcome context one other same := by
    have visits : addresses one.host = addresses other.host := congrArg World.Outlook.addresses same
    cases isAsset with
    | size kind threshold =>
      simp only [sizeCheck, visits]
      split
      · rfl
      · exact lookAtSizes_congr same context kind threshold _
    | scope kind =>
      simp only [scopeCheck, visits]
      split
      · rfl
      · simp only [tallyPages_congr same]

end EnqueuedAssets

/-! ## Both kinds -/

/-- A check that does nothing but read files or visit pages. -/
def Check.Modest (check : Check) : Prop := check.ReadsFiles ∨ check.VisitsPages

theorem Check.Modest.unprepared (modest : check.Modest) : check.preparation = none :=
  modest.elim ReadsFiles.unprepared VisitsPages.unprepared

theorem Check.Modest.spares (modest : check.Modest) : check.Spares World.quiet :=
  modest.elim ReadsFiles.spares VisitsPages.spares

theorem World.premises_quiet (world : World) : world.quiet.premises = world.premises := by
  simp [premises, withResidue, Host.withResidue, quiet, Runtime.recording_recording]

/-- Of posts, the demo posts are all that modest checks ask for. -/
theorem Check.Modest.leaves (modest : check.Modest) : check.Leaves World.premises where
  spares := modest.spares.coarsen fun {a b} same => by rw [← a.premises_quiet, same, b.premises_quiet]
  requests host request member := by
    rcases modest with reads | visits
    · rw [reads.unasking] at member
      cases member
    · rw [visits.asking, List.mem_singleton] at member
      rw [member]
      exact DemoPosts.request_spares World.unposted_premises _

end PluginAudit
