import PluginAudit.Proofs.Effect
import PluginAudit.Proofs.Host.Lawful

/-!
# What preparations change for a while

The table prefix in use, the filters, the theme directories and the posts are
what preparations change.  `Standing` says that a site is in a given such state
and that nothing stands in the way of undoing changes.
-/

namespace PluginAudit

/-- The part of a site that preparations change and give back. -/
@[ext] structure SiteState where
  tablePrefix : String
  filters : List FilterEntry
  themeDirectories : List Path
  posts : List (Nat × StoredPost)

/-- The state a site is in. -/
def Host.siteState (h : Host) : SiteState :=
  ⟨h.tablePrefix, h.filters.entries, h.themeDirectories, h.posts⟩

/-- A site is in a state part by part. -/
theorem Host.siteState_eq_iff {h : Host} {state : SiteState} :
    h.siteState = state ↔ h.tablePrefix = state.tablePrefix ∧ h.filters.entries = state.filters ∧
      h.themeDirectories = state.themeDirectories ∧ h.posts = state.posts := by
  simp [siteState, SiteState.ext_iff]

/-! ## The record of requests -/

/-- A site without its record of the addresses that were requested. -/
def Host.withoutRequests (h : Host) : Host :=
  { h with
    runtime :=
      match h.runtime with
      | .simulated simulation => .simulated { simulation with requested := [] }
      | .installed root => .installed root }

/-- The site, without the record of requests. -/
def World.site (world : World) : Host := world.host.withoutRequests

theorem Host.withoutRequests_refusesDeletions (h : Host) :
    h.withoutRequests.refusesDeletions = h.refusesDeletions := by
  simp only [refusesDeletions, withoutRequests]
  cases h.runtime <;> rfl

/-! ## Standing -/

/-- A lawful site in a given state that lets posts be deleted. -/
structure Standing (state : SiteState) (world : World) : Prop where
  lawful : world.host.Lawful
  deletes : world.host.refusesDeletions = false
  siteState : world.host.siteState = state

namespace Standing

variable {state : SiteState} {world after : World}

/-- What spares the site leaves it standing. -/
theorem spared (standing : Standing state world) (same : after.site = world.site) :
    Standing state after := by
  obtain ⟨lawful, deletes, siteState⟩ := standing
  have kept {β : Type} (field : Host → β) : field after.site = field world.site :=
    congrArg field same
  have lawfulAfter : after.site.Lawful := same ▸ lawful.withRuntime _
  refine ⟨lawfulAfter.withRuntime after.host.runtime, ?_, ?_⟩
  · have same := kept Host.refusesDeletions
    simp only [World.site, Host.withoutRequests_refusesDeletions] at same
    exact same.trans deletes
  · rw [← siteState]
    exact kept Host.siteState

/-- A site that is changed in its tables and stored active plugins alone stays
standing. -/
theorem ofHost (standing : Standing state world) {host : Host} (lawful : host.Lawful)
    (runtime : host.runtime = world.host.runtime)
    (siteState : host.siteState = world.host.siteState) (disk : Disk) :
    Standing state { world with host, disk } where
  lawful := lawful
  deletes := by
    have deletes := standing.deletes
    simp only [Host.refusesDeletions] at deletes ⊢
    rwa [runtime]
  siteState := siteState.trans standing.siteState

end Standing

end PluginAudit
