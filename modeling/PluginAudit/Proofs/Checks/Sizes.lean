import PluginAudit.Proofs.Checks.Pages
import PluginAudit.Proofs.Text.Slicing

/-!
# Pages whose assets are too large

The sizes of the assets of a page are added up in 64 bits, and the check breaks on a page
where these do not hold the sum.  Where it does not break, it warns exactly of the pages
whose assets come to more than the threshold.
-/

namespace PluginAudit

open PluginAudit.Text

/-- Findings in front of others are those of a check that does not break in either part. -/
theorem CheckOutcome.andThen_eq_found {front found : List Finding} {later : CheckOutcome} :
    (CheckOutcome.found front).andThen later = .found found ↔
      ∃ back, later = .found back ∧ found = front ++ back := by
  obtain ⟨back, failure⟩ := later
  simp only [CheckOutcome.andThen, CheckOutcome.found, CheckOutcome.mk.injEq]
  constructor
  · rintro ⟨rfl, rfl⟩
    exact ⟨back, ⟨rfl, rfl⟩, rfl⟩
  · rintro ⟨_, ⟨rfl, rfl⟩, rfl⟩
    exact ⟨rfl, rfl⟩

namespace EnqueuedAssets

variable {context : PluginContext} {kind : AssetKind} {threshold : UInt64} {world : World}

/-! ## Sums -/

/-- The sum of the sizes of assets, without bound. -/
def exactSize : List Asset → Nat
  | [] => 0
  | asset :: rest => asset.size.toNat + exactSize rest

theorem addSize_eq (total size : UInt64) :
    addSize total size =
      if total.toNat + size.toNat < 2 ^ 64 then .ok (total + size) else .error .overflow := by
  have total_lt := total.toNat_lt
  have size_lt := size.toNat_lt
  unfold addSize
  by_cases held : total.toNat + size.toNat < 2 ^ 64
  · have sum : (total + size).toNat = total.toNat + size.toNat := by
      rw [UInt64.toNat_add, Nat.mod_eq_of_lt held]
    rw [if_neg (by rw [UInt64.lt_iff_toNat_lt]; omega), if_pos held]
  · -- the sum is short of both of its parts by what the other one misses
    have sum : (total + size).toNat = total.toNat + size.toNat - 2 ^ 64 := by
      rw [UInt64.toNat_add, Nat.mod_eq_sub_mod (by omega), Nat.mod_eq_of_lt (by omega)]
    rw [if_pos (by rw [UInt64.lt_iff_toNat_lt]; omega), if_neg held]

theorem foldlM_addSize (assets : List Asset) (start : UInt64) :
    assets.foldlM (fun total asset => addSize total asset.size) start =
      if start.toNat + exactSize assets < 2 ^ 64 then .ok (.ofNat (start.toNat + exactSize assets))
      else .error .overflow := by
  induction assets generalizing start with
  | nil =>
    rw [exactSize, Nat.add_zero, if_pos start.toNat_lt, UInt64.ofNat_toNat]
    rfl
  | cons asset rest inductionHypothesis =>
    rw [List.foldlM_cons, addSize_eq, exactSize, ← Nat.add_assoc]
    by_cases held : start.toNat + asset.size.toNat < 2 ^ 64
    · have sum : (start + asset.size).toNat = start.toNat + asset.size.toNat := by
        rw [UInt64.toNat_add, Nat.mod_eq_of_lt held]
      rw [if_pos held, ← sum]
      exact inductionHypothesis (start + asset.size)
    · rw [if_neg held, if_neg (by omega)]
      rfl

/-- 64 bits hold the sum of the sizes, or adding them up breaks. -/
theorem totalSize_eq (assets : List Asset) :
    totalSize assets =
      if exactSize assets < 2 ^ 64 then .ok (.ofNat (exactSize assets)) else .error .overflow := by
  simpa [totalSize] using foldlM_addSize assets 0

/-! ## Warnings -/

/-- The warning about an asset of a page whose assets are too large together. -/
def sizeWarning (context : PluginContext) (kind : AssetKind) (threshold : UInt64) (address : String)
    (asset : Asset) : Finding :=
  let word := match kind with | .script => "script" | .style => "style"
  { severity := .warning
    text := "This " ++ word ++ " has a size of " ++ toString asset.size ++
      " bytes which in combination with the other " ++ word ++ "s enqueued on " ++ address ++
      " exceeds the " ++ word ++ " size threshold of " ++ toString threshold ++ " bytes."
    code :=
      match kind with
      | .script => "EnqueuedScriptsSize.ScriptSizeGreaterThanThreshold"
      | .style => "EnqueuedStylesSize.StyleSizeGreaterThanThreshold"
    file := (fileOf context asset).text
    line := 0
    column := 0
    link := none }

/-- One warning for each asset of a page if together they are larger than the threshold. -/
def warningsFor (context : PluginContext) (kind : AssetKind) (threshold : UInt64) (address : String)
    (assets : List Asset) : List Finding :=
  if threshold.toNat < exactSize assets then assets.map (sizeWarning context kind threshold address)
  else []

theorem sizeFindings_eq (address : String) (assets : List Asset) :
    sizeFindings context kind threshold address assets =
      if exactSize assets < 2 ^ 64 then .ok (warningsFor context kind threshold address assets)
      else .error .overflow := by
  have same : sizeFinding context kind threshold address = sizeWarning context kind threshold address := by
    cases kind <;> rfl
  unfold sizeFindings warningsFor
  rw [totalSize_eq, same]
  split
  · rename_i held
    have sum : (UInt64.ofNat (exactSize assets)).toNat = exactSize assets := UInt64.toNat_ofNat_of_lt held
    simp only [Except.map, UInt64.le_iff_toNat_le, sum, ← Nat.not_lt, ite_not]
  · rfl

/-! ## Runs -/

/-- Where requests are answered, looking at sizes breaks on the first page whose sum is not held
by 64 bits, and without such a page finds what each page warns of. -/
theorem lookAtSizes_eq_found (answers : world.host.answersRequests) {all : List String}
    {found : List Finding} :
    (lookAtSizes context kind threshold world all).1 = .found found ↔
      (∀ address ∈ all, exactSize (page context kind world.host address) < 2 ^ 64) ∧
        found = all.flatMap fun address =>
          warningsFor context kind threshold address (page context kind world.host address) := by
  induction all generalizing world found with
  | nil => simp [lookAtSizes, CheckOutcome.found, eq_comm]
  | cons address rest inductionHypothesis =>
    have stillAnswers : (world.host.requesting [address]).answersRequests := by
      rwa [Host.answersRequests_requesting]
    have later {found : List Finding} :=
      @inductionHypothesis { world with host := world.host.requesting [address] } stillAnswers found
    simp only [page_requesting] at later
    simp only [lookAtSizes, runIn_visit_page answers, sizeFindings_eq, List.forall_mem_cons, List.flatMap_cons]
    by_cases held : exactSize (page context kind world.host address) < 2 ^ 64
    · simp only [held, if_true, CheckOutcome.andThen_eq_found, later, true_and]
      constructor
      · rintro ⟨back, ⟨others, rfl⟩, rfl⟩
        exact ⟨others, rfl⟩
      · rintro ⟨others, rfl⟩
        exact ⟨_, ⟨others, rfl⟩, rfl⟩
    · simp only [held, if_false, false_and, iff_false]
      intro broken
      cases broken

/-- A check of sizes succeeds just where there are addresses to visit, these are answered, and 64
bits hold the sum of the sizes on each page.  Then it has warned, page by page in the order of
the visits, of each asset of the pages whose assets come to more than the threshold, and of
nothing else. -/
theorem warns_exactly (context : PluginContext) (kind : AssetKind) (threshold : UInt64) (world : World)
    (found : List Finding) :
    ((sizeCheck kind threshold).run context world).1 = .found found ↔
      world.host.answersRequests ∧ ∃ all, addresses world.host = .ok all ∧
        (∀ address ∈ all, exactSize (page context kind world.host address) < 2 ^ 64) ∧
        found = all.flatMap fun address =>
          warningsFor context kind threshold address (page context kind world.host address) := by
  constructor
  · intro ran
    have succeeds : ((sizeCheck kind threshold).run context world).1.failure = none := by rw [ran]; rfl
    obtain ⟨⟨all, visited⟩, answers⟩ := (IsAssetCheck.size kind threshold).exists_addresses_of_succeeds succeeds
    simp only [sizeCheck, visited] at ran
    exact ⟨answers, all, visited, (lookAtSizes_eq_found answers).mp ran⟩
  · rintro ⟨answers, all, visited, found_eq⟩
    simp only [sizeCheck, visited]
    exact (lookAtSizes_eq_found answers).mpr found_eq

/-- Two scripts that are too large together, two that the threshold allows, and two that 64 bits
do not hold the sum of. -/
theorem warns_exactly_siteLoading :
    let context := PluginContext.ofMainFile ⟨"site/wp-content/plugins/foo/foo.php"⟩
      ⟨"site/wp-content/plugins"⟩ "http://example.org/wp-content/plugins"
    let script (name : String) (size : UInt64) : Asset :=
      { handle := name, kind := .script, source := context.address ++ name, path := none, size }
    let ran (first second : UInt64) := ((sizeCheck .script 300000).run context
      (siteLoading "foo/foo.php" [script "a.js" first, script "b.js" second])).1
    ran 200000 150000 = .found
        [sizeWarning context .script 300000 "http://example.org/" (script "a.js" 200000),
          sizeWarning context .script 300000 "http://example.org/" (script "b.js" 150000)] ∧
      ran 200000 100000 = .found [] ∧
      ∀ found, ran 9223372036854775808 9223372036854775808 ≠ .found found := by
  intro context script ran
  have loaded (first second : UInt64) :
      page context .script (siteLoading "foo/foo.php" [script "a.js" first, script "b.js" second]).host
        "http://example.org/" = [script "a.js" first, script "b.js" second] := by
    simp [page_siteLoading, script, isOwn, isSome_after?]
  have visited (first second : UInt64) : addresses (siteLoading "foo/foo.php"
      [script "a.js" first, script "b.js" second]).host = .ok ["http://example.org/"] :=
    addresses_siteLoading _ _
  have warns (first second : UInt64) := warns_exactly context .script 300000
    (siteLoading "foo/foo.php" [script "a.js" first, script "b.js" second])
  refine ⟨(warns _ _ _).mpr ⟨rfl, _, visited _ _, ?_, ?_⟩, (warns _ _ _).mpr ⟨rfl, _, visited _ _, ?_, ?_⟩,
    fun found ran => ?_⟩
  case refine_5 =>
    obtain ⟨-, all, visitedToo, held, -⟩ := (warns _ _ _).mp ran
    obtain rfl := Except.ok.inj ((visited _ _).symm.trans visitedToo)
    have sum := held _ List.mem_cons_self
    rw [loaded] at sum
    simp [exactSize, script] at sum
  all_goals simp [warningsFor, exactSize, loaded, script]

end EnqueuedAssets

end PluginAudit
