import PluginAudit.Proofs.Audit
import PluginAudit.Proofs.Check.Repository

/-!
# The laws of collections

Collections begin as lists that are refused if a slug occurs twice, or as what a
repository selects, and everything else is made from them.  No slug ever occurs
twice, so that a slug and a place each stand for one check, and what is chosen
by slugs does not depend on the order of the choices.
-/

namespace PluginAudit

namespace CheckCollection

variable {c : CheckCollection}

/-! ## Where collections come from -/

theorem firstRepeated?_eq_none {seen slugs : List String} :
    firstRepeated? seen slugs = none ↔ slugs.Nodup ∧ ∀ slug ∈ slugs, slug ∉ seen := by
  induction slugs generalizing seen with
  | nil => simp [firstRepeated?]
  | cons slug rest inductionHypothesis =>
    by_cases old : slug ∈ seen
    · simp [firstRepeated?, old]
    · have beyond : (∀ other ∈ rest, other ∉ slug :: seen) ↔ slug ∉ rest ∧ ∀ other ∈ rest, other ∉ seen := by
        simp only [List.mem_cons, not_or, imp_and, forall_and]
        refine and_congr_left' ⟨fun different member => different slug member rfl, ?_⟩
        rintro absent other member rfl
        exact absent member
      simp only [firstRepeated?, List.contains_iff_mem, old, if_false, inductionHypothesis, beyond, List.nodup_cons,
        List.forall_mem_cons, not_false_eq_true, true_and]
      tauto

/-- A list is a collection just if no slug occurs twice in it. -/
theorem ofList_eq_ok {entries : List (String × Check)} :
    ofList entries = .ok c ↔ (entries.map Prod.fst).Nodup ∧ c = ⟨entries⟩ := by
  rw [ofList]
  cases repeated : firstRepeated? [] (entries.map Prod.fst) with
  | some slug =>
    have twice : ¬ (entries.map Prod.fst).Nodup := fun distinct => by
      have none : firstRepeated? [] (entries.map Prod.fst) = none :=
        firstRepeated?_eq_none.mpr ⟨distinct, fun _ _ => List.not_mem_nil⟩
      cases repeated.symm.trans none
    simp [twice]
  | none =>
    have distinct := (firstRepeated?_eq_none.mp repeated).1
    simp only [Except.ok.injEq, distinct, true_and]
    exact eq_comm

theorem distinct_select {r : CheckRepository} (distinct : r.Distinct) (flags : CheckFlags) :
    (r.select flags).Distinct := by
  have part : (r.select flags).entries.Sublist r.all := by
    refine List.filter_sublist.trans (List.Sublist.append ?_ ?_)
    · split
      · exact .refl _
      · exact List.nil_sublist _
    · split
      · exact .refl _
      · exact List.nil_sublist _
  exact distinct.sublist (part.map Prod.fst)

/-- The collections that there are. -/
inductive Obtained : CheckCollection → Prop
  | listed {entries : List (String × Check)} {c : CheckCollection} (made : ofList entries = .ok c) : Obtained c
  /-- Any calls may have been made on the repository, those that failed included. -/
  | selected (calls : List (String × Check)) (flags : CheckFlags) :
      Obtained ((CheckRepository.after {} calls).select flags)
  | filter {c : CheckCollection} (obtained : Obtained c) (keep : String → Check → Bool) : Obtained (c.filter keep)
  | including {c : CheckCollection} (obtained : Obtained c) (slugs : List String) : Obtained (c.including slugs)
  | excluding {c : CheckCollection} (obtained : Obtained c) (slugs : List String) : Obtained (c.excluding slugs)
  | requiring {c required : CheckCollection} (obtained : Obtained c) {slugs : List String}
      (present : c.requiring slugs = .ok required) : Obtained required
  | insert {c : CheckCollection} (obtained : Obtained c) (slug : String) (check : Check) :
      Obtained (c.insert slug check)

/-! ## What the operations do -/

theorem contains_iff {slug : String} : c.contains slug ↔ slug ∈ c.slugs := by
  rw [contains, get?, Option.isSome_iff_ne_none, ne_eq, Assoc.get?_eq_none_iff_not_mem, not_not]
  rfl

theorem contains_filter (keep : String → Bool) (slug : String) :
    (c.filter fun slug _ => keep slug).contains slug ↔ keep slug ∧ c.contains slug := by
  simp only [contains_iff, slugs, filter, List.mem_map, List.mem_filter]
  constructor
  · rintro ⟨entry, ⟨member, kept⟩, rfl⟩
    exact ⟨kept, entry, member, rfl⟩
  · rintro ⟨kept, entry, member, rfl⟩
    exact ⟨entry, ⟨member, kept⟩, rfl⟩

theorem including_eq {slugs : List String} (some : slugs ≠ []) :
    c.including slugs = c.filter fun slug _ => slugs.contains slug := by
  rw [including, if_neg (by simpa using some)]

theorem including_sublist (c : CheckCollection) (slugs : List String) :
    (c.including slugs).entries.Sublist c.entries := by
  rw [including]
  split
  · exact .refl _
  · exact List.filter_sublist

theorem filter_comm (c : CheckCollection) (keep keep' : String → Check → Bool) :
    (c.filter keep).filter keep' = (c.filter keep').filter keep := by
  simp only [filter, List.filter_filter, mk.injEq]
  exact List.filter_congr fun _ _ => Bool.and_comm _ _

theorem including_comm (c : CheckCollection) (slugs slugs' : List String) :
    (c.including slugs).including slugs' = (c.including slugs').including slugs := by
  by_cases all : slugs = []
  · simp [including, all]
  by_cases all' : slugs' = []
  · simp [including, all']
  simp only [including_eq all, including_eq all', filter_comm]

theorem excluding_comm (c : CheckCollection) (slugs slugs' : List String) :
    (c.excluding slugs).excluding slugs' = (c.excluding slugs').excluding slugs := filter_comm c _ _

/-- Slugs can be required just if there is a check for each. -/
theorem requiring_eq_ok {required : CheckCollection} {slugs : List String} :
    c.requiring slugs = .ok required ↔ (∀ slug ∈ slugs, c.contains slug) ∧ required = c := by
  rw [requiring]
  cases missing : slugs.find? fun slug => !c.contains slug with
  | some slug =>
    have absent := List.find?_some missing
    have asked := List.mem_of_find?_eq_some missing
    simp only [reduceCtorEq, false_iff, not_and]
    intro present
    simp [present slug asked] at absent
  | none =>
    have present : ∀ slug ∈ slugs, c.contains slug := by simpa using missing
    simp only [Except.ok.injEq]
    exact ⟨fun same => ⟨present, same.symm⟩, fun same => same.2.symm⟩

theorem insertEntry_known {slug : String} {front : List (String × Check)} (absent : ∀ entry ∈ front, entry.1 ≠ slug)
    (old check : Check) (back : List (String × Check)) :
    insertEntry slug check (front ++ (slug, old) :: back) = front ++ (slug, check) :: back := by
  induction front with
  | nil => simp [insertEntry]
  | cons entry rest inductionHypothesis =>
    obtain ⟨different, others⟩ := List.forall_mem_cons.mp absent
    simp [insertEntry, different, inductionHypothesis others]

theorem insertEntry_new {slug : String} {entries : List (String × Check)} (absent : ∀ entry ∈ entries, entry.1 ≠ slug)
    (check : Check) : insertEntry slug check entries = entries ++ [(slug, check)] := by
  induction entries with
  | nil => rfl
  | cons entry rest inductionHypothesis =>
    obtain ⟨different, others⟩ := List.forall_mem_cons.mp absent
    simp [insertEntry, different, inductionHypothesis others]

theorem insert_new {slug : String} (new : c.contains slug = false) (check : Check) :
    (c.insert slug check).entries = c.entries ++ [(slug, check)] := by
  refine insertEntry_new (fun entry member same => ?_) check
  have present : c.contains slug := contains_iff.mpr (same ▸ List.mem_map_of_mem member)
  simp [present] at new

/-- The only check with a slug, and what stands around it. -/
theorem Distinct.exists_split (distinct : c.Distinct) {slug : String} (known : c.contains slug) :
    ∃ front old back, c.entries = front ++ (slug, old) :: back ∧ ∀ entry ∈ front, entry.1 ≠ slug := by
  obtain ⟨⟨slug, old⟩, member, rfl⟩ := List.mem_map.mp (contains_iff.mp known)
  obtain ⟨front, back, split⟩ := List.append_of_mem member
  refine ⟨front, old, back, split, fun entry before same => ?_⟩
  rw [Distinct, slugs, split, List.map_append, List.map_cons, List.nodup_append] at distinct
  exact distinct.2.2 entry.1 (List.mem_map_of_mem before) slug List.mem_cons_self same

theorem Distinct.insert (distinct : c.Distinct) (slug : String) (check : Check) : (c.insert slug check).Distinct := by
  by_cases known : c.contains slug
  · obtain ⟨front, old, back, split, absent⟩ := distinct.exists_split known
    have replaced : (c.insert slug check).slugs = c.slugs := by
      rw [slugs, slugs, CheckCollection.insert, split, insertEntry_known absent]
      simp
    rw [Distinct, replaced]
    exact distinct
  · have absent : slug ∉ c.slugs := fun member => known (contains_iff.mpr member)
    rw [Distinct, slugs, insert_new (by simpa using known), List.map_append]
    exact distinct.append (List.nodup_singleton slug) (by simpa using absent)

/-- No operation brings a slug in for a second time. -/
theorem Obtained.distinct (obtained : c.Obtained) : c.Distinct := by
  induction obtained with
  | listed made =>
    obtain ⟨distinct, rfl⟩ := ofList_eq_ok.mp made
    exact distinct
  | selected calls flags => exact distinct_select (CheckRepository.distinct_after calls) flags
  | filter _ keep distinct => exact hereditary_distinct List.filter_sublist distinct
  | including _ slugs distinct => exact hereditary_distinct (including_sublist _ slugs) distinct
  | excluding _ slugs distinct => exact hereditary_distinct List.filter_sublist distinct
  | requiring _ present distinct => exact (requiring_eq_ok.mp present).2 ▸ distinct
  | insert _ slug check distinct => exact distinct.insert slug check

/-! ## The laws -/

/-- Two collections make up a third, which each of them follows in its order. -/
structure Divides (c chosen others : CheckCollection) : Prop where
  chosen_inOrder : chosen.entries.Sublist c.entries
  others_inOrder : others.entries.Sublist c.entries
  together : (chosen.entries ++ others.entries).Perm c.entries
  apart : ∀ slug, ¬ (chosen.contains slug ∧ others.contains slug)

/-- What holds of all collections. -/
structure Lawful (c : CheckCollection) : Prop where
  distinct : c.Distinct
  get?_iff : ∀ slug check, c.get? slug = some check ↔ (slug, check) ∈ c.entries
  at?_eq : (List.range c.size).map c.at? = c.entries.map some
  /-- A slug stands at one place only. -/
  at?_injective : ∀ slug check check' index index', c.at? index = some (slug, check) →
    c.at? index' = some (slug, check') → index = index'
  divides : ∀ slugs, slugs ≠ [] → c.Divides (c.including slugs) (c.excluding slugs)
  including_iff : ∀ slugs, slugs ≠ [] → ∀ slug, (c.including slugs).contains slug ↔ slug ∈ slugs ∧ c.contains slug
  including_comm : ∀ slugs slugs', (c.including slugs).including slugs' = (c.including slugs').including slugs
  excluding_comm : ∀ slugs slugs', (c.excluding slugs).excluding slugs' = (c.excluding slugs').excluding slugs
  insert_known : ∀ slug check, c.contains slug → ∃ front old back, c.entries = front ++ (slug, old) :: back ∧
    (c.insert slug check).entries = front ++ (slug, check) :: back
  insert_new : ∀ slug check, c.contains slug = false → (c.insert slug check).entries = c.entries ++ [(slug, check)]
  requiring_iff : ∀ slugs, (∃ required, c.requiring slugs = .ok required) ↔ ∀ slug ∈ slugs, c.contains slug
  requiring_eq : ∀ slugs required, c.requiring slugs = .ok required → required = c

theorem including_iff {slugs : List String} (some : slugs ≠ []) (slug : String) :
    (c.including slugs).contains slug ↔ slug ∈ slugs ∧ c.contains slug := by
  rw [including_eq some, contains_filter, List.contains_iff_mem]

theorem excluding_iff {slugs : List String} (slug : String) :
    (c.excluding slugs).contains slug ↔ slug ∉ slugs ∧ c.contains slug := by
  simp [excluding, contains_filter]

theorem divides (c : CheckCollection) {slugs : List String} (some : slugs ≠ []) :
    c.Divides (c.including slugs) (c.excluding slugs) where
  chosen_inOrder := including_sublist c slugs
  others_inOrder := List.filter_sublist
  together := by
    rw [including_eq some]
    exact List.filter_append_perm _ c.entries
  apart slug both := ((excluding_iff slug).mp both.2).1 ((including_iff some slug).mp both.1).1

/-- However a collection was obtained, the laws hold of it. -/
theorem lawful_of_obtained (obtained : c.Obtained) : c.Lawful where
  distinct := obtained.distinct
  get?_iff slug check := ⟨Assoc.mem_of_get?_eq_some, Assoc.get?_of_mem obtained.distinct⟩
  at?_eq := List.ext_getElem (by simp [size]) fun index _ _ => by simp [at?]
  at?_injective slug check check' index index' here there := by
    have first : c.slugs[index]? = some slug := by simp [slugs, show c.entries[index]? = _ from here]
    have second : c.slugs[index']? = some slug := by simp [slugs, show c.entries[index']? = _ from there]
    obtain ⟨bound, _⟩ := List.getElem?_eq_some_iff.mp first
    exact (List.getElem?_inj bound obtained.distinct).mp (first.trans second.symm)
  divides slugs some := divides c some
  including_iff slugs some slug := including_iff some slug
  including_comm := including_comm c
  excluding_comm := excluding_comm c
  insert_known slug check known := by
    obtain ⟨front, old, back, split, absent⟩ := obtained.distinct.exists_split known
    refine ⟨front, old, back, split, ?_⟩
    rw [CheckCollection.insert, split, insertEntry_known absent]
  insert_new slug check new := insert_new new check
  requiring_iff slugs := by simp [requiring_eq_ok]
  requiring_eq slugs required found := (requiring_eq_ok.mp found).2

/-- A collection of a list, without its first check, with another in the place of
the second one and a fourth behind all. -/
theorem lawful_of_obtained_rearranged :
    let check (description : String) : Check :=
      { categories := [.performance], description, run := fun _ world => (.found [], world) }
    let listed : CheckCollection := ⟨[("a", check "first"), ("b", check "second"), ("c", check "third")]⟩
    let c := ((listed.excluding ["a"]).insert "b" (check "other")).insert "d" (check "fourth")
    c.Obtained ∧ c.Lawful ∧ c.entries = [("b", check "other"), ("c", check "third"), ("d", check "fourth")] := by
  intro check listed c
  have begins : listed.Obtained := .listed (show ofList listed.entries = .ok listed from rfl)
  have obtained : c.Obtained := ((begins.excluding ["a"]).insert "b" (check "other")).insert "d" (check "fourth")
  exact ⟨obtained, lawful_of_obtained obtained, rfl⟩

end CheckCollection

/-- The checks of an audit are obtained like any others, if its extensions have
no other means. -/
theorem Audit.obtained_checks {audit changed : Audit} (unknown : audit.available = none)
    {checks : List (String × Check)} (filled : CheckRepository.registerAll {} checks = .ok audit.repository)
    (keeps : ∀ extension ∈ audit.extensions, extension.Keeps CheckCollection.Obtained) {world after : World}
    {all : CheckCollection} (ran : audit.checks.runIn world = (.ok (all, changed), after)) : all.Obtained := by
  obtain ⟨-, extended⟩ := runIn_checks_new unknown ran
  rw [CheckRepository.after_of_registerAll filled] at extended
  exact extend_keeps keeps (.selected checks _) extended

end PluginAudit
