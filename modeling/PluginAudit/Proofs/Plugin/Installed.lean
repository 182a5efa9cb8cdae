import PluginAudit.Plugin.Installed
import PluginAudit.Proofs.SortedList
import PluginAudit.Proofs.Text.Order
import PluginAudit.Proofs.Text.Parts

/-!
# The plugin that an input names

A name stands for the plugin that has it as its basename, or else for the first one in the
directory of that name, or else for the one in the single file of that name.  What an input
names is decided by the plugins that these rules speak of and by no others.
-/

namespace PluginAudit.InstalledPlugins

open PluginAudit.Text

variable {plugins others : InstalledPlugins} {name basename input : String}

/-! ## What a name stands for -/

/-- An input without white space and then slashes at both ends. -/
def named (input : String) : String := String.ofList (normalizedInput input)

def Installed (plugins : InstalledPlugins) (basename : String) : Prop := basename ∈ Assoc.keys plugins

/-- A basename in a directory. -/
def Under (directory basename : String) : Prop := (directory ++ "/").toList <+: basename.toList

/-- The plugin that a name stands for.  Each rule takes effect where those before it do not. -/
inductive Means (plugins : InstalledPlugins) (name : String) : String → Prop
  | basename (installed : plugins.Installed name) : Means plugins name name
  | directory {basename : String} (unknown : ¬ plugins.Installed name) (plain : '/' ∉ name.toList)
      (installed : plugins.Installed basename) (under : Under name basename)
      (least : ∀ rival, plugins.Installed rival → Under name rival →
        rival = basename ∨ Utf8.encode basename.toList < Utf8.encode rival.toList) : Means plugins name basename
  | file (unknown : ¬ plugins.Installed name) (plain : '/' ∉ name.toList)
      (empty : ∀ rival, plugins.Installed rival → ¬ Under name rival) (installed : plugins.Installed (name ++ ".php")) :
      Means plugins name (name ++ ".php")

theorem Means.installed (means : plugins.Means name basename) : plugins.Installed basename := by
  cases means with
  | basename installed => exact installed
  | directory _ _ installed => exact installed
  | file _ _ _ installed => exact installed

theorem Means.unique {basename' : String} (means : plugins.Means name basename)
    (means' : plugins.Means name basename') : basename = basename' := by
  cases means with
  | basename installed =>
    cases means' with
    | basename => rfl
    | directory unknown => exact absurd installed unknown
    | file unknown => exact absurd installed unknown
  | directory unknown _ installed under least =>
    cases means' with
    | basename installed' => exact absurd installed' unknown
    | directory _ _ installed' under' least' =>
      rcases least _ installed' under' with same | before
      · exact same.symm
      · rcases least' _ installed under with same | behind
        · exact same
        · exact absurd behind (List.lt_asymm before)
    | file _ _ empty => exact absurd under (empty _ installed)
  | file unknown _ empty =>
    cases means' with
    | basename installed' => exact absurd installed' unknown
    | directory _ _ installed' under' => exact absurd under' (empty _ installed')
    | file => rfl

/-- Only the plugins that the rules speak of count. -/
theorem Means.of_agree (agree : ∀ basename, basename = name ∨ Under name basename ∨ basename = name ++ ".php" →
      (plugins.Installed basename ↔ others.Installed basename)) (means : plugins.Means name basename) :
    others.Means name basename := by
  have unknown_iff := not_congr (agree name (.inl rfl))
  cases means with
  | basename installed => exact .basename ((agree name (.inl rfl)).mp installed)
  | directory unknown plain installed under least =>
    refine .directory (unknown_iff.mp unknown) plain ((agree basename (.inr (.inl under))).mp installed) under ?_
    exact fun rival there below => least rival ((agree rival (.inr (.inl below))).mpr there) below
  | file unknown plain empty installed =>
    refine .file (unknown_iff.mp unknown) plain ?_ ((agree _ (.inr (.inr rfl))).mp installed)
    exact fun rival there below => empty rival ((agree rival (.inr (.inl below))).mpr there) below

/-! ## Resolving -/

theorem toList_named (input : String) : (named input).toList = normalizedInput input := String.toList_ofList

theorem normalizedInput_ne_nil (some : named input ≠ "") : normalizedInput input ≠ [] := by
  intro empty
  exact some (by rw [named, empty])

theorem contains_iff_installed : Assoc.contains basename plugins ↔ plugins.Installed basename := by
  rw [Assoc.contains, Option.isSome_iff_ne_none, ne_eq, Assoc.get?_eq_none_iff_not_mem, not_not, Installed]

theorem under_iff :
    Under (named input) basename ↔ (after? (normalizedInput input ++ ['/']) basename.toList).isSome := by
  rw [isSome_after?, Under, String.toList_append, toList_named]
  rfl

/-- The plugin that a name stands for is found, and without one the input is refused. -/
theorem resolve_cases (ascending : Assoc.Ascending textLess plugins) (some : named input ≠ "") :
    (∃ basename, plugins.resolve input = .ok basename ∧ plugins.Means (named input) basename) ∨
      plugins.resolve input = .error (.invalidPlugin s!"plugin with slug {named input} is not installed") ∧
        ∀ basename, ¬ plugins.Means (named input) basename := by
  unfold resolve
  dsimp only
  rw [if_neg (by simpa using normalizedInput_ne_nil some)]
  change (∃ basename, (if Assoc.contains (named input) plugins then _ else _) = _ ∧ _) ∨
    (if Assoc.contains (named input) plugins then _ else _) = _ ∧ _
  by_cases known : Assoc.contains (named input) plugins
  · exact .inl ⟨named input, if_pos known, .basename (contains_iff_installed.mp known)⟩
  have unknown := mt contains_iff_installed.mpr known
  rw [if_neg known]
  by_cases slash : '/' ∈ normalizedInput input
  · refine .inr ⟨if_pos (by simpa using slash), fun basename means => ?_⟩
    rw [← toList_named] at slash
    cases means with
    | basename installed => exact unknown installed
    | directory _ plain => exact plain slash
    | file _ plain => exact plain slash
  rw [if_neg (by simpa using slash)]
  have plain : '/' ∉ (named input).toList := by rwa [toList_named]
  cases found : (Assoc.keys plugins).find? fun basename =>
      (after? (normalizedInput input ++ ['/']) basename.toList).isSome with
  | some basename =>
    obtain ⟨under, front, back, split, before⟩ := List.find?_eq_some_iff_append.mp found
    have installed : plugins.Installed basename := List.mem_of_find?_eq_some found
    refine .inl ⟨basename, rfl, .directory unknown plain installed (under_iff.mpr under) fun rival there below => ?_⟩
    -- the keys ascend, and none of those in front is in the directory
    have inOrder : (front ++ basename :: back).Pairwise fun a b => textLess a b :=
      split ▸ List.pairwise_map.mpr ascending
    rw [Installed, split, List.mem_append, List.mem_cons] at there
    rcases there with there | rfl | there
    · have apart := before rival there
      rw [under_iff.mp below] at apart
      cases apart
    · exact .inl rfl
    · have behind := (List.pairwise_cons.mp (List.pairwise_append.mp inOrder).2.1).1 rival there
      exact .inr (Utf8.encode_lt_encode (of_decide_eq_true behind))
  | none =>
    have empty (rival : String) (there : plugins.Installed rival) : ¬ Under (named input) rival :=
      fun below => List.find?_eq_none.mp found rival there (under_iff.mp below)
    by_cases single : Assoc.contains (named input ++ ".php") plugins
    · exact .inl ⟨named input ++ ".php", if_pos single, .file unknown plain empty (contains_iff_installed.mp single)⟩
    · refine .inr ⟨if_neg single, fun basename means => ?_⟩
      cases means with
      | basename installed => exact unknown installed
      | directory _ _ installed under => exact empty _ installed under
      | file _ _ _ installed => exact single (contains_iff_installed.mpr installed)

theorem resolve_of_empty (none : named input = "") :
    plugins.resolve input = .error (.invalidPlugin "no plugin given") := by
  have empty : normalizedInput input = [] := by rw [← toList_named, none, String.toList_empty]
  simp [resolve, empty]

/-- Maps with the same plugins where a name looks give the same answer. -/
theorem resolve_eq_of_agree (ascending : Assoc.Ascending textLess plugins)
    (ascending' : Assoc.Ascending textLess others)
    (agree : ∀ basename, basename = named input ∨ Under (named input) basename ∨ basename = named input ++ ".php" →
      (plugins.Installed basename ↔ others.Installed basename)) : others.resolve input = plugins.resolve input := by
  by_cases some : named input = ""
  · rw [resolve_of_empty some, resolve_of_empty some]
  rcases resolve_cases ascending some with ⟨basename, found, means⟩ | ⟨refused, none⟩
  · rcases resolve_cases ascending' some with ⟨basename', found', means'⟩ | ⟨-, none'⟩
    · rw [found, found', (means.of_agree agree).unique means']
    · exact absurd (means.of_agree agree) (none' basename)
  · rcases resolve_cases ascending' some with ⟨basename', -, means'⟩ | ⟨refused', -⟩
    · exact absurd (means'.of_agree fun other there => (agree other there).symm) (none basename')
    · rw [refused, refused']

/-! ## Maps of plugins -/

theorem ascending_addFile (ascending : Assoc.Ascending textLess plugins) (disk : Disk) (basename : String)
    (path : Path) : Assoc.Ascending textLess (addFile disk basename path plugins) := by
  unfold addFile
  split
  · exact Assoc.ascending_put .text _ _ ascending
  · exact ascending

theorem ascending_addDirectory (ascending : Assoc.Ascending textLess plugins) (disk : Disk) (name : String)
    (path : Path) : Assoc.Ascending textLess (addDirectory disk name path plugins) := by
  unfold addDirectory
  split
  · exact ascending
  · refine List.foldlRecOn _ _ ascending fun found ascends child _ => ?_
    dsimp only
    split
    · exact ascending_addFile ascends disk _ _
    · exact ascends

/-- Discovering plugins gives a map. -/
theorem ascending_discover {disk : Disk} {directory : Path} (discovered : discover disk directory = .ok plugins) :
    Assoc.Ascending textLess plugins := by
  unfold discover at discovered
  split at discovered
  · cases discovered
  · cases discovered
    refine List.foldlRecOn _ _ List.Pairwise.nil fun found ascends name _ => ?_
    dsimp only
    split_ifs
    · exact ascends
    · exact ascending_addDirectory ascends disk name _
    · exact ascending_addFile ascends disk name _
    · exact ascends

/-- A map of plugins with further ones, which may replace some of it. -/
def installing (further : List (String × PluginHeader)) (plugins : InstalledPlugins) : InstalledPlugins :=
  further.foldl (fun plugins plugin => Assoc.put textLess plugin.1 plugin.2 plugins) plugins

theorem ascending_installing (further : List (String × PluginHeader)) (ascending : Assoc.Ascending textLess plugins) :
    Assoc.Ascending textLess (installing further plugins) := by
  induction further generalizing plugins with
  | nil => exact ascending
  | cons plugin rest inductionHypothesis =>
    exact inductionHypothesis (Assoc.ascending_put .text plugin.1 plugin.2 ascending)

theorem installed_installing {further : List (String × PluginHeader)}
    (absent : ∀ plugin ∈ further, plugin.1 ≠ basename) :
    (installing further plugins).Installed basename ↔ plugins.Installed basename := by
  induction further generalizing plugins with
  | nil => rfl
  | cons plugin rest inductionHypothesis =>
    obtain ⟨different, later⟩ := List.forall_mem_cons.mp absent
    have one : Installed (Assoc.put textLess plugin.1 plugin.2 plugins) basename ↔ plugins.Installed basename := by
      rw [← contains_iff_installed, ← contains_iff_installed, Assoc.contains, Assoc.contains,
        Assoc.get?_put_other .text different.symm]
    exact (inductionHypothesis later).trans one

/-! ## Inputs -/

/-- A text without white space or a slash at its ends. -/
structure Bare (text : List Char) : Prop where
  starts : ∀ c, text.head? = some c → isBlank c = false ∧ c ≠ '/'
  stops : ∀ c, text.getLast? = some c → isBlank c = false ∧ c ≠ '/'

theorem Bare.normalizedInput (bare : Bare input.toList) : normalizedInput input = input.toList := by
  have trimmed : Trimmed input.toList := ⟨fun c first => (bare.starts c first).1, fun c last => (bare.stops c last).1⟩
  rw [InstalledPlugins.normalizedInput, trimmed.trim]
  exact trimBy_eq_self (fun c first => by simpa using (bare.starts c first).2)
    fun c last => by simpa using (bare.stops c last).2

/-- An input as it is cleaned, between slashes with white space around them. -/
def slashed (before : List Char) (input : String) (behind : List Char) : String :=
  String.ofList (before ++ ('/' :: normalizedInput input ++ ['/']) ++ behind)

theorem normalizedInput_slashed {before behind : List Char} (blank : ∀ c ∈ before, isBlank c)
    (blank' : ∀ c ∈ behind, isBlank c) (input : String) :
    normalizedInput (slashed before input behind) = normalizedInput input := by
  have solid : Trimmed ('/' :: normalizedInput input ++ ['/']) := by
    refine ⟨fun c first => ?_, fun c last => ?_⟩
    · cases first
      decide
    · rw [List.getLast?_concat] at last
      cases last
      decide
  have slash : ∀ c ∈ ['/'], (c == '/') = true := List.forall_mem_singleton.mpr rfl
  rw [InstalledPlugins.normalizedInput, slashed, String.toList_ofList, trim, trimBy_append blank blank', ← trim,
    solid.trim]
  exact (trimBy_append slash slash).trans (trimBy_trimBy _ _)

/-! ## The answer -/

/-- What an input comes to among installed plugins. -/
structure Answers (plugins : InstalledPlugins) (input : String) : Prop where
  empty : named input = "" → plugins.resolve input = .error (.invalidPlugin "no plugin given")
  found : named input ≠ "" → ∀ basename, plugins.resolve input = .ok basename ↔ plugins.Means (named input) basename
  refused : named input ≠ "" →
    (plugins.resolve input = .error (.invalidPlugin s!"plugin with slug {named input} is not installed") ↔
      ∀ basename, ¬ plugins.Means (named input) basename)
  installed : ∀ basename, plugins.resolve input = .ok basename → plugins.Installed basename
  /-- A basename that nothing is trimmed off stands for itself. -/
  itself : plugins.Installed input → input ≠ "" → Bare input.toList → plugins.resolve input = .ok input
  slashes : ∀ before behind, (∀ c ∈ before, isBlank c) → (∀ c ∈ behind, isBlank c) →
    plugins.resolve (slashed before input behind) = plugins.resolve input
  /-- Plugins that none of the rules speaks of change nothing. -/
  further : ∀ further : List (String × PluginHeader), (∀ plugin ∈ further, plugin.1 ≠ named input ∧
    ¬ Under (named input) plugin.1 ∧ plugin.1 ≠ named input ++ ".php") →
    (installing further plugins).resolve input = plugins.resolve input

/-- Among the plugins of a map, an input stands for one by the first rule that has one. -/
theorem resolve_answers (ascending : Assoc.Ascending textLess plugins) (input : String) : plugins.Answers input where
  empty := resolve_of_empty
  found some basename := by
    rcases resolve_cases ascending some with ⟨basename', found, means⟩ | ⟨refused, none⟩
    · rw [found, Except.ok.injEq]
      exact ⟨fun same => same ▸ means, means.unique⟩
    · simp [refused, none]
  refused some := by
    rcases resolve_cases ascending some with ⟨basename, found, means⟩ | ⟨refused, none⟩
    · simp only [found, reduceCtorEq, false_iff, not_forall, not_not]
      exact ⟨basename, means⟩
    · exact ⟨fun _ => none, fun _ => refused⟩
  installed basename answer := by
    by_cases some : named input = ""
    · rw [resolve_of_empty some] at answer
      cases answer
    rcases resolve_cases ascending some with ⟨basename', found, means⟩ | ⟨refused, -⟩
    · rw [found, Except.ok.injEq] at answer
      exact answer ▸ means.installed
    · rw [refused] at answer
      cases answer
  itself installed some bare := by
    have same : named input = input := by rw [named, bare.normalizedInput, String.ofList_toList]
    rcases resolve_cases ascending (same.symm ▸ some) with ⟨basename, found, means⟩ | ⟨-, none⟩
    · rw [same] at means
      rw [found, means.unique (.basename installed)]
    · exact absurd (.basename (same.symm ▸ installed)) (none (named input))
  slashes before behind blank blank' := by
    rw [resolve, resolve, normalizedInput_slashed blank blank']
  further further apart := by
    refine resolve_eq_of_agree ascending (ascending_installing further ascending) fun basename concerned => ?_
    refine (installed_installing fun plugin member same => ?_).symm
    obtain ⟨other, outside, otherFile⟩ := apart plugin member
    rcases concerned with rfl | under | rfl
    · exact other same
    · exact outside (same ▸ under)
    · exact otherFile same

/-- Two directories, one of which has two main files, and a plugin of one file. -/
theorem resolve_answers_crowded :
    let plugins : InstalledPlugins :=
      [("bar.php", default), ("bar/b.php", default), ("foo/Z.php", default), ("foo/a.php", default)]
    plugins.Answers " /foo/ " ∧ plugins.resolve " /foo/ " = .ok "foo/Z.php" ∧
      plugins.resolve "bar" = .ok "bar/b.php" ∧ plugins.resolve "bar.php" = .ok "bar.php" := by
  refine ⟨resolve_answers ?_ _, ?_, ?_, ?_⟩
  · unfold Assoc.Ascending
    decide
  · decide +kernel
  · decide +kernel
  · decide +kernel

end PluginAudit.InstalledPlugins
