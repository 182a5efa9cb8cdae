import PluginAudit.Proofs.Findings
import PluginAudit.Proofs.Plugin.Context

/-!
# Files that findings name

The files of a plugin are named relative to its directory, which undoes that the directory was
put before them.  All other files keep the text they were given by, with forward slashes.
-/

namespace PluginAudit

open PluginAudit.Text
open Disk (IsName)

/-- A text with forward slashes in place of backslashes. -/
def slashed (text : String) : String := text.map fun c => if c = '\\' then '/' else c

theorem slashed_eq_self {text : String} (none : '\\' ∉ text.toList) : slashed text = text := by
  apply String.toList_injective
  rw [slashed, String.toList_map]
  refine (List.map_congr_left fun c member => ?_).trans (List.map_id _)
  by_cases same : c = '\\'
  · exact absurd (same ▸ member) none
  · simp [same]

namespace PluginContext

variable {names : List String}

/-- A sub-path of names is joined to the directory as it is. -/
theorem path_names (some : names ≠ []) (isName : ∀ name ∈ names, IsName name) (context : PluginContext) :
    context.path ("/".intercalate names) = context.directory.join ("/".intercalate names) := by
  have relative := (Path.plain_names some isName).isAbsolute
  rw [Disk.isAbsolute_eq] at relative
  have kept : withoutLeadingSlashes ("/".intercalate names) = "/".intercalate names := by
    apply String.toList_injective
    rw [withoutLeadingSlashes, String.toList_ofList, trimStartBy]
    cases text_eq : ("/".intercalate names).toList with
    | nil => rfl
    | cons c cs =>
      rw [text_eq] at relative
      exact List.dropWhile_cons_of_neg (by simpa using relative)
  rw [path, kept]
  cases names with
  | nil => exact absurd rfl some
  | cons name others =>
    have given : ("/".intercalate (name :: others)).isEmpty = false := by
      have nonempty := (isName name List.mem_cons_self).2.1
      cases others <;> simp [nonempty]
    rw [given]
    rfl

end PluginContext

namespace Findings

variable {context : PluginContext} {names : List String}

theorem relativeFile_eq {file : String} (given : file ≠ "") :
    relativeFile context file = slashed (((Path.mk file).below? context.directory).getD ⟨file⟩).text := by
  rw [relativeFile, if_neg (by simpa using given)]
  apply String.toList_injective
  simp [slashed]

/-- The directory that was put before a file of the plugin is taken off again. -/
theorem relativeFile_path (some : names ≠ []) (isName : ∀ name ∈ names, IsName name)
    (noBackslash : ∀ name ∈ names, '\\' ∉ name.toList) :
    relativeFile context (context.path ("/".intercalate names)).text = "/".intercalate names := by
  have below := Path.below?_join_names some isName context.directory
  -- an empty text would be no file of the plugin
  have given : (context.directory.join ("/".intercalate names)).text ≠ "" := by
    intro empty
    have components := Path.components_join_plain (Path.plain_names some isName) context.directory
    rw [show context.directory.join ("/".intercalate names) = ⟨""⟩ from congrArg Path.mk empty,
      Path.named_names isName] at components
    exact some (List.map_eq_nil_iff.mp (List.append_eq_nil_iff.mp components.symm).2)
  rw [PluginContext.path_names some isName, relativeFile_eq given, below]
  apply slashed_eq_self
  rw [Option.getD_some, Path.toList_intercalate_slash]
  apply not_mem_joinWith (by decide)
  intro piece member
  obtain ⟨name, named, rfl⟩ := List.mem_map.mp member
  exact noBackslash name named

/-- A file that does not lie in the directory of the plugin keeps its text. -/
theorem relativeFile_outside {file : Path} (outside : file.startsWith context.directory = false) :
    relativeFile context file.text = slashed file.text := by
  by_cases given : file.text = ""
  · simp [relativeFile, slashed, given]
  · have notBelow : file.below? context.directory = .none := by
      apply Option.not_isSome_iff_eq_none.mp
      simp [Path.isSome_below?, outside]
    rw [relativeFile_eq given, notBelow, Option.getD_none]

/-- Messages about a file are stored under a key: whatever was found before, a finding about the
file adds its message to those of its severity under the key, at its line and column, and to no
others. -/
def FiledUnder (context : PluginContext) (file : Path) (key : String) : Prop :=
  ∀ (earlier : List Finding) (finding : Finding), finding.file = file.text →
    ∀ severity name line column,
      ((((none context).addAll earlier).add finding).stored severity).at' name line column =
        (((none context).addAll earlier).stored severity).at' name line column ++
          if finding.severity = severity ∧ key = name ∧ finding.line = line ∧ finding.column = column then
            [finding.message]
          else []

theorem filedUnder_relativeFile (context : PluginContext) (file : Path) :
    FiledUnder context file (relativeFile context file.text) := by
  intro earlier finding about severity name line column
  rw [at'_stored_add ((counted_none context).addAll earlier), context_addAll]
  congr 1
  show messagesAt context severity name line column [finding] = _
  by_cases here : finding.severity = severity ∧ relativeFile context file.text = name ∧
      finding.line = line ∧ finding.column = column
  · simp [messagesAt, about, here]
  · rw [if_neg here]
    simp [messagesAt, about, here]

/-- Messages about a file of the plugin are stored under what the path of the file has behind
the directory of the plugin, and messages about any other file under the text of its path. -/
theorem filed_by_directory {mainFile plugins : Path} {own : Option String} {file : String}
    (isMain : mainFile.IsMainFile plugins own file) (address : String) :
    let context := PluginContext.ofMainFile mainFile plugins address
    context.basename = own.elim file (· ++ "/" ++ file) ∧
      context.directory.components =
        plugins.components ++ own.toList.map (fun directory => .normal directory.toList) ∧
      (∀ names : List String, names ≠ [] → (∀ name ∈ names, IsName name ∧ '\\' ∉ name.toList) →
        FiledUnder context (context.path ("/".intercalate names)) ("/".intercalate names)) ∧
      ∀ path : Path, path.startsWith context.directory = false → FiledUnder context path (slashed path.text) := by
  intro context
  refine ⟨PluginContext.basename_ofMainFile isMain address, PluginContext.components_directory isMain.liesIn address,
    fun names some plain => ?_, fun path outside => ?_⟩
  · have filed := filedUnder_relativeFile context (context.path ("/".intercalate names))
    rwa [relativeFile_path some (fun name member => (plain name member).1)
      (fun name member => (plain name member).2)] at filed
  · have filed := filedUnder_relativeFile context path
    rwa [relativeFile_outside outside] at filed

/-- A plugin next to one whose directory has a name that goes on. -/
theorem filed_by_directory_form :
    (Path.mk "plugins/form/form.php").IsMainFile ⟨"plugins"⟩ (some "form") "form.php" ∧
      (PluginContext.ofMainFile ⟨"plugins/form/form.php"⟩ ⟨"plugins"⟩ "").basename = "form/form.php" ∧
      FiledUnder (.ofMainFile ⟨"plugins/form/form.php"⟩ ⟨"plugins"⟩ "") ⟨"plugins/form/inc/a.php"⟩ "inc/a.php" ∧
      FiledUnder (.ofMainFile ⟨"plugins/form/form.php"⟩ ⟨"plugins"⟩ "") ⟨"plugins/form-extra\\b.php"⟩
        "plugins/form-extra/b.php" := by
  have isMain : (Path.mk "plugins/form/form.php").IsMainFile ⟨"plugins"⟩ (some "form") "form.php" := by
    decide +kernel
  have plain : ∀ name ∈ ["inc", "a.php"], IsName name ∧ '\\' ∉ name.toList := by decide +kernel
  have sibling : (Path.mk "plugins/form-extra\\b.php").startsWith
      (PluginContext.ofMainFile ⟨"plugins/form/form.php"⟩ ⟨"plugins"⟩ "").directory = false := by
    decide +kernel
  obtain ⟨basename, -, inside, outside⟩ := filed_by_directory isMain ""
  have here := inside ["inc", "a.php"] (by decide) plain
  have there := outside ⟨"plugins/form-extra\\b.php"⟩ sibling
  have written : PluginContext.path (.ofMainFile ⟨"plugins/form/form.php"⟩ ⟨"plugins"⟩ "")
      ("/".intercalate ["inc", "a.php"]) = ⟨"plugins/form/inc/a.php"⟩ := by decide +kernel
  have name : "/".intercalate ["inc", "a.php"] = "inc/a.php" := by decide +kernel
  have text : slashed "plugins/form-extra\\b.php" = "plugins/form-extra/b.php" := by decide +kernel
  rw [written, name] at here
  rw [text] at there
  exact ⟨isMain, basename, here, there⟩

end Findings

end PluginAudit
