import PluginAudit.Host
import PluginAudit.Plugin.Context
import PluginAudit.Proofs.Path

/-!
# Where plugins lie

The main file of a plugin lies in a directory of its own below that of all plugins, or right
in the latter.  Its directory and the way it is named follow from the components of its path.
-/

namespace PluginAudit

open PluginAudit.Text

/-- A main file lies in a directory of its own below that of all plugins or, without
own directory, right in the latter. -/
def Path.LiesIn (mainFile plugins : Path) (own : Option String) : Prop :=
  ∃ parent, mainFile.parent? = some parent ∧
    parent.components = plugins.components ++ own.toList.map fun directory => .normal directory.toList

/-- The path of the main file of a plugin, however it is written: its components are those of
the directory of all plugins, the own directory if there is one, and the name of the file. -/
def Path.IsMainFile (mainFile plugins : Path) (own : Option String) (file : String) : Prop :=
  mainFile.components = plugins.components ++ (own.toList ++ [file]).map fun name => .normal name.toList

instance (mainFile plugins : Path) (own : Option String) (file : String) :
    Decidable (mainFile.IsMainFile plugins own file) :=
  inferInstanceAs (Decidable (_ = _))

namespace Path.IsMainFile

open Disk (IsName)

variable {mainFile plugins : Path} {own : Option String} {file directory : String}

theorem join (plugins : Path) (isName : IsName file) : (plugins.join file).IsMainFile plugins none file :=
  components_join isName plugins

theorem liesIn (isMain : mainFile.IsMainFile plugins own file) : mainFile.LiesIn plugins own := by
  rw [IsMainFile, List.map_append, ← List.append_assoc] at isMain
  exact exists_parent? isMain

theorem fileName? (isMain : mainFile.IsMainFile plugins own file) : mainFile.fileName? = some file := by
  rw [IsMainFile, List.map_append, ← List.append_assoc] at isMain
  exact fileName?_of_components isMain

end Path.IsMainFile

namespace PluginContext

variable {mainFile plugins : Path} {own : Option String}

theorem same_iff_of_components {parent : Path}
    (components : parent.components =
      plugins.components ++ own.toList.map fun directory => .normal directory.toList) :
    parent.same plugins = own.isNone := by
  cases own with
  | none => simp [Path.same, components]
  | some directory => simp [Path.same, components]

theorem components_directory (lies : mainFile.LiesIn plugins own) (address : String) :
    (ofMainFile mainFile plugins address).directory.components =
      plugins.components ++ own.toList.map fun directory => .normal directory.toList := by
  obtain ⟨parent, isParent, components⟩ := lies
  simp only [ofMainFile, isParent]
  split <;> exact components

theorem address_ofMainFile (lies : mainFile.LiesIn plugins own) (address : String) :
    (ofMainFile mainFile plugins address).address =
      Host.withoutTrailingSlashes address ++ "/" ++ own.elim "" (· ++ "/") := by
  obtain ⟨parent, isParent, components⟩ := lies
  simp only [ofMainFile, isParent, Option.getD_some, same_iff_of_components components]
  cases own with
  | none => simp [Host.withoutTrailingSlashes]
  | some directory =>
    have named : parent.fileName? = some directory := Path.fileName?_of_components components
    simp [named, Host.withoutTrailingSlashes, String.append_assoc]

theorem isSingleFile_ofMainFile (lies : mainFile.LiesIn plugins own) (address : String) :
    (ofMainFile mainFile plugins address).isSingleFile = own.isNone := by
  obtain ⟨parent, isParent, components⟩ := lies
  simp only [ofMainFile, isParent, Option.getD_some, same_iff_of_components components]
  cases own with
  | none => simpa [isSingleFile] using mainFile.slash_not_mem_fileName
  | some directory => simp [isSingleFile]

/-- A plugin is named by its file, behind the directory if it has one of its own. -/
theorem basename_ofMainFile {file : String} (isMain : mainFile.IsMainFile plugins own file) (address : String) :
    (ofMainFile mainFile plugins address).basename = own.elim file (· ++ "/" ++ file) := by
  obtain ⟨parent, isParent, components⟩ := isMain.liesIn
  simp only [ofMainFile, isParent, isMain.fileName?, Option.getD_some, same_iff_of_components components]
  cases own with
  | none => rfl
  | some directory =>
    have named : parent.fileName? = some directory := Path.fileName?_of_components components
    simp [named]

end PluginContext

end PluginAudit
