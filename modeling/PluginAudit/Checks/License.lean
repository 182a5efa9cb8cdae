import PluginAudit.Text.Slicing

/-!
# Names of licenses

Comparable forms of the names of licenses.  Two names of one version of the
General Public License get the same form, so `GPLv2 or later` and
`GPL-2.0-or-later` both become `gpl2+`.
-/

namespace PluginAudit

open PluginAudit.Text

namespace License

/-- The replacements that bring names of licenses together, in order. -/
def replacements : List (String × String) :=
  [("gnu general public license", "gpl"), ("or later", "+"), ("or-later", "+"), ("-only", ""),
    (".0", ""), ("version", "")]

def normalize (name : String) : String :=
  let replaced := replacements.foldl
    (fun text (old, new) => replace old.toList new.toList text) (lowercase name.toList)
  let kept := replaced.filter fun c => isAsciiAlphanumeric c || c == '+'
  String.ofList (replace "gplv".toList "gpl".toList kept)

/-- Texts that occur in the names of compatible licenses. -/
def compatibleParts : List String :=
  ["gpl", "gnu", "mit", "freebsd", "new bsd", "bsd-3-clause", "bsd 3 clause", "openldap",
    "expat"]

/-- Whether a name is that of a compatible license. -/
def isCompatible (name : String) : Bool :=
  let lower := lowercase name.toList
  compatibleParts.any fun part => hasInfix part.toList lower

end License

end PluginAudit
