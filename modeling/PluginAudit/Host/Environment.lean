import PluginAudit.Error

/-!
# Kinds of sites

A site says of itself what it is used for.
-/

namespace PluginAudit

open PluginAudit.Text

inductive EnvironmentType
  | localSite
  | development
  | staging
  | production
deriving DecidableEq, Inhabited

namespace EnvironmentType

def name : EnvironmentType → String
  | localSite => "local"
  | development => "development"
  | staging => "staging"
  | production => "production"

def all : List EnvironmentType := [localSite, development, staging, production]

/-- The kind a text names, up to case and surrounding space. -/
def parse (text : String) : Except Error EnvironmentType :=
  let wanted := String.ofList (asciiLowercase (trim text.toList))
  match all.find? fun kind => kind.name == wanted with
  | some kind => .ok kind
  | none => .error (.config ("unknown environment type: " ++ wanted) none)

end EnvironmentType

end PluginAudit
