import PluginAudit.Session

/-!
# When output is coloured

The option of the command line decides, then `NO_COLOR`, then `COLOR`.  Without
any of them output is coloured on a terminal, unless it is that of a build
server.
-/

namespace PluginAudit

inductive ColorMode
  | auto
  | always
  /-- Output is not coloured. -/
  | never
deriving DecidableEq, Inhabited

namespace ColorMode

def name : ColorMode → String
  | auto => "auto"
  | always => "always"
  | never => "never"

def all : List ColorMode := [auto, always, never]

def named? (word : String) : Option ColorMode := all.find? fun mode => mode.name == word

def isColored (mode : ColorMode) (vars : Variables) (terminal : Bool) : Bool :=
  match mode with
  | always => true
  | never => false
  | auto =>
      if vars.isSet "NO_COLOR" then false
      else vars.isSet "COLOR" || (terminal && !vars.isSet "CI")

end ColorMode

end PluginAudit
