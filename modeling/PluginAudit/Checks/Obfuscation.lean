import PluginAudit.Checks.Files
import PluginAudit.Pattern

/-!
# Obfuscated code

Tools that make code unreadable leave signatures in the files they change.  A
file is reported once for each tool, at the first signature.
-/

namespace PluginAudit

open PluginAudit.Text

inductive ObfuscationTool
  | zend
  | sourceGuardian
  | ionCube
deriving DecidableEq, Inhabited

namespace ObfuscationTool

/-- The name of a tool in a configuration. -/
def name : ObfuscationTool → String
  | zend => "zend"
  | sourceGuardian => "sourceguardian"
  | ionCube => "ioncube"

def label : ObfuscationTool → String
  | zend => "Zend Guard"
  | sourceGuardian => "Source Guardian"
  | ionCube => "ionCube"

/-- The texts that a tool leaves in files. -/
def signatures : ObfuscationTool → List String
  | zend => ["<?php @Zend;", "This file was encoded by"]
  | sourceGuardian => ["sourceguardian.com", "function_exists('sg_load')", "$__x="]
  | ionCube => ["ionCube Loader"]

def all : List ObfuscationTool := [zend, sourceGuardian, ionCube]

def parse (text : String) : Except Error ObfuscationTool :=
  let wanted := String.ofList (asciiLowercase (trim text.toList))
  match all.find? fun tool => tool.name == wanted with
  | some tool => .ok tool
  | none =>
      .error (.config ("unknown obfuscation tool \x60" ++ wanted ++
        "\x60 in check.code_obfuscation.tools") none)

/-- The pattern for the signatures of a tool. -/
def pattern (tool : ObfuscationTool) : Pattern := .literals (tool.signatures.map String.toList)

end ObfuscationTool

namespace ObfuscationCheck

/-- The finding of a tool in a source, if it left a signature there. -/
def toolFinding? (path : Path) (source : String) (tool : ObfuscationTool) :
    Except Error (Option Finding) :=
  (tool.pattern.locateFirst source).map fun first => first.map fun found =>
    { severity := .error
      text := "Code Obfuscation tools are not allowed. Detected: " ++ tool.label
      code := "obfuscated_code_detected"
      file := path.text
      line := found.position.line.toNat
      column := found.position.column.toNat }

/-- What tools left in a source. -/
def lookInto (tools : List ObfuscationTool) (path : Path) (source : String) : CheckOutcome :=
  .each tools fun tool =>
    .needing (toolFinding? path source tool) fun finding => .found finding.toList

/-- The findings about all source files of a plugin. -/
def look (wanted : List ObfuscationTool) (context : PluginContext) (disk : Disk) :
    CheckOutcome :=
  let tools := ObfuscationTool.all.filter wanted.contains
  .each (context.sourceFiles disk) fun file =>
    match file.source? disk with
    | some source => lookInto tools file.path source
    | none => .found []

def check (wanted : List ObfuscationTool) : Check :=
  .ofFiles [.pluginRepo] "Detects the usage of code obfuscation tools."
    (handbook ++ "wordpress-org/detailed-plugin-guidelines/#4-code-must-be-mostly-human-readable")
    (look wanted)

end ObfuscationCheck

end PluginAudit
