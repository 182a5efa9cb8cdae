import PluginAudit.Check.Collection

/-!
# The repository of checks

All checks there are.  A slug is used once, and every check belongs to a
category.
-/

namespace PluginAudit

structure CheckFlags where
  static : Bool := true
  runtime : Bool := true
  experimental : Bool := false
deriving DecidableEq, Inhabited

namespace CheckFlags

def none : CheckFlags := ⟨false, false, false⟩

def all : CheckFlags := {}

/-- What is asked for by either of two. -/
def union (a b : CheckFlags) : CheckFlags :=
  ⟨a.static || b.static, a.runtime || b.runtime, a.experimental || b.experimental⟩

/-- The same with or without experimental checks. -/
def withExperimental (flags : CheckFlags) (wanted : Bool) : CheckFlags :=
  { flags with experimental := wanted }

/-- What is asked for once one more word was read. -/
def readWord (read : Option CheckFlags) (word : String) : Option CheckFlags :=
  let add (flags : CheckFlags) : Option CheckFlags := some ((read.getD none).union flags)
  match word with
  | "static" => add ⟨true, false, false⟩
  | "runtime" => add ⟨false, true, false⟩
  | "experimental" => add ⟨false, false, true⟩
  | "all" => add all
  -- these two decide about experimental checks in what was read so far
  | "with" => some ((read.getD all).withExperimental true)
  | "without" => some ((read.getD all).withExperimental false)
  | _ => read

/-- The checks that words ask for, all stable ones if there are no words. -/
def ofWords (words : List String) : CheckFlags := (words.foldl readWord .none).getD all

end CheckFlags

/-- All checks, those that read files apart from those that need a site, each in
the order they were registered in. -/
structure CheckRepository where
  staticChecks : List (String × Check) := []
  runtimeChecks : List (String × Check) := []
deriving Inhabited

namespace CheckRepository

def contains (r : CheckRepository) (slug : String) : Bool :=
  (r.staticChecks ++ r.runtimeChecks).any fun entry => entry.1 == slug

def register (r : CheckRepository) (slug : String) (check : Check) :
    Except Error CheckRepository :=
  if r.contains slug then .error (.duplicateCheck slug)
  else if check.categories.isEmpty then .error (.missingCategories slug)
  else
    match check.mode with
    | .static => .ok { r with staticChecks := r.staticChecks ++ [(slug, check)] }
    | .runtime => .ok { r with runtimeChecks := r.runtimeChecks ++ [(slug, check)] }

/-- Register checks in order, up to the first that cannot be. -/
def registerAll (r : CheckRepository) (checks : List (String × Check)) :
    Except Error CheckRepository :=
  checks.foldlM (fun r (slug, check) => r.register slug check) r

def size (r : CheckRepository) : Nat := r.staticChecks.length + r.runtimeChecks.length

def isEmpty (r : CheckRepository) : Bool := r.size == 0

/-- The checks that are asked for, those that read files first. -/
def select (r : CheckRepository) (flags : CheckFlags) : CheckCollection :=
  let asked := (if flags.static then r.staticChecks else []) ++
    (if flags.runtime then r.runtimeChecks else [])
  ⟨asked.filter fun (_, check) => flags.experimental || !check.isExperimental⟩

end CheckRepository

end PluginAudit
