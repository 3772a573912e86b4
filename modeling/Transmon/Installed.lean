import Transmon.Fault
import Transmon.Table

/-!
What is installed where the program runs.
-/

namespace Transmon.Installed

structure Package where
  (name version : String)
  files : Option Names := none

def lastPart (p : String) := ((p.splitOn "/").filter (· ≠ "")).getLastD ""

def Package.isEditable (p : Package) := do
  let some fs := p.files | pure false
  return (lastPart (← itemAt fs 0)).startsWith "__editable__."

def versions (interpreter : String) (packages : List Package) : Outcome (Table String String) := do
  let es ← packages.mapM fun p =>
    return (p.name, if ← p.isEditable then p.version ++ " (local editable)" else p.version)
  return .ofList (("python", interpreter) :: es)

def parts (path : String) := (path.splitOn "/").filter fun p => p ≠ "" && p ≠ "."

def isWorkingCopy (dir : String) (fs : Names) :=
  let folder := parts dir ++ [".git"]
  fs.any fun file => folder.isPrefixOf (parts file) && folder.length < (parts file).length

def describing := ["git", "describe", "--dirty", "--tags", "--long"]

end Transmon.Installed
