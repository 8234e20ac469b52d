import JustRun.Machine.Lines

/-!
# Absolute paths

The components of a path once empty ones, `.` and `..` are gone.
-/
namespace JustRun.Machine

/-- One component after the ones already resolved, the last of them first. -/
def resolveComponent (resolved : List String) (c : String) : List String :=
  if c = "" ∨ c = "." then resolved
  else if c = ".." then resolved.tail
  else c :: resolved

def cleanComponents (path : String) : List String :=
  ((splitOn '/' path).foldl resolveComponent []).reverse

example : cleanComponents "/a//b/../data/." = ["a", "data"] := by decide +kernel

end JustRun.Machine
