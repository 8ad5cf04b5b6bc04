import Faultline.Host.Error

/-!
# Files

What a program can learn from a file system: the text of a file, or the error
with which reading it fails, and whether there is anything at a path.

## Main definitions

* `Files` — a file system as it is seen by its readers.
* `Files.join` — a path below another one.
-/

namespace Faultline

/-- A file system as it is seen by its readers. -/
structure Files where
  /-- The text of the file at a path. -/
  read : String → Except Host.Error String
  /-- There is something at a path. -/
  holds : String → Bool

namespace Files

/-- The path of a name below another path. -/
def join (base name : String) : String :=
  if base.isEmpty || base.endsWith "/" then base ++ name else base ++ "/" ++ name

end Files

end Faultline
