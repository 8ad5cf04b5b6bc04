import Faultline.Files.Basic

/-!
# File trees

A file system held in memory.  Paths lead through it name by name, with the
rules and the errors of a system call that opens a file for reading.

## Main definitions

* `Tree` — files and folders.
* `Tree.place` — puts a file or a folder at a place, with the folders above it.
* `Tree.lookup` — follows a path.
* `Tree.files` — the tree as its readers see it, below a path of its own.
-/

namespace Faultline.Files

/-- Files and folders. -/
inductive Tree
  /-- A file with its octets. -/
  | file (content : ByteArray)
  /-- A folder with its entries. -/
  | folder (entries : List (String × Tree))
  deriving Inhabited

namespace Tree

/-- The folder without entries. -/
def nothing : Tree := .folder []

/-! ### Building a tree -/

/-- The entry of a name. -/
def child? (name : String) : List (String × Tree) → Option Tree
  | [] => none
  | e :: es => if e.1 = name then some e.2 else child? name es

/-- Sets the entry of a name. -/
def setChild (name : String) (t : Tree) : List (String × Tree) → List (String × Tree)
  | [] => [(name, t)]
  | e :: es => if e.1 = name then (name, t) :: es else e :: setChild name t es

/-- Puts a tree at a place; folders above it that are missing are made. -/
def place (t : Tree) : List String → Tree → Tree
  | [], _ => t
  | name :: names, .folder entries =>
    .folder (setChild name (place t names ((child? name entries).getD nothing)) entries)
  | name :: names, .file _ => .folder [(name, place t names nothing)]

/-! ### Following a path -/

/-- The names in a path; empty ones lie between neighbouring slashes. -/
def names (path : String) : List String := path.splitOn "/"

/-- The greatest length of a name, in octets. -/
def maxName : Nat := 255

/-- The greatest length of a path, in octets. -/
def maxPath : Nat := 4095

/-- Follows names from a folder, whose own folders above are listed innermost first.
An empty name and a dot stay in the folder, two dots leave it. -/
def walk : List String → Tree → List Tree → Except Host.Error Tree
  | [], t, _ => .ok t
  | _ :: _, .file _, _ => .error .notDirectory
  | name :: rest, .folder entries, above =>
    if name = "" ∨ name = "." then walk rest (.folder entries) above
    else if name = ".." then
      match above with
      | [] => walk rest nothing []
      | t :: above => walk rest t above
    else if maxName < name.utf8ByteSize then .error .nameTooLong
    else match child? name entries with
      | none => .error .missing
      | some t => walk rest t (.folder entries :: above)

/-- Follows a path to a tree that lies at the path `home`; nothing is found elsewhere. -/
def lookup (t : Tree) (home path : String) : Except Host.Error Tree :=
  if path.toList.contains '\x00' then .error .nulInPath
  else if path.isEmpty then .error .missing
  else if maxPath < path.utf8ByteSize then .error .nameTooLong
  else
    match names path with
    | [] => .error .missing
    | first :: rest => if first = home then walk rest t [] else walk (first :: rest) nothing []

/-- The tree as its readers see it. -/
def files (t : Tree) (home : String) : Files where
  read path :=
    match t.lookup home path with
    | .error e => .error e
    | .ok (.folder _) => .error .directory
    | .ok (.file content) =>
      match String.fromUTF8? content with
      | some s => .ok s
      | none => .error .notText
  holds path := (t.lookup home path).toBool

end Tree

end Faultline.Files
