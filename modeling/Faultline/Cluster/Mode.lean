import Faultline.Json.Members

/-!
# How a cluster is reached

A process reaches its cluster through the service account of its pod, or through
a kubeconfig file.  The choice can be given in a configuration file.

## Main definitions

* `Mode` — the choice.
* `Mode.ofJson`, `Mode.json` — the choice within JSON.
* `Mode.describe` — the choice as it is named in notices.
-/

namespace Faultline.Cluster

/-- How a cluster is reached. -/
inductive Mode
  /-- Through the service account of the pod. -/
  | serviceAccount
  /-- Through a kubeconfig file, whose path may be left to the environment. -/
  | kubeconfig (path : Option String)
  deriving DecidableEq, Repr, Inhabited

namespace Mode

/-- The choice when none is made. -/
def standard : Mode := .serviceAccount

/-! ### Writing -/

/-- The names of the two choices. -/
def variants : List String := ["in_cluster", "out_of_cluster"]

/-- A path, or nothing, as a JSON value. -/
def pathValue : Option String → Json.Value
  | none => .null
  | some path => .text path

/-- The choice as a JSON value. -/
def value : Mode → Json.Value
  | .serviceAccount => .text "in_cluster"
  | .kubeconfig path => .object [("out_of_cluster", .object [("kubeconfig", pathValue path)])]

/-- The choice as a JSON document. -/
def json (m : Mode) : String := m.value.write

/-- The choice as it is named in notices. -/
def describe : Mode → String
  | .serviceAccount => "InCluster"
  | .kubeconfig none => "OutOfCluster \x7b kubeconfig: None \x7d"
  | .kubeconfig (some path) =>
    "OutOfCluster \x7b kubeconfig: Some(" ++ Text.quoted path ++ ") \x7d"

/-! ### Reading -/

/-- Reads a path, which may be null. -/
def readPath : Json.Reader (Option String) := fun cs =>
  match Json.skipSpace cs with
  | 'n' :: r => do
    let r ← Json.expectLetters ['u', 'l', 'l'] r
    return (none, r)
  | r => do
    let (path, r) ← Json.wantText "path string" r
    return (some path, r)

/-- Reads the value that stands for nothing. -/
def readNothing (cs : List Char) : Except Json.Fault (List Char) :=
  match Json.skipSpace cs with
  | 'n' :: r => Json.expectLetters ['u', 'l', 'l'] r
  | r => Json.refuse "unit" r

/-- Reads the content of a choice, given its name. -/
def readContent (name : String) : Json.Reader Mode := fun cs =>
  if name = "in_cluster" then do
    let r ← readNothing cs
    return (.serviceAccount, r)
  else do
    let (given, r) ←
      Json.readRecord "struct variant ClusterMode::OutOfCluster" ["kubeconfig"] readPath cs
    return (.kubeconfig ((given.lookup "kubeconfig").getD none), r)

/-- The choice that a name makes by itself. -/
def ofName (name : String) : Except Json.Fault Mode :=
  if name = "in_cluster" then .ok .serviceAccount
  else if name = "out_of_cluster" then
    .error (.mismatch (.kind .unitVariant "struct variant"))
  else .error (.mismatch (.unknownVariant name variants))

/-- Reads the name of a choice, from the character after a brace on.  As for any key of an
object only a text will do: a number or a list in its place is no name of the wrong type but
a fault of the document. -/
def readName : Json.Reader String := fun cs =>
  match Json.skipSpace cs with
  | [] => .error .incomplete
  | '"' :: r => do
    let (name, r) ← Json.readText r
    return (String.ofList name, r)
  | _ => .error .malformed

/-- Reads a choice: a name by itself, or an object whose only member names the choice
and holds its content. -/
def read : Json.Reader Mode := fun cs =>
  match Json.skipSpace cs with
  | [] => .error .incomplete
  | '"' :: r => do
    let (name, r) ← Json.readText r
    let mode ← ofName (String.ofList name)
    return (mode, r)
  | '{' :: r => do
    let (name, r) ← readName r
    if name ∉ variants then throw (.mismatch (.unknownVariant name variants))
    let r ← Json.readColon r
    let (mode, r) ← readContent name r
    match Json.skipSpace r with
    | [] => throw .incomplete
    | '}' :: r => return (mode, r)
    | _ => throw .malformed
  | _ => .error .malformed

/-- The choice that a JSON document makes. -/
def ofJson (text : String) : Except Json.Fault Mode := Json.readAll read text

end Mode

end Faultline.Cluster
