import Faultline.Cluster.KubeconfigText
import Faultline.Cluster.Mode
import Faultline.Cluster.ServiceAccount

/-!
# Sources of connections

Where a program gets the connection to its cluster from, and what the environment
has to do with it.

## Main definitions

* `KubeconfigFile` — a kubeconfig file as a source.
* `Environment` — the variables of a process.
* `Source` — either of the two sources.
* `Mode.source` — the source that a mode and an environment give.
* `Source.connect` — the connection.
-/

namespace Faultline.Cluster

open Files

/-! ### Kubeconfig files -/

/-- A kubeconfig file as a source of connections. -/
structure KubeconfigFile where
  /-- The path of the file, if one is known. -/
  path : Option String
  deriving DecidableEq, Repr, Inhabited

namespace KubeconfigFile

/-- Fails with a report on a description that tells an operation and the path. -/
def refuse {α : Type} (category : Category) (detail operation path : String) :
    Work (Outcome α) := do
  let f ← Failure.describe category detail
  let f ← f.addOperation operation
  let f ← f.addNote "path" path
  return .error f

/-- Fails because no path is known. -/
def noPath : Work (Outcome Connection) := do
  let f ← Failure.describe .illegalParam "no kubeconfig path given and HOME is not set"
  let f ← f.addOperation "outofcluster.rest_config"
  return .error f

/-- The text of the file. -/
def readFile (files : Files) (path : String) : Work (Outcome String) := do
  match files.read path with
  | .ok text => return .ok text
  | .error e =>
    let f ← Failure.ofSystem e
    let f ← f.addOperation "outofcluster.read_kubeconfig"
    let f ← f.addNote "path" path
    return .error f

/-- The kubeconfig that a text is. -/
def decode (path text : String) : Work (Outcome Kubeconfig) := do
  match Kubeconfig.ofText text with
  | .ok k => return .ok k
  | .error e =>
    let f ← Failure.classify .parse (.ofText e.message)
    let f ← f.addOperation "outofcluster.parse_kubeconfig"
    let f ← f.addNote "path" path
    return .error f

/-- The cluster in use. -/
def select (path : String) (k : Kubeconfig) : Work (Outcome Server) := do
  match k.select with
  | .ok s => return .ok s
  | .error e =>
    let r ← Report.ofDetail e.category e.message
    let r := match e.context? with
      | some context => r.addNote "context" context
      | none => r
    let f ← (Failure.reported r).addOperation "outofcluster.rest_config"
    let f ← f.addNote "path" path
    return .error f

/-- Looks for the connection in a file. -/
def locateAt (files : Files) (path : String) : Work (Outcome Connection) := do
  match ← readFile files path with
  | .error f => return .error f
  | .ok text =>
    match ← decode path text with
    | .error f => return .error f
    | .ok k =>
      match ← select path k with
      | .error f => return .error f
      | .ok server =>
        if server.address.isEmpty then
          refuse .parse "cluster server is empty" "outofcluster.rest_config" path
        else
          return .ok {
            server := server.address
            token := none
            authority := server.authority
            kubeconfig := some path }

/-- Looks for the connection. -/
def locate (k : KubeconfigFile) (files : Files) : Work (Outcome Connection) :=
  match k.path with
  | none => noPath
  | some path => locateAt files path

/-- The connection that the file gives. -/
def connect (k : KubeconfigFile) (files : Files) : Work (Outcome Connection) := do
  let o ← k.locate files
  o.addOperation "outofcluster.client"

end KubeconfigFile

/-! ### The environment -/

/-- The variables of a process. -/
structure Environment where
  /-- The value of a variable. -/
  get? : String → Option String

namespace Environment

/-- The variable that names a kubeconfig file. -/
def kubeconfigVariable : String := "KUBECONFIG"

/-- The variable that names the user's own directory. -/
def homeVariable : String := "HOME"

/-- The path of the kubeconfig file: the one that was chosen, else that of the
environment, else the usual one in the user's directory. -/
def kubeconfigPath (env : Environment) (chosen : Option String) : Option String :=
  match chosen, env.get? kubeconfigVariable with
  | some path, _ => some path
  | none, some path => some path
  | none, none => (env.get? homeVariable).map fun home => join (join home ".kube") "config"

/-- The service account of the pod. -/
def serviceAccount (env : Environment) : ServiceAccount where
  host := env.get? hostVariable
  port := env.get? portVariable
  directory := mountedDirectory

end Environment

/-! ### Sources -/

/-- Where a program gets the connection to its cluster from. -/
inductive Source
  /-- The service account of the pod. -/
  | serviceAccount (account : ServiceAccount)
  /-- A kubeconfig file. -/
  | kubeconfig (file : KubeconfigFile)
  deriving DecidableEq, Repr, Inhabited

namespace Source

/-- The source that a mode and an environment give, without a notice. -/
def ofMode (mode : Mode) (env : Environment) : Source :=
  match mode with
  | .serviceAccount => .serviceAccount env.serviceAccount
  | .kubeconfig path => .kubeconfig ⟨env.kubeconfigPath path⟩

/-- The connection that a source gives. -/
def connect (s : Source) (files : Files) : Work (Outcome Connection) :=
  match s with
  | .serviceAccount a => a.connect files
  | .kubeconfig f => f.connect files

end Source

/-- The source that a mode and an environment give; a notice tells which mode it was. -/
def Mode.source (mode : Mode) (env : Environment) : Work Source := do
  tell (.selecting mode.describe)
  return .ofMode mode env

end Faultline.Cluster
