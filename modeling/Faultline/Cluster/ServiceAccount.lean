import Faultline.Cluster.Connection
import Faultline.Files.Basic
import Faultline.Outcome
import Faultline.Text.Blank

/-!
# Service accounts

A process in a pod finds the address of the API server in its environment, and the
token and the certificates in the directory of its service account.

## Main definitions

* `ServiceAccount` — where to look.
* `ServiceAccount.connect` — the connection that is found there.
-/

namespace Faultline.Cluster

open Files

/-- Where a process in a pod finds its connection. -/
structure ServiceAccount where
  /-- The host of the API server. -/
  host : Option String
  /-- The port of the API server. -/
  port : Option String
  /-- The directory with the token and the certificates. -/
  directory : String
  deriving DecidableEq, Repr, Inhabited

/-- The variable that names the host. -/
def hostVariable : String := "KUBERNETES_SERVICE_HOST"

/-- The variable that names the port. -/
def portVariable : String := "KUBERNETES_SERVICE_PORT"

/-- Where the platform mounts the service account of a pod. -/
def mountedDirectory : String := "/var/run/secrets/kubernetes.io/serviceaccount"

/-- A text that is there and not empty. -/
def nonempty? (s : Option String) : Option String := s.filter fun s => !s.isEmpty

namespace ServiceAccount

/-- The host and the port, if both are there and neither is empty. -/
def address? (a : ServiceAccount) : Option (String × String) := do
  let host ← nonempty? a.host
  let port ← nonempty? a.port
  return (host, port)

/-- The path of the token. -/
def tokenPath (a : ServiceAccount) : String := join a.directory "token"

/-- The path of the certificates. -/
def authorityPath (a : ServiceAccount) : String := join a.directory "ca.crt"

/-! ### Looking for the connection -/

/-- Fails because the environment does not name the server. -/
def noAddress : Work (Outcome Connection) := do
  let f ← Failure.describe .internal
    ("unable to load in-cluster configuration, " ++ hostVariable ++ " and " ++ portVariable ++
      " must be defined")
  let f ← f.addOperation "incluster.rest_config.env"
  return .error f

/-- Reads a token.  A file that cannot be read is an internal failure, one that holds
nothing but blanks an illegal parameter. -/
def readToken (files : Files) (path : String) : Work (Outcome String) := do
  match files.read path with
  | .error e =>
    let f ← Failure.classify .internal e.cause
    let f ← f.addOperation "incluster.read_token"
    let f ← f.addNote "path" path
    return .error f
  | .ok content =>
    let token := Text.trimmed content
    if token.isEmpty then
      let f ← Failure.describe .illegalParam "service account token is empty"
      let f ← f.addOperation "incluster.read_token"
      let f ← f.addNote "path" path
      return .error f
    else return .ok token

/-- Looks for the connection. -/
def locate (a : ServiceAccount) (files : Files) : Work (Outcome Connection) := do
  match a.address? with
  | none => noAddress
  | some (host, port) =>
    match ← readToken files a.tokenPath with
    | .error f => return .error f
    | .ok token =>
      return .ok {
        server := serverUrl host port
        token := some token
        authority := if files.holds a.authorityPath then some a.authorityPath else none
        kubeconfig := none }

/-- The connection that the service account gives. -/
def connect (a : ServiceAccount) (files : Files) : Work (Outcome Connection) := do
  let o ← a.locate files
  o.addOperation "incluster.client"

end ServiceAccount

end Faultline.Cluster
