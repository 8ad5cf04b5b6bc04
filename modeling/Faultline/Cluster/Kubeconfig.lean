import Faultline.Category

/-!
# Kubeconfig documents

The parts of a kubeconfig document that lead to an API server: named clusters,
contexts that refer to them, and the name of the context in use.

## Main definitions

* `Kubeconfig` — the document.
* `Kubeconfig.select` — the cluster in use.
* `SelectionError` — why no cluster is in use.
-/

namespace Faultline.Cluster

/-- How a cluster is reached. -/
structure Server where
  /-- The address of the API server. -/
  address : String
  /-- The path of the certificates by which the server is known. -/
  authority : Option String
  deriving DecidableEq, Repr, Inhabited

/-- A cluster with its name. -/
structure NamedCluster where
  /-- The name; empty when the document gives none. -/
  name : String
  /-- How it is reached. -/
  server : Server
  deriving DecidableEq, Repr, Inhabited

/-- A context with its name. -/
structure NamedContext where
  /-- The name. -/
  name : String
  /-- The name of its cluster. -/
  cluster : String
  deriving DecidableEq, Repr, Inhabited

/-- The parts of a kubeconfig document that lead to an API server. -/
structure Kubeconfig where
  /-- The clusters, in the order of the document. -/
  clusters : List NamedCluster
  /-- The contexts, in the order of the document. -/
  contexts : List NamedContext
  /-- The name of the context in use. -/
  current : Option String
  deriving DecidableEq, Repr, Inhabited

/-! ### Errors -/

/-- Why no cluster is in use. -/
inductive SelectionError
  /-- No context is selected and there is no cluster. -/
  | noCluster
  /-- No context is selected and there are several clusters. -/
  | severalClusters
  /-- The selected context does not exist. -/
  | noContext (context : String)
  /-- The cluster of the selected context does not exist. -/
  | noClusterOf (context cluster : String)
  deriving DecidableEq, Repr

namespace SelectionError

/-- A document without clusters cannot be used at all; in the other cases it does not fit
the selection. -/
def category : SelectionError → Category
  | noCluster => .parse
  | _ => .illegalParam

/-- The text of the error. -/
def message : SelectionError → String
  | noCluster => "kubeconfig defines no cluster"
  | severalClusters => "kubeconfig defines several clusters but no current-context"
  | noContext context => "context '" ++ context ++ "' not found in kubeconfig"
  | noClusterOf _ cluster => "cluster '" ++ cluster ++ "' not found in kubeconfig"

/-- The selected context, if there is one. -/
def context? : SelectionError → Option String
  | noContext context => some context
  | noClusterOf context _ => some context
  | _ => none

end SelectionError

namespace Kubeconfig

/-! ### Selection -/

/-- The name of the selected context; an empty one selects none. -/
def selected? (k : Kubeconfig) : Option String := k.current.filter fun name => !name.isEmpty

/-- The cluster of a context: the first context of that name leads to the first cluster
with the name that it gives. -/
def clusterOf (k : Kubeconfig) (context : String) : Except SelectionError Server :=
  match k.contexts.find? fun c => c.name == context with
  | none => .error (.noContext context)
  | some c =>
    match k.clusters.find? fun n => n.name == c.cluster with
    | none => .error (.noClusterOf context c.cluster)
    | some n => .ok n.server

/-- The only cluster. -/
def onlyCluster (k : Kubeconfig) : Except SelectionError Server :=
  match k.clusters with
  | [] => .error .noCluster
  | [n] => .ok n.server
  | _ => .error .severalClusters

/-- The cluster in use: that of the selected context, or the only one when no context is
selected. -/
def select (k : Kubeconfig) : Except SelectionError Server :=
  match k.selected? with
  | some context => k.clusterOf context
  | none => k.onlyCluster

end Kubeconfig

end Faultline.Cluster
