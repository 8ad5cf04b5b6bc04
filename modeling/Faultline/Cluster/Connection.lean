/-!
# Connections

What a program needs to know in order to talk to the API server of a cluster.

## Main definitions

* `Connection` — the address of the server and what goes with it.
* `serverUrl` — the address made of a host and a port.
-/

namespace Faultline.Cluster

/-- What a program needs to know in order to talk to an API server. -/
structure Connection where
  /-- The address of the server. -/
  server : String
  /-- The token with which a service account identifies itself. -/
  token : Option String
  /-- The path of the certificates by which the server is known. -/
  authority : Option String
  /-- The path of the kubeconfig file that says all this. -/
  kubeconfig : Option String
  deriving DecidableEq, Repr, Inhabited

/-- A host as it stands in an address: one that holds a colon is put between brackets. -/
def bracketed (host : String) : String :=
  if host.toList.contains ':' then "[" ++ host ++ "]" else host

/-- The address of the server at a host and a port. -/
def serverUrl (host port : String) : String := "https://" ++ bracketed host ++ ":" ++ port

end Faultline.Cluster
