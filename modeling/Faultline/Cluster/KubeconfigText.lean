import Faultline.Cluster.Kubeconfig
import Faultline.Yaml.Shape

/-!
# Kubeconfig texts

Reading a kubeconfig document out of a YAML text.

## Main definitions

* `Kubeconfig.ofDocument` — the kubeconfig that a YAML document is.
* `Kubeconfig.ofText` — the kubeconfig that a text is.
-/

namespace Faultline.Cluster

open Yaml Document

/-! ### Readers -/

/-- Reads a record: its members, starting from what is known before, and then what they
make up. -/
def readRecord {σ α : Type} (d : Document) (wanted : String) (start : σ)
    (members : Path × Mark → Members σ) (finish : Path × Mark → σ → Shaped α)
    (path : Path) (n : Node) : Shaped α := do
  let (m, es) ← d.entries wanted path n
  let x ← d.membersFrom (members (path, m)) (path, m) [] start es
  finish (path, m) x

/-- Reads how a cluster is reached. -/
def readServer (d : Document) : Path → Node → Shaped Server :=
  readRecord d "struct ClusterEntry" ((none, none) : Option String × Option String)
    (fun owner => {
      names := ["server", "certificate-authority"]
      read := fun name path n x =>
        if name = "server" then do
          let s ← d.text "a string" path n
          return (some s, x.2)
        else do
          let a ← d.optionalText owner "path string" path n
          return (x.1, a) })
    (fun owner x => do
      let address ← required owner "server" x.1
      return ⟨address, x.2⟩)

/-- Reads a cluster with its name. -/
def readCluster (d : Document) : Path → Node → Shaped NamedCluster :=
  readRecord d "struct NamedCluster" ((none, none) : Option String × Option Server)
    (fun _ => {
      names := ["name", "cluster"]
      read := fun name path n x =>
        if name = "name" then do
          let s ← d.text "a string" path n
          return (some s, x.2)
        else do
          let s ← readServer d path n
          return (x.1, some s) })
    (fun owner x => do
      let server ← required owner "cluster" x.2
      return ⟨x.1.getD "", server⟩)

/-- Reads the content of a context: the name of its cluster. -/
def readContextEntry (d : Document) : Path → Node → Shaped String :=
  readRecord d "struct ContextEntry" (none : Option String)
    (fun _ => {
      names := ["cluster"]
      read := fun _ path n _ => do
        let s ← d.text "a string" path n
        return some s })
    (fun owner x => required owner "cluster" x)

/-- Reads a context with its name. -/
def readContext (d : Document) : Path → Node → Shaped NamedContext :=
  readRecord d "struct NamedContext" ((none, none) : Option String × Option String)
    (fun _ => {
      names := ["name", "context"]
      read := fun name path n x =>
        if name = "name" then do
          let s ← d.text "a string" path n
          return (some s, x.2)
        else do
          let s ← readContextEntry d path n
          return (x.1, some s) })
    (fun owner x => do
      let name ← required owner "name" x.1
      let cluster ← required owner "context" x.2
      return ⟨name, cluster⟩)

/-- Reads a kubeconfig. -/
def readKubeconfig (d : Document) : Path → Node → Shaped Kubeconfig :=
  readRecord d "struct Kubeconfig" (⟨[], [], none⟩ : Kubeconfig)
    (fun owner => {
      names := ["clusters", "contexts", "current-context"]
      read := fun name path n x =>
        if name = "clusters" then do
          let cs ← d.items (readCluster d) path n
          return { x with clusters := cs }
        else if name = "contexts" then do
          let cs ← d.items (readContext d) path n
          return { x with contexts := cs }
        else do
          let c ← d.optionalText owner "a string" path n
          return { x with current := c } })
    (fun _ x => return x)

/-! ### Texts -/

/-- The kubeconfig that a YAML document is; an empty one defines nothing. -/
def Kubeconfig.ofDocument (d : Document) : Except DecodeError Kubeconfig :=
  match d.root with
  | some n => (readKubeconfig d .root n).run' 0
  | none => .ok ⟨[], [], none⟩

/-- The kubeconfig that a text is.  What does not fit in its first document is told before it is
told that the text cannot be read any further, or that it goes on behind that document. -/
def Kubeconfig.ofText (text : String) : Except DecodeError Kubeconfig :=
  let x := Excerpt.ofText text
  match Kubeconfig.ofDocument x.document with
  | .error e => .error e
  | .ok k => if x.whole then .ok k else .error .unreadable

end Faultline.Cluster
