import Faultline.Cluster.Source
import Faultline.Proofs.Cluster.Selection

/-!
# The way through a kubeconfig file

The way from a kubeconfig file to a connection has four steps: a path is known, the file at it
is read, its text is decoded, and the document leads to a cluster with an address.  Each step
may be the last one, and then a report tells which it was, why it was, and where the file is.

## Main definitions

* `KubeconfigFile.Holds` — the file holds a document.
* `KubeconfigFile.Leads` — the file leads to a connection.
* `Obstacle` — what may stand in the way; `Obstacle.report` — the report on it.
* `KubeconfigFile.Meets` — something stands in the way from a file.

## Main results

* `connect_of_leads`, `connect_of_meets` — what comes of either.
* `connect_ends_in_one_outcome` — **the connection is the one that the file leads to, and a
  failure is the report on what stands in the way**, and there is always one or the other.
-/

namespace Faultline.Cluster

open Yaml (DecodeError)

/-! ### The way -/

namespace KubeconfigFile

/-- There is a file at a known path, and it holds a document. -/
def Holds (k : KubeconfigFile) (files : Files) (path : String) (doc : Kubeconfig) : Prop :=
  k.path = some path ∧ ∃ text, files.read path = .ok text ∧ Kubeconfig.ofText text = .ok doc

/-- A file leads to a connection: its document leads to a cluster with an address. -/
inductive Leads (k : KubeconfigFile) (files : Files) : Connection → Prop
  | intro {path : String} {doc : Kubeconfig} {server : Server} (holds : k.Holds files path doc)
      (uses : doc.Uses server) (address : server.address ≠ "") :
      k.Leads files {
        server := server.address
        token := none
        authority := server.authority
        kubeconfig := some path }

end KubeconfigFile

/-! ### What may stand in the way -/

/-- What may stand in the way from a kubeconfig file to a connection. -/
inductive Obstacle
  /-- No path is known. -/
  | noPath
  /-- The file at the path cannot be read. -/
  | unread (path : String) (e : Host.Error)
  /-- The text of the file is no kubeconfig. -/
  | undecoded (path : String) (e : DecodeError)
  /-- The document leads to no cluster. -/
  | unselected (path : String) (e : SelectionError)
  /-- The address of the cluster is empty. -/
  | noAddress (path : String)
  deriving DecidableEq, Repr

namespace Obstacle

/-- The step at which the way ends. -/
def stage : Obstacle → String
  | unread .. => "outofcluster.read_kubeconfig"
  | undecoded .. => "outofcluster.parse_kubeconfig"
  | _ => "outofcluster.rest_config"

/-- The category of an obstacle.  A file that does not exist was not found, and any other
trouble with it is an internal one; a text that cannot be used is one that cannot be parsed;
the rest does not fit what was asked for. -/
def category : Obstacle → Category
  | noPath => .illegalParam
  | unread _ e => if e.kind = .notFound then .notFound else .internal
  | undecoded .. => .parse
  | unselected _ .noCluster => .parse
  | unselected _ .severalClusters => .illegalParam
  | unselected _ (.noContext _) => .illegalParam
  | unselected _ (.noClusterOf ..) => .illegalParam
  | noAddress _ => .parse

/-- What is said of an obstacle. -/
def text : Obstacle → String
  | noPath => "no kubeconfig path given and HOME is not set"
  | unread _ e => e.cause.joined
  | undecoded _ e => e.message
  | unselected _ e => e.message
  | noAddress _ => "cluster server is empty"

/-- The notes on an obstacle: the selected context where it leads nowhere, and the path. -/
def notes : Obstacle → List (String × String)
  | noPath => []
  | unselected path (.noContext context) => [("context", context), ("path", path)]
  | unselected path (.noClusterOf context _) => [("context", context), ("path", path)]
  | unread path _ | undecoded path _ | unselected path _ | noAddress path => [("path", path)]

/-- The cause of an obstacle, where one comes from outside. -/
def cause : Obstacle → Option Cause
  | unread _ e => some e.cause
  | undecoded _ e => some (.ofText e.message)
  | _ => none

/-- The report on an obstacle. -/
def report (o : Obstacle) (occurrence : Occurrence) : Report where
  occurrence := occurrence
  message := ""
  detail := Report.specified o.text
  operations := [o.stage, "outofcluster.client"]
  category := some o.category
  notes := .ofList o.notes
  cause := o.cause

/-- How a step ends at an obstacle: with the report, which has passed through that step only. -/
def ending {α : Type} (o : Obstacle) (d : Desk) : Outcome α × Desk :=
  (.error (.reported { o.report (d.supply d.issued) with operations := [o.stage] }),
    { d with issued := d.issued + 1 })

end Obstacle

namespace KubeconfigFile

/-- Something stands in the way from a file to a connection, and nothing does before it. -/
inductive Meets (k : KubeconfigFile) (files : Files) : Obstacle → Prop
  /-- No path is known. -/
  | noPath (h : k.path = none) : k.Meets files .noPath
  /-- The file cannot be read. -/
  | unread {path : String} {e : Host.Error} (h : k.path = some path)
      (he : files.read path = .error e) : k.Meets files (.unread path e)
  /-- The file is read, but its text is no kubeconfig. -/
  | undecoded {path text : String} {e : DecodeError} (h : k.path = some path)
      (ht : files.read path = .ok text) (he : Kubeconfig.ofText text = .error e) :
      k.Meets files (.undecoded path e)
  /-- Something is missing in the document. -/
  | unselected {path : String} {doc : Kubeconfig} {e : SelectionError}
      (holds : k.Holds files path doc) (lacks : doc.Lacks e) : k.Meets files (.unselected path e)
  /-- The document leads to a cluster, but that has no address. -/
  | noAddress {path : String} {doc : Kubeconfig} {server : Server}
      (holds : k.Holds files path doc) (uses : doc.Uses server) (address : server.address = "") :
      k.Meets files (.noAddress path)

variable {k : KubeconfigFile} {files : Files} {path text : String} {doc : Kubeconfig}

/-! ### The steps -/

theorem readFile_ok (h : files.read path = .ok text) (d : Desk) :
    readFile files path d = (.ok text, d) := by
  unfold readFile
  rw [h]
  rfl

theorem readFile_error {e : Host.Error} (h : files.read path = .error e) (d : Desk) :
    readFile files path d = (Obstacle.unread path e).ending d := by
  unfold readFile
  rw [h]
  rfl

theorem decode_ok (h : Kubeconfig.ofText text = .ok doc) (d : Desk) :
    decode path text d = (.ok doc, d) := by
  unfold decode
  rw [h]
  rfl

theorem decode_error {e : DecodeError} (h : Kubeconfig.ofText text = .error e) (d : Desk) :
    decode path text d = (Obstacle.undecoded path e).ending d := by
  unfold decode
  rw [h]
  rfl

theorem select_ok {server : Server} (h : doc.Uses server) (d : Desk) :
    select path doc d = (.ok server, d) := by
  unfold select
  rw [Kubeconfig.select_eq_ok_iff.mpr h]
  rfl

theorem select_error {e : SelectionError} (h : doc.Lacks e) (d : Desk) :
    select path doc d = (Obstacle.unselected path e).ending d := by
  unfold select
  rw [Kubeconfig.select_eq_error_iff.mpr h]
  cases e <;> rfl

/-! ### The whole way -/

theorem locate_of_leads {c : Connection} (h : k.Leads files c) (d : Desk) :
    k.locate files d = (.ok c, d) := by
  obtain ⟨⟨hp, text, ht, hd⟩, uses, address⟩ := h
  simp only [locate, hp, locateAt, Work.bind_apply, readFile_ok ht, decode_ok hd, select_ok uses,
    String.isEmpty_iff, address, ↓reduceIte, Work.pure_apply]

/-- The way ends at the first step that fails, and the steps before it leave the desk as it
was. -/
theorem locate_of_meets {o : Obstacle} (h : k.Meets files o) (d : Desk) :
    k.locate files d = o.ending d := by
  cases h with
  | noPath hp =>
    simp only [locate, hp]
    rfl
  | unread hp he =>
    simp only [locate, hp, locateAt, Work.bind_apply, readFile_error he]
    rfl
  | undecoded hp ht he =>
    simp only [locate, hp, locateAt, Work.bind_apply, readFile_ok ht, decode_error he]
    rfl
  | unselected holds lacks =>
    obtain ⟨hp, text, ht, hd⟩ := holds
    simp only [locate, hp, locateAt, Work.bind_apply, readFile_ok ht, decode_ok hd,
      select_error lacks]
    rfl
  | noAddress holds uses address =>
    obtain ⟨hp, text, ht, hd⟩ := holds
    simp only [locate, hp, locateAt, Work.bind_apply, readFile_ok ht, decode_ok hd,
      select_ok uses, address]
    rfl

/-- A file leads to a connection, or something stands in the way. -/
theorem leads_or_meets (k : KubeconfigFile) (files : Files) :
    (∃ c, k.Leads files c) ∨ ∃ o, k.Meets files o := by
  cases hp : k.path with
  | none => exact Or.inr ⟨_, .noPath hp⟩
  | some path =>
    cases ht : files.read path with
    | error e => exact Or.inr ⟨_, .unread hp ht⟩
    | ok text =>
      cases hd : Kubeconfig.ofText text with
      | error e => exact Or.inr ⟨_, .undecoded hp ht hd⟩
      | ok doc =>
        have holds : k.Holds files path doc := ⟨hp, text, ht, hd⟩
        rcases doc.uses_or_lacks with ⟨server, uses⟩ | ⟨e, lacks⟩
        · by_cases address : server.address = ""
          · exact Or.inr ⟨_, .noAddress holds uses address⟩
          · exact Or.inl ⟨_, .intro holds uses address⟩
        · exact Or.inr ⟨_, .unselected holds lacks⟩

/-- A file that leads to a connection gives it, and nothing else happens. -/
theorem connect_of_leads {c : Connection} (h : k.Leads files c) (d : Desk) :
    k.connect files d = (.ok c, d) := by
  rw [connect, Work.bind_apply, locate_of_leads h]
  rfl

/-- Of what stands in the way there is a report of one fresh occurrence, and no notice. -/
theorem connect_of_meets {o : Obstacle} (h : k.Meets files o) (d : Desk) :
    k.connect files d =
      (.error (.reported (o.report (d.supply d.issued))), { d with issued := d.issued + 1 }) := by
  rw [connect, Work.bind_apply, locate_of_meets h]
  rfl

/-- A file holds no more than one document. -/
theorem Holds.unique {path' : String} {doc' : Kubeconfig} (h : k.Holds files path doc)
    (h' : k.Holds files path' doc') : path = path' ∧ doc = doc' := by
  grind [Holds]

/-- No more than one thing stands in the way: the steps before it succeed, and it is met only
at the first one that does not. -/
theorem Meets.unique {o o' : Obstacle} (h : k.Meets files o) (h' : k.Meets files o') : o = o' := by
  cases h with
  | noPath hp => cases h' <;> grind [Holds]
  | unread hp he => cases h' <;> grind [Holds]
  | undecoded hp ht he => cases h' <;> grind [Holds]
  | unselected holds lacks =>
    cases h' <;> grind [Holds, Holds.unique, Kubeconfig.Lacks.unique, Kubeconfig.Uses.not_lacks]
  | noAddress holds uses address =>
    cases h' <;> grind [Holds, Holds.unique, Kubeconfig.Uses.not_lacks]

/-! ### Categories -/

variable {o : Obstacle}

theorem Meets.category_eq_notFound_iff (h : k.Meets files o) :
    o.category = .notFound ↔ ∃ path e, k.Meets files (.unread path e) ∧ e.kind = .notFound := by
  constructor
  · intro hc
    cases o with
    | unread path e => exact ⟨path, e, h, by simpa [Obstacle.category] using hc⟩
    | unselected path e => cases e <;> cases hc
    | _ => cases hc
  · rintro ⟨path, e, h', he⟩
    rw [h.unique h']
    exact if_pos he

theorem Meets.category_eq_internal_iff (h : k.Meets files o) :
    o.category = .internal ↔ ∃ path e, k.Meets files (.unread path e) ∧ e.kind ≠ .notFound := by
  constructor
  · intro hc
    cases o with
    | unread path e => exact ⟨path, e, h, fun he => by simp [Obstacle.category, he] at hc⟩
    | unselected path e => cases e <;> cases hc
    | _ => cases hc
  · rintro ⟨path, e, h', he⟩
    rw [h.unique h']
    exact if_neg he

theorem Meets.category_eq_parse_iff (h : k.Meets files o) :
    o.category = .parse ↔
      (∃ path e, k.Meets files (.undecoded path e)) ∨
        (∃ path, k.Meets files (.unselected path .noCluster)) ∨
        ∃ path, k.Meets files (.noAddress path) := by
  constructor
  · intro hc
    cases o with
    | noPath => cases hc
    | unread path e => by_cases he : e.kind = .notFound <;> simp [Obstacle.category, he] at hc
    | undecoded path e => exact Or.inl ⟨path, e, h⟩
    | unselected path e =>
      cases e with
      | noCluster => exact Or.inr (Or.inl ⟨path, h⟩)
      | _ => cases hc
    | noAddress path => exact Or.inr (Or.inr ⟨path, h⟩)
  · rintro (⟨path, e, h'⟩ | ⟨path, h'⟩ | ⟨path, h'⟩) <;> rw [h.unique h'] <;> rfl

theorem Meets.category_eq_illegalParam_iff (h : k.Meets files o) :
    o.category = .illegalParam ↔
      k.Meets files .noPath ∨
        (∃ path, k.Meets files (.unselected path .severalClusters)) ∨
        (∃ path context, k.Meets files (.unselected path (.noContext context))) ∨
        ∃ path context cluster, k.Meets files (.unselected path (.noClusterOf context cluster)) := by
  constructor
  · intro hc
    cases o with
    | noPath => exact Or.inl h
    | unread path e => by_cases he : e.kind = .notFound <;> simp [Obstacle.category, he] at hc
    | undecoded path e => cases hc
    | unselected path e =>
      cases e with
      | noCluster => cases hc
      | severalClusters => exact Or.inr (Or.inl ⟨path, h⟩)
      | noContext context => exact Or.inr (Or.inr (Or.inl ⟨path, context, h⟩))
      | noClusterOf context cluster =>
        exact Or.inr (Or.inr (Or.inr ⟨path, context, cluster, h⟩))
    | noAddress path => cases hc
  · rintro (h' | ⟨path, h'⟩ | ⟨path, context, h'⟩ | ⟨path, context, cluster, h'⟩) <;>
      rw [h.unique h'] <;> rfl

end KubeconfigFile

/-- **Each attempt ends in one outcome.**  Whatever the files are, a connection is given exactly
if the file leads to it, and a failure exactly if something stands in the way.  Then there is
no second obstacle, and the failure is the report on it: it was opened for this attempt, and
passed through the step where the way ends and through the attempt as a whole.  The category
tells whether the file does not exist, cannot be read, cannot be used, or does not fit what was
asked for. -/
theorem connect_ends_in_one_outcome (k : KubeconfigFile) (files : Files) (d : Desk) :
    (∀ c, (k.connect files d).1 = .ok c ↔ k.Leads files c) ∧
      (∀ f, (k.connect files d).1 = .error f ↔
        ∃ o, k.Meets files o ∧ (∀ o', k.Meets files o' → o' = o) ∧
          f = .reported (o.report (d.supply d.issued))) ∧
      ∀ o, k.Meets files o →
        (o.category = .notFound ↔
          ∃ path e, k.Meets files (.unread path e) ∧ e.kind = .notFound) ∧
        (o.category = .internal ↔
          ∃ path e, k.Meets files (.unread path e) ∧ e.kind ≠ .notFound) ∧
        (o.category = .parse ↔
          (∃ path e, k.Meets files (.undecoded path e)) ∨
            (∃ path, k.Meets files (.unselected path .noCluster)) ∨
            ∃ path, k.Meets files (.noAddress path)) ∧
        (o.category = .illegalParam ↔
          k.Meets files .noPath ∨
            (∃ path, k.Meets files (.unselected path .severalClusters)) ∨
            (∃ path context, k.Meets files (.unselected path (.noContext context))) ∨
            ∃ path context cluster,
              k.Meets files (.unselected path (.noClusterOf context cluster))) := by
  have ways := k.leads_or_meets files
  have leads (c : Connection) (h : k.Leads files c) : (k.connect files d).1 = .ok c := by
    rw [KubeconfigFile.connect_of_leads h]
  have meets (o : Obstacle) (h : k.Meets files o) :
      (k.connect files d).1 = .error (.reported (o.report (d.supply d.issued))) := by
    rw [KubeconfigFile.connect_of_meets h]
  refine ⟨Outcome.eq_ok_iff_of_ways ways leads meets,
    Outcome.eq_error_iff_of_ways ways leads meets fun o o' h h' => h.unique h', fun o h => ?_⟩
  exact ⟨h.category_eq_notFound_iff, h.category_eq_internal_iff, h.category_eq_parse_iff,
    h.category_eq_illegalParam_iff⟩

end Faultline.Cluster
