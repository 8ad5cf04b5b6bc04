import Faultline.Cluster.Kubeconfig

/-!
# The cluster in use

Which cluster a kubeconfig document leads to, and why it may lead to none, said of the
document and not of the search through it.

## Main definitions

* `IsFirst` — the first member of a list with a property.
* `Kubeconfig.Selects` — a document selects a context.
* `Kubeconfig.Uses` — the cluster that a document leads to.
* `Kubeconfig.Lacks` — what is missing in a document that leads to none.

## Main results

* `Kubeconfig.select_eq_ok_iff` — the selection gives the cluster in use.
* `Kubeconfig.select_eq_error_iff` — the selection fails with what is missing.
-/

namespace Faultline.Cluster

/-! ### First members -/

/-- A member of a list has a property, and none before it does. -/
def IsFirst {α : Type} (p : α → Prop) (a : α) (l : List α) : Prop :=
  p a ∧ ∃ before after, l = before ++ a :: after ∧ ∀ b ∈ before, ¬ p b

/-- What is found by its name is the first member of that name. -/
theorem find?_name_eq_some_iff {α : Type} {name : α → String} {wanted : String} {a : α}
    {l : List α} :
    (l.find? fun x => name x == wanted) = some a ↔ IsFirst (fun x => name x = wanted) a l := by
  simp only [List.find?_eq_some_iff_append, IsFirst, beq_iff_eq, Bool.not_eq_eq_eq_not,
    Bool.not_true, beq_eq_false_iff_ne, ne_eq]

/-- Nothing is found by a name that no member has. -/
theorem find?_name_eq_none_iff {α : Type} {name : α → String} {wanted : String} {l : List α} :
    (l.find? fun x => name x == wanted) = none ↔ ∀ x ∈ l, name x ≠ wanted := by
  simp only [List.find?_eq_none, beq_iff_eq, ne_eq]

namespace Kubeconfig

variable {k : Kubeconfig} {context : String} {s : Server} {e : SelectionError}

/-! ### What a document leads to -/

/-- A document selects a context: it names one, and the name is not empty. -/
def Selects (k : Kubeconfig) (context : String) : Prop :=
  k.current = some context ∧ context ≠ ""

/-- A document leads to a cluster. -/
inductive Uses (k : Kubeconfig) : Server → Prop
  /-- No context is selected, and there is one cluster only. -/
  | only {n : NamedCluster} (free : ∀ context, ¬ k.Selects context) (h : k.clusters = [n]) :
      k.Uses n.server
  /-- The first context of the selected name names the cluster, of whose name it is the first. -/
  | ofContext {context : String} {c : NamedContext} {n : NamedCluster}
      (selected : k.Selects context) (hc : IsFirst (fun x => x.name = context) c k.contexts)
      (hn : IsFirst (fun x => x.name = c.cluster) n k.clusters) : k.Uses n.server

/-- Something is missing in a document, so that it leads to no cluster. -/
inductive Lacks (k : Kubeconfig) : SelectionError → Prop
  /-- No context is selected, and there is no cluster. -/
  | noCluster (free : ∀ context, ¬ k.Selects context) (h : k.clusters = []) : k.Lacks .noCluster
  /-- No context is selected, and there are several clusters. -/
  | severalClusters (free : ∀ context, ¬ k.Selects context) (h : 2 ≤ k.clusters.length) :
      k.Lacks .severalClusters
  /-- No context has the selected name. -/
  | noContext {context : String} (selected : k.Selects context)
      (h : ∀ c ∈ k.contexts, c.name ≠ context) : k.Lacks (.noContext context)
  /-- No cluster has the name that the first context of the selected name gives. -/
  | noClusterOf {context : String} {c : NamedContext} (selected : k.Selects context)
      (hc : IsFirst (fun x => x.name = context) c k.contexts)
      (h : ∀ n ∈ k.clusters, n.name ≠ c.cluster) : k.Lacks (.noClusterOf context c.cluster)

/-! ### The selection -/

theorem selected?_eq_some_iff : k.selected? = some context ↔ k.Selects context := by
  simp [selected?, Selects, Option.filter_eq_some_iff]

theorem selected?_eq_none_iff : k.selected? = none ↔ ∀ context, ¬ k.Selects context := by
  rw [Option.eq_none_iff_forall_ne_some]
  exact forall_congr' fun context => not_congr selected?_eq_some_iff

theorem select_of_uses (h : k.Uses s) : k.select = .ok s := by
  unfold select
  cases h with
  | only free h =>
    rw [selected?_eq_none_iff.mpr free]
    simp [onlyCluster, h]
  | ofContext selected hc hn =>
    rw [selected?_eq_some_iff.mpr selected]
    simp [clusterOf, find?_name_eq_some_iff.mpr hc, find?_name_eq_some_iff.mpr hn]

theorem select_of_lacks (h : k.Lacks e) : k.select = .error e := by
  unfold select
  cases h with
  | noCluster free h =>
    rw [selected?_eq_none_iff.mpr free]
    simp [onlyCluster, h]
  | severalClusters free h =>
    rw [selected?_eq_none_iff.mpr free]
    obtain ⟨n, m, ns, hns⟩ : ∃ n m ns, k.clusters = n :: m :: ns := by
      match hk : k.clusters with
      | [] => simp [hk] at h
      | [n] => simp [hk] at h
      | n :: m :: ns => exact ⟨n, m, ns, rfl⟩
    simp [onlyCluster, hns]
  | noContext selected h =>
    rw [selected?_eq_some_iff.mpr selected]
    simp [clusterOf, find?_name_eq_none_iff.mpr h]
  | noClusterOf selected hc h =>
    rw [selected?_eq_some_iff.mpr selected]
    simp [clusterOf, find?_name_eq_some_iff.mpr hc, find?_name_eq_none_iff.mpr h]

/-- A document leads to a cluster, or something is missing in it. -/
theorem uses_or_lacks (k : Kubeconfig) : (∃ s, k.Uses s) ∨ ∃ e, k.Lacks e := by
  cases hs : k.selected? with
  | none =>
    have free := selected?_eq_none_iff.mp hs
    match hk : k.clusters with
    | [] => exact Or.inr ⟨_, .noCluster free hk⟩
    | [n] => exact Or.inl ⟨_, .only free hk⟩
    | n :: m :: ns => exact Or.inr ⟨_, .severalClusters free (by simp [hk])⟩
  | some context =>
    have selected := selected?_eq_some_iff.mp hs
    cases hc : k.contexts.find? fun c => c.name == context with
    | none => exact Or.inr ⟨_, .noContext selected (find?_name_eq_none_iff.mp hc)⟩
    | some c =>
      have first := find?_name_eq_some_iff.mp hc
      cases hn : k.clusters.find? fun n => n.name == c.cluster with
      | none => exact Or.inr ⟨_, .noClusterOf selected first (find?_name_eq_none_iff.mp hn)⟩
      | some n => exact Or.inl ⟨_, .ofContext selected first (find?_name_eq_some_iff.mp hn)⟩

/-- **The selection gives the cluster in use.** -/
theorem select_eq_ok_iff : k.select = .ok s ↔ k.Uses s := by
  refine ⟨fun h => ?_, select_of_uses⟩
  rcases k.uses_or_lacks with ⟨t, ht⟩ | ⟨e, he⟩
  · obtain rfl : t = s := by simpa [select_of_uses ht] using h
    exact ht
  · simp [select_of_lacks he] at h

/-- **The selection fails with what is missing.** -/
theorem select_eq_error_iff : k.select = .error e ↔ k.Lacks e := by
  refine ⟨fun h => ?_, select_of_lacks⟩
  rcases k.uses_or_lacks with ⟨t, ht⟩ | ⟨e', he⟩
  · simp [select_of_uses ht] at h
  · obtain rfl : e' = e := by simpa [select_of_lacks he] using h
    exact he

/-- No more than one thing is missing in a document. -/
theorem Lacks.unique {e' : SelectionError} (h : k.Lacks e) (h' : k.Lacks e') : e = e' :=
  Except.error.inj ((select_of_lacks h).symm.trans (select_of_lacks h'))

/-- Nothing is missing in a document that leads to a cluster. -/
theorem Uses.not_lacks (h : k.Uses s) : ¬ k.Lacks e :=
  fun h' => nomatch (select_of_uses h).symm.trans (select_of_lacks h')

end Kubeconfig

end Faultline.Cluster
