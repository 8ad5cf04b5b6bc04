import Faultline.Proofs.Cluster.KubeconfigFile

/-!
# The order of a kubeconfig

The selection looks for the first context and the first cluster of a name.  Where no name is
given twice there is only one, so the order in which a document lists them does not matter: it
leads to the same cluster, or lacks the same thing.

## Main definitions

* `Kubeconfig.Reordered` — two documents differ in order only.
* `Kubeconfig.Distinct` — no name is given twice.
* `Kubeconfig.Vacant` — there is nothing to choose from.

## Main results

* `isFirst_iff_mem` — where names are distinct, the first of a name is the one that has it.
* `Kubeconfig.select_eq_of_reordered` — the order does not matter.
* `selection_exact_in_any_order` — **when the selection gives a cluster, with which category it
  fails, and that it does so in any order**.
-/

namespace Faultline.Cluster

/-! ### First members where names are distinct -/

/-- Where names are distinct, the first member of a name is the one that has it. -/
theorem isFirst_iff_mem {α : Type} {name : α → String} {wanted : String} {a : α} {l : List α}
    (distinct : (l.map name).Nodup) :
    IsFirst (fun x => name x = wanted) a l ↔ a ∈ l ∧ name a = wanted := by
  constructor
  · rintro ⟨ha, before, after, rfl, -⟩
    exact ⟨by simp, ha⟩
  · rintro ⟨hmem, ha⟩
    obtain ⟨before, after, rfl⟩ := List.append_of_mem hmem
    refine ⟨ha, before, after, rfl, fun b hb hname => ?_⟩
    rw [List.map_append, List.map_cons, List.nodup_append] at distinct
    obtain ⟨-, -, apart⟩ := distinct
    exact apart (name b) (List.mem_map_of_mem hb) (name a) (by simp) (hname.trans ha.symm)

namespace Kubeconfig

variable {k k' : Kubeconfig} {s : Server} {e : SelectionError}

/-! ### Documents in another order -/

/-- Two documents differ at most in the order of their clusters and of their contexts. -/
structure Reordered (k k' : Kubeconfig) : Prop where
  /-- The clusters are the same. -/
  clusters : k.clusters.Perm k'.clusters
  /-- The contexts are the same. -/
  contexts : k.contexts.Perm k'.contexts
  /-- The context in use is the same. -/
  current : k.current = k'.current

/-- No two clusters and no two contexts of a document have the same name. -/
structure Distinct (k : Kubeconfig) : Prop where
  /-- The clusters have distinct names. -/
  clusters : (k.clusters.map NamedCluster.name).Nodup
  /-- The contexts have distinct names. -/
  contexts : (k.contexts.map NamedContext.name).Nodup

theorem Distinct.of_reordered (h : k.Reordered k') (distinct : k.Distinct) : k'.Distinct where
  clusters := (h.clusters.map _).nodup_iff.mp distinct.clusters
  contexts := (h.contexts.map _).nodup_iff.mp distinct.contexts

theorem Reordered.selects_iff (h : k.Reordered k') (context : String) :
    k'.Selects context ↔ k.Selects context := by
  rw [Selects, Selects, h.current]

theorem Reordered.isFirst_context_iff (h : k.Reordered k') (distinct : k.Distinct)
    {wanted : String} {c : NamedContext} :
    IsFirst (fun x => x.name = wanted) c k'.contexts ↔
      IsFirst (fun x => x.name = wanted) c k.contexts := by
  rw [isFirst_iff_mem distinct.contexts, isFirst_iff_mem (distinct.of_reordered h).contexts,
    h.contexts.mem_iff]

theorem Reordered.isFirst_cluster_iff (h : k.Reordered k') (distinct : k.Distinct)
    {wanted : String} {n : NamedCluster} :
    IsFirst (fun x => x.name = wanted) n k'.clusters ↔
      IsFirst (fun x => x.name = wanted) n k.clusters := by
  rw [isFirst_iff_mem distinct.clusters, isFirst_iff_mem (distinct.of_reordered h).clusters,
    h.clusters.mem_iff]

/-- A document leads to the same cluster in any order. -/
theorem Uses.of_reordered (uses : k.Uses s) (h : k.Reordered k') (distinct : k.Distinct) :
    k'.Uses s := by
  cases uses with
  | only free only =>
    have same : k'.clusters = k.clusters := by
      rw [only]
      exact List.perm_singleton.mp (only ▸ h.clusters.symm)
    exact .only (fun context => by rw [h.selects_iff]; exact free context) (same.trans only)
  | ofContext selected hc hn =>
    exact .ofContext ((h.selects_iff _).mpr selected) ((h.isFirst_context_iff distinct).mpr hc)
      ((h.isFirst_cluster_iff distinct).mpr hn)

/-- The same thing is missing in a document in any order. -/
theorem Lacks.of_reordered (lacks : k.Lacks e) (h : k.Reordered k') (distinct : k.Distinct) :
    k'.Lacks e := by
  cases lacks with
  | noCluster free none =>
    exact .noCluster (fun context => by rw [h.selects_iff]; exact free context)
      (List.nil_perm.mp (none ▸ h.clusters))
  | severalClusters free several =>
    exact .severalClusters (fun context => by rw [h.selects_iff]; exact free context)
      (by rw [← h.clusters.length_eq]; exact several)
  | noContext selected none =>
    exact .noContext ((h.selects_iff _).mpr selected)
      fun c hc => none c (h.contexts.mem_iff.mpr hc)
  | noClusterOf selected hc none =>
    exact .noClusterOf ((h.selects_iff _).mpr selected) ((h.isFirst_context_iff distinct).mpr hc)
      fun n hn => none n (h.clusters.mem_iff.mpr hn)

/-- **The order of a document does not matter** for the selection, where names are distinct. -/
theorem select_eq_of_reordered (h : k.Reordered k') (distinct : k.Distinct) :
    k'.select = k.select := by
  rcases k.uses_or_lacks with ⟨s, uses⟩ | ⟨e, lacks⟩
  · rw [select_of_uses uses, select_of_uses (uses.of_reordered h distinct)]
  · rw [select_of_lacks lacks, select_of_lacks (lacks.of_reordered h distinct)]

/-! ### Categories -/

/-- Nothing is selected in a document, and there is nothing to choose from. -/
def Vacant (k : Kubeconfig) : Prop := (∀ context, ¬ k.Selects context) ∧ k.clusters = []

/-- A document in which there is nothing to choose from cannot be parsed; whatever else is missing
does not fit what was asked for. -/
theorem Lacks.category_iff (lacks : k.Lacks e) :
    (e.category = .parse ↔ k.Vacant) ∧ (e.category = .illegalParam ↔ ¬ k.Vacant) := by
  have unfit (full : ¬ k.Vacant) (h : e.category = .illegalParam) :
      (e.category = .parse ↔ k.Vacant) ∧ (e.category = .illegalParam ↔ ¬ k.Vacant) :=
    ⟨iff_of_false (by rw [h]; decide) full, iff_of_true h full⟩
  cases lacks with
  | noCluster free none =>
    exact ⟨iff_of_true rfl ⟨free, none⟩, iff_of_false (by decide) fun h => h ⟨free, none⟩⟩
  | severalClusters free several => exact unfit (fun h => by simp [h.2] at several) rfl
  | noContext selected none => exact unfit (fun h => h.1 _ selected) rfl
  | noClusterOf selected hc none => exact unfit (fun h => h.1 _ selected) rfl

end Kubeconfig

/-- The report on what is missing has the category of what is missing. -/
theorem Obstacle.category_unselected (path : String) (e : SelectionError) :
    (unselected path e).category = e.category := by
  cases e <;> rfl

/-- **The selection is exact, and the order of a document does not matter.**  It gives a cluster
exactly if the document leads to that cluster: the only one where no context is selected, else the
first one of the name that the first context of the selected name gives.  Else it fails: with the
category of what cannot be parsed if nothing is selected and there is no cluster, and otherwise
with that of what does not fit.  Where names are distinct, a document in another order leads to
the same cluster or to the same failure, with the same report on it. -/
theorem selection_exact_in_any_order (k : Kubeconfig) (path : String) (d : Desk) :
    (∀ s, k.select = .ok s ↔ k.Uses s) ∧
      ((∀ s, ¬ k.Uses s) → ∃ e, k.select = .error e ∧
        (e.category = .parse ↔ k.Vacant) ∧ (e.category = .illegalParam ↔ ¬ k.Vacant) ∧
        KubeconfigFile.select path k d = (Obstacle.unselected path e).ending d ∧
        (Obstacle.unselected path e).category = e.category) ∧
      ∀ k', k.Reordered k' → k.Distinct →
        k'.select = k.select ∧
          KubeconfigFile.select path k' d = KubeconfigFile.select path k d := by
  refine ⟨fun s => Kubeconfig.select_eq_ok_iff, fun none => ?_, fun k' h distinct => ?_⟩
  · rcases k.uses_or_lacks with ⟨s, uses⟩ | ⟨e, lacks⟩
    · exact absurd uses (none s)
    · obtain ⟨parse, illegal⟩ := lacks.category_iff
      exact ⟨e, Kubeconfig.select_of_lacks lacks, parse, illegal,
        KubeconfigFile.select_error lacks d, Obstacle.category_unselected path e⟩
  · have same := Kubeconfig.select_eq_of_reordered h distinct
    exact ⟨same, by rw [KubeconfigFile.select, KubeconfigFile.select, same]⟩

/-- A context that names a cluster without a name leads to it, in whatever order the clusters
come. -/
theorem selection_exact_in_any_order_unnamed :
    let near : NamedCluster := ⟨"", ⟨"https://a:6443", none⟩⟩
    let far : NamedCluster := ⟨"prod", ⟨"https://b:6443", some "/ca.crt"⟩⟩
    let k : Kubeconfig := ⟨[near, far], [⟨"main", ""⟩], some "main"⟩
    let k' : Kubeconfig := ⟨[far, near], [⟨"main", ""⟩], some "main"⟩
    k.Reordered k' ∧ k.Distinct ∧ k.Uses near.server ∧ k'.select = .ok near.server := by
  intro near far k k'
  have reordered : k.Reordered k' := ⟨.swap far near [], .refl _, rfl⟩
  have distinct : k.Distinct := ⟨by decide, by decide⟩
  obtain ⟨exact, -, ordered⟩ := selection_exact_in_any_order k "/config" (.fresh fun _ => default)
  have given : k.select = .ok near.server := rfl
  exact ⟨reordered, distinct, (exact _).mp given, (ordered k' reordered distinct).1.trans given⟩

end Faultline.Cluster
