import Faultline.Cluster.KubeconfigText
import Faultline.Proofs.Yaml.Alike

/-!
# The shape of a kubeconfig

A kubeconfig is a record of records, some of whose members must be there and some of which need
not.  What a document tells is defined by what its records tell, down to the scalars.  The readers
accept just that; and as it says nothing about the order of the entries or about unknown names,
these make no difference at any level.

## Main definitions

* `IsServer`, `IsCluster`, `IsContext`, `IsKubeconfig` — what a node or a document tells.
* `FitsServer`, `FitsCluster`, `FitsContext`, `FitsKubeconfig` — the shape that it then has.
* `DocumentsAlike` — documents that differ in the order of entries and in unknown names only.

## Main results

* `accepts_readRecord` — a record is accepted if its slots can be filled from its entries.
* `exists_isKubeconfig_iff` — a document tells a kubeconfig if it has the shape of one.
* `DocumentsAlike.isKubeconfig_iff` — alike documents tell the same.
* `kubeconfig_accepted_by_shape` — **a kubeconfig is read out of exactly the documents that have
  the shape of one, and it is the one that the document tells**.
-/

namespace Faultline.Cluster

open Yaml

/-! ### What a node tells -/

/-- A node tells how a cluster is reached. -/
def IsServer (n : Node) (s : Server) : Prop :=
  ∃ es, n.IsRecord es ∧ Once "server" (·.IsText s.address) es ∧
    MayTell "certificate-authority" Node.IsOptionalText none es s.authority

/-- A node tells of a cluster. -/
def IsCluster (n : Node) (c : NamedCluster) : Prop :=
  ∃ es, n.IsRecord es ∧ MayTell "name" Node.IsText "" es c.name ∧
    Once "cluster" (IsServer · c.server) es

/-- A node tells the cluster of a context. -/
def IsContextEntry (n : Node) (cluster : String) : Prop :=
  ∃ es, n.IsRecord es ∧ Once "cluster" (·.IsText cluster) es

/-- A node tells of a context. -/
def IsContext (n : Node) (c : NamedContext) : Prop :=
  ∃ es, n.IsRecord es ∧ Once "name" (·.IsText c.name) es ∧
    Once "context" (IsContextEntry · c.cluster) es

/-- A node is a list whose items tell of things, one each and in the same order. -/
def AreListed {α : Type} (Tells : Node → α → Prop) (n : Node) (xs : List α) : Prop :=
  ∃ ns, n.IsList ns ∧ List.Forall₂ Tells ns xs

/-- Entries tell a kubeconfig. -/
def TellKubeconfig (es : List (Node × Node)) (k : Kubeconfig) : Prop :=
  MayTell "clusters" (AreListed IsCluster) [] es k.clusters ∧
    MayTell "contexts" (AreListed IsContext) [] es k.contexts ∧
    MayTell "current-context" Node.IsOptionalText none es k.current

/-! ### Reading records -/

section Readers

variable {σ α : Type} {d : Document} {n : Node} {path : Path}

/-- A record is accepted if its slots are filled from its entries, or else as they were at the
start, and it can be finished. -/
theorem accepts_readRecord {start : σ} {members : Path × Mark → Document.Members σ}
    {finish : Path × Mark → σ → Shaped α} {Q : σ → α → Prop} (slots : List (Slot σ))
    (lawful : Lawful slots) (known : ∀ owner, (members owner).names = slots.map Slot.name)
    (reads : ∀ owner, ∀ s ∈ slots, ∀ v : Node, v.IsTree → ∀ path x,
      Accepts ((members owner).read s.name path v x) fun y => ∃ c, s.Tells v c ∧ y = s.set c x)
    (finishes : ∀ owner x, Accepts (finish owner x) (Q x)) (tree : n.IsTree) (wanted : String) :
    Accepts (readRecord d wanted start members finish path n) fun a =>
      ∃ es, n.IsRecord es ∧
        ∃ x, (∀ s ∈ slots, MayTell s.name s.Tells (s.get start) es (s.get x)) ∧ Q x a := by
  unfold readRecord
  -- Nothing has been seen at the start, so each name is new when it comes first.
  refine ((accepts_entries tree wanted path).bind fun e he =>
    (accepts_membersFrom lawful (known _) (reads _) _ (tree.name he.2) (tree.value he.2)).bind
      fun x _ => finishes _ x).congr fun a => ?_
  constructor
  · rintro ⟨⟨m, es⟩, ⟨-, record⟩, x, filled, done⟩
    exact ⟨es, record, x, fun s hs => (filled s hs).imp_right And.right, done⟩
  · rintro ⟨es, record, x, told, done⟩
    exact ⟨(n.start, es), ⟨rfl, record⟩, x,
      fun s hs => (told s hs).imp_right fun once => ⟨List.not_mem_nil, once⟩, done⟩

/-- A member that must be there is accepted if it is. -/
theorem accepts_required (owner : Path × Mark) (name : String) (o : Option α) :
    Accepts (Document.required owner name o) (o = some ·) := by
  cases o with
  | none => exact .fail _ fun a => nofun
  | some x =>
    exact (Accepts.pure x).congr fun a => ⟨fun h => h ▸ rfl, fun h => (Option.some.inj h).symm⟩

/-- What a value tells of a member that must be there. -/
def Told (Tells : Node → α → Prop) (v : Node) (o : Option α) : Prop := ∃ a, Tells v a ∧ o = some a

theorem mayTell_told_iff {name : String} {Tells : Node → α → Prop} {es : List (Node × Node)}
    {a : α} : MayTell name (Told Tells) none es (some a) ↔ Once name (Tells · a) es := by
  simp [MayTell, Told]

theorem mayTell_getD_iff {name : String} {Tells : Node → α → Prop} {es : List (Node × Node)}
    {usual a : α} : MayTell name Tells usual es a ↔
      ∃ o : Option α, MayTell name (Told Tells) none es o ∧ o.getD usual = a := by
  constructor
  · rintro (⟨none, rfl⟩ | once)
    · exact ⟨Option.none, Or.inl ⟨none, rfl⟩, rfl⟩
    · exact ⟨some a, mayTell_told_iff.mpr once, rfl⟩
  · rintro ⟨o, ⟨none, rfl⟩ | ⟨v, hv, b, hb, rfl⟩, rfl⟩
    · exact Or.inl ⟨none, rfl⟩
    · exact Or.inr ⟨v, hv, hb⟩

/-- A member that must be there is read and kept. -/
theorem accepts_told {Tells : Node → α → Prop} {v : Node} {r : Shaped α} (h : Accepts r (Tells v))
    (f : Option α → σ) :
    Accepts (r >>= fun a => pure (f (some a))) fun y => ∃ c, Told Tells v c ∧ y = f c := by
  refine (h.bind fun a _ => Accepts.pure (f (some a))).congr fun y => ?_
  constructor
  · rintro ⟨a, ha, rfl⟩
    exact ⟨some a, ⟨a, ha, rfl⟩, rfl⟩
  · rintro ⟨_, ⟨a, ha, rfl⟩, rfl⟩
    exact ⟨a, ha, rfl⟩

/-- A node that tells how a cluster is reached is accepted. -/
theorem accepts_readServer (tree : n.IsTree) (path : Path) :
    Accepts (readServer d path n) (IsServer n) := by
  refine (accepts_readRecord [.first "server" (Told Node.IsText),
    .second "certificate-authority" Node.IsOptionalText] (lawful_pair (by decide) _ _)
    (fun _ => rfl) ?_ (fun owner x => (accepts_required owner "server" x.1).bind fun address _ =>
      Accepts.pure (⟨address, x.2⟩ : Server)) tree "struct ClusterEntry").congr fun s => ?_
  · intro owner
    refine List.forall_mem_cons.mpr ⟨fun v tree path x => ?_, List.forall_mem_singleton.mpr
      fun v tree path x => ?_⟩
    · exact accepts_told (accepts_text tree _ path) fun c => (c, x.2)
    · exact (accepts_optionalText tree owner _ path).bind fun c _ => Accepts.pure (x.1, c)
  · simp only [List.forall_mem_cons, Slot.first, Slot.second]
    constructor
    · rintro ⟨es, record, ⟨_, authority⟩, ⟨server, told, -⟩, a, rfl, rfl⟩
      exact ⟨es, record, mayTell_told_iff.mp server, told⟩
    · rintro ⟨es, record, server, told⟩
      exact ⟨es, record, (some s.address, s.authority),
        ⟨mayTell_told_iff.mpr server, told, by simp⟩, s.address, rfl, rfl⟩

/-- A node that tells of a cluster is accepted. -/
theorem accepts_readCluster (tree : n.IsTree) (path : Path) :
    Accepts (readCluster d path n) (IsCluster n) := by
  refine (accepts_readRecord [.first "name" (Told Node.IsText), .second "cluster" (Told IsServer)]
    (lawful_pair (by decide) _ _) (fun _ => rfl) ?_
    (fun owner x => (accepts_required owner "cluster" x.2).bind fun server _ =>
      Accepts.pure (⟨x.1.getD "", server⟩ : NamedCluster)) tree "struct NamedCluster").congr
    fun c => ?_
  · intro owner
    refine List.forall_mem_cons.mpr ⟨fun v tree path x => ?_, List.forall_mem_singleton.mpr
      fun v tree path x => ?_⟩
    · exact accepts_told (accepts_text tree _ path) fun c => (c, x.2)
    · exact accepts_told (accepts_readServer tree path) fun c => (x.1, c)
  · simp only [List.forall_mem_cons, Slot.first, Slot.second]
    -- A name that is not given becomes the empty one only when the record is finished.
    constructor
    · rintro ⟨es, record, ⟨name, _⟩, ⟨told, server, -⟩, a, rfl, rfl⟩
      exact ⟨es, record, mayTell_getD_iff.mpr ⟨name, told, rfl⟩, mayTell_told_iff.mp server⟩
    · rintro ⟨es, record, told, server⟩
      obtain ⟨name, told, hname⟩ := mayTell_getD_iff.mp told
      exact ⟨es, record, (name, some c.server),
        ⟨told, mayTell_told_iff.mpr server, by simp⟩, c.server, rfl, by rw [hname]⟩

/-- A node that tells the cluster of a context is accepted. -/
theorem accepts_readContextEntry (tree : n.IsTree) (path : Path) :
    Accepts (readContextEntry d path n) (IsContextEntry n) := by
  refine (accepts_readRecord [.only "cluster" (Told Node.IsText)] (lawful_only _ _)
    (fun _ => rfl) ?_ (fun owner x => accepts_required owner "cluster" x) tree
    "struct ContextEntry").congr fun c => ?_
  · intro owner
    refine List.forall_mem_singleton.mpr fun v tree path x => ?_
    exact accepts_told (accepts_text tree _ path) fun c => c
  · simp only [List.forall_mem_singleton, Slot.only]
    constructor
    · rintro ⟨es, record, _, told, rfl⟩
      exact ⟨es, record, mayTell_told_iff.mp told⟩
    · rintro ⟨es, record, told⟩
      exact ⟨es, record, some c, mayTell_told_iff.mpr told, rfl⟩

/-- A node that tells of a context is accepted. -/
theorem accepts_readContext (tree : n.IsTree) (path : Path) :
    Accepts (readContext d path n) (IsContext n) := by
  refine (accepts_readRecord [.first "name" (Told Node.IsText),
    .second "context" (Told IsContextEntry)] (lawful_pair (by decide) _ _) (fun _ => rfl) ?_
    (fun owner x => (accepts_required owner "name" x.1).bind fun name _ =>
      (accepts_required owner "context" x.2).bind fun cluster _ =>
        Accepts.pure (⟨name, cluster⟩ : NamedContext)) tree "struct NamedContext").congr
    fun c => ?_
  · intro owner
    refine List.forall_mem_cons.mpr ⟨fun v tree path x => ?_, List.forall_mem_singleton.mpr
      fun v tree path x => ?_⟩
    · exact accepts_told (accepts_text tree _ path) fun c => (c, x.2)
    · exact accepts_told (accepts_readContextEntry tree path) fun c => (x.1, c)
  · simp only [List.forall_mem_cons, Slot.first, Slot.second]
    constructor
    · rintro ⟨es, record, ⟨_, _⟩, ⟨name, entry, -⟩, a, rfl, b, rfl, rfl⟩
      exact ⟨es, record, mayTell_told_iff.mp name, mayTell_told_iff.mp entry⟩
    · rintro ⟨es, record, name, entry⟩
      exact ⟨es, record, (some c.name, some c.cluster),
        ⟨mayTell_told_iff.mpr name, mayTell_told_iff.mpr entry, by simp⟩,
        c.name, rfl, c.cluster, rfl, rfl⟩

/-- The slots of a kubeconfig. -/
def kubeconfigSlots : List (Slot Kubeconfig) := [
  { name := "clusters"
    Content := List NamedCluster
    get := Kubeconfig.clusters
    set := fun c k => { k with clusters := c }
    Tells := AreListed IsCluster },
  { name := "contexts"
    Content := List NamedContext
    get := Kubeconfig.contexts
    set := fun c k => { k with contexts := c }
    Tells := AreListed IsContext },
  { name := "current-context"
    Content := Option String
    get := Kubeconfig.current
    set := fun c k => { k with current := c }
    Tells := Node.IsOptionalText }]

theorem lawful_kubeconfigSlots : Lawful kubeconfigSlots where
  nodup := by decide
  get_set := by simp [kubeconfigSlots]
  get_set_of_ne := by simp [kubeconfigSlots]
  ext := by
    rintro ⟨clusters, contexts, current⟩ ⟨clusters', contexts', current'⟩ h
    simpa [kubeconfigSlots] using h

/-- A node that tells a kubeconfig is accepted. -/
theorem accepts_readKubeconfig (tree : n.IsTree) (path : Path) :
    Accepts (readKubeconfig d path n) fun k => ∃ es, n.IsRecord es ∧ TellKubeconfig es k := by
  refine (accepts_readRecord kubeconfigSlots lawful_kubeconfigSlots (fun _ => rfl) ?_
    (fun _ k => Accepts.pure k) tree "struct Kubeconfig").congr fun k => ?_
  · intro owner
    refine List.forall_mem_cons.mpr ⟨fun v tree path x => ?_, List.forall_mem_cons.mpr
      ⟨fun v tree path x => ?_, List.forall_mem_singleton.mpr fun v tree path x => ?_⟩⟩
    · exact (accepts_items tree (fun m tree path => accepts_readCluster tree path) path).bind
        fun c _ => Accepts.pure { x with clusters := c }
    · exact (accepts_items tree (fun m tree path => accepts_readContext tree path) path).bind
        fun c _ => Accepts.pure { x with contexts := c }
    · exact (accepts_optionalText tree owner _ path).bind
        fun c _ => Accepts.pure { x with current := c }
  · simp only [kubeconfigSlots, List.forall_mem_cons]
    constructor
    · rintro ⟨es, record, x, ⟨clusters, contexts, current, -⟩, rfl⟩
      exact ⟨es, record, clusters, contexts, current⟩
    · rintro ⟨es, record, clusters, contexts, current⟩
      exact ⟨es, record, k, ⟨clusters, contexts, current, by simp⟩, rfl⟩

end Readers

/-! ### Documents -/

/-- A document is a record: one in which nothing is written is an empty record. -/
inductive DocumentIsRecord (d : Document) : List (Node × Node) → Prop
  /-- Its root is one. -/
  | root {n : Node} {es : List (Node × Node)} (h : d.root = some n) (record : n.IsRecord es) :
      DocumentIsRecord d es
  /-- Nothing is written. -/
  | nothing (h : d.root = none) : DocumentIsRecord d []

/-- A document is a tree, or nothing is written in it. -/
def DocumentIsTree (d : Document) : Prop := ∀ n, d.root = some n → n.IsTree

/-- A document tells a kubeconfig. -/
def IsKubeconfig (d : Document) (k : Kubeconfig) : Prop :=
  ∃ es, DocumentIsRecord d es ∧ TellKubeconfig es k

/-- Where nothing is written, nothing is defined. -/
theorem tellKubeconfig_nil_iff {k : Kubeconfig} : TellKubeconfig [] k ↔ k = ⟨[], [], none⟩ := by
  rw [TellKubeconfig, mayTell_nil_iff, mayTell_nil_iff, mayTell_nil_iff, Kubeconfig.mk.injEq]

/-- A kubeconfig is read out of a document exactly if the document tells it. -/
theorem ofDocument_eq_ok_iff {d : Document} (tree : DocumentIsTree d) (k : Kubeconfig) :
    Kubeconfig.ofDocument d = .ok k ↔ IsKubeconfig d k := by
  unfold Kubeconfig.ofDocument
  cases hroot : d.root with
  | some n =>
    simp only [(accepts_readKubeconfig (tree n hroot) .root).run'_eq_ok_iff]
    constructor
    · rintro ⟨es, record, told⟩
      exact ⟨es, .root hroot record, told⟩
    · rintro ⟨es, ⟨h, record⟩ | h, told⟩
      · obtain rfl := Option.some.inj (hroot.symm.trans h)
        exact ⟨es, record, told⟩
      · cases hroot.symm.trans h
  | none =>
    constructor
    · rintro ⟨⟩
      exact ⟨[], .nothing hroot, tellKubeconfig_nil_iff.mpr rfl⟩
    · rintro ⟨es, ⟨h, -⟩ | h, told⟩
      · cases hroot.symm.trans h
      · rw [tellKubeconfig_nil_iff.mp told]

/-- A kubeconfig is read out of a text exactly if the text is a document out of which it is read:
nothing is read out of a text of which only a part is one. -/
theorem ofText_eq_ok_iff {text : String} {k : Kubeconfig} :
    Kubeconfig.ofText text = .ok k ↔
      ∃ d, Document.ofText? text = some d ∧ Kubeconfig.ofDocument d = .ok k := by
  unfold Kubeconfig.ofText Document.ofText?
  by_cases whole : (Excerpt.ofText text).whole = true
  · simp only [whole, if_true, Option.some.injEq, exists_eq_left']
    cases Kubeconfig.ofDocument (Excerpt.ofText text).document <;> simp
  · simp only [whole]
    cases Kubeconfig.ofDocument (Excerpt.ofText text).document <;> simp

/-! ### Shapes -/

/-- A node is some scalar. -/
def AnyScalar (n : Node) : Prop := ∃ s, n.IsScalar s

/-- A node is a list whose items have a shape. -/
def ListOf (Fits : Node → Prop) (n : Node) : Prop := ∃ ns, n.IsList ns ∧ ∀ m ∈ ns, Fits m

/-- The shape of what tells how a cluster is reached. -/
def FitsServer (n : Node) : Prop :=
  ∃ es, n.IsRecord es ∧ Once "server" AnyScalar es ∧
    AtMostOnce "certificate-authority" AnyScalar es

/-- The shape of a cluster. -/
def FitsCluster (n : Node) : Prop :=
  ∃ es, n.IsRecord es ∧ AtMostOnce "name" AnyScalar es ∧ Once "cluster" FitsServer es

/-- The shape of what tells the cluster of a context. -/
def FitsContextEntry (n : Node) : Prop :=
  ∃ es, n.IsRecord es ∧ Once "cluster" AnyScalar es

/-- The shape of a context. -/
def FitsContext (n : Node) : Prop :=
  ∃ es, n.IsRecord es ∧ Once "name" AnyScalar es ∧ Once "context" FitsContextEntry es

/-- The shape of a kubeconfig. -/
def FitsKubeconfig (d : Document) : Prop :=
  ∃ es, DocumentIsRecord d es ∧ AtMostOnce "clusters" (ListOf FitsCluster) es ∧
    AtMostOnce "contexts" (ListOf FitsContext) es ∧ AtMostOnce "current-context" AnyScalar es

section Shapes

variable {α : Type} {n : Node}

theorem exists_isText_iff : (∃ t, n.IsText t) ↔ AnyScalar n :=
  ⟨fun ⟨_, s, hs, _⟩ => ⟨s, hs⟩, fun ⟨s, hs⟩ => ⟨s.text, s, hs, rfl⟩⟩

theorem exists_isOptionalText_iff : (∃ o, n.IsOptionalText o) ↔ AnyScalar n := by
  constructor
  · rintro ⟨_, ⟨scalar, -⟩ | ⟨scalar, -⟩⟩ <;> exact ⟨_, scalar⟩
  · rintro ⟨s, scalar⟩
    by_cases null : s.IsNull
    · exact ⟨none, .nothing scalar null⟩
    · exact ⟨some s.text, .text scalar null⟩

theorem exists_areListed_iff {Tells : Node → α → Prop} {Fits : Node → Prop}
    (h : ∀ m, (∃ x, Tells m x) ↔ Fits m) : (∃ xs, AreListed Tells n xs) ↔ ListOf Fits n := by
  have each (ns : List Node) : (∃ xs, List.Forall₂ Tells ns xs) ↔ ∀ m ∈ ns, Fits m := by
    induction ns with
    | nil => exact iff_of_true ⟨[], .nil⟩ (by simp)
    | cons m ns ih =>
      rw [List.forall_mem_cons, ← ih, ← h]
      simp only [List.forall₂_cons_left_iff]
      constructor
      · rintro ⟨_, x, xs, hx, hxs, rfl⟩
        exact ⟨⟨x, hx⟩, xs, hxs⟩
      · rintro ⟨⟨x, hx⟩, xs, hxs⟩
        exact ⟨x :: xs, x, xs, hx, hxs, rfl⟩
  constructor
  · rintro ⟨xs, ns, list, told⟩
    exact ⟨ns, list, (each ns).mp ⟨xs, told⟩⟩
  · rintro ⟨ns, list, told⟩
    obtain ⟨xs, h⟩ := (each ns).mpr told
    exact ⟨xs, ns, list, h⟩

theorem exists_isServer_iff : (∃ s, IsServer n s) ↔ FitsServer n := by
  constructor
  · rintro ⟨s, es, record, server, authority⟩
    exact ⟨es, record, (exists_once_iff fun _ => exists_isText_iff).mp ⟨s.address, server⟩,
      (exists_mayTell_iff none fun _ => exists_isOptionalText_iff).mp ⟨s.authority, authority⟩⟩
  · rintro ⟨es, record, server, authority⟩
    obtain ⟨address, server⟩ := (exists_once_iff fun _ => exists_isText_iff).mpr server
    obtain ⟨o, authority⟩ :=
      (exists_mayTell_iff none fun _ => exists_isOptionalText_iff).mpr authority
    exact ⟨⟨address, o⟩, es, record, server, authority⟩

theorem exists_isCluster_iff : (∃ c, IsCluster n c) ↔ FitsCluster n := by
  constructor
  · rintro ⟨c, es, record, name, server⟩
    exact ⟨es, record, (exists_mayTell_iff "" fun _ => exists_isText_iff).mp ⟨c.name, name⟩,
      (exists_once_iff fun _ => exists_isServer_iff).mp ⟨c.server, server⟩⟩
  · rintro ⟨es, record, name, server⟩
    obtain ⟨t, name⟩ := (exists_mayTell_iff "" fun _ => exists_isText_iff).mpr name
    obtain ⟨s, server⟩ := (exists_once_iff fun _ => exists_isServer_iff).mpr server
    exact ⟨⟨t, s⟩, es, record, name, server⟩

theorem exists_isContextEntry_iff : (∃ t, IsContextEntry n t) ↔ FitsContextEntry n := by
  constructor
  · rintro ⟨t, es, record, cluster⟩
    exact ⟨es, record, (exists_once_iff fun _ => exists_isText_iff).mp ⟨t, cluster⟩⟩
  · rintro ⟨es, record, cluster⟩
    obtain ⟨t, cluster⟩ := (exists_once_iff fun _ => exists_isText_iff).mpr cluster
    exact ⟨t, es, record, cluster⟩

theorem exists_isContext_iff : (∃ c, IsContext n c) ↔ FitsContext n := by
  constructor
  · rintro ⟨c, es, record, name, entry⟩
    exact ⟨es, record, (exists_once_iff fun _ => exists_isText_iff).mp ⟨c.name, name⟩,
      (exists_once_iff fun _ => exists_isContextEntry_iff).mp ⟨c.cluster, entry⟩⟩
  · rintro ⟨es, record, name, entry⟩
    obtain ⟨t, name⟩ := (exists_once_iff fun _ => exists_isText_iff).mpr name
    obtain ⟨cluster, entry⟩ := (exists_once_iff fun _ => exists_isContextEntry_iff).mpr entry
    exact ⟨⟨t, cluster⟩, es, record, name, entry⟩

/-- A document tells some kubeconfig if it has the shape of one. -/
theorem exists_isKubeconfig_iff {d : Document} : (∃ k, IsKubeconfig d k) ↔ FitsKubeconfig d := by
  have clusters (v : Node) : (∃ cs, AreListed IsCluster v cs) ↔ ListOf FitsCluster v :=
    exists_areListed_iff fun _ => exists_isCluster_iff
  have contexts (v : Node) : (∃ cs, AreListed IsContext v cs) ↔ ListOf FitsContext v :=
    exists_areListed_iff fun _ => exists_isContext_iff
  have current (v : Node) : (∃ o, v.IsOptionalText o) ↔ AnyScalar v := exists_isOptionalText_iff
  constructor
  · rintro ⟨k, es, record, hclusters, hcontexts, hcurrent⟩
    exact ⟨es, record, (exists_mayTell_iff [] clusters).mp ⟨k.clusters, hclusters⟩,
      (exists_mayTell_iff [] contexts).mp ⟨k.contexts, hcontexts⟩,
      (exists_mayTell_iff none current).mp ⟨k.current, hcurrent⟩⟩
  · rintro ⟨es, record, hclusters, hcontexts, hcurrent⟩
    obtain ⟨cs, hclusters⟩ := (exists_mayTell_iff [] clusters).mpr hclusters
    obtain ⟨xs, hcontexts⟩ := (exists_mayTell_iff [] contexts).mpr hcontexts
    obtain ⟨o, hcurrent⟩ := (exists_mayTell_iff none current).mpr hcurrent
    exact ⟨⟨cs, xs, o⟩, es, record, hclusters, hcontexts, hcurrent⟩

end Shapes

/-! ### Alike nodes -/

/-- Two nodes tell the same of how a cluster is reached. -/
def ServersAlike : Node → Node → Prop :=
  RecordsAlike ["server", "certificate-authority"] fun _ => SameScalar

/-- Two nodes tell of the same cluster. -/
def ClustersAlike : Node → Node → Prop :=
  RecordsAlike ["name", "cluster"] fun name =>
    if name = "cluster" then ServersAlike else SameScalar

/-- Two nodes tell the cluster of the same context. -/
def ContextEntriesAlike : Node → Node → Prop :=
  RecordsAlike ["cluster"] fun _ => SameScalar

/-- Two nodes tell of the same context. -/
def ContextsAlike : Node → Node → Prop :=
  RecordsAlike ["name", "context"] fun name =>
    if name = "context" then ContextEntriesAlike else SameScalar

/-- Entries of two kubeconfigs are the same up to rearrangement at every level. -/
def MembersAlike : List (Node × Node) → List (Node × Node) → Prop :=
  Rearranged ["clusters", "contexts", "current-context"] fun name =>
    if name = "clusters" then ListsAlike ClustersAlike
    else if name = "contexts" then ListsAlike ContextsAlike
    else SameScalar

/-- Two documents are records of alike members, or neither is a record. -/
def DocumentsAlike (d d' : Document) : Prop :=
  (∃ es es', DocumentIsRecord d es ∧ DocumentIsRecord d' es' ∧ MembersAlike es es') ∨
    (∀ es, ¬ DocumentIsRecord d es) ∧ ∀ es, ¬ DocumentIsRecord d' es

section Alike

variable {n n' : Node}

theorem ServersAlike.isServer_iff (h : ServersAlike n n') (s : Server) :
    IsServer n s ↔ IsServer n' s :=
  h.iff fun es es' rearranged => and_congr
    (rearranged.once_iff (by decide) fun v v' alike => alike.isText_iff s.address)
    (rearranged.mayTell_iff (by decide) fun v v' alike => alike.isOptionalText_iff)

theorem ClustersAlike.isCluster_iff (h : ClustersAlike n n') (c : NamedCluster) :
    IsCluster n c ↔ IsCluster n' c :=
  h.iff fun es es' rearranged => and_congr
    (rearranged.mayTell_iff (by decide) fun v v' (alike : SameScalar v v') => alike.isText_iff)
    (rearranged.once_iff (by decide) fun v v' (alike : ServersAlike v v') =>
      alike.isServer_iff c.server)

theorem ContextEntriesAlike.isContextEntry_iff (h : ContextEntriesAlike n n') (cluster : String) :
    IsContextEntry n cluster ↔ IsContextEntry n' cluster :=
  h.iff fun es es' rearranged =>
    rearranged.once_iff (by decide) fun v v' alike => alike.isText_iff cluster

theorem ContextsAlike.isContext_iff (h : ContextsAlike n n') (c : NamedContext) :
    IsContext n c ↔ IsContext n' c :=
  h.iff fun es es' rearranged => and_congr
    (rearranged.once_iff (by decide) fun v v' (alike : SameScalar v v') => alike.isText_iff c.name)
    (rearranged.once_iff (by decide) fun v v' (alike : ContextEntriesAlike v v') =>
      alike.isContextEntry_iff c.cluster)

theorem MembersAlike.tellKubeconfig_iff {es es' : List (Node × Node)} (h : MembersAlike es es')
    (k : Kubeconfig) : TellKubeconfig es k ↔ TellKubeconfig es' k :=
  and_congr
    (h.mayTell_iff (by decide) fun v v' (alike : ListsAlike ClustersAlike v v') cs =>
      alike.iff fun m m' h => h.isCluster_iff)
    (and_congr
      (h.mayTell_iff (by decide) fun v v' (alike : ListsAlike ContextsAlike v v') cs =>
        alike.iff fun m m' h => h.isContext_iff)
      (h.mayTell_iff (by decide) fun v v' (alike : SameScalar v v') => alike.isOptionalText_iff))

theorem ServersAlike.refl (tree : n.IsTree) : ServersAlike n n :=
  RecordsAlike.refl tree fun _ v _ => SameScalar.refl v

theorem ClustersAlike.refl (tree : n.IsTree) : ClustersAlike n n := by
  refine RecordsAlike.refl tree fun name v tree => ?_
  split
  · exact ServersAlike.refl tree
  · exact SameScalar.refl v

theorem ContextEntriesAlike.refl (tree : n.IsTree) : ContextEntriesAlike n n :=
  RecordsAlike.refl tree fun _ v _ => SameScalar.refl v

theorem ContextsAlike.refl (tree : n.IsTree) : ContextsAlike n n := by
  refine RecordsAlike.refl tree fun name v tree => ?_
  split
  · exact ContextEntriesAlike.refl tree
  · exact SameScalar.refl v

/-- Members that are trees are alike to themselves. -/
theorem MembersAlike.refl {es : List (Node × Node)} (names : ∀ e ∈ es, ∃ t, e.1.IsText t)
    (values : ∀ e ∈ es, e.2.IsTree) : MembersAlike es es := by
  refine Rearranged.refl names fun e he name => ?_
  split
  · exact ListsAlike.refl (values e he) fun m => ClustersAlike.refl
  · split
    · exact ListsAlike.refl (values e he) fun m => ContextsAlike.refl
    · exact SameScalar.refl e.2

theorem DocumentIsRecord.unique {d : Document} {es es' : List (Node × Node)}
    (h : DocumentIsRecord d es) (h' : DocumentIsRecord d es') : es = es' := by
  cases h with
  | root hroot record =>
    cases h' with
    | root hroot' record' =>
      obtain rfl := Option.some.inj (hroot.symm.trans hroot')
      exact record.unique record'
    | nothing none => cases hroot.symm.trans none
  | nothing none =>
    cases h' with
    | root hroot' record' => cases none.symm.trans hroot'
    | nothing => rfl

/-- Alike documents tell the same kubeconfig. -/
theorem DocumentsAlike.isKubeconfig_iff {d d' : Document} (h : DocumentsAlike d d')
    (k : Kubeconfig) : IsKubeconfig d k ↔ IsKubeconfig d' k :=
  exists_iff_of_alike (fun _ _ => DocumentIsRecord.unique) (fun _ _ => DocumentIsRecord.unique) h
    fun _ _ alike => MembersAlike.tellKubeconfig_iff alike k

end Alike

/-- **Kubeconfigs are accepted by their shape.**  A kubeconfig is read out of a document exactly if
the document tells it, and some kubeconfig is exactly if the document has the shape of one.  Where
entries stand in a record, and which entries of unknown names stand among them, makes no
difference, be it in the document itself or in any record within. -/
theorem kubeconfig_accepted_by_shape (d : Document) (tree : DocumentIsTree d) :
    (∀ k, Kubeconfig.ofDocument d = .ok k ↔ IsKubeconfig d k) ∧
      ((∃ k, Kubeconfig.ofDocument d = .ok k) ↔ FitsKubeconfig d) ∧
      (∀ d', DocumentIsTree d' → DocumentsAlike d d' →
        ∀ k, Kubeconfig.ofDocument d' = .ok k ↔ Kubeconfig.ofDocument d = .ok k) ∧
      ∀ text, Document.ofText? text = some d →
        ∀ k, Kubeconfig.ofText text = .ok k ↔ IsKubeconfig d k := by
  refine ⟨ofDocument_eq_ok_iff tree, ?_, fun d' tree' alike k => ?_, fun text written k => ?_⟩
  · rw [← exists_isKubeconfig_iff]
    exact exists_congr (ofDocument_eq_ok_iff tree)
  · rw [ofDocument_eq_ok_iff tree', ofDocument_eq_ok_iff tree, alike.isKubeconfig_iff]
  · rw [← ofDocument_eq_ok_iff tree, ofText_eq_ok_iff, written]
    simp only [Option.some.injEq, exists_eq_left']

/-- A scalar that is written as it is. -/
def plain (text : String) : Node := .scalar .start ⟨text, .plain, none⟩

/-- Named values. -/
def named (es : List (String × Node)) : Node := .mapping .start (es.map fun e => (plain e.1, e.2))

/-- A document with a cluster that has no name, and before it whatever else is written. -/
def loneCluster (others : List (String × Node)) : Document where
  root := some (named (others ++
    [("clusters", .sequence .start [named [("cluster", named [("server", plain "a")])]])]))
  anchored := []
  size := 0

theorem isText_plain (text : String) : (plain text).IsText text := ⟨_, .intro, rfl⟩

theorem isTree_plain (text : String) : (plain text).IsTree := .scalar rfl

theorem isTree_named {es : List (String × Node)} (values : ∀ e ∈ es, e.2.IsTree) :
    (named es).IsTree := by
  refine .mapping ?_ ?_
  · exact List.forall_mem_map.mpr fun e he => ⟨.start, ⟨e.1, .plain, none⟩, rfl, rfl⟩
  · exact List.forall_mem_map.mpr values

theorem isTree_loneCluster {others : List (String × Node)} (values : ∀ e ∈ others, e.2.IsTree) :
    DocumentIsTree (loneCluster others) := by
  rintro n ⟨⟩
  refine isTree_named (List.forall_mem_append.mpr ⟨values, List.forall_mem_singleton.mpr ?_⟩)
  refine .sequence (List.forall_mem_singleton.mpr ?_)
  exact isTree_named (List.forall_mem_singleton.mpr
    (isTree_named (List.forall_mem_singleton.mpr (isTree_plain "a"))))

/-- An entry of an unknown name is written before a lone cluster, and the cluster is read as it
is without it. -/
theorem kubeconfig_accepted_by_shape_loneCluster :
    DocumentIsTree (loneCluster []) ∧
      DocumentsAlike (loneCluster []) (loneCluster [("kind", plain "Config")]) ∧
      Kubeconfig.ofDocument (loneCluster [("kind", plain "Config")]) =
        .ok ⟨[⟨"", ⟨"a", none⟩⟩], [], none⟩ := by
  have tree : DocumentIsTree (loneCluster []) := isTree_loneCluster (by simp)
  have tree' : DocumentIsTree (loneCluster [("kind", plain "Config")]) :=
    isTree_loneCluster (List.forall_mem_singleton.mpr (isTree_plain "Config"))
  have alike : DocumentsAlike (loneCluster []) (loneCluster [("kind", plain "Config")]) := by
    refine Or.inl ⟨_, _, .root rfl .mapping, .root rfl .mapping, ?_⟩
    refine .insert (isText_plain "kind") (by decide) (MembersAlike.refl ?_ ?_)
    · exact fun e he => ((tree _ rfl).name .mapping e he).2
    · exact fun e he => (tree _ rfl).value .mapping e he
  refine ⟨tree, alike, ?_⟩
  exact ((kubeconfig_accepted_by_shape _ tree).2.2.1 _ tree' alike _).mpr rfl

end Faultline.Cluster
