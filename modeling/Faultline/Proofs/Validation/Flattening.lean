import Faultline.Proofs.Table
import Faultline.Proofs.Text.ByteOrder
import Faultline.Proofs.Validation.Review

/-!
# Flattening a review

The findings of a review are its complaints, one finding for each, in ascending order of
their paths.  Since the path tells the position, findings with one path are about one
field, and stay in the order of its complaints.  So nothing is left open that the order of
maps could decide.

## Main definitions

* `Complaint.ToldBy` — what a finding says about a complaint at a position.

## Main results

* `Review.filter_findings` — the findings at a path are the complaints there.
* `findings_eq_complaints` — **the findings are the complaints, sorted, and do not depend on
  the order of maps.**
-/

namespace Faultline.Validation

/-- A finding says all about a complaint at a position, except for the refused value. -/
structure Complaint.ToldBy (c : Complaint) (p : Position) (f : Finding) : Prop where
  path : f.path = p.path
  rule : f.rule = c.rule
  message : f.message = c.message
  params : ∀ k, f.param? k =
    if k = refusedValue then none else (c.params.lookup k).map paramText

/-! ### One complaint -/

/-- The parameters that a finding gets from a complaint. -/
def keptParams (params : List (String × Json.Value)) : List (String × String) :=
  (params.filter (·.1 ≠ refusedValue)).map fun e => (e.1, paramText e.2)

theorem Complaint.params_finding (c : Complaint) (p : Position) :
    (c.finding p).params = .ofList (keptParams c.params) := rfl

theorem nodup_keptParams {params : List (String × Json.Value)}
    (h : (params.map Prod.fst).Nodup) : ((keptParams params).map Prod.fst).Nodup := by
  have hkeys : (keptParams params).map Prod.fst =
      (params.filter (·.1 ≠ refusedValue)).map Prod.fst := by
    rw [keptParams, List.map_map]
    rfl
  rw [hkeys]
  exact (List.filter_sublist.map Prod.fst).nodup h

theorem lookup_keptParams (params : List (String × Json.Value)) (k : String) :
    (keptParams params).lookup k =
      if k = refusedValue then none else (params.lookup k).map paramText := by
  induction params with
  | nil => simp [keptParams]
  | cons e es ih =>
    by_cases he : e.1 = refusedValue
    · have hskip : keptParams (e :: es) = keptParams es := by simp [keptParams, he]
      rw [hskip, ih, Table.lookup_cons]
      split
      · rfl
      · rename_i hk
        rw [if_neg fun h => hk (h.trans he)]
    · have hkeep : keptParams (e :: es) = (e.1, paramText e.2) :: keptParams es := by
        simp [keptParams, he]
      rw [hkeep, Table.lookup_cons, ih, Table.lookup_cons]
      by_cases hk : k = e.1
      · simp [hk, he]
      · simp [hk]

/-- The finding of a complaint says all about it. -/
theorem Complaint.toldBy_finding {c : Complaint} (h : (c.params.map Prod.fst).Nodup)
    (p : Position) : c.ToldBy p (c.finding p) where
  path := rfl
  rule := rfl
  message := rfl
  params := fun k => by
    rw [Finding.param?, params_finding, Table.get?, Table.entries_ofList (nodup_keptParams h),
      lookup_keptParams]

/-- Complaints that differ in the order of their parameters give findings that say the
same. -/
theorem Complaint.same_finding {c d : Complaint} (hcd : c.Reordered d)
    (h : (c.params.map Prod.fst).Nodup) (p : Position) :
    (c.finding p).same (d.finding p) = true := by
  have hd : (d.params.map Prod.fst).Nodup := (hcd.params.map _).nodup_iff.mp h
  have hperm : (keptParams c.params).Perm (keptParams d.params) :=
    (hcd.params.filter _).map _
  have hsorted : (c.finding p).params.sorted = (d.finding p).params.sorted := by
    rw [params_finding, params_finding, Table.sorted, Table.sorted,
      Table.entries_ofList (nodup_keptParams h), Table.entries_ofList (nodup_keptParams hd)]
    exact Table.sortEntries_eq_of_perm (nodup_keptParams h) hperm
  have hpath : (c.finding p).path = (d.finding p).path := rfl
  have hrule : (c.finding p).rule = (d.finding p).rule := hcd.rule
  have hmessage : (c.finding p).message = (d.finding p).message := hcd.message
  simp [Finding.same, hpath, hrule, hsorted, hmessage]

/-! ### All complaints -/

namespace Review

variable {r : Review} {p : Position} {cs : List Complaint}

theorem findings_eq_sortedBy (r : Review) :
    r.findings = sortedBy Finding.path (r.complaints.map fun e => e.2.finding e.1) := rfl

/-- Each finding is about a complaint at some position. -/
theorem exists_of_mem_findings {f : Finding} (h : f ∈ r.findings) :
    ∃ p cs c, r.At p cs ∧ c ∈ cs ∧ f = c.finding p := by
  rw [findings, List.mem_mergeSort, List.mem_map] at h
  obtain ⟨e, he, rfl⟩ := h
  obtain ⟨p, cs, hat, hp, hc⟩ := Verdict.mem_complaints (v := .inside r) he
  exact ⟨p, cs, e.2, hat, hc, by rw [hp, List.nil_append]⟩

/-- The findings at the path of a position are the complaints there, in their order. -/
theorem filter_findings (hr : r.Proper) (h : r.At p cs) :
    r.findings.filter (·.path = p.path) = cs.map (·.finding p) := by
  have hpath : r.complaints.filter (·.1.path = p.path) = r.complaints.filter (·.1 = p) := by
    apply List.filter_congr
    intro e he
    obtain ⟨q, ds, hat, hq, -⟩ := Verdict.mem_complaints (v := .inside r) he
    rw [List.nil_append] at hq
    rw [decide_eq_decide, hq]
    exact ⟨Position.path_injective (hat.plain hr) (h.plain hr), fun e => e ▸ rfl⟩
  have hat : r.complaints.filter (·.1 = p) = cs.map fun c => (p, c) :=
    Verdict.filter_complaints [] hr h
  calc r.findings.filter (·.path = p.path)
      = (r.complaints.map fun e => e.2.finding e.1).filter (·.path = p.path) := by
        rw [findings_eq_sortedBy, filter_sortedBy]
    _ = (r.complaints.filter (·.1.path = p.path)).map fun e => e.2.finding e.1 :=
        List.filter_map ..
    _ = cs.map (·.finding p) := by rw [hpath, hat, List.map_map]; rfl

/-- A text that is the path of no position is the path of no finding. -/
theorem filter_findings_eq_nil {k : String} (h : ∀ p cs, r.At p cs → p.path ≠ k) :
    r.findings.filter (·.path = k) = [] := by
  rw [List.filter_eq_nil_iff]
  intro f hf
  obtain ⟨p, cs, c, hat, -, rfl⟩ := exists_of_mem_findings hf
  rw [decide_eq_true_eq]
  exact h p cs hat

/-- The findings do not depend on the order of maps. -/
theorem same_findings_of_reordered {r' : Review} (hr : r.Proper) (h : r.Reordered r') :
    List.Forall₂ (fun f g => f.same g = true) r.findings r'.findings := by
  refine forall₂_of_forall₂_filter (pairwise_sortedBy _ _) (pairwise_sortedBy _ _) fun k => ?_
  have hr' : r'.Proper := hr.of_reordered h
  by_cases hk : ∃ p cs, r.At p cs ∧ p.path = k
  · obtain ⟨p, cs, hcs, rfl⟩ := hk
    obtain ⟨ds, hds, hcd⟩ := hcs.of_reordered h
    change List.Forall₂ _ (r.findings.filter _) (r'.findings.filter _)
    rw [filter_findings hr hcs, filter_findings hr' hds, List.forall₂_map_left_iff,
      List.forall₂_map_right_iff]
    have hboth := (List.forall₂_and_left cs ds).mpr ⟨hcs.nodup_params hr, hcd⟩
    exact hboth.imp fun c d h => Complaint.same_finding h.2 h.1 p
  · -- A path of the other review is one of this review, too.
    have hno : ∀ p cs, r.At p cs → p.path ≠ k := fun p cs hat he => hk ⟨p, cs, hat, he⟩
    have hno' : ∀ p cs, r'.At p cs → p.path ≠ k := by
      intro p ds hat
      obtain ⟨cs, hcs, -⟩ := hat.of_reordered h.symm
      exact hno p cs hcs
    change List.Forall₂ _ (r.findings.filter _) (r'.findings.filter _)
    rw [filter_findings_eq_nil hno, filter_findings_eq_nil hno']
    exact .nil

end Review

/-- **The findings are the complaints.**  For a review made of maps with plain names, the
findings are in ascending order of the octets of their paths.  Each is about a position with complaints,
and no two positions have one path.  The findings at the path of a position tell the
complaints there, one each, in their order and all about them but the refused value.  In
any order of the maps the findings say the same. -/
theorem findings_eq_complaints (r : Review) (hr : r.Proper) :
    r.findings.Pairwise (fun f g => Text.utf8 f.path ≤ Text.utf8 g.path) ∧
      (∀ f ∈ r.findings, ∃ p cs, r.At p cs ∧ f.path = p.path) ∧
      (∀ p q cs ds, r.At p cs → r.At q ds → p.path = q.path → p = q) ∧
      (∀ p cs, r.At p cs →
        List.Forall₂ (fun c f => c.ToldBy p f) cs (r.findings.filter (·.path = p.path))) ∧
      ∀ r' : Review, r.Reordered r' →
        List.Forall₂ (fun f g => f.same g = true) r.findings r'.findings := by
  refine ⟨?_, ?_, ?_, ?_, fun r' => ?_⟩
  · rw [Review.findings_eq_sortedBy]
    exact (pairwise_sortedBy Finding.path _).imp Text.utf8_le_utf8_iff.mpr
  · intro f hf
    obtain ⟨p, cs, c, hat, -, rfl⟩ := Review.exists_of_mem_findings hf
    exact ⟨p, cs, hat, rfl⟩
  · intro p q cs ds hp hq
    exact Position.path_injective (hp.plain hr) (hq.plain hr)
  · intro p cs hat
    rw [Review.filter_findings hr hat, List.forall₂_map_right_iff, List.forall₂_same]
    exact fun c hc => Complaint.toldBy_finding (hat.nodup_params hr c hc) p
  · exact Review.same_findings_of_reordered hr

/-- The findings of a record with a list and a record inside are the same when the fields of
both records change places. -/
theorem findings_eq_complaints_nested :
    let long : Complaint := ⟨"length", none, [("value", .text "X"), ("min", .text "2")]⟩
    let blank : Complaint := ⟨"length", some "sku must not be blank", []⟩
    let items : Verdict := .items [(1, [("sku", .here [blank])])]
    let r : Review :=
      [("items", items), ("address", .inside [("city", .here [long]), ("zip", .here [blank])])]
    let r' : Review :=
      [("address", .inside [("zip", .here [blank]), ("city", .here [long])]), ("items", items)]
    r.Proper ∧ r.Reordered r' ∧
      List.Forall₂ (fun f g => f.same g = true) r.findings r'.findings := by
  intro long blank items r r'
  have hr : r.Proper := by
    refine .inside (by decide) (by decide) ?_
    simp only [r, List.forall_mem_cons]
    refine ⟨.items (by decide) ?_, .inside (by decide) (by decide) ?_, by simp⟩
    · simp only [List.forall_mem_cons]
      refine ⟨.inside (by decide) (by decide) ?_, by simp⟩
      simp only [List.forall_mem_cons]
      exact ⟨.here (by decide), by simp⟩
    · simp only [List.forall_mem_cons]
      exact ⟨.here (by decide), .here (by decide), by simp⟩
  have hreordered : r.Reordered r' :=
    .trans (.fields (.swap _ _ _))
      (@Verdict.Reordered.field [] [("items", items)] "address" _ _ (.fields (.swap _ _ _)))
  exact ⟨hr, hreordered, (findings_eq_complaints r hr).2.2.2.2 _ hreordered⟩

end Faultline.Validation
