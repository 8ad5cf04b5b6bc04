import Faultline.Cluster.Connection
import Mathlib.Data.List.Basic
import Mathlib.Data.String.Basic

/-!
# What an address tells

In an address a colon stands before the port, and a host may hold colons of its own.  The port is
what stands behind the last colon, as there is none in a port.  A colon further in front belongs to
the host, which is then between brackets; brackets that are there without a colon belong to the
host itself.

## Main results

* `append_colon_inj` — the last colon parts a text in one way.
* `mem_bracketed_iff` — there is a colon in a host as it stands in an address exactly if there is
  one in the host.
* `bracketed_injective` — a host is told by how it stands in an address.
* `serverUrl_tells_host_and_port` — **an address tells its host and its port.**
-/

namespace Faultline.Cluster

/-! ### The last colon -/

/-- A list without a sign cannot go on behind that sign. -/
theorem eq_nil_of_cons_eq_append {c : Char} {us vs ws : List Char} (hv : c ∉ vs)
    (h : c :: vs = us ++ c :: ws) : us = [] := by
  cases us with
  | nil => rfl
  | cons u us =>
    have behind : vs = us ++ c :: ws := (List.cons.inj h).2
    exact absurd (behind ▸ List.mem_append_right us (List.mem_cons_self ..)) hv

/-- The last colon parts a text in one way. -/
theorem append_colon_inj {s t p q : String} (hp : ':' ∉ p.toList) (hq : ':' ∉ q.toList)
    (h : s ++ ":" ++ p = t ++ ":" ++ q) : s = t ∧ p = q := by
  have chars : s.toList ++ ':' :: p.toList = t.toList ++ ':' :: q.toList := by
    simpa using congrArg String.toList h
  have front : s = t := by
    -- One of the two fronts goes on where the other one ends, but not by anything.
    rcases List.append_eq_append_iff.mp chars with ⟨us, ht, hrest⟩ | ⟨us, hs, hrest⟩
    · rw [eq_nil_of_cons_eq_append hp hrest, List.append_nil] at ht
      exact (String.toList_injective ht).symm
    · rw [eq_nil_of_cons_eq_append hq hrest, List.append_nil] at hs
      exact String.toList_injective hs
  subst front
  exact ⟨rfl, (String.append_right_inj (s ++ ":")).mp h⟩

/-! ### Hosts in an address -/

variable {host : String}

theorem bracketed_of_mem (h : ':' ∈ host.toList) : bracketed host = "[" ++ host ++ "]" := by
  rw [bracketed, if_pos (List.contains_iff_mem.mpr h)]

theorem bracketed_of_notMem (h : ':' ∉ host.toList) : bracketed host = host := by
  rw [bracketed, if_neg (mt List.contains_iff_mem.mp h)]

/-- There is a colon in a host as it stands in an address exactly if there is one in the host. -/
theorem mem_bracketed_iff : ':' ∈ (bracketed host).toList ↔ ':' ∈ host.toList := by
  by_cases h : ':' ∈ host.toList
  · rw [bracketed_of_mem h]
    simp [h]
  · rw [bracketed_of_notMem h]

/-- A host is told by how it stands in an address. -/
theorem bracketed_injective : Function.Injective bracketed := by
  intro host host' h
  -- If a host is put between brackets, this can be seen of the colons, and so of the other one.
  have colon_iff : ':' ∈ host.toList ↔ ':' ∈ host'.toList := by
    rw [← mem_bracketed_iff, h, mem_bracketed_iff]
  by_cases hm : ':' ∈ host.toList
  · rw [bracketed_of_mem hm, bracketed_of_mem (colon_iff.mp hm), String.append_left_inj,
      String.append_right_inj] at h
    exact h
  · rwa [bracketed_of_notMem hm, bracketed_of_notMem (mt colon_iff.mpr hm)] at h

/-! ### Addresses -/

/-- **An address tells its host and its port**, if there is no colon in the port.  No other host
and port without a colon give the address.  The port is what stands behind the last colon, and what
stands between the scheme and that colon is the host: as it is, if there is no colon in it, or else
between a pair of brackets that is added. -/
theorem serverUrl_tells_host_and_port (host : String) {port : String}
    (hport : ':' ∉ port.toList) :
    (∀ host' port', ':' ∉ port'.toList →
      serverUrl host port = serverUrl host' port' → host = host' ∧ port = port') ∧
    ∃ part : String, serverUrl host port = "https://" ++ part ++ ":" ++ port ∧
      (∀ before after, serverUrl host port = before ++ ":" ++ after → ':' ∉ after.toList →
        before = "https://" ++ part ∧ after = port) ∧
      (':' ∉ host.toList ∧ part = host ∨ ':' ∈ host.toList ∧ part = "[" ++ host ++ "]") := by
  constructor
  · intro host' port' hport' h
    obtain ⟨front, same_port⟩ := append_colon_inj hport hport' h
    have same_part : bracketed host = bracketed host' :=
      (String.append_right_inj "https://").mp front
    exact ⟨bracketed_injective same_part, same_port⟩
  · refine ⟨bracketed host, rfl, ?_, ?_⟩
    · intro before after h hafter
      obtain ⟨front, same_port⟩ := append_colon_inj hport hafter h
      exact ⟨front.symm, same_port.symm⟩
    · by_cases hm : ':' ∈ host.toList
      · exact Or.inr ⟨hm, bracketed_of_mem hm⟩
      · exact Or.inl ⟨hm, bracketed_of_notMem hm⟩

/-- The host of an address with brackets is what stands between them. -/
theorem serverUrl_tells_host_and_port_between :
    let url := "https://[fd00::1]:6443"
    ':' ∉ "6443".toList ∧ serverUrl "fd00::1" "6443" = url ∧
      (∀ host', url = serverUrl host' "6443" → "fd00::1" = host') ∧
      ∃ part : String, "https://[fd00::1]" = "https://" ++ part ∧
        part = "[" ++ "fd00::1" ++ "]" := by
  intro url
  have plain : ':' ∉ "6443".toList := by decide
  have made : serverUrl "fd00::1" "6443" = url := by decide
  obtain ⟨tells, part, -, parts, shape⟩ := serverUrl_tells_host_and_port "fd00::1" plain
  refine ⟨plain, made, fun host' h => (tells host' "6443" plain (made.trans h)).1, part,
    (parts "https://[fd00::1]" "6443" made plain).1, ?_⟩
  rcases shape with ⟨absent, -⟩ | ⟨-, between⟩
  · exact absurd (by decide) absent
  · exact between

/-- A colon in a port can be taken for one of a host between brackets. -/
example : serverUrl "[fd00" ":1]:6443" = serverUrl "fd00::1" "6443" := by decide

end Faultline.Cluster
