import Faultline.Proofs.Enrichment
import Faultline.Proofs.Text.ByteOrder

/-!
# The notes in a dump

In a dump the notes are a section of their own, with a line for each key.  They are gone through
in whatever order a table happens to have them, but shown in that of the keys, and what is shown at
a key is what was written last.  So of the writing itself nothing can be seen in a dump: neither
the order in which the keys were written, nor by how many writings, nor what was replaced.

## Main definitions

* `Writing` — a way to write notes into a report.
* `Report.writeAll` — the report after several writings.
* `Report.lastNote` — what was written last at a key.
* `notesSection` — the section of a dump that lists notes.

## Main results

* `Report.writeAll_eq` — writings are writes into the notes, one after the other.
* `Report.dump_eq` — the section with the notes stands between two parts that do not depend on
  them.
* `dump_shows_last_notes` — **what can be seen of writings in a dump is the last note at each
  key**, in the order of the keys.
-/

namespace Faultline

/-! ### Writing notes -/

/-- A way to write notes into a report. -/
inductive Writing
  /-- One note. -/
  | note (key value : String)
  /-- Several notes, one after the other. -/
  | notes (entries : List (String × String))
  deriving DecidableEq, Repr

/-- What is written, in its order. -/
def Writing.entries : Writing → List (String × String)
  | note key value => [(key, value)]
  | notes entries => entries

namespace Report

/-- The report after a writing. -/
def write (r : Report) : Writing → Report
  | .note key value => r.addNote key value
  | .notes entries => r.addNotes entries

/-- The report after several writings. -/
def writeAll (r : Report) (ws : List Writing) : Report := ws.foldl write r

/-- What was written last at a key, or else was there before. -/
def lastNote (r : Report) (ws : List Writing) (key : String) : Option String :=
  (((ws.flatMap Writing.entries).filter (·.1 = key)).getLast?.map Prod.snd).or (r.notes.get? key)

theorem write_eq (r : Report) (w : Writing) :
    r.write w = { r with notes := r.notes.putAll w.entries } := by
  cases w <;> rfl

/-- **Writings are writes into the notes**, one after the other, and change nothing else. -/
theorem writeAll_eq (r : Report) (ws : List Writing) :
    r.writeAll ws = { r with notes := r.notes.putAll (ws.flatMap Writing.entries) } := by
  induction ws generalizing r with
  | nil => rfl
  | cons w ws ih =>
    change (r.write w).writeAll ws = _
    rw [ih, write_eq, List.flatMap_cons, Table.putAll_append]

/-- What is noted at a key is what was written last. -/
theorem get?_notes_writeAll (r : Report) (ws : List Writing) (key : String) :
    (r.writeAll ws).notes.get? key = r.lastNote ws key := by
  rw [writeAll_eq, lastNote, Table.get?_putAll_getLast?]

end Report

/-! ### The section -/

/-- The line of a dump that shows a note. -/
def noteLine (e : String × String) : String := "        " ++ e.1 ++ ": " ++ e.2

/-- The section of a dump that lists notes, a line each; there is none without notes. -/
def notesSection (shown : List (String × String)) : String :=
  if shown.isEmpty then ""
  else "\n    Meta:\n" ++ String.join (shown.map fun e => noteLine e ++ "\n")

/-- Lines are begun anew before each of them or ended after each. -/
theorem join_map_lines {β : Type} (line : β → String) (xs : List β) :
    String.join (xs.map fun x => "\n" ++ line x) ++ "\n" =
      "\n" ++ String.join (xs.map fun x => line x ++ "\n") := by
  induction xs with
  | nil => rfl
  | cons x xs ih =>
    rw [List.map_cons, List.map_cons, String.join_cons, String.join_cons, String.append_assoc, ih]
    simp only [String.append_assoc]

namespace Report

theorem noteLines_eq (t : Table String) :
    noteLines t = String.join (t.sorted.map fun e => "\n" ++ noteLine e) := by
  have margin : "\n        " = "\n" ++ "        " := rfl
  simp only [noteLines, noteLine, margin, String.append_assoc]

theorem paragraph_false (title text : String) : paragraph false title text = "" := rfl

theorem paragraph_noteLines (t : Table String) :
    paragraph (!t.isEmpty) "Meta:" (noteLines t) = notesSection t.sorted := by
  rw [notesSection, t.isEmpty_sorted]
  cases t.isEmpty with
  | true => rfl
  | false =>
    calc "\n    " ++ "Meta:" ++ noteLines t ++ "\n"
      _ = "\n    Meta:" ++ (noteLines t ++ "\n") := String.append_assoc
      _ = "\n    Meta:" ++ ("\n" ++ String.join (t.sorted.map fun e => noteLine e ++ "\n")) := by
        rw [noteLines_eq, join_map_lines]
      _ = "\n    Meta:" ++ "\n" ++ String.join (t.sorted.map fun e => noteLine e ++ "\n") :=
        String.append_assoc.symm

/-- The notes in a dump stand in a section of their own, behind all else but the cause. -/
theorem dump_eq (r : Report) (t : Table String) (cause : Option Cause) :
    { r with notes := t, cause := cause }.dump =
      { r with notes := .empty, cause := none }.dump ++ notesSection t.sorted ++
        paragraph cause.isSome "Source: " ((cause.map Cause.dump).getD "") := by
  have noNotes : paragraph (!(.empty : Table String).isEmpty) "Meta:" (noteLines .empty) = "" :=
    paragraph_false _ _
  have noCause (text : String) : paragraph (none : Option Cause).isSome "Source: " text = "" :=
    paragraph_false _ _
  rw [dump, dump]
  simp only [paragraph_noteLines, noNotes, noCause, String.append_empty]
  rfl

/-- In the dump of a report without notes that section is missing. -/
theorem dump_without_notes (r : Report) :
    { r with notes := .empty }.dump = { r with notes := .empty, cause := none }.dump ++
      paragraph r.cause.isSome "Source: " ((r.cause.map Cause.dump).getD "") := by
  have nothing : notesSection (Table.sorted .empty) = "" := by
    rw [notesSection, Table.isEmpty_sorted]
    rfl
  have dumped := r.dump_eq .empty r.cause
  rwa [nothing, String.append_empty] at dumped

/-- After any writings the dump differs in that section only. -/
theorem dump_writeAll (r : Report) (ws : List Writing) (t : Table String) :
    { r.writeAll ws with notes := t }.dump =
      { r with notes := .empty, cause := none }.dump ++ notesSection t.sorted ++
        paragraph r.cause.isSome "Source: " ((r.cause.map Cause.dump).getD "") := by
  rw [writeAll_eq]
  exact r.dump_eq t r.cause

end Report

/-! ### What can be seen of writings -/

/-- **A dump shows the last note at each key.**  Writings that leave the same note at each key
leave the same dump, in whatever order the notes are gone through.  They are seen in one section
only, which stands behind all else but the cause, and is there exactly if there are notes: its
lines show each key once, with what was written last there, and the keys ascend by their octets. -/
theorem dump_shows_last_notes (r : Report) :
    (∀ (ws ws' : List Writing) (t t' : Table String),
      (∀ key, r.lastNote ws key = r.lastNote ws' key) →
      t.entries.Perm (r.writeAll ws).notes.entries →
      t'.entries.Perm (r.writeAll ws').notes.entries →
      { r.writeAll ws with notes := t }.dump = { r.writeAll ws' with notes := t' }.dump) ∧
    ∃ after : String,
      { r with notes := .empty }.dump = { r with notes := .empty, cause := none }.dump ++ after ∧
      ∀ (ws : List Writing) (t : Table String), t.entries.Perm (r.writeAll ws).notes.entries →
        ∃ shown : List (String × String),
          { r.writeAll ws with notes := t }.dump =
            { r with notes := .empty, cause := none }.dump ++ notesSection shown ++ after ∧
          shown.isEmpty = (r.writeAll ws).notes.isEmpty ∧
          (shown.map Prod.fst).Pairwise (fun k l => Text.utf8 k < Text.utf8 l) ∧
          ∀ key value, (key, value) ∈ shown ↔ r.lastNote ws key = some value := by
  have noted {ws : List Writing} {t : Table String}
      (ht : t.entries.Perm (r.writeAll ws).notes.entries) (key : String) :
      t.get? key = r.lastNote ws key := by
    rw [Table.same_of_perm ht key, r.get?_notes_writeAll]
  constructor
  · intro ws ws' t t' h ht ht'
    have same : t.Same t' := fun key => by rw [noted ht, noted ht', h key]
    rw [r.dump_writeAll, r.dump_writeAll, same.sorted_eq]
  · refine ⟨_, r.dump_without_notes, fun ws t ht => ⟨t.sorted, r.dump_writeAll ws t, ?_, ?_, ?_⟩⟩
    · rw [t.isEmpty_sorted]
      exact ht.isEmpty_eq
    · exact t.pairwise_keys_sorted.imp Text.utf8_lt_utf8_of_lt
    · intro key value
      rw [Table.mem_sorted_iff, noted ht]

/-- The host is written twice, or once among other notes; and the notes are gone through in
another order. -/
theorem dump_shows_last_notes_host :
    let r : Report := { Report.blank ⟨"0", "0"⟩ (some .internal) with
      detail := "connection refused"
      notes := .ofList [("circle", "default")] }
    let ws : List Writing := [.note "host" "db", .note "attempt" "1", .note "host" "cache"]
    let ws' : List Writing := [.notes [("attempt", "2"), ("host", "cache")], .note "attempt" "1"]
    let t : Table String := .ofList [("host", "cache"), ("attempt", "1"), ("circle", "default")]
    (∀ key, r.lastNote ws key = r.lastNote ws' key) ∧
      t.entries.Perm (r.writeAll ws).notes.entries ∧
      { r.writeAll ws with notes := t }.dump = (r.writeAll ws').dump := by
  intro r ws ws' t
  have same : ∀ key, r.lastNote ws key = r.lastNote ws' key := by
    intro key
    by_cases host : "host" = key
    · subst host
      rfl
    · by_cases attempt : "attempt" = key <;>
        simp [Report.lastNote, ws, ws', Writing.entries, host, attempt]
  have order : t.entries.Perm (r.writeAll ws).notes.entries := by decide
  exact ⟨same, order, (dump_shows_last_notes r).1 ws ws' t _ same order (.refl _)⟩

end Faultline
