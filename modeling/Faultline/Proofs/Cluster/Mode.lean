import Faultline.Cluster.Mode
import Faultline.Proofs.Json.Given

/-!
# The choice of a cluster in a configuration file

How the cluster is reached can be written in several ways: by the name of a mode alone, by an object
whose only member has that name, and the path within it by name or by position, among whatever
else.  All of them are told by the values in the text, whatever its spelling.

## Main definitions

* `Mode.judge` — what is thought of a value.
* `Mode.Chooses` — a value chooses a mode.

## Main results

* `Mode.judges_read` — **the reader gives of any spelling of a value what is thought of it**.
* `Mode.judge_eq_ok_iff` — what is accepted is what chooses a mode.
* `Mode.ofJson_all_forms` — **all forms of a choice are read alike**, among them the one that is
  written.
-/

namespace Faultline.Cluster.Mode

open Json

/-! ### What is thought of a value -/

/-- What is thought of a path: it is a text, or nothing at all. -/
def judgePath : Value → Except Fault (Option String)
  | .null => .ok none
  | v => (v.asText "path string").map some

/-- What is thought of the content of a mode that has none. -/
def judgeNothing : Value → Except Fault Mode
  | .null => .ok .serviceAccount
  | v => .error (v.unwanted "unit")

/-- What is thought of the content of a mode, given its name. -/
def judgeContent (name : String) (v : Value) : Except Fault Mode :=
  if name = "in_cluster" then judgeNothing v
  else
    (judgeRecord "struct variant ClusterMode::OutOfCluster" ["kubeconfig"] judgePath v).map
      fun given => .kubeconfig ((given.lookup "kubeconfig").getD none)

/-- What is thought of a value: it is the name of a mode, or an object with the name and the
content of one, and nothing else. -/
def judge : Value → Except Fault Mode
  | .text name => ofName name
  | .object ((name, content) :: others) =>
    if name ∈ variants then do
      let mode ← judgeContent name content
      if others.isEmpty then .ok mode else .error .malformed
    else .error (.mismatch (.unknownVariant name variants))
  | _ => .error .malformed

/-! ### The readers -/

section Reading

variable {w r blank : List Char} {v : Value}

/-- A path is read in any of its spellings. -/
theorem judges_readPath : Judges readPath judgePath := by
  intro blank w r v hblank h hr
  unfold readPath
  rw [h.skipSpace hblank]
  cases v with
  | null =>
    cases h
    rfl
  | _ =>
    have text := judges_wantText "path string" blank_nil h hr
    rw [List.nil_append] at text
    split
    · rename_i null
      exact absurd null (h.ne_cons (by simp [Value.BeginsWith]) r _)
    · rw [text]
      rfl

theorem readNothing_eq (hblank : Blank blank) (h : SpellsValue w v) (hr : EndsNumeral r) :
    (do let r ← readNothing (blank ++ w ++ r); return (Mode.serviceAccount, r)) =
      (judgeNothing v).map fun m => (m, r) := by
  unfold readNothing
  rw [h.skipSpace hblank]
  cases v with
  | null =>
    cases h
    rfl
  | _ =>
    split
    · rename_i null
      exact absurd null (h.ne_cons (by simp [Value.BeginsWith]) r _)
    · rw [h.refuse hr "unit"]
      rfl

/-- The content of a mode is read in any of its spellings. -/
theorem judges_readContent (name : String) : Judges (readContent name) (judgeContent name) := by
  intro blank w r v hblank h hr
  have record := judges_readRecord judges_readPath
    "struct variant ClusterMode::OutOfCluster" ["kubeconfig"] hblank h hr
  unfold readContent judgeContent
  split
  · exact readNothing_eq hblank h hr
  · rw [record]
    cases judgeRecord _ _ judgePath v <;> rfl

theorem readName_eq {before name : List Char} {s : String} (hbefore : Blank before)
    (hname : SpellsText name s.toList) (r : List Char) :
    readName (before ++ '"' :: (name ++ '"' :: r)) = .ok (s, r) := by
  rw [readName, hbefore.skipSpace_append_cons (by decide)]
  simp only [hname.readText, bind, Except.bind, String.ofList_toList]
  rfl

/-- The first member of an object tells the mode, and then the object must end. -/
theorem read_member {m : String × Value} (hblank : Blank blank) (h : SpellsMember w m)
    (hr : EndsNumeral r) :
    read (blank ++ '{' :: (w ++ r)) =
      if m.1 ∈ variants then do
        let mode ← judgeContent m.1 m.2
        match skipSpace r with
        | [] => .error .incomplete
        | '}' :: r => .ok (mode, r)
        | _ => .error .malformed
      else .error (.mismatch (.unknownVariant m.1 variants)) := by
  cases h with
  | @intro before name between beyond w after m hbefore hname hbetween hbeyond spelled hafter =>
    have hcolon : readColon (between ++ ':' :: (beyond ++ w ++ (after ++ r))) =
        .ok (beyond ++ w ++ (after ++ r)) := by
      simp only [readColon, hbetween.skipSpace_append_cons (show isSpace ':' = false by decide)]
    have hends : EndsNumeral (after ++ r) := hafter.endsNumeral_append hr
    have hcontent := judges_readContent m.1 hbeyond spelled hends
    have whole : before ++ '"' :: (name ++ '"' :: (between ++ ':' :: (beyond ++ w ++ after))) ++ r =
        before ++ '"' :: (name ++ '"' :: (between ++ ':' :: (beyond ++ w ++ (after ++ r)))) := by
      simp
    rw [whole, read, hblank.skipSpace_append_cons (by decide)]
    simp only [readName_eq hbefore hname, bind, Except.bind]
    -- The content is read only if the name is known.
    by_cases known : m.1 ∈ variants
    · simp only [known, not_true_eq_false, ↓reduceIte, hcolon, hcontent]
      cases judgeContent m.1 m.2 with
      | error f => rfl
      | ok mode =>
        simp only [Except.map, hafter.skipSpace_append]
        rfl
    · simp only [known, not_false_eq_true, ↓reduceIte]
      rfl

/-- An object is read by its first member; it must have one, and no other. -/
theorem read_members {ms : List (String × Value)} (hblank : Blank blank) (h : SpellsMembers w ms)
    (r : List Char) :
    read (blank ++ '{' :: (w ++ '}' :: r)) = (judge (.object ms)).map fun m => (m, r) := by
  cases h with
  | @last w m h =>
    obtain ⟨name, content⟩ := m
    rw [read_member hblank h (endsNumeral_cons (by decide) r), judge,
      skipSpace_cons (show isSpace '}' = false by decide)]
    split
    · cases judgeContent name content <;> rfl
    · rfl
  | @more w ws m ms h rest =>
    obtain ⟨name, content⟩ := m
    -- After a comma there is another member.
    have others : ms.isEmpty = false := by cases rest <;> rfl
    have apart : w ++ ',' :: ws ++ '}' :: r = w ++ ',' :: (ws ++ '}' :: r) := by simp
    rw [apart, read_member hblank h (endsNumeral_cons (by decide) _), judge,
      skipSpace_cons (show isSpace ',' = false by decide), others]
    split
    · cases judgeContent name content <;> rfl
    · rfl

theorem read_emptyObject {inner : List Char} (hblank : Blank blank) (hinner : Blank inner)
    (r : List Char) : read (blank ++ '{' :: (inner ++ '}' :: r)) = .error .malformed := by
  rw [read, hblank.skipSpace_append_cons (by decide)]
  simp only [readName, hinner.skipSpace_append_cons (show isSpace '}' = false by decide)]
  rfl

/-- **The reader gives of any spelling of a value what is thought of it.** -/
theorem judges_read : Judges read judge := by
  intro blank w r v hblank h hr
  cases v with
  | text s =>
    rw [read, h.skipSpace hblank]
    cases h with
    | text h =>
      simp only [List.cons_append, List.append_assoc, List.nil_append, h.readText, bind,
        Except.bind, String.ofList_toList, judge]
      cases ofName s <;> rfl
  | object ms =>
    cases h with
    | @emptyObject inner hinner =>
      have whole : blank ++ '{' :: (inner ++ ['}']) ++ r = blank ++ '{' :: (inner ++ '}' :: r) := by
        simp
      rw [whole]
      exact read_emptyObject hblank hinner r
    | @object w ms h =>
      have whole : blank ++ '{' :: (w ++ ['}']) ++ r = blank ++ '{' :: (w ++ '}' :: r) := by simp
      rw [whole]
      exact read_members hblank h r
  | _ =>
    -- No other value begins with a quote or a brace.
    rw [read, h.skipSpace hblank]
    split
    · rename_i nothing
      obtain ⟨c, cs, rfl, -⟩ := h.exists_beginsWith
      cases nothing
    · rename_i quote
      exact absurd quote (h.ne_cons (by simp [Value.BeginsWith]) r _)
    · rename_i brace
      exact absurd brace (h.ne_cons (by simp [Value.BeginsWith]) r _)
    · rfl

end Reading

/-! ### What chooses a mode -/

/-- A value is the content of a mode, given the name of the mode. -/
inductive Content : String → Value → Mode → Prop
  /-- There is nothing more to be said about the service account. -/
  | nothing : Content "in_cluster" .null .serviceAccount
  /-- The path is not given among the members. -/
  | noMember {ms : List (String × Value)} (h : valuesOf "kubeconfig" ms = []) :
      Content "out_of_cluster" (.object ms) (.kubeconfig none)
  /-- The path is given once among the members, if only as nothing. -/
  | member {ms : List (String × Value)} {path : Option String}
      (h : valuesOf "kubeconfig" ms = [pathValue path]) :
      Content "out_of_cluster" (.object ms) (.kubeconfig path)
  /-- The path is not given by its position. -/
  | noItem : Content "out_of_cluster" (.array []) (.kubeconfig none)
  /-- The path is given by its position. -/
  | item (path : Option String) :
      Content "out_of_cluster" (.array [pathValue path]) (.kubeconfig path)

/-- A value chooses a mode. -/
inductive Chooses : Value → Mode → Prop
  /-- The name of a mode without content is enough. -/
  | name : Chooses (.text "in_cluster") .serviceAccount
  /-- The only member of an object has the name of the mode. -/
  | member {name : String} {content : Value} {m : Mode} (h : Content name content m) :
      Chooses (.object [(name, content)]) m

theorem judgePath_pathValue (path : Option String) : judgePath (pathValue path) = .ok path := by
  cases path <;> rfl

theorem judgePath_eq_ok_iff {v : Value} {path : Option String} :
    judgePath v = .ok path ↔ v = pathValue path := by
  constructor
  · intro h
    cases v with
    | null =>
      obtain rfl := Except.ok.inj h
      rfl
    | text s =>
      obtain rfl := Except.ok.inj h
      rfl
    | _ => cases h
  · rintro rfl
    exact judgePath_pathValue path

theorem variants_of_content {name : String} {v : Value} {m : Mode} (h : Content name v m) :
    name ∈ variants := by
  cases h <;> decide

/-- What is told of the path is what the members give. -/
theorem given_path_iff {ms : List (String × Value)} {o : Option (Option String)} :
    Given judgePath "kubeconfig" ms o ↔
      (valuesOf "kubeconfig" ms = [] ∧ o = none) ∨
        ∃ path, valuesOf "kubeconfig" ms = [pathValue path] ∧ o = some path := by
  constructor
  · rintro (h | ⟨h, hx⟩)
    · exact Or.inl ⟨h, rfl⟩
    · rw [judgePath_eq_ok_iff.mp hx] at h
      exact Or.inr ⟨_, h, rfl⟩
  · rintro (⟨h, rfl⟩ | ⟨path, h, rfl⟩)
    · exact .absent h
    · exact .once h (judgePath_pathValue path)

theorem content_of_members {ms : List (String × Value)} {given : List (String × Option String)}
    (h : ms.foldlM (takeMember ["kubeconfig"] judgePath) [] = .ok given) :
    Content "out_of_cluster" (.object ms)
      (.kubeconfig ((given.lookup "kubeconfig").getD none)) := by
  have told := records_of_foldlM h "kubeconfig" (List.mem_singleton.mpr rfl)
  rcases given_path_iff.mp told with ⟨hvalues, hnone⟩ | ⟨path, hvalues, hsome⟩
  · rw [hnone]
    exact .noMember hvalues
  · rw [hsome]
    exact .member hvalues

/-- Members that tell of the path are the content of a mode. -/
theorem judgeContent_of_given {ms : List (String × Value)} {o : Option (Option String)}
    (h : Given judgePath "kubeconfig" ms o) :
    judgeContent "out_of_cluster" (.object ms) = .ok (.kubeconfig (o.getD none)) := by
  have told : ∀ name ∈ ["kubeconfig"], ∃ o, Given judgePath name ms o :=
    List.forall_mem_singleton.mpr ⟨o, h⟩
  obtain ⟨given, hgiven⟩ := exists_foldlM_takeMember_eq_ok_iff.mpr told
  have same : given.lookup "kubeconfig" = o :=
    (records_of_foldlM hgiven "kubeconfig" (List.mem_singleton.mpr rfl)).unique h
  rw [judgeContent, if_neg (by decide), judgeRecord, hgiven, ← same]
  rfl

theorem content_of_items {vs : List Value} {given : List (String × Option String)}
    (h : takeItems judgePath ["kubeconfig"] vs = .ok given) :
    Content "out_of_cluster" (.array vs)
      (.kubeconfig ((given.lookup "kubeconfig").getD none)) := by
  match vs with
  | [] =>
    obtain rfl := Except.ok.inj h
    exact .noItem
  | v :: rest =>
    rw [takeItems] at h
    cases hv : judgePath v with
    | error f =>
      rw [hv] at h
      cases h
    | ok path =>
      rw [hv] at h
      obtain rfl := judgePath_eq_ok_iff.mp hv
      cases rest with
      | nil =>
        obtain rfl := Except.ok.inj h
        exact .item path
      | cons w ws => cases h

/-- What is accepted as the content of a mode is the content of a mode. -/
theorem judgeContent_eq_ok_iff {name : String} (known : name ∈ variants) {v : Value} {m : Mode} :
    judgeContent name v = .ok m ↔ Content name v m := by
  constructor
  · intro h
    -- Each of the two names has a content of its own.
    simp only [variants, List.mem_cons, List.not_mem_nil, or_false] at known
    rcases known with rfl | rfl
    · cases v with
      | null =>
        obtain rfl := Except.ok.inj h
        exact .nothing
      | _ => cases h
    · rw [judgeContent, if_neg (by decide)] at h
      cases hrecord : judgeRecord "struct variant ClusterMode::OutOfCluster" ["kubeconfig"]
          judgePath v with
      | error f =>
        rw [hrecord] at h
        cases h
      | ok given =>
        rw [hrecord] at h
        obtain rfl := Except.ok.inj h
        cases v with
        | object ms => exact content_of_members hrecord
        | array vs => exact content_of_items hrecord
        | _ => cases hrecord
  · intro h
    cases h with
    | nothing => rfl
    | noMember h => exact judgeContent_of_given (.absent h)
    | @member ms path h => exact judgeContent_of_given (.once h (judgePath_pathValue path))
    | noItem => rfl
    | item path => cases path <;> rfl

theorem ofName_eq_ok_iff {name : String} {m : Mode} :
    ofName name = .ok m ↔ name = "in_cluster" ∧ m = .serviceAccount := by
  unfold ofName
  split
  · rename_i h
    exact ⟨fun hm => ⟨h, (Except.ok.inj hm).symm⟩, fun hm => hm.2 ▸ rfl⟩
  · rename_i h
    refine ⟨fun hm => ?_, fun hm => absurd hm.1 h⟩
    split at hm <;> cases hm

/-- **What is accepted is what chooses a mode**, and nothing else. -/
theorem judge_eq_ok_iff {v : Value} {m : Mode} : judge v = .ok m ↔ Chooses v m := by
  constructor
  · intro h
    cases v with
    | text name =>
      obtain ⟨rfl, rfl⟩ := ofName_eq_ok_iff.mp h
      exact .name
    | object ms =>
      match ms with
      | [] => cases h
      | (name, content) :: others =>
        rw [judge] at h
        split at h
        · rename_i known
          cases hcontent : judgeContent name content with
          | error f =>
            rw [hcontent] at h
            cases h
          | ok mode =>
            rw [hcontent] at h
            cases others with
            | nil =>
              obtain rfl := Except.ok.inj h
              exact .member ((judgeContent_eq_ok_iff known).mp hcontent)
            | cons m ms => cases h
        · cases h
    | _ => cases h
  · intro h
    cases h with
    | name => rfl
    | @member name content m h =>
      have known := variants_of_content h
      rw [judge, if_pos known, (judgeContent_eq_ok_iff known).mpr h]
      rfl

/-- A document chooses a mode, in any of its spellings, if its value does. -/
theorem ofJson_eq_ok_iff {text : String} {v : Value} (spelled : Spells text v) {m : Mode} :
    ofJson text = .ok m ↔ Chooses v m := by
  rw [ofJson, Judges.readAll judges_read spelled]
  exact judge_eq_ok_iff

/-- What is written for a mode chooses it. -/
theorem chooses_value (m : Mode) : Chooses m.value m := by
  cases m with
  | serviceAccount => exact .name
  | kubeconfig path => exact .member (.member rfl)

/-- **All forms of a choice are read alike.**  What is written for a mode is read as that mode.  A
path may be given by name, among members of other names, or by its position, and if it is given as
nothing or not at all then no path is chosen.  All this holds of any spelling; and what else is
accepted is only the name of the service account, by itself or as that of a member without
content. -/
theorem ofJson_all_forms :
    (∀ m : Mode, ofJson m.json = .ok m) ∧
    (∀ (path : Option String) (before after : List (String × Value)) (text : String),
      (∀ m ∈ before ++ after, m.1 ≠ "kubeconfig") →
      Spells text (.object [("out_of_cluster",
        .object (before ++ ("kubeconfig", pathValue path) :: after))]) →
      ofJson text = .ok (.kubeconfig path)) ∧
    (∀ (path : Option String) (text : String),
      Spells text (.object [("out_of_cluster", .array [pathValue path])]) →
      ofJson text = .ok (.kubeconfig path)) ∧
    (∀ (others : List (String × Value)) (text : String),
      (∀ m ∈ others, m.1 ≠ "kubeconfig") →
      Spells text (.object [("out_of_cluster", .object others)]) →
      ofJson text = .ok (.kubeconfig none)) ∧
    ∀ (v : Value) (text : String), Spells text v → ∀ m, ofJson text = .ok m ↔ Chooses v m := by
  refine ⟨fun m => ?_, fun path before after text others spelled => ?_,
    fun path text spelled => ?_, fun others text unknown spelled => ?_,
    fun v text spelled m => ofJson_eq_ok_iff spelled⟩
  · exact (ofJson_eq_ok_iff (spells_write m.value)).mpr (chooses_value m)
  · exact (ofJson_eq_ok_iff spelled).mpr (.member (.member (valuesOf_amid others)))
  · exact (ofJson_eq_ok_iff spelled).mpr (.member (.item path))
  · exact (ofJson_eq_ok_iff spelled).mpr (.member (.noMember (valuesOf_eq_nil_iff.mpr unknown)))

/-- A path with a quote and a line break in it is read between members that are not known, and by
its position; and without it there is none. -/
theorem ofJson_all_forms_quoted :
    let path := "/etc/\"gate\"\n\\config"
    let named : Value := .object [("out_of_cluster",
      .object [("user", .array [.null]), ("kubeconfig", .text path), ("user", .object [])])]
    let placed : Value := .object [("out_of_cluster", .array [.text path])]
    let unnamed : Value := .object [("out_of_cluster", .object [("user", .array [.null])])]
    ofJson named.write = .ok (.kubeconfig (some path)) ∧
      ofJson placed.write = .ok (.kubeconfig (some path)) ∧
      ofJson unnamed.write = .ok (.kubeconfig none) := by
  intro path named placed unnamed
  obtain ⟨-, byName, byPosition, without, -⟩ := ofJson_all_forms
  refine ⟨?_, ?_, ?_⟩
  · exact byName (some path) [("user", .array [.null])] [("user", .object [])] _ (by decide)
      (spells_write named)
  · exact byPosition (some path) _ (spells_write placed)
  · exact without [("user", .array [.null])] _ (by decide) (spells_write unnamed)

end Faultline.Cluster.Mode
