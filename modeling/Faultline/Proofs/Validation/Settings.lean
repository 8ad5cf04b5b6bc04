import Faultline.Proofs.Json.Given
import Faultline.Validation.Settings

/-!
# Sections of settings

A section may give the locale, the message, both or none, in any order and among whatever else.
Its text may be any spelling of an object, and all that counts is what the members tell of the two
names; or of an array, whose items are the locale and the message.

## Main definitions

* `Settings.Gives` — members give settings, with the standard ones for what they do not give.

## Main results

* `Settings.ofJson_object`, `Settings.ofJson_array` — what is read out of a section is told by the
  values in it.
* `Settings.section_decodes_to_overrides` — **a section is read exactly if each of the two names is
  given at most once and as a text**, and otherwise the first member that offends is told.
-/

namespace Faultline.Validation.Settings

open Json

/-- What a value of a section should be. -/
def judge : Value → Except Fault String := Value.asText "a string"

/-- Members give settings: what they tell, and the standard settings for what they do not. -/
def Gives (ms : List (String × Value)) (s : Settings) : Prop :=
  ∃ locale message, Given judge "locale" ms locale ∧ Given judge "message" ms message ∧
    s = ⟨locale.getD standard.locale, message.getD standard.message⟩

section Reading

variable {ms : List (String × Value)} {text : String}

/-- A section is read in any of its spellings. -/
theorem judges_read :
    Judges read fun v => (judgeRecord "struct BridgeConfig" members judge v).map ofMembers :=
  Judges.map (judges_readRecord (judges_wantText "a string") "struct BridgeConfig" members)
    ofMembers

/-- Of an object its members are taken in. -/
theorem ofJson_object (spelled : Spells text (.object ms)) :
    ofJson text = (ms.foldlM (takeMember members judge) []).map ofMembers :=
  Judges.readAll judges_read spelled

/-- Of an array the items are the locale and the message. -/
theorem ofJson_array {texts : List String} (few : texts.length ≤ 2)
    (spelled : Spells text (.array (texts.map .text))) :
    ofJson text = .ok (ofMembers (members.zip texts)) := by
  have taken : takeItems judge members (texts.map .text) = .ok (members.zip texts) :=
    takeItems_text "a string" few
  rw [ofJson, Judges.readAll judges_read spelled, judgeRecord, taken]
  rfl

/-! ### What a section gives -/

/-- Something is told of a name if it is given at most once, and as a text. -/
theorem exists_given_iff {name : String} :
    (∃ o, Given judge name ms o) ↔
      valuesOf name ms = [] ∨ ∃ t, valuesOf name ms = [.text t] := by
  constructor
  · rintro ⟨_, h | ⟨h, hx⟩⟩
    · exact Or.inl h
    · rename_i v x
      cases v with
      | text t => exact Or.inr ⟨t, h⟩
      | _ => cases hx
  · rintro (h | ⟨t, h⟩)
    · exact ⟨none, .absent h⟩
    · exact ⟨some t, .once h rfl⟩

theorem exists_gives_iff :
    (∃ s, Gives ms s) ↔ ∀ name ∈ members, ∃ o, Given judge name ms o := by
  constructor
  · rintro ⟨s, locale, message, hlocale, hmessage, -⟩
    exact List.forall_mem_cons.mpr ⟨⟨locale, hlocale⟩,
      List.forall_mem_singleton.mpr ⟨message, hmessage⟩⟩
  · intro told
    obtain ⟨locale, hlocale⟩ := told "locale" (by decide)
    obtain ⟨message, hmessage⟩ := told "message" (by decide)
    exact ⟨_, locale, message, hlocale, hmessage, rfl⟩

/-- What was taken in is what is given. -/
theorem gives_iff_of_records {given : List (String × String)}
    (h : Records members judge ms given) (s : Settings) : Gives ms s ↔ ofMembers given = s := by
  have hlocale : Given judge "locale" ms (given.lookup "locale") := h "locale" (by decide)
  have hmessage : Given judge "message" ms (given.lookup "message") := h "message" (by decide)
  constructor
  · rintro ⟨locale, message, hlocale', hmessage', rfl⟩
    rw [hlocale'.unique hlocale, hmessage'.unique hmessage]
    rfl
  · rintro rfl
    exact ⟨_, _, hlocale, hmessage, rfl⟩

/-- Settings are read out of an object exactly if its members give them. -/
theorem ofJson_eq_ok_iff (spelled : Spells text (.object ms)) (s : Settings) :
    ofJson text = .ok s ↔ Gives ms s := by
  rw [ofJson_object spelled]
  cases hfold : ms.foldlM (takeMember members judge) [] with
  | ok given =>
    rw [gives_iff_of_records (records_of_foldlM hfold)]
    exact ⟨Except.ok.inj, congrArg _⟩
  | error f =>
    constructor
    · rintro ⟨⟩
    · intro gives
      obtain ⟨given, h⟩ := exists_foldlM_takeMember_eq_ok_iff.mpr (exists_gives_iff.mp ⟨s, gives⟩)
      cases hfold.symm.trans h

/-- The fault of an object is that of the first member that offends. -/
theorem ofJson_eq_error_iff (spelled : Spells text (.object ms)) (f : Fault) :
    ofJson text = .error f ↔ ∃ before m after, ms = before ++ m :: after ∧
      (∃ s, Gives before s) ∧ Offends members judge before m f := by
  simp only [exists_gives_iff, ← foldlM_takeMember_eq_error_iff, ofJson_object spelled]
  cases ms.foldlM (takeMember members judge) [] with
  | ok given => constructor <;> rintro ⟨⟩
  | error g =>
    constructor <;> intro h <;> exact congrArg _ (Except.error.inj h)

end Reading

/-- Two sections whose known members are the same but for their order give the same. -/
theorem Gives.of_perm {ms ms' : List (String × Value)} {s : Settings} (h : Gives ms s)
    (perm : (ms.filter (·.1 ∈ members)).Perm (ms'.filter (·.1 ∈ members))) : Gives ms' s := by
  have values (name : String) (hname : name ∈ members) :
      (valuesOf name ms).Perm (valuesOf name ms') := by
    have known (ms : List (String × Value)) :
        valuesOf name (ms.filter (·.1 ∈ members)) = valuesOf name ms :=
      valuesOf_filter fun m _ same => by simp [same, hname]
    rw [← known ms, ← known ms']
    exact (perm.filter _).map _
  obtain ⟨locale, message, hlocale, hmessage, rfl⟩ := h
  exact ⟨locale, message, hlocale.of_perm (values "locale" (by decide)),
    hmessage.of_perm (values "message" (by decide)), rfl⟩

/-- Texts by position give what they give by name. -/
theorem gives_zip {texts : List String} (few : texts.length ≤ 2) :
    Gives ((members.zip texts).map fun m => (m.1, .text m.2)) (ofMembers (members.zip texts)) := by
  match texts with
  | [] => exact ⟨none, none, .absent rfl, .absent rfl, rfl⟩
  | [a] => exact ⟨some a, none, .once rfl rfl, .absent rfl, rfl⟩
  | [a, b] => exact ⟨some a, some b, .once rfl rfl, .once rfl rfl, rfl⟩
  | a :: b :: c :: rest => exact absurd few (by simp)

/-- **A section decodes to the standard settings and what overrides them.** -/
theorem section_decodes_to_overrides :
    (∀ (ms : List (String × Value)) (text : String), Spells text (.object ms) →
      ((∃ s, ofJson text = .ok s) ↔ ∀ name ∈ members,
        valuesOf name ms = [] ∨ ∃ t, valuesOf name ms = [.text t]) ∧
      (∀ s, ofJson text = .ok s ↔ Gives ms s) ∧
      (∀ f, ofJson text = .error f ↔ ∃ before m after, ms = before ++ m :: after ∧
        (∃ s, Gives before s) ∧ Offends members judge before m f) ∧
      ∀ (ms' : List (String × Value)) (text' : String), Spells text' (.object ms') →
        (ms.filter (·.1 ∈ members)).Perm (ms'.filter (·.1 ∈ members)) →
        ∀ s, ofJson text' = .ok s ↔ ofJson text = .ok s) ∧
    (∀ (texts : List String) (text text' : String), texts.length ≤ 2 →
      Spells text (.array (texts.map .text)) →
      Spells text' (.object ((members.zip texts).map fun m => (m.1, .text m.2))) →
      ∃ s, ofJson text = .ok s ∧ ofJson text' = .ok s) ∧
    ∀ s : Settings, ofJson s.json = .ok s := by
  refine ⟨fun ms text spelled => ⟨?_, ofJson_eq_ok_iff spelled, ofJson_eq_error_iff spelled,
    fun ms' text' spelled' perm s => ?_⟩, fun texts text text' few spelled spelled' => ?_,
    fun s => ?_⟩
  · simp only [ofJson_eq_ok_iff spelled, exists_gives_iff, exists_given_iff]
  · rw [ofJson_eq_ok_iff spelled, ofJson_eq_ok_iff spelled']
    exact ⟨fun h => h.of_perm perm.symm, fun h => h.of_perm perm⟩
  · exact ⟨_, ofJson_array few spelled, (ofJson_eq_ok_iff spelled' _).mpr (gives_zip few)⟩
  · refine (ofJson_eq_ok_iff (spells_write _) s).mpr ?_
    exact ⟨some s.locale, some s.message, .once rfl rfl, .once rfl rfl, rfl⟩

/-- A section overrides the message and no more, for it says nothing of the locale; and one in
which the locale comes first as null and then as a text is refused for the null. -/
theorem section_decodes_to_overrides_message :
    ofJson (Value.object [("kind", .array []), ("message", .text "No")]).write =
        .ok ⟨"en", "No"⟩ ∧
      ofJson (Value.object [("locale", .null), ("locale", .text "de")]).write =
        .error (.mismatch (.kind .null "a string")) := by
  constructor
  · have read := (section_decodes_to_overrides.1 _ _ (spells_write
      (.object [("kind", .array []), ("message", .text "No")]))).2.1
    exact (read ⟨"en", "No"⟩).mpr ⟨none, some "No", .absent rfl, .once rfl rfl, rfl⟩
  · have refused := (section_decodes_to_overrides.1 _ _ (spells_write
      (.object [("locale", .null), ("locale", .text "de")]))).2.2.1
    refine (refused (.mismatch (.kind .null "a string"))).mpr
      ⟨[], ("locale", .null), [("locale", .text "de")], rfl, ⟨standard, ?_⟩, ?_⟩
    · exact ⟨none, none, .absent rfl, .absent rfl, rfl⟩
    · exact .unfit (by decide) rfl rfl

end Faultline.Validation.Settings
