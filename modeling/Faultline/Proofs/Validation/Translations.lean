import Faultline.Proofs.Text.ByteOrder
import Faultline.Proofs.Validation.Refusal

/-!
# Which translator is found

Translators are registered and the locale to fall back on is set one after the other, in any
order and as often as one likes.  What is found afterwards can be read off the history: for each
locale the last translator counts, and of the locales to fall back on the last one.

## Main definitions

* `Change`, `after` — a history of changes, and what is at hand after it.
* `registered`, `lastFor`, `lastFallback` — what a history comes to.
* `Registers`, `Serves` — a history has a translator of a locale, or one to explain findings in
  its place.

## Main results

* `byLocale_after`, `fallback_after` — what is at hand is what the history comes to.
* `find?_after` — the translator that is found, read off the history.
* `find?_english` — the standard translations explain in English, whatever the locale.
* `find?_after_eq_none_iff` — none is found exactly if the history serves the locale in no way.
* `lookup_after_any_history` — **whatever the history, the last translator of a locale is found,
  else the last one of the last locale to fall back on**; without either, refused input gets
  the plain messages.
-/

namespace Faultline.Validation.Translations

/-! ### Histories -/

/-- A change to the translators at hand. -/
inductive Change
  /-- A translator is registered. -/
  | register (translator : Translator)
  /-- The locale to fall back on is set. -/
  | fallBack (locale : String)

namespace Change

/-- Makes a change. -/
def make (t : Translations) : Change → Translations
  | register translator => t.register translator
  | fallBack locale => t.withFallback locale

/-- The translator that a change registers. -/
def translator? : Change → Option Translator
  | register translator => some translator
  | fallBack _ => none

/-- The locale to fall back on that a change sets. -/
def fallback? : Change → Option String
  | register _ => none
  | fallBack locale => some locale

end Change

/-- What is at hand after a history of changes, the oldest of which comes first. -/
def after (history : List Change) : Translations := history.foldl Change.make empty

/-- The translators that were registered, the oldest first. -/
def registered (history : List Change) : List Translator := history.filterMap Change.translator?

/-- The locale to fall back on that was set last. -/
def lastFallback (history : List Change) : Option String :=
  (history.filterMap Change.fallback?).getLast?

/-- The translator that was registered last for a locale. -/
def lastFor (history : List Change) (locale : String) : Option Translator :=
  ((registered history).filter (·.locale = locale)).getLast?

/-- A translator was registered for a locale. -/
def Registers (history : List Change) (locale : String) : Prop :=
  ∃ t ∈ registered history, t.locale = locale

/-- A translator was registered for a locale, or for the one that was last set to fall back
on. -/
def Serves (history : List Change) (locale : String) : Prop :=
  Registers history locale ∨ ∃ l, lastFallback history = some l ∧ Registers history l

/-! ### What is at hand after a history -/

theorem after_concat (history : List Change) (c : Change) :
    after (history ++ [c]) = c.make (after history) := by
  rw [after, List.foldl_append]
  rfl

/-- The translators are kept as they were registered, the last one of each locale. -/
theorem byLocale_after (history : List Change) :
    (after history).byLocale = .ofList ((registered history).map fun t => (t.locale, t)) := by
  -- What counts is the last change, so the induction takes it off the end.
  induction history using List.reverseRecOn with
  | nil => rfl
  | append_singleton history c ih =>
    rw [after_concat]
    cases c with
    | register t =>
      have grown : registered (history ++ [.register t]) = registered history ++ [t] :=
        List.filterMap_append
      rw [grown, List.map_append, Table.ofList, Table.putAll_append, ← Table.ofList, ← ih]
      rfl
    | fallBack l =>
      have unchanged : registered (history ++ [.fallBack l]) = registered history :=
        List.filterMap_append.trans (List.append_nil _)
      rw [unchanged, ← ih]
      rfl

/-- The locale to fall back on is the one that was set last. -/
theorem fallback_after (history : List Change) :
    (after history).fallback = lastFallback history := by
  induction history using List.reverseRecOn with
  | nil => rfl
  | append_singleton history c ih =>
    rw [after_concat]
    cases c with
    | register t =>
      have unchanged : lastFallback (history ++ [.register t]) = lastFallback history :=
        congrArg List.getLast? (List.filterMap_append.trans (List.append_nil _))
      rw [unchanged, ← ih]
      rfl
    | fallBack l =>
      have replaced : lastFallback (history ++ [.fallBack l]) = some l :=
        (congrArg List.getLast? List.filterMap_append).trans List.getLast?_concat
      rw [replaced]
      rfl

/-- The translator that is kept for a locale is the last one registered for it. -/
theorem get?_after (history : List Change) (locale : String) :
    (after history).byLocale.get? locale = lastFor history locale := by
  have last := Table.get?_ofList_map Translator.locale id (registered history) locale
  rw [Option.map_id_apply] at last
  rw [byLocale_after]
  exact last

/-- The translator for a locale is its last one, else the last one of the locale to fall back
on. -/
theorem find?_after (history : List Change) (locale : String) :
    (after history).find? locale =
      (lastFor history locale).or ((lastFallback history).bind (lastFor history)) := by
  have kept : (after history).byLocale.get? = lastFor history := funext (get?_after history)
  rw [find?, fallback_after, kept]
  cases lastFor history locale <;> rfl

/-- The standard translations explain in English, whatever the locale. -/
theorem find?_english (locale : String) : english.find? locale = some .english := by
  have history : english = after [.register .english, .fallBack "en"] := rfl
  have fallen : lastFor [.register .english, .fallBack "en"] "en" = some .english := rfl
  rw [history, find?_after]
  by_cases h : locale = "en"
  · rw [h, fallen, Option.some_or]
  · have other : lastFor [.register .english, .fallBack "en"] locale = none := by
      simpa [lastFor, registered, Change.translator?, Translator.english] using Ne.symm h
    rw [other, Option.none_or]
    exact fallen

/-! ### Locales -/

theorem lastFor_eq_none_iff {history : List Change} {locale : String} :
    lastFor history locale = none ↔ ¬ Registers history locale := by
  simp [lastFor, Registers]

/-- What is found for a locale was registered for it. -/
theorem of_lastFor_eq_some {history : List Change} {locale : String} {t : Translator}
    (h : lastFor history locale = some t) : t ∈ registered history ∧ t.locale = locale := by
  have found := List.mem_of_getLast? h
  simpa using List.mem_filter.mp found

/-- What is found was registered, for the locale or for the one to fall back on. -/
theorem of_find?_after {history : List Change} {locale : String} {t : Translator}
    (h : (after history).find? locale = some t) :
    t ∈ registered history ∧ (t.locale = locale ∨ lastFallback history = some t.locale) := by
  rw [find?_after] at h
  -- Either the locale has a translator of its own or another one fills in.
  rcases Option.or_eq_some_iff.mp h with own | ⟨-, fallen⟩
  · obtain ⟨mem, rfl⟩ := of_lastFor_eq_some own
    exact ⟨mem, .inl rfl⟩
  · obtain ⟨l, set, found⟩ := Option.bind_eq_some_iff.mp fallen
    obtain ⟨mem, rfl⟩ := of_lastFor_eq_some found
    exact ⟨mem, .inr set⟩

/-- Nothing is found exactly if the history serves the locale in no way. -/
theorem find?_after_eq_none_iff {history : List Change} {locale : String} :
    (after history).find? locale = none ↔ ¬ Serves history locale := by
  rw [find?_after, Option.or_eq_none_iff, Option.bind_eq_none_iff, lastFor_eq_none_iff, Serves,
    not_or, not_exists]
  simp only [lastFor_eq_none_iff, not_and]

theorem mem_locales_after {history : List Change} {locale : String} :
    locale ∈ (after history).locales ↔ Registers history locale := by
  rw [locales, Table.mem_keys_sorted, byLocale_after, Table.mem_keys_ofList, List.map_map,
    List.mem_map]
  rfl

/-- The locales ascend, as texts and so as the octets of these. -/
theorem pairwise_locales (t : Translations) :
    t.locales.Pairwise fun l m => Text.utf8 l < Text.utf8 m :=
  (Table.pairwise_keys_sorted t.byLocale).imp Text.utf8_lt_utf8_of_lt

/-! ### Refusals -/

/-- A refusal in a locale that the history serves has its notes from a translator that was
registered for the locale or for the one to fall back on, and gives no notice. -/
theorem refuse_after_of_serves {history : List Change} {settings : Settings}
    (served : Serves history settings.locale) (findings : List Finding) (d : Desk) :
    ∃ t r d', settings.refuse (after history) findings d = (.reported r, d') ∧
      (after history).find? settings.locale = some t ∧ d'.notices = d.notices ∧
      ∀ path, r.notes.get? path = ((findings.filter (·.path = path)).getLast?).map t.explain := by
  have found : (after history).find? settings.locale ≠ none :=
    fun h => find?_after_eq_none_iff.mp h served
  obtain ⟨t, ht⟩ := Option.ne_none_iff_exists'.mp found
  have asked : (after history).provider.find? settings.locale = some t := ht
  refine ⟨t, _, _, settings.refuse_apply _ findings d, ht, ?_, fun path => ?_⟩
  · rw [asked]
    exact List.append_nil _
  · rw [asked]
    exact notesOn_get? _ findings path

/-- A refusal in a locale that the history serves in no way has the plain messages for its notes
and gives a notice. -/
theorem refuse_after_of_not_serves {history : List Change} {settings : Settings}
    (unserved : ¬ Serves history settings.locale) (findings : List Finding) (d : Desk) :
    ∃ r d', settings.refuse (after history) findings d = (.reported r, d') ∧
      d'.notices = d.notices ++ [.untranslated settings.locale] ∧
      ∀ path, r.notes.get? path =
        ((findings.filter (·.path = path)).getLast?).map Finding.plainMessage := by
  have asked : (after history).provider.find? settings.locale = none :=
    find?_after_eq_none_iff.mpr unserved
  refine ⟨_, _, settings.refuse_apply _ findings d, ?_, fun path => ?_⟩
  · rw [asked]
    rfl
  · rw [asked]
    exact notesOn_get? _ findings path

/-! ### Any history -/

/-- A locale with a translator keeps what is found for it as long as the translators registered
for this very locale are the same, whatever is changed beside them. -/
theorem find?_after_congr {history history' : List Change} {locale : String}
    (own : Registers history locale)
    (same : (registered history').filter (·.locale = locale) =
      (registered history).filter (·.locale = locale)) :
    (after history').find? locale = (after history).find? locale := by
  have last : lastFor history' locale = lastFor history locale := congrArg List.getLast? same
  have some_last : lastFor history locale ≠ none := fun h => lastFor_eq_none_iff.mp h own
  obtain ⟨t, ht⟩ := Option.ne_none_iff_exists'.mp some_last
  rw [find?_after, find?_after, last, ht, Option.some_or, Option.some_or]

/-- It does not matter when the locale to fall back on was set. -/
theorem after_congr {history history' : List Change}
    (translators : registered history' = registered history)
    (fallback : lastFallback history' = lastFallback history) : after history' = after history := by
  have byLocale : (after history').byLocale = (after history).byLocale := by
    rw [byLocale_after, byLocale_after, translators]
  rw [← fallback_after, ← fallback_after] at fallback
  cases h : after history
  cases h' : after history'
  rw [h, h'] at byLocale fallback
  exact congr (congrArg Translations.mk byLocale) fallback

/-- **After any history the last translator of a locale is found, else the last one of the last
locale to fall back on.**  So what is found was registered for the one or the other.  What is
found for a locale that has a translator does not change with the locale to fall back on nor with
the translators of other locales, and setting the locale to fall back on may come at any time.
The locales at hand are those of the translators, in ascending order.  A refusal has the plain
messages for its notes, and a notice tells so, exactly if neither the locale nor the one to fall
back on has a translator. -/
theorem lookup_after_any_history (history : List Change) :
    (∀ locale, (after history).find? locale =
      (lastFor history locale).or ((lastFallback history).bind (lastFor history))) ∧
    (∀ locale t, (after history).find? locale = some t →
      t ∈ registered history ∧ (t.locale = locale ∨ lastFallback history = some t.locale)) ∧
    (∀ locale history', Registers history locale →
      (registered history').filter (·.locale = locale) =
        (registered history).filter (·.locale = locale) →
      (after history').find? locale = (after history).find? locale) ∧
    (∀ history', registered history' = registered history →
      lastFallback history' = lastFallback history → after history' = after history) ∧
    (∀ locale, locale ∈ (after history).locales ↔ Registers history locale) ∧
    (after history).locales.Pairwise (fun l m => Text.utf8 l < Text.utf8 m) ∧
    (∀ locale, (after history).find? locale = none ↔ ¬ Serves history locale) ∧
    ∀ (settings : Settings) (findings : List Finding) (d : Desk),
      (Serves history settings.locale →
        ∃ t r d', settings.refuse (after history) findings d = (.reported r, d') ∧
          (after history).find? settings.locale = some t ∧ d'.notices = d.notices ∧
          ∀ path, r.notes.get? path =
            ((findings.filter (·.path = path)).getLast?).map t.explain) ∧
      (¬ Serves history settings.locale →
        ∃ r d', settings.refuse (after history) findings d = (.reported r, d') ∧
          d'.notices = d.notices ++ [.untranslated settings.locale] ∧
          ∀ path, r.notes.get? path =
            ((findings.filter (·.path = path)).getLast?).map Finding.plainMessage) := by
  refine ⟨find?_after history, fun _ _ => of_find?_after, fun _ _ => find?_after_congr,
    fun _ => after_congr, fun _ => mem_locales_after, pairwise_locales _,
    fun _ => find?_after_eq_none_iff, fun settings findings d => ⟨?_, ?_⟩⟩
  · intro served
    exact refuse_after_of_serves served findings d
  · intro unserved
    exact refuse_after_of_not_serves unserved findings d

/-- The German translator is replaced after the locale to fall back on was set, and that was set
before its translator was registered.  German is explained by the new one, whatever becomes of the
other locales, and Italian by the English one; without a locale to fall back on it gets the plain
messages. -/
theorem lookup_after_any_history_german :
    let old : Translator := ⟨"de", fun f => f.field ++ " fehlt"⟩
    let new : Translator := ⟨"de", fun f => f.field ++ " ist erforderlich"⟩
    let history : List Change :=
      [.register old, .fallBack "en", .register .english, .register new]
    let alone : List Change := [.register old, .register new]
    let italian : Settings := Settings.standard.withLocale "it"
    let name := Finding.make "name" "required"
    let d := Desk.fresh fun n => ⟨toString n, "0"⟩
    (after history).find? "de" = some new ∧ (after alone).find? "de" = some new ∧
      after (.fallBack "fr" :: history) = after history ∧
      (∃ r d', italian.refuse (after history) [name] d = (.reported r, d') ∧
        r.notes.get? "name" = some "name is a required field") ∧
      ∃ r d', italian.refuse (after alone) [name] d = (.reported r, d') ∧
        d'.notices = [.untranslated "it"] ∧
        r.notes.get? "name" = some "field validation for 'name' failed on the 'required' rule" := by
  intro old new history alone italian name d
  obtain ⟨found, -, keeps, fallback, -, -, -, refused⟩ := lookup_after_any_history history
  obtain ⟨-, -, -, -, -, -, none_iff, refused'⟩ := lookup_after_any_history alone
  have german : (after history).find? "de" = some new := found "de"
  have served : Serves history "it" :=
    .inr ⟨"en", rfl, .english, List.mem_cons_of_mem _ (List.mem_cons_self), rfl⟩
  have unserved : ¬ Serves alone "it" := (none_iff "it").mp rfl
  have german' : (after alone).find? "de" = some new :=
    (keeps "de" alone ⟨old, .head _, rfl⟩ rfl).trans german
  refine ⟨german, german', fallback _ rfl rfl, ?_, ?_⟩
  · obtain ⟨t, r, d', h, asked, -, notes⟩ := (refused italian [name] d).1 served
    have english : some Translator.english = some t := asked
    refine ⟨r, d', h, (notes "name").trans ?_⟩
    cases english
    decide +kernel
  · obtain ⟨r, d', h, notices, notes⟩ := (refused' italian [name] d).2 unserved
    exact ⟨r, d', h, notices, (notes "name").trans (by decide +kernel)⟩

end Faultline.Validation.Translations
