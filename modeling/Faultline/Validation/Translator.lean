import Faultline.Validation.Finding

/-!
# Translators

A translator explains findings in one language.  The translators at hand are kept by
their locales.

## Main definitions

* `Translator` — a locale, and how it explains a finding.
* `Translator.english` — the explanations of the common rules in English.
* `Provider` — whoever can be asked for the translator of a locale.
* `Translations` — translators by locale, with a locale to fall back on.
* `Translations.find?` — the translator for a locale.
-/

namespace Faultline.Validation

/-- Explains findings in one language. -/
structure Translator where
  /-- The language. -/
  locale : String
  /-- The explanation of a finding. -/
  explain : Finding → String

/-- Whoever can be asked for the translator of a locale. -/
structure Provider where
  /-- The translator for a locale, if there is one. -/
  find? : String → Option Translator

/-! ### English -/

namespace Translator

/-- What a rule about the length of a text demands. -/
def lengthDemand (equal min max : Option String) : Option String :=
  match equal, min, max with
  | some n, _, _ => some ("must be " ++ n ++ " characters in length")
  | none, some a, some b =>
    some ("must be between " ++ a ++ " and " ++ b ++ " characters in length")
  | none, some a, none => some ("must be at least " ++ a ++ " characters in length")
  | none, none, some b => some ("must be a maximum of " ++ b ++ " characters in length")
  | none, none, none => none

/-- What a lower bound demands. -/
def atLeast (min : String) : String := "must be " ++ min ++ " or greater"

/-- What an upper bound demands. -/
def atMost (max : String) : String := "must be " ++ max ++ " or less"

/-- What a rule about the size of a number demands. -/
def rangeDemand (min max : Option String) : Option String :=
  match min, max with
  | some a, some b => some ("must be between " ++ a ++ " and " ++ b)
  | some a, none => some (atLeast a)
  | none, some b => some (atMost b)
  | none, none => none

/-- What the rule of a finding demands of the field, in English; `none` for a rule that
is not known or lacks its parameters. -/
def englishDemand (f : Finding) : Option String :=
  match f.rule with
  | "required" => some "is a required field"
  | "email" => some "must be a valid email address"
  | "url" => some "must be a valid URL"
  | "ip" => some "must be a valid IP address"
  | "credit_card" => some "must be a valid credit card number"
  | "non_control_character" => some "cannot contain control characters"
  | "regex" => some "does not match the expected format"
  | "must_match" =>
    match f.param? "other" with
    | some other => some ("must be equal to " ++ other)
    | none => some "must match"
  | "contains" => (f.param? "needle").map fun s => "must contain the text '" ++ s ++ "'"
  | "does_not_contain" => (f.param? "needle").map fun s => "cannot contain the text '" ++ s ++ "'"
  | "length" => lengthDemand (f.param? "equal") (f.param? "min") (f.param? "max")
  | "range" => rangeDemand (f.param? "min") (f.param? "max")
  | "min" => (f.param? "min").map atLeast
  | "max" => (f.param? "max").map atMost
  | _ => none

/-- Explains a finding in English: its own message, else what its rule demands. -/
def explainInEnglish (f : Finding) : String :=
  match f.message, englishDemand f with
  | some message, _ => message
  | none, some demand => f.field ++ " " ++ demand
  | none, none => f.plainMessage

/-- The explanations of the common rules in English. -/
def english : Translator := ⟨"en", explainInEnglish⟩

end Translator

/-! ### Translators by locale -/

/-- Translators by locale. -/
structure Translations where
  /-- The translator of each locale. -/
  byLocale : Table Translator
  /-- The locale that is used for those that have no translator. -/
  fallback : Option String

namespace Translations

/-- No translator at all. -/
def empty : Translations := ⟨.empty, none⟩

/-- Adds a translator, which replaces the one of its locale. -/
def register (t : Translations) (translator : Translator) : Translations :=
  { t with byLocale := t.byLocale.put translator.locale translator }

/-- Sets the locale to fall back on. -/
def withFallback (t : Translations) (locale : String) : Translations :=
  { t with fallback := some locale }

/-- English for everybody. -/
def english : Translations := (empty.register Translator.english).withFallback "en"

/-- The locales that have a translator, in ascending order. -/
def locales (t : Translations) : List String := t.byLocale.sorted.map Prod.fst

/-- The translator for a locale: its own, else that of the locale to fall back on. -/
def find? (t : Translations) (locale : String) : Option Translator :=
  match t.byLocale.get? locale with
  | some translator => some translator
  | none => t.fallback.bind t.byLocale.get?

/-- Translators by locale can be asked for the one of a locale. -/
def provider (t : Translations) : Provider := ⟨t.find?⟩

instance : Coe Translations Provider := ⟨provider⟩

end Translations

end Faultline.Validation
