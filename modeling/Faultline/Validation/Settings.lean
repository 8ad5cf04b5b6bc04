import Faultline.Json.Members

/-!
# Settings for refused input

Which language refused input is explained in, and the message that goes with it.
A section of a configuration file may give either, both or none.

## Main definitions

* `Settings` — the locale and the message.
* `Settings.ofJson` — the settings that a JSON section gives.
* `Settings.json` — the settings as a JSON section.
-/

namespace Faultline.Validation

/-- The locale and the message for refused input. -/
structure Settings where
  /-- The locale whose translator explains the findings. -/
  locale : String := "en"
  /-- The message of every refusal. -/
  message : String := "Invalid Inputs"
  deriving DecidableEq, Repr, Inhabited

namespace Settings

/-- The settings without any choice made. -/
def standard : Settings := {}

/-- The members of a section. -/
def members : List String := ["locale", "message"]

/-- The settings with the given members, the others being the standard ones. -/
def ofMembers (given : List (String × String)) : Settings where
  locale := (given.lookup "locale").getD standard.locale
  message := (given.lookup "message").getD standard.message

/-- Reads a section. -/
def read : Json.Reader Settings := fun cs => do
  let (given, r) ← Json.readRecord "struct BridgeConfig" members (Json.wantText "a string") cs
  return (ofMembers given, r)

/-- The settings that a JSON document gives. -/
def ofJson (text : String) : Except Json.Fault Settings := Json.readAll read text

/-- The settings as a JSON document. -/
def json (s : Settings) : String :=
  (Json.Value.texts [("locale", s.locale), ("message", s.message)]).write

/-- The settings with another locale. -/
def withLocale (s : Settings) (locale : String) : Settings := { s with locale }

end Settings

end Faultline.Validation
