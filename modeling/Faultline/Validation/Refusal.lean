import Faultline.Failure
import Faultline.Validation.Review
import Faultline.Validation.Settings
import Faultline.Validation.Translator

/-!
# Refusals

Refused input is reported as one failure, whose notes explain for every failing
field what is wrong with it.  There is no single cause, so the report has neither
category nor detail.

## Main definitions

* `Settings.refuse` — the failure for a list of findings.
* `Settings.refuseReview` — the failure for a review.
* `Provider.refuse`, `Provider.refuseReview` — the same with the standard settings.
-/

namespace Faultline.Validation

/-- Explains a finding; without a translator it gets the plain message. -/
def explainWith (translator : Option Translator) (f : Finding) : String :=
  match translator with
  | some t => t.explain f
  | none => f.plainMessage

/-- The notes on findings: the path of each with its explanation.  The last finding at a
path counts. -/
def notesOn (translator : Option Translator) (findings : List Finding) : Table String :=
  .ofList (findings.map fun f => (f.path, explainWith translator f))

namespace Settings

/-- The failure for a list of findings.  A notice tells that no translator speaks the
locale. -/
def refuse (settings : Settings) (provider : Provider) (findings : List Finding) :
    Work Failure := do
  let translator := provider.find? settings.locale
  if translator.isNone then tell (.untranslated settings.locale)
  let r ← Report.ofNotes settings.message (notesOn translator findings)
  return .reported r

/-- The failure for a review. -/
def refuseReview (settings : Settings) (provider : Provider) (review : Review) :
    Work Failure :=
  settings.refuse provider review.findings

end Settings

namespace Provider

/-- The failure for a list of findings, with the standard settings. -/
def refuse (provider : Provider) (findings : List Finding) : Work Failure :=
  Settings.standard.refuse provider findings

/-- The failure for a review, with the standard settings. -/
def refuseReview (provider : Provider) (review : Review) : Work Failure :=
  Settings.standard.refuseReview provider review

end Provider

end Faultline.Validation
