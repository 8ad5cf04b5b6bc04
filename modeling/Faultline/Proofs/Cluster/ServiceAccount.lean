import Faultline.Cluster.ServiceAccount
import Faultline.Proofs.Text.Trimming

/-!
# The way through a service account

The way from a service account to a connection has two steps: the environment names a host and a
port, and the token file holds a token.  The certificates are no step, for a connection can do
without them.

## Main definitions

* `ServiceAccount.Addressed` — the environment names a host and a port.
* `ServiceAccount.Leads` — the account leads to a connection.
* `ServiceAccount.Obstacle` — what may stand in the way; `ServiceAccount.Obstacle.report` — the
  report on it.
* `ServiceAccount.Meets` — something stands in the way from an account.

## Main results

* `ServiceAccount.connect_of_leads`, `ServiceAccount.connect_of_meets` — what comes of either.
* `account_ends_in_one_outcome` — **the connection is the one that the account leads to, and a
  failure is the report on what stands in the way**, and there is always one or the other.
-/

namespace Faultline.Cluster

open Text (Trims isBlank trimmed trims_trimmed)

namespace ServiceAccount

/-! ### The way -/

/-- The environment names a host and a port, and neither name is empty. -/
structure Addressed (a : ServiceAccount) (host port : String) : Prop where
  host_eq : a.host = some host
  port_eq : a.port = some port
  host_ne : host ≠ ""
  port_ne : port ≠ ""

/-- An account leads to a connection: its address is known, and in its token file there is
something besides blanks.  The certificates are named if they are there. -/
inductive Leads (a : ServiceAccount) (files : Files) : Connection → Prop
  | intro {host port text token : String} (addressed : a.Addressed host port)
      (read : files.read a.tokenPath = .ok text) (filled : ∃ c ∈ text.toList, isBlank c = false)
      (trims : Trims text token) :
      a.Leads files {
        server := serverUrl host port
        token := some token
        authority := if files.holds a.authorityPath then some a.authorityPath else none
        kubeconfig := none }

/-! ### What may stand in the way -/

/-- What may stand in the way from a service account to a connection. -/
inductive Obstacle
  /-- The environment does not name the server. -/
  | noAddress
  /-- The token file cannot be read. -/
  | unread (e : Host.Error)
  /-- There is nothing but blanks in the token file. -/
  | blankToken
  deriving DecidableEq, Repr

namespace Obstacle

/-- The step at which the way ends. -/
def stage : Obstacle → String
  | noAddress => "incluster.rest_config.env"
  | unread _ | blankToken => "incluster.read_token"

/-- The category of an obstacle: whatever the trouble with the file is, it is an internal one, and
only an empty token does not fit what was asked for. -/
def category : Obstacle → Category
  | noAddress | unread _ => .internal
  | blankToken => .illegalParam

/-- What is said of an obstacle. -/
def text : Obstacle → String
  | noAddress => "unable to load in-cluster configuration, KUBERNETES_SERVICE_HOST and " ++
      "KUBERNETES_SERVICE_PORT must be defined"
  | unread e => e.cause.joined
  | blankToken => "service account token is empty"

/-- The notes on an obstacle: the path of the token file where it was looked for. -/
def notes (a : ServiceAccount) : Obstacle → List (String × String)
  | noAddress => []
  | unread _ | blankToken => [("path", a.tokenPath)]

/-- The cause of an obstacle, where one comes from outside. -/
def cause : Obstacle → Option Cause
  | unread e => some e.cause
  | noAddress | blankToken => none

/-- The report on an obstacle. -/
def report (o : Obstacle) (a : ServiceAccount) (occurrence : Occurrence) : Report where
  occurrence := occurrence
  message := ""
  detail := Report.specified o.text
  operations := [o.stage, "incluster.client"]
  category := some o.category
  notes := .ofList (o.notes a)
  cause := o.cause

end Obstacle

/-- Something stands in the way from an account to a connection, and nothing does before it. -/
inductive Meets (a : ServiceAccount) (files : Files) : Obstacle → Prop
  /-- The environment does not name the server, whatever the files are. -/
  | noAddress (h : ∀ host port, ¬ a.Addressed host port) : a.Meets files .noAddress
  /-- The token file cannot be read. -/
  | unread {host port : String} {e : Host.Error} (addressed : a.Addressed host port)
      (he : files.read a.tokenPath = .error e) : a.Meets files (.unread e)
  /-- The token file is read, but there are only blanks in it. -/
  | blankToken {host port text : String} (addressed : a.Addressed host port)
      (read : files.read a.tokenPath = .ok text) (blank : ∀ c ∈ text.toList, isBlank c = true) :
      a.Meets files .blankToken

variable {a : ServiceAccount} {files : Files} {host port text : String}

/-! ### The steps -/

theorem nonempty?_eq_some_iff {s : Option String} {t : String} :
    nonempty? s = some t ↔ s = some t ∧ t ≠ "" := by
  simp [nonempty?, Option.filter_eq_some_iff]

theorem address?_eq_some_iff : a.address? = some (host, port) ↔ a.Addressed host port := by
  have parts : a.address? = some (host, port) ↔
      nonempty? a.host = some host ∧ nonempty? a.port = some port := by
    simp [address?, Option.bind_eq_some_iff]
  rw [parts, nonempty?_eq_some_iff, nonempty?_eq_some_iff]
  exact ⟨fun ⟨⟨hh, nh⟩, hp, np⟩ => ⟨hh, hp, nh, np⟩, fun ⟨hh, hp, nh, np⟩ => ⟨⟨hh, nh⟩, hp, np⟩⟩

theorem address?_eq_none_iff : a.address? = none ↔ ∀ host port, ¬ a.Addressed host port := by
  rw [Option.eq_none_iff_forall_ne_some, Prod.forall]
  exact forall₂_congr fun host port => not_congr address?_eq_some_iff

/-- There is a token in a file in which there is something besides blanks. -/
theorem readToken_ok {path : String} (read : files.read path = .ok text)
    (filled : ∃ c ∈ text.toList, isBlank c = false) (d : Desk) :
    readToken files path d = (.ok (trimmed text), d) := by
  have left : (trimmed text).isEmpty = false := by
    rw [← Bool.not_eq_true, String.isEmpty_iff]
    exact (trims_trimmed text).ne_empty_iff.mpr filled
  unfold readToken
  rw [read]
  simp only [left]
  rfl

/-! ### The whole way -/

/-- An account that leads to a connection gives it, and nothing else happens. -/
theorem connect_of_leads {c : Connection} (h : a.Leads files c) (d : Desk) :
    a.connect files d = (.ok c, d) := by
  obtain ⟨addressed, read, filled, trims⟩ := h
  rw [trims.eq_trimmed, connect, Work.bind_apply, locate, address?_eq_some_iff.mpr addressed]
  simp only [Work.bind_apply, readToken_ok read filled]
  rfl

/-- Of what stands in the way there is a report of one fresh occurrence, and no notice. -/
theorem connect_of_meets {o : Obstacle} (h : a.Meets files o) (d : Desk) :
    a.connect files d =
      (.error (.reported (o.report a (d.supply d.issued))), { d with issued := d.issued + 1 }) := by
  cases h with
  | noAddress h =>
    rw [connect, Work.bind_apply, locate, address?_eq_none_iff.mpr h]
    rfl
  | unread addressed he =>
    rw [connect, Work.bind_apply, locate, address?_eq_some_iff.mpr addressed]
    simp only [Work.bind_apply, readToken, he]
    rfl
  | blankToken addressed read blank =>
    have nothing : trimmed _ = "" := Text.trimmed_eq_nil_iff.mpr blank
    rw [connect, Work.bind_apply, locate, address?_eq_some_iff.mpr addressed]
    simp only [Work.bind_apply, readToken, read, nothing]
    rfl

/-- An account leads to a connection, or something stands in the way. -/
theorem leads_or_meets (a : ServiceAccount) (files : Files) :
    (∃ c, a.Leads files c) ∨ ∃ o, a.Meets files o := by
  cases ha : a.address? with
  | none => exact Or.inr ⟨_, .noAddress (address?_eq_none_iff.mp ha)⟩
  | some address =>
    have addressed := address?_eq_some_iff.mp ha
    cases read : files.read a.tokenPath with
    | error e => exact Or.inr ⟨_, .unread addressed read⟩
    | ok text =>
      by_cases filled : ∃ c ∈ text.toList, isBlank c = false
      · exact Or.inl ⟨_, .intro addressed read filled (trims_trimmed text)⟩
      · exact Or.inr ⟨_, .blankToken addressed read (by simpa using filled)⟩

/-- No more than one thing stands in the way: it is met only at the first step that fails. -/
theorem Meets.unique {o o' : Obstacle} (h : a.Meets files o) (h' : a.Meets files o') : o = o' := by
  cases h with
  | noAddress h => cases h' <;> grind
  | unread addressed he => cases h' <;> grind
  | blankToken addressed read blank => cases h' <;> grind

/-! ### Categories -/

variable {o : Obstacle}

theorem Meets.category_eq_internal_iff (h : a.Meets files o) :
    o.category = .internal ↔ a.Meets files .noAddress ∨ ∃ e, a.Meets files (.unread e) := by
  constructor
  · intro hc
    cases o with
    | noAddress => exact Or.inl h
    | unread e => exact Or.inr ⟨e, h⟩
    | blankToken => cases hc
  · rintro (h' | ⟨e, h'⟩) <;> rw [h.unique h'] <;> rfl

theorem Meets.category_eq_illegalParam_iff (h : a.Meets files o) :
    o.category = .illegalParam ↔ a.Meets files .blankToken := by
  constructor
  · intro hc
    cases o with
    | blankToken => exact h
    | _ => cases hc
  · intro h'
    rw [h.unique h']
    rfl

/-- The token that an account leads to is what is left of the text of its file: it is not empty,
and it neither begins nor ends with a blank. -/
theorem Leads.exists_token {c : Connection} (h : a.Leads files c) :
    ∃ text token, files.read a.tokenPath = .ok text ∧ c.token = some token ∧ Trims text token ∧
      token ≠ "" := by
  obtain ⟨-, read, filled, trims⟩ := h
  exact ⟨_, _, read, rfl, trims, trims.ne_empty_iff.mpr filled⟩

end ServiceAccount

/-- **Each attempt ends in one outcome.**  Whatever the files are, a connection is given exactly
if the account leads to it, and its token is the text of the token file without the blanks at its
ends, of which something is left.  A failure is given exactly if something stands in the way.  Then
there is no second obstacle, and the failure is the report on it: it was opened for this attempt,
and passed through the step where the way ends and through the attempt as a whole.  It is an
internal one if the environment does not name the server or the token file cannot be read, for
whatever reason; a token file with nothing but blanks does not fit what was asked for. -/
theorem account_ends_in_one_outcome (a : ServiceAccount) (files : Files) (d : Desk) :
    (∀ c, (a.connect files d).1 = .ok c ↔ a.Leads files c) ∧
      (∀ c, a.Leads files c → ∃ text token, files.read a.tokenPath = .ok text ∧
        c.token = some token ∧ Trims text token ∧ token ≠ "") ∧
      (∀ f, (a.connect files d).1 = .error f ↔
        ∃ o, a.Meets files o ∧ (∀ o', a.Meets files o' → o' = o) ∧
          f = .reported (o.report a (d.supply d.issued))) ∧
      ∀ o, a.Meets files o →
        (o.category = .internal ↔
          a.Meets files .noAddress ∨ ∃ e, a.Meets files (.unread e)) ∧
        (o.category = .illegalParam ↔ a.Meets files .blankToken) := by
  have ways := a.leads_or_meets files
  have leads (c : Connection) (h : a.Leads files c) : (a.connect files d).1 = .ok c := by
    rw [ServiceAccount.connect_of_leads h]
  have meets (o : ServiceAccount.Obstacle) (h : a.Meets files o) :
      (a.connect files d).1 = .error (.reported (o.report a (d.supply d.issued))) := by
    rw [ServiceAccount.connect_of_meets h]
  refine ⟨Outcome.eq_ok_iff_of_ways ways leads meets, fun c h => h.exists_token,
    Outcome.eq_error_iff_of_ways ways leads meets fun o o' h h' => h.unique h', fun o h => ?_⟩
  exact ⟨h.category_eq_internal_iff, h.category_eq_illegalParam_iff⟩

end Faultline.Cluster
