import Faultline.Proofs.Cluster.KubeconfigFile
import Faultline.Proofs.Cluster.ServiceAccount

/-!
# What a connection depends on

A connection comes from the environment and the files, but little of either is looked at.  Of the
environment these are the variables up to the first one that decides, of the files the one at the
path that was selected.  Two environments, or two file systems, that agree there cannot be told
apart by what comes out.

## Main definitions

* `Mode.connect` — the connection that a mode gives.
* `Environment.Agree` — two environments have the same values of some variables.
* `Mode.reads` — the variables that a mode looks at.
* `Files.replace` — something else at a path.

## Main results

* `Source.ofMode_congr` — of the environment only the variables that a mode looks at count.
* `KubeconfigFile.connect_congr` — of the files only what is read at the path counts.
* `Mode.connect_replace` — another file than the selected one may be replaced.
* `KubeconfigFile.connect_names_path` — the connection and the failure name the path.
* `ServiceAccount.address?_eq_none_iff_connect` — whether the host and the port are there can be
  told by the outcome.
* `connect_sees_only_what_decides` — **nothing else in the environment or among the files makes
  a difference**.
-/

namespace Faultline

/-- Something else at a path: what is read there, and whether there is anything. -/
def Files.replace (files : Files) (path : String) (content : Except Host.Error String)
    (there : Bool) : Files where
  read p := if p = path then content else files.read p
  holds p := if p = path then there else files.holds p

namespace Cluster

open Environment (kubeconfigVariable homeVariable)

variable {mode : Mode} {env env' : Environment} {files files' : Files}

/-! ### The environment -/

/-- Two environments have the same values of some variables. -/
def Environment.Agree (names : List String) (env env' : Environment) : Prop :=
  ∀ name ∈ names, env.get? name = env'.get? name

/-- The variables that a mode looks at: none for a path that was chosen, and no later one than the
first that is set. -/
def Mode.reads (env : Environment) : Mode → List String
  | .serviceAccount => [hostVariable, portVariable]
  | .kubeconfig (some _) => []
  | .kubeconfig none =>
    if (env.get? kubeconfigVariable).isSome then [kubeconfigVariable]
    else [kubeconfigVariable, homeVariable]

/-- Where the variables that a mode looks at are the same, it gives the same source. -/
theorem Source.ofMode_congr (agree : Environment.Agree (mode.reads env) env env') :
    ofMode mode env = ofMode mode env' := by
  match mode with
  | .serviceAccount =>
    have host := agree hostVariable (by simp [Mode.reads])
    have port := agree portVariable (by simp [Mode.reads])
    rw [ofMode, ofMode, Environment.serviceAccount, Environment.serviceAccount, host, port]
  | .kubeconfig (some path) => rfl
  | .kubeconfig none =>
    have named := agree kubeconfigVariable (by grind [Mode.reads])
    cases set : env.get? kubeconfigVariable with
    | some path =>
      rw [set] at named
      simp only [ofMode, Environment.kubeconfigPath, set, ← named]
    | none =>
      have home := agree homeVariable (by simp [Mode.reads, set])
      rw [set] at named
      simp only [ofMode, Environment.kubeconfigPath, set, ← named, home]

/-- The connection that a mode gives in an environment. -/
def Mode.connect (mode : Mode) (env : Environment) (files : Files) :
    Work (Outcome Connection) := do
  let source ← mode.source env
  source.connect files

/-- A notice tells the mode, and then the source is asked. -/
theorem Mode.connect_apply (mode : Mode) (env : Environment) (files : Files) (d : Desk) :
    mode.connect env files d = (Source.ofMode mode env).connect files
      { d with notices := d.notices ++ [.selecting mode.describe] } := rfl

/-- What comes out depends on the environment through the source alone. -/
theorem Mode.connect_congr (same : Source.ofMode mode env = Source.ofMode mode env') :
    mode.connect env files = mode.connect env' files := by
  funext d
  rw [connect_apply, connect_apply, same]

/-- Where the variables that decide are the same, the same path is selected and the same comes
out. -/
theorem Mode.kubeconfig_congr {chosen : Option String}
    (agree : Environment.Agree ((Mode.kubeconfig chosen).reads env) env env') :
    env.kubeconfigPath chosen = env'.kubeconfigPath chosen ∧
      (Mode.kubeconfig chosen).connect env files = (Mode.kubeconfig chosen).connect env' files := by
  have same := Source.ofMode_congr agree
  exact ⟨KubeconfigFile.mk.inj (Source.kubeconfig.inj same), connect_congr same⟩

/-! ### Kubeconfig files -/

namespace KubeconfigFile

variable {k : KubeconfigFile}

/-- Of the files only what is read at the path counts. -/
theorem connect_congr (same : ∀ path, k.path = some path → files.read path = files'.read path) :
    k.connect files = k.connect files' := by
  have located : k.locate files = k.locate files' := by
    cases known : k.path with
    | none => simp only [locate, known]
    | some path =>
      have read : readFile files path = readFile files' path := by
        rw [readFile, readFile, same path known]
      simp only [locate, known, locateAt, read]
  rw [connect, connect, located]

theorem Leads.kubeconfig_eq {c : Connection} (h : k.Leads files c) : c.kubeconfig = k.path := by
  obtain ⟨⟨known, -⟩, -, -⟩ := h
  exact known.symm

theorem Meets.path_note {o : Obstacle} (h : k.Meets files o) :
    (Table.ofList o.notes).get? "path" = k.path := by
  cases h with
  | noPath known => exact known.symm
  | unread known _ => exact known.symm
  | undecoded known _ _ => exact known.symm
  | unselected holds _ =>
    rename_i path doc e _
    rw [holds.1]
    cases e <;> rfl
  | noAddress holds _ _ => exact holds.1.symm

/-- The connection names the path of the file, and so does the report on a failure. -/
theorem connect_names_path (k : KubeconfigFile) (files : Files) (d : Desk) :
    (∃ c, (k.connect files d).1 = .ok c ∧ c.kubeconfig = k.path) ∨
      ∃ r, (k.connect files d).1 = .error (.reported r) ∧ r.notes.get? "path" = k.path := by
  rcases k.leads_or_meets files with ⟨c, leads⟩ | ⟨o, meets⟩
  · rw [connect_of_leads leads]
    exact .inl ⟨c, rfl, leads.kubeconfig_eq⟩
  · rw [connect_of_meets meets]
    exact .inr ⟨_, rfl, meets.path_note⟩

end KubeconfigFile

/-- Of the files only what is read at the selected path counts. -/
theorem Mode.connect_of_read {chosen : Option String}
    (same : ∀ path, env.kubeconfigPath chosen = some path → files.read path = files'.read path) :
    (Mode.kubeconfig chosen).connect env files = (Mode.kubeconfig chosen).connect env files' := by
  funext d
  rw [connect_apply, connect_apply]
  exact congrFun (KubeconfigFile.connect_congr same) _

/-- Another file than the selected one may be replaced. -/
theorem Mode.connect_replace {chosen : Option String} {path : String}
    (other : env.kubeconfigPath chosen ≠ some path) (content : Except Host.Error String)
    (there : Bool) :
    (Mode.kubeconfig chosen).connect env (files.replace path content there) =
      (Mode.kubeconfig chosen).connect env files := by
  refine connect_of_read fun selected known => ?_
  have apart : selected ≠ path := fun h => other (h ▸ known)
  exact if_neg apart

/-! ### Service accounts -/

namespace ServiceAccount

/-- Whether the host and the port are there can be told by the outcome, whatever the files are:
if not, the failure comes from the step that looks for them. -/
theorem address?_eq_none_iff_connect (a : ServiceAccount) (files : Files) (d : Desk) :
    a.address? = none ↔ ∃ r, (a.connect files d).1 = .error (.reported r) ∧
      r.operations = ["incluster.rest_config.env", "incluster.client"] := by
  constructor
  · intro missing
    rw [connect_of_meets (.noAddress (address?_eq_none_iff.mp missing))]
    exact ⟨_, rfl, rfl⟩
  · rintro ⟨r, failed, operations⟩
    rcases a.leads_or_meets files with ⟨c, leads⟩ | ⟨o, meets⟩
    · rw [connect_of_leads leads] at failed
      cases failed
    · rw [connect_of_meets meets] at failed
      cases failed
      -- The other obstacles are met at the next step.
      cases meets with
      | noAddress missing => exact address?_eq_none_iff.mpr missing
      | _ => simp [Obstacle.report, Obstacle.stage] at operations

/-- Without a host and a port no file makes a difference. -/
theorem connect_of_address?_eq_none {a : ServiceAccount} (h : a.address? = none) :
    a.connect files = a.connect files' := by
  have missing := address?_eq_none_iff.mp h
  funext d
  rw [connect_of_meets (.noAddress missing), connect_of_meets (.noAddress missing)]

end ServiceAccount

/-! ### Either -/

/-- **Nothing makes a difference but what decides.**  In whatever two environments, a path that was
chosen gives the same connection or the same failure; without one, the variable that names a
kubeconfig file alone decides if it is set, and only the user's directory if it is not.  Of the
files only what is read at the selected path counts, and every connection and every failure names
that path.  Whether a pod has its host and its port depends on the two variables for them alone,
and can be told by the outcome, in which no file makes a difference if one of them is missing. -/
theorem connect_sees_only_what_decides (env env' : Environment) (files files' : Files) :
    (∀ path, env.kubeconfigPath (some path) = env'.kubeconfigPath (some path) ∧
      (Mode.kubeconfig (some path)).connect env files =
        (Mode.kubeconfig (some path)).connect env' files) ∧
    (env.get? kubeconfigVariable ≠ none →
      env.get? kubeconfigVariable = env'.get? kubeconfigVariable →
      env.kubeconfigPath none = env'.kubeconfigPath none ∧
        (Mode.kubeconfig none).connect env files = (Mode.kubeconfig none).connect env' files) ∧
    (env.get? kubeconfigVariable = none → env'.get? kubeconfigVariable = none →
      env.get? homeVariable = env'.get? homeVariable →
      env.kubeconfigPath none = env'.kubeconfigPath none ∧
        (Mode.kubeconfig none).connect env files = (Mode.kubeconfig none).connect env' files) ∧
    (∀ chosen, (∀ path, env.kubeconfigPath chosen = some path →
        files.read path = files'.read path) →
      (Mode.kubeconfig chosen).connect env files = (Mode.kubeconfig chosen).connect env files') ∧
    (∀ chosen path content there, env.kubeconfigPath chosen ≠ some path →
      (Mode.kubeconfig chosen).connect env (files.replace path content there) =
        (Mode.kubeconfig chosen).connect env files) ∧
    (∀ chosen d,
      (∃ c, ((Mode.kubeconfig chosen).connect env files d).1 = .ok c ∧
        c.kubeconfig = env.kubeconfigPath chosen) ∨
      ∃ r, ((Mode.kubeconfig chosen).connect env files d).1 = .error (.reported r) ∧
        r.notes.get? "path" = env.kubeconfigPath chosen) ∧
    (env.get? hostVariable = env'.get? hostVariable →
      env.get? portVariable = env'.get? portVariable →
      env.serviceAccount.address? = env'.serviceAccount.address? ∧
        Mode.serviceAccount.connect env files = Mode.serviceAccount.connect env' files) ∧
    (∀ d, env.serviceAccount.address? = none ↔
      ∃ r, (Mode.serviceAccount.connect env files d).1 = .error (.reported r) ∧
        r.operations = ["incluster.rest_config.env", "incluster.client"]) ∧
    (env.serviceAccount.address? = none →
      Mode.serviceAccount.connect env files = Mode.serviceAccount.connect env files') := by
  refine ⟨fun path => ?_, fun set named => ?_, fun unset unset' home => ?_,
    fun _ => Mode.connect_of_read, fun _ _ content there other => ?_, fun chosen d => ?_,
    fun host port => ?_, fun d => ?_, fun missing => ?_⟩
  · -- No variable is looked at.
    exact Mode.kubeconfig_congr (List.forall_mem_nil _)
  · apply Mode.kubeconfig_congr
    rw [Mode.reads, if_pos (Option.isSome_iff_ne_none.mpr set)]
    exact List.forall_mem_singleton.mpr named
  · apply Mode.kubeconfig_congr
    have named : env.get? kubeconfigVariable = env'.get? kubeconfigVariable :=
      unset.trans unset'.symm
    rw [Mode.reads, if_neg (by simp [unset])]
    exact List.forall_mem_cons.mpr ⟨named, List.forall_mem_singleton.mpr home⟩
  · exact Mode.connect_replace other content there
  · exact KubeconfigFile.connect_names_path ⟨env.kubeconfigPath chosen⟩ files _
  · have agree : Environment.Agree (Mode.serviceAccount.reads env) env env' :=
      List.forall_mem_cons.mpr ⟨host, List.forall_mem_singleton.mpr port⟩
    have same : Source.ofMode .serviceAccount env = Source.ofMode .serviceAccount env' :=
      Source.ofMode_congr agree
    exact ⟨congrArg ServiceAccount.address? (Source.serviceAccount.inj same),
      Mode.connect_congr same⟩
  · exact ServiceAccount.address?_eq_none_iff_connect env.serviceAccount files _
  · funext d
    exact congrFun (ServiceAccount.connect_of_address?_eq_none missing) _

/-- Two processes with other homes use the file that both environments name, beside which one may
come or go; two whose environments name none use the one in their home, though the host of a
service is announced to one of them, and without its port no file is of use to a pod. -/
theorem connect_sees_only_what_decides_homes :
    let environment : List (String × String) → Environment := fun entries =>
      ⟨fun name => entries.lookup name⟩
    let named := environment [("KUBECONFIG", "/etc/k"), ("HOME", "/home/a")]
    let named' := environment [("KUBECONFIG", "/etc/k"), ("HOME", "/home/b")]
    let bare := environment [("HOME", "/home/a")]
    let bare' := environment [("HOME", "/home/a"), ("KUBERNETES_SERVICE_HOST", "10.0.0.1")]
    let files : Files := ⟨fun _ => .error .missing, fun _ => false⟩
    let files' := files.replace "/home/a/.kube/config" (.ok "clusters: []") true
    let mode := Mode.kubeconfig none
    mode.connect named files = mode.connect named' files ∧
      mode.connect named files' = mode.connect named files ∧
      mode.connect named files = mode.connect named files' ∧
      mode.connect bare files = mode.connect bare' files ∧
      Mode.serviceAccount.connect named files = Mode.serviceAccount.connect bare files ∧
      Mode.serviceAccount.connect bare' files = Mode.serviceAccount.connect bare' files' := by
  intro environment named named' bare bare' files files' mode
  obtain ⟨-, set, -, read, replaced, -, -, -, -⟩ :=
    connect_sees_only_what_decides named named' files files'
  obtain ⟨-, -, unset, -⟩ := connect_sees_only_what_decides bare bare' files files'
  obtain ⟨-, -, -, -, -, -, pod, -⟩ := connect_sees_only_what_decides named bare files files'
  obtain ⟨-, -, -, -, -, -, -, -, unaddressed⟩ :=
    connect_sees_only_what_decides bare' bare files files'
  have selected : named.kubeconfigPath none = some "/etc/k" := by decide
  have elsewhere : named.kubeconfigPath none ≠ some "/home/a/.kube/config" := by decide
  refine ⟨(set (by decide) (by decide)).2, replaced none _ _ _ elsewhere, read none ?_,
    (unset (by decide) (by decide) (by decide)).2, (pod (by decide) (by decide)).2,
    unaddressed (by decide)⟩
  intro path known
  rw [selected] at known
  cases known
  decide

end Cluster

end Faultline
