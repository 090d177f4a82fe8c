import Mathlib.Data.Finset.Card
import SlimA2a.SlimBindings

/-! # Connecting to a SLIM node

`connectAndSubscribe` and `setupSlimClient` (`slim_helper.py`): resolve the options, connect, create
the app, subscribe.

The service is third-party code.  `Service σ` lists its operations over a world `σ`; a `SlimService`
also has a view of its open connections, its apps and its subscriptions, and the laws that say how
each operation changes them.  An operation that fails changes nothing.

`connectAndSubscribe` undoes nothing.  When it raises, the operations before the failing one stay in
effect: `LeftBehind` lists the four places where it can raise and what remains at each of them, and
`connectAndSubscribe_outcome` is the statement that there are no others. -/

namespace SlimA2a

/-! ### Options -/

/-- `slim_bindings.ClientConfig` -/
structure SlimClientConfig where
  endpoint : String
  insecure : Bool
  unread : Bytes
deriving DecidableEq

/-- `slim_bindings.new_insecure_client_config`: a plaintext configuration for a URL. -/
class InsecureClientConfigs where
  newInsecureClientConfig : String → SlimClientConfig
  endpoint_eq : ∀ endpoint, (newInsecureClientConfig endpoint).endpoint = endpoint
  insecure_eq : ∀ endpoint, (newInsecureClientConfig endpoint).insecure = true

export InsecureClientConfigs (newInsecureClientConfig)

/-- `slim_bindings.IdentityProviderConfig` -/
structure IdentityProviderConfig where
  unread : Bytes
deriving DecidableEq

/-- `slim_bindings.IdentityVerifierConfig` -/
structure IdentityVerifierConfig where
  unread : Bytes
deriving DecidableEq

/-- A SLIM app identity, passed to `Service.create_app`. -/
structure SlimIdentity where
  provider : IdentityProviderConfig
  verifier : IdentityVerifierConfig
deriving DecidableEq

/-- What a caller can pass as `identity`. -/
inductive IdentityArg where
  | slimIdentity (identity : SlimIdentity)
  | other
deriving DecidableEq

/-- The optional parameters of `connect_and_subscribe`. -/
structure ConnectOptions where
  slimUrl : Option String
  clientConfig : Option SlimClientConfig
  secret : Option String
  identity : Option IdentityArg
deriving DecidableEq

def defaultSlimUrl : String := "http://localhost:46357"

inductive LogLevel where
  | trace
  | debug
  | info
  | warn
  | error
deriving DecidableEq

/-! ### The service -/

/-- The operations of `slim_bindings.Service`, with `subscribe_async` of its apps. -/
structure Service (σ : Type) where
  connectAsync : SlimClientConfig → Co σ PyException ℕ
  createApp : Name → IdentityProviderConfig → IdentityVerifierConfig → Co σ PyException App
  createAppWithSecret : Name → String → Co σ PyException App
  subscribeAsync : App → Name → ℕ → Co σ PyException Unit

/-- The global functions of `slim_bindings` that set the service up. -/
structure Bindings (σ : Type) where
  uniffiSetEventLoop : Co σ PyException Unit
  initializeWithConfigs : LogLevel → Co σ PyException Unit
  getGlobalService : Co σ PyException (Service σ)

/-- The credential that an app is created with. -/
inductive Credential where
  | secret (secret : String)
  | identity (identity : SlimIdentity)
deriving DecidableEq

/-- What a service holds. -/
structure ServiceState where
  connections : Finset (ℕ × SlimClientConfig)
  apps : Finset (App × Name × Credential)
  subscriptions : Finset (App × Name × ℕ)
deriving DecidableEq

namespace ServiceState
variable (st : ServiceState)

def connect (connId : ℕ) (config : SlimClientConfig) : ServiceState :=
  { st with connections := insert (connId, config) st.connections }

def createApp (app : App) (name : Name) (credential : Credential) : ServiceState :=
  { st with apps := insert (app, name, credential) st.apps }

def subscribe (app : App) (name : Name) (connId : ℕ) : ServiceState :=
  { st with subscriptions := insert (app, name, connId) st.subscriptions }

end ServiceState

/-- A service, the view of what it holds, and the laws of its operations. -/
structure SlimService (σ : Type) extends Service σ where
  view : σ → ServiceState
  connect_ok : ∀ {config s connId s'}, (connectAsync config).run s = (.ok connId, s') →
    view s' = (view s).connect connId config
  connect_error : ∀ {config s e s'}, (connectAsync config).run s = (.error e, s') → s' = s
  createApp_ok : ∀ {name provider verifier s app s'},
    (createApp name provider verifier).run s = (.ok app, s') →
      view s' = (view s).createApp app name (.identity ⟨provider, verifier⟩)
  createApp_error : ∀ {name provider verifier s e s'},
    (createApp name provider verifier).run s = (.error e, s') → s' = s
  createAppWithSecret_ok : ∀ {name secret s app s'},
    (createAppWithSecret name secret).run s = (.ok app, s') →
      view s' = (view s).createApp app name (.secret secret)
  createAppWithSecret_error : ∀ {name secret s e s'},
    (createAppWithSecret name secret).run s = (.error e, s') → s' = s
  subscribe_ok : ∀ {app name connId s s'},
    (subscribeAsync app name connId).run s = (.ok (), s') →
      view s' = (view s).subscribe app name connId
  subscribe_error : ∀ {app name connId s e s'},
    (subscribeAsync app name connId).run s = (.error e, s') → s' = s

/-- An operation on the bindings or on a service. -/
inductive ServiceOp where
  | setEventLoop
  | initializeWithConfigs (logLevel : LogLevel)
  | getGlobalService
  | connect (config : SlimClientConfig)
  | createApp (name : Name) (provider : IdentityProviderConfig) (verifier : IdentityVerifierConfig)
  | createAppWithSecret (name : Name) (secret : String)
  | subscribe (app : App) (name : Name) (connId : ℕ)
deriving DecidableEq

section
variable {σ : Type}

/-- The same service beside a log of the operations performed on it. -/
def Service.logged (service : Service σ) : Service (σ × List ServiceOp) where
  connectAsync config := (service.connectAsync config).logged (.connect config)
  createApp name provider verifier :=
    (service.createApp name provider verifier).logged (.createApp name provider verifier)
  createAppWithSecret name secret :=
    (service.createAppWithSecret name secret).logged (.createAppWithSecret name secret)
  subscribeAsync app name connId :=
    (service.subscribeAsync app name connId).logged (.subscribe app name connId)

/-- The same bindings beside a log of the operations performed on them and on their service. -/
def Bindings.logged (bindings : Bindings σ) : Bindings (σ × List ServiceOp) where
  uniffiSetEventLoop := bindings.uniffiSetEventLoop.logged .setEventLoop
  initializeWithConfigs logLevel :=
    (bindings.initializeWithConfigs logLevel).logged (.initializeWithConfigs logLevel)
  getGlobalService := do
    let service ← bindings.getGlobalService.logged .getGlobalService
    return service.logged

/-! ### The helpers -/

/-- `_AppFactory` -/
abbrev AppFactory (σ : Type) : Type := Service σ → Name → Co σ PyException App

/-- The app factory of a credential. -/
def Credential.createApp : Credential → AppFactory σ
  | .secret value => fun service name => service.createAppWithSecret name value
  | .identity value => fun service name => service.createApp name value.provider value.verifier

def urlConflict : PyException := .exception .valueError
  ("pass either `slim_url` or `client_config`, not both " ++
    "(`client_config.endpoint` sets the node URL).")

def credentialConflict : PyException :=
  .exception .valueError "pass either `secret` or `identity`, not both."

def identityType : PyException :=
  .exception .typeError "`identity` must be a SlimIdentity(provider=..., verifier=...)."

def credentialRequired : PyException := .exception .valueError
  ("a SLIM credential is required: pass `secret` (shared secret, " ++
    ">= 32 chars) or `identity` (SlimIdentity(provider, verifier)). " ++
    "There is no default secret.")

/-- The selected way to create the app: `if identity is not None`, `elif secret`, `else`. -/
def selectCreateApp (secret : Option String) (identity : Option IdentityArg) :
    Except PyException (AppFactory σ) :=
  match identity with
  | some (.slimIdentity identity) => .ok (Credential.identity identity).createApp
  | some .other => .error identityType
  | none =>
      match secret with
      | some secret =>
          if secret = "" then .error credentialRequired
          else .ok (Credential.secret secret).createApp
      | none => .error credentialRequired

variable [InsecureClientConfigs]

/-- Validate the connection/identity options. -/
def resolveConnectOptions (o : ConnectOptions) :
    Except PyException (SlimClientConfig × AppFactory σ) :=
  if o.slimUrl ≠ none ∧ o.clientConfig ≠ none then .error urlConflict
  else if o.secret ≠ none ∧ o.identity ≠ none then .error credentialConflict
  else do
    let createApp ← selectCreateApp o.secret o.identity
    let clientConfig :=
      match o.clientConfig with
      | some clientConfig => clientConfig
      | none => newInsecureClientConfig (o.slimUrl.getD defaultSlimUrl)
    return (clientConfig, createApp)

/-- Initialize SLIM service with default configuration. -/
def initializeSlimService (bindings : Bindings σ) (logLevel : LogLevel) :
    Co σ PyException (Service σ) := do
  bindings.uniffiSetEventLoop
  bindings.initializeWithConfigs logLevel
  bindings.getGlobalService

/-- Connect to a SLIM node and subscribe to a local name. -/
def connectAndSubscribe (service : Service σ) (localName : Name) (o : ConnectOptions) :
    Co σ PyException (App × ℕ) := do
  let (resolvedConfig, createApp) ← Co.ofExcept (resolveConnectOptions o)
  let connId ← service.connectAsync resolvedConfig
  let localApp ← createApp service localName
  service.subscribeAsync localApp localName connId
  return (localApp, connId)

/-- Complete SLIM client setup in one call. -/
def setupSlimClient (bindings : Bindings σ) (ns group name : String) (logLevel : LogLevel)
    (o : ConnectOptions) : Co σ PyException (Service σ × App × Name × ℕ) := do
  let _ ← Co.ofExcept (resolveConnectOptions o : Except PyException (_ × AppFactory σ))
  let service ← initializeSlimService bindings logLevel
  let localName : Name := ⟨ns, group, name⟩
  let (localApp, connId) ← connectAndSubscribe service localName o
  return (service, localApp, localName, connId)

/-! ### What the options select -/

/-- Two options are given that exclude each other. -/
def ConnectOptions.Conflict (o : ConnectOptions) : Prop :=
  (o.slimUrl ≠ none ∧ o.clientConfig ≠ none) ∨ (o.secret ≠ none ∧ o.identity ≠ none)

instance (o : ConnectOptions) : Decidable o.Conflict :=
  inferInstanceAs (Decidable ((o.slimUrl ≠ none ∧ o.clientConfig ≠ none) ∨
    (o.secret ≠ none ∧ o.identity ≠ none)))

/-- The options conflict, or name no credential. -/
def ConnectOptions.Rejected (o : ConnectOptions) : Prop :=
  o.Conflict ∨ o.identity = some .other ∨
    (o.identity = none ∧ (o.secret = none ∨ o.secret = some ""))

/-- The class of the exception that rejected options raise: `TypeError` for an identity that is no
`SlimIdentity`, if the options do not conflict, and `ValueError` for all others. -/
def ConnectOptions.refusal (o : ConnectOptions) : ExcType :=
  if ¬ o.Conflict ∧ o.identity = some .other then .typeError else .valueError

/-- `e` is an exception of the class that the options are refused with. -/
def ConnectOptions.Refuses (o : ConnectOptions) (e : PyException) : Prop :=
  ∃ message, e = .exception o.refusal message

/-- The connection and the credential that the options ask for. -/
structure ConnectOptions.Selects (o : ConnectOptions) (config : SlimClientConfig)
    (credential : Credential) : Prop where
  config_eq : (o.clientConfig = some config ∧ o.slimUrl = none) ∨
    (o.clientConfig = none ∧ config = newInsecureClientConfig (o.slimUrl.getD defaultSlimUrl))
  /-- Without a configuration the connection is a plaintext one, to the URL or the default URL. -/
  plaintext : o.clientConfig = none →
    config.insecure = true ∧ config.endpoint = o.slimUrl.getD defaultSlimUrl
  credential_eq :
    match credential with
    | .secret secret => o.secret = some secret ∧ secret ≠ "" ∧ o.identity = none
    | .identity identity => o.identity = some (.slimIdentity identity) ∧ o.secret = none

omit [InsecureClientConfigs] in
theorem ConnectOptions.refusal_of_conflict {o : ConnectOptions} (h : o.Conflict) :
    o.refusal = .valueError :=
  if_neg fun hnot => hnot.1 h

omit [InsecureClientConfigs] in
/-- Without a credential of the right type no app factory is selected. -/
theorem selectCreateApp_error {o : ConnectOptions} (hconflict : ¬ o.Conflict)
    (h : o.identity = some .other ∨ (o.identity = none ∧ (o.secret = none ∨ o.secret = some ""))) :
    ∃ e, o.Refuses e ∧ ∀ {τ : Type},
      (selectCreateApp o.secret o.identity : Except PyException (AppFactory τ)) = .error e := by
  unfold ConnectOptions.Refuses
  rcases h with hother | ⟨hnone, hsecret⟩
  · rw [ConnectOptions.refusal, if_pos ⟨hconflict, hother⟩, hother]
    exact ⟨identityType, ⟨_, rfl⟩, rfl⟩
  · have hne : ¬ (¬ o.Conflict ∧ o.identity = some .other) := by
      rintro ⟨-, hother⟩
      rw [hnone] at hother
      cases hother
    rw [ConnectOptions.refusal, if_neg hne, hnone]
    refine ⟨credentialRequired, ⟨_, rfl⟩, ?_⟩
    rcases hsecret with hsecret | hsecret <;> rw [hsecret] <;> intro τ <;> rfl

/-- Rejected options raise, with the class of their case. -/
theorem resolveConnectOptions_rejected {o : ConnectOptions} (ho : o.Rejected) :
    ∃ e, o.Refuses e ∧ ∀ {τ : Type},
      (resolveConnectOptions o : Except PyException (_ × AppFactory τ)) = .error e := by
  by_cases hurl : o.slimUrl ≠ none ∧ o.clientConfig ≠ none
  · refine ⟨urlConflict, ?_, ?_⟩
    · rw [ConnectOptions.Refuses, ConnectOptions.refusal_of_conflict (Or.inl hurl)]
      exact ⟨_, rfl⟩
    · intro τ
      rw [resolveConnectOptions, if_pos hurl]
  by_cases hcredential : o.secret ≠ none ∧ o.identity ≠ none
  · refine ⟨credentialConflict, ?_, ?_⟩
    · rw [ConnectOptions.Refuses, ConnectOptions.refusal_of_conflict (Or.inr hcredential)]
      exact ⟨_, rfl⟩
    · intro τ
      rw [resolveConnectOptions, if_neg hurl, if_pos hcredential]
  · have hconflict : ¬ o.Conflict := fun h => h.elim hurl hcredential
    obtain ⟨e, hrefuses, he⟩ := selectCreateApp_error hconflict (ho.resolve_left hconflict)
    refine ⟨e, hrefuses, ?_⟩
    intro τ
    rw [resolveConnectOptions, if_neg hurl, if_neg hcredential, he]
    rfl

omit [InsecureClientConfigs] in
/-- With one credential an app factory is selected. -/
theorem selectCreateApp_ok {secret : Option String} {identity : Option IdentityArg}
    (hboth : ¬ (secret ≠ none ∧ identity ≠ none)) (hother : identity ≠ some .other)
    (hnone : ¬ (identity = none ∧ (secret = none ∨ secret = some ""))) :
    ∃ credential : Credential,
      (match credential with
        | .secret value => secret = some value ∧ value ≠ "" ∧ identity = none
        | .identity value => identity = some (.slimIdentity value) ∧ secret = none) ∧
      ∀ {τ : Type}, (selectCreateApp secret identity : Except PyException (AppFactory τ)) =
        .ok credential.createApp := by
  rcases identity with _ | (identity | _)
  · rcases secret with _ | secret
    · exact absurd ⟨rfl, Or.inl rfl⟩ hnone
    · have hne : secret ≠ "" := fun h => hnone ⟨rfl, Or.inr (by rw [h])⟩
      refine ⟨.secret secret, ⟨rfl, hne, rfl⟩, ?_⟩
      intro τ
      rw [selectCreateApp, if_neg hne]
  · rcases secret with _ | secret
    · exact ⟨.identity identity, ⟨rfl, rfl⟩, rfl⟩
    · exact absurd ⟨Option.some_ne_none _, Option.some_ne_none _⟩ hboth
  · exact absurd rfl hother

/-- All other options select a connection and a credential. -/
theorem resolveConnectOptions_selects {o : ConnectOptions} (ho : ¬ o.Rejected) :
    ∃ config credential, o.Selects config credential ∧ ∀ {τ : Type},
      (resolveConnectOptions o : Except PyException (_ × AppFactory τ)) =
        .ok (config, credential.createApp) := by
  unfold ConnectOptions.Rejected ConnectOptions.Conflict at ho
  rw [not_or, not_or, not_or] at ho
  obtain ⟨⟨hurl, hboth⟩, hother, hnone⟩ := ho
  obtain ⟨credential, hcredential, hselect⟩ := selectCreateApp_ok hboth hother hnone
  cases hconfig : o.clientConfig with
  | some config =>
      have hslim : o.slimUrl = none := by
        by_contra h
        exact hurl ⟨h, by rw [hconfig]; exact Option.some_ne_none _⟩
      have hplaintext (h : o.clientConfig = none) : config.insecure = true ∧
          config.endpoint = o.slimUrl.getD defaultSlimUrl := by
        rw [hconfig] at h
        cases h
      refine ⟨config, credential, ⟨Or.inl ⟨hconfig, hslim⟩, hplaintext, hcredential⟩, ?_⟩
      intro τ
      rw [resolveConnectOptions, if_neg hurl, if_neg hboth, hselect, hconfig]
      rfl
  | none =>
      refine ⟨_, credential, ⟨Or.inr ⟨hconfig, rfl⟩, fun _ => ⟨InsecureClientConfigs.insecure_eq _,
        InsecureClientConfigs.endpoint_eq _⟩, hcredential⟩, ?_⟩
      intro τ
      rw [resolveConnectOptions, if_neg hurl, if_neg hboth, hselect, hconfig]
      rfl

/-! ### What a call leaves -/

section outcome
variable (service : SlimService σ)

omit [InsecureClientConfigs] in
theorem view_createApp {credential : Credential} {name : Name} {s s' : σ} {app : App}
    (h : (credential.createApp service.toService name).run s = (.ok app, s')) :
    service.view s' = (service.view s).createApp app name credential := by
  cases credential with
  | secret value => exact service.createAppWithSecret_ok h
  | identity value => exact service.createApp_ok h

omit [InsecureClientConfigs] in
theorem eq_of_createApp_error {credential : Credential} {name : Name} {s s' : σ} {e : PyException}
    (h : (credential.createApp service.toService name).run s = (.error e, s')) : s' = s := by
  cases credential with
  | secret value => exact service.createAppWithSecret_error h
  | identity value => exact service.createApp_error h

/-- Where `connectAndSubscribe` raised `e`, and the world it left. -/
inductive LeftBehind (localName : Name) (o : ConnectOptions) (s : σ) : PyException → σ → Prop
  /-- The options are refused: nothing has changed. -/
  | rejected {e : PyException} (ho : o.Rejected) (he : o.Refuses e) : LeftBehind localName o s e s
  /-- Connecting failed: nothing has changed. -/
  | connect {config : SlimClientConfig} {credential : Credential} {e : PyException}
      (ho : o.Selects config credential)
      (hconnect : (service.connectAsync config).run s = (.error e, s)) :
      LeftBehind localName o s e s
  /-- Creating the app failed: the connection stays open. -/
  | createApp {config : SlimClientConfig} {credential : Credential} {e : PyException} {connId : ℕ}
      {s₁ : σ} (ho : o.Selects config credential)
      (hconnect : (service.connectAsync config).run s = (.ok connId, s₁))
      (hcreate : (credential.createApp service.toService localName).run s₁ = (.error e, s₁))
      (hview : service.view s₁ = (service.view s).connect connId config) :
      LeftBehind localName o s e s₁
  /-- Subscribing failed: the connection stays open and the app stays created. -/
  | subscribe {config : SlimClientConfig} {credential : Credential} {e : PyException} {connId : ℕ}
      {app : App} {s₁ s₂ : σ} (ho : o.Selects config credential)
      (hconnect : (service.connectAsync config).run s = (.ok connId, s₁))
      (hcreate : (credential.createApp service.toService localName).run s₁ = (.ok app, s₂))
      (hsubscribe : (service.subscribeAsync app localName connId).run s₂ = (.error e, s₂))
      (hview : service.view s₂ =
        ((service.view s).connect connId config).createApp app localName credential) :
      LeftBehind localName o s e s₂

/-- What `connectAndSubscribe` did, from the world `s`. -/
structure ConnectOutcome (localName : Name) (o : ConnectOptions) (s : σ) : Prop where
  returned : ∀ app connId s',
    (connectAndSubscribe service.toService localName o).run s = (.ok (app, connId), s') →
      ∃ config credential, o.Selects config credential ∧
        service.view s' = (((service.view s).connect connId config).createApp app localName
          credential).subscribe app localName connId
  raised : ∀ e s',
    (connectAndSubscribe service.toService localName o).run s = (.error e, s') →
      LeftBehind service localName o s e s'
  /-- Rejected options raise before any operation, on the service or on the bindings. -/
  rejected : o.Rejected → ∃ e, o.Refuses e ∧
    (connectAndSubscribe service.toService.logged localName o).run (s, []) = (.error e, s, []) ∧
    ∀ (bindings : Bindings σ) ns group name logLevel,
      (setupSlimClient bindings.logged ns group name logLevel o).run (s, []) = (.error e, s, [])

theorem run_connectAndSubscribe_rejected {τ : Type} {o : ConnectOptions} {e : PyException}
    (he : (resolveConnectOptions o : Except PyException (_ × AppFactory τ)) = .error e)
    (service : Service τ) (localName : Name) (s : τ) :
    (connectAndSubscribe service localName o).run s = (.error e, s) := by
  rw [connectAndSubscribe, he]
  rfl

theorem run_connectAndSubscribe_selected {o : ConnectOptions} {config : SlimClientConfig}
    {credential : Credential}
    (hselect : (resolveConnectOptions o : Except PyException (_ × AppFactory σ)) =
      .ok (config, credential.createApp)) (localName : Name) (s : σ) :
    (connectAndSubscribe service.toService localName o).run s =
      (do
        let connId ← service.connectAsync config
        let app ← credential.createApp service.toService localName
        service.subscribeAsync app localName connId
        return (app, connId) : Co σ PyException (App × ℕ)).run s := by
  rw [connectAndSubscribe, hselect]
  rfl

/-- With selected options the call returns with all three operations in effect, or raises where one
of them failed. -/
theorem run_selected (localName : Name) {o : ConnectOptions} (s : σ) {config : SlimClientConfig}
    {credential : Credential} (ho : o.Selects config credential)
    (hselect : (resolveConnectOptions o : Except PyException (_ × AppFactory σ)) =
      .ok (config, credential.createApp)) :
    (∃ e s', (connectAndSubscribe service.toService localName o).run s = (.error e, s') ∧
      LeftBehind service localName o s e s') ∨
    ∃ app connId s',
      (connectAndSubscribe service.toService localName o).run s = (.ok (app, connId), s') ∧
      service.view s' = (((service.view s).connect connId config).createApp app localName
        credential).subscribe app localName connId := by
  rw [run_connectAndSubscribe_selected service hselect]
  rcases hconnect : (service.connectAsync config).run s with ⟨e | connId, s₁⟩
  · obtain rfl := service.connect_error hconnect
    exact Or.inl ⟨e, s₁, Co.run_bind_error hconnect _, .connect ho hconnect⟩
  rw [Co.run_bind_ok hconnect]
  have hview₁ := service.connect_ok hconnect
  rcases hcreate : (credential.createApp service.toService localName).run s₁ with ⟨e | app, s₂⟩
  · obtain rfl := eq_of_createApp_error service hcreate
    exact Or.inl ⟨e, s₂, Co.run_bind_error hcreate _, .createApp ho hconnect hcreate hview₁⟩
  rw [Co.run_bind_ok hcreate]
  have hview₂ := view_createApp service hcreate
  rw [hview₁] at hview₂
  rcases hsubscribe : (service.subscribeAsync app localName connId).run s₂ with ⟨e | _, s₃⟩
  · obtain rfl := service.subscribe_error hsubscribe
    exact Or.inl ⟨e, s₃, Co.run_bind_error hsubscribe _,
      .subscribe ho hconnect hcreate hsubscribe hview₂⟩
  · have hview₃ := service.subscribe_ok hsubscribe
    rw [hview₂] at hview₃
    exact Or.inr ⟨app, connId, s₃, Co.run_bind_ok hsubscribe _, hview₃⟩

/-- **The steps before the failing one stay in effect, and nothing else does.** -/
theorem connectAndSubscribe_outcome (localName : Name) (o : ConnectOptions) (s : σ) :
    ConnectOutcome service localName o s := by
  by_cases ho : o.Rejected
  · obtain ⟨e, hrefuses, he⟩ := resolveConnectOptions_rejected ho
    have hrun : (connectAndSubscribe service.toService localName o).run s = (.error e, s) :=
      run_connectAndSubscribe_rejected he service.toService localName s
    constructor
    · intro app connId s' h
      rw [hrun] at h
      cases h
    · intro e' s' h
      rw [hrun] at h
      cases h
      exact .rejected ho hrefuses
    · intro _
      refine ⟨e, hrefuses, run_connectAndSubscribe_rejected he _ localName (s, []), ?_⟩
      intro bindings ns group name logLevel
      rw [setupSlimClient, he]
      rfl
  · obtain ⟨config, credential, hselects, hresolve⟩ := resolveConnectOptions_selects ho
    have hrun := run_selected service localName s hselects hresolve
    constructor
    · intro app connId s' h
      rcases hrun with ⟨e, s'', hraised, _⟩ | ⟨app', connId', s'', hreturned, hview⟩
      · rw [hraised] at h
        cases h
      · rw [hreturned] at h
        cases h
        exact ⟨config, credential, hselects, hview⟩
    · intro e s' h
      rcases hrun with ⟨e', s'', hraised, hleft⟩ | ⟨app, connId, s'', hreturned, _⟩
      · rw [hraised] at h
        cases h
        exact hleft
      · rw [hreturned] at h
        cases h
    · exact fun hrejected => absurd hrejected ho

/-- Every call that raises leaves what the service holds as it was. -/
def AllOrNothing (localName : Name) (o : ConnectOptions) (s : σ) : Prop :=
  ∀ e s', (connectAndSubscribe service.toService localName o).run s = (.error e, s') →
    service.view s' = service.view s

end outcome
end

/-- The configurations of `slim_bindings`, as far as concrete runs need them. -/
@[reducible] def standardClientConfigs : InsecureClientConfigs where
  newInsecureClientConfig endpoint := ⟨endpoint, true, []⟩
  endpoint_eq _ := rfl
  insecure_eq _ := rfl

/-- The endpoint has a connection. -/
def ServiceState.Connected (st : ServiceState) (endpoint : String) : Prop :=
  ∃ c ∈ st.connections, c.2.endpoint = endpoint

instance (st : ServiceState) (endpoint : String) : Decidable (st.Connected endpoint) :=
  inferInstanceAs (Decidable (∃ c ∈ st.connections, c.2.endpoint = endpoint))

/-- A service in memory.  It refuses a second connection to an endpoint, and a shared secret of
fewer than 32 characters. -/
def inMemoryService : SlimService ServiceState where
  connectAsync config := fun st =>
    if st.Connected config.endpoint then
      (.error (.exception (.other "SlimError") "client already connected"), st)
    else (.ok st.connections.card, st.connect st.connections.card config)
  createApp name provider verifier := fun st =>
    (.ok ⟨st.apps.card⟩, st.createApp ⟨st.apps.card⟩ name (.identity ⟨provider, verifier⟩))
  createAppWithSecret name secret := fun st =>
    if secret.length < 32 then (.error (.exception (.other "SlimError") "invalid secret"), st)
    else (.ok ⟨st.apps.card⟩, st.createApp ⟨st.apps.card⟩ name (.secret secret))
  subscribeAsync app name connId := fun st => (.ok (), st.subscribe app name connId)
  view st := st
  connect_ok h := by
    dsimp only [Co.run] at h
    split at h <;> cases h
    rfl
  connect_error h := by
    dsimp only [Co.run] at h
    split at h <;> cases h
    rfl
  createApp_ok h := by cases h; rfl
  createApp_error h := by cases h
  createAppWithSecret_ok h := by
    unfold Co.run at h
    split at h <;> cases h
    rfl
  createAppWithSecret_error h := by
    unfold Co.run at h
    split at h <;> cases h
    rfl
  subscribe_ok h := by cases h; rfl
  subscribe_error h := by cases h

/-- A short secret: the app is refused after the connection was opened, and the connection stays. -/
theorem not_allOrNothing_short_secret :
    ¬ @AllOrNothing ServiceState standardClientConfigs inMemoryService ⟨"agntcy", "demo", "agent"⟩
      ⟨none, none, some "short", none⟩ ⟨∅, ∅, ∅⟩ := by
  intro h
  have hview := h (.exception (.other "SlimError") "invalid secret")
    ((⟨∅, ∅, ∅⟩ : ServiceState).connect 0 ⟨defaultSlimUrl, true, []⟩) rfl
  have hconnections := congrArg ServiceState.connections hview
  exact absurd hconnections (Finset.insert_ne_empty _ _)

end SlimA2a
