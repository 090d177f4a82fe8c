import SlimA2a.Interference
import SlimA2a.SlimHelper

/-! # Concurrent connections

`connect_and_subscribe` awaits the service twice, so calls of it on one service overlap.
`connectSteps` is the call with its steps: connect, create the app, subscribe.

The service only grows while such calls run, and only by what one of them asked for (`Grows`).  A
call that has returned holds its connection, its app with the credential of its own options, and its
subscription, however the calls overlap (`connectsSafely`). -/

namespace SlimA2a

/-- A call of `connect_and_subscribe`. -/
structure ConnectCall where
  localName : Name
  options : ConnectOptions
deriving DecidableEq

section growth
variable [InsecureClientConfigs]

/-- What a call that returned `app` and `connId` holds. -/
def ConnectCall.Holds (c : ConnectCall) (returned : App × ℕ) (st : ServiceState) : Prop :=
  ∃ config credential, c.options.Selects config credential ∧
    (returned.2, config) ∈ st.connections ∧ (returned.1, c.localName, credential) ∈ st.apps ∧
    (returned.1, c.localName, returned.2) ∈ st.subscriptions

/-- Every subscription is of an app that was created, over a connection that is open. -/
def ServiceState.WellFormed (st : ServiceState) : Prop :=
  ∀ app name connId, (app, name, connId) ∈ st.subscriptions →
    (∃ config, (connId, config) ∈ st.connections) ∧ ∃ credential, (app, name, credential) ∈ st.apps

/-- Nothing is taken away, and everything that is new was asked for by one of the calls. -/
structure ServiceState.Grows (Asked : ConnectCall → Prop) (st st' : ServiceState) : Prop where
  connections : st.connections ⊆ st'.connections
  apps : st.apps ⊆ st'.apps
  subscriptions : st.subscriptions ⊆ st'.subscriptions
  connection_asked : ∀ connId config, (connId, config) ∈ st'.connections →
    (connId, config) ∈ st.connections ∨
      ∃ c, Asked c ∧ ∃ credential, c.options.Selects config credential
  app_asked : ∀ app name credential, (app, name, credential) ∈ st'.apps →
    (app, name, credential) ∈ st.apps ∨
      ∃ c, Asked c ∧ c.localName = name ∧ ∃ config, c.options.Selects config credential
  subscription_asked : ∀ app name connId, (app, name, connId) ∈ st'.subscriptions →
    (app, name, connId) ∈ st.subscriptions ∨
      ∃ c, Asked c ∧ c.localName = name ∧ c.Holds (app, connId) st'

namespace ServiceState
variable {Asked : ConnectCall → Prop} {st st' st'' : ServiceState} {c : ConnectCall}
  {config : SlimClientConfig} {credential : Credential}

theorem Grows.refl (st : ServiceState) : Grows Asked st st :=
  ⟨fun _ h => h, fun _ h => h, fun _ h => h, fun _ _ => Or.inl, fun _ _ _ => Or.inl,
    fun _ _ _ => Or.inl⟩

/-- What a call holds is not taken away. -/
theorem Grows.holds (h : Grows Asked st st') {returned : App × ℕ} (hholds : c.Holds returned st) :
    c.Holds returned st' := by
  obtain ⟨config, credential, ho, hconnection, happ, hsubscription⟩ := hholds
  exact ⟨config, credential, ho, h.connections hconnection, h.apps happ,
    h.subscriptions hsubscription⟩

theorem Grows.trans (h : Grows Asked st st') (h' : Grows Asked st' st'') :
    Grows Asked st st'' := by
  constructor
  · exact fun _ hp => h'.connections (h.connections hp)
  · exact fun _ hp => h'.apps (h.apps hp)
  · exact fun _ hp => h'.subscriptions (h.subscriptions hp)
  · intro connId config hp
    exact (h'.connection_asked connId config hp).elim (h.connection_asked connId config) Or.inr
  · intro app name credential hp
    exact (h'.app_asked app name credential hp).elim (h.app_asked app name credential) Or.inr
  · intro app name connId hp
    rcases h'.subscription_asked app name connId hp with hp | hasked
    · refine (h.subscription_asked app name connId hp).imp_right ?_
      rintro ⟨c, hc, hname, hholds⟩
      exact ⟨c, hc, hname, h'.holds hholds⟩
    · exact Or.inr hasked

theorem grows_connect (hc : Asked c) (ho : c.options.Selects config credential) (connId : ℕ) :
    Grows Asked st (st.connect connId config) := by
  refine ⟨Finset.subset_insert _ _, fun _ h => h, fun _ h => h, ?_, fun _ _ _ => Or.inl,
    fun _ _ _ => Or.inl⟩
  intro connId' config' h
  rcases Finset.mem_insert.mp h with h | h
  · cases h
    exact Or.inr ⟨c, hc, credential, ho⟩
  · exact Or.inl h

theorem grows_createApp (hc : Asked c) (ho : c.options.Selects config credential) (app : App) :
    Grows Asked st (st.createApp app c.localName credential) := by
  refine ⟨fun _ h => h, Finset.subset_insert _ _, fun _ h => h, fun _ _ => Or.inl, ?_,
    fun _ _ _ => Or.inl⟩
  intro app' name' credential' h
  rcases Finset.mem_insert.mp h with h | h
  · cases h
    exact Or.inr ⟨c, hc, rfl, config, ho⟩
  · exact Or.inl h

/-- A subscription over a connection and of an app that the call has made. -/
theorem holds_subscribe (ho : c.options.Selects config credential) {app : App} {connId : ℕ}
    (hconnection : (connId, config) ∈ st.connections)
    (happ : (app, c.localName, credential) ∈ st.apps) :
    c.Holds (app, connId) (st.subscribe app c.localName connId) :=
  ⟨config, credential, ho, hconnection, happ, Finset.mem_insert_self _ _⟩

theorem grows_subscribe (hc : Asked c) {app : App} {connId : ℕ}
    (hholds : c.Holds (app, connId) (st.subscribe app c.localName connId)) :
    Grows Asked st (st.subscribe app c.localName connId) := by
  refine ⟨fun _ h => h, fun _ h => h, Finset.subset_insert _ _, fun _ _ => Or.inl,
    fun _ _ _ => Or.inl, ?_⟩
  intro app' name' connId' h
  rcases Finset.mem_insert.mp h with h | h
  · cases h
    exact Or.inr ⟨c, hc, rfl, hholds⟩
  · exact Or.inl h

theorem Grows.wellFormed (h : Grows Asked st st') (hst : st.WellFormed) : st'.WellFormed := by
  intro app name connId hp
  rcases h.subscription_asked app name connId hp with hp | ⟨c, -, hname, hholds⟩
  · obtain ⟨⟨config, hconnection⟩, credential, happ⟩ := hst app name connId hp
    exact ⟨⟨config, h.connections hconnection⟩, credential, h.apps happ⟩
  · obtain ⟨config, credential, -, hconnection, happ, -⟩ := hholds
    rw [hname] at happ
    exact ⟨⟨config, hconnection⟩, credential, happ⟩

end ServiceState
end growth

/-! ### The steps of a call -/

section steps
variable [InsecureClientConfigs] {σ : Type}

/-- `connect_and_subscribe` in its steps.  It yields what the call returns. -/
def connectSteps (service : Service σ) (localName : Name) (o : ConnectOptions) :
    AsyncGen σ PyException (App × ℕ) :=
  match (resolveConnectOptions o : Except PyException (SlimClientConfig × AppFactory σ)) with
  | .error e => .raise e
  | .ok (resolvedConfig, createApp) =>
      AsyncGen.awaitThen (service.connectAsync resolvedConfig) fun connId =>
        AsyncGen.awaitThen (createApp service localName) fun localApp =>
          AsyncGen.awaitThen (service.subscribeAsync localApp localName connId) fun _ =>
            .yield (localApp, connId) .stop

/-- Without interference the steps are the call. -/
theorem run_connectSteps (service : Service σ) (localName : Name) (o : ConnectOptions) (s : σ) :
    (connectSteps service localName o).run s =
      match (connectAndSubscribe service localName o).run s with
      | (.ok returned, s') => ⟨[returned], .ok (), s'⟩
      | (.error e, s') => ⟨[], .error e, s'⟩ := by
  unfold connectSteps connectAndSubscribe
  cases (resolveConnectOptions o : Except PyException (SlimClientConfig × AppFactory σ)) with
  | error e => rfl
  | ok resolved =>
      obtain ⟨config, createApp⟩ := resolved
      rw [Co.run_bind_ok (Co.run_ofExcept _ s)]
      dsimp only
      rcases hconnect : (service.connectAsync config).run s with ⟨e | connId, s₁⟩
      · rw [AsyncGen.run_awaitThen_error hconnect, Co.run_bind_error hconnect]
      rw [AsyncGen.run_awaitThen_ok hconnect, Co.run_bind_ok hconnect]
      rcases hcreate : (createApp service localName).run s₁ with ⟨e | app, s₂⟩
      · rw [AsyncGen.run_awaitThen_error hcreate, Co.run_bind_error hcreate]
      rw [AsyncGen.run_awaitThen_ok hcreate, Co.run_bind_ok hcreate]
      rcases hsubscribe : (service.subscribeAsync app localName connId).run s₂ with ⟨e | u, s₃⟩
      · rw [AsyncGen.run_awaitThen_error hsubscribe, Co.run_bind_error hsubscribe]
      · rw [AsyncGen.run_awaitThen_ok hsubscribe, Co.run_bind_ok hsubscribe]
        rfl

/-- A call asks for what its options select, and holds it when it returns. -/
theorem safe_connectSteps (service : SlimService σ) {Asked : ConnectCall → Prop} {c : ConnectCall}
    (hc : Asked c) (s : σ) :
    (connectSteps service.toService c.localName c.options).Safe
      (fun s s' => (service.view s).Grows Asked (service.view s'))
      (fun returned s => c.Holds returned (service.view s)) s := by
  unfold connectSteps
  by_cases hrejected : c.options.Rejected
  · obtain ⟨e, -, he⟩ := resolveConnectOptions_rejected hrejected
    rw [he]
    trivial
  obtain ⟨config, credential, ho, hselect⟩ := resolveConnectOptions_selects hrejected
  rw [hselect]
  refine AsyncGen.safe_awaitThen fun s₁ _ => ?_
  rcases hconnect : (service.connectAsync config).run s₁ with ⟨e | connId, s₂⟩
  · cases service.connect_error hconnect
    exact ⟨.refl _, fun _ h => nomatch h⟩
  have hview := service.connect_ok hconnect
  refine ⟨hview ▸ ServiceState.grows_connect hc ho connId, ?_⟩
  rintro _ ⟨⟩
  have hconnection : (connId, config) ∈ (service.view s₂).connections := by
    rw [hview]
    exact Finset.mem_insert_self _ _
  refine AsyncGen.safe_awaitThen fun s₃ h₃ => ?_
  rcases hcreate : (credential.createApp service.toService c.localName).run s₃ with ⟨e | app, s₄⟩
  · cases eq_of_createApp_error service hcreate
    exact ⟨.refl _, fun _ h => nomatch h⟩
  have hview₄ := view_createApp service hcreate
  have hgrows₄ : (service.view s₃).Grows Asked (service.view s₄) :=
    hview₄ ▸ ServiceState.grows_createApp hc ho app
  refine ⟨hgrows₄, ?_⟩
  rintro _ ⟨⟩
  have happ : (app, c.localName, credential) ∈ (service.view s₄).apps := by
    rw [hview₄]
    exact Finset.mem_insert_self _ _
  refine AsyncGen.safe_awaitThen fun s₅ h₅ => ?_
  rcases hsubscribe : (service.subscribeAsync app c.localName connId).run s₅ with ⟨e | u, s₆⟩
  · cases service.subscribe_error hsubscribe
    exact ⟨.refl _, fun _ h => nomatch h⟩
  have hview₆ := service.subscribe_ok hsubscribe
  -- the connection and the app are still there, whatever the others did
  have hholds := ServiceState.holds_subscribe ho
    (h₅.connections (hgrows₄.connections (h₃.connections hconnection))) (h₅.apps happ)
  have hgrows₆ := ServiceState.grows_subscribe hc hholds
  rw [← hview₆] at hholds hgrows₆
  refine ⟨hgrows₆, ?_⟩
  rintro _ ⟨⟩
  exact fun s₇ h₇ => ⟨h₇.holds hholds, trivial⟩

end steps

/-! ### Any number of calls -/

section concurrent
variable [InsecureClientConfigs] {ι σ : Type} [DecidableEq ι] (service : SlimService σ)
  (calls : ι → ConnectCall)

/-- The calls before their first step. -/
def SlimService.connecting (s : σ) : Pool ι σ PyException (App × ℕ) where
  gens i := connectSteps service.toService (calls i).localName (calls i).options
  world := s
  trace := []

/-- What holds after some steps of the calls. -/
structure ConnectsSafely (s : σ) (p : Pool ι σ PyException (App × ℕ)) : Prop where
  grows : (service.view s).Grows (fun c => ∃ i, calls i = c) (service.view p.world)
  wellFormed : (service.view s).WellFormed → (service.view p.world).WellFormed
  /-- A call that has returned holds what it asked for. -/
  holds : ∀ i returned, (i, returned) ∈ p.trace →
    (calls i).Holds returned (service.view p.world)
  /-- A call with rejected options does nothing. -/
  refused : ∀ i, (calls i).options.Rejected →
    (∃ e, (calls i).options.Refuses e ∧ p.gens i = .raise e) ∧ itemsOf i p.trace = []

/-- **Calls of `connect_and_subscribe` that overlap do not disturb each other.** -/
theorem connectsSafely (s : σ) (schedule : List ι) :
    ConnectsSafely service calls s ((service.connecting calls s).run schedule) := by
  have hstart : Pool.Kept
      (fun s s' => (service.view s).Grows (fun c => ∃ i, calls i = c) (service.view s'))
      (fun i returned s => (calls i).Holds returned (service.view s)) s
      (service.connecting calls s) :=
    ⟨.refl _, fun i => safe_connectSteps service ⟨i, rfl⟩ s, fun _ _ h => nomatch h⟩
  have hkept := Pool.kept_run (fun _ => .refl _) (fun _ _ _ h h' => h.trans h')
    (fun i returned s s' hholds hgrows => hgrows.holds hholds) hstart schedule
  refine ⟨hkept.world, hkept.world.wellFormed, hkept.items, fun i hrejected => ?_⟩
  obtain ⟨e, hrefuses, he⟩ := resolveConnectOptions_rejected hrejected
  have hgen : (service.connecting calls s).gens i = .raise e := by
    unfold SlimService.connecting connectSteps
    dsimp only
    rw [he]
  have hends : ((service.connecting calls s).gens i).EndsWith (.error e) := hgen.symm ▸ .raise e
  obtain ⟨hgens, hitems⟩ := Pool.ended_run hends schedule
  exact ⟨⟨e, hrefuses, hgens.trans hgen⟩, hitems⟩

end concurrent

/-! ### Two agents and two failed attempts -/

section concrete

local instance : InsecureClientConfigs := standardClientConfigs

/-- The options with an identity, for the node at `slimUrl` or at the default URL. -/
def demoOptions (slimUrl : Option String) : ConnectOptions :=
  ⟨slimUrl, none, none, some (.slimIdentity ⟨⟨[]⟩, ⟨[]⟩⟩)⟩

/-- An agent, its client over another node, an attempt to set the agent up without a credential,
and one over a connection that is open already. -/
def demoCalls : Fin 4 → ConnectCall
  | 0 => ⟨⟨"agntcy", "demo", "counter"⟩, demoOptions none⟩
  | 1 => ⟨⟨"agntcy", "demo", "client"⟩, demoOptions (some "http://localhost:46358")⟩
  | 2 => ⟨⟨"agntcy", "demo", "counter"⟩, ⟨none, none, none, none⟩⟩
  | 3 => ⟨⟨"agntcy", "demo", "counter"⟩, demoOptions none⟩

def demoService : Pool (Fin 4) ServiceState PyException (App × ℕ) :=
  (inMemoryService.connecting demoCalls ⟨∅, ∅, ∅⟩).run [2, 0, 1, 3, 0, 1, 0, 1, 0, 1]

theorem mem_trace_agent : (0, (⟨0⟩, 0)) ∈ demoService.trace := List.mem_cons_self

/-- The agent and its client overlap, and hold what they asked for. -/
theorem connectsSafely_overlapping :
    demoService.world.WellFormed ∧ (demoCalls 0).Holds (⟨0⟩, 0) demoService.world ∧
      (demoCalls 1).Holds (⟨1⟩, 1) demoService.world ∧
      ∃ e, (demoCalls 2).options.Refuses e ∧ demoService.gens 2 = .raise e :=
  have hsafe := connectsSafely inMemoryService demoCalls ⟨∅, ∅, ∅⟩ [2, 0, 1, 3, 0, 1, 0, 1, 0, 1]
  ⟨hsafe.wellFormed fun _ _ _ h => absurd h (Finset.notMem_empty _),
    hsafe.holds 0 (⟨0⟩, 0) mem_trace_agent,
    hsafe.holds 1 (⟨1⟩, 1) (List.mem_cons_of_mem _ List.mem_cons_self),
    (hsafe.refused 2 (Or.inr (Or.inr ⟨rfl, Or.inl rfl⟩))).1⟩

end concrete
end SlimA2a
