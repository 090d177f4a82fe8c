import SlimA2a.Concrete
import SlimA2a.GroupChannel
import SlimA2a.Metadata

/-! # Interceptors

`MultiAgentClientFactory.create` takes the interceptors of the application together with one card or
several.  For one card it hands them to the SDK, whose client applies them.  For several cards it
calls a producer, which it does not hand them to, and returns what the producer makes.

`Client.trace` is what a client does in the course of a call: the interceptors it runs and the
requests it sends.  A client `Intercepts` when every request it sends, through any method, has
passed through every interceptor before. -/

namespace SlimA2a

/-- A step of a client on the way of a request. -/
inductive ClientEvent where
  | intercept (interceptor : Interceptor)
  | send (call : RpcCall)
deriving DecidableEq

/-- Every request that is sent has passed through every interceptor before. -/
def Intercepted (interceptors : List Interceptor) (trace : List ClientEvent) : Prop :=
  ∀ before call after, trace = before ++ .send call :: after →
    ∀ interceptor ∈ interceptors, .intercept interceptor ∈ before

theorem intercepted_nil (trace : List ClientEvent) : Intercepted [] trace :=
  fun _ _ _ _ _ h => absurd h List.not_mem_nil

/-- A request that is sent with nothing before it has passed through no interceptor. -/
theorem intercepted_send_iff {interceptors : List Interceptor} {call : RpcCall} :
    Intercepted interceptors [.send call] ↔ interceptors = [] := by
  constructor
  · intro h
    rw [List.eq_nil_iff_forall_not_mem]
    intro interceptor hmem
    exact absurd (h [] call [] rfl interceptor hmem) List.not_mem_nil
  · rintro rfl
    exact intercepted_nil _

/-- How the SDK's client carries out a call, over a transport and with interceptors. -/
abbrev SdkClient : Type :=
  Product → Option (List Interceptor) → Call → Option ClientCallContext → List ClientEvent

/-- How what an application's own producers make carries out a call. -/
abbrev ApplicationClient : Type := ℕ → Call → Option ClientCallContext → List ClientEvent

section
variable [A2aSdk] [CompatSdk]
  [Proto SendMessageRequest] [Proto SendMessageResponse] [Proto StreamResponse]
  [Proto GetTaskRequest] [Proto Task] [Proto ListTasksRequest] [Proto ListTasksResponse]
  [Proto CancelTaskRequest] [Proto SubscribeToTaskRequest] [Proto TaskPushNotificationConfig]
  [Proto GetTaskPushNotificationConfigRequest] [Proto ListTaskPushNotificationConfigsRequest]
  [Proto ListTaskPushNotificationConfigsResponse] [Proto GetExtendedAgentCardRequest]
  [Proto AgentCard] [Proto DeleteTaskPushNotificationConfigRequest] [Proto Empty]
  [Proto V03.SendMessageRequest] [Proto V03.SendMessageResponse] [Proto V03.StreamResponse]
  [Proto V03.GetTaskRequest] [Proto V03.Task] [Proto V03.CancelTaskRequest]
  [Proto V03.TaskSubscriptionRequest] [Proto V03.CreateTaskPushNotificationConfigRequest]
  [Proto V03.TaskPushNotificationConfig] [Proto V03.GetTaskPushNotificationConfigRequest]
  [Proto V03.ListTaskPushNotificationConfigRequest]
  [Proto V03.ListTaskPushNotificationConfigResponse] [Proto V03.GetAgentCardRequest]
  [Proto V03.AgentCard] [Proto V03.DeleteTaskPushNotificationConfigRequest]

/-! ### What a client does -/

section calls
variable {σ : Type} (net : Network σ) (context : Option ClientCallContext) (s : σ)

/-- What a client does in a call.  The card of a v0.3 transport plays no part in its calls. -/
def Client.trace (sdkClient : SdkClient) (application : ApplicationClient) (client : Client)
    (call : Call) : List ClientEvent :=
  match client with
  | .client transport interceptors => sdkClient transport interceptors call context
  | .produced (.srpcTransport t) => (t.calls net context s call).map .send
  | .produced (.compatTransport channel _) =>
      (Compat.SRPCCompatTransport.calls net context s ⟨none, channel⟩ call).map .send
  | .produced (.multicastClient client) => (client.calls net context s call).map .send
  | .produced (.other id) => application id call context

end calls

/-- Every request of the client passes through every interceptor, on every network, through every
method, and whatever the application's own producers make. -/
def Client.Intercepts (sdkClient : SdkClient) (client : Client) (interceptors : List Interceptor) :
    Prop :=
  ∀ (application : ApplicationClient) (σ : Type) (net : Network σ)
    (context : Option ClientCallContext) (s : σ) (call : Call),
    Intercepted interceptors (client.trace net context s sdkClient application call)

variable {sdkClient : SdkClient}

/-! ### What a producer makes -/

/-- The multicast client sends one request in every method, with nothing before it. -/
theorem trace_multicastClient {σ : Type} (net : Network σ) (context : Option ClientCallContext)
    (s : σ) (application : ApplicationClient) (client : MulticastClient) (call : Call) :
    ∃ c, (Client.produced (.multicastClient client)).trace net context s sdkClient application
      call = [.send c] := by
  obtain ⟨c, hc, -⟩ := client.transport.callsOnce_calls net context s call
  refine ⟨c, ?_⟩
  simp only [Client.trace, MulticastClient.calls_eq, hc, List.map_cons, List.map_nil]

/-- Whatever a producer makes can send a request with nothing before it. -/
theorem exists_trace_send (sdkClient : SdkClient) (product : Product) :
    ∃ application call c, (Client.produced product).trace unavailable none () sdkClient application
      call = [.send c] := by
  cases product with
  | srpcTransport t =>
      have hremote : ¬ t.AnswersLocally (.sendMessage ⟨"", []⟩) := id
      obtain ⟨c, hc, -⟩ := t.calls_of_remote unavailable none () hremote
      refine ⟨fun _ _ _ => [], .sendMessage ⟨"", []⟩, c, ?_⟩
      simp only [Client.trace, hc, List.map_cons, List.map_nil]
  | compatTransport channel card =>
      have hremote : ¬ Compat.SRPCCompatTransport.FailsBeforeCall (.getTask ⟨"", "", none⟩) := id
      obtain ⟨c, hc, -⟩ :=
        Compat.SRPCCompatTransport.calls_of_remote unavailable none () ⟨none, channel⟩ hremote
      refine ⟨fun _ _ _ => [], .getTask ⟨"", "", none⟩, c, ?_⟩
      simp only [Client.trace, hc, List.map_cons, List.map_nil]
  | multicastClient client =>
      obtain ⟨c, hc⟩ := trace_multicastClient unavailable none () (fun _ _ _ => []) client
        (.sendMessage ⟨"", []⟩)
      exact ⟨_, _, c, hc⟩
  | other id => exact ⟨fun _ _ _ => [.send ⟨"", "", [], none, none⟩], .sendMessage ⟨"", []⟩, _, rfl⟩

/-- What a producer makes runs no interceptors. -/
theorem intercepts_produced_iff {product : Product} {interceptors : List Interceptor} :
    (Client.produced product).Intercepts sdkClient interceptors ↔ interceptors = [] := by
  constructor
  · intro h
    obtain ⟨application, call, c, htrace⟩ := exists_trace_send sdkClient product
    have hintercepted := h application Unit unavailable none () call
    rw [htrace] at hintercepted
    exact intercepted_send_iff.mp hintercepted
  · rintro rfl application σ net context s call
    exact intercepted_nil _

/-! ### The factory -/

variable [A2aClientSdk]

/-- The SDK's factory applies the interceptors for one card. -/
def AppliesInterceptors (sdkClient : SdkClient) : Prop :=
  ∀ config registry card interceptors channels client channels',
    (A2aClientSdk.create config registry card interceptors).run channels =
      (.ok client, channels') → client.Intercepts sdkClient (interceptors.getD [])

namespace MultiAgentClientFactory

/-- **The interceptors apply to one card only.** -/
theorem intercepts_iff (happlies : AppliesInterceptors sdkClient)
    (factory : MultiAgentClientFactory) {cards : List AgentCard} (hcards : cards ≠ [])
    {interceptors : Option (List Interceptor)} {channels channels' : List Channel}
    {client : Client}
    (hcreate : (factory.create (.many cards) interceptors).run channels =
      (.ok client, channels')) :
    client.Intercepts sdkClient (interceptors.getD []) ↔
      cards.length = 1 ∨ interceptors.getD [] = [] := by
  match cards, hcards with
  | [card], _ => exact iff_of_true (happlies _ _ card _ _ _ _ hcreate) (Or.inl rfl)
  | card :: card' :: cards, _ =>
      have hlength : 2 ≤ (card :: card' :: cards).length := by simp
      obtain ⟨product, rfl⟩ := factory.exists_product_of_create_many hlength hcreate
      rw [intercepts_produced_iff, or_iff_right]
      omega

end MultiAgentClientFactory
end

/-- An SDK client that runs every interceptor and then sends its request. -/
def interceptingClient : SdkClient := fun _ interceptors _ _ =>
  (interceptors.getD []).map .intercept ++ [.send ⟨a2aService, "", [], none, none⟩]

theorem eq_map_intercept_of_append_send {call call' : RpcCall} {after : List ClientEvent} :
    ∀ (interceptors : List Interceptor) {before : List ClientEvent},
      interceptors.map ClientEvent.intercept ++ [.send call] = before ++ .send call' :: after →
        before = interceptors.map .intercept
  | [], [], _ => rfl
  | [], _ :: _, h => by simp at h
  | _ :: _, [], h => by cases h
  | interceptor :: interceptors, event :: before, h => by
      obtain ⟨rfl, htail⟩ := List.cons_eq_cons.mp h
      rw [eq_map_intercept_of_append_send interceptors htail, List.map_cons]

/-- The request that is sent last has passed through all interceptors before it. -/
theorem intercepted_map_append_send (interceptors : List Interceptor) (call : RpcCall) :
    Intercepted interceptors (interceptors.map .intercept ++ [.send call]) := by
  intro before call' after htrace interceptor hmem
  rw [eq_map_intercept_of_append_send interceptors htrace]
  exact List.mem_map_of_mem hmem

section concrete

open scoped Concrete

local instance : A2aClientSdk := standardClientSdk

theorem appliesInterceptors_standard : AppliesInterceptors interceptingClient := by
  intro config registry card interceptors channels client channels' hcreate
  dsimp only [A2aClientSdk.create] at hcreate
  split at hcreate
  · cases hcreate
  · split at hcreate
    · cases hcreate
    · obtain ⟨transport, channels₁, -, hreturn⟩ := Co.exists_of_run_bind hcreate
      cases hreturn
      intro application σ net context s call
      exact intercepted_map_append_send _ _

/-- One agent, and an interceptor that audits. -/
theorem intercepts_one :
    (Client.client (.srpcTransport ⟨some (slimrpcCard "a" "agntcy/demo/a"),
      .newWithConnection ⟨0⟩ ⟨"agntcy", "demo", "a"⟩ 7⟩) (some [⟨0⟩])).Intercepts
        interceptingClient [⟨0⟩] :=
  (MultiAgentClientFactory.intercepts_iff appliesInterceptors_standard
    (.init groupConfig) (List.cons_ne_nil (slimrpcCard "a" "agntcy/demo/a") [])
    (rfl : ((MultiAgentClientFactory.init groupConfig).create
      (.many [slimrpcCard "a" "agntcy/demo/a"]) (some [⟨0⟩])).run [] = _)).mpr (Or.inl rfl)

/-- Two agents: the client sends without the interceptor. -/
theorem not_intercepts_two :
    ∃ client channels, ((MultiAgentClientFactory.init groupConfig).create
        (.many [slimrpcCard "a" "agntcy/demo/a", slimrpcCard "b" "agntcy/demo/b"])
        (some [⟨0⟩])).run [] = (.ok client, channels) ∧
      ¬ client.Intercepts interceptingClient [⟨0⟩] := by
  refine ⟨_, _, rfl, ?_⟩
  rw [intercepts_produced_iff]
  exact List.cons_ne_nil _ _

end concrete
end SlimA2a
