import SlimA2a.ProtocolSelection

/-! # The v0.3 transport for several agents

An application that talks to v0.3 agents registers `SRPCCompatTransport.create` for `slimrpc`, as a
multi-agent producer, and then calls `create` with one card or with several.

`ServesList` says what a list of cards should get: a client that reaches every agent, or a
`ValueError` and no channel.  The producer was written for one card.  It passes the missing URL of a
list on to the unicast channel factory, which raises an `AttributeError`.  So a list is served as
promised only where the producer is not chosen at all (`servesList_iff`). -/

namespace SlimA2a

/-- The names that a channel sends to. -/
def Channel.remotes : Channel → List Name
  | newWithConnection _ remote _ => [remote]
  | newGroupWithConnection _ members _ => members

/-- The channel of what a producer of the package made. -/
def Product.channel : Product → Option Channel
  | srpcTransport transport => some transport.channel
  | compatTransport channel _ => some channel
  | multicastClient client => some client.transport.channel
  | other _ => none

/-- What the requests of a client are sent through. -/
def Client.product : Client → Product
  | client transport _ => transport
  | produced product => product

/-- The requests of the client go to the agent of the card: one of the names that its channel sends
to is the URL of a slimrpc interface of the card. -/
def Client.Reaches (client : Client) (card : AgentCard) : Prop :=
  ∃ channel, client.product.channel = some channel ∧ ∃ name ∈ channel.remotes,
    ∃ interface ∈ card.supportedInterfaces,
      interface.protocolBinding = "slimrpc" ∧ interface.url = name.url

section
variable [A2aClientSdk]

/-- The factory after the registration of the v0.3 transport. -/
def compatFactory (config : ClientConfig) : MultiAgentClientFactory :=
  (MultiAgentClientFactory.init config).register "slimrpc" Compat.SRPCCompatTransport.create true

/-- A list of cards gets a client that reaches every agent, or a `ValueError` before any channel is
made. -/
def ServesList (config : ClientConfig) (cards : List AgentCard)
    (interceptors : Option (List Interceptor)) (channels : List Channel) : Prop :=
  (∃ client channels',
    ((compatFactory config).create (.many cards) interceptors).run channels =
      (.ok client, channels') ∧ ∀ card ∈ cards, client.Reaches card) ∨
  ∃ message, ((compatFactory config).create (.many cards) interceptors).run channels =
    (.error (valueError message), channels)

/-! ### The factory after the override -/

open MultiAgentClientFactory

theorem multiagentLabels_compatFactory (config : ClientConfig) :
    (compatFactory config).multiagentLabels = {"slimrpc"} := by
  show insert "slimrpc" (init config).multiagentLabels = {"slimrpc"}
  rw [multiagentLabels_init, Finset.insert_eq_of_mem (Finset.mem_singleton_self _)]

theorem lookup_registry_compatFactory (config : ClientConfig) :
    (compatFactory config).registry.lookup "slimrpc" = some Compat.SRPCCompatTransport.create :=
  AList.lookup_insert _

theorem config_compatFactory (config : ClientConfig) : (compatFactory config).config = config :=
  config_init config

/-- The label of the override is the only one that can be chosen. -/
theorem handsTo_compatFactory {config : ClientConfig} {cards : List AgentCard} (hcards : cards ≠ [])
    (hoffer : ∀ card ∈ cards, "slimrpc" ∈ bindings card) :
    ((config.supportedProtocolBindings = [] ∨ "slimrpc" ∈ config.supportedProtocolBindings) ∧
        (compatFactory config).handsTo cards =
          .ok ("slimrpc", Compat.SRPCCompatTransport.create)) ∨
      ((config.supportedProtocolBindings ≠ [] ∧ "slimrpc" ∉ config.supportedProtocolBindings) ∧
        ∃ message, (compatFactory config).handsTo cards = .error (valueError message)) := by
  have hhands := (compatFactory config).handsTo_of_singleton
    (multiagentLabels_compatFactory config) (lookup_registry_compatFactory config) hcards
  rw [config_compatFactory] at hhands
  rcases hhands with ⟨⟨hsupported, -⟩, hok⟩ | ⟨hno, message, herror⟩
  · exact Or.inl ⟨hsupported, hok⟩
  · refine Or.inr ⟨?_, message, herror⟩
    rw [Ne, ← not_or]
    exact fun hsupported => hno ⟨hsupported, hoffer⟩

omit [A2aClientSdk] in
/-- The v0.3 producer raises an `AttributeError` when there is no URL. -/
theorem run_compatCreate_none {config : ClientConfig} {localApp : App} {connId : ℕ}
    (hunicast : config.slimrpcChannelFactory = some (slimrpcChannelFactory localApp connId))
    (card : CardArg) (channels : List Channel) :
    (Compat.SRPCCompatTransport.create card none (some config)).run channels =
      (.error (.exception (.other "AttributeError")
        "'NoneType' object has no attribute 'split'"), channels) := by
  simp only [Compat.SRPCCompatTransport.create, hunicast]
  rfl

/-- **The override serves a list of cards only by refusing it**, when the configured bindings leave
`slimrpc` out. -/
theorem servesList_iff {config : ClientConfig} {localApp : App} {connId : ℕ}
    (hunicast : config.slimrpcChannelFactory = some (slimrpcChannelFactory localApp connId))
    {cards : List AgentCard} (hcards : 2 ≤ cards.length)
    (hoffer : ∀ card ∈ cards, ∃ interface ∈ card.supportedInterfaces,
      interface.protocolBinding = "slimrpc")
    (interceptors : Option (List Interceptor)) (channels : List Channel) :
    ServesList config cards interceptors channels ↔
      config.supportedProtocolBindings ≠ [] ∧ "slimrpc" ∉ config.supportedProtocolBindings := by
  have hne : cards ≠ [] := List.ne_nil_of_length_pos (by omega)
  have hoffer' : ∀ card ∈ cards, "slimrpc" ∈ bindings card :=
    fun card hcard => mem_bindings.mpr (hoffer card hcard)
  rcases @handsTo_compatFactory _ config cards hne hoffer' with
    ⟨hsupported, hhands⟩ | ⟨hsupported, message, hhands⟩
  · have hrun : ((compatFactory config).create (.many cards) interceptors).run channels =
        (.error (.exception (.other "AttributeError")
          "'NoneType' object has no attribute 'split'"), channels) := by
      rw [create_many _ hcards, hhands, config_compatFactory, Co.run_bind_ok (Co.run_ofExcept _ _)]
      exact Co.run_bind_error (run_compatCreate_none hunicast _ channels) _
    refine iff_of_false ?_ (not_and_or.mpr ?_)
    · rintro (⟨client, channels', hok, -⟩ | ⟨message, herror⟩)
      · rw [hrun] at hok
        cases hok
      · rw [hrun] at herror
        cases herror
    · exact hsupported.imp not_not_intro not_not_intro
  · refine iff_of_true (Or.inr ⟨message, ?_⟩) hsupported
    rw [create_many _ hcards, hhands]
    rfl

end

/-- The configuration of the example client, with two v0.3 agents. -/
theorem not_servesList_two :
    ¬ @ServesList standardClientSdk groupConfig
      [slimrpcCard "a" "agntcy/demo/a", slimrpcCard "b" "agntcy/demo/b"] none [] := by
  rintro (⟨client, channels, hok, -⟩ | ⟨message, herror⟩)
  · cases hok
  · cases herror

/-- With another binding configured the list is refused. -/
theorem servesList_other_binding :
    @ServesList standardClientSdk { groupConfig with supportedProtocolBindings := ["grpc"] }
        [slimrpcCard "a" "agntcy/demo/a", slimrpcCard "b" "agntcy/demo/b"] none [] ↔
      ["grpc"] ≠ [] ∧ "slimrpc" ∉ ["grpc"] :=
  @servesList_iff standardClientSdk { groupConfig with supportedProtocolBindings := ["grpc"] }
    ⟨0⟩ 7 rfl [slimrpcCard "a" "agntcy/demo/a", slimrpcCard "b" "agntcy/demo/b"] (by decide)
    (by decide) none []

end SlimA2a
