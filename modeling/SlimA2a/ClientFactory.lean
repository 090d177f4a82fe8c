import Mathlib.Data.Finset.Sort
import Mathlib.Data.String.Basic
import SlimA2a.ClientTransport

/-! # Making clients

How a client for one agent or for several is made: the two channel factories, the `create` methods
of the transports, and `MultiAgentClientFactory` with its registry of producers and its set of
multi-agent labels (`client_transport.py`).

Making a client opens channels and nothing else, so the world is the list of the channels made so
far (`Making`).  The base class `ClientFactory` is third-party; what the package takes from it is
collected in `A2aClientSdk`. -/

namespace SlimA2a

/-! ### Channel factories -/

/-- A computation that may make channels; the world lists those made so far. -/
abbrev Making (α : Type) : Type := Co (List Channel) PyException α

/-- The constructors of `slim_bindings.Channel`. -/
def newChannel (channel : Channel) : Making Channel := do
  Co.modify (· ++ [channel])
  return channel

/-- `remote.split("/")` -/
def splitRemote (remote : String) : List String := (remote.toList.splitOn '/').map String.ofList

/-- Parse the remote name from the URL. -/
def parseRemote (remote : String) : Except PyException Name :=
  match splitRemote remote with
  | [a, b, c] => .ok ⟨a, b, c⟩
  | _ => .error (.exception .valueError ("Invalid remote format: '" ++ remote ++
      "'. Expected format: 'component1/component2/component'"))

/-- The factory is also called with `None` for the URL, which has no `split`. -/
def slimrpcChannelFactory (localApp : App) (connId : ℕ) : Option String → Making Channel
  | some remote => do
      let remoteName ← Co.ofExcept (parseRemote remote)
      newChannel (.newWithConnection localApp remoteName connId)
  | none => Co.raise (.exception (.other "AttributeError")
      "'NoneType' object has no attribute 'split'")

def slimrpcGroupChannelFactory (localApp : App) (connId : ℕ) (remotes : List String) :
    Making Channel := do
  let members ← Co.ofExcept (remotes.mapM parseRemote)
  newChannel (.newGroupWithConnection localApp members connId)

/-- The client configuration. -/
structure ClientConfig where
  supportedProtocolBindings : List String
  slimrpcChannelFactory : Option (Option String → Making Channel)
  slimrpcGroupChannelFactory : Option (List String → Making Channel)

/-! ### Producers -/

/-- `card: AgentCard | list[AgentCard]` -/
inductive CardArg where
  | one (card : AgentCard)
  | many (cards : List AgentCard)
deriving DecidableEq

/-- What a producer makes. -/
inductive Product where
  | srpcTransport (transport : SRPCTransport)
  /-- `SRPCCompatTransport(channel, card)`, whatever was passed as the card. -/
  | compatTransport (channel : Channel) (card : CardArg)
  | multicastClient (client : MulticastClient)
  /-- What an application's own producer makes. -/
  | other (id : ℕ)
deriving DecidableEq

/-- A producer: called with the cards, the URL and the config. -/
abbrev Producer : Type := CardArg → Option String → Option ClientConfig → Making Product

/-- A client interceptor. -/
structure Interceptor where
  id : ℕ
deriving DecidableEq

/-- What `create` returns: the SDK's client over a transport, or what a producer made for a list. -/
inductive Client where
  | client (transport : Product) (interceptors : Option (List Interceptor))
  | produced (product : Product)
deriving DecidableEq

/-- What the package takes from `a2a.client` and from Python's sets. -/
class A2aClientSdk where
  /-- `ClientFactory._find_best_interface(interfaces, protocol_bindings=...)` -/
  findBestInterface : List AgentInterface → List String → Option AgentInterface
  findBestInterface_mem : ∀ {interfaces bindings interface},
    findBestInterface interfaces bindings = some interface →
      interface ∈ interfaces ∧ interface.protocolBinding ∈ bindings
  /-- The producers that `ClientFactory.__init__` registers. -/
  defaultProducers : ClientConfig → List (String × Producer)
  /-- `ClientFactory.create` -/
  create : ClientConfig → Dict String Producer → AgentCard → Option (List Interceptor) →
    Making Client
  /-- `list(labels)`; the order is unspecified. -/
  listOfSet : Finset String → List String
  mem_listOfSet : ∀ {labels label}, label ∈ listOfSet labels ↔ label ∈ labels
  /-- `str(labels)` -/
  strOfSet : Finset String → String

def valueError (message : String) : PyException := .exception .valueError message

/-- The SDK's own behaviour, as far as concrete runs need it. -/
@[reducible] def standardClientSdk : A2aClientSdk where
  findBestInterface interfaces bindings :=
    interfaces.find? fun interface => interface.protocolBinding ∈ bindings
  findBestInterface_mem h :=
    ⟨List.mem_of_find?_eq_some h, by simpa using List.find?_some h⟩
  defaultProducers config :=
    if config.supportedProtocolBindings = [] ∨ "JSONRPC" ∈ config.supportedProtocolBindings then
      [("JSONRPC", fun _ _ _ => return .other 0)]
    else []
  create config registry card interceptors := do
    let interface := card.supportedInterfaces.find? fun interface =>
      interface.protocolBinding ∈ config.supportedProtocolBindings
    match interface with
    | none => Co.raise (valueError "no compatible transports found.")
    | some interface =>
        match registry.lookup interface.protocolBinding with
        | none => Co.raise (valueError ("no client available for " ++ interface.protocolBinding))
        | some producer => do
            let transport ← producer (.one card) (some interface.url) (some config)
            return .client transport interceptors
  listOfSet labels := labels.sort (· ≤ ·)
  mem_listOfSet := Finset.mem_sort (· ≤ ·)
  strOfSet labels := ", ".intercalate (labels.sort (· ≤ ·))

section
variable [A2aClientSdk]

/-! ### The `create` methods -/

/-- Creates a multicast transport targeting multiple agents. -/
def SRPCMulticastTransport.create (agentNames : List String) (config : ClientConfig) :
    Making SRPCMulticastTransport :=
  match config.slimrpcGroupChannelFactory with
  | none => Co.raise (valueError
      "slimrpc_group_channel_factory is required when using sRPC multicast")
  | some factory => do
      let channel ← factory agentNames
      return ⟨channel⟩

/-- Creates a multicast client targeting multiple agents. -/
def MulticastClient.create (agentNames : List String) (config : ClientConfig) :
    Making MulticastClient := do
  let transport ← SRPCMulticastTransport.create agentNames config
  return ⟨transport⟩

/-- The URL of the slimrpc interface that is chosen for a card. -/
def slimrpcUrl (card : AgentCard) : Except PyException String :=
  match A2aClientSdk.findBestInterface card.supportedInterfaces ["slimrpc"] with
  | some interface => .ok interface.url
  | none => .error (valueError ("Card '" ++ card.name ++ "' does not support slimrpc"))

/-- Creates a SlimRPC transport for single or multiple agents. -/
def SRPCTransport.create : Producer
  | .many cards, _, config =>
      match config with
      | none => Co.raise (valueError "config is required when using sRPC multicast")
      | some config => do
          let urls ← Co.ofExcept (cards.mapM slimrpcUrl)
          let client ← MulticastClient.create urls config
          return .multicastClient client
  | .one card, url, config =>
      match config.bind (·.slimrpcChannelFactory) with
      | none => Co.raise (valueError "slimrpc_channel_factory is required when using sRPC")
      | some factory =>
          match url with
          | none => Co.raise (valueError "url is required for unicast sRPC")
          | some url => do
              let channel ← factory (some url)
              return .srpcTransport ⟨some card, channel⟩

/-- Creates a SlimRPC compat transport for the A2A client; a list of cards is not told apart. -/
def Compat.SRPCCompatTransport.create : Producer := fun card url config =>
  match config with
  | none => Co.raise (.exception (.other "AttributeError")
      "'NoneType' object has no attribute 'slimrpc_channel_factory'")
  | some config =>
      match config.slimrpcChannelFactory with
      | none => Co.raise (valueError "slimrpc_channel_factory is required when using sRPC")
      | some factory => do
          let channel ← factory url
          return .compatTransport channel card

/-! ### The factory -/

/-- An extension of ClientFactory that supports sending messages to multiple Agents
simultaneously. -/
structure MultiAgentClientFactory where
  config : ClientConfig
  registry : Dict String Producer
  multiagentLabels : Finset String

namespace MultiAgentClientFactory

/-- `register(label, producer, multiagent)` -/
def register (factory : MultiAgentClientFactory) (label : String) (producer : Producer)
    (multiagent : Bool) : MultiAgentClientFactory where
  config := factory.config
  registry := factory.registry.insert label producer
  multiagentLabels :=
    if multiagent then insert label factory.multiagentLabels else factory.multiagentLabels

/-- What the base class registers, through `register` with its default for `multiagent`. -/
def superInit (config : ClientConfig) : MultiAgentClientFactory :=
  (A2aClientSdk.defaultProducers config).foldl
    (fun factory (label, producer) => factory.register label producer false) ⟨config, ∅, ∅⟩

/-- The constructor. -/
def init (config : ClientConfig) : MultiAgentClientFactory :=
  (superInit config).register "slimrpc" SRPCTransport.create true

variable (factory : MultiAgentClientFactory)

/-- The protocol bindings of a card. -/
def bindings (card : AgentCard) : Finset String :=
  (card.supportedInterfaces.map (·.protocolBinding)).toFinset

/-- The bindings to look through, in the order in which they are preferred. -/
def preferred : List String :=
  if factory.config.supportedProtocolBindings = [] then
    A2aClientSdk.listOfSet factory.multiagentLabels
  else factory.config.supportedProtocolBindings

/-- `_find_common_multiagent_protocol`; `set.intersection` needs at least one argument. -/
def findCommonMultiagentProtocol : List AgentCard → Except PyException String
  | [] => .error (.exception .typeError "unbound method set.intersection() needs an argument")
  | card :: cards =>
      let common := (cards.map bindings).foldl (· ∩ ·) (bindings card)
      match factory.preferred.find? (fun protocol =>
        protocol ∈ common ∧ protocol ∈ factory.multiagentLabels) with
      | some protocol => .ok protocol
      | none => .error (valueError ("No common multiagent-capable protocol. Common: " ++
          A2aClientSdk.strOfSet common ++ ", Multiagent-capable: " ++
          A2aClientSdk.strOfSet factory.multiagentLabels))

/-- `self._registry[protocol]` -/
def registered (protocol : String) : Except PyException Producer :=
  match factory.registry.lookup protocol with
  | some producer => .ok producer
  | none => .error (.exception (.other "KeyError") protocol)

/-- The producer that a list of cards is handed to, with its label. -/
def handsTo (cards : List AgentCard) : Except PyException (String × Producer) :=
  match factory.findCommonMultiagentProtocol cards with
  | .ok protocol => (factory.registered protocol).map fun producer => (protocol, producer)
  | .error e => .error e

/-- `create(card, interceptors)` -/
def create (card : CardArg) (interceptors : Option (List Interceptor)) : Making Client :=
  match card with
  | .one card => A2aClientSdk.create factory.config factory.registry card interceptors
  | .many [card] => A2aClientSdk.create factory.config factory.registry card interceptors
  | .many cards => do
      let (_, producer) ← Co.ofExcept (factory.handsTo cards)
      let product ← producer (.many cards) none (some factory.config)
      return .produced product

/-! ### Choosing the protocol -/

omit [A2aClientSdk] in
theorem mem_bindings {card : AgentCard} {protocol : String} :
    protocol ∈ bindings card ↔
      ∃ interface ∈ card.supportedInterfaces, interface.protocolBinding = protocol := by
  unfold bindings
  rw [List.mem_toFinset, List.mem_map]

omit [A2aClientSdk] in
theorem mem_foldl_inter {protocol : String} :
    ∀ (cards : List AgentCard) (common : Finset String),
      protocol ∈ (cards.map bindings).foldl (· ∩ ·) common ↔
        protocol ∈ common ∧ ∀ card ∈ cards, protocol ∈ bindings card
  | [], common => by simp
  | card :: cards, common => by
      rw [List.map_cons, List.foldl_cons, mem_foldl_inter cards, Finset.mem_inter,
        List.forall_mem_cons, and_assoc]

omit [A2aClientSdk] in
/-- The common bindings are those of every card. -/
theorem mem_common {protocol : String} {card : AgentCard} {cards : List AgentCard} :
    protocol ∈ (cards.map bindings).foldl (· ∩ ·) (bindings card) ↔
      ∀ c ∈ card :: cards, protocol ∈ bindings c := by
  rw [mem_foldl_inter, List.forall_mem_cons]

/-- The protocol is the first preferred one that every card offers and that is multi-agent. -/
theorem findCommonMultiagentProtocol_ok {cards : List AgentCard} {protocol : String}
    (h : factory.findCommonMultiagentProtocol cards = .ok protocol) :
    protocol ∈ factory.preferred ∧ (∀ card ∈ cards, protocol ∈ bindings card) ∧
      protocol ∈ factory.multiagentLabels := by
  cases cards with
  | nil => cases h
  | cons card cards =>
      unfold findCommonMultiagentProtocol at h
      dsimp only at h
      split at h
      · rename_i p hfind
        cases h
        have hp := List.find?_some hfind
        rw [decide_eq_true_iff, mem_common] at hp
        exact ⟨List.mem_of_find?_eq_some hfind, hp⟩
      · cases h

/-- Without such a protocol, two or more cards raise a `ValueError`. -/
theorem findCommonMultiagentProtocol_error {cards : List AgentCard} {e : PyException}
    (hcards : cards ≠ []) (h : factory.findCommonMultiagentProtocol cards = .error e) :
    (∃ message, e = valueError message) ∧ ∀ protocol ∈ factory.preferred,
      ¬ ((∀ card ∈ cards, protocol ∈ bindings card) ∧ protocol ∈ factory.multiagentLabels) := by
  cases cards with
  | nil => exact absurd rfl hcards
  | cons card cards =>
      unfold findCommonMultiagentProtocol at h
      dsimp only at h
      split at h
      · cases h
      · rename_i hfind
        cases h
        refine ⟨⟨_, rfl⟩, ?_⟩
        intro protocol hprotocol hboth
        have hnot := List.find?_eq_none.mp hfind protocol hprotocol
        rw [decide_eq_true_iff, mem_common] at hnot
        exact hnot hboth

theorem handsTo_of_lookup {cards : List AgentCard} {protocol : String} {producer : Producer}
    (hfind : factory.findCommonMultiagentProtocol cards = .ok protocol)
    (hlookup : factory.registry.lookup protocol = some producer) :
    factory.handsTo cards = .ok (protocol, producer) := by
  unfold handsTo registered
  simp only [hfind, hlookup]
  rfl

theorem handsTo_of_error {cards : List AgentCard} {e : PyException}
    (hfind : factory.findCommonMultiagentProtocol cards = .error e) :
    factory.handsTo cards = .error e := by
  unfold handsTo
  rw [hfind]

theorem handsTo_ok {cards : List AgentCard} {protocol : String} {producer : Producer}
    (h : factory.handsTo cards = .ok (protocol, producer)) :
    factory.findCommonMultiagentProtocol cards = .ok protocol ∧
      factory.registry.lookup protocol = some producer := by
  cases hfind : factory.findCommonMultiagentProtocol cards with
  | error e =>
      rw [factory.handsTo_of_error hfind] at h
      cases h
  | ok protocol' =>
      unfold handsTo registered at h
      rw [hfind] at h
      cases hlookup : factory.registry.lookup protocol' with
      | none => simp [hlookup, Except.map] at h
      | some producer' =>
          obtain ⟨rfl, rfl⟩ : protocol' = protocol ∧ producer' = producer := by
            simpa [hlookup, Except.map] using h
          exact ⟨rfl, hlookup⟩

/-- A single multi-agent label is looked for unless the config prefers other bindings only. -/
theorem mem_preferred_of_singleton {label : String} (hlabels : factory.multiagentLabels = {label}) :
    label ∈ factory.preferred ↔ factory.config.supportedProtocolBindings = [] ∨
      label ∈ factory.config.supportedProtocolBindings := by
  unfold preferred
  split
  · rename_i hnil
    rw [A2aClientSdk.mem_listOfSet, hlabels]
    exact iff_of_true (Finset.mem_singleton_self label) (Or.inl hnil)
  · rename_i hne
    rw [or_iff_right hne]

/-- With one multi-agent label, a list of cards goes to the producer of that label, provided that it
is looked for and that every card offers it. -/
theorem handsTo_of_singleton {label : String} {producer : Producer} {cards : List AgentCard}
    (hlabels : factory.multiagentLabels = {label})
    (hlookup : factory.registry.lookup label = some producer) (hcards : cards ≠ []) :
    (((factory.config.supportedProtocolBindings = [] ∨
          label ∈ factory.config.supportedProtocolBindings) ∧
        ∀ card ∈ cards, label ∈ bindings card) ∧
        factory.handsTo cards = .ok (label, producer)) ∨
      (¬ ((factory.config.supportedProtocolBindings = [] ∨
          label ∈ factory.config.supportedProtocolBindings) ∧
        ∀ card ∈ cards, label ∈ bindings card) ∧
        ∃ message, factory.handsTo cards = .error (valueError message)) := by
  rw [← factory.mem_preferred_of_singleton hlabels]
  cases hfind : factory.findCommonMultiagentProtocol cards with
  | ok protocol =>
      obtain ⟨hpreferred, hoffer, hlabel⟩ := factory.findCommonMultiagentProtocol_ok hfind
      rw [hlabels, Finset.mem_singleton] at hlabel
      subst hlabel
      exact Or.inl ⟨⟨hpreferred, hoffer⟩, factory.handsTo_of_lookup hfind hlookup⟩
  | error e =>
      obtain ⟨⟨message, rfl⟩, hno⟩ := factory.findCommonMultiagentProtocol_error hcards hfind
      refine Or.inr ⟨?_, message, factory.handsTo_of_error hfind⟩
      rintro ⟨hpreferred, hoffer⟩
      refine hno label hpreferred ⟨hoffer, ?_⟩
      rw [hlabels]
      exact Finset.mem_singleton_self label

/-- Two or more cards are handed to one producer. -/
theorem create_many {cards : List AgentCard} (hcards : 2 ≤ cards.length)
    (interceptors : Option (List Interceptor)) :
    factory.create (.many cards) interceptors = (do
      let (_, producer) ← Co.ofExcept (factory.handsTo cards)
      let product ← producer (.many cards) none (some factory.config)
      return .produced product) := by
  match cards, hcards with
  | _ :: _ :: _, _ => rfl

/-- For several cards the client is what a producer made. -/
theorem exists_product_of_create_many {cards : List AgentCard} (hcards : 2 ≤ cards.length)
    {interceptors : Option (List Interceptor)} {channels channels' : List Channel} {client : Client}
    (h : (factory.create (.many cards) interceptors).run channels = (.ok client, channels')) :
    ∃ product, client = .produced product := by
  rw [factory.create_many hcards] at h
  obtain ⟨handed, channels₁, -, h⟩ := Co.exists_of_run_bind h
  obtain ⟨product, channels₂, -, h⟩ := Co.exists_of_run_bind h
  cases h
  exact ⟨product, rfl⟩

end MultiAgentClientFactory
end
end SlimA2a
