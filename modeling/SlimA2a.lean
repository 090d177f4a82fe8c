import SlimA2a.Coroutine
import SlimA2a.AsyncGen
import SlimA2a.Dict
import SlimA2a.PrefixMatch
import SlimA2a.Interleaving
import SlimA2a.Protobuf
import SlimA2a.Errors
import SlimA2a.Identity
import SlimA2a.Messages
import SlimA2a.Sdk
import SlimA2a.Handler
import SlimA2a.HandlerErrors
import SlimA2a.CompatSdk
import SlimA2a.CompatHandler
import SlimA2a.HandlerCalls
import SlimA2a.ResourceName
import SlimA2a.Codecs
import SlimA2a.CallContext
import SlimA2a.SlimBindings
import SlimA2a.Slimrpc
import SlimA2a.ServerStreams
import SlimA2a.ClientTransport
import SlimA2a.CompatTransport
import SlimA2a.Metadata
import SlimA2a.Multicast
import SlimA2a.MulticastFailures
import SlimA2a.ClientFactory
import SlimA2a.SlimAddress
import SlimA2a.GroupChannel
import SlimA2a.MultiagentLabels
import SlimA2a.SlimHelper
import SlimA2a.Servicers
import SlimA2a.CompatErrors
import SlimA2a.ErrorCodes
import SlimA2a.Capabilities
import SlimA2a.CompatOverride
import SlimA2a.AgentAddresses
import SlimA2a.HistoryLimit
import SlimA2a.Interceptors
import SlimA2a.Concrete
import SlimA2a.Answers
import SlimA2a.Server
import SlimA2a.Wire
import SlimA2a.CompatWire
import SlimA2a.LoggedServers
import SlimA2a.Sessions
import SlimA2a.GroupCalls
import SlimA2a.Scheduler
import SlimA2a.Readers
import SlimA2a.Interference
import SlimA2a.ConcurrentStreams
import SlimA2a.ConcurrentClients
import SlimA2a.GroupSchedules
import SlimA2a.GroupReaders
import SlimA2a.ConcurrentConnects
import SlimA2a.Subscriptions
import SlimA2a.GroupClients
