import SlimA2a.AsyncGen
import SlimA2a.Errors
import SlimA2a.Identity

/-! # The SLIM bindings

What the package uses of `slim_bindings` to make and serve calls: names, apps, channels, the four
kinds of calls a channel offers, the messages a stream reader delivers, and the sink a stream is
sent to.

A reader is the list of what its successive `next_async` calls return; after the last one it is at
the end.  The network itself is a parameter, `Network σ`, over a world `σ` of its
own.  `Network.logged` is the same network beside a log of the calls made on it. -/

namespace SlimA2a

/-- `slim_bindings.Name` -/
structure Name where
  component0 : String
  component1 : String
  component2 : String
deriving DecidableEq

/-- A handle of a `slim_bindings.App`. -/
structure App where
  id : ℕ
deriving DecidableEq

/-- `slim_bindings.Channel`, by the constructor it was made with. -/
inductive Channel where
  | newWithConnection (app : App) (remote : Name) (connId : ℕ)
  | newGroupWithConnection (app : App) (members : List Name) (connId : ℕ)
deriving DecidableEq

/-- The arguments of a call on a channel. -/
structure RpcCall where
  service : String
  method : String
  request : Bytes
  timeout : Option ℕ
  metadata : Option (Dict String String)
deriving DecidableEq

/-- What `next_async` returns on a response stream. -/
inductive StreamMessage where
  | end
  | error (e : RpcError)
  | data (message : Bytes)
deriving DecidableEq

/-- What `next_async` returns on a multicast reader; `data` names the source. -/
inductive MulticastMessage where
  | end
  | error (e : RpcError)
  | data (context : Context) (message : Bytes)
deriving DecidableEq

/-- The calls that a channel offers. -/
structure Network (σ : Type) where
  callUnaryAsync : Channel → RpcCall → Co σ PyException Bytes
  callUnaryStreamAsync : Channel → RpcCall → Co σ PyException (List StreamMessage)
  callMulticastUnaryAsync : Channel → RpcCall → Co σ PyException (List MulticastMessage)
  callMulticastUnaryStreamAsync : Channel → RpcCall → Co σ PyException (List MulticastMessage)

/-- The same network beside a log of the calls made on it. -/
def Network.logged {σ : Type} (net : Network σ) : Network (σ × List RpcCall) where
  callUnaryAsync channel call := (net.callUnaryAsync channel call).logged call
  callUnaryStreamAsync channel call := (net.callUnaryStreamAsync channel call).logged call
  callMulticastUnaryAsync channel call := (net.callMulticastUnaryAsync channel call).logged call
  callMulticastUnaryStreamAsync channel call :=
    (net.callMulticastUnaryStreamAsync channel call).logged call

/-- `slim_bindings.ResponseSink` -/
structure ResponseSink (τ : Type) where
  sendAsync : Bytes → Co τ PyException Unit
  closeAsync : Co τ PyException Unit
  sendErrorAsync : RpcError → Co τ PyException Unit

/-- An operation on a sink. -/
inductive SinkOp where
  | send (message : Bytes)
  | close
  | sendError (e : RpcError)
deriving DecidableEq

/-- A sink whose operations succeed and are written down. -/
def recordingSink : ResponseSink (List SinkOp) where
  sendAsync message := Co.modify (· ++ [.send message])
  closeAsync := Co.modify (· ++ [.close])
  sendErrorAsync e := Co.modify (· ++ [.sendError e])

end SlimA2a
