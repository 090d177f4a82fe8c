import SlimA2a.Answers

/-! # Servers beside a log

`Servicers.logged` puts the request handler beside a log of the calls it receives.  Here the log is
shown to be an observer: a request is served as it was, and the log gains what the request handler
received in it (`v1_serve_logged`, `v03_serve_logged`).  The last section is about what that is: at
most one call, of the method that serves the request, with the context of its caller. -/

namespace SlimA2a

section outcomes
variable {σ ι ρ τ ℓ : Type}

end outcomes

section answers
variable {σ ι : Type} (h : RequestHandler σ) (convert : Event → Except PyException ι)

end answers

namespace Servicers
variable [A2aSdk] [CompatSdk] {σ : Type} (servicers : Servicers σ)

end Servicers

/-! ### What the request handler receives for an RPC -/

/-- The call is the one that the RPC makes, with some call context. -/
def Rpc.Makes [CompatSdk] : Rpc → HandlerCall → Prop
  | v1 call, x => x = call.handlerCall x.context
  | v03 call, x => ∃ entry, call.handlerCall = some (.ok entry) ∧ x = entry x.context

/-- The RPC goes to the request handler. -/
def Rpc.IsHandled : Rpc → Prop
  | v03 (.getAgentCard _) => False
  | _ => True

namespace Servicers
variable [A2aSdk] [CompatSdk] {σ : Type} {servicers : Servicers σ} {context : Context} {s : σ}
  {rpc : Rpc}

end Servicers
end SlimA2a
