import SlimA2a.CompatErrors

/-! # Capabilities that the card disables

An agent card says whether the agent streams and whether it takes push-notification configs.
`Confined` is the invariant of a run of both servers, with calls in any order: the request handler
has received no call of a capability that the card disables.

The guards of version 1 keep it.  The methods of version 0.3 have no guards, so it is lost by the
first of their calls that asks for a disabled capability and is delivered (`Opens`).  The invariant
holds throughout a run exactly when no step of the run is such a call (`confined_iff`). -/

namespace SlimA2a

/-- The card has the capability that a call of the request handler belongs to. -/
def HandlerCall.Enabled (card : AgentCard) : HandlerCall → Prop
  | onMessageSendStream _ _ => card.capabilities.streaming = true
  | onSubscribeToTask _ _ => card.capabilities.streaming = true
  | onCreateTaskPushNotificationConfig _ _ => card.capabilities.pushNotifications = true
  | _ => True

/-- The card disables the capability that a method of version 0.3 belongs to. -/
def Compat.CompatCall.Disabled (card : AgentCard) : Compat.CompatCall → Prop
  | sendStreamingMessage _ => card.capabilities.streaming = false
  | taskSubscription _ => card.capabilities.streaming = false
  | createTaskPushNotificationConfig _ => card.capabilities.pushNotifications = false
  | _ => False

namespace Servicers
variable [A2aSdk] [CompatSdk] {σ : Type} (servicers : Servicers σ)

/-- The world after a run of RPCs. -/
def run (s : σ) (requests : List (Context × Rpc)) : σ :=
  requests.foldl (fun s request => servicers.step s request.1 request.2) s

/-- In every state of the run, the request handler has received enabled calls only. -/
def Confined (s : σ) (requests : List (Context × Rpc)) : Prop :=
  ∀ done, done <+: requests →
    ∀ x ∈ (servicers.logged.run (s, []) done).2, x.Enabled servicers.agentCard

/-- The request is one of version 0.3 for a disabled capability, its context is built and it is
decoded. -/
def Opens (s : σ) (request : Context × Rpc) : Prop :=
  ∃ call, request.2 = .v03 call ∧ call.Disabled servicers.agentCard ∧
    (∃ c s', (servicers.v03.contextBuilder request.1).run s = (.ok c, s')) ∧
    ∃ entry, call.handlerCall = some (.ok entry)

/-! ### One step -/

omit [A2aSdk] [CompatSdk] in
theorem enabled_of_guard {card : AgentCard} {call : Call} (hguard : call.guard card = .ok ())
    (c : ServerCallContext) : (call.handlerCall c).Enabled card := by
  cases call with
  | sendStreamingMessage r => exact guarded_ok hguard
  | subscribeToTask r => exact guarded_ok hguard
  | createTaskPushNotificationConfig r => exact guarded_ok hguard
  | _ => exact trivial

omit [A2aSdk] in
/-- On version 0.3 nothing stands between a disabled capability and the request handler. -/
theorem enabled_iff_not_disabled {card : AgentCard} {call : Compat.CompatCall}
    {f : ServerCallContext → HandlerCall} (hf : call.handlerCall = some (.ok f))
    (c : ServerCallContext) : (f c).Enabled card ↔ ¬ call.Disabled card := by
  cases call with
  | sendStreamingMessage r =>
      obtain ⟨-, request, -, -, rfl⟩ := Compat.decoded_ok (Option.some.inj hf)
      exact Iff.of_eq (Bool.not_eq_false _).symm
  | taskSubscription r =>
      obtain ⟨-, request, -, -, rfl⟩ := Compat.decoded_ok (Option.some.inj hf)
      exact Iff.of_eq (Bool.not_eq_false _).symm
  | createTaskPushNotificationConfig r =>
      obtain ⟨-, request, -, -, rfl⟩ := Compat.decoded_ok (Option.some.inj hf)
      exact Iff.of_eq (Bool.not_eq_false _).symm
  | getAgentCard r => cases hf
  | _ =>
      obtain ⟨-, request, -, -, rfl⟩ := Compat.decoded_ok (Option.some.inj hf)
      exact iff_of_true trivial id

/-- What one RPC adds to the log is enabled exactly when it does not open a disabled capability. -/
theorem enabled_receives_iff (s : σ) (context : Context) (rpc : Rpc) :
    (∀ x ∈ servicers.receives context s rpc, x.Enabled servicers.agentCard) ↔
      ¬ servicers.Opens s (context, rpc) := by
  cases rpc with
  | v1 call =>
      refine iff_of_true (fun x hx => ?_) fun ⟨_, hrpc, _⟩ => Rpc.noConfusion hrpc
      obtain ⟨s', hdelivery⟩ := mem_received.mp hx
      obtain ⟨hguard, c, -, rfl⟩ := SRPCHandler.delivery_ok hdelivery
      exact enabled_of_guard hguard _
  | v03 call =>
      cases hrequest : call.handlerCall with
      | none =>
          have hreceives : servicers.receives context s (.v03 call) = [] := by
            simp only [receives, delivery, hrequest, Option.map_none]
          rw [hreceives]
          refine iff_of_true (fun x hx => absurd hx List.not_mem_nil) ?_
          rintro ⟨call', hrpc, -, -, entry, hentry⟩
          cases hrpc
          rw [hrequest] at hentry
          cases hentry
      | some request =>
          have hreceives : servicers.receives context s (.v03 call) =
              received ((servicers.v03.delivery context request).run s) := by
            simp only [receives, delivery, hrequest, Option.map_some]
          rw [hreceives]
          constructor
          · rintro henabled ⟨call', hrpc, hdisabled, ⟨c, s', hbuild⟩, entry, hentry⟩
            cases hrpc
            obtain rfl : request = .ok entry := Option.some.inj (hrequest.symm.trans hentry)
            have hx := henabled (entry c)
              (mem_received.mpr ⟨s', Compat.SRPCCompatHandler.delivery_run hbuild _⟩)
            exact (enabled_iff_not_disabled hentry c).mp hx hdisabled
          · intro hopens x hx
            obtain ⟨s', hdelivery⟩ := mem_received.mp hx
            obtain ⟨c, f, hbuild, rfl, rfl⟩ := Compat.SRPCCompatHandler.delivery_ok hdelivery
            exact (enabled_iff_not_disabled hrequest c).mpr fun hdisabled =>
              hopens ⟨call, rfl, hdisabled, ⟨c, s', hbuild⟩, f, hrequest⟩

/-! ### Whole runs -/

theorem log_run_append (s : σ) (done : List (Context × Rpc)) (request : Context × Rpc) :
    (servicers.logged.run (s, []) (done ++ [request])).2 =
      (servicers.logged.run (s, []) done).2 ++
        servicers.receives request.1 (servicers.logged.run (s, []) done).1 request.2 := by
  rw [run, List.foldl_append]
  exact servicers.log_step _ _ request.1 request.2

/-- **A run reaches no disabled capability exactly when none of its steps opens one.** -/
theorem confined_iff (s : σ) (requests : List (Context × Rpc)) :
    servicers.Confined s requests ↔
      ∀ done request, done ++ [request] <+: requests →
        ¬ servicers.Opens (servicers.logged.run (s, []) done).1 request := by
  constructor
  · intro hconfined done request hprefix
    rw [← enabled_receives_iff]
    intro x hx
    refine hconfined _ hprefix x ?_
    rw [log_run_append]
    exact List.mem_append_right _ hx
  · intro hopens done
    induction done using List.reverseRecOn with
    | nil => exact fun _ x hx => absurd hx List.not_mem_nil
    | append_singleton done request ih =>
        intro hprefix x hx
        rw [log_run_append, List.mem_append] at hx
        rcases hx with hx | hx
        · exact ih ((List.prefix_append done [request]).trans hprefix) x hx
        · exact (servicers.enabled_receives_iff _ _ _).mpr (hopens done request hprefix) x hx

end Servicers

/-- A card without streaming: one `SendStreamingMessage` of version 0.3 gets to the request
handler. -/
theorem not_confined_sendStreamingMessage :
    ¬ @Servicers.Confined standardSdk Compat.standardCompatSdk Unit
      (refusingServicers default ⟨.internalError, "unavailable"⟩) ()
      [(⟨some "alice", none, ∅⟩, .v03 (.sendStreamingMessage ⟨⟨[]⟩, ⟨[]⟩, ⟨[]⟩⟩))] := by
  intro hconfined
  have henabled := hconfined _ (List.prefix_refl _) _ (List.mem_singleton_self _)
  cases henabled

end SlimA2a
