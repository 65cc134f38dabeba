import EverestFramework.Error.Bus

/-!
# What subscribers observe

Each call of a run hands what it fans out to every subscription registered
before the call, and `subscribe_global_all_errors` appends a subscription
that has received nothing.  So a subscription registered at some point of a
run receives exactly the global fan-outs issued after that point
(`ErrorBus.run_shape`).  Together with the invariant of `Bus`, this gives the
protocol seen by the subscribers: per identity the notifications alternate
raise, clear, raise, ..., only declared types are ever notified, and a
subscriber that joins while an identity is inactive sees that identity's
notifications start with a raise.
-/

namespace EverestFramework.Error.Fanout

open EverestFramework.Error.Database
open EverestFramework.Error.ManagerReqGlobal
open EverestFramework.Error.Bus

namespace ErrorBus

open Bus.ErrorBus

/-- One call adds its fan-out to the global sequence and to every earlier subscription. -/
theorem step_shape (bus : Bus.ErrorBus) (event : ErrorEvent) :
    ∃ added, (bus.step event).fanouts = bus.fanouts ++ added ∧
      (bus.step event).manager.subscriptions =
        bus.manager.subscriptions.map (Subscription.deliver added) ++
          if event = .subscribe then [⟨[]⟩] else [] := by
  cases event with
  | raised error =>
    exact ⟨_, rfl, by simp [Bus.ErrorBus.step, record, ErrorManagerReqGlobal.onErrorRaised_subscriptions]⟩
  | cleared error =>
    exact ⟨_, rfl, by simp [Bus.ErrorBus.step, record, ErrorManagerReqGlobal.onErrorCleared_subscriptions]⟩
  | subscribe => exact ⟨[], by simp [Bus.ErrorBus.step], by simp [Bus.ErrorBus.step]⟩

/--
Over a whole run, every subscription registered before it receives exactly
what the run adds to the global fan-out sequence.
-/
theorem run_shape (bus : Bus.ErrorBus) (events : List ErrorEvent) :
    ∃ added, (bus.run events).fanouts = bus.fanouts ++ added ∧
      (bus.run events).manager.subscriptions.take bus.manager.subscriptions.length =
        bus.manager.subscriptions.map (Subscription.deliver added) := by
  induction events generalizing bus with
  | nil => exact ⟨[], by simp, by simp [List.take_length]⟩
  | cons event events ih =>
    obtain ⟨first, firstFanouts, firstSubscriptions⟩ := step_shape bus event
    obtain ⟨rest, restFanouts, restSubscriptions⟩ := ih (bus.step event)
    refine ⟨first ++ rest, by simp [restFanouts, firstFanouts], ?_⟩
    have grown : bus.manager.subscriptions.length ≤ (bus.step event).manager.subscriptions.length := by
      simp [firstSubscriptions]
    calc ((bus.step event).run events).manager.subscriptions.take bus.manager.subscriptions.length
        = (((bus.step event).run events).manager.subscriptions.take
            (bus.step event).manager.subscriptions.length).take
              bus.manager.subscriptions.length := by
          rw [List.take_take, min_eq_left grown]
      _ = ((bus.step event).manager.subscriptions.take bus.manager.subscriptions.length).map
            (Subscription.deliver rest) := by
          rw [restSubscriptions, List.map_take]
      _ = bus.manager.subscriptions.map (Subscription.deliver (first ++ rest)) := by
          rw [firstSubscriptions, List.take_left' (by simp)]
          simp [Function.comp_def]

end ErrorBus

/--
The protocol the subscribers see, over every run from construction.  For
each identity the fanned-out notifications alternate raise, clear, ...
starting with a raise; no notification is issued for an undeclared type; a
subscription registered at any point receives exactly the fan-outs issued
after it; and if the identity was inactive when it subscribed, its
notifications of that identity again alternate starting with a raise.
-/
theorem fanout_protocol (errorTypeMap : ErrorTypeMap) (events : List ErrorEvent) :
    let bus := (Bus.ErrorBus.init errorTypeMap).run events
    (∀ identity, alternatesFrom .raise (history bus.fanouts identity) = true) ∧
    (∀ notification ∈ bus.fanouts, errorTypeMap.has notification.error.type = true) ∧
    ∀ before after, events = before ++ .subscribe :: after →
      let subscribed := (Bus.ErrorBus.init errorTypeMap).run before
      (bus.manager.subscriptions[subscribed.manager.subscriptions.length]?.map (·.received) =
          some (bus.fanouts.drop subscribed.fanouts.length)) ∧
      ∀ identity, identity ∉ subscribed.manager.database.identities →
        alternatesFrom .raise (history (bus.fanouts.drop subscribed.fanouts.length) identity) =
          true := by
  intro bus
  have invariant : bus.Invariant := Bus.ErrorBus.invariant_run errorTypeMap events
  refine ⟨invariant.alternates, by simpa [Bus.ErrorBus.Invariant, bus] using invariant.fanoutsDeclared,
    fun before after split => ?_⟩
  intro subscribed
  have subscribedInvariant : subscribed.Invariant := Bus.ErrorBus.invariant_run errorTypeMap before
  have resumed : bus = (subscribed.step .subscribe).run after := by
    simp only [bus, split, Bus.ErrorBus.run_append_cons]
  obtain ⟨added, fanouts, subscriptions⟩ := ErrorBus.run_shape (subscribed.step .subscribe) after
  simp only [Bus.ErrorBus.step, ErrorManagerReqGlobal.subscribeGlobalAllErrors_subscriptions,
    List.length_append, List.length_singleton] at fanouts subscriptions resumed
  have dropped : bus.fanouts.drop subscribed.fanouts.length = added := by
    rw [resumed, fanouts, List.drop_left]
  refine ⟨?_, fun identity inactive => ?_⟩
  · have taken := congrArg (·[subscribed.manager.subscriptions.length]?) subscriptions
    simp only [List.getElem?_take_of_lt (Nat.lt_succ_self _)] at taken
    rw [dropped, resumed, taken]
    simp [Subscription.deliver]
  · have even : (history subscribed.fanouts identity).length % 2 = 0 := by
      have := (subscribedInvariant.active_iff identity).not.1 inactive
      omega
    have whole := invariant.alternates identity
    rw [resumed, fanouts] at whole
    simp only [history_append, alternatesFrom_append, Bool.and_eq_true, kindAt, even,
      if_true] at whole
    rw [dropped]
    exact whole.2

end EverestFramework.Error.Fanout
