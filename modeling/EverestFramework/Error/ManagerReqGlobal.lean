import EverestFramework.Error.Database

/-!
# The global error manager

`ErrorManagerReqGlobal` receives every raised and cleared error of the system
through the two handlers it hands to `subscribe_global_all_errors_func` at
construction, keeps the active errors in its `ErrorDatabase`, and fans each
accepted raise or clear out to the subscriptions registered through
`subscribe_global_all_errors`.

A subscription is modelled by the record of its callback invocations: each
`callback(error)` or `clear_callback(error)` appends one notification.  A
handler returns the manager after the call and how the call ended: at one of
its logged early returns, or after the fan-out loop.

The spec lemmas at the end give each handler's result by the branch it
takes; the later modules use them and never unfold the handlers.
-/

namespace EverestFramework.Error.ManagerReqGlobal

open EverestFramework.Error.Database

/-- Which callback of a subscription is invoked. -/
inductive NotificationKind where
  | raise
  | clear
deriving DecidableEq, Repr

/-- One callback invocation: `callback(error)` or `clear_callback(error)`. -/
structure Notification where
  kind : NotificationKind
  error : Error
deriving DecidableEq, Repr

/-- A subscription, modelled by the invocations of its callbacks so far. -/
structure Subscription where
  received : List Notification
deriving DecidableEq, Repr

namespace Subscription

/-- `sub.callback(error)`. -/
def callback (subscription : Subscription) (error : Error) : Subscription :=
  ⟨subscription.received ++ [⟨.raise, error⟩]⟩

/-- `sub.clear_callback(error)`. -/
def clearCallback (subscription : Subscription) (error : Error) : Subscription :=
  ⟨subscription.received ++ [⟨.clear, error⟩]⟩

/-- Hand a list of notifications to a subscription, in order. -/
def deliver (notifications : List Notification) (subscription : Subscription) : Subscription :=
  ⟨subscription.received ++ notifications⟩

@[simp]
theorem deliver_nil : Subscription.deliver [] = id := by
  funext subscription
  simp [deliver]

@[simp]
theorem deliver_deliver (first second : List Notification) (subscription : Subscription) :
    (subscription.deliver first).deliver second = subscription.deliver (first ++ second) := by
  simp [deliver]

end Subscription

/-- The state of the manager: its constant type map, its database and its subscriptions. -/
structure ErrorManagerReqGlobal where
  errorTypeMap : ErrorTypeMap
  database : ErrorDatabase
  subscriptions : List Subscription
deriving DecidableEq, Repr

/-- The early returns of the two handlers; each logs one error line. -/
inductive EarlyReturn where
  | typeNotDefined
  | alreadyRaised
  | notAdded
  | notRaised
  | moreThanOneCleared
  | notRemoved
deriving DecidableEq, Repr

/-- The log line `<headline>, type: <type>, sub type: <sub type>`. -/
def typeAndSubTypeLog (headline : String) (error : Error) : String :=
  headline ++ ", type: " ++ error.type ++ ", sub type: " ++ error.subType

/-- The log line `Error of type '<type>' and sub type '<sub type>' <tail>`. -/
def errorOfTypeLog (error : Error) (tail : String) : String :=
  "Error of type \x27" ++ error.type ++ "\x27 and sub type \x27" ++ error.subType ++ "\x27 " ++
    tail

/-- The `EVLOG_error` line written at an early return. -/
def EarlyReturn.log (error : Error) : EarlyReturn → String
  | .typeNotDefined => "Error type \x27" ++ error.type ++ "\x27 is not defined, ignoring error"
  | .alreadyRaised => errorOfTypeLog error "is already raised, ignoring new error"
  | .notAdded => typeAndSubTypeLog "Error wasn\x27t added" error
  | .notRaised => errorOfTypeLog error "is not raised, ignoring clear error"
  | .moreThanOneCleared => typeAndSubTypeLog "More than one error is cleared" error
  | .notRemoved => typeAndSubTypeLog "Error wasn\x27t removed" error

/-- How a handler call ended. -/
inductive HandlerExit where
  | returned (early : EarlyReturn)
  | fannedOut (notification : Notification)
deriving DecidableEq, Repr

/-- The notification a handler call fanned out, if it reached the fan-out loop. -/
def HandlerExit.fanout : HandlerExit → List Notification
  | .returned _ => []
  | .fannedOut notification => [notification]

namespace ErrorManagerReqGlobal

/-- The manager right after construction, over an empty database. -/
def init (errorTypeMap : ErrorTypeMap) : ErrorManagerReqGlobal :=
  ⟨errorTypeMap, .empty, []⟩

/-- `subscribe_global_all_errors`: append a subscription. -/
def subscribeGlobalAllErrors (manager : ErrorManagerReqGlobal) : ErrorManagerReqGlobal :=
  { manager with subscriptions := manager.subscriptions ++ [⟨[]⟩] }

/-- `on_error_raised`. -/
def onErrorRaised (manager : ErrorManagerReqGlobal) (error : Error) :
    ErrorManagerReqGlobal × HandlerExit :=
  if !manager.errorTypeMap.has error.type then
    (manager, .returned .typeNotDefined)
  else if !(manager.database.getErrors (identityFilters error)).isEmpty then
    (manager, .returned .alreadyRaised)
  else
    let database := manager.database.addError error
    if (database.getErrors (identityFilters error)).length ≠ 1 then
      ({ manager with database }, .returned .notAdded)
    else
      ({ manager with
          database
          subscriptions := manager.subscriptions.map fun sub => sub.callback error },
        .fannedOut ⟨.raise, error⟩)

/-- `on_error_cleared`. -/
def onErrorCleared (manager : ErrorManagerReqGlobal) (error : Error) :
    ErrorManagerReqGlobal × HandlerExit :=
  if !manager.errorTypeMap.has error.type then
    (manager, .returned .typeNotDefined)
  else if (manager.database.getErrors (identityFilters error)).isEmpty then
    (manager, .returned .notRaised)
  else
    let (database, res) := manager.database.removeErrors (identityFilters error)
    if res.length > 1 then
      ({ manager with database }, .returned .moreThanOneCleared)
    else if res.isEmpty then
      ({ manager with database }, .returned .notRemoved)
    else
      ({ manager with
          database
          subscriptions := manager.subscriptions.map fun sub => sub.clearCallback error },
        .fannedOut ⟨.clear, error⟩)

/-! ## Spec lemmas, one per branch -/

variable (manager : ErrorManagerReqGlobal) (error : Error)

theorem onErrorRaised_of_not_has (undeclared : manager.errorTypeMap.has error.type = false) :
    manager.onErrorRaised error = (manager, .returned .typeNotDefined) := by
  simp [onErrorRaised, undeclared]

theorem onErrorRaised_of_mem (declared : manager.errorTypeMap.has error.type = true)
    (active : error.identity ∈ manager.database.identities) :
    manager.onErrorRaised error = (manager, .returned .alreadyRaised) := by
  have stored : manager.database.ofIdentity error.identity ≠ [] :=
    mt (ErrorDatabase.ofIdentity_eq_nil_iff _ _).1 (not_not.2 active)
  simp [onErrorRaised, declared, stored]

/--
A raise of a declared type whose identity is not active is stored and fanned
out: after the append the identity filters find exactly the new error, so
the `Error wasn't added` return is never taken.
-/
theorem onErrorRaised_of_not_mem (declared : manager.errorTypeMap.has error.type = true)
    (inactive : error.identity ∉ manager.database.identities) :
    manager.onErrorRaised error =
      ({ manager with
          database := manager.database.addError error
          subscriptions := manager.subscriptions.map fun sub => sub.callback error },
        .fannedOut ⟨.raise, error⟩) := by
  have fresh := (ErrorDatabase.ofIdentity_eq_nil_iff _ _).2 inactive
  simp [onErrorRaised, declared, fresh]

theorem onErrorCleared_of_not_has (undeclared : manager.errorTypeMap.has error.type = false) :
    manager.onErrorCleared error = (manager, .returned .typeNotDefined) := by
  simp [onErrorCleared, undeclared]

theorem onErrorCleared_of_not_mem (declared : manager.errorTypeMap.has error.type = true)
    (inactive : error.identity ∉ manager.database.identities) :
    manager.onErrorCleared error = (manager, .returned .notRaised) := by
  have fresh := (ErrorDatabase.ofIdentity_eq_nil_iff _ _).2 inactive
  simp [onErrorCleared, declared, fresh]

/-- A clear that finds exactly one stored error of its identity removes it and fans out. -/
theorem onErrorCleared_of_ofIdentity_eq_singleton
    (declared : manager.errorTypeMap.has error.type = true) {stored : Error}
    (single : manager.database.ofIdentity error.identity = [stored]) :
    manager.onErrorCleared error =
      ({ manager with
          database := manager.database.eraseIdentity error.identity
          subscriptions := manager.subscriptions.map fun sub => sub.clearCallback error },
        .fannedOut ⟨.clear, error⟩) := by
  simp [onErrorCleared, declared, single]

/-- A clear that finds several stored errors of its identity removes them all silently. -/
theorem onErrorCleared_of_one_lt_length
    (declared : manager.errorTypeMap.has error.type = true)
    (several : 1 < (manager.database.ofIdentity error.identity).length) :
    manager.onErrorCleared error =
      ({ manager with database := manager.database.eraseIdentity error.identity },
        .returned .moreThanOneCleared) := by
  have stored : manager.database.ofIdentity error.identity ≠ [] := by
    rintro empty
    simp [empty] at several
  simp [onErrorCleared, declared, stored, several]

/-- Every subscription receives exactly what the raise handler fanned out. -/
theorem onErrorRaised_subscriptions :
    (manager.onErrorRaised error).1.subscriptions =
      manager.subscriptions.map (Subscription.deliver (manager.onErrorRaised error).2.fanout) := by
  -- the property holds in each branch of the handler
  show (fun result : ErrorManagerReqGlobal × HandlerExit =>
    result.1.subscriptions = manager.subscriptions.map (Subscription.deliver result.2.fanout))
      (manager.onErrorRaised error)
  unfold onErrorRaised
  simp only [apply_ite (fun result : ErrorManagerReqGlobal × HandlerExit =>
    result.1.subscriptions = manager.subscriptions.map (Subscription.deliver result.2.fanout))]
  simp [HandlerExit.fanout, Subscription.callback, Subscription.deliver]

/-- Every subscription receives exactly what the clear handler fanned out. -/
theorem onErrorCleared_subscriptions :
    (manager.onErrorCleared error).1.subscriptions =
      manager.subscriptions.map (Subscription.deliver (manager.onErrorCleared error).2.fanout) := by
  show (fun result : ErrorManagerReqGlobal × HandlerExit =>
    result.1.subscriptions = manager.subscriptions.map (Subscription.deliver result.2.fanout))
      (manager.onErrorCleared error)
  unfold onErrorCleared
  simp only [apply_ite (fun result : ErrorManagerReqGlobal × HandlerExit =>
    result.1.subscriptions = manager.subscriptions.map (Subscription.deliver result.2.fanout))]
  simp [HandlerExit.fanout, Subscription.clearCallback, Subscription.deliver]

@[simp]
theorem onErrorRaised_errorTypeMap :
    (manager.onErrorRaised error).1.errorTypeMap = manager.errorTypeMap := by
  unfold onErrorRaised
  simp only [apply_ite (fun result : ErrorManagerReqGlobal × HandlerExit => result.1.errorTypeMap),
    ite_self]

@[simp]
theorem onErrorCleared_errorTypeMap :
    (manager.onErrorCleared error).1.errorTypeMap = manager.errorTypeMap := by
  unfold onErrorCleared
  simp only [apply_ite (fun result : ErrorManagerReqGlobal × HandlerExit => result.1.errorTypeMap),
    ite_self]

@[simp]
theorem subscribeGlobalAllErrors_database :
    manager.subscribeGlobalAllErrors.database = manager.database := rfl

@[simp]
theorem subscribeGlobalAllErrors_errorTypeMap :
    manager.subscribeGlobalAllErrors.errorTypeMap = manager.errorTypeMap := rfl

@[simp]
theorem subscribeGlobalAllErrors_subscriptions :
    manager.subscribeGlobalAllErrors.subscriptions = manager.subscriptions ++ [⟨[]⟩] := rfl

end ErrorManagerReqGlobal

end EverestFramework.Error.ManagerReqGlobal
