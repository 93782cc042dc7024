import PushGateway.Metrics
import PushGateway.Pipeline.Linearization

/-!
# Pushes beside other requests

A wake is authorised in one step and pushed in a later one, and any other request may come between
the two.  Whatever is pushed was on the list of the last provision before its own authorisation,
and what becomes of it is counted once.
-/

namespace PushGateway

open Execution

variable {Guard DocumentDigest : Type}

/-! ## A push -/

/-- A push for a wake, in the step in which its outcome is known or never will be. -/
structure Push where
  delivery : Delivery
  trigger : String
  request : WakeRequest
  registration : PushRegistration
  /-- The request is dropped while the send is pending. -/
  dropped : Bool

namespace Push

/-- `outcome`: a send which takes too long has failed for now, and what becomes of one which is
dropped nobody knows. -/
def outcome (push : Push) : Option SendOutcome :=
  if push.dropped then none
  else some ((push.delivery.outside.send push.registration push.request.payload).getD
    .transientFailure)

def sent (push : Push) : Sent := ⟨push.registration, push.request.payload⟩

/-- The push service says that the token of the handle is gone. -/
def Retires (push : Push) (handle : String) : Prop :=
  push.outcome = some .permanentlyUnregistered ∧ push.request.handle = handle

end Push

/-- The counter of an outcome. -/
def Metrics.count (metrics : Metrics) : SendOutcome → Nat
  | .delivered => metrics.wakeDelivered
  | .transientFailure => metrics.wakeTransientFailure
  | .permanentlyUnregistered => metrics.wakeTokenUnregistered

/-- The push which a request has begun when it takes its next step, or is dropped. -/
def Stage.push (delivery : Delivery) (dropped : Bool) : Stage DocumentDigest → Option Push
  | .admitted _ (.wake trigger request registration) =>
      some ⟨delivery, trigger, request, registration, dropped⟩
  | .received | .checked _ _ _ _ | .admitting _ _ | .admitted _ (.provision _ _ _)
  | .closing _ _ _ _ | .ended _ => none

/-- The stage in which a request makes its push. -/
theorem Stage.push_eq_some {delivery : Delivery} {dropped : Bool} {stage : Stage DocumentDigest}
    {push : Push} (pushed : stage.push delivery dropped = some push) :
    ∃ once, stage = .admitted once (.wake push.trigger push.request push.registration) ∧
      delivery = push.delivery ∧ dropped = push.dropped := by
  cases stage with
  | admitted once effect =>
      cases effect with
      | provision => cases pushed
      | wake trigger request registration =>
          cases pushed
          exact ⟨once, rfl, rfl, rfl⟩
  | received => cases pushed
  | checked => cases pushed
  | admitting => cases pushed
  | closing => cases pushed
  | ended => cases pushed

/-- The push which a step of the server makes, or cuts off. -/
def Server.push (server : Server Guard DocumentDigest) : ServerAction → Option Push
  | .advance index => server.requests[index]?.bind fun request => request.2.push request.1 false
  | .drop index => server.requests[index]?.bind fun request => request.2.push request.1 true
  | .receive _ | .sweep _ _ => none

/-- A step which makes a push is the next one of its request, or drops it. -/
theorem Server.push_eq_some {server : Server Guard DocumentDigest} {action : ServerAction}
    {push : Push} (pushed : server.push action = some push) :
    ∃ index once, action = (if push.dropped then .drop index else .advance index) ∧
      server.requests[index]? = some
        (push.delivery, .admitted once (.wake push.trigger push.request push.registration)) := by
  cases action with
  | receive => cases pushed
  | sweep => cases pushed
  | advance index =>
      obtain ⟨⟨delivery, stage⟩, found, own⟩ := Option.bind_eq_some_iff.mp pushed
      obtain ⟨once, rfl, rfl, kept⟩ := Stage.push_eq_some own
      exact ⟨index, once, by rw [← kept]; rfl, found⟩
  | drop index =>
      obtain ⟨⟨delivery, stage⟩, found, own⟩ := Option.bind_eq_some_iff.mp pushed
      obtain ⟨once, rfl, rfl, cut⟩ := Stage.push_eq_some own
      exact ⟨index, once, by rw [← cut]; rfl, found⟩

/-! ## What a step counts -/

/-- A step which makes these pushes, and counts the outcomes which are known; no counter goes
back. -/
structure AppState.Counts (pushes : List Push) (state after : AppState Guard) : Prop where
  sends : after.sends = state.sends ++ pushes.map Push.sent
  counted : ∀ outcome, after.metrics.count outcome =
    state.metrics.count outcome + pushes.countP fun push => decide (push.outcome = some outcome)
  grows : ∀ counter, state.metrics.load counter ≤ after.metrics.load counter

namespace AppState.Counts

variable {state after : AppState Guard}

theorem of_same (sends : after.sends = state.sends)
    (counted : after.metrics.count = state.metrics.count)
    (grows : ∀ counter, state.metrics.load counter ≤ after.metrics.load counter) :
    state.Counts [] after where
  sends := by rw [sends, List.map_nil, List.append_nil]
  counted outcome := by rw [counted, List.countP_nil, Nat.add_zero]
  grows := grows

theorem of_still (sends : after.sends = state.sends) (metrics : after.metrics = state.metrics) :
    state.Counts [] after :=
  of_same sends (by rw [metrics]) fun counter => by rw [metrics]

theorem refl (state : AppState Guard) : state.Counts [] state := of_still rfl rfl

theorem append {middle : AppState Guard} {pushes more : List Push}
    (first : state.Counts pushes middle) (second : middle.Counts more after) :
    state.Counts (pushes ++ more) after where
  sends := by rw [second.sends, first.sends, List.map_append, List.append_assoc]
  counted outcome := by
    rw [second.counted, first.counted, List.countP_append, Nat.add_assoc]
  grows counter := Nat.le_trans (first.grows counter) (second.grows counter)

end AppState.Counts

section Step

variable (crates : Crates DocumentDigest) (delivery : Delivery)

theorem handleRegister_counts (state : AppState Guard) :
    state.Counts [] (handleRegister crates delivery.outside state delivery.doc).2 := by
  simp only [handleRegister]
  split
  · exact .refl state
  · split
    · exact .refl state
    · split
      · exact .refl state
      · split
        · exact .refl state
        · split
          · exact .of_still rfl rfl
          · exact .of_same rfl (funext fun outcome => by cases outcome <;> rfl)
              (state.metrics.load_le_bump .registers)

theorem provisionRefused_counts (state : AppState Guard) (outcome : ProvisionOutcome) :
    state.Counts [] (provisionRefused delivery.outside state delivery.doc outcome).2 := by
  cases outcome with
  | ok => exact .refl state
  | unknownHandle =>
      exact .of_same rfl (funext fun counted => by cases counted <;> rfl)
        (state.metrics.load_le_bump .provisionUnknownHandle)
  | notController =>
      exact .of_same rfl (funext fun counted => by cases counted <;> rfl)
        (state.metrics.load_le_bump .provisionNotController)

theorem Delivery.checkProvision_counts (state : AppState Guard) (caller : String)
    (once : DocumentOnce DocumentDigest) :
    state.Counts [] (delivery.checkProvision crates state caller once).1 := by
  simp only [checkProvision]
  split
  · exact .refl state
  · split
    · exact .refl state
    · split
      · exact .of_same rfl (funext fun outcome => by cases outcome <;> rfl)
          (state.metrics.load_le_bump .provisionNotController)
      · split
        · exact .refl state
        · exact provisionRefused_counts delivery state _

theorem Delivery.authoriseWake_counts (state : AppState Guard) (trigger : String)
    (once : DocumentOnce DocumentDigest) :
    state.Counts [] (delivery.authoriseWake state trigger once).1 := by
  simp only [authoriseWake]
  split
  · exact .refl state
  · split
    · exact .refl state
    · split
      · exact .of_same rfl (funext fun outcome => by cases outcome <;> rfl)
          (state.metrics.load_le_bump .wakeUnknownHandle)
      · exact .of_same rfl (funext fun outcome => by cases outcome <;> rfl)
          (state.metrics.load_le_bump .wakeNotAllowed)
      · split
        · exact .refl state
        · exact .refl state

variable [ReplayGuard Guard String DocumentDigest Answer]

theorem dispatchPushOnce_counts (state : AppState Guard) :
    state.Counts []
      (dispatchPushOnce crates delivery.outside none state none delivery.doc).2 := by
  simp only [dispatchPushOnce, Option.any_none, Bool.false_eq_true, if_false, handleProvision,
    handleWake]
  split
  · split
    · exact .refl state
    · exact handleRegister_counts crates delivery state
  · split
    · exact .refl state
    · split
      · exact .refl state
      · exact .refl state

theorem Delivery.start_counts (state : AppState Guard) :
    state.Counts [] (delivery.start crates state : _ × Stage DocumentDigest).1 := by
  simp only [start]
  split
  · exact .refl state
  · split
    · split
      · exact .refl state
      · simp only [dispatch]
        split
        · split
          · exact .refl state
          · exact handleRegister_counts crates delivery state
        · split
          · split
            · exact .refl state
            · exact delivery.checkProvision_counts crates state _ _
          · split
            · split
              · exact .refl state
              · exact delivery.authoriseWake_counts state _ _
            · exact .refl state
    · exact dispatchPushOnce_counts crates delivery state

/-- A step counts the outcome of the push it makes, and of no other. -/
theorem Stage.advance_counts (state : AppState Guard) (stage : Stage DocumentDigest) :
    state.Counts (stage.push delivery false).toList (stage.advance crates delivery state).1 := by
  cases stage with
  | received => exact delivery.start_counts crates state
  | checked once caller handle policy =>
      rw [advance]
      split
      · exact .of_same rfl (funext fun outcome => by cases outcome <;> rfl)
          (state.metrics.load_le_bump .provisionOk)
      · exact .refl state
  | admitting once effect =>
      rw [advance]
      split
      · exact .of_still rfl rfl
      · exact .of_still rfl rfl
      · exact .of_still rfl rfl
  | admitted once effect =>
      cases effect with
      | provision caller handle policy =>
          rw [advance]
          split
          · exact .of_same rfl (funext fun outcome => by cases outcome <;> rfl)
              (state.metrics.load_le_bump .provisionOk)
          · exact .of_still rfl rfl
      | wake trigger request registration =>
          rw [advance, Delivery.send]
          split
          · rename_i comes
            refine ⟨rfl, fun outcome => ?_, state.metrics.load_le_bump .wakeDelivered⟩
            simp only [push, Option.toList_some, List.countP_singleton, Push.outcome, comes]
            cases outcome <;> rfl
          · rename_i comes
            refine ⟨rfl, fun outcome => ?_, state.metrics.load_le_bump .wakeTransientFailure⟩
            simp only [push, Option.toList_some, List.countP_singleton, Push.outcome, comes]
            cases outcome <;> rfl
          · rename_i comes
            refine ⟨rfl, fun outcome => ?_, state.metrics.load_le_bump .wakeTokenUnregistered⟩
            simp only [push, Option.toList_some, List.countP_singleton, Push.outcome, comes]
            cases outcome <;> rfl
  | closing once effect response finish =>
      cases finish with
      | respond answer => exact .of_still rfl rfl
      | refuse outcome =>
          have closed : state.Counts []
              (complete (some once) state effect.issuer effect.handle response) := .of_still rfl rfl
          exact closed.append (provisionRefused_counts delivery _ outcome)
  | ended ending => exact .refl state

end Step

variable [ReplayGuard Guard String DocumentDigest Answer] {crates : Crates DocumentDigest}

namespace Server

variable {server after start : Server Guard DocumentDigest} {action : ServerAction}
  {actions : List ServerAction}

variable (crates) in
theorem step_counts (server : Server Guard DocumentDigest) (action : ServerAction) :
    server.app.Counts (server.push action).toList (server.step crates action).app := by
  cases action with
  | receive delivery => exact .refl server.app
  | advance index =>
      rw [step, push]
      cases server.requests[index]? with
      | none => exact .refl server.app
      | some request => exact request.2.advance_counts crates request.1 server.app
  | drop index =>
      rw [step, push]
      cases server.requests[index]? with
      | none => exact .refl server.app
      | some request =>
          obtain ⟨delivery, stage⟩ := request
          cases stage with
          | received => exact .refl server.app
          | checked => exact .refl server.app
          | admitting => exact .of_still rfl rfl
          | admitted once effect =>
              cases effect with
              | provision => exact .refl server.app
              | wake =>
                  -- The push is begun, and no counter moves.
                  exact ⟨rfl, fun _ => rfl, fun _ => Nat.le_refl _⟩
          | closing => exact .of_still rfl rfl
          | ended => exact .refl server.app
  | sweep ttlSecs now => exact .of_still rfl rfl

variable (crates) in
/-- The pushes of a run have been counted, each once and by its outcome, if that is known. -/
theorem counts_run (start : Server Guard DocumentDigest) (actions : List ServerAction) :
    start.app.Counts (events push (step crates) start actions)
      (run (step crates) start actions).app := by
  have counting : ∀ pushes (server : Server Guard DocumentDigest) action,
      start.app.Counts pushes server.app → True →
      start.app.Counts (pushes ++ (server.push action).toList) (server.step crates action).app :=
    fun _ server action counted _ => counted.append (server.step_counts crates action)
  exact invariant_events counting (.refl start.app) (along_of_forall_mem start fun _ _ => trivial)

end Server

/-! ## What a step does to the record of a handle -/

namespace Stage

variable {state after : AppState Guard} {delivery : Delivery} {stage next : Stage DocumentDigest}
  {handle : String} {record : HandleRecord}

/-- The call by which the step of a request may change the store. -/
inductive Calls (delivery : Delivery) : Stage DocumentDigest → StoreCall → Prop where
  | registers (registration : PushRegistration) (controllerVtaDid : String)
      (named : delivery.doc.typeUri.names "push/register") :
      Calls delivery .received (.insertAt delivery.outside.newHandle registration controllerVtaDid
        delivery.outside.nowSecs)
  | provisions (once : DocumentOnce DocumentDigest) (caller handle : String)
      (policy : WakeTriggerPolicy) :
      Calls delivery (.admitted once (.provision caller handle policy))
        (.provision handle caller policy)
  | removes (once : DocumentOnce DocumentDigest) (trigger : String) (request : WakeRequest)
      (registration : PushRegistration) :
      Calls delivery (.admitted once (.wake trigger request registration))
        (.remove request.handle)

/-- A step leaves the store alone, or makes one call on it. -/
theorem Advanced.store (advanced : stage.Advanced crates delivery state after next) :
    after.store = state.store ∨
      ∃ call, stage.Calls delivery call ∧ after.store = (state.store.perform crates call).2 := by
  cases advanced with
  | refused => exact .inl rfl
  | registered request payload metrics named => exact .inr ⟨_, .registers _ _ named, rfl⟩
  | checked => exact .inl rfl
  | authorised => exact .inl rfl
  | repeated => exact .inl rfl
  | differing => exact .inl rfl
  | held => exact .inl rfl
  | admitted => exact .inl rfl
  | provisioned once caller handle policy =>
      exact .inr ⟨_, .provisions once caller handle policy, rfl⟩
  | unprovisioned => exact .inl rfl
  | pushed once trigger request registration store metrics response answer removed =>
      obtain rfl | rfl := removed
      · exact .inl rfl
      · exact .inr ⟨_, .removes once trigger request registration, rfl⟩
  | closed => exact .inl rfl
  | idle => exact .inl rfl

/-- A handle which is live after a step has just been drawn, or has kept its registration. -/
theorem Advanced.registration (advanced : stage.Advanced crates delivery state after next)
    (found : after.store.state.handles.lookup handle = some record) :
    handle ∈ stage.draws delivery ∨ ∃ before,
      state.store.state.handles.lookup handle = some before ∧
        record.registration = before.registration := by
  obtain same | ⟨call, calls, changed⟩ := advanced.store
  · exact .inr ⟨record, same ▸ found, rfl⟩
  · rw [changed, Store.lookup_perform] at found
    cases calls with
    | registers registration controllerVtaDid named =>
        rw [StoreCall.rewrite] at found
        split at found
        · rename_i drawn
          exact .inl (by rw [draws, if_pos named, drawn.2]; exact List.mem_singleton_self _)
        · exact .inr ⟨record, found, rfl⟩
    | provisions once caller other policy =>
        rw [StoreCall.rewrite] at found
        split at found
        · obtain ⟨before, present, rfl⟩ := Option.map_eq_some_iff.mp found
          refine .inr ⟨before, present, ?_⟩
          split
          · rfl
          · rfl
        · exact .inr ⟨record, found, rfl⟩
    | removes once trigger request registration =>
        rw [StoreCall.rewrite] at found
        split at found
        · cases found
        · exact .inr ⟨record, found, rfl⟩

/-- Only a push which finds the token gone takes a handle away. -/
theorem advance_retires
    (live : state.store.state.handles.lookup handle = some record)
    (gone : (stage.advance crates delivery state).1.store.state.handles.lookup handle = none) :
    ∃ push, stage.push delivery false = some push ∧ push.Retires handle := by
  obtain same | ⟨call, calls, changed⟩ := (stage.advance_advanced delivery state).store
  · rw [same, live] at gone
    cases gone
  · have rewritten := gone
    rw [changed, Store.lookup_perform, live] at rewritten
    cases calls with
    | registers registration controllerVtaDid named =>
        rw [StoreCall.rewrite] at rewritten
        split at rewritten
        · cases rewritten
        · cases rewritten
    | provisions once caller other policy =>
        rw [StoreCall.rewrite] at rewritten
        split at rewritten
        · cases rewritten
        · cases rewritten
    | removes once trigger request registration =>
        rw [StoreCall.rewrite] at rewritten
        split at rewritten
        · rename_i own
          refine ⟨_, rfl, ?_, own.symm⟩
          rw [advance, Delivery.send] at gone
          split at gone
          · cases live.symm.trans gone
          · cases live.symm.trans gone
          · rename_i comes
            exact congrArg some comes
        · cases rewritten

/-- A request which may push was authorised before, or has just been. -/
theorem Advanced.authorises (advanced : stage.Advanced crates delivery state after next)
    {once : DocumentOnce DocumentDigest} {trigger : String} {request : WakeRequest}
    {registration : PushRegistration}
    (authorised : next.effect = some (once, .wake trigger request registration)) :
    stage.effect = some (once, .wake trigger request registration) ∨
      stage = .received ∧ after = state ∧
        Accepted crates delivery.outside state delivery.transportSender delivery.body delivery.doc
          trigger once ∧
        Waking state delivery.doc trigger request registration := by
  cases advanced with
  | authorised own ownTrigger ownRequest ownRegistration accepted waking =>
      cases authorised
      exact .inr ⟨rfl, rfl, accepted, waking⟩
  | admitted => exact .inl authorised
  | pushed => exact .inl authorised
  | refused => cases authorised
  | registered => cases authorised
  | checked => cases authorised
  | repeated => cases authorised
  | differing => cases authorised
  | held => cases authorised
  | provisioned => cases authorised
  | unprovisioned => cases authorised
  | closed => cases authorised
  | idle => cases authorised

/-- A drop authorises nothing. -/
theorem Dropped.authorised (dropped : stage.Dropped state after next)
    {once : DocumentOnce DocumentDigest} {effect : Effect}
    (authorised : next.effect = some (once, effect)) :
    stage.effect = some (once, effect) := by
  cases dropped with
  | unmoved => exact authorised
  | unheard => cases authorised
  | opened => cases authorised
  | abandoned => cases authorised

end Stage

/-! ## Whose device is rung -/

namespace Server

variable {server after start : Server Guard DocumentDigest} {action : ServerAction}
  {actions : List ServerAction}

/-- A live handle has just been drawn, or keeps its registration. -/
theorem Stepped.registration (stepped : server.Stepped crates action after)
    (anew : server.DrawsAnew action) {handle : String} {record : HandleRecord}
    (found : after.app.store.state.handles.lookup handle = some record) :
    handle ∉ server.drawn ∨ ∃ before, server.app.store.state.handles.lookup handle = some before ∧
      record.registration = before.registration := by
  cases stepped with
  | received => exact .inr ⟨record, found, rfl⟩
  | advanced index delivery stage app next present advanced =>
      exact (advanced.registration found).imp_left (anew _ present handle)
  | dropped index delivery stage app next present dropped =>
      exact .inr ⟨record, dropped.store ▸ found, rfl⟩
  | absent => exact .inr ⟨record, found, rfl⟩
  | swept ttlSecs now =>
      have rewritten := Store.lookup_perform crates server.app.store
        (.sweepUnprovisioned ttlSecs now) handle
      rw [StoreCall.rewrite] at rewritten
      obtain ⟨kept, _⟩ := Option.filter_eq_some_iff.mp (rewritten.symm.trans found)
      exact .inr ⟨record, kept, rfl⟩

/-- The handle has been drawn, and while it is live it has this registration. -/
def Registers (server : Server Guard DocumentDigest) (handle : String)
    (registration : PushRegistration) : Prop :=
  handle ∈ server.drawn ∧
    ∀ record, server.app.store.state.handles.lookup handle = some record →
      record.registration = registration

theorem Registers.stepped {handle : String} {registration : PushRegistration}
    (registers : server.Registers handle registration) (anew : server.DrawsAnew action)
    (stepped : server.Stepped crates action after) : after.Registers handle registration := by
  refine ⟨stepped.drawn registers.1, fun record found => ?_⟩
  obtain new | ⟨before, found', same⟩ := stepped.registration anew found
  · exact absurd registers.1 new
  · exact same.trans (registers.2 before found')

theorem registers_run {handle : String} {registration : PushRegistration}
    (registers : start.Registers handle registration)
    (anew : Along (step crates) DrawsAnew start actions) :
    (run (step crates) start actions).Registers handle registration :=
  invariant (fun (server : Server Guard DocumentDigest) action
      (registers : server.Registers handle registration) anew =>
    registers.stepped anew (server.step_stepped crates action)) registers anew

/-! ## Where a wake was authorised -/

/-- The next step of a request authorises the wake of its document. -/
structure Authorises (crates : Crates DocumentDigest) (server : Server Guard DocumentDigest)
    (index : Nat) (delivery : Delivery) (once : DocumentOnce DocumentDigest) (trigger : String)
    (request : WakeRequest) (registration : PushRegistration) : Prop where
  arrived : server.requests[index]? = some (delivery, .received)
  accepted : Accepted crates delivery.outside server.app delivery.transportSender delivery.body
    delivery.doc trigger once
  waking : Waking server.app delivery.doc trigger request registration

variable {index : Nat} {delivery : Delivery} {stage : Stage DocumentDigest}
  {once : DocumentOnce DocumentDigest} {trigger : String} {request : WakeRequest}
  {registration : PushRegistration}

/-- A request which may push has been authorised in a step of its own. -/
theorem exists_authorises (empty : start.requests = [])
    (found : (run (step crates) start actions).requests[index]? = some (delivery, stage))
    (authorised : stage.effect = some (once, .wake trigger request registration)) :
    ∃ front back, actions = front ++ .advance index :: back ∧
      (run (step crates) start front).Authorises crates index delivery once trigger request
        registration := by
  have before : ¬∃ stage, start.requests[index]? = some (delivery, stage) ∧
      stage.effect = some (once, .wake trigger request registration) := by
    rintro ⟨stage, present, _⟩
    rw [empty] at present
    cases present
  obtain ⟨front, action, back, rfl, notYet, next, found, authorised⟩ :=
    exists_turning_point (fun server : Server Guard DocumentDigest =>
      ∃ stage, server.requests[index]? = some (delivery, stage) ∧
        stage.effect = some (once, .wake trigger request registration))
      before ⟨stage, found, authorised⟩
  rw [run_concat] at found
  have stepped := (run (step crates) start front).step_stepped crates action
  refine ⟨front, back, ?_⟩
  cases present : (run (step crates) start front).requests[index]? with
  | none =>
      cases stepped.arrived present found
      cases authorised
  | some own =>
      obtain ⟨ownDelivery, ownStage⟩ := own
      obtain ⟨next', found', change⟩ := stepped.request present
      cases found.symm.trans found'
      have unready : ownStage.effect ≠ some (once, .wake trigger request registration) :=
        fun ready => notYet ⟨ownStage, present, ready⟩
      obtain ⟨rfl, _⟩ | ⟨rfl, advanced⟩ | ⟨_, dropped⟩ := change
      · exact absurd authorised unready
      · obtain earlier | ⟨rfl, _, accepted, waking⟩ := advanced.authorises authorised
        · exact absurd earlier unready
        · exact ⟨rfl, present, accepted, waking⟩
      · exact absurd (dropped.authorised authorised) unready

/-- Every request has arrived. -/
theorem receive_of_mem_requests (empty : start.requests = []) {delivery : Delivery}
    {stage : Stage DocumentDigest}
    (member : (delivery, stage) ∈ (run (step crates) start actions).requests) :
    ServerAction.receive delivery ∈ actions := by
  have before : ¬∃ stage, (delivery, stage) ∈ start.requests := by
    rintro ⟨stage, present⟩
    rw [empty] at present
    cases present
  obtain ⟨front, action, back, rfl, notYet, next, found⟩ :=
    exists_turning_point (fun server : Server Guard DocumentDigest =>
      ∃ stage, (delivery, stage) ∈ server.requests) before ⟨stage, member⟩
  rw [run_concat] at found
  have stepped := (run (step crates) start front).step_stepped crates action
  generalize step crates (run (step crates) start front) action = after at found stepped
  cases stepped with
  | received arriving =>
      obtain old | new := List.mem_append.mp found
      · exact absurd ⟨next, old⟩ notYet
      · cases List.mem_singleton.mp new
        simp
  | advanced index own stage' app own' present =>
      obtain old | same := List.mem_or_eq_of_mem_set found
      · exact absurd ⟨next, old⟩ notYet
      · cases same
        exact absurd ⟨stage', List.mem_of_getElem? present⟩ notYet
  | dropped index own stage' app own' present =>
      obtain old | same := List.mem_or_eq_of_mem_set found
      · exact absurd ⟨next, old⟩ notYet
      · cases same
        exact absurd ⟨stage', List.mem_of_getElem? present⟩ notYet
  | absent => exact absurd ⟨next, found⟩ notYet
  | swept => exact absurd ⟨next, found⟩ notYet

/-- A step which takes a live handle away is a sweep, or makes a push which finds its token
gone. -/
theorem retires_of_gone {server : Server Guard DocumentDigest} {action : ServerAction}
    {handle : String} {record : HandleRecord}
    (live : server.app.store.state.handles.lookup handle = some record)
    (gone : (server.step crates action).app.store.state.handles.lookup handle = none) :
    (∃ ttlSecs now, action = .sweep ttlSecs now) ∨
      ∃ push, server.push action = some push ∧ push.Retires handle := by
  cases action with
  | receive delivery => cases live.symm.trans gone
  | sweep ttlSecs now => exact .inl ⟨ttlSecs, now, rfl⟩
  | advance index =>
      rw [step] at gone
      cases found : server.requests[index]? with
      | none =>
          rw [found] at gone
          cases live.symm.trans gone
      | some request =>
          rw [found] at gone
          obtain ⟨push, pushed, retires⟩ := Stage.advance_retires live gone
          exact .inr ⟨push, Option.bind_eq_some_iff.mpr ⟨request, found, pushed⟩, retires⟩
  | drop index =>
      rw [step] at gone
      cases found : server.requests[index]? with
      | none =>
          rw [found] at gone
          cases live.symm.trans gone
      | some request =>
          rw [found] at gone
          have kept := (request.2.drop_dropped server.app).store
          cases live.symm.trans (kept ▸ gone)

/-- Whatever may be pushed was authorised in a step of its own request, by the list of the last
provision before that step, and rings the device for which its handle was registered. -/
theorem pushes_permitted [DecidableEq DocumentDigest] [LawfulReplayGuard Guard]
    (app : AppState Guard) (anew : Along (step crates) DrawsAnew (opened app) actions)
    (found : (run (step crates) (opened app) actions).requests[index]? = some (delivery, stage))
    (authorised : stage.effect = some (once, .wake trigger request registration)) :
    ∃ front back, actions = front ++ .advance index :: back ∧
      (run (step crates) (opened app) front).Authorises crates index delivery once trigger
        request registration ∧
      trigger ∈ (lastList request.handle
        (events (instant crates) (step crates) (opened app) front)).getD
          ((app.store.allowlist request.handle).getD []) ∧
      (run (step crates) (opened app) actions).Registers request.handle registration := by
  obtain ⟨front, back, rfl, authorises⟩ := exists_authorises rfl found authorised
  obtain ⟨anew_front, anew_back⟩ := (along_append _ front _).mp anew
  have tracked := opened_tracked crates app
  obtain ⟨record, live, same, listed⟩ :=
    (Store.authorizeWake_iff _ _ _ _).mp authorises.waking.allowed
  have registers : (run (step crates) (opened app) front).Registers request.handle
      registration := by
    refine ⟨(tracked_run tracked anew_front).live _ record live, fun other found' => ?_⟩
    cases live.symm.trans found'
    exact same
  refine ⟨front, back, rfl, authorises, ?_,
    run_append (opened app) front _ ▸ registers_run registers anew_back⟩
  have list := lists_run tracked anew_front
    (Option.map_eq_some_iff.mpr ⟨record, live, rfl⟩)
  exact list ▸ listed

private def pushedWake : Delivery :=
  ⟨smallSurroundings "did:web:trigger.example" 0 .delivered, none, smallBody, smallWake "wake"⟩

private def revokingProvision : Delivery :=
  ⟨smallSurroundings "did:web:vta.example" 0 .delivered, none, smallBody,
    smallProvision "revoke" ["did:web:other.example"]⟩

/-- The trigger is taken off the list between the authorisation of its wake and the push. -/
private def overtaken : List ServerAction :=
  [.receive pushedWake, .receive revokingProvision, .advance 0, .advance 1, .advance 1, .advance 1,
    .advance 1, .advance 0]

theorem pushes_permitted_overtaken :
    ∃ once request, ∃ front back, overtaken = front ++ .advance 0 :: back ∧
      (run (step plainCrates) (opened smallGateway) front).Authorises plainCrates 0 pushedWake once
        "did:web:trigger.example" request (.fcm "token") ∧
      "did:web:trigger.example" ∈ (lastList request.handle
        (events (instant plainCrates) (step plainCrates) (opened smallGateway) front)).getD
          ((smallGateway.store.allowlist request.handle).getD []) ∧
      (run (step plainCrates) (opened smallGateway) overtaken).Registers request.handle
        (.fcm "token") :=
  ⟨_, _, pushes_permitted smallGateway (by decide) rfl rfl⟩

/-! ## A trigger which is taken off the list -/

variable (crates) in
/-- No step lists the trigger for this handle. -/
def Withholds (handle trigger : String) (server : Server Guard DocumentDigest)
    (action : ServerAction) : Prop :=
  ∀ instant ∈ server.instant crates action, instant.handle = handle → trigger ∉ instant.triggers

/-- The handle has been drawn, and its list is without the trigger. -/
def Withheld (server : Server Guard DocumentDigest) (handle trigger : String) : Prop :=
  handle ∈ server.drawn ∧
    ∀ list, server.app.store.allowlist handle = some list → trigger ∉ list

theorem Withheld.stepped {handle : String} (withheld : server.Withheld handle trigger)
    (anew : server.DrawsAnew action) (withholds : server.Withholds crates handle trigger action)
    (stepped : server.Stepped crates action after) : after.Withheld handle trigger := by
  refine ⟨stepped.drawn withheld.1, fun list found => ?_⟩
  obtain ⟨record, present, rfl⟩ := Option.map_eq_some_iff.mp found
  obtain ⟨new, _⟩ | ⟨before, present', _, kept⟩ := stepped.lookup anew present
  · exact absurd withheld.1 new
  · rw [kept]
    cases taken : (server.instant crates action).bind (Instant.listFor handle) with
    | none => exact withheld.2 _ (Option.map_eq_some_iff.mpr ⟨before, present', rfl⟩)
    | some triggers =>
        obtain ⟨instant, happens, own⟩ := Option.bind_eq_some_iff.mp taken
        rw [Instant.listFor] at own
        split at own
        · rename_i same
          cases own
          exact withholds instant happens same
        · cases own

/-- The request is in no stage in which it may ring the handle for this trigger. -/
def Silent (server : Server Guard DocumentDigest) (index : Nat) (handle trigger : String) : Prop :=
  ∀ delivery stage once request registration,
    server.requests[index]? = some (delivery, stage) →
    stage.effect = some (once, .wake trigger request registration) → request.handle ≠ handle

/-- Once a provision has taken a trigger off the list of a handle, and none lists it again, no
request which arrives later rings the device for it, however the requests are interleaved. -/
theorem revoked_trigger_silent [DecidableEq DocumentDigest] [LawfulReplayGuard Guard]
    (app : AppState Guard) {front back : List ServerAction}
    (anew : Along (step crates) DrawsAnew (opened app) (front ++ [action] ++ back))
    {instant : Instant}
    (taken : (run (step crates) (opened app) front).instant crates action = some instant)
    (revoked : trigger ∉ instant.triggers)
    (withholds : Along (step crates) (Withholds crates instant.handle trigger)
      (run (step crates) (opened app) (front ++ [action])) back)
    (later : (run (step crates) (opened app) (front ++ [action])).requests.length ≤ index) :
    (run (step crates) (opened app) (front ++ [action] ++ back)).Silent index instant.handle
      trigger := by
  intro delivery stage once request registration found authorised same
  obtain ⟨anew_front, anew_back⟩ := (along_append _ _ back).mp anew
  have tracked := tracked_run (opened_tracked crates app) anew_front
  have stepped : (run (step crates) (opened app) front).Stepped crates action
      (run (step crates) (opened app) (front ++ [action])) := by
    rw [run_concat]
    exact step_stepped crates _ action
  obtain ⟨_, _, listed⟩ := stepped.taken taken
  obtain ⟨record, live, _⟩ := Option.map_eq_some_iff.mp listed
  have withheld : (run (step crates) (opened app) (front ++ [action])).Withheld instant.handle
      trigger := by
    refine ⟨tracked.live _ record live, fun list found' => ?_⟩
    cases listed.symm.trans found'
    exact revoked
  obtain ⟨before, rest, split, authorises⟩ := exists_authorises rfl found authorised
  obtain ⟨middle, rfl, rfl⟩ | ⟨middle, earlier, _⟩ := List.append_eq_append_iff.mp split
  · -- The authorising step comes after the provision, when the trigger is off the list.
    have still : (run (step crates) (opened app) (front ++ [action] ++ middle)).Withheld
        instant.handle trigger := by
      rw [run_append]
      exact invariant (fun (server : Server Guard DocumentDigest) action
          (withheld : server.Withheld instant.handle trigger) guarded =>
        withheld.stepped guarded.1 guarded.2 (server.step_stepped crates action)) withheld
        (along_and.mpr ⟨((along_append _ middle _).mp anew_back).1,
          ((along_append _ middle _).mp withholds).1⟩)
    obtain ⟨other, present, _, allows⟩ :=
      (Store.authorizeWake_iff _ _ _ _).mp authorises.waking.allowed
    refine still.2 _ (Option.map_eq_some_iff.mpr ⟨other, ?_, rfl⟩) allows
    exact same ▸ present
  · -- It comes before, so the request had arrived by then.
    obtain ⟨_, present, _⟩ := request_run crates (fun _ => True) (fun _ _ _ _ _ _ => trivial)
      (fun _ _ _ _ _ _ => trivial) authorises.arrived trivial middle
    rw [← run_append, ← earlier, List.getElem?_eq_none later] at present
    cases present

/-- A wake arrives after its trigger has been taken off the list. -/
theorem revoked_trigger_silent_late :
    (run (step plainCrates) (opened smallGateway)
      ([.receive revokingProvision, .advance 0, .advance 0, .advance 0] ++ [.advance 0] ++
        [.receive pushedWake, .advance 1])).Silent 1 "handle" "did:web:trigger.example" := by
  have anew : Along (step plainCrates) DrawsAnew (opened smallGateway)
      ([.receive revokingProvision, .advance 0, .advance 0, .advance 0] ++ [.advance 0] ++
        [.receive pushedWake, .advance 1]) := by
    decide
  have omitted : "did:web:trigger.example" ∉ ["did:web:other.example"] := by decide
  have withholds : Along (step plainCrates)
      (Withholds plainCrates "handle" "did:web:trigger.example")
      (run (step plainCrates) (opened smallGateway)
        ([.receive revokingProvision, .advance 0, .advance 0, .advance 0] ++ [.advance 0]))
      [.receive pushedWake, .advance 1] := by
    refine ⟨?_, ?_, trivial⟩
    · rintro instant ⟨⟩
    · rintro instant ⟨⟩
  exact revoked_trigger_silent smallGateway anew rfl omitted withholds (Nat.le_refl 1)

end Server

end PushGateway
