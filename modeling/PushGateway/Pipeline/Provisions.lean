import PushGateway.Pipeline.Authority
import PushGateway.Replay.InFlight
import PushGateway.Pipeline.Server
import PushGateway.Store.History

/-!
# Provisions beside other requests

Where in its stages a provision takes effect, what it is bound to answer from there on, and what
the step of any request does to the record of a handle.
-/

namespace PushGateway

variable {Guard DocumentDigest : Type} [ReplayGuard Guard String DocumentDigest Answer]
  {crates : Crates DocumentDigest}

/-! ## What a request was authorised for -/

/-- The document provisions the handle with this policy, for the caller whom it proves. -/
structure AsksProvision (delivery : Delivery) (caller handle : String)
    (policy : WakeTriggerPolicy) : Prop where
  named : delivery.doc.typeUri.names "push/provision"
  proven : delivery.outside.verifyIssuer delivery.body = .ok caller
  payload : ∃ request, Value.decodeProvisionRequest delivery.doc.payload = some request ∧
    request.handle = handle ∧ request.policy.validateAndNormalize = .ok policy

/-- The document asks for this effect. -/
def Effect.Asked (delivery : Delivery) : Effect → Prop
  | .provision caller handle policy => AsksProvision delivery caller handle policy
  | .wake _ _ _ => delivery.doc.typeUri.names "push/wake"

/-- The success document of a provision. -/
def Delivery.provisioned (delivery : Delivery) (handle : String) (triggers : List String) :
    Answer :=
  successValue delivery.outside delivery.doc (provisionPayload handle triggers)

/-- A provision past its write answers with success, or has been refused by the store. -/
inductive Finish.Follows (delivery : Delivery) : Effect → Option Answer → Finish → Prop where
  | applied (caller handle : String) (policy : WakeTriggerPolicy) :
      Follows delivery (.provision caller handle policy)
        (some (delivery.provisioned handle policy.allowedTriggers))
        (.respond (delivery.provisioned handle policy.allowedTriggers))
  | refused (caller handle : String) (policy : WakeTriggerPolicy) (outcome : ProvisionOutcome) :
      Follows delivery (.provision caller handle policy) none (.refuse outcome)
  | pushed (trigger : String) (request : WakeRequest) (registration : PushRegistration)
      (response : Option Answer) (answer : Answer) :
      Follows delivery (.wake trigger request registration) response (.respond answer)

namespace Stage

/-- A request is about what its document asks for. -/
def Consistent (delivery : Delivery) : Stage DocumentDigest → Prop
  | .checked _ caller handle policy => AsksProvision delivery caller handle policy
  | .admitting _ effect | .admitted _ effect => effect.Asked delivery
  | .closing _ effect response finish =>
      effect.Asked delivery ∧ finish.Follows delivery effect response
  | .received | .ended _ => True

variable {state after : AppState Guard} {delivery : Delivery} {stage next : Stage DocumentDigest}

theorem Consistent.asked (consistent : stage.Consistent delivery)
    {once : DocumentOnce DocumentDigest} {effect : Effect}
    (authorised : stage.effect = some (once, effect)) : effect.Asked delivery := by
  cases stage with
  | received => cases authorised
  | checked own caller handle policy =>
      cases authorised
      exact consistent
  | admitting own ownEffect =>
      cases authorised
      exact consistent
  | admitted own ownEffect =>
      cases authorised
      exact consistent
  | closing own ownEffect response finish =>
      cases authorised
      exact consistent.1
  | ended => cases authorised

theorem Advanced.consistent (advanced : stage.Advanced crates delivery state after next)
    (consistent : stage.Consistent delivery) : next.Consistent delivery := by
  cases advanced with
  | refused => trivial
  | registered => trivial
  | checked once caller request policy accepted asked =>
      exact ⟨asked.named, accepted.authenticated.proven, request, asked.decoded, rfl,
        asked.normalised⟩
  | authorised once trigger request registration accepted asked => exact asked.named
  | repeated => trivial
  | differing => exact consistent
  | held => trivial
  | admitted => exact consistent
  | provisioned once caller handle policy => exact ⟨consistent, .applied caller handle policy⟩
  | unprovisioned once caller handle policy outcome =>
      exact ⟨consistent, .refused caller handle policy outcome⟩
  | pushed once trigger request registration store metrics response answer =>
      exact ⟨consistent, .pushed trigger request registration response answer⟩
  | closed => trivial
  | idle => trivial

theorem Dropped.consistent (dropped : stage.Dropped state after next)
    (consistent : stage.Consistent delivery) : next.Consistent delivery := by
  cases dropped with
  | unmoved => exact consistent
  | unheard => trivial
  | opened => trivial
  | abandoned => trivial

end Stage

/-! ## Where a provision takes effect -/

/-- A request takes effect on a handle, with this list. -/
structure Instant where
  request : Nat
  handle : String
  triggers : List String
  deriving DecidableEq, Repr

/-- The list which an instant leaves a handle with, if it is the instant of one on that handle. -/
def Instant.listFor (handle : String) (instant : Instant) : Option (List String) :=
  if instant.handle = handle then some instant.triggers else none

namespace Stage

variable (crates) in
/-- The effect which the next step of a request has: the stored list is the one asked for, or the
store takes it. -/
def instant (state : AppState Guard) (index : Nat) : Stage DocumentDigest → Option Instant
  | .checked _ _ handle policy =>
      if state.store.allowlistIs handle policy.allowedTriggers then
        some ⟨index, handle, policy.allowedTriggers⟩
      else none
  | .admitted _ (.provision caller handle policy) =>
      if (state.store.provision crates handle caller policy).1 = .ok then
        some ⟨index, handle, policy.allowedTriggers⟩
      else none
  | .received | .admitting _ _ | .admitted _ (.wake _ _ _) | .closing _ _ _ _ | .ended _ => none

/-- A request which has taken effect can only be answered with success. -/
inductive Committed (delivery : Delivery) (handle : String) (triggers : List String) :
    Stage DocumentDigest → Prop where
  | closing (once : DocumentOnce DocumentDigest) (effect : Effect) (response : Option Answer) :
      Committed delivery handle triggers
        (.closing once effect response (.respond (delivery.provisioned handle triggers)))
  | answered : Committed delivery handle triggers
      (.ended (.built (delivery.provisioned handle triggers)))
  | dropped : Committed delivery handle triggers (.ended .dropped)

variable {state after : AppState Guard} {delivery : Delivery} {stage next : Stage DocumentDigest}
  {handle : String} {triggers : List String} {index : Nat} {instant : Instant}

theorem Advanced.committed (advanced : stage.Advanced crates delivery state after next)
    (committed : stage.Committed delivery handle triggers) :
    next.Committed delivery handle triggers := by
  cases committed with
  | closing once effect response =>
      cases advanced with
      | closed _ _ _ _ _ answer finished =>
          obtain same | ⟨outcome, other, _⟩ := finished
          · cases same
            exact .answered
          · cases other
  | answered =>
      cases advanced
      exact .answered
  | dropped =>
      cases advanced
      exact .dropped

theorem Dropped.committed (dropped : stage.Dropped state after next)
    (committed : stage.Committed delivery handle triggers) :
    next.Committed delivery handle triggers := by
  cases dropped with
  | unmoved => exact committed
  | unheard => cases committed
  | opened => cases committed
  | abandoned => exact .dropped

theorem Advanced.commits (advanced : stage.Advanced crates delivery state after next)
    (taken : stage.instant crates state index = some instant) :
    next.Committed delivery instant.handle instant.triggers := by
  cases advanced with
  | repeated once caller handle policy metrics same =>
      rw [Stage.instant, if_pos same] at taken
      cases taken
      exact .answered
  | differing once caller handle policy different =>
      rw [Stage.instant, if_neg different] at taken
      cases taken
  | provisioned once caller handle policy metrics applied =>
      rw [Stage.instant, if_pos applied] at taken
      cases taken
      exact .closing _ _ _
  | unprovisioned once caller handle policy outcome refused =>
      rw [Stage.instant, if_neg refused] at taken
      cases taken
  | refused => cases taken
  | registered => cases taken
  | checked => cases taken
  | authorised => cases taken
  | held => cases taken
  | admitted => cases taken
  | pushed => cases taken
  | closed => cases taken
  | idle => cases taken

/-- A request takes effect on a live handle, which then has its list. -/
theorem Advanced.taken (advanced : stage.Advanced crates delivery state after next)
    (taken : stage.instant crates state index = some instant) :
    instant.request = index ∧
      (∃ record, state.store.state.handles.lookup instant.handle = some record) ∧
      after.store.allowlist instant.handle = some instant.triggers := by
  cases advanced with
  | repeated once caller handle policy metrics same =>
      rw [Stage.instant, if_pos same] at taken
      cases taken
      obtain ⟨record, found, listed⟩ := (Store.allowlistIs_iff _ _ _).mp same
      exact ⟨rfl, ⟨record, found⟩, by rw [Store.allowlist, found, Option.map_some, listed]⟩
  | differing once caller handle policy different =>
      rw [Stage.instant, if_neg different] at taken
      cases taken
  | provisioned once caller handle policy metrics applied =>
      rw [Stage.instant, if_pos applied] at taken
      cases taken
      have live := (Store.provision_ok_iff crates _ _ _ _).mp applied
      have controls := (Store.checkController_iff crates _ _ _).mpr live
      obtain ⟨record, found, _⟩ := live
      exact ⟨rfl, ⟨record, found⟩,
        (Store.allowlist_provision controls policy handle).trans (if_pos rfl)⟩
  | unprovisioned once caller handle policy outcome refused =>
      rw [Stage.instant, if_neg refused] at taken
      cases taken
  | refused => cases taken
  | registered => cases taken
  | checked => cases taken
  | authorised => cases taken
  | held => cases taken
  | admitted => cases taken
  | pushed => cases taken
  | closed => cases taken
  | idle => cases taken

/-- A handle which is live after a step has just been registered, or was live before it with the
same controller, and has kept its list unless the step took effect on it. -/
theorem Advanced.lookup (advanced : stage.Advanced crates delivery state after next) (index : Nat)
    {record : HandleRecord} (found : after.store.state.handles.lookup handle = some record) :
    (handle ∈ stage.draws delivery ∧ record.allowedTriggers = []) ∨
      ∃ before, state.store.state.handles.lookup handle = some before ∧
        record.controllerVtaDid = before.controllerVtaDid ∧
        record.allowedTriggers =
          ((stage.instant crates state index).bind (Instant.listFor handle)).getD
            before.allowedTriggers := by
  cases advanced with
  | repeated once caller own policy metrics same =>
      refine .inr ⟨record, found, rfl, ?_⟩
      rw [Stage.instant, if_pos same, Option.bind_some, Instant.listFor]
      split
      · rename_i own
        subst own
        obtain ⟨before, found', listed⟩ := (Store.allowlistIs_iff _ _ _).mp same
        cases found.symm.trans found'
        exact listed
      · rfl
  | differing once caller own policy different =>
      refine .inr ⟨record, found, rfl, ?_⟩
      rw [Stage.instant, if_neg different]
      rfl
  | unprovisioned once caller own policy outcome refused =>
      refine .inr ⟨record, found, rfl, ?_⟩
      rw [Stage.instant, if_neg refused]
      rfl
  | provisioned once caller own policy metrics applied =>
      obtain ⟨previous, present, controls⟩ := (Store.provision_ok_iff crates _ _ _ _).mp applied
      rw [Stage.instant, if_pos applied, Option.bind_some, Instant.listFor]
      have rewritten :=
        Store.lookup_perform crates state.store (.provision own caller policy) handle
      rw [StoreCall.rewrite] at rewritten
      by_cases same : handle = own
      · subst same
        rw [if_pos rfl, present, Option.map_some, if_pos controls] at rewritten
        cases found.symm.trans rewritten
        exact .inr ⟨previous, present, rfl, by rw [if_pos rfl]; rfl⟩
      · rw [if_neg same] at rewritten
        exact .inr ⟨record, rewritten.symm.trans found, rfl, by
          rw [if_neg (Ne.symm same)]; rfl⟩
  | registered request payload metrics named stored =>
      have rewritten := Store.lookup_perform crates state.store
        (.insertAt delivery.outside.newHandle request.registration request.controllerVtaDid
          delivery.outside.nowSecs) handle
      rw [StoreCall.rewrite] at rewritten
      split at rewritten
      · rename_i drawn
        cases found.symm.trans rewritten
        refine .inl ⟨?_, rfl⟩
        rw [draws, if_pos named, drawn.2]
        exact List.mem_singleton_self _
      · exact .inr ⟨record, rewritten.symm.trans found, rfl, rfl⟩
  | pushed once trigger request registration store metrics response answer removed =>
      obtain rfl | rfl := removed
      · exact .inr ⟨record, found, rfl, rfl⟩
      · have rewritten :=
          Store.lookup_perform crates state.store (.remove request.handle) handle
        rw [StoreCall.rewrite] at rewritten
        split at rewritten
        · cases found.symm.trans rewritten
        · exact .inr ⟨record, rewritten.symm.trans found, rfl, rfl⟩
  | refused => exact .inr ⟨record, found, rfl, rfl⟩
  | checked => exact .inr ⟨record, found, rfl, rfl⟩
  | authorised => exact .inr ⟨record, found, rfl, rfl⟩
  | held => exact .inr ⟨record, found, rfl, rfl⟩
  | admitted => exact .inr ⟨record, found, rfl, rfl⟩
  | closed => exact .inr ⟨record, found, rfl, rfl⟩
  | idle => exact .inr ⟨record, found, rfl, rfl⟩

/-- A request which provisions a handle has done so before the step, or its caller has just been
found to control the handle. -/
theorem Advanced.provisioning (advanced : stage.Advanced crates delivery state after next)
    {once : DocumentOnce DocumentDigest} {caller : String} {policy : WakeTriggerPolicy}
    (authorised : next.effect = some (once, .provision caller handle policy)) :
    stage.effect = some (once, .provision caller handle policy) ∨
      after = state ∧ state.store.checkController crates handle caller = .ok := by
  cases advanced with
  | checked own ownCaller request ownPolicy accepted asked =>
      cases authorised
      exact .inr ⟨rfl, asked.controls⟩
  | differing => exact .inl authorised
  | admitted => exact .inl authorised
  | provisioned => exact .inl authorised
  | unprovisioned => exact .inl authorised
  | refused => cases authorised
  | registered => cases authorised
  | authorised => cases authorised
  | repeated => cases authorised
  | held => cases authorised
  | pushed => cases authorised
  | closed => cases authorised
  | idle => cases authorised

/-- A provision changes the store only where it takes effect. -/
theorem Advanced.store_kept (advanced : stage.Advanced crates delivery state after next)
    (named : delivery.doc.typeUri.names "push/provision") (consistent : stage.Consistent delivery)
    (untaken : stage.instant crates state index = none) : after.store = state.store := by
  cases advanced with
  | registered request payload metrics register =>
      exact absurd (named.unique register) (by decide)
  | provisioned once caller handle policy metrics applied =>
      rw [Stage.instant, if_pos applied] at untaken
      cases untaken
  | pushed =>
      have wake : delivery.doc.typeUri.names "push/wake" := consistent
      exact absurd (named.unique wake) (by decide)
  | refused => rfl
  | checked => rfl
  | authorised => rfl
  | repeated => rfl
  | differing => rfl
  | held => rfl
  | admitted => rfl
  | unprovisioned => rfl
  | closed => rfl
  | idle => rfl

/-- A provision which is bound to answer this. -/
inductive Succeeding (answer : Answer) : Stage DocumentDigest → Prop where
  | closing (once : DocumentOnce DocumentDigest) (caller handle : String)
      (policy : WakeTriggerPolicy) (response : Option Answer) :
      Succeeding answer
        (.closing once (.provision caller handle policy) response (.respond answer))
  | answered : Succeeding answer (.ended (.built answer))

/-- A provision becomes bound to answer with success where it takes effect. -/
theorem Advanced.succeeds (advanced : stage.Advanced crates delivery state after next)
    (named : delivery.doc.typeUri.names "push/provision") (consistent : stage.Consistent delivery)
    {answer : Answer} (success : answer.isError = false) (notYet : ¬stage.Succeeding answer)
    (succeeding : next.Succeeding answer) (index : Nat) :
    ∃ once caller handle policy,
      stage.effect = some (once, .provision caller handle policy) ∧
      stage.instant crates state index = some ⟨index, handle, policy.allowedTriggers⟩ ∧
      answer = delivery.provisioned handle policy.allowedTriggers := by
  cases advanced with
  | repeated once caller handle policy metrics same =>
      cases succeeding
      exact ⟨once, caller, handle, policy, rfl, if_pos same, rfl⟩
  | provisioned once caller handle policy metrics applied =>
      cases succeeding
      exact ⟨once, caller, handle, policy, rfl, if_pos applied, rfl⟩
  | refused =>
      cases succeeding
      cases success
  | registered request payload metrics register =>
      exact absurd (named.unique register) (by decide)
  | held once effect ending stale prior =>
      obtain ⟨_, rfl⟩ | ⟨_, rfl⟩ := prior
      · cases succeeding
      · cases succeeding
        cases success
  | closed once effect response finish metrics own finished =>
      cases succeeding
      obtain rfl | ⟨_, _, refused⟩ := finished
      · cases effect with
        | provision => exact absurd (.closing _ _ _ _ _) notYet
        | wake =>
            have wake : delivery.doc.typeUri.names "push/wake" := consistent.1
            exact absurd (named.unique wake) (by decide)
      · exact absurd (refused.symm.trans success) (by decide)
  | idle => exact absurd succeeding notYet
  | checked => cases succeeding
  | authorised => cases succeeding
  | differing => cases succeeding
  | admitted => cases succeeding
  | unprovisioned => cases succeeding
  | pushed => cases succeeding

theorem Dropped.succeeding (dropped : stage.Dropped state after next) {answer : Answer}
    (succeeding : next.Succeeding answer) : stage.Succeeding answer := by
  cases dropped with
  | unmoved => exact succeeding
  | unheard => cases succeeding
  | opened => cases succeeding
  | abandoned => cases succeeding

theorem Dropped.store (dropped : stage.Dropped state after next) : after.store = state.store := by
  cases dropped with
  | unmoved => rfl
  | unheard => rfl
  | opened => rfl
  | abandoned => rfl

theorem Advanced.of_ended {ending : Ending}
    (advanced : (Stage.ended ending : Stage DocumentDigest).Advanced crates delivery state after
      next) : next = .ended ending := by
  cases advanced
  rfl

theorem Dropped.of_ended {ending : Ending}
    (dropped : (Stage.ended ending : Stage DocumentDigest).Dropped state after next) :
    next = .ended ending := by
  cases dropped with
  | unmoved => rfl
  | abandoned _ _ _ _ _ abandons => cases abandons

/-- A request keeps its claim until it ends. -/
theorem Advanced.claiming (advanced : stage.Advanced crates delivery state after next)
    {once : DocumentOnce DocumentDigest} {effect : Effect}
    (claim : stage.claim = some (once, effect)) :
    next.claim = some (once, effect) ∨ ∃ ending, next = .ended ending := by
  cases advanced with
  | provisioned => exact .inl claim
  | unprovisioned => exact .inl claim
  | pushed => exact .inl claim
  | closed => exact .inr ⟨_, rfl⟩
  | refused => cases claim
  | registered => cases claim
  | checked => cases claim
  | authorised => cases claim
  | repeated => cases claim
  | differing => cases claim
  | held => cases claim
  | admitted => cases claim
  | idle => cases claim

theorem Dropped.claiming (dropped : stage.Dropped state after next)
    {once : DocumentOnce DocumentDigest} {effect : Effect}
    (claim : stage.claim = some (once, effect)) :
    next.claim = some (once, effect) ∨ next = .ended .dropped := by
  cases dropped with
  | unmoved => exact .inl claim
  | unheard => exact .inr rfl
  | opened => exact .inr rfl
  | abandoned => exact .inr rfl

/-- A request keeps its claim through its effect, has none, or is answered fresh. -/
theorem Advanced.claim_cases (advanced : stage.Advanced crates delivery state after next) :
    (∃ once effect, stage = .admitted once effect ∧ next.claim = some (once, effect)) ∨
      next.claim = none ∨
      ∃ once effect, stage = .admitting once effect ∧ next.claim = some (once, effect) ∧
        (once.claim state effect.issuer effect.handle).1 = .ok .fresh ∧
        after.replay = (once.claim state effect.issuer effect.handle).2 := by
  cases advanced with
  | refused => exact .inr (.inl rfl)
  | registered => exact .inr (.inl rfl)
  | checked => exact .inr (.inl rfl)
  | authorised => exact .inr (.inl rfl)
  | repeated => exact .inr (.inl rfl)
  | differing => exact .inr (.inl rfl)
  | held => exact .inr (.inl rfl)
  | admitted once effect fresh => exact .inr (.inr ⟨once, effect, rfl, rfl, fresh, rfl⟩)
  | provisioned => exact .inl ⟨_, _, rfl, rfl⟩
  | unprovisioned => exact .inl ⟨_, _, rfl, rfl⟩
  | pushed => exact .inl ⟨_, _, rfl, rfl⟩
  | closed => exact .inr (.inl rfl)
  | idle => exact .inr (.inl rfl)

/-- A drop leaves a request as it was, or ends it. -/
theorem Dropped.next_cases (dropped : stage.Dropped state after next) :
    next = stage ∨ next = .ended .dropped := by
  cases dropped with
  | unmoved => exact .inl rfl
  | unheard => exact .inr rfl
  | opened => exact .inr rfl
  | abandoned => exact .inr rfl

/-- A provision which is refused after its claim releases it. -/
theorem Advanced.releases [DecidableEq DocumentDigest] [LawfulReplayGuard Guard] {answer : Answer}
    (advanced : stage.Advanced crates delivery state after (.ended (.built answer)))
    (wellFormed : state.replay.WellFormed state.bounds) (consistent : stage.Consistent delivery)
    (named : delivery.doc.typeUri.names "push/provision") (refused : answer.isError = true)
    {once : DocumentOnce DocumentDigest} {effect : Effect}
    (claim : stage.claim = some (once, effect)) :
    after.replay.ledger.Released effect.issuer effect.handle once.id once.digest := by
  cases advanced with
  | closed own ownEffect response finish metrics _ finished =>
      cases claim
      obtain ⟨asked, follows⟩ := consistent
      cases follows with
      | applied caller handle policy =>
          obtain same | ⟨_, other, _⟩ := finished
          · cases same
            cases refused
          · cases other
      | refused caller handle policy outcome =>
          dsimp only
          rw [(ReplayRecord.complete_refines wellFormed _ _ _ _ none).2]
          exact Ledger.complete_released _ _ _ _ _
      | pushed =>
          have wake : delivery.doc.typeUri.names "push/wake" := asked
          exact absurd (named.unique wake) (by decide)
  | refused => cases claim
  | registered => cases claim
  | repeated => cases claim
  | held => cases claim
  | idle => cases claim

end Stage

end PushGateway
