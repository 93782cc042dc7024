import PushGateway.Pipeline.Outcome

/-!
# Authority

No allowlist changes and no push is sent but on a proven document of an issuer entitled to it:
for a change the controller of the handle, for a push a trigger on the handle's list.
-/

namespace PushGateway

variable {Guard DocumentDigest : Type} {crates : Crates DocumentDigest} {outside : Surroundings}

/-! ## Allowlists in the store -/

/-- The stored allowlist of a handle, if the handle is live. -/
def Store.allowlist (store : Store) (handle : String) : Option (List String) :=
  (store.state.handles.lookup handle).map HandleRecord.allowedTriggers

namespace Store

/-- A stored insert gives its handle an empty list. -/
theorem allowlist_insertAt {store : Store} {handle : String} {registration : PushRegistration}
    {controllerVtaDid : String} {createdAt : Nat}
    (stored : (store.insertAt crates handle registration controllerVtaDid createdAt).1 = .ok ())
    (other : String) :
    (store.insertAt crates handle registration controllerVtaDid createdAt).2.allowlist other =
      if other = handle then some [] else store.allowlist other := by
  obtain ⟨_, refused⟩ | added :=
    insertAt_cases crates store handle registration controllerVtaDid createdAt
  · rw [refused] at stored
    cases stored
  · simp only [added, allowlist, State.add, AssocMap.lookup_insert]
    split <;> rfl

theorem allowlist_remove (crates : Crates DocumentDigest) (store : Store) (handle other : String) :
    (store.remove crates handle).allowlist other =
      if other = handle then none else store.allowlist other := by
  simp only [allowlist, remove, State.dropHandle_handles, AssocMap.lookup_erase]
  split <;> rfl

/-- A provision by the controller of a live handle sets the list of that handle only. -/
theorem allowlist_provision {store : Store} {handle caller : String}
    (controls : store.checkController crates handle caller = .ok) (policy : WakeTriggerPolicy)
    (other : String) :
    (store.provision crates handle caller policy).2.allowlist other =
      if other = handle then some policy.allowedTriggers else store.allowlist other := by
  obtain ⟨_, refused, same⟩ | ⟨record, found, _, changed⟩ :=
    provision_cases crates store handle caller policy
  · have applied := provision_of_controls controls policy
    rw [same] at applied
    exact absurd applied refused
  · simp only [changed, allowlist, AssocMap.lookup_modify]
    split
    · rename_i same
      rw [same, found]
      rfl
    · rfl

end Store

/-! ## What a change and a push rest on -/

variable (crates outside)

/-- A proven issuer of a document addressed to this gateway and inside its window. -/
structure Entitled (state : AppState Guard) (transportSender : Option String) (body : Value)
    (doc : TrustTask) (issuer : String) : Prop where
  authenticated : Authenticated crates outside state transportSender body issuer
  window : ∃ did ∈ state.gatewayDid, InsideWindow crates doc did outside.now

/-- The document provisions this handle with this list, for its controller. -/
structure ProvisionsHandle (state : AppState Guard) (doc : TrustTask) (issuer handle : String)
    (triggers : List String) : Prop where
  named : doc.typeUri.names "push/provision"
  payload : ∃ request policy, Value.decodeProvisionRequest doc.payload = some request ∧
    request.handle = handle ∧ request.policy.validateAndNormalize = .ok policy ∧
    policy.allowedTriggers = triggers
  served : state.controllers.allows crates issuer = true
  controls : ∃ record, state.store.state.handles.lookup handle = some record ∧
    crates.sameReference record.controllerVtaDid issuer = true

/-- The document wakes this handle, which has this registration, for a trigger on its list. -/
structure WakesHandle (state : AppState Guard) (doc : TrustTask) (issuer handle : String)
    (registration : PushRegistration) : Prop where
  named : doc.typeUri.names "push/wake"
  payload : ∃ request, Value.decodeWakeRequest doc.payload = some request ∧
    request.handle = handle
  listed : ∃ record, state.store.state.handles.lookup handle = some record ∧
    record.registration = registration ∧ issuer ∈ record.allowedTriggers

/-- Every allowlist which comes, changes or goes between two states, and every push made, has its
authority. -/
structure ActsOnAuthority (state : AppState Guard) (transportSender : Option String)
    (body : Value) (doc : TrustTask) (after : AppState Guard) : Prop where
  changes : ∀ handle before triggers, state.store.allowlist handle = some before →
    after.store.allowlist handle = some triggers → triggers ≠ before →
    (∀ other, other ≠ handle → after.store.allowlist other = state.store.allowlist other) ∧
      ∃ issuer, Entitled crates outside state transportSender body doc issuer ∧
        ProvisionsHandle crates state doc issuer handle triggers
  pushes : ∃ made, after.sends = state.sends ++ made ∧ ∀ sent ∈ made,
    ∃ issuer, Entitled crates outside state transportSender body doc issuer ∧
      ∃ handle, WakesHandle state doc issuer handle sent.registration
  arrivals : ∀ handle triggers, state.store.allowlist handle = none →
    after.store.allowlist handle = some triggers →
    doc.typeUri.names "push/register" ∧ handle = outside.newHandle ∧ triggers = []
  departures : ∀ handle before, state.store.allowlist handle = some before →
    after.store.allowlist handle = none →
    ∃ issuer, Entitled crates outside state transportSender body doc issuer ∧
      ∃ registration, WakesHandle state doc issuer handle registration

variable {crates outside}

theorem Accepted.entitled (validates : crates.Validates) {state : AppState Guard}
    {transportSender : Option String} {body : Value} {doc : TrustTask} {issuer : String}
    {once : DocumentOnce DocumentDigest}
    (accepted : Accepted crates outside state transportSender body doc issuer once) :
    Entitled crates outside state transportSender body doc issuer where
  authenticated := accepted.authenticated
  window := by
    obtain ⟨did, identity, passed⟩ := accepted.open_
    exact ⟨did, identity, checkWindow_inside validates passed⟩

theorem Waking.wakes {state : AppState Guard} {doc : TrustTask} {issuer : String}
    {request : WakeRequest} {registration : PushRegistration}
    (asked : Waking state doc issuer request registration) :
    WakesHandle state doc issuer request.handle registration where
  named := asked.named
  payload := ⟨request, asked.decoded, rfl⟩
  listed := (Store.authorizeWake_iff _ _ _ _).mp asked.allowed

/-- What leaves the lists alone needs authority only for its pushes. -/
theorem ActsOnAuthority.of_same_lists {state after : AppState Guard}
    {transportSender : Option String} {body : Value} {doc : TrustTask}
    (lists : ∀ handle, after.store.allowlist handle = state.store.allowlist handle)
    (pushes : ∃ made, after.sends = state.sends ++ made ∧ ∀ sent ∈ made,
      ∃ issuer, Entitled crates outside state transportSender body doc issuer ∧
        ∃ handle, WakesHandle state doc issuer handle sent.registration) :
    ActsOnAuthority crates outside state transportSender body doc after where
  changes handle before triggers found now changed := by
    rw [lists, found] at now
    exact absurd (Option.some.inj now).symm changed
  pushes := pushes
  arrivals handle triggers absent now := by
    rw [lists, absent] at now
    cases now
  departures handle before found gone := by
    rw [lists, found] at gone
    cases gone

/-- What sets or drops the list of one handle needs authority for that list and for its pushes. -/
theorem ActsOnAuthority.of_one_list {state after : AppState Guard}
    {transportSender : Option String} {body : Value} {doc : TrustTask} {handle : String}
    {list : Option (List String)}
    (lists : ∀ other, after.store.allowlist other =
      if other = handle then list else state.store.allowlist other)
    (change : ∀ before triggers, state.store.allowlist handle = some before →
      list = some triggers →
      ∃ issuer, Entitled crates outside state transportSender body doc issuer ∧
        ProvisionsHandle crates state doc issuer handle triggers)
    (pushes : ∃ made, after.sends = state.sends ++ made ∧ ∀ sent ∈ made,
      ∃ issuer, Entitled crates outside state transportSender body doc issuer ∧
        ∃ handle, WakesHandle state doc issuer handle sent.registration)
    (arrival : ∀ triggers, state.store.allowlist handle = none → list = some triggers →
      doc.typeUri.names "push/register" ∧ handle = outside.newHandle ∧ triggers = [])
    (departure : list = none →
      ∃ issuer, Entitled crates outside state transportSender body doc issuer ∧
        ∃ registration, WakesHandle state doc issuer handle registration) :
    ActsOnAuthority crates outside state transportSender body doc after where
  changes other before triggers found now changed := by
    rw [lists] at now
    split at now
    · rename_i same
      subst same
      exact ⟨fun another different => by rw [lists, if_neg different],
        change before triggers found now⟩
    · rw [found] at now
      exact absurd (Option.some.inj now).symm changed
  pushes := pushes
  arrivals other triggers absent now := by
    rw [lists] at now
    split at now
    · rename_i same
      subst same
      exact arrival triggers absent now
    · rw [absent] at now
      cases now
  departures other before found gone := by
    rw [lists] at gone
    split at gone
    · rename_i same
      subst same
      exact departure gone
    · rw [found] at gone
      cases gone

/-- The push made on an admitted wake has its authority. -/
theorem pushes_of_wake {state : AppState Guard} {transportSender : Option String} {body : Value}
    {doc : TrustTask} {issuer : String} {request : WakeRequest} {registration : PushRegistration}
    (entitled : Entitled crates outside state transportSender body doc issuer)
    (asked : Waking state doc issuer request registration) :
    ∃ made, (state.pushed registration request.payload).sends = state.sends ++ made ∧
      ∀ sent ∈ made, ∃ issuer, Entitled crates outside state transportSender body doc issuer ∧
        ∃ handle, WakesHandle state doc issuer handle sent.registration := by
  refine ⟨[⟨registration, request.payload⟩], rfl, fun sent member => ?_⟩
  rw [List.mem_singleton.mp member]
  exact ⟨issuer, entitled, request.handle, asked.wakes⟩

variable [ReplayGuard Guard String DocumentDigest Answer]

/-- Whatever is delivered, with or without a transport sender, it changes an allowlist or sends
a push only on the authority of the issuer it proves. -/
theorem receiveDocument_acts_on_authority (crates : Crates DocumentDigest)
    (validates : crates.Validates) (outside : Surroundings) (state : AppState Guard)
    (fresh : state.store.state.handles.lookup outside.newHandle = none)
    (transportSender : Option String) (body : Value) (doc : TrustTask) :
    ActsOnAuthority crates outside state transportSender body doc
      (receiveDocument crates outside state transportSender body doc).2 := by
  obtain ⟨caller, accepts, handled⟩ :=
    receiveDocument_handled crates outside state transportSender body doc
  generalize receiveDocument crates outside state transportSender body doc = received at *
  obtain ⟨answer, after⟩ := received
  dsimp only at handled ⊢
  have silent : ∃ made, state.sends = state.sends ++ made ∧ ∀ sent ∈ made,
      ∃ issuer, Entitled crates outside state transportSender body doc issuer ∧
        ∃ handle, WakesHandle state doc issuer handle sent.registration := ⟨[], by simp, nofun⟩
  cases handled with
  | refused => exact .of_same_lists (fun _ => rfl) silent
  | registered request payload metrics named stored =>
      have absent : state.store.allowlist outside.newHandle = none := by
        simp [Store.allowlist, fresh]
      refine .of_one_list (Store.allowlist_insertAt stored) (fun before _ found _ => ?_) silent
        (fun triggers _ now => ⟨named, rfl, (Option.some.inj now).symm⟩) nofun
      rw [absent] at found
      cases found
  | repeated => exact .of_same_lists (fun _ => rfl) silent
  | held => exact .of_same_lists (fun _ => rfl) silent
  | provisioned issuer once request policy payload metrics called asked =>
      have controller := (Store.checkController_iff crates _ _ _).mp asked.controls
      refine .of_one_list (Store.allowlist_provision asked.controls policy)
        (fun before triggers _ now => ?_) silent (fun triggers none_before _ => ?_) nofun
      · exact ⟨issuer, (accepts issuer once called).entitled validates, asked.named,
          ⟨request, policy, asked.decoded, rfl, asked.normalised, Option.some.inj now⟩,
          asked.served, controller⟩
      · obtain ⟨record, live, _⟩ := controller
        rw [Store.allowlist, live] at none_before
        cases none_before
  | delivered issuer once request registration payload metrics called asked =>
      exact .of_same_lists (fun _ => rfl)
        (pushes_of_wake ((accepts issuer once called).entitled validates) asked)
  | unregistered issuer once request registration payload metrics called asked =>
      have entitled := (accepts issuer once called).entitled validates
      exact .of_one_list (Store.allowlist_remove crates state.store request.handle) nofun
        (pushes_of_wake entitled asked) nofun
        fun _ => ⟨issuer, entitled, registration, asked.wakes⟩
  | failed issuer once request registration reason metrics called _ asked =>
      exact .of_same_lists (fun _ => rfl)
        (pushes_of_wake ((accepts issuer once called).entitled validates) asked)

/-- The controller of a live handle provisions it. -/
theorem receiveDocument_acts_on_authority_of_controller :
    ActsOnAuthority plainCrates (smallSurroundings "did:web:vta.example" 0 .delivered)
      smallGateway none smallBody (smallProvision "first" ["did:web:other.example"])
      (receiveDocument plainCrates (smallSurroundings "did:web:vta.example" 0 .delivered)
        smallGateway none smallBody (smallProvision "first" ["did:web:other.example"])).2 :=
  receiveDocument_acts_on_authority plainCrates plainCrates_validates _ smallGateway rfl none
    smallBody _

end PushGateway
