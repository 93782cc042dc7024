import PushGateway.Store.Registry

/-!
# The per-token cap and the push destination

The cap counts the live handles which were registered under one text, while a push is delivered
to what the text denotes.  A destination with several spellings is bounded by the cap only while
the text at hand is itself held up to the cap.
-/

namespace PushGateway

open Execution

variable {DocumentDigest : Type} (crates : Crates DocumentDigest) (policy : EgressPolicy)

/-- The value of a hexadecimal digit in either case. -/
def hexDigit (char : Char) : Nat :=
  if char.isDigit then char.toNat - '0'.toNat
  else if 'a' ≤ char ∧ char ≤ 'f' then char.toNat - 'a'.toNat + 10
  else char.toNat - 'A'.toNat + 10

/-- Where a push is delivered. -/
inductive Destination where
  /-- The device an APNs token denotes, by the half-bytes of the token. -/
  | device (digits : List Nat)
  | fcm (token : String)
  /-- The URL a Web Push endpoint is parsed to. -/
  | subscription (url : Url)
  deriving DecidableEq, Repr

/-- The destination of a registration which can be delivered at all. -/
def PushRegistration.destination : PushRegistration → Option Destination
  | .apns token _ _ =>
      if isValidApnsToken token then some (.device (token.toList.map hexDigit)) else none
  | .fcm token => some (.fcm token)
  | .webpush endpoint _ =>
      match policy.validateWebpushEndpoint crates endpoint with
      | .ok url => some (.subscription url)
      | .error _ => none

/-- A registration which passes validation has a destination. -/
theorem PushRegistration.destination_of_validate {registration : PushRegistration}
    (valid : registration.validate crates policy = .ok ()) :
    (registration.destination crates policy).isSome = true := by
  cases registration with
  | apns token topic environment =>
      simp only [validate] at valid
      split at valid
      · cases valid
      · rename_i hexadecimal
        simp [destination, not_not.mp hexadecimal]
  | fcm token => rfl
  | webpush endpoint keys =>
      simp only [validate] at valid
      split at valid
      · cases valid
      · rename_i url accepted
        simp [destination, accepted]

/-- The registration an insert stores has passed validation. -/
def StoreCall.Validated : StoreCall → Prop
  | .insertAt _ registration _ _ => registration.validate crates policy = .ok ()
  | .provision .. | .remove .. | .sweepUnprovisioned .. => True

namespace Store

/-- The live handles which deliver to a destination. -/
def perDestination (store : Store) (destination : Destination) : Nat :=
  store.state.handles.count fun _ record =>
    decide (record.registration.destination crates policy = some destination)

/-- The live handles which were registered under a text. -/
def perText (store : Store) (text : String) : Nat :=
  store.state.handles.count fun _ record => decide (tokenMaterial record.registration = text)

/-- If the destination of an insert is full, then so is its text, or another cap refuses. -/
def FullByText (store : Store) : StoreCall → Prop
  | .insertAt _ registration controllerVtaDid _ =>
      ∀ destination ∈ registration.destination crates policy,
        store.limits.maxPerToken ≤ store.perDestination crates policy destination →
        store.limits.maxHandles ≤ store.state.handles.size ∨
          store.limits.maxPerController ≤
            store.registry.perController (crates.stripScidSrc controllerVtaDid) ∨
          store.limits.maxPerToken ≤ store.perText (tokenMaterial registration) ∧
            0 < store.perText (tokenMaterial registration)
  | .provision .. | .remove .. | .sweepUnprovisioned .. => True

variable {crates policy}

/-- A positive cap is met by text while every live handle of the destination has the same
text. -/
theorem fullByText_of_alike {store : Store} {handle : String} {registration : PushRegistration}
    {controllerVtaDid : String} {createdAt : Nat} (positive : 0 < store.limits.maxPerToken)
    (alike : ∀ other record, store.state.handles.lookup other = some record →
      record.registration.destination crates policy = registration.destination crates policy →
      tokenMaterial record.registration = tokenMaterial registration) :
    store.FullByText crates policy (.insertAt handle registration controllerVtaDid createdAt) := by
  intro destination delivers full
  have below : store.perDestination crates policy destination ≤
      store.perText (tokenMaterial registration) := by
    apply AssocMap.count_mono
    intro other record found same
    rw [decide_eq_true_eq] at same ⊢
    exact alike other record found (same.trans delivers.symm)
  exact .inr (.inr ⟨full.trans below, by omega⟩)

/-- With an injective digest the bucket of a token counts the handles of its text. -/
theorem perToken_eq_perText (injective : Function.Injective crates.sha256Prefix) (store : Store)
    (registration : PushRegistration) :
    store.registry.perToken crates (tokenDigest crates registration) =
      store.perText (tokenMaterial registration) := by
  simp only [Registry.perToken, perText, registry, tokenDigest, injective.eq_iff]

/-- When an insert is stored. -/
theorem insertAt_ok_iff {store : Store} (indexed : store.state.Indexed crates) (handle : String)
    (registration : PushRegistration) (controllerVtaDid : String) (createdAt : Nat) :
    (store.insertAt crates handle registration controllerVtaDid createdAt).1 = .ok () ↔
      ¬(store.limits.maxHandles ≤ store.state.handles.size ∨
        store.limits.maxPerController ≤
          store.registry.perController (crates.stripScidSrc controllerVtaDid) ∨
        store.limits.maxPerToken ≤
            store.registry.perToken crates (tokenDigest crates registration) ∧
          0 < store.registry.perToken crates (tokenDigest crates registration)) := by
  rw [← bucket_full_iff indexed, insertAt]
  simp only [registry, Registry.perController]
  split
  · rename_i total
    simp [total]
  · rename_i total
    split
    · rename_i perController
      simp [perController]
    · rename_i perController
      split
      · rename_i full
        simp [full]
      · rename_i room
        simp [total, perController, room]

theorem perDestination_insertAt {store : Store} {handle : String} {registration : PushRegistration}
    {controllerVtaDid : String} {createdAt : Nat} {destination : Destination}
    (fresh : store.state.handles.lookup handle = none)
    (stored : (store.insertAt crates handle registration controllerVtaDid createdAt).1 = .ok ()) :
    (store.insertAt crates handle registration controllerVtaDid createdAt).2.perDestination crates
        policy destination =
      store.perDestination crates policy destination +
        if registration.destination crates policy = some destination then 1 else 0 := by
  obtain ⟨_, refused⟩ | added :=
    insertAt_cases crates store handle registration controllerVtaDid createdAt
  · rw [refused] at stored
    cases stored
  · simp only [added, perDestination, State.add]
    rw [AssocMap.count_insert _ _ fresh]
    simp

/-- A call makes at most one more handle deliver to a destination: a stored insert for it. -/
theorem perDestination_perform {store : Store} (indexed : store.state.Indexed crates)
    {call : StoreCall} (fresh : call.Fresh store.state.handles) (destination : Destination) :
    (next (perform crates) store call).perDestination crates policy destination ≤
        store.perDestination crates policy destination ∨
      (next (perform crates) store call).perDestination crates policy destination =
          store.perDestination crates policy destination + 1 ∧
        ∃ handle registration controllerVtaDid createdAt,
          call = .insertAt handle registration controllerVtaDid createdAt ∧
          registration.destination crates policy = some destination ∧
          (store.insertAt crates handle registration controllerVtaDid createdAt).1 = .ok () := by
  have other : (∀ handle registration controllerVtaDid createdAt,
      call ≠ .insertAt handle registration controllerVtaDid createdAt) →
      store.ReadsCap crates call →
      (next (perform crates) store call).perDestination crates policy destination ≤
        store.perDestination crates policy destination := by
    intro no_insert reads
    obtain ⟨answers, holds⟩ := perform_refines indexed call
    have handles := congrArg Registry.handles (holds (answers.mpr reads))
    have counted := Registry.count_perform crates store.registry
      (fun record => decide (record.registration.destination crates policy = some destination))
      fresh fun _ _ => rfl
    rw [← handles] at counted
    rcases counted with kept | ⟨_, handle, registration, controllerVtaDid, createdAt, insert, _⟩
    · exact kept
    · exact absurd insert (no_insert handle registration controllerVtaDid createdAt)
  cases call with
  | insertAt handle registration controllerVtaDid createdAt =>
      obtain ⟨_, refused⟩ | added :=
        insertAt_cases crates store handle registration controllerVtaDid createdAt
      · simp [next, perform, refused]
      · have stored := congrArg Prod.fst added
        simp only [next, perform, perDestination_insertAt fresh stored]
        by_cases delivers : registration.destination crates policy = some destination
        · simp [delivers, stored]
        · simp [delivers]
  | provision handle callerDid policy => exact .inl (other (by simp) trivial)
  | remove handle => exact .inl (other (by simp) trivial)
  | sweepUnprovisioned ttlSecs now => exact .inl (other (by simp) trivial)

theorem limits_perform (store : Store) (call : StoreCall) :
    (store.perform crates call).2.limits = store.limits := by
  cases call with
  | insertAt handle registration controllerVtaDid createdAt =>
      obtain ⟨_, refused⟩ | added :=
        insertAt_cases crates store handle registration controllerVtaDid createdAt
      · simp [perform, refused]
      · simp [perform, added]
  | provision handle callerDid policy =>
      obtain ⟨_, _, same⟩ | ⟨_, _, _, changed⟩ :=
        provision_cases crates store handle callerDid policy
      · simp [perform, same]
      · simp [perform, changed]
  | remove handle => rfl
  | sweepUnprovisioned ttlSecs now => rfl

/-- An insert for a full destination is stored exactly when its text is not full. -/
theorem fullByText_of_bounded {store : Store} (injective : Function.Injective crates.sha256Prefix)
    (indexed : store.state.Indexed crates) {call : StoreCall}
    (fresh : call.Fresh store.state.handles)
    (bounded : ∀ destination, (next (perform crates) store call).perDestination crates policy
      destination ≤ store.limits.maxPerToken) :
    store.FullByText crates policy call := by
  cases call with
  | insertAt handle registration controllerVtaDid createdAt =>
      intro destination delivers full
      rw [← perToken_eq_perText injective]
      by_contra room
      have stored := (insertAt_ok_iff indexed handle registration controllerVtaDid createdAt).mpr
        room
      have grown := bounded destination
      simp only [next, perform, perDestination_insertAt fresh stored] at grown
      rw [if_pos (Option.mem_def.mp delivers)] at grown
      omega
  | provision handle callerDid policy => trivial
  | remove handle => trivial
  | sweepUnprovisioned ttlSecs now => trivial

/-- What keeps every destination below the cap for one more call. -/
theorem bounded_perform {store : Store} (injective : Function.Injective crates.sha256Prefix)
    (indexed : store.state.Indexed crates) {call : StoreCall}
    (fresh : call.Fresh store.state.handles) (met : store.FullByText crates policy call)
    {destination : Destination}
    (bounded : store.perDestination crates policy destination ≤ store.limits.maxPerToken) :
    (next (perform crates) store call).perDestination crates policy destination ≤
      store.limits.maxPerToken := by
  rcases perDestination_perform indexed fresh destination with
    kept | ⟨grown, handle, registration, controllerVtaDid, createdAt, rfl, delivers, stored⟩
  · exact kept.trans bounded
  · have room := (insertAt_ok_iff indexed handle registration controllerVtaDid createdAt).mp stored
    rw [perToken_eq_perText injective] at room
    have below : ¬store.limits.maxPerToken ≤ store.perDestination crates policy destination :=
      fun full => room (met destination delivers full)
    omega

/-- In a run which fills a destination by its text, and only in one, no destination ever has more
live handles than the cap. -/
theorem perDestination_le_iff (injective : Function.Injective crates.sha256Prefix)
    (limits : StoreLimits) (calls : List StoreCall)
    (fresh : Along (next (perform crates)) (fun store call => call.Fresh store.state.handles)
      (withLimits limits) calls) :
    (∀ front, front <+: calls → ∀ destination,
        (run (next (perform crates)) (withLimits limits) front).perDestination crates policy
          destination ≤ limits.maxPerToken) ↔
      Along (next (perform crates)) (FullByText crates policy) (withLimits limits) calls := by
  have opened : (withLimits limits).state.Indexed crates := State.indexed_empty
  constructor
  · have same : (withLimits limits).limits = limits := rfl
    revert fresh opened same
    generalize withLimits limits = store
    intro fresh indexed same bounded
    induction calls generalizing store with
    | nil => trivial
    | cons call calls induction =>
        have first := bounded [call] (List.cons_prefix_cons.mpr ⟨rfl, List.nil_prefix⟩)
        refine ⟨fullByText_of_bounded injective indexed fresh.1 (same ▸ first),
          induction _ fresh.2 (indexed_perform indexed fresh.1)
            ((limits_perform store call).trans same) fun front inside => ?_⟩
        exact bounded (call :: front) (List.cons_prefix_cons.mpr ⟨rfl, inside⟩)
  · rintro met front ⟨back, rfl⟩ destination
    have along := along_and.mpr ⟨((along_append _ front back).mp fresh).1,
      ((along_append _ front back).mp met).1⟩
    have preserved : ∀ (store : Store) (call : StoreCall),
        store.state.Indexed crates ∧ store.limits = limits ∧
          store.perDestination crates policy destination ≤ limits.maxPerToken →
        call.Fresh store.state.handles ∧ store.FullByText crates policy call →
        (next (perform crates) store call).state.Indexed crates ∧
          (next (perform crates) store call).limits = limits ∧
          (next (perform crates) store call).perDestination crates policy destination ≤
            limits.maxPerToken := by
      rintro store call ⟨indexed, rfl, bounded⟩ ⟨fresh, met⟩
      exact ⟨indexed_perform indexed fresh, limits_perform store call,
        bounded_perform injective indexed fresh met bounded⟩
    exact (invariant preserved ⟨opened, rfl, Nat.zero_le _⟩ along).2.2

end Store

/-! ## Two spellings of one token -/

private def lowerCase : PushRegistration :=
  .apns "aaaaaaaaaaaaaaaaaaaaaaaaaaaaaaaaaaaaaaaaaaaaaaaaaaaaaaaaaaaaaaaa"
    "org.openvtc.vta.agent" none

private def upperCase : PushRegistration :=
  .apns "AAAAAAAAAAAAAAAAAAAAAAAAAAAAAAAAAAAAAAAAAAAAAAAAAAAAAAAAAAAAAAAA"
    "org.openvtc.vta.agent" none

private def onePerToken : StoreLimits := ⟨4, 1, 60, 4⟩

private def spelledTwice : List StoreCall :=
  [.insertAt "first" lowerCase "did:web:vta.example" 0,
    .insertAt "second" upperCase "did:web:vta.example" 0]

private def spelledOnce : List StoreCall :=
  [.insertAt "first" lowerCase "did:web:vta.example" 0,
    .insertAt "second" lowerCase "did:web:vta.example" 0]

theorem Store.perDestination_le_spelled_once :
    (∀ front, front <+: spelledOnce → ∀ destination,
        (run (next (perform plainCrates)) (withLimits onePerToken) front).perDestination
          plainCrates .default destination ≤ onePerToken.maxPerToken) ↔
      Along (next (perform plainCrates)) (FullByText plainCrates .default)
        (withLimits onePerToken) spelledOnce :=
  perDestination_le_iff Function.injective_id onePerToken spelledOnce ⟨rfl, rfl, trivial⟩

/-- One device registers twice under a cap of one, in lower case and in upper case. -/
theorem Store.two_handles_for_one_device :
    ¬∀ (limits : StoreLimits) (policy : EgressPolicy) (calls : List StoreCall),
      (∀ call ∈ calls, call.Validated plainCrates policy) →
      Along (next (perform plainCrates)) (fun store call => call.Fresh store.state.handles)
        (withLimits limits) calls →
      ∀ destination, (run (next (perform plainCrates)) (withLimits limits) calls).perDestination
        plainCrates policy destination ≤ limits.maxPerToken := by
  intro bounded
  have valid : ∀ call ∈ spelledTwice, call.Validated plainCrates .default := by
    intro call member
    rcases List.mem_cons.mp member with rfl | member
    · rfl
    · rw [List.mem_singleton.mp member]
      rfl
  have twice := bounded onePerToken .default spelledTwice valid ⟨rfl, rfl, trivial⟩
    (.device (List.replicate 64 10))
  exact absurd twice (by decide)

end PushGateway
