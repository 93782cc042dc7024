import PushGateway.Pipeline.Outcome
import PushGateway.Replay.Concurrent

/-!
# A refusal leaves no trace

A delivery answered with an error leaves the store as it was and the replay record as it was but
for what had expired.  The one exception is a wake whose push fails: closing it out takes every
charge for the document off the handle, and so also a live one which an earlier delivery left
there without its entry.
-/

namespace PushGateway

open ReplayGuard

/-! ## Taking back what was admitted -/

namespace Ledger

variable {Issuer Handle Id Digest Response : Type} [DecidableEq Issuer] [DecidableEq Handle]
  [DecidableEq Id]

theorem uncharge_eq_self_iff (ledger : Ledger Issuer Handle Id Digest Response) (handle : Handle)
    (issuer : Issuer) (id : Id) :
    ledger.uncharge handle issuer id = ledger ↔
      ∀ charge ∈ ledger.charges handle, ¬(charge.issuer = issuer ∧ charge.id = id) := by
  constructor
  · intro same charge member own
    rw [← same] at member
    simp [uncharge, own] at member
  · intro none_own
    apply Ledger.ext
    · rfl
    · funext other
      simp only [uncharge]
      split
      · rename_i target
        rw [target, List.filter_eq_self]
        intro charge member
        simpa using not_and_or.mp (none_own charge member)
      · rfl
    · rfl

/-- Taking back a document which was not entered before leaves its handle uncharged for it. -/
theorem complete_accept [DecidableEq Digest] {ledger : Ledger Issuer Handle Id Digest Response}
    {issuer : Issuer} {id : Id} (absent : ledger.entries issuer id = none) (handle : Handle)
    (digest : Digest) (retainUntil : Option DateTime) :
    (ledger.accept issuer handle id digest retainUntil).complete issuer handle id digest none =
      ledger.uncharge handle issuer id := by
  apply Ledger.ext
  · funext other otherId
    simp only [complete, withdraw, uncharge, accept, charge, enter]
    split
    · rename_i same
      rw [same.1, same.2, absent]
      simp [Retained.releasedBy]
    · rfl
  · funext other
    simp only [complete, withdraw, uncharge, accept, charge, enter]
    split
    · simp [List.filter_append]
    · rfl
  · rfl

end Ledger

variable {Guard DocumentDigest : Type} [ReplayGuard Guard String DocumentDigest Answer]
  {crates : Crates DocumentDigest}
  {outside : Surroundings}

/-! ## What a failed push takes back -/

/-- The store is as it was, and the record's ledger too, but for what has expired. -/
structure LeavesNoTrace (state after : AppState Guard) (now : DateTime) : Prop where
  store : after.store = state.store
  replay : after.replay.ledger = state.replay.ledger ∨
    after.replay.ledger = state.replay.ledger.expire now

variable (crates outside) in
/-- The delivery is an admitted wake whose push fails, on a handle which already has a live charge
for the document. -/
structure Strands (state : AppState Guard) (transportSender : Option String) (body : Value)
    (doc : TrustTask) (issuer : String) (once : DocumentOnce DocumentDigest)
    (request : WakeRequest) (registration : PushRegistration) : Prop where
  accepted : Accepted crates outside state transportSender body doc issuer once
  unhurried : outside.allowDid issuer = true
  asked : Waking state doc issuer request registration
  fresh : (once.claim state issuer request.handle).1 = .ok .fresh
  failure : (outside.send registration request.payload).getD .transientFailure = .transientFailure
  charged : ∃ charge ∈ state.replay.charges request.handle,
    charge.issuer = issuer ∧ charge.id = doc.id ∧ unexpired charge.retainUntil outside.now = true

/-- What an admitted wake whose push fails comes to. -/
theorem Strands.received {state : AppState Guard} {transportSender : Option String} {body : Value}
    {doc : TrustTask} {issuer : String} {once : DocumentOnce DocumentDigest}
    {request : WakeRequest} {registration : PushRegistration}
    (strands : Strands crates outside state transportSender body doc issuer once request
      registration) :
    receiveDocument crates outside state transportSender body doc =
      (rejectValue outside doc
          (.taskFailed "transient push-service failure; message remains queued"),
        { state.pushed registration request.payload with
          replay := once.closed state issuer request.handle none
          metrics := state.metrics.incWakeTransientFailure }) := by
  obtain ⟨accepted, unhurried, asked, fresh, failure, _⟩ := strands
  have identified := accepted.identified
  obtain ⟨_, admitted⟩ | ⟨stale, _⟩ := admitOnce_cases outside once state issuer request.handle doc
  · have register : ¬doc.typeUri.names "push/register" := by
      simp [TypeUri.names, asked.named.1]
    have provision : ¬doc.typeUri.names "push/provision" := by
      simp [TypeUri.names, asked.named.1]
    have selected : (select state.senders registration).isNone = false := by
      rw [Option.isNone_eq_false_iff]
      exact asked.selected
    simp only [accepted.received, dispatchPushOnce, register, provision, asked.named, if_false,
      if_true, Option.any_some, unhurried, Bool.not_true, Bool.false_eq_true, handleWake, parse,
      asked.decoded, asked.bounded, asked.allowed, selected, admitted, pushWake, failure, complete,
      DocumentOnce.closed, identified, AppState.pushed]
  · exact absurd fresh stale

section Lawful

variable [DecidableEq DocumentDigest] [LawfulReplayGuard Guard]

/-- A document which was admitted and taken back leaves the handle uncharged for it. -/
theorem ledger_closed_none {state : AppState Guard}
    (wellFormed : state.replay.WellFormed state.bounds) {once : DocumentOnce DocumentDigest}
    {issuer handle : String} (fresh : (once.claim state issuer handle).1 = .ok .fresh) :
    (once.closed state issuer handle none).ledger =
      (state.replay.ledger.expire once.now).uncharge handle issuer once.id := by
  have claimed := (once.claim_refines wellFormed issuer handle).2
  rw [fresh] at claimed
  obtain ⟨absent, admitted⟩ := claimed.of_fresh
  rw [(once.closed_refines wellFormed issuer handle none).2, admitted,
    Ledger.complete_accept absent]

/-- An error answer leaves no trace, except exactly where a failed wake takes back a live charge
which was there before it.  The record is any which concurrent callers can have left. -/
theorem receiveDocument_refusal_iff (crates : Crates DocumentDigest) (outside : Surroundings)
    (state : AppState Guard)
    (actions : List (Action String String String DocumentDigest Answer))
    (reached : state.replay =
      (Pool.after state.bounds actions :
        Pool Guard String String String DocumentDigest Answer).record)
    (transportSender : Option String) (body : Value) (doc : TrustTask) :
    ((receiveDocument crates outside state transportSender body doc).1.isError = true →
        LeavesNoTrace state (receiveDocument crates outside state transportSender body doc).2
          outside.now) ↔
      ¬∃ issuer once request registration,
        Strands crates outside state transportSender body doc issuer once request registration := by
  have wellFormed : state.replay.WellFormed state.bounds := reached ▸ Pool.after_wellFormed _ _
  constructor
  · rintro traceless ⟨issuer, once, request, registration, strands⟩
    rw [strands.received] at traceless
    have kept := (traceless rfl).replay
    rw [ledger_closed_none wellFormed strands.fresh, strands.accepted.identified,
      strands.accepted.current] at kept
    obtain ⟨charge, member, own, same, live⟩ := strands.charged
    -- The live charge is in the ledger and in the expired ledger, and not in the uncharged one.
    have missing : ∀ ledger : Ledger String String String DocumentDigest Answer,
        charge ∈ ledger.charges request.handle →
        (state.replay.ledger.expire outside.now).uncharge request.handle issuer doc.id ≠
          ledger := by
      rintro _ present rfl
      simp [Ledger.uncharge, own, same] at present
    rcases kept with kept | kept
    · exact missing _ member kept
    · exact missing _ (List.mem_filter.mpr ⟨member, live⟩) kept
  · intro not_stranded error
    obtain ⟨caller, accepts, handled⟩ :=
      receiveDocument_handled crates outside state transportSender body doc
    generalize receiveDocument crates outside state transportSender body doc = received at *
    obtain ⟨answer, after⟩ := received
    dsimp only at handled error ⊢
    cases handled with
    | refused => exact ⟨rfl, .inl rfl⟩
    | held issuer handle once _ called stale =>
        have claimed := (once.claim_refines wellFormed issuer handle).2
        rw [← (accepts issuer once called).current]
        exact ⟨rfl, .inr (claimed.ledger_of_not_fresh stale)⟩
    | failed issuer once request registration reason metrics called unhurried asked fresh failure =>
        have accepted := accepts issuer once called
        refine ⟨rfl, .inr ?_⟩
        rw [ledger_closed_none wellFormed fresh, accepted.identified, accepted.current,
          Ledger.uncharge_eq_self_iff]
        rintro charge member ⟨own, same⟩
        obtain ⟨present, live⟩ := List.mem_filter.mp member
        exact not_stranded ⟨issuer, once, request, registration, accepted, unhurried, asked, fresh,
          failure, charge, present, own, same, live⟩
    | registered => cases error
    | repeated => cases error
    | provisioned => cases error
    | delivered => cases error
    | unregistered => cases error

end Lawful

/-! ## A charge left by a race -/

private def wakeDigest (id : String) : PlainDigest :=
  ⟨id, ⟨"push/wake", 0, 2, "push/wake"⟩, some 0, none⟩

/-- The trigger's claim of a wake, whose retention ends with the document's window. -/
private def wakeClaim (trigger handle id : String) :
    Call String String String PlainDigest Answer :=
  .claim trigger handle id (wakeDigest id) (some (TimeDelta.seconds 361)) 0

/-- The second partition drops the guard which the first claim holds; both claims then finish. -/
private def orphaning : List (Action String String String PlainDigest Answer) :=
  [.spawn (wakeClaim "did:web:trigger.example" "handle" "first"),
    .spawn (wakeClaim "did:web:other.example" "another" "second"), .advance 0, .advance 1,
    .advance 0, .advance 0, .advance 1, .advance 1]

private def racedGateway : AppState (ReferenceGuard String PlainDigest Answer) :=
  { smallGateway with
    replay := (Pool.after smallGateway.bounds orphaning :
      Pool (ReferenceGuard String PlainDigest Answer) String String String PlainDigest
        Answer).record }

private def failedPush : Surroundings :=
  smallSurroundings "did:web:trigger.example" 0 .transientFailure

theorem receiveDocument_refusal_of_failed_wake :
    ((receiveDocument plainCrates failedPush smallGateway none smallBody
          (smallWake "first")).1.isError = true →
        LeavesNoTrace smallGateway
          (receiveDocument plainCrates failedPush smallGateway none smallBody
            (smallWake "first")).2 failedPush.now) ↔
      ¬∃ issuer once request registration,
        Strands plainCrates failedPush smallGateway none smallBody (smallWake "first") issuer once
          request registration :=
  receiveDocument_refusal_iff plainCrates failedPush smallGateway [] rfl none smallBody
    (smallWake "first")

/-- The failed wake takes the charge of the claim whose guard was dropped with its own. -/
theorem receiveDocument_refusal_takes_charge :
    ¬∀ (outside : Surroundings) (state : AppState (ReferenceGuard String PlainDigest Answer))
      (actions : List (Action String String String PlainDigest Answer)),
      state.replay = (Pool.after state.bounds actions :
        Pool (ReferenceGuard String PlainDigest Answer) String String String PlainDigest
          Answer).record →
      ∀ (transportSender : Option String) (body : Value) (doc : TrustTask),
        (receiveDocument plainCrates outside state transportSender body doc).1.isError = true →
        LeavesNoTrace state (receiveDocument plainCrates outside state transportSender body doc).2
          outside.now := by
  intro traceless
  have kept := (traceless failedPush racedGateway orphaning rfl none smallBody (smallWake "first")
    (by decide)).replay
  rcases kept with kept | kept
  · exact absurd (congrArg (fun ledger => (ledger.charges "handle").length) kept) (by decide)
  · exact absurd (congrArg (fun ledger => (ledger.charges "handle").length) kept) (by decide)

end PushGateway
