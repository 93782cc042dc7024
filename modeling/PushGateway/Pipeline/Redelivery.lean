import PushGateway.Intake.Retention
import PushGateway.Pipeline.Authority

/-!
# Redelivered provisions

Documents delivered one after another to the whole pipeline.  A provision which was answered with
success is remembered, so that its redelivery changes no list: by its entry in the replay record,
and, where the stored list was already the one asked for, by nothing at all.  The run law is
therefore about the runs in which that shortcut is taken only for documents which are entered.
-/

namespace PushGateway

open ReplayGuard

variable {Guard DocumentDigest : Type} [ReplayGuard Guard String DocumentDigest Answer]
  {crates : Crates DocumentDigest} {outside : Surroundings}

/-! ## The record through a delivery -/

section Recorded

variable [DecidableEq DocumentDigest]

/-- What a delivery does to the ledger: nothing, or a claim, closed out if it was fresh. -/
inductive Recorded (caller : Option (String × DocumentOnce DocumentDigest))
    (before after : Ledger String String String DocumentDigest Answer) : Prop where
  | untouched (same : after = before)
  | claimed (issuer handle : String) (once : DocumentOnce DocumentDigest)
      (result : Except RejectReason (Admission Answer)) (called : caller = some (issuer, once))
      (claimed : before.Claimed issuer handle once.id once.digest once.retainUntil once.now result
        after)
      (stale : result ≠ .ok .fresh)
  | closed (issuer handle : String) (once : DocumentOnce DocumentDigest)
      (admitted : Ledger String String String DocumentDigest Answer) (response : Option Answer)
      (called : caller = some (issuer, once))
      (claimed : before.Claimed issuer handle once.id once.digest once.retainUntil once.now
        (.ok .fresh) admitted)
      (completed : after = admitted.complete issuer handle once.id once.digest response)

theorem DocumentOnce.closed_recorded [LawfulReplayGuard Guard] {state : AppState Guard}
    (wellFormed : state.replay.WellFormed state.bounds) {once : DocumentOnce DocumentDigest}
    {issuer handle : String} (fresh : (once.claim state issuer handle).1 = .ok .fresh)
    (response : Option Answer) :
    (once.closed state issuer handle response).WellFormed state.bounds ∧
      Recorded (some (issuer, once)) state.replay.ledger
        (once.closed state issuer handle response).ledger := by
  obtain ⟨_, claimed⟩ := once.claim_refines wellFormed issuer handle
  rw [fresh] at claimed
  obtain ⟨closed, completed⟩ := once.closed_refines wellFormed issuer handle response
  exact ⟨closed, .closed issuer handle once _ response rfl claimed completed⟩

/-- The record stays well-formed, and its ledger is only ever changed by the caller's claim. -/
theorem Handled.recorded [LawfulReplayGuard Guard]
    {caller : Option (String × DocumentOnce DocumentDigest)} {state after : AppState Guard}
    {doc : TrustTask} {answer : Answer}
    (handled : Handled crates outside caller state doc answer after)
    (wellFormed : state.replay.WellFormed state.bounds) :
    after.replay.WellFormed after.bounds ∧
      Recorded caller state.replay.ledger after.replay.ledger := by
  cases handled with
  | refused => exact ⟨wellFormed, .untouched rfl⟩
  | registered => exact ⟨wellFormed, .untouched rfl⟩
  | repeated => exact ⟨wellFormed, .untouched rfl⟩
  | held issuer handle once answer called stale =>
      obtain ⟨kept, claimed⟩ := once.claim_refines wellFormed issuer handle
      exact ⟨kept, .claimed issuer handle once _ called claimed stale⟩
  | provisioned issuer once request policy payload metrics called asked fresh =>
      subst called
      exact DocumentOnce.closed_recorded wellFormed fresh _
  | delivered issuer once request registration payload metrics called asked fresh =>
      subst called
      exact DocumentOnce.closed_recorded wellFormed fresh _
  | unregistered issuer once request registration payload metrics called asked fresh =>
      subst called
      exact DocumentOnce.closed_recorded wellFormed fresh _
  | failed issuer once request registration reason metrics called unhurried asked fresh =>
      subst called
      exact DocumentOnce.closed_recorded wellFormed fresh _

/-- A delivery leaves a document remembered which is not taken back while it is entered. -/
theorem Recorded.remembers {caller : Option (String × DocumentOnce DocumentDigest)}
    {before after : Ledger String String String DocumentDigest Answer} {now : DateTime}
    {readings : List DateTime} {issuer id : String} {digest : DocumentDigest}
    {retain : Option DateTime} (recorded : Recorded caller before after)
    (remembers : before.Remembers readings issuer id digest retain)
    (current : ∀ issuer once, caller = some (issuer, once) → once.now = now)
    (entered : ∀ once, caller = some (issuer, once) → once.id = id → once.digest = digest →
      ∃ entry, (before.expire now).entries issuer id = some entry) :
    after.Remembers (now :: readings) issuer id digest retain := by
  cases recorded with
  | untouched same => exact same ▸ remembers.weaken now
  | claimed other handle once result called claimed stale =>
      rw [← current other once called]
      exact remembers.claimed claimed
  | closed other handle once admitted response called claimed completed =>
      have now_eq := current other once called
      rw [completed, ← now_eq]
      refine (remembers.claimed claimed).complete ?_
      rintro rfl ⟨rfl, rfl, rfl⟩
      obtain ⟨entry, found⟩ := entered once called rfl rfl
      rw [← now_eq, claimed.of_fresh.1] at found
      cases found

end Recorded

/-! ## A run of deliveries -/

/-- One document as it is delivered. -/
structure Delivery where
  outside : Surroundings
  transportSender : Option String
  body : Value
  doc : TrustTask

/-- The gateway, every clock reading so far, and the provisions answered with success, each with
the issuer who proved it. -/
structure Journal (Guard : Type) where
  app : AppState Guard
  readings : List DateTime
  answered : List (String × TrustTask)

namespace Journal

/-- The issuer a delivered provision is answered for with success. -/
def provisionAnswered (delivery : Delivery) (answer : Answer) : List (String × TrustTask) :=
  match delivery.outside.verifyIssuer delivery.body with
  | .ok issuer =>
      if delivery.doc.typeUri.names "push/provision" ∧ ¬answer.isError then [(issuer, delivery.doc)]
      else []
  | .error _ => []

/-- Receive one document. -/
def step (crates : Crates DocumentDigest) (journal : Journal Guard) (delivery : Delivery) :
    Journal Guard :=
  let (answer, app) := receiveDocument crates delivery.outside journal.app
    delivery.transportSender delivery.body delivery.doc
  { app := app
    readings := delivery.outside.now :: journal.readings
    answered := provisionAnswered delivery answer ++ journal.answered }

/-- A gateway whose replay record is empty. -/
def initial (app : AppState Guard) : Journal Guard :=
  ⟨{ app with replay := ReplayRecord.new }, [], []⟩

/-- The delivery's clock reading is less than the margin below every earlier one. -/
def Steady (journal : Journal Guard) (delivery : Delivery) : Prop :=
  ∀ reading ∈ journal.readings, reading - delivery.outside.now < retentionMargin

instance (journal : Journal Guard) (delivery : Delivery) : Decidable (journal.Steady delivery) :=
  inferInstanceAs (Decidable (∀ reading ∈ journal.readings, _))

/-- A provision of the list which is stored already is one the record holds. -/
def RecordsRepeated (crates : Crates DocumentDigest) (journal : Journal Guard)
    (delivery : Delivery) : Prop :=
  ∀ issuer once request policy,
    Accepted crates delivery.outside journal.app delivery.transportSender delivery.body
      delivery.doc issuer once →
    Provisioning crates journal.app delivery.doc issuer request policy →
    journal.app.store.allowlistIs request.handle policy.allowedTriggers = true →
    ∃ entry, (journal.app.replay.ledger.expire delivery.outside.now).entries issuer once.id =
        some entry ∧ entry.digest = once.digest

/-- If the document was answered for its issuer before, the delivery changes no list. -/
def Harmless (crates : Crates DocumentDigest) (journal : Journal Guard) (delivery : Delivery) :
    Prop :=
  ∀ issuer, (issuer, delivery.doc) ∈ journal.answered →
    (∀ other, delivery.outside.verifyIssuer delivery.body = .ok other → other = issuer) →
    ∀ handle, (journal.step crates delivery).app.store.allowlist handle =
      journal.app.store.allowlist handle

/-- Entries are kept as long as their documents' windows ask, and every provision answered with
success is remembered. -/
structure Sound (crates : Crates DocumentDigest) (journal : Journal Guard) : Prop where
  wellFormed : journal.app.replay.WellFormed journal.app.bounds
  dated : journal.app.replay.ledger.Each fun digest retain =>
    ∀ doc, crates.documentDigest doc = some digest → retain = retainUntil doc
  answered : ∀ issuer doc, (issuer, doc) ∈ journal.answered →
    doc.typeUri.names "push/provision" ∧ ∃ digest, crates.documentDigest doc = some digest ∧
      journal.app.replay.ledger.Remembers journal.readings issuer doc.id digest (retainUntil doc)

end Journal

/-- Two documents of one digest are retained alike. -/
theorem Crates.CoversTimes.retainUntil_eq (covers : crates.CoversTimes) {doc doc' : TrustTask}
    {digest : DocumentDigest} (digested : crates.documentDigest doc = some digest)
    (digested' : crates.documentDigest doc' = some digest) :
    retainUntil doc = retainUntil doc' := by
  obtain ⟨issued, expires⟩ := covers doc doc' digest digested digested'
  simp only [retainUntil, acceptUntil, issued, expires]

omit [ReplayGuard Guard String DocumentDigest Answer] in
/-- What an accepted document's admission step was built from. -/
theorem Accepted.window {state : AppState Guard} {transportSender : Option String} {body : Value}
    {doc : TrustTask} {issuer : String} {once : DocumentOnce DocumentDigest}
    (accepted : Accepted crates outside state transportSender body doc issuer once) :
    crates.documentDigest doc = some once.digest ∧ once.retainUntil = retainUntil doc := by
  obtain ⟨_, _, passed⟩ := accepted.open_
  obtain ⟨_, _, _, digested, retained⟩ := checkWindow_ok passed
  exact ⟨digested, retained⟩

namespace Journal

theorem initial_sound (crates : Crates DocumentDigest) (app : AppState Guard) :
    (initial app).Sound crates where
  wellFormed := ReplayRecord.new_wellFormed app.bounds
  dated issuer id entry found := by cases found
  answered issuer doc member := by cases member

/-- A remembered document which is accepted again is still entered. -/
theorem entered_of_remembers {journal : Journal Guard} (validates : crates.Validates)
    (covers : crates.CoversTimes) {delivery : Delivery}
    (steady : journal.Steady delivery) {issuer : String} {once : DocumentOnce DocumentDigest}
    (accepted : Accepted crates delivery.outside journal.app delivery.transportSender delivery.body
      delivery.doc issuer once)
    {doc : TrustTask} (digested : crates.documentDigest doc = some once.digest)
    (remembers : journal.app.replay.ledger.Remembers journal.readings issuer once.id once.digest
      (retainUntil doc)) :
    ∃ entry, (journal.app.replay.ledger.expire delivery.outside.now).entries issuer once.id =
      some entry := by
  obtain ⟨did, identity, passed⟩ := accepted.open_
  obtain ⟨until_, retained, before⟩ := accepted_before_retention validates passed
  rw [covers.retainUntil_eq digested accepted.window.1, ← accepted.window.2, retained] at remembers
  obtain ⟨entry, found, _⟩ := remembers.present before steady
  exact ⟨entry, found⟩

variable [DecidableEq DocumentDigest]

/-- What was remembered before a delivery is remembered after it. -/
theorem remembers_step {journal : Journal Guard} (validates : crates.Validates)
    (covers : crates.CoversTimes) {delivery : Delivery} (steady : journal.Steady delivery)
    {caller : Option (String × DocumentOnce DocumentDigest)}
    (accepts : ∀ issuer once, caller = some (issuer, once) →
      Accepted crates delivery.outside journal.app delivery.transportSender delivery.body
        delivery.doc issuer once)
    {after : Ledger String String String DocumentDigest Answer}
    (recorded : Recorded caller journal.app.replay.ledger after) {issuer : String}
    {doc : TrustTask} {digest : DocumentDigest}
    (digested : crates.documentDigest doc = some digest)
    (remembers : journal.app.replay.ledger.Remembers journal.readings issuer doc.id digest
      (retainUntil doc)) :
    after.Remembers (delivery.outside.now :: journal.readings) issuer doc.id digest
      (retainUntil doc) := by
  refine recorded.remembers remembers (fun other once called => (accepts other once called).current)
    fun once called identified digested_once => ?_
  subst digested_once
  rw [← identified] at remembers ⊢
  exact entered_of_remembers validates covers steady (accepts issuer once called) digested remembers

theorem dated_step {journal : Journal Guard} (covers : crates.CoversTimes)
    (sound : journal.Sound crates) {delivery : Delivery}
    {caller : Option (String × DocumentOnce DocumentDigest)}
    (accepts : ∀ issuer once, caller = some (issuer, once) →
      Accepted crates delivery.outside journal.app delivery.transportSender delivery.body
        delivery.doc issuer once)
    {after : Ledger String String String DocumentDigest Answer}
    (recorded : Recorded caller journal.app.replay.ledger after) :
    after.Each fun digest retain =>
      ∀ doc, crates.documentDigest doc = some digest → retain = retainUntil doc := by
  have entering : ∀ issuer once, caller = some (issuer, once) →
      ∀ doc, crates.documentDigest doc = some once.digest → once.retainUntil = retainUntil doc := by
    intro issuer once called doc digested
    obtain ⟨own, retained⟩ := (accepts issuer once called).window
    rw [retained, covers.retainUntil_eq own digested]
  cases recorded with
  | untouched same => exact same ▸ sound.dated
  | claimed issuer handle once result called claimed =>
      exact sound.dated.claimed (entering issuer once called) claimed
  | closed issuer handle once admitted response called claimed completed =>
      rw [completed]
      exact (sound.dated.claimed (entering issuer once called) claimed).complete response

theorem mem_provisionAnswered {delivery : Delivery} {answer : Answer} {issuer : String}
    {doc : TrustTask} (member : (issuer, doc) ∈ provisionAnswered delivery answer) :
    doc = delivery.doc ∧ delivery.outside.verifyIssuer delivery.body = .ok issuer ∧
      delivery.doc.typeUri.names "push/provision" ∧ answer.isError = false := by
  simp only [provisionAnswered] at member
  split at member
  · rename_i proven verified
    split at member
    · rename_i answered
      cases List.mem_singleton.mp member
      exact ⟨rfl, verified, answered.1, by simpa using answered.2⟩
    · cases member
  · cases member

variable [LawfulReplayGuard Guard]

/-- A provision answered with success is in the record after it. -/
theorem entered_of_answered {journal : Journal Guard} (sound : journal.Sound crates)
    {delivery : Delivery} (records : journal.RecordsRepeated crates delivery)
    {caller : Option (String × DocumentOnce DocumentDigest)}
    (accepts : ∀ issuer once, caller = some (issuer, once) →
      Accepted crates delivery.outside journal.app delivery.transportSender delivery.body
        delivery.doc issuer once)
    {answer : Answer} {after : AppState Guard}
    (handled : Handled crates delivery.outside caller journal.app delivery.doc answer after)
    (named : delivery.doc.typeUri.names "push/provision") (success : answer.isError = false) :
    ∃ issuer once, caller = some (issuer, once) ∧
      ∃ entry, after.replay.ledger.entries issuer once.id = some entry ∧
        entry.digest = once.digest := by
  cases handled with
  | refused => cases success
  | registered _ _ _ register => exact absurd (named.unique register) (by decide)
  | repeated issuer once request policy payload metrics called asked same =>
      obtain ⟨entry, found, digested⟩ :=
        records issuer once request policy (accepts issuer once called) asked same
      exact ⟨issuer, once, called, entry, (Option.filter_eq_some_iff.mp found).1, digested⟩
  | held issuer handle once answer called stale prior =>
      have claimed := (once.claim_refines sound.wellFormed issuer handle).2
      rcases prior with answered | ⟨reason, _, rfl⟩
      · rw [answered] at claimed
        exact ⟨issuer, once, called, claimed.of_answered⟩
      · cases success
  | provisioned issuer once request policy payload metrics called asked fresh =>
      have claimed := (once.claim_refines sound.wellFormed issuer request.handle).2
      rw [fresh] at claimed
      refine ⟨issuer, once, called, ?_⟩
      dsimp only
      rw [(once.closed_refines sound.wellFormed issuer request.handle _).2, claimed.of_fresh.2]
      simp [Ledger.complete, Ledger.recordResponse, Ledger.accept, Ledger.charge, Ledger.enter]
  | delivered issuer once request registration payload metrics called asked =>
      exact absurd (named.unique asked.named) (by decide)
  | unregistered issuer once request registration payload metrics called asked =>
      exact absurd (named.unique asked.named) (by decide)
  | failed => cases success

theorem sound_step {journal : Journal Guard} (validates : crates.Validates)
    (covers : crates.CoversTimes) (sound : journal.Sound crates) {delivery : Delivery}
    (steady : journal.Steady delivery) (records : journal.RecordsRepeated crates delivery) :
    (journal.step crates delivery).Sound crates := by
  obtain ⟨caller, accepts, handled⟩ := receiveDocument_handled crates delivery.outside journal.app
    delivery.transportSender delivery.body delivery.doc
  simp only [step]
  generalize receiveDocument crates delivery.outside journal.app delivery.transportSender
    delivery.body delivery.doc = received at *
  obtain ⟨answer, after⟩ := received
  obtain ⟨wellFormed, recorded⟩ := handled.recorded sound.wellFormed
  have dated := dated_step covers sound accepts recorded
  refine ⟨wellFormed, dated, fun issuer doc member => ?_⟩
  rcases List.mem_append.mp member with new | old
  · obtain ⟨rfl, verified, named, success⟩ := mem_provisionAnswered new
    obtain ⟨proven, once, called, entry, found, digested⟩ :=
      entered_of_answered sound records accepts handled named success
    have accepted := accepts proven once called
    cases verified.symm.trans accepted.authenticated.proven
    refine ⟨named, once.digest, accepted.window.1, .inl ⟨entry, ?_, digested, ?_⟩⟩
    · rw [← accepted.identified]
      exact found
    · exact dated issuer once.id entry found delivery.doc (digested ▸ accepted.window.1)
  · obtain ⟨named, digest, digested, remembers⟩ := sound.answered issuer doc old
    exact ⟨named, digest, digested,
      remembers_step validates covers steady accepts recorded digested remembers⟩

/-- A document which is remembered changes no list. -/
theorem harmless_of_sound {journal : Journal Guard} (validates : crates.Validates)
    (covers : crates.CoversTimes) (sound : journal.Sound crates) {delivery : Delivery}
    (steady : journal.Steady delivery) : journal.Harmless crates delivery := by
  intro issuer member sole handle
  obtain ⟨named, digest, digested, remembers⟩ := sound.answered issuer delivery.doc member
  obtain ⟨caller, accepts, handled⟩ := receiveDocument_handled crates delivery.outside journal.app
    delivery.transportSender delivery.body delivery.doc
  simp only [step]
  generalize receiveDocument crates delivery.outside journal.app delivery.transportSender
    delivery.body delivery.doc = received at *
  obtain ⟨answer, after⟩ := received
  dsimp only at handled ⊢
  cases handled with
  | refused => rfl
  | registered _ _ _ register => exact absurd (named.unique register) (by decide)
  | repeated => rfl
  | held => rfl
  | provisioned proven once request policy payload metrics called asked fresh =>
      have accepted := accepts proven once called
      cases sole proven accepted.authenticated.proven
      cases digested.symm.trans accepted.window.1
      rw [← accepted.identified] at remembers
      obtain ⟨entry, found⟩ := entered_of_remembers validates covers steady accepted
        accepted.window.1 remembers
      have claimed := (once.claim_refines sound.wellFormed issuer request.handle).2
      rw [fresh] at claimed
      rw [← accepted.current, claimed.of_fresh.1] at found
      cases found
  | delivered proven once request registration payload metrics called asked =>
      exact absurd (named.unique asked.named) (by decide)
  | unregistered proven once request registration payload metrics called asked =>
      exact absurd (named.unique asked.named) (by decide)
  | failed => rfl

/-- In every run of deliveries whose clock readings fall back by less than the margin, and which
repeats a stored list only in documents the record holds, the redelivery of a provision answered
with success changes no list. -/
theorem redelivery_harmless (crates : Crates DocumentDigest) (validates : crates.Validates)
    (covers : crates.CoversTimes) (app : AppState Guard) (deliveries : List Delivery)
    (steady : Execution.Along (step crates) Steady (initial app) deliveries)
    (records : Execution.Along (step crates) (RecordsRepeated crates) (initial app) deliveries) :
    Execution.Along (step crates) (Harmless crates) (initial app) deliveries := by
  have preserved : ∀ (journal : Journal Guard) delivery, journal.Sound crates →
      journal.Steady delivery ∧ journal.RecordsRepeated crates delivery →
      (journal.step crates delivery).Sound crates :=
    fun journal delivery sound met => sound_step validates covers sound met.1 met.2
  refine Execution.along_mono (fun journal delivery met => ?_)
    (Execution.along_with_invariant preserved (initial_sound crates app)
      (Execution.along_and.mpr ⟨steady, records⟩))
  exact harmless_of_sound validates covers met.1 met.2.1

end Journal

/-- A provision of another list than the stored one takes no shortcut. -/
theorem Journal.recordsRepeated_of_differs {journal : Journal Guard} {delivery : Delivery}
    {request : ProvisionRequest} {policy : WakeTriggerPolicy}
    (decoded : Value.decodeProvisionRequest delivery.doc.payload = some request)
    (normalised : request.policy.validateAndNormalize = .ok policy)
    (differs : journal.app.store.allowlistIs request.handle policy.allowedTriggers = false) :
    journal.RecordsRepeated crates delivery := by
  intro issuer once other otherPolicy accepted asked same
  cases decoded.symm.trans asked.decoded
  cases normalised.symm.trans asked.normalised
  rw [differs] at same
  cases same

/-! ## A revocation undone -/

/-- The controller delivers a document at time zero. -/
private def byController (doc : TrustTask) : Delivery :=
  ⟨smallSurroundings "did:web:vta.example" 0 .delivered, none, smallBody, doc⟩

/-- A new trigger is opened, every trigger is revoked, and the opening is delivered again. -/
private def reopened : List Delivery :=
  [byController (smallProvision "open" ["did:web:other.example"]),
    byController (smallProvision "revoke" []),
    byController (smallProvision "open" ["did:web:other.example"])]

/-- The same with the trigger which is on the list to begin with. -/
private def restored : List Delivery :=
  [byController (smallProvision "open" ["did:web:trigger.example"]),
    byController (smallProvision "revoke" []),
    byController (smallProvision "open" ["did:web:trigger.example"])]

theorem Journal.redelivery_harmless_after_revocation :
    Execution.Along (step plainCrates) (Harmless plainCrates) (initial smallGateway) reopened :=
  redelivery_harmless plainCrates plainCrates_validates plainCrates_coversTimes smallGateway
    reopened (by decide)
    ⟨recordsRepeated_of_differs rfl rfl (by decide),
      recordsRepeated_of_differs rfl rfl (by decide),
      recordsRepeated_of_differs rfl rfl (by decide), trivial⟩

/-- The first opening changes nothing and is not recorded, so its redelivery undoes the
revocation. -/
theorem Journal.redelivery_undoes_revocation :
    ¬∀ (app : AppState (ReferenceGuard String PlainDigest Answer)) (deliveries : List Delivery),
      Execution.Along (step plainCrates) Steady (initial app) deliveries →
      Execution.Along (step plainCrates) (Harmless plainCrates) (initial app) deliveries := by
  intro harmless
  obtain ⟨_, _, redelivered, _⟩ := harmless smallGateway restored (by decide)
  have unchanged := redelivered "did:web:vta.example"
    (List.mem_cons_of_mem _ List.mem_cons_self)
    (fun other verified => (Except.ok.inj verified).symm) "handle"
  exact absurd unchanged (by decide)

end PushGateway
