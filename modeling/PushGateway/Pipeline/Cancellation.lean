import PushGateway.Replay.InFlight
import PushGateway.Pipeline.Server

/-!
# Dropped requests

A request which claims its document closes the claim out before it answers, but a request which is
dropped in between leaves its entry in flight.  The claims are closed out along a run exactly when
no request is dropped which alone holds an entry in flight.
-/

namespace PushGateway

open Execution

variable {Guard DocumentDigest : Type} {crates : Crates DocumentDigest}

/-! ## The handle of a document -/

/-- The handle which a provision or a wake names. -/
def TrustTask.handle (doc : TrustTask) : Option String :=
  if doc.typeUri.names "push/provision" then
    (Value.decodeProvisionRequest doc.payload).map ProvisionRequest.handle
  else (Value.decodeWakeRequest doc.payload).map WakeRequest.handle

/-- A document's digest covers the handle which it names. -/
def Crates.CoversHandle (crates : Crates DocumentDigest) : Prop :=
  ∀ doc doc' digest, crates.documentDigest doc = some digest →
    crates.documentDigest doc' = some digest → doc.handle = doc'.handle

/-- A document of this digest names this handle. -/
def Crates.NamesHandle (crates : Crates DocumentDigest) (digest : DocumentDigest)
    (handle : String) : Prop :=
  ∃ doc, crates.documentDigest doc = some digest ∧ doc.handle = some handle

theorem Crates.CoversHandle.eq (covers : crates.CoversHandle) {digest : DocumentDigest}
    {handle other : String} (named : crates.NamesHandle digest handle)
    (named_other : crates.NamesHandle digest other) : other = handle := by
  obtain ⟨doc, digested, names⟩ := named
  obtain ⟨doc', digested', names'⟩ := named_other
  exact Option.some.inj
    (names'.symm.trans ((covers doc' doc digest digested' digested).trans names))

theorem Waking.handle_eq {state : AppState Guard} {doc : TrustTask} {issuer : String}
    {request : WakeRequest} {registration : PushRegistration}
    (asked : Waking state doc issuer request registration) :
    doc.handle = some request.handle := by
  have other : ¬doc.typeUri.names "push/provision" := fun names =>
    absurd (names.unique asked.named) (by decide)
  rw [TrustTask.handle, if_neg other, asked.decoded]
  rfl

theorem Accepted.namesHandle {outside : Surroundings} {state : AppState Guard}
    {transportSender : Option String} {body : Value} {doc : TrustTask} {issuer handle : String}
    {once : DocumentOnce DocumentDigest}
    (accepted : Accepted crates outside state transportSender body doc issuer once)
    (names : doc.handle = some handle) : crates.NamesHandle once.digest handle :=
  ⟨doc, accepted.window.1, names⟩

theorem Provisioning.handle_eq {state : AppState Guard} {doc : TrustTask} {caller : String}
    {request : ProvisionRequest} {policy : WakeTriggerPolicy}
    (asked : Provisioning crates state doc caller request policy) :
    doc.handle = some request.handle := by
  rw [TrustTask.handle, if_pos asked.named, asked.decoded]
  rfl

/-! ## The claim of a request -/

variable [ReplayGuard Guard String DocumentDigest Answer]

namespace Stage

/-- The request is in progress and has claimed this document. -/
def Claims (stage : Stage DocumentDigest) (issuer id : String) (digest : DocumentDigest) : Prop :=
  ∃ once effect, stage.claim = some (once, effect) ∧ effect.issuer = issuer ∧ once.id = id ∧
    once.digest = digest

variable {state after : AppState Guard} {delivery : Delivery} {stage next : Stage DocumentDigest}
  {once : DocumentOnce DocumentDigest} {effect : Effect} {issuer id : String}
  {digest : DocumentDigest}

theorem claims_iff (claimed : stage.claim = some (once, effect)) :
    stage.Claims issuer id digest ↔
      effect.issuer = issuer ∧ once.id = id ∧ once.digest = digest := by
  simp [Claims, claimed, and_assoc]

theorem not_claims (unclaimed : stage.claim = none) : ¬stage.Claims issuer id digest := by
  simp [Claims, unclaimed]

theorem claim_of_abandons (abandoned : stage.abandons = some (once, effect)) :
    stage.claim = some (once, effect) := by
  cases stage with
  | admitted own claimed =>
      cases claimed with
      | provision => cases abandoned
      | wake => exact abandoned
  | closing => exact abandoned
  | received => cases abandoned
  | checked => cases abandoned
  | admitting => cases abandoned
  | ended => cases abandoned

/-- The response which is about to be kept is the one which will be answered. -/
def KeepsAnswer : Stage DocumentDigest → Prop
  | .closing _ _ response finish => ∀ own ∈ response, finish = .respond own
  | .received | .checked _ _ _ _ | .admitting _ _ | .admitted _ _ | .ended _ => True

theorem Advanced.keepsAnswer (advanced : stage.Advanced crates delivery state after next) :
    next.KeepsAnswer ∨ next = stage := by
  cases advanced with
  | provisioned => exact .inl fun own kept => congrArg Finish.respond (Option.some.inj kept)
  | unprovisioned => exact .inl fun own kept => by cases kept
  | pushed once trigger request registration store metrics response answer removed same =>
      exact .inl fun own kept => congrArg Finish.respond (same own kept).symm
  | refused => exact .inl trivial
  | registered => exact .inl trivial
  | checked => exact .inl trivial
  | authorised => exact .inl trivial
  | repeated => exact .inl trivial
  | differing => exact .inl trivial
  | held => exact .inl trivial
  | admitted => exact .inl trivial
  | closed => exact .inl trivial
  | idle => exact .inr rfl

/-- What a step of a request does to the ledger, and to the request's own claim. -/
inductive Books [DecidableEq DocumentDigest] (stage next : Stage DocumentDigest)
    (before after : Ledger String String String DocumentDigest Answer) : Prop
  | kept (same : after = before) (claim : next.claim = stage.claim)
  | expired (now : DateTime) (same : after = before.expire now) (unclaimed : stage.claim = none)
      (unclaimed_next : next.claim = none)
  | claimed (once : DocumentOnce DocumentDigest) (effect : Effect)
      (authorised : stage.effect = some (once, effect)) (unclaimed : stage.claim = none)
      (claim : next.claim = some (once, effect))
      (absent : (before.expire once.now).entries effect.issuer once.id = none)
      (accepted : after = (before.expire once.now).accept effect.issuer effect.handle once.id
        once.digest once.retainUntil)
  | completed (once : DocumentOnce DocumentDigest) (effect : Effect) (response : Option Answer)
      (claim : stage.claim = some (once, effect)) (closed : next.claim = none)
      (answers : stage.KeepsAnswer → ∃ answer, next = .ended (.built answer) ∧
        ∀ own ∈ response, own = answer)
      (completed : after = before.complete effect.issuer effect.handle once.id once.digest
        response)

theorem Advanced.books [DecidableEq DocumentDigest] [LawfulReplayGuard Guard]
    (advanced : stage.Advanced crates delivery state after next)
    (wellFormed : state.replay.WellFormed state.bounds) :
    after.replay.WellFormed after.bounds ∧
      stage.Books next state.replay.ledger after.replay.ledger := by
  cases advanced with
  | refused => exact ⟨wellFormed, .kept rfl rfl⟩
  | registered => exact ⟨wellFormed, .kept rfl rfl⟩
  | checked => exact ⟨wellFormed, .kept rfl rfl⟩
  | authorised => exact ⟨wellFormed, .kept rfl rfl⟩
  | repeated => exact ⟨wellFormed, .kept rfl rfl⟩
  | differing => exact ⟨wellFormed, .kept rfl rfl⟩
  | held once effect ending stale =>
      obtain ⟨kept, claimed⟩ := once.claim_refines wellFormed effect.issuer effect.handle
      exact ⟨kept, .expired once.now (claimed.ledger_of_not_fresh stale) rfl rfl⟩
  | admitted once effect fresh =>
      obtain ⟨kept, claimed⟩ := once.claim_refines wellFormed effect.issuer effect.handle
      rw [fresh] at claimed
      exact ⟨kept, .claimed once effect rfl rfl rfl claimed.of_fresh.1 claimed.of_fresh.2⟩
  | provisioned => exact ⟨wellFormed, .kept rfl rfl⟩
  | unprovisioned => exact ⟨wellFormed, .kept rfl rfl⟩
  | pushed => exact ⟨wellFormed, .kept rfl rfl⟩
  | closed once effect response finish metrics answer finished =>
      obtain ⟨kept, completed⟩ := ReplayRecord.complete_refines wellFormed effect.issuer
        effect.handle once.id once.digest response
      refine ⟨kept, .completed once effect response rfl rfl (fun keeps => ?_) completed⟩
      refine ⟨answer, rfl, fun own kept => ?_⟩
      obtain same | ⟨outcome, other, _⟩ := finished
      · exact Finish.respond.inj ((keeps own kept).symm.trans same)
      · cases (keeps own kept).symm.trans other
  | idle => exact ⟨wellFormed, .kept rfl rfl⟩

theorem Dropped.wellFormed [DecidableEq DocumentDigest] [LawfulReplayGuard Guard]
    (dropped : stage.Dropped state after next) (wellFormed : state.replay.WellFormed state.bounds) :
    after.replay.WellFormed after.bounds := by
  cases dropped with
  | unmoved => exact wellFormed
  | unheard => exact wellFormed
  | opened once effect =>
      exact (ReplayRecord.partition_spec wellFormed effect.issuer effect.handle once.now).1
  | abandoned _ once effect replay _ abandons left =>
      obtain rfl | rfl := left
      · exact wellFormed
      · exact ReplayRecord.uncharge_wellFormed wellFormed _ _ _

/-- A request is authorised for the handle which its document names, and about to keep what it will
answer. -/
structure Proper (crates : Crates DocumentDigest) (stage : Stage DocumentDigest) : Prop where
  named : ∀ once effect, stage.effect = some (once, effect) →
    crates.NamesHandle once.digest effect.handle
  answers : stage.KeepsAnswer

theorem proper_received : (Stage.received : Stage DocumentDigest).Proper crates where
  named once effect authorised := by cases authorised
  answers := trivial

theorem proper_ended (ending : Ending) :
    (Stage.ended ending : Stage DocumentDigest).Proper crates where
  named once effect authorised := by cases authorised
  answers := trivial

theorem Advanced.proper (advanced : stage.Advanced crates delivery state after next)
    (proper : stage.Proper crates) : next.Proper crates := by
  refine ⟨fun once effect authorised => ?_, ?_⟩
  · cases advanced with
    | refused => cases authorised
    | registered => cases authorised
    | checked own caller request policy accepted asked =>
        cases authorised
        exact accepted.namesHandle asked.handle_eq
    | authorised own trigger request registration accepted asked =>
        cases authorised
        exact accepted.namesHandle asked.handle_eq
    | repeated => cases authorised
    | differing => exact proper.named once effect authorised
    | held => cases authorised
    | admitted => exact proper.named once effect authorised
    | provisioned => exact proper.named once effect authorised
    | unprovisioned => exact proper.named once effect authorised
    | pushed => exact proper.named once effect authorised
    | closed => cases authorised
    | idle => cases authorised
  · obtain answers | same := advanced.keepsAnswer
    · exact answers
    · exact same ▸ proper.answers

theorem Dropped.proper (dropped : stage.Dropped state after next) (proper : stage.Proper crates) :
    next.Proper crates := by
  cases dropped with
  | unmoved => exact proper
  | unheard => exact proper_ended _
  | opened => exact proper_ended _
  | abandoned => exact proper_ended _

namespace Books

variable [DecidableEq DocumentDigest]
  {before booked : Ledger String String String DocumentDigest Answer}

theorem backed (books : stage.Books next before booked) (covers : crates.CoversHandle)
    (named : ∀ once effect, stage.effect = some (once, effect) →
      crates.NamesHandle once.digest effect.handle)
    (backed : before.Backed crates.NamesHandle) : booked.Backed crates.NamesHandle := by
  cases books with
  | kept same => exact same ▸ backed
  | expired now same => exact same ▸ backed.expire now
  | claimed once effect authorised unclaimed claim absent accepted =>
      exact accepted ▸ (backed.expire once.now).accept absent (named once effect authorised) _
  | completed once effect response claim closed answers completed =>
      have own := named once effect (effect_of_claim claim)
      exact completed ▸ backed.complete (fun _ other => covers.eq own other) _ _ response

/-- What the request has in flight after its step it has claimed. -/
theorem held (books : stage.Books next before booked)
    {beside : String → String → DocumentDigest → Prop}
    (held : before.Held fun issuer id digest =>
      stage.Claims issuer id digest ∨ beside issuer id digest) :
    booked.Held fun issuer id digest => next.Claims issuer id digest ∨ beside issuer id digest := by
  cases books with
  | kept same claim =>
      rw [same]
      refine held.mono fun issuer id digest => Or.imp_left fun claims => ?_
      rwa [Claims, claim]
  | expired now same unclaimed =>
      rw [same]
      exact (held.expire now).mono fun issuer id digest =>
        Or.imp_left fun claims => absurd claims (not_claims unclaimed)
  | claimed once effect authorised unclaimed claim absent accepted =>
      rw [accepted]
      have mine : next.Claims effect.issuer once.id once.digest :=
        (claims_iff claim).mpr ⟨rfl, rfl, rfl⟩
      exact ((held.expire once.now).mono fun issuer id digest =>
        Or.imp_left fun claims => absurd claims (not_claims unclaimed)).accept (.inl mine) _ _
  | completed once effect response claim closed answers completed =>
      rw [completed]
      refine (held.complete effect.issuer effect.handle once.id once.digest response).mono ?_
      rintro issuer id digest ⟨claims | others, open_⟩
      · obtain ⟨rfl, rfl, rfl⟩ := (claims_iff claim).mp claims
        exact absurd ⟨rfl, rfl, rfl⟩ open_
      · exact .inr others

end Books

end Stage

/-! ## The claims of a server -/

namespace Server

/-- A request in progress has claimed this document. -/
def HeldIn (requests : List (Delivery × Stage DocumentDigest)) (issuer id : String)
    (digest : DocumentDigest) : Prop :=
  ∃ (index : Nat) (request : Delivery × Stage DocumentDigest),
    requests[index]? = some request ∧ request.2.Claims issuer id digest

/-- So has a request other than this one. -/
def HeldBeside (requests : List (Delivery × Stage DocumentDigest)) (index : Nat)
    (issuer id : String) (digest : DocumentDigest) : Prop :=
  ∃ (other : Nat) (request : Delivery × Stage DocumentDigest), other ≠ index ∧
    requests[other]? = some request ∧ request.2.Claims issuer id digest

variable {requests : List (Delivery × Stage DocumentDigest)} {index : Nat}
  {request : Delivery × Stage DocumentDigest} {issuer id : String} {digest : DocumentDigest}

theorem heldIn_iff (found : requests[index]? = some request) :
    HeldIn requests issuer id digest ↔
      request.2.Claims issuer id digest ∨ HeldBeside requests index issuer id digest := by
  constructor
  · rintro ⟨other, holder, present, claims⟩
    by_cases same : other = index
    · subst same
      cases present.symm.trans found
      exact .inl claims
    · exact .inr ⟨other, holder, same, present, claims⟩
  · rintro (claims | ⟨other, holder, _, present, claims⟩)
    · exact ⟨index, request, found, claims⟩
    · exact ⟨other, holder, present, claims⟩

theorem heldIn_set (found : requests[index]? = some request)
    (next : Delivery × Stage DocumentDigest) :
    HeldIn (requests.set index next) issuer id digest ↔
      next.2.Claims issuer id digest ∨ HeldBeside requests index issuer id digest := by
  have inside : index < requests.length := (List.getElem?_eq_some_iff.mp found).1
  rw [heldIn_iff (List.getElem?_set_self inside)]
  apply or_congr_right
  apply exists_congr
  intro other
  apply exists_congr
  intro holder
  apply and_congr_right
  intro different
  rw [List.getElem?_set_ne (Ne.symm different)]

theorem heldIn_append_received (delivery : Delivery) :
    HeldIn (requests ++ [(delivery, .received)]) issuer id digest ↔
      HeldIn requests issuer id digest := by
  constructor
  · rintro ⟨other, holder, present, claims⟩
    rw [List.getElem?_append] at present
    split at present
    · exact ⟨other, holder, present, claims⟩
    · obtain ⟨_, member⟩ := List.getElem?_eq_some_iff.mp present
      cases List.mem_singleton.mp (member ▸ List.getElem_mem _)
      exact absurd claims (Stage.not_claims rfl)
  · rintro ⟨other, holder, present, claims⟩
    exact ⟨other, holder, List.getElem?_append_left
      (List.getElem?_eq_some_iff.mp present).1 ▸ present, claims⟩

/-- The record is well-formed, every request is proper, and every charge has its entry. -/
structure Sound (crates : Crates DocumentDigest) (server : Server Guard DocumentDigest) : Prop where
  wellFormed : server.app.replay.WellFormed server.app.bounds
  proper : ∀ request ∈ server.requests, request.2.Proper crates
  backed : server.app.replay.ledger.Backed crates.NamesHandle

/-- A gateway which has just started, with an empty replay record. -/
def opened (app : AppState Guard) : Server Guard DocumentDigest :=
  idle { app with replay := ReplayRecord.new }

theorem opened_sound (crates : Crates DocumentDigest) (app : AppState Guard) :
    (opened app : Server Guard DocumentDigest).Sound crates where
  wellFormed := ReplayRecord.new_wellFormed app.bounds
  proper _ member := by cases member
  backed _ _ member := by cases member

/-- No request is dropped which alone holds an entry in flight. -/
def Keeps (server : Server Guard DocumentDigest) : ServerAction → Prop
  | .drop index => ∀ request once effect, server.requests[index]? = some request →
      request.2.abandons = some (once, effect) →
      ∀ entry, server.app.replay.ledger.entries effect.issuer once.id = some entry →
        entry.digest = once.digest → entry.response = none →
        HeldBeside server.requests index effect.issuer once.id once.digest
  | .receive _ | .advance _ | .sweep _ _ => True

/-- Every claim is closed out by a request in progress, or has been. -/
structure ClosedOut (crates : Crates DocumentDigest) (server : Server Guard DocumentDigest) :
    Prop where
  held : server.app.replay.ledger.Held (HeldIn server.requests)
  quiet : (∀ request ∈ server.requests, ∃ ending, request.2 = .ended ending) →
    ∀ issuer id entry, server.app.replay.ledger.entries issuer id = some entry →
      entry.response ≠ none
  settled : ∀ issuer id digest, ¬HeldIn server.requests issuer id digest →
    ∀ handle, server.app.replay.ledger.Settled issuer handle id digest
  retried : ∀ issuer id digest, ¬HeldIn server.requests issuer id digest →
    ∀ handle retainUntil now, server.app.replay.ledger.Retried issuer id digest now
      (server.app.replay.claim server.app.bounds issuer handle id digest retainUntil now).1

/-- A request which ends with an answer has closed out what it claimed, and what is kept of it is
that answer, or the one which the entry had before and a release left. -/
def SettlesClaim (crates : Crates DocumentDigest) (server : Server Guard DocumentDigest) :
    ServerAction → Prop
  | .advance index => ∀ request once effect, server.requests[index]? = some request →
      request.2.claim = some (once, effect) →
      ∀ delivery ending, (server.step crates (.advance index)).requests[index]? =
          some (delivery, .ended ending) →
        (server.step crates (.advance index)).app.replay.ledger.Settled effect.issuer
            effect.handle once.id once.digest ∧
          ∃ answer, ending = .built answer ∧
            ∀ entry, (server.step crates (.advance index)).app.replay.ledger.entries
                effect.issuer once.id = some entry →
              entry.digest = once.digest →
              entry.response = some answer ∨
                ReplayGuard.keepsAnswered Guard = true ∧ entry.response ≠ none ∧
                  server.app.replay.ledger.entries effect.issuer once.id = some entry
  | .receive _ | .drop _ | .sweep _ _ => True

section Lawful

variable [DecidableEq DocumentDigest] [LawfulReplayGuard Guard]
  {server : Server Guard DocumentDigest}

theorem Sound.closedOut_iff (sound : server.Sound crates) :
    server.ClosedOut crates ↔ server.app.replay.ledger.Held (HeldIn server.requests) := by
  refine ⟨ClosedOut.held, fun held => ⟨held, ?_, ?_, ?_⟩⟩
  · intro ended issuer id entry found unanswered
    obtain ⟨index, request, present, claims⟩ := held issuer id entry found unanswered
    obtain ⟨ending, ends⟩ := ended request (List.mem_of_getElem? present)
    exact absurd claims (Stage.not_claims (ends ▸ rfl))
  · intro issuer id digest free handle
    refine sound.backed.settled fun entry found same unanswered => free ?_
    exact same ▸ held issuer id entry found unanswered
  · intro issuer id digest free handle retainUntil now
    exact held.retried free (ReplayRecord.claim_refines sound.wellFormed issuer handle id digest
      retainUntil now).2

theorem Sound.stepped (covers : crates.CoversHandle) (sound : server.Sound crates)
    {action : ServerAction} {after : Server Guard DocumentDigest}
    (stepped : server.Stepped crates action after) : after.Sound crates := by
  cases stepped with
  | received delivery =>
      exact ⟨sound.wellFormed, List.forall_mem_append.mpr
        ⟨sound.proper, List.forall_mem_singleton.mpr Stage.proper_received⟩, sound.backed⟩
  | advanced index delivery stage app next found advanced =>
      obtain ⟨wellFormed, books⟩ := advanced.books sound.wellFormed
      have proper := sound.proper _ (List.mem_of_getElem? found)
      exact ⟨wellFormed, forall_mem_set sound.proper (advanced.proper proper),
        books.backed covers proper.named sound.backed⟩
  | dropped index delivery stage app next found dropped =>
      have proper := sound.proper _ (List.mem_of_getElem? found)
      refine ⟨dropped.wellFormed sound.wellFormed,
        forall_mem_set sound.proper (dropped.proper proper), ?_⟩
      cases dropped with
      | unmoved => exact sound.backed
      | unheard => exact sound.backed
      | opened once effect =>
          dsimp only
          rw [(ReplayRecord.partition_spec sound.wellFormed effect.issuer effect.handle
            once.now).2.1]
          exact sound.backed.expire once.now
      | abandoned _ once effect replay _ abandons left =>
          obtain rfl | rfl := left
          · exact sound.backed
          · rw [ReplayRecord.ledger_uncharge]
            exact sound.backed.uncharge _ _ _
  | absent => exact sound
  | swept => exact ⟨sound.wellFormed, sound.proper, sound.backed⟩

/-- What is in flight stays held through a step exactly if no holder is dropped who is the only
one. -/
theorem held_stepped_iff (sound : server.Sound crates)
    (held : server.app.replay.ledger.Held (HeldIn server.requests)) {action : ServerAction}
    {after : Server Guard DocumentDigest} (stepped : server.Stepped crates action after) :
    after.app.replay.ledger.Held (HeldIn after.requests) ↔ server.Keeps action := by
  cases stepped with
  | received delivery =>
      refine ⟨fun _ => trivial, fun _ => held.mono fun issuer id digest => ?_⟩
      exact (heldIn_append_received delivery).mpr
  | advanced index delivery stage app next found advanced =>
      refine ⟨fun _ => trivial, fun _ => ?_⟩
      have books := (advanced.books sound.wellFormed).2
      exact (books.held (held.mono fun _ _ _ => (heldIn_iff found).mp)).mono fun _ _ _ =>
        (heldIn_set found (delivery, next)).mpr
  | dropped index delivery stage app next found dropped =>
      have keeps_of_none (kept : stage.abandons = none) : server.Keeps (.drop index) := by
        intro request once effect present abandons
        cases found.symm.trans present
        cases kept.symm.trans abandons
      cases dropped with
      | unmoved _ kept =>
          refine ⟨fun _ => keeps_of_none kept, fun _ => held.mono fun issuer id digest => ?_⟩
          exact fun holds => (heldIn_set found _).mpr ((heldIn_iff found).mp holds)
      | unheard =>
          refine ⟨fun _ => keeps_of_none rfl, fun _ => held.mono fun issuer id digest holds => ?_⟩
          obtain claims | others := (heldIn_iff found).mp holds
          · exact absurd claims (Stage.not_claims rfl)
          · exact (heldIn_set found _).mpr (.inr others)
      | opened once effect =>
          refine ⟨fun _ => keeps_of_none rfl, fun _ => ?_⟩
          dsimp only
          rw [(ReplayRecord.partition_spec sound.wellFormed effect.issuer effect.handle
            once.now).2.1]
          refine (held.expire once.now).mono fun issuer id digest holds => ?_
          obtain claims | others := (heldIn_iff found).mp holds
          · exact absurd claims (Stage.not_claims rfl)
          · exact (heldIn_set found _).mpr (.inr others)
      | abandoned _ once effect replay _ abandons left =>
          have entries : replay.ledger.entries = server.app.replay.ledger.entries := by
            obtain rfl | rfl := left
            · rfl
            · rw [ReplayRecord.ledger_uncharge]
              rfl
          have unclaimed : ∀ {issuer id digest},
              ¬(Stage.ended .dropped : Stage DocumentDigest).Claims issuer id digest :=
            Stage.not_claims rfl
          constructor
          · intro held request other otherEffect present abandons' entry kept same unanswered
            cases found.symm.trans present
            cases abandons.symm.trans abandons'
            obtain mine | others := (heldIn_set found _).mp
              (held effect.issuer once.id entry (entries ▸ kept) unanswered)
            · exact absurd mine unclaimed
            · exact same ▸ others
          · intro keeps issuer id entry kept unanswered
            rw [entries] at kept
            refine (heldIn_set found _).mpr (.inr ?_)
            obtain claims | others := (heldIn_iff found).mp (held issuer id entry kept unanswered)
            · obtain ⟨rfl, rfl, same⟩ :=
                (Stage.claims_iff (Stage.claim_of_abandons abandons)).mp claims
              exact same ▸ keeps _ once effect found abandons entry kept same.symm unanswered
            · exact others
  | absent index _ missing names =>
      refine ⟨fun _ => ?_, fun _ => held⟩
      obtain rfl | rfl := names
      · trivial
      · intro request once effect present
        cases missing.symm.trans present
  | swept => exact ⟨fun _ => trivial, fun _ => held⟩

theorem Sound.settlesClaim (covers : crates.CoversHandle) (sound : server.Sound crates)
    (action : ServerAction) : server.SettlesClaim crates action := by
  cases action with
  | receive | drop | sweep => trivial
  | advance index =>
      intro request once effect present claim delivery ending ended
      have after_sound := sound.stepped covers (server.step_stepped crates (.advance index))
      have stepped := server.step_stepped crates (.advance index)
      generalize server.step crates (.advance index) = after at *
      cases stepped with
      | absent _ _ missing names =>
          obtain same | same := names
          · cases same
            cases missing.symm.trans present
          · cases same
      | advanced _ other stage app next found advanced =>
          cases found.symm.trans present
          have inside := (List.getElem?_eq_some_iff.mp found).1
          rw [List.getElem?_set_self inside] at ended
          cases ended
          cases (advanced.books sound.wellFormed).2 with
          | kept _ same => cases same.trans claim
          | expired _ _ unclaimed => cases unclaimed.symm.trans claim
          | claimed _ _ _ unclaimed => cases unclaimed.symm.trans claim
          | completed own ownEffect response own_claim _ answers completed =>
              cases own_claim.symm.trans claim
              obtain ⟨answer, ends, same_answer⟩ :=
                answers (sound.proper _ (List.mem_of_getElem? found)).answers
              cases ends
              dsimp only at completed ⊢
              refine ⟨after_sound.backed.settled fun entry kept same => ?_, answer, rfl,
                fun entry kept same => ?_⟩
              · obtain ⟨response, _, answered⟩ | ⟨_, _, answered, _⟩ :=
                  Ledger.complete_answered (completed ▸ kept) same
                · rw [answered]
                  exact Option.some_ne_none response
                · exact answered
              · obtain ⟨response, given, answered⟩ | ⟨_, keeping, answered, before⟩ :=
                  Ledger.complete_answered (completed ▸ kept) same
                · rw [answered, same_answer response given]
                  exact .inl rfl
                · exact .inr ⟨keeping, answered, before⟩

/-- Whoever answers has closed its claim out, and along a run every claim is closed out exactly if
no request is dropped which alone holds an entry in flight. -/
theorem claims_closed_out (covers : crates.CoversHandle) (app : AppState Guard)
    (actions : List ServerAction) :
    Along (step crates) (SettlesClaim crates) (opened app) actions ∧
      ((∀ front, front <+: actions → (run (step crates) (opened app) front).ClosedOut crates) ↔
        Along (step crates) Keeps (opened app) actions) := by
  have preserved : ∀ (server : Server Guard DocumentDigest) action, server.Sound crates → True →
      (server.step crates action).Sound crates := fun server action sound _ =>
    sound.stepped covers (server.step_stepped crates action)
  have sound : Along (step crates) (fun server _ => server.Sound crates) (opened app) actions :=
    along_mono (fun _ _ => And.left) (along_with_invariant preserved (opened_sound crates app)
      (along_of_forall_mem _ fun _ _ => trivial))
  refine ⟨along_mono (fun server action sound => sound.settlesClaim covers action) sound, ?_⟩
  refine throughout_iff_along (fun server action closed sound => ?_) ?_ sound
  · have stepped := server.step_stepped crates action
    rw [(sound.stepped covers stepped).closedOut_iff]
    exact held_stepped_iff sound closed.held stepped
  · exact (opened_sound crates app).closedOut_iff.mpr fun _ _ _ found => by cases found

end Lawful

/-! ## A disconnected caller -/

/-- A digest which keeps the handle in the clear as well. -/
private def handleCrates : Crates (PlainDigest × Option String) :=
  { plainCrates with
    documentDigest := fun doc =>
      (plainCrates.documentDigest doc).map fun digest => (digest, doc.handle) }

private theorem handleCrates_coversHandle : handleCrates.CoversHandle := by
  intro doc doc' digest digested digested'
  exact congrArg Prod.snd (Option.some.inj (digested.trans digested'.symm))

private def wakeGateway : AppState (ReferenceGuard String (PlainDigest × Option String) Answer) :=
  { smallGateway with replay := ReplayRecord.new }

private def wakeDelivery : Delivery :=
  ⟨smallSurroundings "did:web:trigger.example" 0 .delivered, none, smallBody, smallWake "first"⟩

/-- A wake is answered, and its redelivery is dropped before it is read. -/
private def answeredWake : List ServerAction :=
  [.receive wakeDelivery, .advance 0, .advance 0, .advance 0, .advance 0, .receive wakeDelivery,
    .drop 1]

/-- A wake is dropped while its push is being sent. -/
private def droppedWake : List ServerAction :=
  [.receive wakeDelivery, .advance 0, .advance 0, .drop 0]

theorem claims_closed_out_of_answered :
    (run (step handleCrates) (opened wakeGateway) answeredWake).ClosedOut handleCrates := by
  refine (claims_closed_out handleCrates_coversHandle wakeGateway answeredWake).2.mpr
    ⟨trivial, trivial, trivial, trivial, trivial, trivial, ?_, trivial⟩ answeredWake
    (List.prefix_refl _)
  intro request once effect present abandons
  have received : (wakeDelivery, Stage.received) = request := Option.some.inj present
  cases received
  cases abandons

theorem dropped_wake_stays_in_flight :
    ¬∀ (app : AppState (ReferenceGuard String (PlainDigest × Option String) Answer))
      (actions : List ServerAction), ∀ front, front <+: actions →
        (run (step handleCrates) (opened app) front).ClosedOut handleCrates := by
  intro closed
  have quiet := (closed wakeGateway droppedWake droppedWake (List.prefix_refl _)).quiet
    fun request member => ⟨.dropped, congrArg Prod.snd (List.mem_singleton.mp member)⟩
  have answered := quiet "did:web:trigger.example" "first" _ rfl
  exact answered rfl

end Server

end PushGateway
