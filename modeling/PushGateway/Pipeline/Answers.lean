import PushGateway.Pipeline.Pushes

/-!
# Answers which are replayed

A redelivery may be answered with the response which the record has kept.  That response is the
answer with which another request of the same issuer has ended, and it tells what has come of that
request: a push, or a provision.
-/

namespace PushGateway

open Execution

/-! ## What an answer tells -/

/-- The answer of a request tells what has come of its push, or of its provision. -/
inductive Tells (pushes : List Push) (instants : List Instant) (index : Nat) (delivery : Delivery)
    (issuer : String) : Answer → Prop where
  | delivered (push : Push) (made : push ∈ pushes) (own : push.delivery = delivery)
      (issued : push.trigger = issuer) (comes : push.outcome = some .delivered) :
      Tells pushes instants index delivery issuer
        (successValue delivery.outside delivery.doc (statusPayload "delivered"))
  | unregistered (push : Push) (made : push ∈ pushes) (own : push.delivery = delivery)
      (issued : push.trigger = issuer) (comes : push.outcome = some .permanentlyUnregistered) :
      Tells pushes instants index delivery issuer
        (successValue delivery.outside delivery.doc (statusPayload "tokenUnregistered"))
  | provisioned (instant : Instant) (taken : instant ∈ instants) (own : instant.request = index) :
      Tells pushes instants index delivery issuer
        (delivery.provisioned instant.handle instant.triggers)

theorem Tells.mono {pushes pushes' : List Push} {instants instants' : List Instant} {index : Nat}
    {delivery : Delivery} {issuer : String} {answer : Answer}
    (tells : Tells pushes instants index delivery issuer answer) (more : pushes ⊆ pushes')
    (others : instants ⊆ instants') : Tells pushes' instants' index delivery issuer answer := by
  cases tells with
  | delivered push made own issued comes => exact .delivered push (more made) own issued comes
  | unregistered push made own issued comes =>
      exact .unregistered push (more made) own issued comes
  | provisioned instant taken own => exact .provisioned instant (others taken) own

variable {Guard DocumentDigest : Type} [ReplayGuard Guard String DocumentDigest Answer]
  {crates : Crates DocumentDigest}

/-! ## The answers of a request -/

namespace Stage

/-- What a request is authorised for is its own document, which its issuer has proved. -/
def Attested (crates : Crates DocumentDigest) (delivery : Delivery)
    (stage : Stage DocumentDigest) : Prop :=
  ∀ once effect, stage.effect = some (once, effect) → once.id = delivery.doc.id ∧
    crates.documentDigest delivery.doc = some once.digest ∧
    delivery.outside.verifyIssuer delivery.body = .ok effect.issuer

variable {state after : AppState Guard} {delivery : Delivery} {stage next : Stage DocumentDigest}
  {once : DocumentOnce DocumentDigest} {effect : Effect} {answer : Answer}

theorem Advanced.attested (advanced : stage.Advanced crates delivery state after next)
    (attested : stage.Attested crates delivery) : next.Attested crates delivery := by
  intro once effect authorised
  obtain before | accepted := advanced.accepted authorised
  · exact attested once effect before
  · exact ⟨accepted.identified, accepted.window.1, accepted.authenticated.proven⟩

theorem Dropped.attested (dropped : stage.Dropped state after next)
    (attested : stage.Attested crates delivery) : next.Attested crates delivery :=
  fun once effect authorised => attested once effect (dropped.authorised authorised)

/-- A request is about to keep what it will answer, and that tells what has come of it. -/
theorem advance_closing (index : Nat) {finish : Finish}
    (closes : (stage.advance crates delivery state).2 =
      .closing once effect (some answer) finish) :
    Tells (stage.push delivery false).toList (stage.instant crates state index).toList index
        delivery effect.issuer answer ∧
      finish = .respond answer := by
  have advanced : stage.Advanced crates delivery state (stage.advance crates delivery state).1
      (stage.advance crates delivery state).2 := stage.advance_advanced delivery state
  rw [closes] at advanced
  generalize (stage.advance crates delivery state).1 = after at advanced
  cases advanced with
  | provisioned once caller handle policy metrics applied =>
      rw [instant, if_pos applied]
      exact ⟨.provisioned ⟨index, handle, policy.allowedTriggers⟩ (List.mem_singleton_self _) rfl,
        rfl⟩
  | pushed once trigger request registration =>
      rw [advance, Delivery.send] at closes
      split at closes
      · rename_i comes
        cases closes
        exact ⟨.delivered _ (List.mem_singleton_self _) rfl rfl (congrArg some comes), rfl⟩
      · cases closes
      · rename_i comes
        cases closes
        exact ⟨.unregistered _ (List.mem_singleton_self _) rfl rfl (congrArg some comes), rfl⟩

/-- A request which ends with a replayed answer has just been given it by the record. -/
theorem advance_replayed (ended : (stage.advance crates delivery state).2 =
      .ended (.replayed answer)) :
    stage = .ended (.replayed answer) ∨ ∃ once effect, stage = .admitting once effect ∧
      (once.claim state effect.issuer effect.handle).1 = .ok (.answered answer) := by
  have advanced : stage.Advanced crates delivery state (stage.advance crates delivery state).1
      (stage.advance crates delivery state).2 := stage.advance_advanced delivery state
  rw [ended] at advanced
  generalize (stage.advance crates delivery state).1 = after at advanced
  cases advanced with
  | idle => exact .inl rfl
  | held once effect =>
      refine .inr ⟨once, effect, rfl, ?_⟩
      rw [advance] at ended
      split at ended
      · cases ended
      · rename_i claimed
        cases ended
        rw [claimed]
      · cases ended

section Lawful

variable [LawfulReplayGuard Guard] {issuer id : String} {digest : DocumentDigest}
  {entry : Retained DocumentDigest Answer}

/-- What the record has entered after a step it had before, or the document of the request has just
been entered, or given its response. -/
theorem Advanced.entry_cases [DecidableEq DocumentDigest]
    (advanced : stage.Advanced crates delivery state after next)
    (wellFormed : state.replay.WellFormed state.bounds)
    (found : after.replay.ledger.entries issuer id = some entry) :
    (state.replay.ledger.entries issuer id = some entry ∧
      ∀ digest, next.Claims issuer id digest → stage.Claims issuer id digest) ∨
    (∃ once effect, stage = .admitting once effect ∧ next = .admitted once effect ∧
      effect.issuer = issuer ∧ once.id = id ∧ entry = ⟨once.digest, none, once.retainUntil⟩) ∨
    ∃ once effect answer finish before, stage = .closing once effect (some answer) finish ∧
      (finish = .respond answer → next = .ended (.built answer)) ∧ effect.issuer = issuer ∧
      once.id = id ∧ state.replay.ledger.entries issuer id = some before ∧
      entry = { before with response := some answer } := by
  have unclaimed : next.claim = none → ∀ digest, next.Claims issuer id digest →
      stage.Claims issuer id digest := fun free digest claims => absurd claims (not_claims free)
  cases advanced with
  | refused => exact .inl ⟨found, unclaimed rfl⟩
  | registered => exact .inl ⟨found, unclaimed rfl⟩
  | checked => exact .inl ⟨found, unclaimed rfl⟩
  | authorised => exact .inl ⟨found, unclaimed rfl⟩
  | repeated => exact .inl ⟨found, unclaimed rfl⟩
  | differing => exact .inl ⟨found, unclaimed rfl⟩
  | held once effect ending stale =>
      have claimed := (once.claim_refines wellFormed effect.issuer effect.handle).2
      dsimp only at found
      rw [claimed.ledger_of_not_fresh stale] at found
      exact .inl ⟨Ledger.entries_of_expire found, unclaimed rfl⟩
  | admitted once effect fresh =>
      have claimed := (once.claim_refines wellFormed effect.issuer effect.handle).2
      rw [fresh] at claimed
      obtain ⟨absent, entered⟩ := claimed.of_fresh
      dsimp only at found
      rw [entered] at found
      obtain before | ⟨rfl, rfl, rfl⟩ := Ledger.entries_accept_cases found
      · refine .inl ⟨Ledger.entries_of_expire before, fun digest claims => ?_⟩
        obtain ⟨rfl, rfl, _⟩ := (claims_iff rfl).mp claims
        cases absent.symm.trans before
      · exact .inr (.inl ⟨once, effect, rfl, rfl, rfl, rfl, rfl⟩)
  | provisioned => exact .inl ⟨found, fun digest claims => claims⟩
  | unprovisioned => exact .inl ⟨found, fun digest claims => claims⟩
  | pushed => exact .inl ⟨found, fun digest claims => claims⟩
  | closed once effect response finish metrics answer finished =>
      dsimp only at found
      rw [(ReplayRecord.complete_refines wellFormed effect.issuer effect.handle once.id once.digest
        response).2] at found
      obtain before | ⟨rfl, rfl, kept, before, rfl, present, rfl⟩ :=
        Ledger.entries_complete_cases found
      · exact .inl ⟨before, unclaimed rfl⟩
      · refine .inr (.inr ⟨once, effect, kept, finish, before, rfl, ?_, rfl, rfl, present, rfl⟩)
        rintro rfl
        obtain same | ⟨_, other, _⟩ := finished
        · cases same
          rfl
        · cases other
  | idle => exact .inl ⟨found, unclaimed rfl⟩

theorem Dropped.entered (dropped : stage.Dropped state after next)
    (wellFormed : state.replay.WellFormed state.bounds)
    (found : after.replay.ledger.entries issuer id = some entry) :
    state.replay.ledger.entries issuer id = some entry := by
  cases dropped with
  | unmoved => exact found
  | unheard => exact found
  | opened once effect =>
      dsimp only at found
      rw [(ReplayRecord.partition_spec wellFormed effect.issuer effect.handle once.now).2.1]
        at found
      exact Ledger.entries_of_expire found
  | abandoned _ once effect replay _ abandons left =>
      obtain rfl | rfl := left
      · exact found
      · rw [ReplayRecord.ledger_uncharge] at found
        exact found

end Lawful

end Stage

/-! ## The answers of a server -/

namespace Server

/-- The request has ended with this answer, which its issuer was given for a document with this
identifier and digest, and which tells what has come of it. -/
structure Told (crates : Crates DocumentDigest) (pushes : List Push) (instants : List Instant)
    (requests : List (Delivery × Stage DocumentDigest)) (index : Nat) (delivery : Delivery)
    (issuer id : String) (digest : DocumentDigest) (answer : Answer) : Prop where
  ended : requests[index]? = some (delivery, .ended (.built answer))
  proven : delivery.outside.verifyIssuer delivery.body = .ok issuer
  identified : delivery.doc.id = id
  digested : crates.documentDigest delivery.doc = some digest
  tells : Tells pushes instants index delivery issuer answer

/-- Some request has ended so, for a document of a related digest. -/
def Backed (crates : Crates DocumentDigest) (related : DocumentDigest → DocumentDigest → Prop)
    (pushes : List Push) (instants : List Instant)
    (requests : List (Delivery × Stage DocumentDigest)) (issuer id : String)
    (digest : DocumentDigest) (answer : Answer) : Prop :=
  ∃ index delivery own, related own digest ∧
    Told crates pushes instants requests index delivery issuer id own answer

/-- The document which the next step enters is related to every one which a request has in hand
under its identifier. -/
def EntersApart (crates : Crates DocumentDigest)
    (related : DocumentDigest → DocumentDigest → Prop) (server : Server Guard DocumentDigest) :
    ServerAction → Prop
  | .advance index => ∀ request ∈ server.requests[index]?, request.2.claim = none →
      ∀ entered ∈ (request.2.advance crates request.1 server.app).2.claim,
      ∀ holder ∈ server.requests, ∀ held ∈ holder.2.claim, held.2.issuer = entered.2.issuer →
        held.1.id = entered.1.id → related held.1.digest entered.1.digest
  | .receive _ | .drop _ | .sweep _ _ => True

instance (crates : Crates DocumentDigest) (related : DocumentDigest → DocumentDigest → Prop)
    [DecidableRel related] (server : Server Guard DocumentDigest) :
    DecidablePred (server.EntersApart crates related)
  | .advance index => inferInstanceAs (Decidable (∀ request ∈ server.requests[index]?, _))
  | .receive _ | .drop _ | .sweep _ _ => isTrue trivial

theorem entersApart_any (server : Server Guard DocumentDigest) (action : ServerAction) :
    server.EntersApart crates (fun _ _ => True) action := by
  cases action with
  | advance index =>
      intro request _ _ entered _ holder _ held _ _ _
      trivial
  | receive delivery => trivial
  | drop index => trivial
  | sweep ttlSecs now => trivial

/-- What is kept as a response or has been replayed is the answer of some request, and what is about
to be kept tells what has come of its own. -/
structure Truthful (crates : Crates DocumentDigest)
    (related : DocumentDigest → DocumentDigest → Prop) (pushes : List Push)
    (instants : List Instant) (server : Server Guard DocumentDigest) : Prop where
  wellFormed : server.app.replay.WellFormed server.app.bounds
  attested : ∀ request ∈ server.requests, request.2.Attested crates request.1
  matched : ∀ {issuer id digest entry}, HeldIn server.requests issuer id digest →
    server.app.replay.ledger.entries issuer id = some entry → related digest entry.digest
  closing : ∀ {index : Nat} {delivery once effect answer finish},
    server.requests[index]? = some (delivery, .closing once effect (some answer) finish) →
      Tells pushes instants index delivery effect.issuer answer ∧ finish = .respond answer
  kept : ∀ {issuer id entry answer}, server.app.replay.ledger.entries issuer id = some entry →
    entry.response = some answer →
      Backed crates related pushes instants server.requests issuer id entry.digest answer
  replayed : ∀ {index : Nat} {delivery answer},
    server.requests[index]? = some (delivery, .ended (.replayed answer)) →
      ∃ issuer digest, delivery.outside.verifyIssuer delivery.body = .ok issuer ∧
        crates.documentDigest delivery.doc = some digest ∧
        Backed crates related pushes instants server.requests issuer delivery.doc.id digest answer

section Run

variable {server : Server Guard DocumentDigest}
  {related : DocumentDigest → DocumentDigest → Prop} {pushes : List Push}
  {instants : List Instant} {index : Nat} {delivery : Delivery}
  {stage next : Stage DocumentDigest} {app : AppState Guard} {issuer id : String}
  {digest : DocumentDigest} {answer : Answer}
  {requests : List (Delivery × Stage DocumentDigest)}

theorem Truthful.received (truthful : server.Truthful crates related pushes instants)
    (delivery : Delivery) :
    ({ server with requests := server.requests ++ [(delivery, .received)] } :
      Server Guard DocumentDigest).Truthful crates related pushes instants := by
  have still : ∀ {issuer id digest answer},
      Backed crates related pushes instants server.requests issuer id digest answer →
        Backed crates related pushes instants (server.requests ++ [(delivery, .received)]) issuer id
          digest answer := by
    rintro issuer id digest answer ⟨index, original, own, same, told⟩
    refine ⟨index, original, own, same, ?_, told.proven, told.identified, told.digested,
      told.tells⟩
    rw [List.getElem?_append_left (List.getElem?_eq_some_iff.mp told.ended).1]
    exact told.ended
  constructor
  · exact truthful.wellFormed
  · refine List.forall_mem_append.mpr ⟨truthful.attested, List.forall_mem_singleton.mpr ?_⟩
    intro once effect authorised
    cases authorised
  · intro issuer id digest entry held entered
    exact truthful.matched ((heldIn_append_received delivery).mp held) entered
  · intro index original once effect answer finish there
    obtain present | ⟨_, same⟩ := getElem?_concat_cases there
    · exact truthful.closing present
    · cases same
  · intro issuer id entry answer entered answered
    exact still (truthful.kept entered answered)
  · intro index original answer there
    obtain present | ⟨_, same⟩ := getElem?_concat_cases there
    · obtain ⟨issuer, digest, proven, digested, backed⟩ := truthful.replayed present
      exact ⟨issuer, digest, proven, digested, still backed⟩
    · cases same

theorem opened_truthful (crates : Crates DocumentDigest)
    (related : DocumentDigest → DocumentDigest → Prop) (app : AppState Guard) :
    (opened app : Server Guard DocumentDigest).Truthful crates related [] [] where
  wellFormed := ReplayRecord.new_wellFormed app.bounds
  attested _ member := by cases member
  matched held := by
    obtain ⟨_, _, found, _⟩ := held
    cases found
  closing found := by cases found
  kept found := by cases found
  replayed found := by cases found

variable [LawfulReplayGuard Guard]

/-- An answer stays given when another request, or this one, takes a step. -/
theorem Backed.set
    (backed : Backed crates related pushes instants requests issuer id digest answer)
    (found : requests[index]? = some (delivery, stage))
    (settled : ∀ ending, stage = .ended ending → next = .ended ending) (more : List Push)
    (others : List Instant) :
    Backed crates related (pushes ++ more) (instants ++ others)
      (requests.set index (delivery, next)) issuer id digest answer := by
  obtain ⟨other, original, own, same, told⟩ := backed
  refine ⟨other, original, own, same, ?_, told.proven, told.identified, told.digested,
    told.tells.mono (List.subset_append_left _ _) (List.subset_append_left _ _)⟩
  by_cases here : index = other
  · subst here
    cases found.symm.trans told.ended
    rw [List.getElem?_set_self (List.getElem?_eq_some_iff.mp found).1, settled _ rfl]
  · rw [List.getElem?_set_ne here]
    exact told.ended

variable [DecidableEq DocumentDigest]

/-- The digest of the entry is related to that of whoever has the identifier in hand. -/
theorem Truthful.matched_advanced (reflexive : ∀ digest, related digest digest)
    (truthful : server.Truthful crates related pushes instants)
    (found : server.requests[index]? = some (delivery, stage))
    (advanced : stage.Advanced crates delivery server.app app next)
    (apart : stage.claim = none → ∀ entered ∈ next.claim, ∀ holder ∈ server.requests,
      ∀ held ∈ holder.2.claim, held.2.issuer = entered.2.issuer → held.1.id = entered.1.id →
        related held.1.digest entered.1.digest)
    {entry : Retained DocumentDigest Answer}
    (held : HeldIn (server.requests.set index (delivery, next)) issuer id digest)
    (entered : app.replay.ledger.entries issuer id = some entry) :
    related digest entry.digest := by
  have beside : HeldBeside server.requests index issuer id digest →
      HeldIn server.requests issuer id digest :=
    fun others => (heldIn_iff found).mpr (.inr others)
  obtain ⟨before, claimed⟩ | ⟨once, effect, rfl, rfl, rfl, rfl, rfl⟩ |
      ⟨once, effect, answer, finish, before, rfl, ends, rfl, rfl, present, rfl⟩ :=
    advanced.entry_cases truthful.wellFormed entered
  · refine truthful.matched ((heldIn_iff found).mpr ?_) before
    exact ((heldIn_set found _).mp held).imp_left (claimed digest)
  · obtain claims | others := (heldIn_set found _).mp held
    · obtain ⟨_, _, rfl⟩ := (Stage.claims_iff rfl).mp claims
      exact reflexive _
    · obtain ⟨other, holder, _, present, own, ownEffect, claim, issued, identified, rfl⟩ := others
      exact apart rfl (once, effect) rfl holder (List.mem_of_getElem? present) (own, ownEffect)
        claim issued identified
  · have responds := (truthful.closing found).2
    obtain claims | others := (heldIn_set found _).mp held
    · exact absurd claims (Stage.not_claims (ends responds ▸ rfl))
    · have same := truthful.matched (beside others) present
      exact same

/-- Whatever is kept after a step of a request has been answered. -/
theorem Truthful.kept_advanced (truthful : server.Truthful crates related pushes instants)
    (found : server.requests[index]? = some (delivery, stage))
    (advanced : stage.Advanced crates delivery server.app app next) (more : List Push)
    (others : List Instant) {entry : Retained DocumentDigest Answer}
    (entered : app.replay.ledger.entries issuer id = some entry)
    (answered : entry.response = some answer) :
    Backed crates related (pushes ++ more) (instants ++ others)
      (server.requests.set index (delivery, next)) issuer id entry.digest answer := by
  have settled : ∀ ending, stage = .ended ending → next = .ended ending := by
    rintro ending rfl
    exact advanced.of_ended
  obtain ⟨before, _⟩ | ⟨once, effect, rfl, rfl, rfl, rfl, rfl⟩ |
      ⟨once, effect, own, finish, before, rfl, ends, rfl, rfl, present, rfl⟩ :=
    advanced.entry_cases truthful.wellFormed entered
  · exact (truthful.kept before answered).set found settled more others
  · cases answered
  · cases answered
    obtain ⟨tells, responds⟩ := truthful.closing found
    obtain ⟨identified, digested, proven⟩ :=
      truthful.attested _ (List.mem_of_getElem? found) once effect rfl
    have same := truthful.matched
      ⟨index, _, found, (Stage.claims_iff rfl).mpr ⟨rfl, rfl, rfl⟩⟩ present
    refine ⟨index, delivery, once.digest, same, ?_, proven,
      identified.symm, digested,
      tells.mono (List.subset_append_left _ _) (List.subset_append_left _ _)⟩
    rw [List.getElem?_set_self (List.getElem?_eq_some_iff.mp found).1, ends responds]

theorem Truthful.advanced (reflexive : ∀ digest, related digest digest)
    (truthful : server.Truthful crates related pushes instants)
    (found : server.requests[index]? = some (delivery, stage))
    (apart : server.EntersApart crates related (.advance index)) (drawn : List String) :
    (⟨(stage.advance crates delivery server.app).1,
      server.requests.set index (delivery, (stage.advance crates delivery server.app).2), drawn⟩ :
      Server Guard DocumentDigest).Truthful crates related
        (pushes ++ (stage.push delivery false).toList)
        (instants ++ (stage.instant crates server.app index).toList) := by
  have advanced : stage.Advanced crates delivery server.app _ _ :=
    stage.advance_advanced delivery server.app
  have settled : ∀ ending, stage = .ended ending →
      (stage.advance crates delivery server.app).2 = .ended ending := by
    rintro ending rfl
    exact advanced.of_ended
  constructor
  · exact (advanced.books truthful.wellFormed).1
  · exact forall_mem_set truthful.attested
      (advanced.attested (truthful.attested _ (List.mem_of_getElem? found)))
  · exact truthful.matched_advanced reflexive found advanced (apart (delivery, stage) found)
  · intro other original once effect answer finish there
    obtain ⟨rfl, same⟩ | ⟨_, present⟩ := getElem?_set_cases found there
    · obtain ⟨rfl, closes⟩ := Prod.mk.inj same
      obtain ⟨tells, responds⟩ := Stage.advance_closing other closes.symm
      exact ⟨tells.mono (List.subset_append_right _ _) (List.subset_append_right _ _), responds⟩
    · obtain ⟨tells, responds⟩ := truthful.closing present
      exact ⟨tells.mono (List.subset_append_left _ _) (List.subset_append_left _ _), responds⟩
  · exact truthful.kept_advanced found advanced _ _
  · intro other original answer there
    obtain ⟨rfl, same⟩ | ⟨_, present⟩ := getElem?_set_cases found there
    · obtain ⟨rfl, ends⟩ := Prod.mk.inj same
      obtain rfl | ⟨once, effect, rfl, answered⟩ := Stage.advance_replayed ends.symm
      · obtain ⟨issuer, digest, proven, digested, backed⟩ := truthful.replayed found
        exact ⟨issuer, digest, proven, digested, backed.set found settled _ _⟩
      · obtain ⟨identified, digested, proven⟩ :=
          truthful.attested _ (List.mem_of_getElem? found) once effect rfl
        have claimed := (once.claim_refines truthful.wellFormed effect.issuer effect.handle).2
        rw [answered] at claimed
        obtain ⟨entry, entered, same, response⟩ := claimed.entered
        have backed := truthful.kept entered response
        rw [same, identified] at backed
        exact ⟨effect.issuer, once.digest, proven, digested, backed.set found settled _ _⟩
    · obtain ⟨issuer, digest, proven, digested, backed⟩ := truthful.replayed present
      exact ⟨issuer, digest, proven, digested, backed.set found settled _ _⟩

theorem Truthful.dropped (truthful : server.Truthful crates related pushes instants)
    (found : server.requests[index]? = some (delivery, stage))
    (dropped : stage.Dropped server.app app next) (more : List Push) (drawn : List String) :
    (⟨app, server.requests.set index (delivery, next), drawn⟩ :
      Server Guard DocumentDigest).Truthful crates related (pushes ++ more) instants := by
  have settled : ∀ ending, stage = .ended ending → next = .ended ending := by
    rintro ending rfl
    exact dropped.of_ended
  have still : ∀ {issuer id digest answer},
      Backed crates related pushes instants server.requests issuer id digest answer →
        Backed crates related (pushes ++ more) instants
          (server.requests.set index (delivery, next)) issuer id digest answer := by
    intro issuer id digest answer backed
    have later := backed.set found settled more []
    rwa [List.append_nil] at later
  have before : ∀ {other : Nat} {original stage'}, stage' ≠ .ended .dropped →
      (server.requests.set index (delivery, next))[other]? = some (original, stage') →
        server.requests[other]? = some (original, stage') := by
    intro other original stage' undropped there
    obtain ⟨rfl, same⟩ | ⟨_, present⟩ := getElem?_set_cases found there
    · obtain ⟨rfl, rfl⟩ := Prod.mk.inj same
      obtain rfl | rfl := dropped.next_cases
      · exact found
      · exact absurd rfl undropped
    · exact present
  constructor
  · exact dropped.wellFormed truthful.wellFormed
  · exact forall_mem_set truthful.attested
      (dropped.attested (truthful.attested _ (List.mem_of_getElem? found)))
  · rintro issuer id digest entry ⟨other, ⟨original, stage'⟩, there, claims⟩ entered
    have undropped : stage' ≠ .ended .dropped := by
      rintro rfl
      exact Stage.not_claims rfl claims
    exact truthful.matched ⟨other, _, before undropped there, claims⟩
      (dropped.entered truthful.wellFormed entered)
  · intro other original once effect answer finish there
    obtain ⟨tells, responds⟩ := truthful.closing (before (by rintro ⟨⟩) there)
    exact ⟨tells.mono (List.subset_append_left _ _) (List.Subset.refl _), responds⟩
  · intro issuer id entry answer entered answered
    exact still (truthful.kept (dropped.entered truthful.wellFormed entered) answered)
  · intro other original answer there
    obtain ⟨issuer, digest, proven, digested, backed⟩ :=
      truthful.replayed (before (by rintro ⟨⟩) there)
    exact ⟨issuer, digest, proven, digested, still backed⟩

theorem Truthful.step (reflexive : ∀ digest, related digest digest)
    (truthful : server.Truthful crates related pushes instants) {action : ServerAction}
    (apart : server.EntersApart crates related action) :
    (server.step crates action).Truthful crates related (pushes ++ (server.push action).toList)
      (instants ++ (server.instant crates action).toList) := by
  have still : server.Truthful crates related (pushes ++ []) (instants ++ []) := by
    rwa [List.append_nil, List.append_nil]
  cases action with
  | receive delivery => exact still.received delivery
  | advance index =>
      rw [Server.step, push, instant]
      cases found : server.requests[index]? with
      | none => exact still
      | some request => exact truthful.advanced reflexive found apart _
  | drop index =>
      rw [Server.step, push, instant]
      cases found : server.requests[index]? with
      | none => exact still
      | some request =>
          rw [Option.toList_none, List.append_nil]
          exact truthful.dropped found (request.2.drop_dropped server.app) _ _
  | sweep ttlSecs now =>
      exact ⟨still.wellFormed, still.attested, still.matched, still.closing, still.kept,
        still.replayed⟩

theorem truthful_run (reflexive : ∀ digest, related digest digest) (app : AppState Guard)
    {actions : List ServerAction}
    (apart : Along (step crates) (EntersApart crates related) (opened app) actions) :
    (run (step crates) (opened app) actions).Truthful crates related
      (events push (step crates) (opened app) actions)
      (events (instant crates) (step crates) (opened app) actions) := by
  have preserved : ∀ pushes (watched : List Instant × Server Guard DocumentDigest) action,
      watched.2.Truthful crates related pushes watched.1 →
        EntersApart crates related watched.2 action →
          (logged (instant crates) (step crates) watched action).2.Truthful crates related
            (pushes ++ (watched.2.push action).toList)
            (logged (instant crates) (step crates) watched action).1 :=
    fun _ _ _ truthful apart => truthful.step reflexive apart
  have truthful := invariant_events preserved (opened_truthful crates related app)
    ((along_logged (instant crates) [] (opened app) actions).mpr apart)
  rwa [run_logged, events_logged, List.nil_append] at truthful

/-- The answer which a redelivery is given by the record is that with which another request of its
issuer has ended, for a document of the same identifier, and it tells what has come of that
request.  It is the same document if no identifier is entered anew while a request has it in hand
for another one. -/
theorem replayed_answers_true (app : AppState Guard) {actions : List ServerAction}
    (replayed : (run (step crates) (opened app) actions).requests[index]? =
      some (delivery, .ended (.replayed answer))) :
    ∃ issuer other original digest,
      delivery.outside.verifyIssuer delivery.body = .ok issuer ∧
      Told crates (events push (step crates) (opened app) actions)
        (events (instant crates) (step crates) (opened app) actions)
        (run (step crates) (opened app) actions).requests other original issuer delivery.doc.id
        digest answer ∧
      (Along (step crates) (EntersApart crates Eq) (opened app) actions →
        crates.documentDigest delivery.doc = some digest) := by
  by_cases apart : Along (step crates) (EntersApart crates Eq) (opened app) actions
  · obtain ⟨issuer, digest, proven, digested, other, original, _, rfl, told⟩ :=
      (truthful_run (fun _ => rfl) app apart).replayed replayed
    exact ⟨issuer, other, original, _, proven, told, fun _ => digested⟩
  · have always : Along (step crates) (EntersApart crates fun _ _ => True) (opened app) actions :=
      along_mono (fun server action _ => entersApart_any server action)
        (along_of_forall_mem (opened app) fun _ _ => trivial)
    obtain ⟨issuer, digest, proven, _, other, original, own, _, told⟩ :=
      (truthful_run (fun _ => trivial) app always).replayed replayed
    exact ⟨issuer, other, original, own, proven, told, fun along => absurd along apart⟩

end Run

private def replayedWake (issuedAt : DateTime) (outcome : SendOutcome) : Delivery :=
  ⟨smallSurroundings "did:web:trigger.example" issuedAt outcome, none, smallBody,
    { smallWake "wake" with issuedAt := some issuedAt }⟩

/-- A wake is answered, and then delivered again. -/
private def answeredTwice : List ServerAction :=
  [.receive (replayedWake 0 .delivered), .receive (replayedWake 0 .transientFailure), .advance 0,
    .advance 0, .advance 0, .advance 0, .advance 1, .advance 1]

theorem replayed_answers_true_twice :
    ∃ issuer other original digest,
      (replayedWake 0 .transientFailure).outside.verifyIssuer smallBody = .ok issuer ∧
      Told plainCrates (events push (step plainCrates) (opened smallGateway) answeredTwice)
        (events (instant plainCrates) (step plainCrates) (opened smallGateway) answeredTwice)
        (run (step plainCrates) (opened smallGateway) answeredTwice).requests other original issuer
        "wake" digest
        (successValue (replayedWake 0 .delivered).outside (replayedWake 0 .delivered).doc
          (statusPayload "delivered")) ∧
      plainCrates.documentDigest (replayedWake 0 .transientFailure).doc = some digest := by
  have replayed : (run (step plainCrates) (opened smallGateway) answeredTwice).requests[1]? =
      some (replayedWake 0 .transientFailure, .ended (.replayed
        (successValue (replayedWake 0 .delivered).outside (replayedWake 0 .delivered).doc
          (statusPayload "delivered")))) := rfl
  obtain ⟨issuer, other, original, digest, proven, told, same⟩ :=
    replayed_answers_true smallGateway replayed
  exact ⟨issuer, other, original, digest, proven, told, same (by decide +kernel)⟩

private def lateWake : Delivery :=
  replayedWake (TimeDelta.seconds 400) .transientFailure

/-- No clock of the model bounds a push.  The first wake is still being pushed when its identifier
lapses and is entered anew for another document, whose redelivery is then given the first's
answer. -/
private def mistaken : List ServerAction :=
  [.receive (replayedWake 0 .delivered), .receive lateWake, .receive lateWake, .advance 0,
    .advance 0, .advance 1, .advance 1, .advance 0, .advance 0, .advance 2, .advance 2]

example : ∃ once effect answer,
    (run (step plainCrates) (opened smallGateway) mistaken).requests.map Prod.snd =
      [.ended (.built answer), .admitted once effect, .ended (.replayed answer)] :=
  ⟨_, _, _, rfl⟩

end Server

end PushGateway
