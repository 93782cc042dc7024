import PushGateway.Pipeline.Pushes

/-!
# One ring for a document

The deliveries of one wake run beside each other, and any of them may be dropped.  One at a time
has the document in hand, and once a push for it has come to more than a transient failure no other
is made, while the clock falls back by less than the margin between the claims.  A claim and a
completion of the replay record are one step each.
-/

namespace PushGateway

open Execution ReplayGuard

/-! ## More clock readings -/

theorem Ledger.Remembers.mono {Issuer Handle Id Digest Response : Type}
    {ledger : Ledger Issuer Handle Id Digest Response} {readings later : List DateTime}
    {issuer : Issuer} {id : Id} {digest : Digest} {retain : Option DateTime}
    (remembers : ledger.Remembers readings issuer id digest retain)
    (among : ∀ reading ∈ readings, reading ∈ later) :
    ledger.Remembers later issuer id digest retain :=
  remembers.imp_right fun ⟨reading, member, passed⟩ => ⟨reading, among reading member, passed⟩

variable {Guard DocumentDigest : Type} [ReplayGuard Guard String DocumentDigest Answer]
  {crates : Crates DocumentDigest}

/-! ## The document of a request -/

namespace Stage

/-- The clock reading which the next step of a request brings to the replay record. -/
def reads : Stage DocumentDigest → Option DateTime
  | .admitting once _ => some once.now
  | .received | .checked _ _ _ _ | .admitted _ _ | .closing _ _ _ _ | .ended _ => none

/-- The next step of a request takes its document back. -/
def Releases (stage : Stage DocumentDigest) (issuer id : String) (digest : DocumentDigest) : Prop :=
  ∃ once effect finish, stage = .closing once effect none finish ∧ effect.issuer = issuer ∧
    once.id = id ∧ once.digest = digest

/-- The next step of a request keeps a response. -/
def Answers (stage : Stage DocumentDigest) : Prop :=
  ∃ once effect response finish, stage = .closing once effect (some response) finish

/-- A request is authorised for the document which it delivered, as the window has let it pass. -/
def Dated (crates : Crates DocumentDigest) (delivery : Delivery) (stage : Stage DocumentDigest) :
    Prop :=
  ∀ once effect, stage.effect = some (once, effect) → once.id = delivery.doc.id ∧
    crates.documentDigest delivery.doc = some once.digest ∧
    ∃ until_, retainUntil delivery.doc = some until_ ∧ once.retainUntil = some until_ ∧
      once.now + retentionMargin ≤ until_

variable {state after : AppState Guard} {delivery : Delivery} {stage next : Stage DocumentDigest}
  {issuer id : String} {digest : DocumentDigest}

theorem Releases.claims (releases : stage.Releases issuer id digest) :
    stage.Claims issuer id digest := by
  obtain ⟨once, effect, finish, rfl, same⟩ := releases
  exact (claims_iff rfl).mpr same

theorem Releases.not_answers (releases : stage.Releases issuer id digest) : ¬stage.Answers := by
  obtain ⟨once, effect, finish, rfl, _⟩ := releases
  rintro ⟨_, _, _, _, same⟩
  cases same

theorem Advanced.dated (validates : crates.Validates)
    (advanced : stage.Advanced crates delivery state after next)
    (dated : stage.Dated crates delivery) : next.Dated crates delivery := by
  intro once effect authorised
  obtain before | accepted := advanced.accepted authorised
  · exact dated once effect before
  · obtain ⟨_, _, open_⟩ := accepted.open_
    obtain ⟨until_, retained, before⟩ := accepted_before_retention validates open_
    obtain ⟨digested, own⟩ := accepted.window
    exact ⟨accepted.identified, digested, until_, own ▸ retained, retained,
      accepted.current ▸ before⟩

theorem Dropped.dated (dropped : stage.Dropped state after next)
    (dated : stage.Dated crates delivery) : next.Dated crates delivery :=
  fun once effect authorised => dated once effect (dropped.authorised authorised)

theorem not_answers_admitted (once : DocumentOnce DocumentDigest) (effect : Effect) :
    ¬(.admitted once effect : Stage DocumentDigest).Answers := by
  rintro ⟨_, _, _, _, same⟩
  cases same

theorem not_releases_admitted (once : DocumentOnce DocumentDigest) (effect : Effect) :
    ¬(.admitted once effect : Stage DocumentDigest).Releases issuer id digest := by
  rintro ⟨_, _, _, same, _⟩
  cases same

section Lawful

variable [LawfulReplayGuard Guard] {readings later : List DateTime} {retain : Option DateTime}

/-- A step of a request leaves a document remembered which it does not take back. -/
theorem Advanced.remembers [DecidableEq DocumentDigest]
    (advanced : stage.Advanced crates delivery state after next)
    (wellFormed : state.replay.WellFormed state.bounds)
    (among : ∀ reading ∈ stage.reads.toList ++ readings, reading ∈ later)
    (kept : ¬stage.Releases issuer id digest)
    (remembers : state.replay.ledger.Remembers readings issuer id digest retain) :
    after.replay.ledger.Remembers later issuer id digest retain := by
  have still : state.replay.ledger.Remembers later issuer id digest retain :=
    remembers.mono fun reading member => among reading (List.mem_append_right _ member)
  cases advanced with
  | refused => exact still
  | registered => exact still
  | checked => exact still
  | authorised => exact still
  | repeated => exact still
  | differing => exact still
  | held once effect =>
      have claimed := (once.claim_refines wellFormed effect.issuer effect.handle).2
      exact (remembers.claimed claimed).mono among
  | admitted once effect =>
      have claimed := (once.claim_refines wellFormed effect.issuer effect.handle).2
      exact (remembers.claimed claimed).mono among
  | provisioned => exact still
  | unprovisioned => exact still
  | pushed => exact still
  | closed once effect response finish =>
      dsimp only
      rw [(ReplayRecord.complete_refines wellFormed effect.issuer effect.handle once.id once.digest
        response).2]
      refine still.complete ?_
      rintro rfl ⟨rfl, rfl, rfl⟩
      exact kept ⟨once, effect, finish, rfl, rfl, rfl, rfl⟩
  | idle => exact still

/-- So does the end of a dropped request. -/
theorem Dropped.remembers (dropped : stage.Dropped state after next)
    (wellFormed : state.replay.WellFormed state.bounds)
    (among : ∀ reading ∈ stage.reads.toList ++ readings, reading ∈ later)
    (remembers : state.replay.ledger.Remembers readings issuer id digest retain) :
    after.replay.ledger.Remembers later issuer id digest retain := by
  have still : state.replay.ledger.Remembers later issuer id digest retain :=
    remembers.mono fun reading member => among reading (List.mem_append_right _ member)
  cases dropped with
  | unmoved => exact still
  | unheard => exact still
  | opened once effect =>
      dsimp only
      rw [(ReplayRecord.partition_spec wellFormed effect.issuer effect.handle once.now).2.1]
      exact (remembers.expire once.now).mono among
  | abandoned _ once effect replay _ abandons left =>
      obtain rfl | rfl := left
      · exact still
      · rw [ReplayRecord.ledger_uncharge]
        exact still

end Lawful

/-- A request which a drop leaves as it was is not about to push. -/
theorem Dropped.push_eq_none (dropped : stage.Dropped state after stage) (cut : Bool) :
    stage.push delivery cut = none := by
  cases stage with
  | admitted once effect =>
      cases effect with
      | provision => rfl
      | wake => cases dropped with
        | unmoved _ kept => cases kept
  | received => rfl
  | checked => rfl
  | admitting => rfl
  | closing => rfl
  | ended => rfl

/-- A push which comes to more than a transient failure has a response kept. -/
theorem push_answers (state : AppState Guard) {push : Push}
    (pushed : stage.push delivery false = some push)
    (settled : push.outcome ≠ some .transientFailure) :
    (stage.advance crates delivery state).2.Answers := by
  obtain ⟨once, rfl, rfl, known⟩ := push_eq_some pushed
  rw [Push.outcome, ← known] at settled
  rw [advance, Delivery.send]
  split
  · exact ⟨_, _, _, _, rfl⟩
  · rename_i failed
    exact absurd (congrArg some failed) settled
  · exact ⟨_, _, _, _, rfl⟩

end Stage

/-! ## The documents in hand -/

/-- The push for this document of this issuer is not known to have failed for now. -/
def Push.Settles (crates : Crates DocumentDigest) (push : Push) (issuer id : String)
    (digest : DocumentDigest) : Prop :=
  push.outcome ≠ some .transientFailure ∧ push.trigger = issuer ∧ push.delivery.doc.id = id ∧
    crates.documentDigest push.delivery.doc = some digest

/-- If both are for one document of one trigger, the earlier push is known to have come to a
transient failure. -/
def Push.Spares (crates : Crates DocumentDigest) (earlier later : Push) : Prop :=
  earlier.trigger = later.trigger → earlier.delivery.doc.id = later.delivery.doc.id →
    crates.documentDigest earlier.delivery.doc = crates.documentDigest later.delivery.doc →
      earlier.outcome = some .transientFailure

/-- A document is remembered as long as its own window asks. -/
def Ledger.Recalls (crates : Crates DocumentDigest) (readings : List DateTime)
    (ledger : Ledger String String String DocumentDigest Answer) (issuer id : String)
    (digest : DocumentDigest) : Prop :=
  ∀ doc, crates.documentDigest doc = some digest →
    ledger.Remembers readings issuer id digest (retainUntil doc)

namespace Server

/-- The clock reading which a step brings to the replay record. -/
def reads (server : Server Guard DocumentDigest) : ServerAction → Option DateTime
  | .advance index | .drop index => server.requests[index]?.bind fun request => request.2.reads
  | .receive _ | .sweep _ _ => none

/-- The step's clock reading, if it has one, is less than the margin below every earlier one. -/
def Steady (watched : List DateTime × Server Guard DocumentDigest) (action : ServerAction) : Prop :=
  ∀ now ∈ watched.2.reads action, ∀ reading ∈ watched.1, reading - now < retentionMargin

instance (watched : List DateTime × Server Guard DocumentDigest) (action : ServerAction) :
    Decidable (Steady watched action) :=
  inferInstanceAs (Decidable (∀ now ∈ watched.2.reads action, _))

/-- A request has the document in hand, or a push has settled it. -/
def Spoken (crates : Crates DocumentDigest) (pushes : List Push)
    (server : Server Guard DocumentDigest) (issuer id : String) (digest : DocumentDigest) : Prop :=
  HeldIn server.requests issuer id digest ∨ ∃ push ∈ pushes, push.Settles crates issuer id digest

/-- No two requests have a document in hand. -/
def HeldAlone (requests : List (Delivery × Stage DocumentDigest)) : Prop :=
  ∀ ⦃index other : Nat⦄ ⦃request holder : Delivery × Stage DocumentDigest⦄ ⦃issuer id : String⦄
    ⦃digest : DocumentDigest⦄, requests[index]? = some request → requests[other]? = some holder →
      request.2.Claims issuer id digest → holder.2.Claims issuer id digest → index = other

/-- One request at a time has a document in hand, only to answer it once a push has settled it, and
the gateway remembers it. -/
structure Sparing (crates : Crates DocumentDigest) (pushes : List Push) (readings : List DateTime)
    (server : Server Guard DocumentDigest) : Prop where
  wellFormed : server.app.replay.WellFormed server.app.bounds
  dated : ∀ request ∈ server.requests, request.2.Dated crates request.1
  recalled : ∀ {issuer id digest}, server.Spoken crates pushes issuer id digest →
    server.app.replay.ledger.Recalls crates readings issuer id digest
  alone : HeldAlone server.requests
  settled : ∀ {push issuer id digest}, push ∈ pushes → push.Settles crates issuer id digest →
    ∀ request ∈ server.requests, request.2.Claims issuer id digest → request.2.Answers
  spares : pushes.Pairwise (Push.Spares crates)

section Run

variable {server : Server Guard DocumentDigest} {pushes : List Push}
  {readings : List DateTime} {index : Nat} {delivery : Delivery} {stage next : Stage DocumentDigest}
  {app : AppState Guard} {once : DocumentOnce DocumentDigest} {effect : Effect}
  {issuer id : String} {digest : DocumentDigest}

theorem opened_sparing (crates : Crates DocumentDigest) (app : AppState Guard) :
    (opened app : Server Guard DocumentDigest).Sparing crates [] [] where
  wellFormed := ReplayRecord.new_wellFormed app.bounds
  dated _ member := by cases member
  recalled spoken := by
    obtain ⟨_, _, found, _⟩ | ⟨_, member, _⟩ := spoken
    · cases found
    · cases member
  alone _ _ _ _ _ _ _ found := by cases found
  settled member := by cases member
  spares := .nil

theorem Sparing.received (sparing : server.Sparing crates pushes readings) (delivery : Delivery) :
    ({ server with requests := server.requests ++ [(delivery, .received)] } :
      Server Guard DocumentDigest).Sparing crates pushes readings where
  wellFormed := sparing.wellFormed
  dated := List.forall_mem_append.mpr ⟨sparing.dated, List.forall_mem_singleton.mpr
    fun once effect authorised => by cases authorised⟩
  recalled spoken := sparing.recalled (spoken.imp_left (heldIn_append_received delivery).mp)
  alone index other request holder issuer id digest here there claims holds := by
    obtain here | ⟨_, rfl⟩ := getElem?_concat_cases here
    · obtain there | ⟨_, rfl⟩ := getElem?_concat_cases there
      · exact sparing.alone here there claims holds
      · exact absurd holds (Stage.not_claims rfl)
    · exact absurd claims (Stage.not_claims rfl)
  settled member settles := List.forall_mem_append.mpr ⟨sparing.settled member settles,
    List.forall_mem_singleton.mpr fun claims => absurd claims (Stage.not_claims rfl)⟩
  spares := sparing.spares

/-- A request which is about to push has its document in hand. -/
theorem Sparing.push_claims (sparing : server.Sparing crates pushes readings)
    (found : server.requests[index]? = some (delivery, stage)) {push : Push} {cut : Bool}
    (pushed : stage.push delivery cut = some push) :
    ∃ once effect, stage = .admitted once effect ∧
      crates.documentDigest push.delivery.doc = some once.digest ∧
      stage.Claims push.trigger push.delivery.doc.id once.digest := by
  obtain ⟨once, rfl, rfl, _⟩ := Stage.push_eq_some pushed
  obtain ⟨identified, digested, _⟩ := sparing.dated _ (List.mem_of_getElem? found) once _ rfl
  exact ⟨once, _, rfl, digested, (Stage.claims_iff rfl).mpr ⟨rfl, identified, rfl⟩⟩

/-- What is in hand or settled after a step of a request was so before it and is not taken back, or
has just been answered fresh. -/
theorem Sparing.spoken_cases (sparing : server.Sparing crates pushes readings)
    (found : server.requests[index]? = some (delivery, stage))
    (advanced : stage.Advanced crates delivery server.app app next) {drawn : List String}
    (spoken : (⟨app, server.requests.set index (delivery, next), drawn⟩ :
      Server Guard DocumentDigest).Spoken crates (pushes ++ (stage.push delivery false).toList)
        issuer id digest) :
    (server.Spoken crates pushes issuer id digest ∧ ¬stage.Releases issuer id digest) ∨
      ∃ once effect, stage = .admitting once effect ∧ effect.issuer = issuer ∧ once.id = id ∧
        once.digest = digest ∧ (once.claim server.app effect.issuer effect.handle).1 = .ok .fresh ∧
        app.replay = (once.claim server.app effect.issuer effect.handle).2 := by
  obtain held | ⟨push, member, settles⟩ := spoken
  · obtain claims | ⟨other, holder, different, present, claims⟩ := (heldIn_set found _).mp held
    · obtain ⟨once, effect, rfl, claim⟩ | unclaimed | ⟨once, effect, rfl, claim, fresh, booked⟩ :=
        advanced.claim_cases
      · have own := (Stage.claims_iff claim).mp claims
        exact .inl ⟨.inl ⟨index, _, found, (Stage.claims_iff rfl).mpr own⟩,
          Stage.not_releases_admitted once effect⟩
      · exact absurd claims (Stage.not_claims unclaimed)
      · obtain ⟨issued, identified, digested⟩ := (Stage.claims_iff claim).mp claims
        exact .inr ⟨once, effect, rfl, issued, identified, digested, fresh, booked⟩
    · refine .inl ⟨.inl ⟨other, holder, present, claims⟩, fun releases => different ?_⟩
      exact sparing.alone present found claims releases.claims
  · obtain old | new := List.mem_append.mp member
    · refine .inl ⟨.inr ⟨push, old, settles⟩, fun releases => releases.not_answers ?_⟩
      exact sparing.settled old settles _ (List.mem_of_getElem? found) releases.claims
    · obtain ⟨once, effect, rfl, digested, claims⟩ :=
        sparing.push_claims found (Option.mem_toList.mp new)
      obtain ⟨_, rfl, rfl, digested'⟩ := settles
      cases digested.symm.trans digested'
      exact .inl ⟨.inl ⟨index, _, found, claims⟩, Stage.not_releases_admitted once effect⟩

/-- A request which is about to push is for a document which no push has settled. -/
theorem Sparing.spares_push (sparing : server.Sparing crates pushes readings)
    (found : server.requests[index]? = some (delivery, stage)) {push : Push} {cut : Bool}
    (pushed : stage.push delivery cut = some push) :
    ∀ earlier ∈ pushes, earlier.Spares crates push := by
  intro earlier member triggers ids digests
  obtain ⟨once, effect, rfl, digested, own⟩ := sparing.push_claims found pushed
  by_contra settled
  have answered := sparing.settled member ⟨settled, triggers, ids, digests.trans digested⟩ _
    (List.mem_of_getElem? found) own
  exact Stage.not_answers_admitted once effect answered

/-- The push which a step makes or cuts off is spared by the others. -/
theorem Sparing.spares_append (sparing : server.Sparing crates pushes readings)
    (found : server.requests[index]? = some (delivery, stage)) (cut : Bool) :
    (pushes ++ (stage.push delivery cut).toList).Pairwise (Push.Spares crates) := by
  refine List.pairwise_append.mpr ⟨sparing.spares, ?_, fun earlier old push new => ?_⟩
  · cases stage.push delivery cut with
    | none => exact .nil
    | some push => exact List.pairwise_singleton _ _
  · exact sparing.spares_push found (Option.mem_toList.mp new) earlier old

variable [DecidableEq DocumentDigest] [LawfulReplayGuard Guard]

/-- What is answered fresh, nobody has in hand and no push has settled. -/
theorem Sparing.not_spoken (sparing : server.Sparing crates pushes readings)
    (found : server.requests[index]? = some (delivery, .admitting once effect))
    (steady : ∀ reading ∈ readings, reading - once.now < retentionMargin)
    (fresh : (once.claim server.app effect.issuer effect.handle).1 = .ok .fresh) :
    ¬server.Spoken crates pushes effect.issuer once.id once.digest := by
  intro spoken
  obtain ⟨_, digested, until_, own, _, before⟩ :=
    sparing.dated _ (List.mem_of_getElem? found) once effect rfl
  have remembers := sparing.recalled spoken delivery.doc digested
  rw [own] at remembers
  obtain ⟨entry, entered, _⟩ := remembers.present before steady
  have claimed := (once.claim_refines sparing.wellFormed effect.issuer effect.handle).2
  rw [fresh] at claimed
  cases claimed.of_fresh.1.symm.trans entered

/-- What is answered fresh is remembered. -/
theorem Sparing.recalls_fresh (covers : crates.CoversTimes)
    (sparing : server.Sparing crates pushes readings)
    (found : server.requests[index]? = some (delivery, .admitting once effect))
    (fresh : (once.claim server.app effect.issuer effect.handle).1 = .ok .fresh)
    (later : List DateTime) :
    (once.claim server.app effect.issuer effect.handle).2.ledger.Recalls crates later effect.issuer
      once.id once.digest := by
  intro doc digested
  obtain ⟨_, digested', until_, own, retained, _⟩ :=
    sparing.dated _ (List.mem_of_getElem? found) once effect rfl
  rw [covers.retainUntil_eq digested digested', own, ← retained]
  have claimed := (once.claim_refines sparing.wellFormed effect.issuer effect.handle).2
  rw [fresh] at claimed
  rw [claimed.of_fresh.2]
  refine .inl ⟨⟨once.digest, none, once.retainUntil⟩, ?_, rfl, rfl⟩
  simp [Ledger.accept, Ledger.charge, Ledger.enter]

/-- What a request has in hand after its step it had in hand before, or nobody had and no push has
settled. -/
theorem Sparing.claims_cases (sparing : server.Sparing crates pushes readings)
    (found : server.requests[index]? = some (delivery, stage))
    (advanced : stage.Advanced crates delivery server.app app next)
    (steady : ∀ now ∈ stage.reads, ∀ reading ∈ readings, reading - now < retentionMargin)
    (claims : next.Claims issuer id digest) :
    (stage.Claims issuer id digest ∧ ¬stage.Answers) ∨
      ¬server.Spoken crates pushes issuer id digest := by
  obtain ⟨once, effect, rfl, claim⟩ | unclaimed | ⟨once, effect, rfl, claim, fresh, _⟩ :=
    advanced.claim_cases
  · have own := (Stage.claims_iff claim).mp claims
    exact .inl ⟨(Stage.claims_iff rfl).mpr own, Stage.not_answers_admitted once effect⟩
  · exact absurd claims (Stage.not_claims unclaimed)
  · obtain ⟨rfl, rfl, rfl⟩ := (Stage.claims_iff claim).mp claims
    exact .inr (sparing.not_spoken found (steady once.now rfl) fresh)

/-- No two requests have a document in hand after a step of one of them. -/
theorem Sparing.alone_advanced (sparing : server.Sparing crates pushes readings)
    (found : server.requests[index]? = some (delivery, stage))
    (advanced : stage.Advanced crates delivery server.app app next)
    (steady : ∀ now ∈ stage.reads, ∀ reading ∈ readings, reading - now < retentionMargin) :
    HeldAlone (server.requests.set index (delivery, next)) := by
  have beside : ∀ {other holder issuer id digest}, other ≠ index →
      server.requests[other]? = some holder → holder.2.Claims issuer id digest →
        ¬next.Claims issuer id digest := by
    intro other holder issuer id digest different present holds claims
    obtain ⟨own, _⟩ | unspoken := sparing.claims_cases found advanced steady claims
    · exact different (sparing.alone present found holds own)
    · exact unspoken (.inl ⟨other, holder, present, holds⟩)
  intro one other request holder issuer id digest here there claims holds
  obtain ⟨rfl, rfl⟩ | ⟨apart, present⟩ := getElem?_set_cases found here
  · obtain ⟨rfl, rfl⟩ | ⟨apart, present⟩ := getElem?_set_cases found there
    · rfl
    · exact absurd claims (beside apart present holds)
  · obtain ⟨rfl, rfl⟩ | ⟨_, present'⟩ := getElem?_set_cases found there
    · exact absurd holds (beside apart present claims)
    · exact sparing.alone present present' claims holds

/-- Who has a settled document in hand after a step is about to answer it. -/
theorem Sparing.settled_advanced (sparing : server.Sparing crates pushes readings)
    (found : server.requests[index]? = some (delivery, stage))
    (advanced : stage.Advanced crates delivery server.app app next)
    (steady : ∀ now ∈ stage.reads, ∀ reading ∈ readings, reading - now < retentionMargin)
    (answers : ∀ push ∈ stage.push delivery false, push.outcome ≠ some .transientFailure →
      next.Answers)
    {push : Push} (member : push ∈ pushes ++ (stage.push delivery false).toList)
    (settles : push.Settles crates issuer id digest) :
    ∀ request ∈ server.requests.set index (delivery, next), request.2.Claims issuer id digest →
      request.2.Answers := by
  intro request inside claims
  obtain ⟨other, there⟩ := List.getElem?_of_mem inside
  obtain old | new := List.mem_append.mp member
  · obtain ⟨rfl, rfl⟩ | ⟨_, present⟩ := getElem?_set_cases found there
    · obtain ⟨own, unanswered⟩ | unspoken := sparing.claims_cases found advanced steady claims
      · exact absurd (sparing.settled old settles _ (List.mem_of_getElem? found) own) unanswered
      · exact absurd (.inr ⟨push, old, settles⟩) unspoken
    · exact sparing.settled old settles _ (List.mem_of_getElem? present) claims
  · have rung := Option.mem_toList.mp new
    obtain ⟨rfl, rfl⟩ | ⟨different, present⟩ := getElem?_set_cases found there
    · exact answers push rung settles.1
    · obtain ⟨once, effect, _, digested, own⟩ := sparing.push_claims found rung
      obtain ⟨_, rfl, rfl, digested'⟩ := settles
      cases digested.symm.trans digested'
      exact absurd (sparing.alone present found claims own) different

theorem Sparing.advanced (covers : crates.CoversTimes) (validates : crates.Validates)
    (sparing : server.Sparing crates pushes readings)
    (found : server.requests[index]? = some (delivery, stage))
    (advanced : stage.Advanced crates delivery server.app app next)
    (steady : ∀ now ∈ stage.reads, ∀ reading ∈ readings, reading - now < retentionMargin)
    (answers : ∀ push ∈ stage.push delivery false, push.outcome ≠ some .transientFailure →
      next.Answers)
    (drawn : List String) :
    (⟨app, server.requests.set index (delivery, next), drawn⟩ :
      Server Guard DocumentDigest).Sparing crates (pushes ++ (stage.push delivery false).toList)
        (readings ++ stage.reads.toList) where
  wellFormed := (advanced.books sparing.wellFormed).1
  dated := forall_mem_set sparing.dated
    (advanced.dated validates (sparing.dated _ (List.mem_of_getElem? found)))
  recalled := by
    intro issuer id digest spoken
    obtain ⟨before, kept⟩ | ⟨once, effect, rfl, rfl, rfl, rfl, fresh, booked⟩ :=
      sparing.spoken_cases found advanced spoken
    · intro doc digested
      refine advanced.remembers sparing.wellFormed (fun reading member => ?_) kept
        (sparing.recalled before doc digested)
      exact List.mem_append.mpr (List.mem_append.mp member).symm
    · dsimp only
      rw [booked]
      exact sparing.recalls_fresh covers found fresh _
  alone := sparing.alone_advanced found advanced steady
  settled := sparing.settled_advanced found advanced steady answers
  spares := sparing.spares_append found false

/-- A request which is dropped while its push is pending leaves its document remembered, and in
nobody's hand. -/
theorem Sparing.dropped (sparing : server.Sparing crates pushes readings)
    (found : server.requests[index]? = some (delivery, stage))
    (dropped : stage.Dropped server.app app next) (drawn : List String) :
    (⟨app, server.requests.set index (delivery, next), drawn⟩ :
      Server Guard DocumentDigest).Sparing crates (pushes ++ (stage.push delivery true).toList)
        (readings ++ stage.reads.toList) := by
  have own := List.mem_of_getElem? found
  have claims_before : ∀ {issuer id digest}, next.Claims issuer id digest →
      next = stage ∧ stage.Claims issuer id digest := by
    intro issuer id digest claims
    obtain rfl | rfl := dropped.next_cases
    · exact ⟨rfl, claims⟩
    · exact absurd claims (Stage.not_claims rfl)
  -- Whose push is cut off had the document in hand.
  have cut_claims : ∀ {push issuer id digest}, push ∈ (stage.push delivery true).toList →
      push.Settles crates issuer id digest →
        stage.Claims issuer id digest := by
    intro push issuer id digest new settles
    obtain ⟨once, effect, rfl, digested, claims⟩ :=
      sparing.push_claims found (Option.mem_toList.mp new)
    obtain ⟨_, rfl, rfl, digested'⟩ := settles
    cases digested.symm.trans digested'
    exact claims
  refine ⟨dropped.wellFormed sparing.wellFormed,
    forall_mem_set sparing.dated (dropped.dated (sparing.dated _ own)), ?_, ?_, ?_,
    sparing.spares_append found true⟩
  · intro issuer id digest spoken doc digested
    have before : server.Spoken crates pushes issuer id digest := by
      obtain held | ⟨push, member, settles⟩ := spoken
      · refine .inl ((heldIn_iff found).mpr ?_)
        exact ((heldIn_set found _).mp held).imp_left fun claims => (claims_before claims).2
      · obtain old | new := List.mem_append.mp member
        · exact .inr ⟨push, old, settles⟩
        · exact .inl ⟨index, _, found, cut_claims new settles⟩
    refine dropped.remembers sparing.wellFormed (fun reading member => ?_)
      (sparing.recalled before doc digested)
    exact List.mem_append.mpr (List.mem_append.mp member).symm
  · intro one other request holder issuer id digest here there claims holds
    obtain ⟨rfl, rfl⟩ | ⟨_, present⟩ := getElem?_set_cases found here
    · obtain ⟨rfl, rfl⟩ | ⟨_, present⟩ := getElem?_set_cases found there
      · rfl
      · exact sparing.alone found present (claims_before claims).2 holds
    · obtain ⟨rfl, rfl⟩ | ⟨_, present'⟩ := getElem?_set_cases found there
      · exact sparing.alone present found claims (claims_before holds).2
      · exact sparing.alone present present' claims holds
  · intro push issuer id digest member settles request inside claims
    obtain ⟨other, there⟩ := List.getElem?_of_mem inside
    obtain ⟨rfl, rfl⟩ | ⟨different, present⟩ := getElem?_set_cases found there
    · obtain ⟨rfl, before⟩ := claims_before claims
      rw [dropped.push_eq_none, Option.toList_none, List.append_nil] at member
      exact sparing.settled member settles _ own before
    · obtain old | new := List.mem_append.mp member
      · exact sparing.settled old settles _ (List.mem_of_getElem? present) claims
      · exact absurd (sparing.alone present found claims (cut_claims new settles)) different

theorem Sparing.step (covers : crates.CoversTimes) (validates : crates.Validates)
    (sparing : server.Sparing crates pushes readings) {action : ServerAction}
    (steady : Steady (readings, server) action) :
    (server.step crates action).Sparing crates (pushes ++ (server.push action).toList)
      (readings ++ (server.reads action).toList) := by
  have still : server.Sparing crates (pushes ++ []) (readings ++ []) := by
    rwa [List.append_nil, List.append_nil]
  cases action with
  | receive delivery => exact still.received delivery
  | advance index =>
      rw [Steady, reads] at steady
      rw [Server.step, push, reads]
      cases found : server.requests[index]? with
      | none => exact still
      | some request =>
          rw [found] at steady
          exact sparing.advanced covers validates found
            (request.2.advance_advanced request.1 server.app) steady
            (fun push pushed settled => Stage.push_answers server.app pushed settled) _
  | drop index =>
      rw [Server.step, push, reads]
      cases found : server.requests[index]? with
      | none => exact still
      | some request =>
          exact sparing.dropped found (request.2.drop_dropped server.app) _
  | sweep ttlSecs now =>
      exact ⟨still.wellFormed, still.dated, still.recalled, still.alone, still.settled,
        still.spares⟩

/-- Of any two pushes of a run for one document of one trigger, those cut off included, the earlier
is known to have come to a transient failure, and at no time do two requests have one document in
hand. -/
theorem wakes_ring_once (covers : crates.CoversTimes) (validates : crates.Validates)
    (app : AppState Guard) {actions : List ServerAction}
    (steady : Along (logged reads (step crates)) Steady ([], opened app) actions) :
    (events push (step crates) (opened app) actions).Pairwise (Push.Spares crates) ∧
      HeldAlone (run (step crates) (opened app) actions).requests := by
  have preserved : ∀ pushes (watched : List DateTime × Server Guard DocumentDigest) action,
      watched.2.Sparing crates pushes watched.1 → Steady watched action →
        (logged reads (step crates) watched action).2.Sparing crates
          (pushes ++ (watched.2.push action).toList)
          (logged reads (step crates) watched action).1 :=
    fun _ _ _ sparing steady => sparing.step covers validates steady
  have sparing := invariant_events preserved (opened_sparing crates app) steady
  rw [run_logged, events_logged] at sparing
  exact ⟨sparing.spares, sparing.alone⟩

end Run

private def redelivered (now : DateTime) (outcome : SendOutcome) : Delivery :=
  ⟨smallSurroundings "did:web:trigger.example" now outcome, none, smallBody, smallWake "wake"⟩

/-- The second delivery finds the document in hand, and the third claims it after the first push has
failed, with clocks which go back a little.  It is dropped while its send is pending, so the last
one finds the document in flight. -/
private def redeliveries : List ServerAction :=
  [.receive (redelivered 1 .transientFailure), .receive (redelivered 1 .delivered),
    .receive (redelivered 0 .delivered), .receive (redelivered 1 .permanentlyUnregistered),
    .advance 0, .advance 1, .advance 2, .advance 3, .advance 0, .advance 1, .advance 0, .advance 0,
    .advance 2, .drop 2, .advance 3]

theorem wakes_ring_once_redelivered :
    (events push (step plainCrates) (opened smallGateway) redeliveries).Pairwise
        (Push.Spares plainCrates) ∧
      HeldAlone (run (step plainCrates) (opened smallGateway) redeliveries).requests :=
  wakes_ring_once plainCrates_coversTimes plainCrates_validates smallGateway (by decide +kernel)

/-- Two pushes are made in that run, and nobody knows what has become of the second one. -/
example : (events push (step plainCrates) (opened smallGateway) redeliveries).map Push.outcome =
    [some .transientFailure, none] := by decide +kernel

end Server

end PushGateway
