import PushGateway.Intake.Window

/-!
# Never both fresh and forgotten

Deliveries handled one at a time, by any issuers, with completions between them.  Each delivery
reads a clock, checks its document's window at that reading, and claims the document with the
retention the window asked for.  The invariant ties the two together: an unreleased document is
still in the record, or some reading has already passed its retention, and then no later reading
can be early enough for the window.
-/

namespace PushGateway

open ReplayGuard

/-! ## What the ledger remembers -/

namespace Ledger

variable {Issuer Handle Id Digest Response : Type}

/-- The entry is there with this retention, or some clock reading has passed the retention. -/
def Remembers (ledger : Ledger Issuer Handle Id Digest Response) (readings : List DateTime)
    (issuer : Issuer) (id : Id) (digest : Digest) (retain : Option DateTime) : Prop :=
  (∃ entry, ledger.entries issuer id = some entry ∧ entry.digest = digest ∧
      entry.retainUntil = retain) ∨
    ∃ reading ∈ readings, unexpired retain reading = false

namespace Remembers

variable {ledger : Ledger Issuer Handle Id Digest Response} {readings : List DateTime}
  {issuer : Issuer} {id : Id} {digest : Digest} {retain : Option DateTime}

theorem weaken (remembers : ledger.Remembers readings issuer id digest retain) (now : DateTime) :
    ledger.Remembers (now :: readings) issuer id digest retain :=
  remembers.imp_right fun ⟨reading, member, passed⟩ =>
    ⟨reading, List.mem_cons_of_mem now member, passed⟩

/-- What expiry drops, its clock reading has passed. -/
theorem expire (remembers : ledger.Remembers readings issuer id digest retain) (now : DateTime) :
    (ledger.expire now).Remembers (now :: readings) issuer id digest retain := by
  rcases remembers with ⟨entry, found, same, rfl⟩ | ⟨reading, member, passed⟩
  · cases live : entry.live now with
    | true =>
        refine .inl ⟨entry, ?_, same, rfl⟩
        simp [Ledger.expire, found, Option.filter_some, live]
    | false => exact .inr ⟨now, List.mem_cons_self, live⟩
  · exact .inr ⟨reading, List.mem_cons_of_mem now member, passed⟩

/-- Within the margin of every reading, a document which the window accepts is still entered. -/
theorem present {now until_ : DateTime}
    (remembers : ledger.Remembers readings issuer id digest (some until_))
    (accepted : now + retentionMargin ≤ until_)
    (steady : ∀ reading ∈ readings, reading - now < retentionMargin) :
    ∃ entry, (ledger.expire now).entries issuer id = some entry ∧ entry.digest = digest ∧
      entry.retainUntil = some until_ := by
  rcases remembers with ⟨entry, found, same, retained⟩ | ⟨reading, member, passed⟩
  · refine ⟨entry, ?_, same, retained⟩
    have live : entry.live now = true := by
      rw [Retained.live, retained]
      have positive : (0 : Int) < retentionMargin := by decide
      simp only [unexpired, Option.all_some, decide_eq_true_eq]
      exact (Int.lt_add_of_pos_right now positive).trans_le accepted
    simp [Ledger.expire, found, Option.filter_some, live]
  · have late := steady reading member
    simp only [unexpired, Option.all_some, decide_eq_false_iff_not] at passed
    lia

variable [DecidableEq Issuer] [DecidableEq Handle] [DecidableEq Id]

/-- A claim of any document leaves this one remembered. -/
theorem claimed {after : Ledger Issuer Handle Id Digest Response} {other : Issuer}
    {handle : Handle} {otherId : Id} {otherDigest : Digest} {otherRetain : Option DateTime}
    {now : DateTime} {result : Except RejectReason (Admission Response)}
    (remembers : ledger.Remembers readings issuer id digest retain)
    (claimed : ledger.Claimed other handle otherId otherDigest otherRetain now result after) :
    after.Remembers (now :: readings) issuer id digest retain := by
  have expired := remembers.expire now
  cases claimed with
  | busy => exact expired
  | fresh absent =>
      rcases expired with ⟨entry, found, same, retained⟩ | passed
      · refine .inl ⟨entry, ?_, same, retained⟩
        have apart : ¬(issuer = other ∧ id = otherId) := by
          rintro ⟨rfl, rfl⟩
          rw [absent] at found
          cases found
        simpa [Ledger.accept, Ledger.charge, Ledger.enter, apart] using found
      · exact .inr passed
  | answered => exact expired
  | inFlight => exact expired
  | conflict => exact expired

variable [DecidableEq Digest]

/-- A completion leaves the document remembered, unless it releases it. -/
theorem complete {other : Issuer} {handle : Handle} {otherId : Id} {otherDigest : Digest}
    {response : Option Response} (remembers : ledger.Remembers readings issuer id digest retain)
    (kept : response = none → ¬(issuer = other ∧ id = otherId ∧ digest = otherDigest)) :
    (ledger.complete other handle otherId otherDigest response).Remembers readings issuer id digest
      retain := by
  rcases remembers with ⟨entry, found, same, retained⟩ | passed
  · left
    cases response with
    | some response =>
        simp only [Ledger.complete, Ledger.recordResponse, found, Option.map_some]
        split
        · exact ⟨_, rfl, same, retained⟩
        · exact ⟨entry, rfl, same, retained⟩
    | none =>
        refine ⟨entry, ?_, same, retained⟩
        simp only [Ledger.complete, Ledger.withdraw, Ledger.uncharge, found]
        split
        · rename_i target
          have different : entry.digest ≠ otherDigest := fun equal =>
            kept rfl ⟨target.1, target.2, same.symm.trans equal⟩
          simp [Option.filter_some, Retained.releasedBy_of_ne different]
        · rfl
  · exact .inr passed

end Remembers

end Ledger

/-! ## Deliveries one at a time -/

/-- What a log keeps of a run of deliveries.  A document is known by its issuer, identifier and
digest, and by the retention its time bounds ask for. -/
inductive DeskEvent (Issuer DocumentDigest : Type) where
  | fresh (issuer : Issuer) (id : String) (digest : DocumentDigest) (retain : Option DateTime)
  | released (issuer : Issuer) (id : String) (digest : DocumentDigest)
  deriving DecidableEq, Repr

/-- A delivery, or the completion of an earlier one. -/
inductive DeskStep (Issuer Handle DocumentDigest Response : Type) where
  | deliver (issuer : Issuer) (handle : Handle) (doc : TrustTask) (now : DateTime)
  | complete (issuer : Issuer) (handle : Handle) (id : String) (digest : DocumentDigest)
      (response : Option Response)

/-- The record, every clock reading so far, and the log. -/
structure Desk (Guard Issuer Handle DocumentDigest : Type) where
  record : ReplayRecord Guard Issuer Handle String
  readings : List DateTime
  log : List (DeskEvent Issuer DocumentDigest)

variable {Guard Issuer Handle DocumentDigest Response : Type} [DecidableEq Issuer]
  [DecidableEq Handle] [DecidableEq DocumentDigest]
  [ReplayGuard Guard String DocumentDigest Response]

namespace Desk

/-- The fresh answers to a document which have not been released. -/
def unreleased (issuer : Issuer) (id : String) (digest : DocumentDigest)
    (retain : Option DateTime) (log : List (DeskEvent Issuer DocumentDigest)) : Nat :=
  Execution.outstanding (fun event => decide (event = .fresh issuer id digest retain))
    (fun event => decide (event = .released issuer id digest)) log

def initial : Desk Guard Issuer Handle DocumentDigest where
  record := ReplayRecord.new
  readings := []
  log := []

/-- The release a completion without a response logs, if an entry is there to be taken away. -/
def releases (record : ReplayRecord Guard Issuer Handle String) (issuer : Issuer) (id : String)
    (digest : DocumentDigest) : Option Response → List (DeskEvent Issuer DocumentDigest)
  | some _ => []
  | none =>
      match record.entry issuer id with
      | some entry => if entry.digest = digest then [.released issuer id digest] else []
      | none => []

def step (crates : Crates DocumentDigest) (bounds : Bounds) (gatewayDid : String)
    (desk : Desk Guard Issuer Handle DocumentDigest) :
    DeskStep Issuer Handle DocumentDigest Response → Desk Guard Issuer Handle DocumentDigest
  | .deliver issuer handle doc now =>
      match checkWindow crates doc gatewayDid now with
      | .error _ => { desk with readings := now :: desk.readings }
      | .ok (digest, retain) =>
          match desk.record.claim bounds issuer handle doc.id digest retain now with
          | (.ok .fresh, record) =>
              ⟨record, now :: desk.readings, desk.log ++ [.fresh issuer doc.id digest retain]⟩
          | (_, record) => ⟨record, now :: desk.readings, desk.log⟩
  | .complete issuer handle id digest response =>
      ⟨desk.record.complete issuer handle id digest response, desk.readings,
        desk.log ++ releases desk.record issuer id digest response⟩

/-- The step's clock reading, if it has one, is less than the margin below every earlier one. -/
def Steady (desk : Desk Guard Issuer Handle DocumentDigest) :
    DeskStep Issuer Handle DocumentDigest Response → Prop
  | .deliver _ _ _ now => ∀ reading ∈ desk.readings, reading - now < retentionMargin
  | .complete _ _ _ _ _ => True

instance (desk : Desk Guard Issuer Handle DocumentDigest)
    (step : DeskStep Issuer Handle DocumentDigest Response) : Decidable (desk.Steady step) := by
  cases step <;> unfold Steady <;> infer_instance

theorem unreleased_fresh (log : List (DeskEvent Issuer DocumentDigest)) (issuer other : Issuer)
    (id otherId : String) (digest otherDigest : DocumentDigest)
    (retain otherRetain : Option DateTime) :
    unreleased other otherId otherDigest otherRetain (log ++ [.fresh issuer id digest retain]) =
      unreleased other otherId otherDigest otherRetain log +
        if other = issuer ∧ otherId = id ∧ otherDigest = digest ∧ otherRetain = retain then 1
        else 0 := by
  simp only [unreleased, Execution.outstanding_concat, DeskEvent.fresh.injEq, decide_eq_true_eq,
    reduceCtorEq, decide_false, Bool.false_eq_true, if_false]
  rw [if_congr (and_congr eq_comm (and_congr eq_comm (and_congr eq_comm eq_comm))) rfl rfl]
  split <;> rfl

theorem unreleased_released (log : List (DeskEvent Issuer DocumentDigest)) (issuer other : Issuer)
    (id otherId : String) (digest otherDigest : DocumentDigest)
    (otherRetain : Option DateTime) :
    unreleased other otherId otherDigest otherRetain (log ++ [.released issuer id digest]) =
      unreleased other otherId otherDigest otherRetain log -
        if other = issuer ∧ otherId = id ∧ otherDigest = digest then 1 else 0 := by
  simp only [unreleased, Execution.outstanding_concat, DeskEvent.released.injEq,
    decide_eq_true_eq, reduceCtorEq, decide_false, Bool.false_eq_true, if_false]
  rw [if_congr (and_congr eq_comm (and_congr eq_comm eq_comm)) rfl rfl]
  split <;> rfl

/-- Every unreleased fresh answer is remembered, and there is at most one for each document. -/
structure Sound (bounds : Bounds) (desk : Desk Guard Issuer Handle DocumentDigest) : Prop where
  wellFormed : desk.record.WellFormed bounds
  accounted : ∀ issuer id digest retain, unreleased issuer id digest retain desk.log = 0 ∨
    (unreleased issuer id digest retain desk.log = 1 ∧
      desk.record.ledger.Remembers desk.readings issuer id digest retain)

theorem initial_sound (bounds : Bounds) :
    (initial : Desk Guard Issuer Handle DocumentDigest).Sound bounds where
  wellFormed := ReplayRecord.new_wellFormed bounds
  accounted _ _ _ _ := .inl rfl

section Lawful

variable [LawfulReplayGuard Guard]

/-- A delivery which the window accepts is answered fresh only if it has no unreleased fresh
answer yet. -/
theorem Sound.claimed {crates : Crates DocumentDigest} {bounds : Bounds} {gatewayDid : String}
    {desk : Desk Guard Issuer Handle DocumentDigest} (validates : crates.Validates)
    (sound : desk.Sound bounds)
    {issuer : Issuer} {handle : Handle} {doc : TrustTask} {digest : DocumentDigest}
    {retain : Option DateTime} {now : DateTime}
    (steady : ∀ reading ∈ desk.readings, reading - now < retentionMargin)
    (passed : checkWindow crates doc gatewayDid now = .ok (digest, retain))
    {result : Except RejectReason (Admission Response)}
    {record : ReplayRecord Guard Issuer Handle String}
    (claim : desk.record.claim bounds issuer handle doc.id digest retain now = (result, record)) :
    record.WellFormed bounds ∧
      (result ≠ .ok .fresh →
        (⟨record, now :: desk.readings, desk.log⟩ :
          Desk Guard Issuer Handle DocumentDigest).Sound bounds) ∧
      (result = .ok .fresh →
        (⟨record, now :: desk.readings, desk.log ++ [.fresh issuer doc.id digest retain]⟩ :
          Desk Guard Issuer Handle DocumentDigest).Sound bounds) := by
  obtain ⟨wellFormed, claimed⟩ :=
    ReplayRecord.claim_refines sound.wellFormed issuer handle doc.id digest retain now
  rw [claim] at wellFormed claimed
  refine ⟨wellFormed, fun _ => ⟨wellFormed, ?_⟩, ?_⟩
  · intro other id otherDigest otherRetain
    exact (sound.accounted other id otherDigest otherRetain).imp_right fun ⟨one, remembers⟩ =>
      ⟨one, remembers.claimed claimed⟩
  · rintro rfl
    obtain ⟨absent, entered⟩ := claimed.of_fresh
    obtain ⟨until_, rfl, accepted⟩ := accepted_before_retention validates passed
    refine ⟨wellFormed, fun other id otherDigest otherRetain => ?_⟩
    rw [unreleased_fresh]
    by_cases same : other = issuer ∧ id = doc.id ∧ otherDigest = digest ∧ otherRetain = some until_
    · obtain ⟨rfl, rfl, rfl, rfl⟩ := same
      rcases sound.accounted other doc.id otherDigest (some until_) with closed | ⟨_, remembers⟩
      · refine .inr ⟨by simp [closed], .inl ⟨⟨otherDigest, none, some until_⟩, ?_, rfl, rfl⟩⟩
        dsimp only at entered ⊢
        rw [entered]
        simp [Ledger.accept, Ledger.charge, Ledger.enter]
      · -- The earlier answer's entry cannot have expired while the window still accepts.
        obtain ⟨entry, found, _⟩ := remembers.present accepted steady
        rw [absent] at found
        cases found
    · rw [if_neg same, add_zero]
      exact (sound.accounted other id otherDigest otherRetain).imp_right fun ⟨one, remembers⟩ =>
        ⟨one, remembers.claimed claimed⟩

theorem Sound.complete {bounds : Bounds} {desk : Desk Guard Issuer Handle DocumentDigest}
    (sound : desk.Sound bounds) (issuer : Issuer) (handle : Handle) (id : String)
    (digest : DocumentDigest) (response : Option Response) :
    (⟨desk.record.complete issuer handle id digest response, desk.readings,
      desk.log ++ releases desk.record issuer id digest response⟩ :
        Desk Guard Issuer Handle DocumentDigest).Sound bounds := by
  obtain ⟨wellFormed, completed⟩ :=
    ReplayRecord.complete_refines sound.wellFormed issuer handle id digest response
  refine ⟨wellFormed, fun other otherId otherDigest otherRetain => ?_⟩
  dsimp only
  rw [completed]
  have accounted := sound.accounted other otherId otherDigest otherRetain
  by_cases target : other = issuer ∧ otherId = id ∧ otherDigest = digest
  · obtain ⟨rfl, rfl, rfl⟩ := target
    cases response with
    | some response =>
        simp only [releases, List.append_nil]
        exact accounted.imp_right fun ⟨one, remembers⟩ => ⟨one, remembers.complete nofun⟩
    | none =>
        simp only [releases]
        cases kept : desk.record.entry other otherId with
        | none =>
            simp only [List.append_nil]
            refine accounted.imp_right fun ⟨one, remembers⟩ => ⟨one, .inr ?_⟩
            rcases remembers with ⟨entry, found, _⟩ | passed
            · cases kept.symm.trans found
            · exact passed
        | some stored =>
            by_cases same : stored.digest = otherDigest
            · simp only [same, if_true]
              rw [unreleased_released, if_pos ⟨rfl, rfl, rfl⟩]
              rcases accounted with closed | ⟨one, _⟩ <;> omega
            · simp only [same, if_false, List.append_nil]
              refine accounted.imp_right fun ⟨one, remembers⟩ => ⟨one, .inr ?_⟩
              rcases remembers with ⟨entry, found, own, _⟩ | passed
              · cases kept.symm.trans found
                exact absurd own same
              · exact passed
  · have unchanged : unreleased other otherId otherDigest otherRetain
        (desk.log ++ releases desk.record issuer id digest response) =
        unreleased other otherId otherDigest otherRetain desk.log := by
      cases response with
      | some response => simp [releases]
      | none =>
          simp only [releases]
          split
          · split
            · rw [unreleased_released, if_neg target, Nat.sub_zero]
            · rw [List.append_nil]
          · rw [List.append_nil]
    rw [unchanged]
    exact accounted.imp_right fun ⟨one, remembers⟩ => ⟨one, remembers.complete fun _ => target⟩

theorem sound_step {crates : Crates DocumentDigest} {bounds : Bounds} {gatewayDid : String}
    (validates : crates.Validates) {desk : Desk Guard Issuer Handle DocumentDigest}
    {action : DeskStep Issuer Handle DocumentDigest Response} (sound : desk.Sound bounds)
    (steady : desk.Steady action) : (desk.step crates bounds gatewayDid action).Sound bounds := by
  cases action with
  | deliver issuer handle doc now =>
      simp only [step]
      split
      · refine ⟨sound.wellFormed, fun other id digest retain => ?_⟩
        exact (sound.accounted other id digest retain).imp_right fun ⟨one, remembers⟩ =>
          ⟨one, remembers.weaken now⟩
      · rename_i digest retain passed
        split
        · rename_i claim
          exact (sound.claimed validates steady passed claim).2.2 rfl
        · rename_i result record stale claim
          refine (sound.claimed validates steady passed claim).2.1 fun fresh => ?_
          exact stale fresh
  | complete issuer handle id digest response =>
      exact sound.complete issuer handle id digest response

/-- Of the claims of a document which no completion releases, at most one is answered fresh, in
every run of deliveries and completions whose clock readings fall back by less than the margin. -/
theorem never_fresh_twice (crates : Crates DocumentDigest) (validates : crates.Validates)
    (bounds : Bounds) (gatewayDid : String)
    (actions : List (DeskStep Issuer Handle DocumentDigest Response))
    (steady : Execution.Along (step crates bounds gatewayDid)
      (fun desk action => desk.Steady action)
      (initial : Desk Guard Issuer Handle DocumentDigest) actions)
    (issuer : Issuer) (doc : TrustTask) :
    ∀ digest ∈ crates.documentDigest doc,
      unreleased issuer doc.id digest (retainUntil doc)
        (Execution.run (step crates bounds gatewayDid)
          (initial : Desk Guard Issuer Handle DocumentDigest) actions).log ≤ 1 := by
  intro digest _
  have finally_sound : (Execution.run (step crates bounds gatewayDid)
      (initial : Desk Guard Issuer Handle DocumentDigest) actions).Sound bounds :=
    Execution.invariant (fun desk action sound steady => sound_step validates sound steady)
      (initial_sound bounds) steady
  rcases finally_sound.accounted issuer doc.id digest (retainUntil doc) with closed | ⟨one, _⟩ <;>
    omega

end Lawful

private def issuedAtZero : TrustTask where
  id := "urn:uuid:1"
  typeUri := ⟨"push/wake", 0, 2, "https://trusttasks.org/spec/push/wake/0.2"⟩
  recipient := some "did:web:gateway.example"
  issuedAt := some 0
  expiresAt := none
  payload := .null
  members := .null

/-- One document at the first and at the last instant the window accepts it. -/
private def redelivered : List (DeskStep Nat Nat PlainDigest Nat) :=
  [.deliver 0 0 issuedAtZero (TimeDelta.seconds (-60)),
    .deliver 0 0 issuedAtZero (TimeDelta.seconds 360)]

theorem never_fresh_twice_redelivered :
    unreleased 0 issuedAtZero.id ⟨issuedAtZero.id, issuedAtZero.typeUri, some 0, none⟩
      (retainUntil issuedAtZero)
      (Execution.run (step plainCrates Bounds.default "did:web:gateway.example")
        (initial : Desk (ReferenceGuard String PlainDigest Nat) Nat Nat PlainDigest)
        redelivered).log ≤ 1 :=
  never_fresh_twice plainCrates plainCrates_validates Bounds.default "did:web:gateway.example"
    redelivered (by decide) 0 issuedAtZero _ rfl

end Desk

end PushGateway
