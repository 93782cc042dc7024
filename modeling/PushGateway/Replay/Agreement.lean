import PushGateway.Replay.Budgets
import PushGateway.Replay.Fairness

/-!
# Whether entries and charges agree

Calls made one at a time, each claim answered fresh closed out at most once.  An entry and the
charge which goes with it are kept in two maps, and a completion without a response takes them
out by different keys.  They stay together until such a completion finds an entry of its handle
which it leaves, or takes one back which was claimed for another handle.
-/

namespace PushGateway

open Execution ReplayGuard

/-- A claim answered fresh. -/
structure Grant (Issuer Handle Id Digest : Type) where
  issuer : Issuer
  handle : Handle
  id : Id
  digest : Digest
  deriving DecidableEq, Repr

variable {Guard Issuer Handle Id Digest Response : Type}

/-! ## Expiry -/

namespace Ledger

theorem unexpired_mono {retainUntil : Option DateTime} {now later : DateTime} (after : now ≤ later)
    (kept : unexpired retainUntil later = true) : unexpired retainUntil now = true := by
  cases retainUntil with
  | none => rfl
  | some instant =>
      simp only [unexpired, Option.all_some, decide_eq_true_eq] at kept ⊢
      exact lt_of_le_of_lt after kept

/-- What has expired once has expired for good. -/
theorem expire_expire {ledger : Ledger Issuer Handle Id Digest Response} {now later : DateTime}
    (after : now ≤ later) :
    (ledger.expire now).expire later = ledger.expire later := by
  apply Ledger.ext
  · funext issuer id
    simp only [Ledger.expire]
    cases ledger.entries issuer id with
    | none => rfl
    | some entry =>
        cases live : entry.live later with
        | false => cases before : entry.live now <;> simp [Option.filter_some, before, live]
        | true =>
            have before : entry.live now = true := unexpired_mono after live
            simp [Option.filter_some, before, live]
  · funext handle
    simp only [Ledger.expire, List.filter_filter]
    congr 1
    funext charge
    cases kept : unexpired charge.retainUntil later with
    | false => rfl
    | true => simp [unexpired_mono after kept]
  · rfl

end Ledger

section Agreement

variable [DecidableEq Issuer] [DecidableEq Id]

/-- The handle of the latest grant of a document, in a list which starts with the latest. -/
def claimedFor (granted : List (Grant Issuer Handle Id Digest)) (issuer : Issuer) (id : Id) :
    Option Handle :=
  (granted.find? fun grant => decide (grant.issuer = issuer) && decide (grant.id = id)).map
    Grant.handle

theorem claimedFor_cons (granted : List (Grant Issuer Handle Id Digest))
    (grant : Grant Issuer Handle Id Digest) (issuer : Issuer) (id : Id) :
    claimedFor (grant :: granted) issuer id =
      if grant.issuer = issuer ∧ grant.id = id then some grant.handle
      else claimedFor granted issuer id := by
  rw [claimedFor, List.find?_cons]
  by_cases same : grant.issuer = issuer ∧ grant.id = id
  · simp [same]
  · have other : (decide (grant.issuer = issuer) && decide (grant.id = id)) = false := by
      simpa using same
    rw [other, if_neg same]
    rfl

/-! ## Agreement of a ledger -/

namespace Ledger

/-- The charges for a document on a handle. -/
def chargedWith (ledger : Ledger Issuer Handle Id Digest Response) (handle : Handle)
    (issuer : Issuer) (id : Id) : List (HandleCharge Issuer Id) :=
  (ledger.charges handle).filter fun charge =>
    decide (charge.issuer = issuer) && decide (charge.id = id)

variable {ledger : Ledger Issuer Handle Id Digest Response}

theorem mem_chargedWith {handle : Handle} {charge : HandleCharge Issuer Id}
    (member : charge ∈ ledger.charges handle) :
    charge ∈ ledger.chargedWith handle charge.issuer charge.id := by
  simp [chargedWith, member]

theorem chargedWith_expire (now : DateTime) (handle : Handle) (issuer : Issuer) (id : Id) :
    (ledger.expire now).chargedWith handle issuer id =
      (ledger.chargedWith handle issuer id).filter fun charge =>
        unexpired charge.retainUntil now := by
  simp only [chargedWith, Ledger.expire, List.filter_filter]
  congr 1
  funext charge
  exact Bool.and_comm _ _

variable [DecidableEq Handle]

/-- Every entry is charged once, with its retention, to the handle it was claimed for and to no
other, and every charge has its entry. -/
structure Agree (granted : List (Grant Issuer Handle Id Digest))
    (ledger : Ledger Issuer Handle Id Digest Response) : Prop where
  charged : ∀ issuer id entry, ledger.entries issuer id = some entry →
    ∃ handle, claimedFor granted issuer id = some handle ∧
      ∀ other, ledger.chargedWith other issuer id =
        if other = handle then [⟨issuer, id, entry.retainUntil⟩] else []
  entered : ∀ handle, ∀ charge ∈ ledger.charges handle,
    ∃ entry, ledger.entries charge.issuer charge.id = some entry

theorem chargedWith_accept (issuer : Issuer) (handle : Handle) (id : Id) (digest : Digest)
    (retainUntil : Option DateTime) (owner : Handle) (other : Issuer) (otherId : Id) :
    (ledger.accept issuer handle id digest retainUntil).chargedWith owner other otherId =
      ledger.chargedWith owner other otherId ++
        if owner = handle ∧ other = issuer ∧ otherId = id then [⟨issuer, id, retainUntil⟩]
        else [] := by
  simp only [chargedWith, Ledger.accept, Ledger.charge, Ledger.enter]
  by_cases own : owner = handle
  · by_cases same : other = issuer ∧ otherId = id
    · simp [own, same]
    · have different : ¬(issuer = other ∧ id = otherId) := fun equal =>
        same ⟨equal.1.symm, equal.2.symm⟩
      simp [own, same, different]
  · simp [own]

theorem chargedWith_uncharge (issuer : Issuer) (handle : Handle) (id : Id) (owner : Handle)
    (other : Issuer) (otherId : Id) :
    (ledger.uncharge handle issuer id).chargedWith owner other otherId =
      if owner = handle ∧ other = issuer ∧ otherId = id then []
      else ledger.chargedWith owner other otherId := by
  simp only [chargedWith, Ledger.uncharge]
  by_cases own : owner = handle
  · by_cases same : other = issuer ∧ otherId = id
    · obtain ⟨rfl, rfl⟩ := same
      simp [own]
    · rw [if_pos own, if_neg fun equal => same equal.2, List.filter_filter]
      refine List.filter_congr fun charge _ => ?_
      by_cases listed : charge.issuer = other ∧ charge.id = otherId
      · obtain ⟨rfl, rfl⟩ := listed
        simpa [-not_and, not_and_or] using same
      · have unlisted :
            (decide (charge.issuer = other) && decide (charge.id = otherId)) = false := by
          simpa using listed
        rw [unlisted, Bool.false_and]
  · simp [own]

namespace Agree

variable {granted : List (Grant Issuer Handle Id Digest)} {issuer : Issuer} {handle : Handle}
  {id : Id} {digest : Digest}

theorem empty (ledger : Ledger Issuer Handle Id Digest Response)
    (noEntry : ∀ issuer id, ledger.entries issuer id = none)
    (noCharge : ∀ handle, ledger.charges handle = []) : ledger.Agree granted where
  charged issuer id entry found := by
    rw [noEntry] at found
    cases found
  entered handle charge member := by
    rw [noCharge] at member
    cases member

theorem expire (agree : ledger.Agree granted) (now : DateTime) :
    (ledger.expire now).Agree granted where
  charged issuer id entry found := by
    obtain ⟨kept, live⟩ := Option.filter_eq_some_iff.mp found
    obtain ⟨handle, claimed, charges⟩ := agree.charged issuer id entry kept
    refine ⟨handle, claimed, fun other => ?_⟩
    rw [chargedWith_expire, charges]
    split
    · exact List.filter_eq_self.mpr fun charge member => by
        rw [List.mem_singleton.mp member]
        exact live
    · rfl
  entered handle charge member := by
    obtain ⟨kept, live⟩ := List.mem_filter.mp member
    obtain ⟨entry, found⟩ := agree.entered handle charge kept
    obtain ⟨owner, -, charges⟩ := agree.charged _ _ entry found
    have listed := mem_chargedWith kept
    rw [charges] at listed
    split at listed
    · have same : charge.retainUntil = entry.retainUntil :=
        congrArg HandleCharge.retainUntil (List.mem_singleton.mp listed)
      refine ⟨entry, Option.filter_eq_some_iff.mpr ⟨found, ?_⟩⟩
      rwa [Retained.live, ← same]
    · cases listed

/-- A document without an entry is charged nowhere. -/
theorem uncharged (agree : ledger.Agree granted) (absent : ledger.entries issuer id = none)
    (handle : Handle) : ledger.chargedWith handle issuer id = [] := by
  rw [chargedWith, List.filter_eq_nil_iff]
  intro charge member same
  obtain ⟨rfl, rfl⟩ : charge.issuer = issuer ∧ charge.id = id := by simpa using same
  obtain ⟨entry, found⟩ := agree.entered handle charge member
  cases absent.symm.trans found

theorem accept (agree : ledger.Agree granted) (absent : ledger.entries issuer id = none)
    (handle : Handle) (digest : Digest) (retainUntil : Option DateTime) :
    (ledger.accept issuer handle id digest retainUntil).Agree
      (⟨issuer, handle, id, digest⟩ :: granted) where
  charged other otherId entry found := by
    simp only [claimedFor_cons]
    simp only [Ledger.accept, Ledger.charge, Ledger.enter] at found
    split at found
    · rename_i same
      obtain ⟨rfl, rfl⟩ := same
      cases found
      refine ⟨handle, by simp, fun owner => ?_⟩
      rw [chargedWith_accept, agree.uncharged absent]
      simp
    · rename_i different
      obtain ⟨owner, claimed, before⟩ := agree.charged other otherId entry found
      refine ⟨owner, ?_, fun third => ?_⟩
      · rw [if_neg fun same => different ⟨same.1.symm, same.2.symm⟩]
        exact claimed
      · have elsewhere : ¬(third = handle ∧ other = issuer ∧ otherId = id) := fun same =>
          different same.2
        rw [chargedWith_accept, before, if_neg elsewhere, List.append_nil]
  entered owner charge member := by
    have entries : ∀ other otherId, (∃ entry, ledger.entries other otherId = some entry) →
        ∃ entry, (ledger.accept issuer handle id digest retainUntil).entries other otherId =
          some entry := by
      rintro other otherId ⟨entry, found⟩
      simp only [Ledger.accept, Ledger.charge, Ledger.enter]
      split
      · exact ⟨_, rfl⟩
      · exact ⟨entry, found⟩
    simp only [Ledger.accept, Ledger.charge, Ledger.enter] at member
    split at member
    · obtain before | last := List.mem_append.mp member
      · exact entries _ _ (agree.entered owner charge before)
      · rw [List.mem_singleton.mp last]
        exact ⟨⟨digest, none, retainUntil⟩, by simp [Ledger.accept, Ledger.charge, Ledger.enter]⟩
    · exact entries _ _ (agree.entered owner charge member)

theorem recordResponse (agree : ledger.Agree granted) (issuer : Issuer) (id : Id)
    (response : Response) : (ledger.recordResponse issuer id response).Agree granted where
  charged other otherId entry found := by
    simp only [Ledger.recordResponse] at found
    split at found
    · obtain ⟨before, kept, rfl⟩ := Option.map_eq_some_iff.mp found
      exact agree.charged other otherId before kept
    · exact agree.charged other otherId entry found
  entered owner charge member := by
    obtain ⟨entry, found⟩ := agree.entered owner charge member
    simp only [Ledger.recordResponse]
    split
    · exact ⟨_, Option.map_eq_some_iff.mpr ⟨entry, found, rfl⟩⟩
    · exact ⟨entry, found⟩

variable [DecidableEq Digest]

/-- A document taken back with its charge. -/
theorem takeBack (agree : ledger.Agree granted) {entry : Retained Digest Response}
    (found : ledger.entries issuer id = some entry)
    (released : entry.releasedBy ledger.keepsAnswered digest = true)
    (claimed : claimedFor granted issuer id = some handle) :
    (ledger.complete issuer handle id digest none).Agree granted where
  charged other otherId kept present := by
    simp only [Ledger.complete, Ledger.withdraw, Ledger.uncharge] at present
    split at present
    · rename_i own
      obtain ⟨rfl, rfl⟩ := own
      simp [found, Option.filter_some, released] at present
    · rename_i different
      obtain ⟨owner, owned, charges⟩ := agree.charged other otherId kept present
      refine ⟨owner, owned, fun third => ?_⟩
      rw [← charges third]
      refine (chargedWith_uncharge issuer handle id third other otherId).trans (if_neg ?_)
      exact fun equal => different equal.2
  entered owner charge member := by
    have uncharged : charge ∈
        (ledger.uncharge handle issuer id).chargedWith owner charge.issuer charge.id :=
      mem_chargedWith member
    rw [chargedWith_uncharge] at uncharged
    split at uncharged
    · cases uncharged
    · rename_i other
      have kept : charge ∈ ledger.charges owner := (List.mem_filter.mp uncharged).1
      obtain ⟨found', present⟩ := agree.entered owner charge kept
      have different : ¬(charge.issuer = issuer ∧ charge.id = id) := by
        intro equal
        obtain ⟨claimant, claims, charges⟩ := agree.charged _ _ found' present
        rw [equal.1, equal.2, claimed] at claims
        cases claims
        rw [charges] at uncharged
        split at uncharged
        · rename_i own
          exact other ⟨own, equal⟩
        · cases uncharged
      refine ⟨found', ?_⟩
      simp only [Ledger.complete, Ledger.withdraw, Ledger.uncharge]
      rw [if_neg different]
      exact present

/-- A document which is kept, and is not charged to the handle. -/
theorem takeBack_other (agree : ledger.Agree granted)
    (kept : ∀ entry, ledger.entries issuer id = some entry →
      entry.releasedBy ledger.keepsAnswered digest = false)
    (elsewhere : ledger.chargedWith handle issuer id = []) :
    (ledger.complete issuer handle id digest none).Agree granted := by
  have uncharged : ledger.uncharge handle issuer id = ledger := by
    apply Ledger.ext
    · rfl
    · funext other
      simp only [Ledger.uncharge]
      split
      · rename_i same
        subst same
        refine List.filter_eq_self.mpr fun charge member => ?_
        have unmatched := List.filter_eq_nil_iff.mp elsewhere charge member
        simpa [-not_and, not_and_or] using unmatched
      · rfl
    · rfl
  rw [Ledger.complete, uncharged, withdraw_of_kept kept]
  exact agree

/-- A completion without a response keeps the agreement exactly when the entry it finds is
claimed for its handle if the completion takes it back, and only then. -/
theorem complete_none_iff (agree : ledger.Agree granted) :
    (ledger.complete issuer handle id digest none).Agree granted ↔
      ∀ entry ∈ ledger.entries issuer id,
        entry.releasedBy ledger.keepsAnswered digest = true ↔
          claimedFor granted issuer id = some handle := by
  cases found : ledger.entries issuer id with
  | none =>
      refine ⟨fun _ entry member => (Option.not_mem_none entry member).elim, fun _ => ?_⟩
      exact agree.takeBack_other (fun entry kept => by cases found.symm.trans kept)
        (agree.uncharged found handle)
  | some entry =>
      obtain ⟨owner, claimed, charges⟩ := agree.charged issuer id entry found
      have left : (ledger.complete issuer handle id digest none).entries issuer id =
          if entry.releasedBy ledger.keepsAnswered digest = true then none else some entry := by
        cases released : entry.releasedBy ledger.keepsAnswered digest <;>
          simp [Ledger.complete, Ledger.withdraw, Ledger.uncharge, found, Option.filter_some,
            released]
      have leftCharges : ∀ other,
          (ledger.complete issuer handle id digest none).chargedWith other issuer id =
            if other = handle then [] else ledger.chargedWith other issuer id := fun other => by
        refine (chargedWith_uncharge issuer handle id other issuer id).trans ?_
        simp
      have own : claimedFor granted issuer id = some handle ↔ owner = handle := by
        rw [claimed, Option.some_inj]
      simp only [Option.mem_some_iff, forall_eq', own]
      constructor
      · intro after
        by_cases released : entry.releasedBy ledger.keepsAnswered digest = true
        · refine iff_of_true released ?_
          by_contra elsewhere
          rw [if_pos released] at left
          have still := leftCharges owner
          rw [if_neg elsewhere, charges, if_pos rfl, after.uncharged left] at still
          cases still
        · refine iff_of_false released ?_
          rintro rfl
          rw [if_neg released] at left
          obtain ⟨claimant, claims, remaining⟩ := after.charged issuer id entry left
          rw [claimed] at claims
          cases claims
          have gone := (remaining owner).symm.trans (leftCharges owner)
          simp at gone
      · intro matched
        by_cases released : entry.releasedBy ledger.keepsAnswered digest = true
        · exact agree.takeBack found released (own.mpr (matched.mp released))
        · refine agree.takeBack_other (fun kept present => ?_) ?_
          · cases found.symm.trans present
            exact Bool.eq_false_iff.mpr released
          · rw [charges, if_neg fun equal => released (matched.mpr equal.symm)]

end Agree

theorem expire_complete [DecidableEq Digest] (now : DateTime) (issuer : Issuer) (handle : Handle)
    (id : Id) (digest : Digest) (response : Option Response) :
    (ledger.complete issuer handle id digest response).expire now =
      (ledger.expire now).complete issuer handle id digest response := by
  cases response with
  | some response =>
      apply Ledger.ext
      · funext other otherId
        simp only [Ledger.complete, Ledger.recordResponse, Ledger.expire]
        split
        · cases ledger.entries other otherId with
          | none => rfl
          | some entry =>
              cases live : entry.live now <;>
                simp [Option.filter_some, Retained.live] at live ⊢
        · rfl
      · rfl
      · rfl
  | none =>
      apply Ledger.ext
      · funext other otherId
        simp only [Ledger.complete, Ledger.withdraw, Ledger.uncharge, Ledger.expire]
        split
        · simp only [Option.filter_filter, Bool.and_comm]
        · rfl
      · funext other
        simp only [Ledger.complete, Ledger.withdraw, Ledger.uncharge, Ledger.expire]
        split
        · simp only [List.filter_filter, Bool.and_comm]
        · rfl
      · rfl

end Ledger

end Agreement

/-! ## Budgets, one call at a time -/

namespace ReplayRecord

variable [DecidableEq Issuer] [DecidableEq Handle] [ReplayGuard Guard Id Digest Response]

/-- Every count is within its bound. -/
structure WithinBounds (bounds : Bounds) (record : ReplayRecord Guard Issuer Handle Id) : Prop where
  issuers : ∀ issuer arc, record.issuers.lookup issuer = some arc →
    len (record.guards arc) ≤ bounds.perIssuer
  handles : ∀ handle, (record.charges handle).length ≤ bounds.perHandle
  total : record.totalHeld ≤ 2 * bounds.total

variable {bounds : Bounds} {record : ReplayRecord Guard Issuer Handle Id}

theorem RoomFor.withinBounds
    (room : record.RoomFor bounds ([] : List (Thread Issuer Handle Id Digest Response))) :
    record.WithinBounds bounds where
  issuers := room.issuers
  handles := room.handles
  total := by
    have hard : bounds.hardBound ≤ bounds.total * 2 := min_le_left _ _
    have total : record.totalHeld + 0 ≤ bounds.hardBound := room.total
    omega

/-- The claim which a partition has admitted has room in every budget. -/
theorem RoomFor.holding
    (room : record.RoomFor bounds ([] : List (Thread Issuer Handle Id Digest Response)))
    {issuer : Issuer} {handle : Handle} {arc : Arc}
    (opened : record.Opened bounds issuer handle arc) (id : Id) (digest : Digest)
    (retainUntil : Option DateTime) (now : DateTime) :
    record.RoomFor bounds [(⟨.claim issuer handle id digest retainUntil now, .holding arc⟩ :
      Thread Issuer Handle Id Digest Response)] where
  issuers other kept_arc kept := by
    have before := room.issuers other kept_arc kept
    simp only [holders, List.countP_nil, List.countP_singleton, Thread.held, decide_eq_true_eq,
      Option.some_inj] at before ⊢
    split
    · rename_i same
      subst same
      exact opened.held_lt
    · exact before
  handles other := by
    have before := room.handles other
    simp only [pending, List.countP_nil, List.countP_singleton, Thread.pendingOn,
      decide_eq_true_eq] at before ⊢
    split
    · rename_i same
      subst same
      exact opened.charges_lt
    · exact before
  total := opened.total_lt

section Lawful

variable [LawfulReplayGuard Guard]

/-- A partition leaves every count where it was or lower. -/
theorem RoomFor.partition (wellFormed : record.WellFormed bounds)
    (room : record.RoomFor bounds ([] : List (Thread Issuer Handle Id Digest Response)))
    (issuer : Issuer) (handle : Handle) (now : DateTime) :
    (record.partition bounds issuer handle now).2.RoomFor bounds
      ([] : List (Thread Issuer Handle Id Digest Response)) where
  issuers other arc kept := by
    rcases record.partition_guard wellFormed kept with ⟨before, shorter⟩ | ⟨rfl, empty⟩
    · exact shorter.trans (room.issuers other arc before)
    · rw [empty]
      exact Nat.zero_le _
  handles other :=
    (partition_charges_le wellFormed issuer handle other now).trans (room.handles other)
  total := (partition_totalHeld_le wellFormed issuer handle now).trans room.total

theorem RoomFor.claim (wellFormed : record.WellFormed bounds)
    (room : record.RoomFor bounds ([] : List (Thread Issuer Handle Id Digest Response)))
    (issuer : Issuer) (handle : Handle) (id : Id) (digest : Digest)
    (retainUntil : Option DateTime) (now : DateTime) :
    (record.claim bounds issuer handle id digest retainUntil now).2.RoomFor bounds
      ([] : List (Thread Issuer Handle Id Digest Response)) := by
  obtain ⟨openedWellFormed, -, answer⟩ := partition_spec wellFormed issuer handle now
  have openedRoom := room.partition wellFormed issuer handle now
  rw [ReplayRecord.claim]
  generalize record.partition bounds issuer handle now = opened at *
  obtain ⟨result, opened⟩ := opened
  rcases answer with refused | ⟨arc, allowed, open_⟩
  · cases refused
    exact openedRoom
  · cases allowed
    have claimed : (opened.claimGuard arc id digest retainUntil now).2.RoomFor bounds
        [(⟨.claim issuer handle id digest retainUntil now, .claimed⟩ :
          Thread Issuer Handle Id Digest Response)] :=
      (openedRoom.holding open_ id digest retainUntil now).claimGuard openedWellFormed open_.found
        (fun other => by simp [holders, Thread.held])
        (fun other => by simp [pending, Thread.pendingOn]) (by simp [inFlight, Thread.held])
    simp only
    generalize opened.claimGuard arc id digest retainUntil now = answered at *
    obtain ⟨verdict, later⟩ := answered
    cases verdict with
    | fresh =>
        refine ⟨claimed.issuers, fun other => ?_, claimed.total⟩
        have before := claimed.handles other
        simp only [charges_charge, pending, List.countP_singleton, Thread.pendingOn,
          decide_eq_true_eq, List.countP_nil] at before ⊢
        split
        · rename_i same
          subst same
          rw [if_pos rfl] at before
          simpa using before
        · rename_i different
          rw [if_neg (Ne.symm different)] at before
          exact before
    | duplicate priorResponse =>
        exact claimed.mono (fun _ => Nat.zero_le _) (fun _ => Nat.zero_le _) (Nat.zero_le _)
    | conflict =>
        exact claimed.mono (fun _ => Nat.zero_le _) (fun _ => Nat.zero_le _) (Nat.zero_le _)
    | unavailable =>
        exact claimed.mono (fun _ => Nat.zero_le _) (fun _ => Nat.zero_le _) (Nat.zero_le _)

variable [DecidableEq Id]

theorem RoomFor.complete
    (room : record.RoomFor bounds ([] : List (Thread Issuer Handle Id Digest Response)))
    (issuer : Issuer) (handle : Handle) (id : Id) (digest : Digest) (response : Option Response) :
    (record.complete issuer handle id digest response).RoomFor bounds
      ([] : List (Thread Issuer Handle Id Digest Response)) := by
  have uncharged : (record.uncharge handle issuer id).RoomFor bounds
      ([] : List (Thread Issuer Handle Id Digest Response)) := by
    refine ⟨room.issuers, fun other => ?_, room.total⟩
    rw [charges_uncharge]
    split
    · exact (List.length_filter_le _ _).trans (room.handles other)
    · exact room.handles other
  rw [ReplayRecord.complete]
  cases response with
  | none =>
      simp only [Option.isNone_none, if_true]
      split
      · exact uncharged
      · exact uncharged.setGuard_le (len_release_le _ id digest)
  | some response =>
      simp only [Option.isNone_some, Bool.false_eq_true, if_false]
      split
      · exact room
      · exact room.setGuard_le (len_recordResponse _ id response).le

end Lawful

end ReplayRecord

/-! ## Sessions -/

variable [DecidableEq Issuer] [DecidableEq Handle] [DecidableEq Id] [DecidableEq Digest]
  [ReplayGuard Guard Id Digest Response]

/-- The record, with the claims answered fresh and the completions made so far, the latest first,
and the instant of the last claim. -/
structure Session (Guard Issuer Handle Id Digest : Type) where
  record : ReplayRecord Guard Issuer Handle Id
  granted : List (Grant Issuer Handle Id Digest)
  completed : List (Grant Issuer Handle Id Digest)
  clock : DateTime

namespace Session

/-- An empty record at this instant. -/
def opened (clock : DateTime) : Session Guard Issuer Handle Id Digest where
  record := ReplayRecord.new
  granted := []
  completed := []
  clock := clock

/-- One call from beginning to end. -/
def perform (bounds : Bounds) (session : Session Guard Issuer Handle Id Digest) :
    Call Issuer Handle Id Digest Response → Session Guard Issuer Handle Id Digest
  | .claim issuer handle id digest retainUntil now =>
      match session.record.claim bounds issuer handle id digest retainUntil now with
      | (.ok .fresh, record) =>
          { session with
            record := record
            granted := ⟨issuer, handle, id, digest⟩ :: session.granted
            clock := now }
      | (_, record) => { session with record := record, clock := now }
  | .complete issuer handle id digest response =>
      { session with
        record := session.record.complete issuer handle id digest response
        completed := ⟨issuer, handle, id, digest⟩ :: session.completed }

/-- A claim comes no earlier than the one before it, and a completion is one more for a claim
answered fresh which has had fewer. -/
def Allowed (session : Session Guard Issuer Handle Id Digest) :
    Call Issuer Handle Id Digest Response → Prop
  | .claim _ _ _ _ _ now => session.clock ≤ now
  | .complete issuer handle id digest _ =>
      session.completed.count ⟨issuer, handle, id, digest⟩ <
        session.granted.count ⟨issuer, handle, id, digest⟩

/-- A completion without a response which finds a live entry takes it back and has the handle it
was claimed for, or neither. -/
def Matched (session : Session Guard Issuer Handle Id Digest) :
    Call Issuer Handle Id Digest Response → Prop
  | .complete issuer handle id digest none =>
      ∀ entry ∈ (session.record.ledger.expire session.clock).entries issuer id,
        entry.releasedBy (keepsAnswered Guard) digest = true ↔
          claimedFor session.granted issuer id = some handle
  | .complete _ _ _ _ (some _) | .claim _ _ _ _ _ _ => True

instance (session : Session Guard Issuer Handle Id Digest) :
    DecidablePred (session.Allowed : Call Issuer Handle Id Digest Response → Prop)
  | .claim _ _ _ _ _ _ => inferInstanceAs (Decidable (_ ≤ _))
  | .complete _ _ _ _ _ => inferInstanceAs (Decidable (_ < _))

instance (session : Session Guard Issuer Handle Id Digest) :
    DecidablePred (session.Matched : Call Issuer Handle Id Digest Response → Prop)
  | .complete _ _ _ _ none => inferInstanceAs (Decidable (∀ _ ∈ _, _))
  | .complete _ _ _ _ (some _) | .claim _ _ _ _ _ _ => isTrue trivial

/-- What is live at the last claim agrees. -/
def Agree (session : Session Guard Issuer Handle Id Digest) : Prop :=
  (session.record.ledger.expire session.clock).Agree session.granted

section Lawful

variable [LawfulReplayGuard Guard] {bounds : Bounds}
  {session : Session Guard Issuer Handle Id Digest}

/-- The agreement is kept by a claim no earlier than the last. -/
theorem agree_claim (wellFormed : session.record.WellFormed bounds) (agree : session.Agree)
    {now : DateTime} (later : session.clock ≤ now) (issuer : Issuer) (handle : Handle) (id : Id)
    (digest : Digest) (retainUntil : Option DateTime) :
    (session.perform bounds (.claim issuer handle id digest retainUntil now)).Agree := by
  have expired : (session.record.ledger.expire now).Agree session.granted := by
    rw [← Ledger.expire_expire later]
    exact Ledger.Agree.expire agree now
  have refined := (ReplayRecord.claim_refines wellFormed issuer handle id digest retainUntil now).2
  rw [perform]
  generalize session.record.claim bounds issuer handle id digest retainUntil now = answered at *
  obtain ⟨answer, record⟩ := answered
  dsimp only at refined ⊢
  split
  · rename_i after fresh
    cases fresh
    obtain ⟨absent, left⟩ := refined.of_fresh
    rw [Agree, left]
    exact (expired.accept absent handle digest retainUntil).expire now
  · rename_i answer' after stale same
    cases same
    rw [Agree, refined.ledger_of_not_fresh stale]
    exact expired.expire now

/-- A completion keeps the agreement exactly when it is matched. -/
theorem agree_complete_iff (wellFormed : session.record.WellFormed bounds)
    (agree : session.Agree) (issuer : Issuer) (handle : Handle) (id : Id) (digest : Digest)
    (response : Option Response) :
    (session.perform bounds (.complete issuer handle id digest response)).Agree ↔
      session.Matched (.complete issuer handle id digest response) := by
  have refined :=
    (ReplayRecord.complete_refines wellFormed issuer handle id digest response).2
  rw [perform, Agree, refined, Ledger.expire_complete]
  cases response with
  | none => exact Ledger.Agree.complete_none_iff agree
  | some response =>
      exact iff_of_true (Ledger.Agree.recordResponse agree issuer id response) trivial

/-- Every call leaves a well-formed record within its budgets. -/
theorem roomFor_perform (wellFormed : session.record.WellFormed bounds)
    (room : session.record.RoomFor bounds ([] : List (Thread Issuer Handle Id Digest Response)))
    (call : Call Issuer Handle Id Digest Response) :
    (session.perform bounds call).record.WellFormed bounds ∧
      (session.perform bounds call).record.RoomFor bounds
        ([] : List (Thread Issuer Handle Id Digest Response)) := by
  cases call with
  | claim issuer handle id digest retainUntil now =>
      have claimedWellFormed :=
        (ReplayRecord.claim_refines wellFormed issuer handle id digest retainUntil now).1
      have claimedRoom := room.claim wellFormed issuer handle id digest retainUntil now
      rw [perform]
      generalize session.record.claim bounds issuer handle id digest retainUntil now = answered at *
      obtain ⟨answer, record⟩ := answered
      split
      · rename_i fresh
        cases fresh
        exact ⟨claimedWellFormed, claimedRoom⟩
      · rename_i same
        cases same
        exact ⟨claimedWellFormed, claimedRoom⟩
  | complete issuer handle id digest response =>
      exact ⟨(ReplayRecord.complete_refines wellFormed issuer handle id digest response).1,
        room.complete issuer handle id digest response⟩

/-- In every session the counts stay within their bounds.  Entries and charges agree in every
state reached exactly when every completion is matched. -/
theorem ledgers_agree (bounds : Bounds) (clock : DateTime)
    (calls : List (Call Issuer Handle Id Digest Response))
    (allowed : Along (perform bounds) Allowed
      (opened clock : Session Guard Issuer Handle Id Digest) calls) :
    (∀ front, front <+: calls →
        (run (perform bounds) (opened clock : Session Guard Issuer Handle Id Digest)
          front).record.WithinBounds bounds) ∧
      ((∀ front, front <+: calls →
          (run (perform bounds) (opened clock : Session Guard Issuer Handle Id Digest)
            front).Agree) ↔
        Along (perform bounds) Matched
          (opened clock : Session Guard Issuer Handle Id Digest) calls) := by
  have initially : (opened clock : Session Guard Issuer Handle Id Digest).record.WellFormed bounds ∧
      (opened clock : Session Guard Issuer Handle Id Digest).record.RoomFor bounds
        ([] : List (Thread Issuer Handle Id Digest Response)) :=
    ⟨ReplayRecord.new_wellFormed bounds, nofun, fun _ => Nat.zero_le _, Nat.zero_le _⟩
  have preserved : ∀ (session : Session Guard Issuer Handle Id Digest)
      (call : Call Issuer Handle Id Digest Response),
      session.record.WellFormed bounds ∧
          session.record.RoomFor bounds ([] : List (Thread Issuer Handle Id Digest Response)) →
        (session.perform bounds call).record.WellFormed bounds ∧
          (session.perform bounds call).record.RoomFor bounds
            ([] : List (Thread Issuer Handle Id Digest Response)) :=
    fun _ call both => roomFor_perform both.1 both.2 call
  refine ⟨fun front _ => ?_, ?_⟩
  · exact (invariant_of_always preserved initially front).2.withinBounds
  · have agrees : (opened clock : Session Guard Issuer Handle Id Digest).Agree :=
      Ledger.Agree.empty _ (fun _ _ => rfl) fun _ => rfl
    refine throughout_iff_along (fun session call agree met => ?_) agrees
      (along_with_invariant (fun session call both _ => preserved session call both) initially
        allowed)
    obtain ⟨⟨wellFormed, -⟩, permitted⟩ := met
    cases call with
    | claim issuer handle id digest retainUntil now =>
        exact iff_of_true
          (agree_claim wellFormed agree permitted issuer handle id digest retainUntil) trivial
    | complete issuer handle id digest response =>
        exact agree_complete_iff wellFormed agree issuer handle id digest response

end Lawful

/-! ## The late completion -/

private abbrev SmallSession := Session (ReferenceGuard Nat Nat Nat) Nat Nat Nat Nat

/-- A document expires while it is in flight, and its identifier is claimed again. -/
private def outlived (digest : Nat) : List (Call Nat Nat Nat Nat Nat) :=
  [.claim 0 0 0 1 (some 1) 0, .claim 0 0 0 digest (some 9) 2, .complete 0 0 0 1 none]

/-- The second claim is for the same document, so that all of it is taken back. -/
theorem ledgers_agree_after_retry :
    (run (perform Bounds.default) (opened 0 : SmallSession) (outlived 1)).Agree :=
  (ledgers_agree Bounds.default 0 (outlived 1) (by decide)).2.mpr (by decide) (outlived 1)
    List.prefix_rfl

/-- The second claim is for another document, which keeps its entry and loses its charge. -/
theorem late_completion_uncharges :
    ¬∀ (bounds : Bounds) (clock : DateTime) (calls : List (Call Nat Nat Nat Nat Nat))
      (issuer handle id digest : Nat) (retainUntil : Option DateTime) (now : DateTime),
      let all := calls ++ [.claim issuer handle id digest retainUntil now]
      Along (perform bounds) Allowed (opened clock : SmallSession) all →
        (run (perform bounds) (opened clock : SmallSession) all).Agree := by
  intro agree
  have agreed := agree Bounds.default 0 (outlived 2) 0 0 7 7 (some 9) 3 (by decide)
  obtain ⟨handle, claimed, charged⟩ := agreed.charged 0 0 ⟨2, none, some 9⟩ (by decide)
  have uncharged := charged 0
  rw [show handle = 0 from (Option.some.inj claimed).symm] at uncharged
  exact absurd uncharged (by decide)

end Session

end PushGateway
