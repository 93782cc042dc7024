import PushGateway.Document
import PushGateway.Replay.Concurrent

/-!
# The acceptance window and the retention it asks for

`checkWindow` bounds a document's time of issue and works out how long its record must be kept.
The two meet in one law: a document is accepted only before its retention ends, by at least the
margin.  Hence no document is ever both fresh and forgotten while clock readings fall back by
less than the margin.
-/

namespace PushGateway

open ReplayGuard

/-- `acceptance_window()`. -/
def acceptanceWindow : FreshnessPolicy := FreshnessPolicy.consequential

/-- `RETENTION_MARGIN`. -/
def retentionMargin : TimeDelta := TimeDelta.seconds 1

/-- The last instant at which the window accepts a document, by its time of issue. -/
def acceptUntil (doc : TrustTask) : Option DateTime :=
  match doc.issuedAt, acceptanceWindow.maxAge with
  | some issued, some age => some (issued + age + acceptanceWindow.skew)
  | _, _ => none

/-- How long a document's replay record must be kept. -/
def retainUntil (doc : TrustTask) : Option DateTime :=
  (match acceptUntil doc, doc.expiresAt with
  | some accepted, some expires => some (min accepted expires)
  | accepted, expires => accepted.or expires).map fun instant => instant + retentionMargin

variable {DocumentDigest : Type}

/-- Check an authenticated document's time bounds and identifier. -/
def checkWindow (crates : Crates DocumentDigest) (doc : TrustTask) (gatewayDid : String)
    (now : DateTime) : Except RejectReason (DocumentDigest × Option DateTime) := do
  crates.validateFreshness doc now acceptanceWindow
  crates.validateBasic doc now gatewayDid
  if doc.id = "" then
    throw (.malformedRequest "document carries no identifier")
  match crates.documentDigest doc with
  | none => throw (.malformedRequest "document cannot be canonicalised")
  | some digest => return (digest, retainUntil doc)

variable {crates : Crates DocumentDigest} {doc : TrustTask} {gatewayDid : String} {now : DateTime}
  {digest : DocumentDigest} {retain : Option DateTime}

/-- What a document which passes the window has been found to satisfy. -/
theorem checkWindow_ok (passed : checkWindow crates doc gatewayDid now = .ok (digest, retain)) :
    crates.validateFreshness doc now acceptanceWindow = .ok () ∧
      crates.validateBasic doc now gatewayDid = .ok () ∧ doc.id ≠ "" ∧
      crates.documentDigest doc = some digest ∧ retain = retainUntil doc := by
  simp only [checkWindow, bind, Except.bind, pure, Except.pure, throw, throwThe,
    MonadExceptOf.throw] at passed
  cases fresh : crates.validateFreshness doc now acceptanceWindow with
  | error reason => simp [fresh] at passed
  | ok _ =>
      cases basic : crates.validateBasic doc now gatewayDid with
      | error reason => simp [fresh, basic] at passed
      | ok _ =>
          by_cases blank : doc.id = ""
          · simp [fresh, basic, blank] at passed
          · cases digested : crates.documentDigest doc with
            | none => simp [fresh, basic, blank, digested] at passed
            | some found =>
                simp only [fresh, basic, blank, digested, if_false, Except.ok.injEq,
                  Prod.mk.injEq] at passed
                exact ⟨rfl, rfl, blank, congrArg some passed.1, passed.2.symm⟩

/-- A document inside its window: what the two validations promise. -/
structure InsideWindow (crates : Crates DocumentDigest) (doc : TrustTask) (gatewayDid : String)
    (now : DateTime) : Prop where
  issued : ∃ issued, doc.issuedAt = some issued ∧ issued ≤ now + acceptanceWindow.skew ∧
    ∀ age, acceptanceWindow.maxAge = some age → now ≤ issued + age + acceptanceWindow.skew
  unexpired : ∀ expires, doc.expiresAt = some expires → now < expires
  recipient : crates.recipientAgrees doc gatewayDid
  identified : doc.id ≠ ""

theorem checkWindow_inside (validates : crates.Validates)
    (passed : checkWindow crates doc gatewayDid now = .ok (digest, retain)) :
    InsideWindow crates doc gatewayDid now := by
  obtain ⟨fresh, basic, identified, _, _⟩ := checkWindow_ok passed
  obtain ⟨unexpired, recipient⟩ := validates.basic doc now gatewayDid basic
  exact ⟨validates.freshness doc now acceptanceWindow fresh rfl, unexpired, recipient, identified⟩

/-- Acceptance ends before retention does, by the margin. -/
theorem accepted_before_retention (validates : crates.Validates)
    (passed : checkWindow crates doc gatewayDid now = .ok (digest, retain)) :
    ∃ until_, retain = some until_ ∧ now + retentionMargin ≤ until_ := by
  obtain ⟨⟨issued, found, _, recent⟩, unexpired, _, _⟩ := checkWindow_inside validates passed
  obtain ⟨_, _, _, _, rfl⟩ := checkWindow_ok passed
  have aged := recent (TimeDelta.seconds 300) rfl
  have accepted : acceptUntil doc =
      some (issued + TimeDelta.seconds 300 + acceptanceWindow.skew) := by
    simp [acceptUntil, found, acceptanceWindow, FreshnessPolicy.consequential]
  rw [retainUntil, accepted]
  cases expires : doc.expiresAt with
  | none =>
      refine ⟨_, rfl, ?_⟩
      exact Int.add_le_add_right aged retentionMargin
  | some instant =>
      refine ⟨_, rfl, ?_⟩
      exact Int.add_le_add_right (le_min aged (unexpired instant expires).le) retentionMargin

end PushGateway
