import Mathlib.Data.Int.Order.Basic

/-!
# Instants and refusals

The gateway's clock and the reasons for which it refuses a document.
-/

namespace PushGateway

/-- An instant on the gateway's clock, in nanoseconds since the epoch. -/
abbrev DateTime := Int

/-- A signed span of time, in nanoseconds. -/
abbrev TimeDelta := Int

/-- A whole number of seconds. -/
def TimeDelta.seconds (count : Int) : TimeDelta := count * 1000000000

/-- Why a document is refused; the reason is carried by the `trust-task-error` answer. -/
inductive RejectReason where
  | wrongRecipient (inBand expected : String)
  | proofRequired
  | proofInvalid (reason : String)
  /-- `RejectReason::IdentityMismatch(ConsistencyError::IssuerMismatch { in_band, transport })`. -/
  | identityMismatch (inBand transport : String)
  | malformedRequest (reason : String)
  | unsupportedType (typeUri : String)
  | permissionDenied (reason : String)
  | taskFailed (reason : String)
  | idConflict
  | expired
  deriving DecidableEq, Repr

end PushGateway
