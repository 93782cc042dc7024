import PushGateway.Api
import PushGateway.Intake.Window

/-!
# Intake

Every transport hands its documents to `receiveDocument`: the document is authenticated by its
proof, its window is checked, and the dispatch core is run with a once-only admission step.
-/

namespace PushGateway

variable {Guard DocumentDigest : Type} [ReplayGuard Guard String DocumentDigest Answer]
  (crates : Crates DocumentDigest) (outside : Surroundings)

/-- `from.split('#').next()`. -/
def fromDid (sender : String) : String :=
  String.ofList (sender.toList.takeWhile fun char => char ≠ '#')

/-- Who proved the document, if anyone: the issuer its proof establishes, once the recipient and
the transport's own claim about its sender agree with it. -/
def authenticate (state : AppState Guard) (transportSender : Option String) (body : Value) :
    Except RejectReason (Option String) :=
  let recipient := body.getStr "recipient"
  match recipient.filter fun recipient =>
      !(state.gatewayDid.any fun did => crates.sameReference recipient did) with
  | some recipient =>
      .error (.wrongRecipient recipient (state.gatewayDid.getD state.gatewayAddr))
  | none =>
      match outside.verifyIssuer body with
      | .error .missing => .ok none
      | .error (.invalid reason) => .error (.proofInvalid reason)
      | .ok issuer =>
          if state.gatewayDid.isNone then
            .error (.taskFailed "this gateway has no DID, so it accepts no authenticated document")
          else if recipient.isNone then
            .error (.malformedRequest
              "a document authenticated by its proof must name its recipient")
          else
            match transportSender.filter fun sender =>
                !crates.sameReference (fromDid sender) issuer with
            | some sender => .error (.identityMismatch issuer (fromDid sender))
            | none => .ok (some issuer)

/-- Receive one document: the answer built for it, and the state it leaves. -/
def receiveDocument (state : AppState Guard) (transportSender : Option String) (body : Value)
    (doc : TrustTask) : Answer × AppState Guard :=
  match authenticate crates outside state transportSender body with
  | .error reason => (rejectValue outside doc reason, state)
  | .ok sender =>
      match sender, state.gatewayDid with
      | some _, some gatewayDid =>
          match checkWindow crates doc gatewayDid outside.now with
          | .error reason => (rejectValue outside doc reason, state)
          | .ok (digest, retain) =>
              dispatchPushOnce crates outside (some ⟨doc.id, digest, retain, outside.now⟩) state
                sender doc
      | _, _ => dispatchPushOnce crates outside none state none doc

end PushGateway
