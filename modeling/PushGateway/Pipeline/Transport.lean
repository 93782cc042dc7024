import PushGateway.Pipeline.Outcome

/-!
# The transport adds no authority

Two deliveries of one document in the same surroundings, one without and one with the
transport's own claim about its sender.  The claim enters `authenticate` alone, after every other
check of it, and there it can only refuse.
-/

namespace PushGateway

variable {Guard DocumentDigest : Type}

/-- A transport sender changes what `authenticate` says only by not being the proven issuer. -/
theorem authenticate_transport (crates : Crates DocumentDigest) (outside : Surroundings)
    (state : AppState Guard) (sender : String) (body : Value) :
    authenticate crates outside state (some sender) body =
        authenticate crates outside state none body ∨
      ∃ issuer, authenticate crates outside state none body = .ok (some issuer) ∧
        crates.sameReference (fromDid sender) issuer = false ∧
        authenticate crates outside state (some sender) body =
          .error (.identityMismatch issuer (fromDid sender)) := by
  simp only [authenticate]
  split
  · exact .inl rfl
  · split
    · exact .inl rfl
    · exact .inl rfl
    · rename_i issuer _
      split
      · exact .inl rfl
      · split
        · exact .inl rfl
        · cases carried : crates.sameReference (fromDid sender) issuer with
          | true => simp [Option.filter_some, carried]
          | false => exact .inr ⟨issuer, rfl, carried, by simp [Option.filter_some, carried]⟩

variable [ReplayGuard Guard String DocumentDigest Answer]

/-- With a transport sender a delivery comes to the same as without one, or is refused for an
issuer whom the document proves and the sender is not; it leaves no trace then.  A document
without a proof comes to the same whoever sends it. -/
theorem receiveDocument_transport (crates : Crates DocumentDigest) (outside : Surroundings)
    (state : AppState Guard) (sender : String) (body : Value) (doc : TrustTask) :
    (receiveDocument crates outside state (some sender) body doc =
        receiveDocument crates outside state none body doc ∨
      ∃ issuer, Authenticated crates outside state none body issuer ∧
        crates.sameReference (fromDid sender) issuer = false ∧
        receiveDocument crates outside state (some sender) body doc =
          (rejectValue outside doc (.identityMismatch issuer (fromDid sender)), state)) ∧
      (outside.verifyIssuer body = .error .missing →
        receiveDocument crates outside state (some sender) body doc =
          receiveDocument crates outside state none body doc) := by
  rcases authenticate_transport crates outside state sender body with
    same | ⟨issuer, proven, other, refused⟩
  · have equal : receiveDocument crates outside state (some sender) body doc =
        receiveDocument crates outside state none body doc := by
      rw [receiveDocument, receiveDocument, same]
    exact ⟨.inl equal, fun _ => equal⟩
  · have authenticated := authenticate_proven proven
    refine ⟨.inr ⟨issuer, authenticated, other, ?_⟩, fun missing => ?_⟩
    · rw [receiveDocument, refused]
    · rw [authenticated.proven] at missing
      cases missing

end PushGateway
