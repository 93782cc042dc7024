import Mathlib.Data.List.Induction
import PushGateway.Store.Index

/-!
# What the history of a store says of a handle

Each call rewrites the record of a handle in a way which can be read off the call and the record
alone.  A live handle therefore has the registration and the controller of its insert, and the list
of the last provision its controller has made since.
-/

namespace PushGateway

open Execution

variable {DocumentDigest : Type} (crates : Crates DocumentDigest)

/-! ## What a call does to one record -/

/-- What a call makes of the record of a handle, given whether it is an insert which was stored. -/
def StoreCall.rewrite (call : StoreCall) (stored : Bool) (handle : String)
    (record : Option HandleRecord) : Option HandleRecord :=
  match call with
  | .insertAt other registration controllerVtaDid createdAt =>
      if stored = true ∧ handle = other then
        some ⟨registration, crates.stripScidSrc controllerVtaDid, [], createdAt⟩
      else record
  | .provision other callerDid policy =>
      if handle = other then
        record.map fun record =>
          if crates.sameReference record.controllerVtaDid callerDid then
            { record with allowedTriggers := policy.allowedTriggers }
          else record
      else record
  | .remove other => if handle = other then none else record
  | .sweepUnprovisioned ttlSecs now =>
      record.filter fun record =>
        !(record.allowedTriggers.isEmpty && decide (ttlSecs ≤ now - record.createdAt))

/-- Whether a call is an insert and was stored. -/
def Store.stored (store : Store) (call : StoreCall) : Bool :=
  decide ((store.perform crates call).1 = .inserted (.ok ()))

namespace Store

/-- A call rewrites the record of each handle. -/
theorem lookup_perform (store : Store) (call : StoreCall) (handle : String) :
    (store.perform crates call).2.state.handles.lookup handle =
      call.rewrite crates (store.stored crates call) handle
        (store.state.handles.lookup handle) := by
  cases call with
  | insertAt other registration controllerVtaDid createdAt =>
      obtain ⟨error, refused⟩ | stored :=
        insertAt_cases crates store other registration controllerVtaDid createdAt
      · simp [perform, StoreCall.rewrite, Store.stored, refused]
      · simp [perform, StoreCall.rewrite, Store.stored, stored, State.add,
          AssocMap.lookup_insert]
  | provision other callerDid policy =>
      simp only [perform, StoreCall.rewrite]
      split
      · rename_i same
        subst same
        rw [provision]
        cases found : store.state.handles.lookup handle with
        | none => simpa using found
        | some record =>
            cases controls : crates.sameReference record.controllerVtaDid callerDid with
            | false => simpa [controls] using found
            | true => simp [controls, AssocMap.lookup_modify, found]
      · rename_i different
        obtain ⟨_, _, same⟩ | ⟨record, _, _, changed⟩ :=
          provision_cases crates store other callerDid policy
        · rw [same]
        · rw [changed]
          simp [AssocMap.lookup_modify, different]
  | remove other =>
      simp only [perform, remove, StoreCall.rewrite]
      rw [State.dropHandle_handles, AssocMap.lookup_erase]
  | sweepUnprovisioned ttlSecs now =>
      simp only [perform, StoreCall.rewrite]
      rw [sweepUnprovisioned_handles, AssocMap.lookup_retain]

/-- A call neither removes nor sweeps the handle. -/
def Spares (handle : String) (store : Store) : StoreCall → Prop
  | .remove other => handle ≠ other
  | .sweepUnprovisioned ttlSecs now =>
      ((store.perform crates (.sweepUnprovisioned ttlSecs now)).2.state.handles.lookup
        handle).isSome = true
  | .insertAt _ _ _ _ | .provision _ _ _ => True

instance (handle : String) (store : Store) : DecidablePred (Spares crates handle store)
  | .remove _ => inferInstanceAs (Decidable (_ ≠ _))
  | .sweepUnprovisioned _ _ => inferInstanceAs (Decidable (_ = _))
  | .insertAt _ _ _ _ | .provision _ _ _ => isTrue trivial

/-- A sweep spares a handle whose list is not empty, or which is younger than the limit. -/
theorem spares_sweep_iff {store : Store} {handle : String} {record : HandleRecord}
    (found : store.state.handles.lookup handle = some record) (ttlSecs now : Nat) :
    store.Spares crates handle (.sweepUnprovisioned ttlSecs now) ↔
      record.allowedTriggers ≠ [] ∨ now - record.createdAt < ttlSecs := by
  rw [Spares, lookup_perform, found]
  simp only [StoreCall.rewrite, Option.isSome_filter, Option.any_some, Bool.not_eq_true',
    Bool.and_eq_false_iff, List.isEmpty_eq_false_iff, decide_eq_false_iff_not, Nat.not_le]

/-- A provision which succeeds leaves the handle live, with its list. -/
theorem lookup_provisioned {store : Store} {handle callerDid : String} {policy : WakeTriggerPolicy}
    (succeeded : (store.perform crates (.provision handle callerDid policy)).1 =
      .provisioned .ok) :
    ∃ record,
      (next (perform crates) store (.provision handle callerDid policy)).state.handles.lookup
          handle = some record ∧
        record.allowedTriggers = policy.allowedTriggers := by
  obtain ⟨outcome, failed, refused⟩ | ⟨record, found, controls, changed⟩ :=
    provision_cases crates store handle callerDid policy
  · simp only [perform, refused, StoreAnswer.provisioned.injEq] at succeeded
    exact absurd succeeded failed
  · exact ⟨{ record with allowedTriggers := policy.allowedTriggers },
      by simp [next, perform, changed, AssocMap.lookup_modify, found], rfl⟩

/-! ## What a handle owes to its controller -/

/-- The list of a provision of the handle by someone whom the controller's DID refers to. -/
def provisionBy (handle controller : String) : StoreCall → Option (List String)
  | .provision other callerDid policy =>
      if handle = other ∧ crates.sameReference controller callerDid = true then
        some policy.allowedTriggers
      else none
  | .insertAt _ _ _ _ | .remove _ | .sweepUnprovisioned _ _ => none

/-- The list of the latest such provision. -/
def latestProvision (handle controller : String) (since : List StoreCall) : Option (List String) :=
  since.reverse.findSome? (provisionBy crates handle controller)

/-- The handle was inserted with this registration, controller and time, and has been neither
removed nor swept in the calls since. -/
structure Issued (store : Store) (calls : List StoreCall) (handle : String)
    (registration : PushRegistration) (controller : String) (createdAt : Nat)
    (since : List StoreCall) : Prop where
  split : ∃ before, calls = before ++ .insertAt handle registration controller createdAt :: since ∧
    let start := run (next (perform crates)) store before
    (start.perform crates (.insertAt handle registration controller createdAt)).1 =
        .inserted (.ok ()) ∧
      Along (next (perform crates)) (Spares crates handle)
        (next (perform crates) start (.insertAt handle registration controller createdAt)) since

/-- The record which an issued handle has. -/
def issuedRecord (handle : String) (registration : PushRegistration) (controller : String)
    (createdAt : Nat) (since : List StoreCall) : HandleRecord where
  registration := registration
  controllerVtaDid := crates.stripScidSrc controller
  allowedTriggers := (latestProvision crates handle controller since).getD []
  createdAt := createdAt

theorem latestProvision_concat (handle controller : String) (since : List StoreCall)
    (call : StoreCall) :
    latestProvision crates handle controller (since ++ [call]) =
      (provisionBy crates handle controller call).or
        (latestProvision crates handle controller since) :=
  findSome?_reverse_concat _ since call

/-- An issued handle after one more call: it has just been issued, or the call has spared it. -/
theorem issued_concat_iff {store : Store} {calls since : List StoreCall} {last : StoreCall}
    {handle controller : String} {registration : PushRegistration} {createdAt : Nat} :
    Issued crates store (calls ++ [last]) handle registration controller createdAt since ↔
      (last = .insertAt handle registration controller createdAt ∧ since = [] ∧
        (run (next (perform crates)) store calls).stored crates last = true) ∨
      ∃ since', since = since' ++ [last] ∧
        Issued crates store calls handle registration controller createdAt since' ∧
        (run (next (perform crates)) store calls).Spares crates handle last := by
  constructor
  · rintro ⟨before, same, stored, spares⟩
    obtain rfl | ⟨since', other, rfl⟩ := List.eq_nil_or_concat since
    · obtain ⟨rfl, ends⟩ := List.append_inj' same rfl
      cases ends
      exact .inl ⟨rfl, rfl, decide_eq_true stored⟩
    · rw [List.concat_eq_append] at same spares ⊢
      have ends : calls ++ [last] =
          (before ++ .insertAt handle registration controller createdAt :: since') ++ [other] := by
        simpa using same
      obtain ⟨rfl, tail⟩ := List.append_inj' ends rfl
      cases tail
      rw [along_append] at spares
      refine .inr ⟨since', rfl, ⟨before, rfl, stored, spares.1⟩, ?_⟩
      rw [run_append]
      exact spares.2.1
  · rintro (⟨rfl, rfl, stored⟩ | ⟨since', rfl, ⟨before, rfl, stored, spares⟩, spared⟩)
    · exact ⟨calls, rfl, of_decide_eq_true stored, trivial⟩
    · refine ⟨before, by simp, stored, ?_⟩
      rw [run_append] at spared
      exact (along_append _ _ _).mpr ⟨spares, spared, trivial⟩

variable {crates}

/-- A call which spares a live handle changes at most its list, at the word of its controller. -/
theorem rewrite_spared {store : Store} {handle : String} {record : HandleRecord}
    (found : store.state.handles.lookup handle = some record) {call : StoreCall}
    (fresh : call.Fresh store.state.handles) (spares : store.Spares crates handle call) :
    (next (perform crates) store call).state.handles.lookup handle =
      some { record with
        allowedTriggers := (provisionBy crates handle record.controllerVtaDid call).getD
          record.allowedTriggers } := by
  rw [next, lookup_perform, found]
  cases call with
  | insertAt other registration controllerVtaDid createdAt =>
      have different : handle ≠ other := by
        rintro rfl
        rw [show store.state.handles.lookup handle = none from fresh] at found
        cases found
      rw [StoreCall.rewrite, if_neg fun both => different both.2]
      rfl
  | provision other callerDid policy =>
      rw [StoreCall.rewrite]
      by_cases same : handle = other
      · rw [if_pos same, Option.map_some]
        cases controls : crates.sameReference record.controllerVtaDid callerDid with
        | false => simp [provisionBy, controls]
        | true => simp [provisionBy, controls, same]
      · simp [provisionBy, same]
  | remove other =>
      rw [StoreCall.rewrite, if_neg spares]
      rfl
  | sweepUnprovisioned ttlSecs now =>
      obtain ⟨kept, survives⟩ := Option.isSome_iff_exists.mp spares
      rw [lookup_perform, found] at survives
      have filtered := survives
      rw [StoreCall.rewrite] at filtered
      obtain ⟨same, -⟩ := Option.filter_eq_some_iff.mp filtered
      exact survives.trans same.symm

/-- A provision is by a DID's own word or by that of its stripped form. -/
theorem provisionBy_strip (compares : crates.ComparesDids) (handle controller : String)
    (call : StoreCall) :
    provisionBy crates handle (crates.stripScidSrc controller) call =
      provisionBy crates handle controller call := by
  cases call with
  | provision other callerDid policy =>
      have reference : crates.sameReference (crates.stripScidSrc controller) callerDid = true ↔
          crates.sameReference controller callerDid = true := by
        rw [compares.sameReference_iff, compares.sameReference_iff, compares.strip_strip]
      simp only [provisionBy, reference]
  | _ => rfl

/-- A call which spares an issued handle leaves it the record of its longer history. -/
theorem rewrite_issued (compares : crates.ComparesDids) {store : Store} {handle : String}
    {registration : PushRegistration} {controller : String} {createdAt : Nat}
    {since : List StoreCall} {call : StoreCall}
    (found : store.state.handles.lookup handle =
      some (issuedRecord crates handle registration controller createdAt since))
    (fresh : call.Fresh store.state.handles) (spares : store.Spares crates handle call) :
    (next (perform crates) store call).state.handles.lookup handle =
      some (issuedRecord crates handle registration controller createdAt (since ++ [call])) := by
  rw [rewrite_spared found fresh spares]
  simp only [issuedRecord, provisionBy_strip compares, latestProvision_concat, Option.getD_or]

/-- A handle which is not live stays so, unless an insert is stored for it. -/
theorem rewrite_absent {store : Store} {handle : String}
    (absent : store.state.handles.lookup handle = none) {call : StoreCall} {record : HandleRecord}
    (found : (next (perform crates) store call).state.handles.lookup handle = some record) :
    ∃ registration controller createdAt,
      call = .insertAt handle registration controller createdAt ∧
      store.stored crates call = true ∧
      record = issuedRecord crates handle registration controller createdAt [] := by
  rw [next, lookup_perform, absent] at found
  cases call with
  | insertAt other registration controller createdAt =>
      rw [StoreCall.rewrite] at found
      split at found
      · rename_i both
        obtain ⟨stored, rfl⟩ := both
        exact ⟨registration, controller, createdAt, rfl, stored, (Option.some.inj found).symm⟩
      · cases found
  | provision other callerDid policy =>
      rw [StoreCall.rewrite] at found
      split at found <;> cases found
  | remove other =>
      rw [StoreCall.rewrite] at found
      split at found <;> cases found
  | sweepUnprovisioned ttlSecs now => cases found

/-- A handle which a call does not spare is live no longer. -/
theorem spares_of_found {store : Store} {handle : String} {call : StoreCall} {record : HandleRecord}
    (found : (next (perform crates) store call).state.handles.lookup handle = some record) :
    store.Spares crates handle call := by
  cases call with
  | insertAt other registration controller createdAt => trivial
  | provision other callerDid policy => trivial
  | remove other =>
      rintro rfl
      rw [next, lookup_perform] at found
      simp [StoreCall.rewrite] at found
  | sweepUnprovisioned ttlSecs now => exact Option.isSome_iff_exists.mpr ⟨record, found⟩

/-- A live handle has exactly the record of its history. -/
theorem lookup_run_iff (compares : crates.ComparesDids) (limits : StoreLimits)
    {calls : List StoreCall}
    (fresh : Along (next (perform crates)) (fun store call => call.Fresh store.state.handles)
      (withLimits limits) calls) (handle : String) (record : HandleRecord) :
    (run (next (perform crates)) (withLimits limits) calls).state.handles.lookup handle =
        some record ↔
      ∃ registration controller createdAt since,
        Issued crates (withLimits limits) calls handle registration controller createdAt since ∧
        record = issuedRecord crates handle registration controller createdAt since := by
  induction calls using List.reverseRecOn generalizing record with
  | nil =>
      constructor
      · intro found
        cases found
      · rintro ⟨_, _, _, _, ⟨before, impossible, _⟩, _⟩
        simp at impossible
  | append_singleton calls last induction =>
      rw [along_append] at fresh
      have earlier := induction fresh.1
      have fresh_last : last.Fresh
          (run (next (perform crates)) (withLimits limits) calls).state.handles := fresh.2.1
      rw [run_concat]
      constructor
      · intro found
        cases before : (run (next (perform crates)) (withLimits limits) calls).state.handles.lookup
            handle with
        | none =>
            obtain ⟨registration, controller, createdAt, inserts, stored, same⟩ :=
              rewrite_absent before found
            exact ⟨registration, controller, createdAt, [],
              (issued_concat_iff crates).mpr (.inl ⟨inserts, rfl, stored⟩), same⟩
        | some previous =>
            obtain ⟨registration, controller, createdAt, since, issued, rfl⟩ :=
              (earlier previous).mp before
            have spares := spares_of_found found
            refine ⟨registration, controller, createdAt, since ++ [last],
              (issued_concat_iff crates).mpr (.inr ⟨since, rfl, issued, spares⟩), ?_⟩
            exact Option.some.inj
              (found.symm.trans (rewrite_issued compares before fresh_last spares))
      · rintro ⟨registration, controller, createdAt, since, issued, rfl⟩
        obtain ⟨rfl, rfl, stored⟩ | ⟨since, rfl, issued, spares⟩ :=
          (issued_concat_iff crates).mp issued
        · rw [next, lookup_perform, StoreCall.rewrite, if_pos ⟨stored, rfl⟩]
          rfl
        · exact rewrite_issued compares
            ((earlier _).mpr ⟨registration, controller, createdAt, since, issued, rfl⟩) fresh_last
            spares

/-! ## Wake authority -/

/-- A live handle keeps its registration and its controller. -/
theorem lookup_run_of_spares {store : Store} {handle : String} {record : HandleRecord}
    (found : store.state.handles.lookup handle = some record) {calls : List StoreCall}
    (fresh : Along (next (perform crates)) (fun store call => call.Fresh store.state.handles)
      store calls)
    (spares : Along (next (perform crates)) (Spares crates handle) store calls) :
    ∃ record', (run (next (perform crates)) store calls).state.handles.lookup handle =
        some record' ∧
      record'.registration = record.registration ∧
      record'.controllerVtaDid = record.controllerVtaDid := by
  induction calls generalizing store record with
  | nil => exact ⟨record, found, rfl, rfl⟩
  | cons call calls induction =>
      obtain ⟨record', found', same⟩ :=
        induction (rewrite_spared found fresh.1 spares.1) fresh.2 spares.2
      exact ⟨record', found', same⟩

/-- A provision by someone who is not the controller changes nothing. -/
theorem provision_of_other {store : Store} {handle callerDid : String}
    (other : ∀ record, store.state.handles.lookup handle = some record →
      crates.sameReference record.controllerVtaDid callerDid = false)
    (policy : WakeTriggerPolicy) :
    next (perform crates) store (.provision handle callerDid policy) = store := by
  obtain ⟨_, _, same⟩ | ⟨record, found, controls, _⟩ :=
    provision_cases crates store handle callerDid policy
  · simp [next, perform, same]
  · rw [other record found] at controls
    cases controls

/-- Only the latest provision by the controller named at the insert lets a trigger wake a
handle. -/
theorem wake_authority (compares : crates.ComparesDids) (limits : StoreLimits)
    {calls : List StoreCall}
    (fresh : Along (next (perform crates)) (fun store call => call.Fresh store.state.handles)
      (withLimits limits) calls) :
    let store := run (next (perform crates)) (withLimits limits) calls
    (∀ handle trigger registration,
      store.authorizeWake handle trigger = .allowed registration ↔
        ∃ controller createdAt since,
          Issued crates (withLimits limits) calls handle registration controller createdAt since ∧
          ∃ list, latestProvision crates handle controller since = some list ∧ trigger ∈ list) ∧
    (∀ handle callerDid policy,
      (∀ registration controller createdAt since,
        Issued crates (withLimits limits) calls handle registration controller createdAt since →
          crates.sameReference controller callerDid = false) →
      next (perform crates) store (.provision handle callerDid policy) = store) ∧
    ∀ later handle record, store.state.handles.lookup handle = some record →
      Along (next (perform crates)) (fun store call => call.Fresh store.state.handles) store later →
      Along (next (perform crates)) (Spares crates handle) store later →
      ∃ record', (run (next (perform crates)) store later).state.handles.lookup handle =
          some record' ∧
        record'.registration = record.registration ∧
        record'.controllerVtaDid = record.controllerVtaDid := by
  have history := lookup_run_iff compares limits fresh
  refine ⟨fun handle trigger registration => ?_, fun handle callerDid policy other => ?_,
    fun later handle record found fresh spares => lookup_run_of_spares found fresh spares⟩
  · rw [authorizeWake_iff]
    constructor
    · rintro ⟨record, found, rfl, listed⟩
      obtain ⟨registration, controller, createdAt, since, issued, rfl⟩ := (history _ _).mp found
      obtain ⟨list, latest, member⟩ : ∃ list,
          latestProvision crates handle controller since = some list ∧ trigger ∈ list := by
        cases latest : latestProvision crates handle controller since with
        | none => simp [issuedRecord, latest] at listed
        | some list => exact ⟨list, rfl, by simpa [issuedRecord, latest] using listed⟩
      exact ⟨controller, createdAt, since, issued, list, latest, member⟩
    · rintro ⟨controller, createdAt, since, issued, list, latest, member⟩
      exact ⟨_, (history _ _).mpr ⟨registration, controller, createdAt, since, issued, rfl⟩,
        rfl, by simpa [issuedRecord, latest] using member⟩
  · refine provision_of_other (fun record found => ?_) policy
    obtain ⟨registration, controller, createdAt, since, issued, rfl⟩ := (history _ _).mp found
    have stranger := other registration controller createdAt since issued
    rw [← Bool.not_eq_true, compares.sameReference_iff] at stranger ⊢
    simpa [issuedRecord, compares.strip_strip] using stranger

/-- The controller lists a trigger, and a stranger tries to take it off the list. -/
private def listing : List StoreCall :=
  [.insertAt "h" (.fcm "t") "did:scid:vta?src=x" 0,
    .provision "h" "did:scid:vta" ⟨["did:key:zT"]⟩, .provision "h" "did:key:zStranger" ⟨[]⟩]

theorem wake_authority_listing :
    (run (next (perform plainCrates)) (withLimits StoreLimits.default) listing).authorizeWake "h"
      "did:key:zT" = .allowed (.fcm "t") := by
  have fresh : Along (next (perform plainCrates))
      (fun store call => call.Fresh store.state.handles) (withLimits StoreLimits.default) listing :=
    ⟨rfl, trivial, trivial, trivial⟩
  have authority := wake_authority plainCrates_comparesDids StoreLimits.default fresh
  exact (authority.1 "h" "did:key:zT" (.fcm "t")).mpr
    ⟨"did:scid:vta?src=x", 0, _, ⟨[], rfl, by decide, by decide⟩, ["did:key:zT"], by decide,
      by decide⟩

end Store

end PushGateway
