import PushGateway.Pipeline.Cancellation
import PushGateway.Pipeline.Provisions

/-!
# Provisions in the order of their instants

Between its checks and its write a provision lets any other request through.  It has one instant
all the same: the comparison which finds the stored list to be its own, or its write.  Handles are
never drawn twice, so a handle which is live at that instant is the one whose controller was
checked.
-/

namespace PushGateway

open Execution

variable {Guard DocumentDigest : Type} [ReplayGuard Guard String DocumentDigest Answer]
  (crates : Crates DocumentDigest)

namespace Server

/-! ## Instants -/

/-- The effect which a step of the server has. -/
def instant (server : Server Guard DocumentDigest) : ServerAction → Option Instant
  | .advance index =>
      server.requests[index]?.bind fun request => request.2.instant crates server.app index
  | .receive _ | .drop _ | .sweep _ _ => none

/-- The list of the last instant of a handle. -/
def lastList (handle : String) (order : List Instant) : Option (List String) :=
  order.reverse.findSome? (Instant.listFor handle)

theorem lastList_eq_none {handle : String} {order : List Instant}
    (others : ∀ instant ∈ order, instant.handle ≠ handle) : lastList handle order = none := by
  refine List.findSome?_eq_none_iff.mpr fun instant member => ?_
  exact if_neg (others instant (List.mem_reverse.mp member))

theorem lastList_concat (handle : String) (order : List Instant) (last : Option Instant) :
    lastList handle (order ++ last.toList) =
      (last.bind (Instant.listFor handle)).or (lastList handle order) := by
  cases last with
  | none => simp [lastList]
  | some instant => exact findSome?_reverse_concat _ order instant

/-- A registration draws a handle which has not been drawn before. -/
def DrawsAnew (server : Server Guard DocumentDigest) : ServerAction → Prop
  | .advance index => ∀ request ∈ server.requests[index]?, ∀ handle ∈ request.2.draws request.1,
      handle ∉ server.drawn
  | .receive _ | .drop _ | .sweep _ _ => True

instance (server : Server Guard DocumentDigest) : DecidablePred server.DrawsAnew
  | .advance index => inferInstanceAs (Decidable (∀ request ∈ server.requests[index]?, _))
  | .receive _ | .drop _ | .sweep _ _ => isTrue trivial

variable {crates} {server after : Server Guard DocumentDigest} {action : ServerAction}

/-! ## What a step does to one request -/

/-- A request stays where it is, or takes its own step, or is dropped. -/
theorem Stepped.request (stepped : server.Stepped crates action after) {index : Nat}
    {delivery : Delivery} {stage : Stage DocumentDigest}
    (found : server.requests[index]? = some (delivery, stage)) :
    ∃ next, after.requests[index]? = some (delivery, next) ∧
      (next = stage ∧ action ≠ .advance index ∨
        action = .advance index ∧ stage.Advanced crates delivery server.app after.app next ∨
        action = .drop index ∧ stage.Dropped server.app after.app next) := by
  have inside := (List.getElem?_eq_some_iff.mp found).1
  cases stepped with
  | received => exact ⟨stage, by rwa [List.getElem?_append_left inside], .inl ⟨rfl, nofun⟩⟩
  | advanced own ownDelivery ownStage app next present advanced =>
      by_cases same : own = index
      · subst same
        cases found.symm.trans present
        exact ⟨next, List.getElem?_set_self inside, .inr (.inl ⟨rfl, advanced⟩)⟩
      · refine ⟨stage, by rwa [List.getElem?_set_ne same], .inl ⟨rfl, ?_⟩⟩
        rintro ⟨⟩
        exact same rfl
  | dropped own ownDelivery ownStage app next present dropped =>
      by_cases same : own = index
      · subst same
        cases found.symm.trans present
        exact ⟨next, List.getElem?_set_self inside, .inr (.inr ⟨rfl, dropped⟩)⟩
      · exact ⟨stage, by rwa [List.getElem?_set_ne same], .inl ⟨rfl, nofun⟩⟩
  | absent own _ missing names =>
      refine ⟨stage, found, .inl ⟨rfl, ?_⟩⟩
      rintro rfl
      obtain same | same := names
      · cases same
        cases missing.symm.trans found
      · cases same
  | swept => exact ⟨stage, found, .inl ⟨rfl, nofun⟩⟩

/-- A request which was not there has just arrived. -/
theorem Stepped.arrived (stepped : server.Stepped crates action after) {index : Nat}
    (missing : server.requests[index]? = none) {request : Delivery × Stage DocumentDigest}
    (found : after.requests[index]? = some request) : request.2 = .received := by
  cases stepped with
  | received delivery =>
      rw [List.getElem?_append_right (List.getElem?_eq_none_iff.mp missing)] at found
      have member := List.mem_of_getElem? found
      rw [List.mem_singleton.mp member]
  | advanced own ownDelivery ownStage app next present =>
      rw [List.getElem?_eq_none (by simpa using missing)] at found
      cases found
  | dropped own ownDelivery ownStage app next present =>
      rw [List.getElem?_eq_none (by simpa using missing)] at found
      cases found
  | absent => cases missing.symm.trans found
  | swept => cases missing.symm.trans found

variable (crates) in
/-- What every step of its own keeps, a request keeps through a run. -/
theorem request_run {index : Nat} {delivery : Delivery} (holds : Stage DocumentDigest → Prop)
    (advances : ∀ state after stage next, holds stage →
      Stage.Advanced crates delivery (state : AppState Guard) stage after next → holds next)
    (drops : ∀ (state after : AppState Guard) stage next, holds stage →
      stage.Dropped state after next → holds next)
    {stage : Stage DocumentDigest} (found : server.requests[index]? = some (delivery, stage))
    (initially : holds stage) (actions : List ServerAction) :
    ∃ next, (run (step crates) server actions).requests[index]? = some (delivery, next) ∧
      holds next := by
  have preserved : ∀ (server : Server Guard DocumentDigest) action,
      (∃ stage, server.requests[index]? = some (delivery, stage) ∧ holds stage) →
      ∃ next, (server.step crates action).requests[index]? = some (delivery, next) ∧
        holds next := by
    rintro server action ⟨stage, found, kept⟩
    obtain ⟨next, found', ⟨rfl, _⟩ | ⟨_, advanced⟩ | ⟨_, dropped⟩⟩ :=
      (server.step_stepped crates action).request found
    · exact ⟨next, found', kept⟩
    · exact ⟨next, found', advances _ _ _ _ kept advanced⟩
    · exact ⟨next, found', drops _ _ _ _ kept dropped⟩
  exact invariant_of_always preserved ⟨stage, found, initially⟩ actions

variable (crates) in
/-- A request which has ended stays as it is. -/
theorem ended_run {index : Nat} {delivery : Delivery} {ending : Ending}
    (found : server.requests[index]? = some (delivery, .ended ending))
    (actions : List ServerAction) :
    (run (step crates) server actions).requests[index]? = some (delivery, .ended ending) := by
  obtain ⟨next, found', rfl⟩ := request_run crates (fun stage => stage = .ended ending)
    (fun _ _ _ _ same advanced => by subst same; exact advanced.of_ended)
    (fun _ _ _ _ same dropped => by subst same; exact dropped.of_ended) found rfl actions
  exact found'

variable (crates) in
/-- A request keeps its claim through a run in which it does not end. -/
theorem claiming_run {index : Nat} {delivery : Delivery} {stage : Stage DocumentDigest}
    {once : DocumentOnce DocumentDigest} {effect : Effect}
    (found : server.requests[index]? = some (delivery, stage))
    (claim : stage.claim = some (once, effect)) (actions : List ServerAction) :
    ∃ next, (run (step crates) server actions).requests[index]? = some (delivery, next) ∧
      (next.claim = some (once, effect) ∨ ∃ ending, next = .ended ending) := by
  refine request_run crates (fun stage => stage.claim = some (once, effect) ∨
    ∃ ending, stage = .ended ending) (fun _ _ _ _ kept advanced => ?_)
    (fun _ _ _ _ kept dropped => ?_) found (.inl claim) actions
  · obtain claim | ⟨ending, rfl⟩ := kept
    · exact advanced.claiming claim
    · exact .inr ⟨ending, advanced.of_ended⟩
  · obtain claim | ⟨ending, rfl⟩ := kept
    · exact (dropped.claiming claim).imp_right fun same => ⟨_, same⟩
    · exact .inr ⟨ending, dropped.of_ended⟩

/-! ## What a step does to one handle -/

theorem Stepped.drawn (stepped : server.Stepped crates action after) {handle : String}
    (drawn : handle ∈ server.drawn) : handle ∈ after.drawn := by
  cases stepped with
  | received => exact drawn
  | advanced => exact List.mem_append_left _ drawn
  | dropped => exact drawn
  | absent => exact drawn
  | swept => exact drawn

/-- A handle which is live after a step has just been drawn, or was live before it with the same
controller, and has kept its list unless a request took effect on it. -/
theorem Stepped.lookup (stepped : server.Stepped crates action after)
    (anew : server.DrawsAnew action) {handle : String} {record : HandleRecord}
    (found : after.app.store.state.handles.lookup handle = some record) :
    (handle ∉ server.drawn ∧ handle ∈ after.drawn ∧ record.allowedTriggers = []) ∨
      ∃ before, server.app.store.state.handles.lookup handle = some before ∧
        record.controllerVtaDid = before.controllerVtaDid ∧
        record.allowedTriggers = ((server.instant crates action).bind
          (Instant.listFor handle)).getD before.allowedTriggers := by
  cases stepped with
  | received => exact .inr ⟨record, found, rfl, rfl⟩
  | advanced index delivery stage app next present advanced =>
      obtain ⟨drawn, empty⟩ | before := advanced.lookup index found
      · exact .inl ⟨anew _ present handle drawn, List.mem_append_right _ drawn, empty⟩
      · rw [instant, present]
        exact .inr before
  | dropped index delivery stage app next present dropped =>
      exact .inr ⟨record, dropped.store ▸ found, rfl, rfl⟩
  | absent index action missing names =>
      refine .inr ⟨record, found, rfl, ?_⟩
      obtain rfl | rfl := names
      · rw [instant, missing]
        rfl
      · rfl
  | swept ttlSecs now =>
      have rewritten := Store.lookup_perform crates server.app.store
        (.sweepUnprovisioned ttlSecs now) handle
      rw [StoreCall.rewrite] at rewritten
      obtain ⟨kept, _⟩ := Option.filter_eq_some_iff.mp (rewritten.symm.trans found)
      exact .inr ⟨record, kept, rfl, rfl⟩

/-- A step takes effect on a live handle, which then has its list. -/
theorem Stepped.taken (stepped : server.Stepped crates action after) {instant : Instant}
    (taken : server.instant crates action = some instant) :
    action = .advance instant.request ∧
      (∃ record, server.app.store.state.handles.lookup instant.handle = some record) ∧
      after.app.store.allowlist instant.handle = some instant.triggers := by
  cases stepped with
  | advanced index delivery stage app next present advanced =>
      rw [Server.instant, present] at taken
      obtain ⟨own, live, listed⟩ := advanced.taken taken
      exact ⟨by rw [own], live, listed⟩
  | absent index action missing names =>
      obtain rfl | rfl := names
      · rw [Server.instant, missing] at taken
        cases taken
      · cases taken
  | received => cases taken
  | dropped => cases taken
  | swept => cases taken

/-! ## What holds beside every request -/

/-- The handle has been drawn, and while it is live its controller is the caller. -/
def ControlledBy (crates : Crates DocumentDigest) (server : Server Guard DocumentDigest)
    (caller handle : String) : Prop :=
  handle ∈ server.drawn ∧
    ∀ record, server.app.store.state.handles.lookup handle = some record →
      crates.sameReference record.controllerVtaDid caller = true

/-- Every live handle has been drawn, every request is about what its document asks for, and the
handle of a provision which was checked has no other controller. -/
structure Tracked (crates : Crates DocumentDigest) (server : Server Guard DocumentDigest) :
    Prop where
  wellFormed : server.app.replay.WellFormed server.app.bounds
  live : ∀ handle record, server.app.store.state.handles.lookup handle = some record →
    handle ∈ server.drawn
  consistent : ∀ request ∈ server.requests, request.2.Consistent request.1
  controls : ∀ request ∈ server.requests, ∀ once caller handle policy,
    request.2.effect = some (once, .provision caller handle policy) →
    server.ControlledBy crates caller handle

theorem Tracked.consistent_stepped (tracked : server.Tracked crates)
    (stepped : server.Stepped crates action after) :
    ∀ request ∈ after.requests, request.2.Consistent request.1 := by
  cases stepped with
  | received =>
      exact List.forall_mem_append.mpr
        ⟨tracked.consistent, List.forall_mem_singleton.mpr trivial⟩
  | advanced index delivery stage app next found advanced =>
      have own := tracked.consistent _ (List.mem_of_getElem? found)
      exact forall_mem_set tracked.consistent (advanced.consistent own)
  | dropped index delivery stage app next found dropped =>
      have own := tracked.consistent _ (List.mem_of_getElem? found)
      exact forall_mem_set tracked.consistent (dropped.consistent own)
  | absent => exact tracked.consistent
  | swept => exact tracked.consistent

/-- A handle keeps its controller, as it is never drawn again. -/
theorem ControlledBy.stepped {caller handle : String}
    (controlled : server.ControlledBy crates caller handle) (anew : server.DrawsAnew action)
    (stepped : server.Stepped crates action after) : after.ControlledBy crates caller handle := by
  refine ⟨stepped.drawn controlled.1, fun record found => ?_⟩
  obtain ⟨new, _⟩ | ⟨before, found', same, _⟩ := stepped.lookup anew found
  · exact absurd controlled.1 new
  · exact same ▸ controlled.2 before found'

theorem Tracked.controls_stepped (tracked : server.Tracked crates) (anew : server.DrawsAnew action)
    (stepped : server.Stepped crates action after) :
    ∀ request ∈ after.requests, ∀ once caller handle policy,
      request.2.effect = some (once, .provision caller handle policy) →
      after.ControlledBy crates caller handle := by
  have others : ∀ request ∈ server.requests, ∀ once caller handle policy,
      request.2.effect = some (once, .provision caller handle policy) →
      after.ControlledBy crates caller handle :=
    fun request member once caller handle policy authorised =>
      (tracked.controls request member once caller handle policy authorised).stepped anew stepped
  cases stepped with
  | received =>
      refine List.forall_mem_append.mpr ⟨others, List.forall_mem_singleton.mpr ?_⟩
      intro once caller handle policy authorised
      cases authorised
  | advanced index delivery stage app next found advanced =>
      refine forall_mem_set others fun once caller handle policy authorised => ?_
      obtain before | ⟨same, checked⟩ := advanced.provisioning authorised
      · exact others _ (List.mem_of_getElem? found) once caller handle policy before
      · obtain ⟨record, live, controls⟩ := (Store.checkController_iff crates _ _ _).mp checked
        have controlled : server.ControlledBy crates caller handle := by
          refine ⟨tracked.live handle record live, fun other found' => ?_⟩
          cases live.symm.trans found'
          exact controls
        exact controlled.stepped anew (.advanced index delivery stage app next found advanced)
  | dropped index delivery stage app next found dropped =>
      refine forall_mem_set others fun once caller handle policy authorised => ?_
      have member := List.mem_of_getElem? found
      cases dropped with
      | unmoved => exact others _ member once caller handle policy authorised
      | unheard => cases authorised
      | opened => cases authorised
      | abandoned => cases authorised
  | absent => exact others
  | swept => exact others

theorem opened_tracked (crates : Crates DocumentDigest) (app : AppState Guard) :
    (opened app : Server Guard DocumentDigest).Tracked crates where
  wellFormed := ReplayRecord.new_wellFormed app.bounds
  live handle record found :=
    AList.mem_keys.mp (AList.lookup_isSome.mp (Option.isSome_iff_exists.mpr ⟨record, found⟩))
  consistent _ member := by cases member
  controls _ member := by cases member

/-! ## The order of provisions -/

/-- A request in progress takes effect for its caller, who controls the live handle, and leaves it
with the list asked for. -/
structure TakesEffect (crates : Crates DocumentDigest) (server : Server Guard DocumentDigest)
    (index : Nat) (delivery : Delivery) (caller : String) (instant : Instant) : Prop where
  taken : server.instant crates (.advance index) = some instant
  inProgress : ∃ stage, server.requests[index]? = some (delivery, stage) ∧
    ∀ ending, stage ≠ .ended ending
  asked : ∃ policy, AsksProvision delivery caller instant.handle policy ∧
    policy.allowedTriggers = instant.triggers
  controls : ∃ record, server.app.store.state.handles.lookup instant.handle = some record ∧
    crates.sameReference record.controllerVtaDid caller = true
  listed : (server.step crates (.advance index)).app.store.allowlist instant.handle =
    some instant.triggers

/-- A request which has taken effect is only ever answered with success. -/
theorem committed_of_taken {instant : Instant}
    (taken : server.instant crates action = some instant) (actions : List ServerAction) :
    ∃ delivery stage,
      (run (step crates) server (action :: actions)).requests[instant.request]? =
          some (delivery, stage) ∧
        stage.Committed delivery instant.handle instant.triggers := by
  have stepped := server.step_stepped crates action
  obtain ⟨rfl, _⟩ := stepped.taken taken
  rw [Server.instant] at taken
  obtain ⟨⟨delivery, stage⟩, found, own⟩ := Option.bind_eq_some_iff.mp taken
  obtain ⟨next, found', ⟨_, other⟩ | ⟨_, advanced⟩ | ⟨other, _⟩⟩ := stepped.request found
  · exact absurd rfl other
  · exact ⟨delivery, request_run crates _ (fun _ _ _ _ kept advanced => advanced.committed kept)
      (fun _ _ _ _ kept dropped => dropped.committed kept) found' (advanced.commits own) actions⟩
  · cases other

/-- A step after which a provision is bound to answer with success is the one in which it takes
effect. -/
theorem Tracked.takesEffect (tracked : server.Tracked crates) {index : Nat} {delivery : Delivery}
    {answer : Answer} {next : Stage DocumentDigest}
    (named : delivery.doc.typeUri.names "push/provision") (success : answer.isError = false)
    (notYet : ¬∃ stage, server.requests[index]? = some (delivery, stage) ∧
      stage.Succeeding answer)
    (found : (server.step crates action).requests[index]? = some (delivery, next))
    (succeeding : next.Succeeding answer) :
    action = .advance index ∧ ∃ caller instant,
      server.TakesEffect crates index delivery caller instant ∧
        answer = delivery.provisioned instant.handle instant.triggers := by
  have stepped := server.step_stepped crates action
  cases present : server.requests[index]? with
  | none =>
      cases stepped.arrived present found
      cases succeeding
  | some request =>
      obtain ⟨own, stage⟩ := request
      have member := List.mem_of_getElem? present
      obtain ⟨next', found', change⟩ := stepped.request present
      cases found.symm.trans found'
      have unready : ¬stage.Succeeding answer := fun ready => notYet ⟨stage, present, ready⟩
      obtain ⟨rfl, _⟩ | ⟨rfl, advanced⟩ | ⟨_, dropped⟩ := change
      · exact absurd succeeding unready
      · have consistent := tracked.consistent _ member
        obtain ⟨once, caller, handle, policy, authorised, own, rfl⟩ :=
          advanced.succeeds named consistent success unready succeeding index
        have taken : server.instant crates (.advance index) =
            some ⟨index, handle, policy.allowedTriggers⟩ := by
          rw [instant, present]
          exact own
        obtain ⟨_, ⟨record, live⟩, listed⟩ := stepped.taken taken
        have controlled := tracked.controls _ member once caller handle policy authorised
        refine ⟨rfl, caller, _, ⟨taken, ⟨stage, present, ?_⟩,
          ⟨policy, consistent.asked authorised, rfl⟩, ⟨record, live, controlled.2 record live⟩,
          listed⟩, rfl⟩
        rintro ending rfl
        cases authorised
      · exact absurd (dropped.succeeding succeeding) unready

theorem drawn_run {handle : String} (drawn : handle ∈ server.drawn) (actions : List ServerAction) :
    handle ∈ (run (step crates) server actions).drawn := by
  have preserved : ∀ (server : Server Guard DocumentDigest) action, handle ∈ server.drawn →
      handle ∈ (server.step crates action).drawn :=
    fun server action drawn => (server.step_stepped crates action).drawn drawn
  exact invariant_of_always preserved drawn actions

variable [DecidableEq DocumentDigest] [LawfulReplayGuard Guard]

theorem Stepped.wellFormed (stepped : server.Stepped crates action after)
    (wellFormed : server.app.replay.WellFormed server.app.bounds) :
    after.app.replay.WellFormed after.app.bounds := by
  cases stepped with
  | received => exact wellFormed
  | advanced index delivery stage app next found advanced => exact (advanced.books wellFormed).1
  | dropped index delivery stage app next found dropped => exact dropped.wellFormed wellFormed
  | absent => exact wellFormed
  | swept => exact wellFormed

theorem Tracked.stepped (tracked : server.Tracked crates) (anew : server.DrawsAnew action)
    (stepped : server.Stepped crates action after) : after.Tracked crates where
  wellFormed := stepped.wellFormed tracked.wellFormed
  live handle record found := by
    obtain ⟨_, new, _⟩ | ⟨before, found', _⟩ := stepped.lookup anew found
    · exact new
    · exact stepped.drawn (tracked.live handle before found')
  consistent := tracked.consistent_stepped stepped
  controls := tracked.controls_stepped anew stepped

theorem tracked_run {start : Server Guard DocumentDigest} {actions : List ServerAction}
    (tracked : start.Tracked crates) (anew : Along (step crates) DrawsAnew start actions) :
    (run (step crates) start actions).Tracked crates :=
  invariant (fun server action tracked anew =>
    tracked.stepped anew (server.step_stepped crates action)) tracked anew

section Run

variable {start : Server Guard DocumentDigest} {actions : List ServerAction}

/-- A provision answered with success has taken effect in one of its steps. -/
theorem exists_takesEffect (empty : start.requests = []) (tracked : start.Tracked crates)
    (anew : Along (step crates) DrawsAnew start actions) {index : Nat} {delivery : Delivery}
    {answer : Answer}
    (ended : (run (step crates) start actions).requests[index]? =
      some (delivery, .ended (.built answer)))
    (named : delivery.doc.typeUri.names "push/provision") (success : answer.isError = false) :
    ∃ front back caller instant, actions = front ++ .advance index :: back ∧
      (run (step crates) start front).TakesEffect crates index delivery caller instant ∧
      answer = delivery.provisioned instant.handle instant.triggers := by
  have before : ¬∃ stage, start.requests[index]? = some (delivery, stage) ∧
      stage.Succeeding answer := by
    rintro ⟨stage, found, _⟩
    rw [empty] at found
    cases found
  obtain ⟨front, action, back, rfl, notYet, next, found, succeeding⟩ :=
    exists_turning_point (fun server : Server Guard DocumentDigest =>
      ∃ stage, server.requests[index]? = some (delivery, stage) ∧ stage.Succeeding answer)
      before ⟨_, ended, .answered⟩
  rw [run_concat] at found
  have tracked_front := tracked_run tracked ((along_append start front _).mp anew).1
  obtain ⟨rfl, caller, instant, takes, same⟩ :=
    tracked_front.takesEffect named success notYet found succeeding
  exact ⟨front, back, caller, instant, rfl, takes, same⟩

/-- A refused provision leaves every list alone in each of its steps. -/
theorem refused_lists (tracked : start.Tracked crates) {index : Nat}
    {front back : List ServerAction}
    (anew : Along (step crates) DrawsAnew start (front ++ .advance index :: back))
    {delivery : Delivery} {answer : Answer}
    (ended : (run (step crates) start (front ++ .advance index :: back)).requests[index]? =
      some (delivery, .ended (.built answer)))
    (named : delivery.doc.typeUri.names "push/provision") (refused : answer.isError = true)
    (handle : String) :
    (run (step crates) start (front ++ [.advance index])).app.store.allowlist handle =
      (run (step crates) start front).app.store.allowlist handle := by
  have tracked_front := tracked_run tracked ((along_append start front _).mp anew).1
  rw [run_concat]
  rw [run_append] at ended
  generalize run (step crates) start front = server at *
  cases present : server.requests[index]? with
  | none => simp only [step, present]
  | some request =>
      obtain ⟨own, stage⟩ := request
      have stepped := server.step_stepped crates (.advance index)
      obtain ⟨_, reached, _⟩ := request_run crates (fun _ => True)
        (fun _ _ _ _ _ _ => trivial) (fun _ _ _ _ _ _ => trivial) present trivial
        (.advance index :: back)
      cases ended.symm.trans reached
      cases taken : server.instant crates (.advance index) with
      | some instant =>
          obtain ⟨same, _⟩ := stepped.taken taken
          obtain ⟨_, _, found, committed⟩ := committed_of_taken taken back
          cases same
          cases ended.symm.trans found
          cases committed
          cases refused
      | none =>
          obtain ⟨next, found, ⟨_, other⟩ | ⟨_, advanced⟩ | ⟨other, _⟩⟩ := stepped.request present
          · exact absurd rfl other
          · rw [instant, present] at taken
            have consistent := tracked_front.consistent _ (List.mem_of_getElem? present)
            rw [Store.allowlist, advanced.store_kept named consistent taken]
            rfl
          · cases other

/-- A refused provision which has claimed its document releases it in one of its later steps. -/
theorem refused_releases (tracked : start.Tracked crates) {index : Nat}
    {back : List ServerAction} (anew : Along (step crates) DrawsAnew start back)
    {delivery : Delivery} {answer : Answer}
    (ended : (run (step crates) start back).requests[index]? =
      some (delivery, .ended (.built answer)))
    (named : delivery.doc.typeUri.names "push/provision") (refused : answer.isError = true)
    {stage : Stage DocumentDigest} {once : DocumentOnce DocumentDigest} {effect : Effect}
    (present : start.requests[index]? = some (delivery, stage))
    (claim : stage.claim = some (once, effect)) :
    ∃ middle rest, back = middle ++ .advance index :: rest ∧
      (∃ claiming, (run (step crates) start middle).requests[index]? = some (delivery, claiming) ∧
        claiming.claim = some (once, effect)) ∧
      (run (step crates) start (middle ++ [.advance index])).app.replay.ledger.Released
        effect.issuer effect.handle once.id once.digest := by
  have open_ : ¬∃ ending, start.requests[index]? = some (delivery, .ended ending) := by
    rintro ⟨ending, found⟩
    cases present.symm.trans found
    cases claim
  obtain ⟨middle, action, rest, rfl, unended, ending, found⟩ :=
    exists_turning_point (fun server : Server Guard DocumentDigest =>
      ∃ ending, server.requests[index]? = some (delivery, .ended ending)) open_ ⟨_, ended⟩
  have kept := ended_run crates found rest
  rw [← run_append, List.append_assoc, List.singleton_append] at kept
  cases ended.symm.trans kept
  obtain ⟨claiming, present_middle, claims⟩ := claiming_run crates present claim middle
  obtain claims | ⟨ending, rfl⟩ := claims
  · have tracked_middle := tracked_run tracked ((along_append start middle _).mp anew).1
    rw [run_concat] at found
    obtain ⟨next, found', change⟩ :=
      (step_stepped crates _ action).request present_middle
    cases found.symm.trans found'
    obtain ⟨rfl, _⟩ | ⟨rfl, advanced⟩ | ⟨_, dropped⟩ := change
    · cases claims
    · refine ⟨middle, rest, rfl, ⟨claiming, present_middle, claims⟩, ?_⟩
      rw [run_concat]
      exact advanced.releases tracked_middle.wellFormed
        (tracked_middle.consistent _ (List.mem_of_getElem? present_middle)) named refused claims
    · obtain same | same := dropped.claiming claims
      · cases same
      · cases same
  · exact absurd ⟨ending, present_middle⟩ unended

/-- A handle on which a request has taken effect has been drawn. -/
theorem drawn_of_mem_events (tracked : start.Tracked crates)
    (anew : Along (step crates) DrawsAnew start actions) {instant : Instant}
    (member : instant ∈ events (Server.instant crates) (step crates) start actions) :
    instant.handle ∈ (run (step crates) start actions).drawn := by
  obtain ⟨front, action, back, rfl, taken⟩ := exists_of_mem_events member
  have tracked_front := tracked_run tracked ((along_append start front _).mp anew).1
  obtain ⟨_, ⟨record, live⟩, _⟩ := (step_stepped crates _ action).taken taken
  rw [run_append]
  exact drawn_run (tracked_front.live _ record live) (action :: back)

/-- A live handle has the list of its last instant, or the one it started with. -/
theorem lists_run (tracked : start.Tracked crates)
    (anew : Along (step crates) DrawsAnew start actions) {handle : String} {list : List String}
    (found : (run (step crates) start actions).app.store.allowlist handle = some list) :
    list = (lastList handle (events (instant crates) (step crates) start actions)).getD
      ((start.app.store.allowlist handle).getD []) := by
  induction actions using List.reverseRecOn generalizing list with
  | nil =>
      rw [run_nil] at found
      rw [found]
      rfl
  | append_singleton actions last induction =>
      have anew_actions := ((along_append start actions _).mp anew).1
      have anew_last : (run (step crates) start actions).DrawsAnew last :=
        ((along_append start actions _).mp anew).2.1
      have tracked_actions := tracked_run tracked anew_actions
      have stepped := (run (step crates) start actions).step_stepped crates last
      rw [run_concat] at found
      obtain ⟨record, present, rfl⟩ := Option.map_eq_some_iff.mp found
      rw [events_concat, lastList_concat, Option.getD_or]
      obtain ⟨new, _, empty⟩ | ⟨before, present', _, kept⟩ := stepped.lookup anew_last present
      · have untaken : ((run (step crates) start actions).instant crates last).bind
            (Instant.listFor handle) = none := by
          refine Option.bind_eq_none_iff.mpr fun instant taken => if_neg ?_
          rintro rfl
          obtain ⟨_, ⟨other, live⟩, _⟩ := stepped.taken taken
          exact new (tracked_actions.live _ other live)
        have unlisted : lastList handle (events (instant crates) (step crates) start actions) =
            none := by
          refine lastList_eq_none fun instant member same => new ?_
          exact same ▸ drawn_of_mem_events tracked anew_actions member
        have absent : start.app.store.allowlist handle = none := by
          refine Option.map_eq_none_iff.mpr (Option.eq_none_iff_forall_ne_some.mpr ?_)
          intro other live
          exact new (drawn_run (tracked.live handle other live) actions)
        rw [untaken, unlisted, absent, empty]
        rfl
      · rw [← induction anew_actions (Option.map_eq_some_iff.mpr ⟨before, present', rfl⟩)]
        exact kept

end Run

/-- The provisions of a run take effect one after another: whoever is answered with success at an
instant of its own, whoever is refused not at all, and what they leave is the list of the last. -/
structure Linearized (crates : Crates DocumentDigest) (start : Server Guard DocumentDigest)
    (actions : List ServerAction) : Prop where
  answered : ∀ index delivery answer,
    (run (step crates) start actions).requests[index]? = some (delivery, .ended (.built answer)) →
    delivery.doc.typeUri.names "push/provision" → answer.isError = false →
    ∃ front back caller instant, actions = front ++ .advance index :: back ∧
      (run (step crates) start front).TakesEffect crates index delivery caller instant ∧
      answer = delivery.provisioned instant.handle instant.triggers
  committed : ∀ instant ∈ events (Server.instant crates) (step crates) start actions,
    ∃ delivery stage,
      (run (step crates) start actions).requests[instant.request]? = some (delivery, stage) ∧
        stage.Committed delivery instant.handle instant.triggers
  unchanged : ∀ index delivery answer,
    (run (step crates) start actions).requests[index]? = some (delivery, .ended (.built answer)) →
    delivery.doc.typeUri.names "push/provision" → answer.isError = true →
    ∀ front back, actions = front ++ .advance index :: back → ∀ handle,
      (run (step crates) start (front ++ [.advance index])).app.store.allowlist handle =
        (run (step crates) start front).app.store.allowlist handle
  released : ∀ index delivery answer,
    (run (step crates) start actions).requests[index]? = some (delivery, .ended (.built answer)) →
    delivery.doc.typeUri.names "push/provision" → answer.isError = true →
    ∀ front back stage once effect, actions = front ++ back →
      (run (step crates) start front).requests[index]? = some (delivery, stage) →
      stage.claim = some (once, effect) →
      ∃ middle rest, back = middle ++ .advance index :: rest ∧
        (run (step crates) start (front ++ middle ++ [.advance index])).app.replay.ledger.Released
          effect.issuer effect.handle once.id once.digest
  lists : ∀ handle list,
    (run (step crates) start actions).app.store.allowlist handle = some list →
    list = (lastList handle (events (instant crates) (step crates) start actions)).getD
      ((start.app.store.allowlist handle).getD [])

/-- Provisions are linearizable beside any other requests, as long as no handle is drawn twice. -/
theorem provisions_linearizable (app : AppState Guard) (actions : List ServerAction)
    (anew : Along (step crates) DrawsAnew (opened app) actions) :
    Linearized crates (opened app) actions := by
  have tracked := opened_tracked crates app
  refine ⟨?_, ?_, ?_, ?_, ?_⟩
  · intro index delivery answer ended named success
    exact exists_takesEffect rfl tracked anew ended named success
  · intro instant member
    obtain ⟨front, action, back, rfl, taken⟩ := exists_of_mem_events member
    obtain ⟨delivery, stage, found, committed⟩ := committed_of_taken taken back
    exact ⟨delivery, stage, by rwa [run_append], committed⟩
  · rintro index delivery answer ended named refused front back rfl handle
    exact refused_lists tracked anew ended named refused handle
  · rintro index delivery answer ended named refused front back stage once effect rfl present claim
    obtain ⟨anew_front, anew_back⟩ := (along_append _ front back).mp anew
    rw [run_append] at ended
    obtain ⟨middle, rest, split, _, released⟩ := refused_releases
      (tracked_run tracked anew_front) anew_back ended named refused present claim
    refine ⟨middle, rest, split, ?_⟩
    rwa [List.append_assoc, run_append]
  · intro handle list found
    exact lists_run tracked anew found

/-! ## Two provisions and a registration -/

/-- The controller's provision of the handle, at time zero. -/
private def provisionBeside (id : String) (triggers : List String) : Delivery :=
  ⟨smallSurroundings "did:web:vta.example" 0 .delivered, none, smallBody,
    smallProvision id triggers⟩

/-- Two provisions are checked and admitted beside each other, and the later one writes first. -/
private def crossed : List ServerAction :=
  [.receive (provisionBeside "first" ["did:web:one.example"]),
    .receive (provisionBeside "second" ["did:web:two.example"]), .advance 0, .advance 1,
    .advance 1, .advance 0, .advance 0, .advance 1, .advance 1, .advance 0, .sweep 60 3600,
    .advance 0, .advance 1]

theorem provisions_linearizable_crossed : Linearized plainCrates (opened smallGateway) crossed :=
  provisions_linearizable smallGateway crossed (by decide)

end Server

end PushGateway
