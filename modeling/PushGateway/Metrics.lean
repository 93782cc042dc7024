import PushGateway.Api
import PushGateway.Foundation.Fields

/-!
# The metrics endpoint

A scraper reads the counters in the text exposition format, each as it was when its line was
printed.  With a bearer token configured, nothing about them leaves without it.
-/

namespace PushGateway

open Fields

/-! ## The text -/

/-- The counters, in the order in which they are printed. -/
inductive Counter where
  | registers
  | provisionOk
  | provisionUnknownHandle
  | provisionNotController
  | wakeDelivered
  | wakeTransientFailure
  | wakeTokenUnregistered
  | wakeUnknownHandle
  | wakeNotAllowed
  deriving DecidableEq, Repr

def Counter.all : List Counter :=
  [.registers, .provisionOk, .provisionUnknownHandle, .provisionNotController, .wakeDelivered,
    .wakeTransientFailure, .wakeTokenUnregistered, .wakeUnknownHandle, .wakeNotAllowed]

namespace Metrics

def load (metrics : Metrics) : Counter → Nat
  | .registers => metrics.registers
  | .provisionOk => metrics.provisionOk
  | .provisionUnknownHandle => metrics.provisionUnknownHandle
  | .provisionNotController => metrics.provisionNotController
  | .wakeDelivered => metrics.wakeDelivered
  | .wakeTransientFailure => metrics.wakeTransientFailure
  | .wakeTokenUnregistered => metrics.wakeTokenUnregistered
  | .wakeUnknownHandle => metrics.wakeUnknownHandle
  | .wakeNotAllowed => metrics.wakeNotAllowed

/-- Count one more. -/
def bump (metrics : Metrics) : Counter → Metrics
  | .registers => metrics.incRegister
  | .provisionOk => metrics.incProvisionOk
  | .provisionUnknownHandle => metrics.incProvisionUnknownHandle
  | .provisionNotController => metrics.incProvisionNotController
  | .wakeDelivered => metrics.incWakeDelivered
  | .wakeTransientFailure => metrics.incWakeTransientFailure
  | .wakeTokenUnregistered => metrics.incWakeTokenUnregistered
  | .wakeUnknownHandle => metrics.incWakeUnknownHandle
  | .wakeNotAllowed => metrics.incWakeNotAllowed

theorem load_le_bump (metrics : Metrics) (counted counter : Counter) :
    metrics.load counter ≤ (metrics.bump counted).load counter := by
  cases counted <;> cases counter <;> first | exact Nat.le_refl _ | exact Nat.le_succ _

/-- The lines of `render`, where each counter is loaded when it is printed. -/
def lines (load : Counter → Nat) : List String :=
  ["# HELP gateway_register_total Handles issued via push/register.",
    "# TYPE gateway_register_total counter",
    "gateway_register_total " ++ toString (load .registers),
    "# HELP gateway_provision_total push/provision results by outcome.",
    "# TYPE gateway_provision_total counter"] ++
  [("ok", Counter.provisionOk), ("unknown_handle", .provisionUnknownHandle),
    ("not_controller", .provisionNotController)].map (fun (outcome, counter) =>
      "gateway_provision_total\x7boutcome=\"" ++ outcome ++ "\"\x7d " ++ toString (load counter)) ++
  ["# HELP gateway_wake_total push/wake results by outcome.",
    "# TYPE gateway_wake_total counter"] ++
  [("delivered", Counter.wakeDelivered), ("transient_failure", .wakeTransientFailure),
    ("token_unregistered", .wakeTokenUnregistered), ("unknown_handle", .wakeUnknownHandle),
    ("not_allowed", .wakeNotAllowed)].map (fun (outcome, counter) =>
      "gateway_wake_total\x7boutcome=\"" ++ outcome ++ "\"\x7d " ++ toString (load counter))

/-- `render`. -/
def render (load : Counter → Nat) : String :=
  String.join ((lines load).map fun line => line ++ "\n")

end Metrics

/-! ## The listener -/

/-- A response with a text, and its content type. -/
structure TextResponse where
  status : Nat
  contentType : String
  body : String
  deriving DecidableEq, Repr

/-- `constant_time_eq`. -/
def constantTimeEq (left right : List UInt8) : Bool :=
  if left.length ≠ right.length then false
  else (left.zip right).foldl (fun acc pair => acc ||| (pair.1 ^^^ pair.2)) 0 == 0

/-- `HeaderValue::to_str` succeeds. -/
def isVisible (value : List UInt8) : Bool :=
  value.all fun byte => decide (32 ≤ byte ∧ byte < 127 ∨ byte = 9)

/-- What precedes the token. -/
def bearer : List UInt8 := "Bearer ".toList.map fun char => UInt8.ofNat char.toNat

/-- The token of a request: of its `Authorization` header. -/
def presented (authorization : Option (List UInt8)) : Option (List UInt8) :=
  (authorization.filter isVisible).bind fun value =>
    if bearer.isPrefixOf value then some (value.drop bearer.length) else none

/-- `require_bearer`. -/
def requireBearer (expected : List UInt8) (authorization : Option (List UInt8))
    (next : TextResponse) : TextResponse :=
  match presented authorization with
  | some token =>
      if constantTimeEq token expected then next
      else ⟨401, "text/plain; charset=utf-8", "metrics require a bearer token\n"⟩
  | none => ⟨401, "text/plain; charset=utf-8", "metrics require a bearer token\n"⟩

/-- What the management listener serves. -/
inductive ManagementRoute where
  | metrics
  | healthz
  deriving DecidableEq, Repr

/-- `metrics_router`: a response to a request, where the counters are loaded if it gets that far. -/
def metricsRouter (token : Option (List UInt8)) (load : Counter → Nat) (route : ManagementRoute)
    (authorization : Option (List UInt8)) : TextResponse :=
  let response : TextResponse :=
    match route with
    | .metrics => ⟨200, "text/plain; version=0.0.4", Metrics.render load⟩
    | .healthz => ⟨200, "text/plain; charset=utf-8", "ok"⟩
  match token with
  | some expected => requireBearer expected authorization response
  | none => response

/-- The comparison is one of all bytes. -/
theorem constantTimeEq_iff (left right : List UInt8) :
    constantTimeEq left right = true ↔ left = right := by
  have differs : ∀ (left right : List UInt8) (acc : UInt8), left.length = right.length →
      ((left.zip right).foldl (fun acc pair => acc ||| (pair.1 ^^^ pair.2)) acc = 0 ↔
        acc = 0 ∧ left = right) := by
    intro left
    induction left with
    | nil =>
        intro right acc same
        rw [List.length_eq_zero_iff.mp same.symm]
        simp
    | cons byte left induction =>
        intro right acc same
        cases right with
        | nil => cases same
        | cons byte' right =>
            rw [List.zip_cons_cons, List.foldl_cons, induction right _ (Nat.succ.inj same)]
            simp [and_assoc]
  rw [constantTimeEq]
  split
  · rename_i lengths
    exact ⟨nofun, fun same => absurd (congrArg List.length same) lengths⟩
  · rename_i lengths
    rw [beq_iff_eq, differs left right 0 (not_not.mp lengths)]
    simp

theorem presented_eq_some_iff (authorization : Option (List UInt8)) (token : List UInt8) :
    presented authorization = some token ↔
      authorization = some (bearer ++ token) ∧ isVisible token = true := by
  have visible : isVisible bearer = true := by decide +kernel
  constructor
  · intro found
    obtain ⟨value, given, taken⟩ := Option.bind_eq_some_iff.mp found
    obtain ⟨rfl, whole⟩ := Option.filter_eq_some_iff.mp given
    split at taken
    · rename_i starts
      obtain ⟨rest, rfl⟩ := List.isPrefixOf_iff_prefix.mp starts
      cases taken
      rw [List.drop_left]
      rw [isVisible, List.all_append, Bool.and_eq_true] at whole
      exact ⟨rfl, whole.2⟩
    · cases taken
  · rintro ⟨rfl, own⟩
    have whole : isVisible (bearer ++ token) = true := by
      rw [isVisible, List.all_append, Bool.and_eq_true]
      exact ⟨visible, own⟩
    have starts : bearer.isPrefixOf (bearer ++ token) = true :=
      List.isPrefixOf_iff_prefix.mpr (List.prefix_append _ _)
    rw [presented, Option.filter_some, if_pos whole, Option.bind_some, if_pos starts,
      List.drop_left]

/-- A request passes exactly with the token. -/
theorem requireBearer_eq (expected : List UInt8) (authorization : Option (List UInt8))
    (next : TextResponse) :
    requireBearer expected authorization next =
      if presented authorization = some expected then next
      else ⟨401, "text/plain; charset=utf-8", "metrics require a bearer token\n"⟩ := by
  rw [requireBearer]
  cases presented authorization with
  | none => rfl
  | some token =>
      by_cases same : token = expected
      · simp [same, (constantTimeEq_iff expected expected).mpr rfl]
      · simp [same, constantTimeEq_iff]

/-! ## What a scraper reads -/

/-- The sample of a line: its series and its value.  Labels are taken to have no spaces. -/
def readSample (line : List Char) : Option (String × Nat) :=
  if line.head? = some '#' then none
  else (readDecimal (cut ' ' line).2).map fun value => (String.ofList (cut ' ' line).1, value)

/-- The samples of a text. -/
def readSamples (text : String) : List (String × Nat) :=
  (text.toList.splitOn '\n').filterMap readSample

/-- The series of a counter. -/
def Counter.series : Counter → String
  | .registers => "gateway_register_total"
  | .provisionOk => "gateway_provision_total\x7boutcome=\"ok\"\x7d"
  | .provisionUnknownHandle => "gateway_provision_total\x7boutcome=\"unknown_handle\"\x7d"
  | .provisionNotController => "gateway_provision_total\x7boutcome=\"not_controller\"\x7d"
  | .wakeDelivered => "gateway_wake_total\x7boutcome=\"delivered\"\x7d"
  | .wakeTransientFailure => "gateway_wake_total\x7boutcome=\"transient_failure\"\x7d"
  | .wakeTokenUnregistered => "gateway_wake_total\x7boutcome=\"token_unregistered\"\x7d"
  | .wakeUnknownHandle => "gateway_wake_total\x7boutcome=\"unknown_handle\"\x7d"
  | .wakeNotAllowed => "gateway_wake_total\x7boutcome=\"not_allowed\"\x7d"

/-- The line of a counter. -/
def Counter.line (load : Counter → Nat) (counter : Counter) : String :=
  counter.series ++ " " ++ toString (load counter)

theorem readSample_line (load : Counter → Nat) (counter : Counter) :
    readSample (counter.line load).toList = some (counter.series, load counter) := by
  have text : (counter.line load).toList =
      counter.series.toList ++ ' ' :: (toString (load counter)).toList := by
    simp [Counter.line]
  have plain : ' ' ∉ counter.series.toList := by cases counter <;> decide +kernel
  have head : (counter.series.toList ++ ' ' :: (toString (load counter)).toList).head? ≠
      some '#' := by
    cases counter <;> simp [Counter.series]
  rw [readSample, text, if_neg head, cut_append_cons plain, readDecimal_toString]
  simp

/-- The comments and counters, line by line. -/
private def outline : List (String ⊕ Counter) :=
  [.inl "# HELP gateway_register_total Handles issued via push/register.",
    .inl "# TYPE gateway_register_total counter", .inr .registers,
    .inl "# HELP gateway_provision_total push/provision results by outcome.",
    .inl "# TYPE gateway_provision_total counter", .inr .provisionOk,
    .inr .provisionUnknownHandle, .inr .provisionNotController,
    .inl "# HELP gateway_wake_total push/wake results by outcome.",
    .inl "# TYPE gateway_wake_total counter", .inr .wakeDelivered, .inr .wakeTransientFailure,
    .inr .wakeTokenUnregistered, .inr .wakeUnknownHandle, .inr .wakeNotAllowed]

private theorem lines_eq_outline (load : Counter → Nat) :
    Metrics.lines load = outline.map (Sum.elim id (Counter.line load)) := by
  simp [Metrics.lines, outline, Counter.line, Counter.series]

private theorem outline_comments : ∀ text, .inl text ∈ outline →
    text.toList.head? = some '#' ∧ '\n' ∉ text.toList := by
  simp only [outline, List.mem_cons, List.not_mem_nil, or_false, reduceCtorEq, false_or,
    Sum.inl.injEq]
  rintro text (rfl | rfl | rfl | rfl | rfl | rfl) <;> decide +kernel

theorem not_mem_line (load : Counter → Nat) (counter : Counter) :
    '\n' ∉ (counter.line load).toList := by
  have series : '\n' ∉ counter.series.toList := by cases counter <;> decide +kernel
  have value := not_mem_toString (load counter) (show Char.isDigit '\n' = false by decide)
  rw [Counter.line, String.toList_append, String.toList_append, List.mem_append, List.mem_append]
  rintro ((inside | space) | inside)
  · exact series inside
  · revert space
    decide
  · exact value inside

/-- The text is read as the counters, each under its series. -/
theorem readSamples_render (load : Counter → Nat) :
    readSamples (Metrics.render load) =
      Counter.all.map fun counter => (counter.series, load counter) := by
  have text : (Metrics.render load).toList =
      ((Metrics.lines load).map String.toList).flatMap fun line => line ++ ['\n'] := by
    rw [Metrics.render, String.toList_join, List.flatMap_map, List.flatMap_map]
    exact List.flatMap_congr fun line _ => by simp
  have plain : ∀ line ∈ (Metrics.lines load).map String.toList, '\n' ∉ line := by
    rw [lines_eq_outline, List.map_map]
    intro line member
    obtain ⟨comment | counter, listed, rfl⟩ := List.mem_map.mp member
    · exact (outline_comments comment listed).2
    · exact not_mem_line load counter
  have read : ∀ entry ∈ outline,
      readSample (Sum.elim id (Counter.line load) entry : String).toList =
        Sum.elim (fun _ => none) (fun counter => some (counter.series, load counter)) entry := by
    intro entry listed
    cases entry with
    | inl comment => exact if_pos (outline_comments comment listed).1
    | inr counter => exact readSample_line load counter
  calc
    readSamples (Metrics.render load) =
        ((Metrics.lines load).map String.toList ++ [[]]).filterMap readSample := by
      rw [readSamples, text, splitOn_terminated plain]
    _ = outline.filterMap fun entry =>
          readSample (Sum.elim id (Counter.line load) entry : String).toList := by
      rw [List.filterMap_append, lines_eq_outline, List.map_map, List.filterMap_map]
      exact List.append_nil _
    _ = outline.filterMap
          (Sum.elim (fun _ => none) fun counter => some (counter.series, load counter)) :=
      List.filterMap_congr read
    _ = Counter.all.map fun counter => (counter.series, load counter) := rfl

end PushGateway
