import Mathlib.Data.List.Basic
import Mathlib.Data.List.Induction
import Mathlib.Tactic.Tauto

/-!
# Executions of a deterministic step

A run performs a list of actions from left to right.  `Along` says that every action of a run
meets a guard in the very state it is performed in, so that a condition on single steps can be
read as a condition on a whole run.  The invariant and simulation rules are proved once here, by
induction on the actions.
-/

namespace Execution

variable {σ τ α ω : Type}

/-- Perform a list of actions. -/
def run (step : σ → α → σ) : σ → List α → σ := List.foldl step

/-- Every action meets the guard in the state in which it is performed. -/
def Along (step : σ → α → σ) (guard : σ → α → Prop) : σ → List α → Prop
  | _, [] => True
  | state, action :: actions => guard state action ∧ Along step guard (step state action) actions

/-- The state reached by an action which also answers. -/
def next (perform : σ → α → ω × σ) (state : σ) (action : α) : σ := (perform state action).2

/-- The answers given along a run. -/
def outputs (perform : σ → α → ω × σ) : σ → List α → List ω
  | _, [] => []
  | state, action :: actions =>
      (perform state action).1 :: outputs perform (next perform state action) actions

variable {step : σ → α → σ} {guard : σ → α → Prop}

instance decidableAlong [∀ state action, Decidable (guard state action)] :
    (state : σ) → (actions : List α) → Decidable (Along step guard state actions)
  | _, [] => isTrue trivial
  | state, action :: actions =>
      have := decidableAlong (step state action) actions
      inferInstanceAs (Decidable (_ ∧ _))

@[simp] theorem run_nil (state : σ) : run step state [] = state := rfl

@[simp] theorem run_cons (state : σ) (action : α) (actions : List α) :
    run step state (action :: actions) = run step (step state action) actions := rfl

theorem run_append (state : σ) (front back : List α) :
    run step state (front ++ back) = run step (run step state front) back :=
  List.foldl_append

@[simp] theorem run_concat (state : σ) (actions : List α) (last : α) :
    run step state (actions ++ [last]) = step (run step state actions) last :=
  run_append state actions [last]

theorem along_append (state : σ) (front back : List α) :
    Along step guard state (front ++ back) ↔
      Along step guard state front ∧ Along step guard (run step state front) back := by
  induction front generalizing state with
  | nil => simp [Along]
  | cons action front induction => simp [Along, induction, and_assoc]

theorem along_mono {weak : σ → α → Prop} {state : σ} {actions : List α}
    (implies : ∀ state action, guard state action → weak state action)
    (along : Along step guard state actions) : Along step weak state actions := by
  induction actions generalizing state with
  | nil => trivial
  | cons action actions induction =>
      exact ⟨implies state action along.1, induction along.2⟩

theorem along_and {guard' : σ → α → Prop} {state : σ} {actions : List α} :
    Along step (fun state action => guard state action ∧ guard' state action) state actions ↔
      Along step guard state actions ∧ Along step guard' state actions := by
  induction actions generalizing state with
  | nil => simp [Along]
  | cons action actions induction =>
      simp only [Along, induction]
      tauto

theorem along_of_forall_mem {holds : α → Prop} {actions : List α} (state : σ)
    (all : ∀ action ∈ actions, holds action) :
    Along step (fun _ action => holds action) state actions := by
  induction actions generalizing state with
  | nil => trivial
  | cons action actions induction =>
      exact ⟨all action List.mem_cons_self, induction _ fun other member =>
        all other (List.mem_cons_of_mem _ member)⟩

/-- What holds initially and survives every guarded step holds after every guarded run. -/
theorem invariant {holds : σ → Prop} {state : σ} {actions : List α}
    (preserved : ∀ state action, holds state → guard state action → holds (step state action))
    (initially : holds state) (along : Along step guard state actions) :
    holds (run step state actions) := by
  induction actions generalizing state with
  | nil => exact initially
  | cons action actions induction =>
      exact induction (preserved state action initially along.1) along.2

/-- The invariant rule for steps which need no guard. -/
theorem invariant_of_always {holds : σ → Prop} {state : σ}
    (preserved : ∀ state action, holds state → holds (step state action))
    (initially : holds state) (actions : List α) : holds (run step state actions) :=
  invariant (fun state action holds (_ : True) => preserved state action holds) initially
    (along_of_forall_mem state fun _ _ => trivial)

/-- Strengthen a guard by an invariant of the guarded steps. -/
theorem along_with_invariant {holds : σ → Prop} {state : σ} {actions : List α}
    (preserved : ∀ state action, holds state → guard state action → holds (step state action))
    (initially : holds state) (along : Along step guard state actions) :
    Along step (fun state action => holds state ∧ guard state action) state actions := by
  induction actions generalizing state with
  | nil => trivial
  | cons action actions induction =>
      exact ⟨⟨initially, along.1⟩, induction (preserved state action initially along.1) along.2⟩

/-- Where a step keeps a property exactly when it meets a guard, the property holds all along a
run exactly when every step meets it. -/
theorem throughout_iff_along {holds : σ → Prop} {allowed : σ → α → Prop}
    (kept : ∀ state action, holds state → allowed state action →
      (holds (step state action) ↔ guard state action))
    {state : σ} {actions : List α} (initially : holds state)
    (along : Along step allowed state actions) :
    (∀ front, front <+: actions → holds (run step state front)) ↔
      Along step guard state actions := by
  induction actions generalizing state with
  | nil =>
      refine ⟨fun _ => trivial, fun _ front before => ?_⟩
      rw [List.prefix_nil.mp before]
      exact initially
  | cons action actions induction =>
      have head := kept state action initially along.1
      constructor
      · intro throughout
        have next : holds (step state action) :=
          throughout [action] (List.cons_prefix_cons.mpr ⟨rfl, List.nil_prefix⟩)
        refine ⟨head.mp next, (induction next along.2).mp fun front before => ?_⟩
        exact throughout (action :: front) (List.cons_prefix_cons.mpr ⟨rfl, before⟩)
      · intro guarded front before
        cases front with
        | nil => exact initially
        | cons first front =>
            obtain ⟨rfl, shorter⟩ := List.cons_prefix_cons.mp before
            exact (induction (head.mpr guarded.1) along.2).mpr guarded.2 front shorter

/-- What a run brings about is brought about by one of its steps. -/
theorem exists_turning_point (holds : σ → Prop) {state : σ} {actions : List α}
    (before : ¬holds state) (after : holds (run step state actions)) :
    ∃ front action back, actions = front ++ action :: back ∧ ¬holds (run step state front) ∧
      holds (run step state (front ++ [action])) := by
  induction actions generalizing state with
  | nil => exact absurd after before
  | cons action actions induction =>
      by_cases now : holds (step state action)
      · exact ⟨[], action, actions, rfl, before, now⟩
      · obtain ⟨front, later, back, rfl, notYet, turned⟩ := induction now after
        exact ⟨action :: front, later, back, rfl, notYet, turned⟩

/-- What the steps of a run bring about, in their order. -/
def events (event : σ → α → Option ω) (step : σ → α → σ) : σ → List α → List ω
  | _, [] => []
  | state, action :: actions =>
      (event state action).toList ++ events event step (step state action) actions

theorem events_append (event : σ → α → Option ω) (state : σ) (front back : List α) :
    events event step state (front ++ back) =
      events event step state front ++ events event step (run step state front) back := by
  induction front generalizing state with
  | nil => rfl
  | cons action front induction => simp [events, induction]

theorem events_concat (event : σ → α → Option ω) (state : σ) (actions : List α) (last : α) :
    events event step state (actions ++ [last]) =
      events event step state actions ++ (event (run step state actions) last).toList := by
  rw [events_append, events, events, List.append_nil]

/-- Every event is brought about by one of the steps. -/
theorem exists_of_mem_events {event : σ → α → Option ω} {state : σ} {actions : List α}
    {happened : ω} (member : happened ∈ events event step state actions) :
    ∃ front action back, actions = front ++ action :: back ∧
      event (run step state front) action = some happened := by
  induction actions generalizing state with
  | nil => cases member
  | cons action actions induction =>
      rw [events, List.mem_append, Option.mem_toList] at member
      obtain now | later := member
      · exact ⟨[], action, actions, rfl, now⟩
      · obtain ⟨front, other, back, rfl, happens⟩ := induction later
        exact ⟨action :: front, other, back, rfl, happens⟩

/-- The machine which keeps what its steps bring about beside its state. -/
def logged (event : σ → α → Option ω) (step : σ → α → σ) : List ω × σ → α → List ω × σ
  | (log, state), action => (log ++ (event state action).toList, step state action)

theorem run_logged (event : σ → α → Option ω) (log : List ω) (state : σ) (actions : List α) :
    run (logged event step) (log, state) actions =
      (log ++ events event step state actions, run step state actions) := by
  induction actions generalizing log state with
  | nil => simp [events]
  | cons action actions induction => simp [logged, events, induction]

/-- What is brought about does not depend on what is kept beside the state. -/
theorem events_logged {ω' : Type} (event : σ → α → Option ω) (kept : σ → α → Option ω')
    (log : List ω') (state : σ) (actions : List α) :
    events (fun watched action => event watched.2 action) (logged kept step) (log, state) actions =
      events event step state actions := by
  induction actions generalizing log state with
  | nil => rfl
  | cons action actions induction => simp [logged, events, induction]

/-- A guard does not see what is kept beside the state. -/
theorem along_logged (event : σ → α → Option ω) (log : List ω) (state : σ) (actions : List α) :
    Along (logged event step) (fun watched action => guard watched.2 action) (log, state) actions ↔
      Along step guard state actions := by
  induction actions generalizing log state with
  | nil => exact Iff.rfl
  | cons action actions induction => exact and_congr_right fun _ => induction _ _

/-- What holds of a state and of the events so far, and survives every guarded step. -/
theorem invariant_events {event : σ → α → Option ω} {holds : List ω → σ → Prop}
    {state : σ} {actions : List α}
    (preserved : ∀ log state action, holds log state → guard state action →
      holds (log ++ (event state action).toList) (step state action))
    (initially : holds [] state) (along : Along step guard state actions) :
    holds (events event step state actions) (run step state actions) := by
  induction actions using List.reverseRecOn with
  | nil => exact initially
  | append_singleton actions last induction =>
      obtain ⟨before, now, _⟩ := (along_append state actions [last]).mp along
      rw [events_concat, run_concat]
      exact preserved _ _ last (induction before) now

/-- The answers to actions which stand for others. -/
theorem outputs_map {β : Type} (perform : σ → α → ω × σ) (act : β → α) (state : σ)
    (actions : List β) :
    outputs perform state (actions.map act) =
      outputs (fun state action => perform state (act action)) state actions := by
  induction actions generalizing state with
  | nil => rfl
  | cons action actions induction =>
      rw [List.map_cons, outputs, outputs, induction]
      rfl

/-- Two machines in step with each other give the same answers and stay in step. -/
theorem simulation {perform : σ → α → ω × σ} {perform' : τ → α → ω × τ}
    {related : σ → τ → Prop} {guard : σ → α → Prop}
    (simulates : ∀ state state' action, related state state' → guard state action →
      (perform state action).1 = (perform' state' action).1 ∧
        related (next perform state action) (next perform' state' action))
    {state : σ} {state' : τ} {actions : List α} (initially : related state state')
    (along : Along (next perform) guard state actions) :
    outputs perform state actions = outputs perform' state' actions ∧
      related (run (next perform) state actions) (run (next perform') state' actions) := by
  induction actions generalizing state state' with
  | nil => exact ⟨rfl, initially⟩
  | cons action actions induction =>
      obtain ⟨answers, after⟩ := simulates state state' action initially along.1
      obtain ⟨later, finally_related⟩ := induction after along.2
      exact ⟨by rw [outputs, outputs, answers, later], finally_related⟩

/-- Two machines in step with each other on these actions, whose answers correspond. -/
theorem simulation_forall₂ {ω' : Type} {perform : σ → α → ω × σ} {perform' : τ → α → ω' × τ}
    {related : σ → τ → Prop} {corresponds : ω → ω' → Prop} {actions : List α}
    (simulates : ∀ state state', ∀ action ∈ actions, related state state' →
      corresponds (perform state action).1 (perform' state' action).1 ∧
        related (next perform state action) (next perform' state' action))
    {state : σ} {state' : τ} (initially : related state state') :
    List.Forall₂ corresponds (outputs perform state actions) (outputs perform' state' actions) ∧
      related (run (next perform) state actions) (run (next perform') state' actions) := by
  induction actions generalizing state state' with
  | nil => exact ⟨.nil, initially⟩
  | cons action actions induction =>
      obtain ⟨answers, after⟩ := simulates state state' action List.mem_cons_self initially
      obtain ⟨later, finally_related⟩ := induction
        (fun state state' other member => simulates state state' other
          (List.mem_cons_of_mem _ member)) after
      exact ⟨.cons answers later, finally_related⟩

/-! ## The last of a list -/

/-- The last member with an image, after one more member. -/
theorem findSome?_reverse_concat (image : α → Option ω) (list : List α) (last : α) :
    (list ++ [last]).reverse.findSome? image = (image last).or (list.reverse.findSome? image) := by
  rw [List.reverse_append, List.reverse_singleton, List.singleton_append, List.findSome?_cons]
  cases image last with
  | none => rfl
  | some found => rfl

/-! ## Opening and closing events -/

/-- How many openings a log leaves open, when every closing closes one of them. -/
def outstanding (opens closes : α → Bool) (log : List α) : Nat :=
  log.foldl (fun count event =>
    if opens event then count + 1 else if closes event then count - 1 else count) 0

@[simp] theorem outstanding_nil (opens closes : α → Bool) : outstanding opens closes [] = 0 := rfl

@[simp] theorem outstanding_concat (opens closes : α → Bool) (log : List α) (event : α) :
    outstanding opens closes (log ++ [event]) =
      if opens event then outstanding opens closes log + 1
      else if closes event then outstanding opens closes log - 1
      else outstanding opens closes log := by
  rw [outstanding, List.foldl_append]
  rfl

/-! ## Replacing one of several threads -/

/-- Replacing one member of a list changes a count by that member alone. -/
theorem countP_set_add {threads : List α} {index : Nat} {thread : α}
    (found : threads[index]? = some thread) (next : α) (test : α → Bool) :
    (threads.set index next).countP test + (if test thread then 1 else 0) =
      threads.countP test + if test next then 1 else 0 := by
  obtain ⟨below, rfl⟩ := List.getElem?_eq_some_iff.mp found
  rw [List.countP_set below]
  split
  · rename_i passes
    have positive : 0 < threads.countP test :=
      List.countP_pos_iff.mpr ⟨threads[index], List.getElem_mem below, passes⟩
    omega
  · omega

/-- What holds of every member still does when one is replaced by another of which it holds. -/
theorem forall_mem_set {holds : α → Prop} {threads : List α}
    (all : ∀ thread ∈ threads, holds thread) {index : Nat} {next : α} (own : holds next) :
    ∀ thread ∈ threads.set index next, holds thread := by
  intro thread member
  obtain old | rfl := List.mem_or_eq_of_mem_set member
  · exact all thread old
  · exact own

/-- A member of a list of which one member has been replaced. -/
theorem getElem?_set_cases {threads : List α} {index other : Nat} {thread next found : α}
    (here : threads[index]? = some thread) (there : (threads.set index next)[other]? = some found) :
    (other = index ∧ found = next) ∨ (other ≠ index ∧ threads[other]? = some found) := by
  by_cases same : index = other
  · subst same
    rw [List.getElem?_set_self (List.getElem?_eq_some_iff.mp here).1] at there
    exact .inl ⟨rfl, (Option.some.inj there).symm⟩
  · rw [List.getElem?_set_ne same] at there
    exact .inr ⟨Ne.symm same, there⟩

/-- A member of a list to which one has been added. -/
theorem getElem?_concat_cases {threads : List α} {index : Nat} {last found : α}
    (there : (threads ++ [last])[index]? = some found) :
    threads[index]? = some found ∨ (index = threads.length ∧ found = last) := by
  by_cases below : index < threads.length
  · rw [List.getElem?_append_left below] at there
    exact .inl there
  · rw [List.getElem?_append_right (Nat.le_of_not_lt below)] at there
    obtain ⟨zero, rfl⟩ := List.getElem?_eq_some_iff.mp there
    simp only [List.length_singleton] at zero
    exact .inr ⟨by omega, by simp⟩

end Execution
