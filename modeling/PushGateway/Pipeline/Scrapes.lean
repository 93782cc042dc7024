import PushGateway.Pipeline.Pushes

/-!
# Scrapes beside requests

The counters are loaded one by one while requests go on, so a scrape is of no single moment.  Still
each of its numbers is exact for the moment of its own load, and no later scrape shows a smaller
one.
-/

namespace PushGateway

open Execution

variable {Guard DocumentDigest : Type} [ReplayGuard Guard String DocumentDigest Answer]

/-- When a scrape begins and ends, and when it loads each counter, in steps of the gateway. -/
structure Scrape where
  begins : Nat
  ends : Nat
  loads : Counter → Nat
  after_begin : ∀ counter, begins ≤ loads counter
  before_end : ∀ counter, loads counter ≤ ends

/-- The counter of an outcome. -/
def Counter.ofOutcome : SendOutcome → Counter
  | .delivered => .wakeDelivered
  | .transientFailure => .wakeTransientFailure
  | .permanentlyUnregistered => .wakeTokenUnregistered

namespace Server

variable (crates : Crates DocumentDigest)

/-- What a scrape loads during a run. -/
def scraped (start : Server Guard DocumentDigest) (actions : List ServerAction) (scrape : Scrape)
    (counter : Counter) : Nat :=
  (run (step crates) start (actions.take (scrape.loads counter))).app.metrics.load counter

theorem load_mono (start : Server Guard DocumentDigest) (actions : List ServerAction)
    {earlier later : Nat} (follows : earlier ≤ later) (counter : Counter) :
    (run (step crates) start (actions.take earlier)).app.metrics.load counter ≤
      (run (step crates) start (actions.take later)).app.metrics.load counter := by
  have split := List.take_append_drop earlier (actions.take later)
  rw [List.take_take, Nat.min_eq_left follows] at split
  rw [← split, run_append]
  exact (counts_run crates _ _).grows counter

/-- Without its token the management listener tells nothing.  With it, a scraper reads all counters
off the text, each as it was when it was loaded: those of wakes say how many pushes had come to
their outcome by then, and none is smaller in a later scrape. -/
theorem scrapes_tell (start : Server Guard DocumentDigest) (actions : List ServerAction)
    (token : List UInt8) (scrape : Scrape) :
    let load := scraped crates start actions scrape
    (∀ authorization, ¬(authorization = some (bearer ++ token) ∧ isVisible token = true) →
      ∀ route other route', metricsRouter (some token) load route authorization =
        metricsRouter (some token) other route' authorization) ∧
    (∀ configured authorization, (∀ expected, configured = some expected →
        authorization = some (bearer ++ expected) ∧ isVisible expected = true) →
      readSamples (metricsRouter configured load .metrics authorization).body =
        Counter.all.map fun counter => (counter.series, load counter)) ∧
    (∀ outcome, load (.ofOutcome outcome) = start.app.metrics.count outcome +
      (events push (step crates) start (actions.take (scrape.loads (.ofOutcome outcome)))).countP
        fun push => decide (push.outcome = some outcome)) ∧
    ∀ later : Scrape, scrape.ends ≤ later.begins → ∀ counter,
      load counter ≤ scraped crates start actions later counter := by
  intro load
  refine ⟨fun authorization without route other route' => ?_,
    fun configured authorization permitted => ?_, fun outcome => ?_,
    fun later follows counter => ?_⟩
  · have refused : presented authorization ≠ some token :=
      fun given => without ((presented_eq_some_iff authorization token).mp given)
    simp only [metricsRouter, requireBearer_eq, if_neg refused]
  · rw [← readSamples_render]
    cases configured with
    | none => rfl
    | some expected =>
        have given := (presented_eq_some_iff authorization expected).mpr (permitted expected rfl)
        simp only [metricsRouter, requireBearer_eq, if_pos given]
  · have counted := (counts_run crates start
      (actions.take (scrape.loads (.ofOutcome outcome)))).counted outcome
    cases outcome with
    | delivered | transientFailure | permanentlyUnregistered => exact counted
  · refine load_mono crates start actions ?_ counter
    exact Nat.le_trans (scrape.before_end counter)
      (Nat.le_trans follows (later.after_begin counter))

private def scrapedWakes : List ServerAction :=
  let wake (id : String) : Delivery :=
    ⟨smallSurroundings "did:web:trigger.example" 0 .delivered, none, smallBody, smallWake id⟩
  [.receive (wake "first"), .receive (wake "second"), .advance 0, .advance 1, .advance 0,
    .advance 1, .advance 0, .advance 1]

/-- The first wake is delivered before its counter is loaded, and the second one after that. -/
private def earlyScrape : Scrape where
  begins := 5
  ends := 7
  loads
    | .wakeDelivered => 7
    | _ => 5
  after_begin counter := by cases counter <;> decide
  before_end counter := by cases counter <;> decide

private def lateScrape : Scrape where
  begins := 8
  ends := 8
  loads _ := 8
  after_begin _ := Nat.le_refl _
  before_end _ := Nat.le_refl _

theorem scrapes_tell_twice :
    (∀ outcome, scraped plainCrates (opened smallGateway) scrapedWakes earlyScrape
        (.ofOutcome outcome) = smallGateway.metrics.count outcome +
      (events push (step plainCrates) (opened smallGateway)
        (scrapedWakes.take (earlyScrape.loads (.ofOutcome outcome)))).countP
          fun push => decide (push.outcome = some outcome)) ∧
    ∀ counter, scraped plainCrates (opened smallGateway) scrapedWakes earlyScrape counter ≤
      scraped plainCrates (opened smallGateway) scrapedWakes lateScrape counter :=
  have tells := scrapes_tell plainCrates (opened smallGateway) scrapedWakes [] earlyScrape
  ⟨tells.2.2.1, tells.2.2.2 lateScrape (by decide)⟩

example :
    scraped plainCrates (opened smallGateway) scrapedWakes earlyScrape .wakeDelivered = 1 ∧
      scraped plainCrates (opened smallGateway) scrapedWakes lateScrape .wakeDelivered = 2 := by
  decide +kernel

end Server

end PushGateway
