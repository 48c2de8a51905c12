import Cosmac.Proofs.Machine.Operation
import Cosmac.Proofs.Recognition

/-!
# Monitored machines

Listeners are told of events and work with registrations, not with the machine: what a delivery
does is the same whatever the machine (`Monitored.deliver_withMachine`), and listeners that only
observe change nothing (`Monitored.step_of_observes`, `Monitored.tick_of_observes`). `Request` is
what a host can ask of a machine with its listeners, and `Monitored.respond` what comes of it.
-/

set_option autoImplicit false

namespace Cosmac

namespace Monitored

variable {m : Monitored}

/-- The listeners of a machine with another machine. -/
def withMachine (m : Monitored) (machine : Machine) : Monitored :=
  { m with machine := machine }

/-! ### Deliveries -/

theorem registrations_withMachine (m : Monitored) (machine : Machine) (kind : EventKind) :
    (m.withMachine machine).registrations kind = m.registrations kind := by
  cases kind <;> rfl

theorem unlisten_withMachine (m : Monitored) (machine : Machine) (kind : EventKind)
    (listener : Listener) :
    (m.withMachine machine).unlisten kind listener =
      (m.unlisten kind listener).map (·.withMachine machine) := by
  rw [unlisten, unlisten]
  cases kind with
  | diagnostic | tone =>
    simp only [registrations, withMachine]
    cases unregister listener _ <;> rfl

/-- Taking back a registration leaves the machine alone. -/
theorem machine_of_unlisten {after : Monitored} {kind : EventKind} {listener : Listener}
    (hunlisten : m.unlisten kind listener = .ok after) : after.machine = m.machine := by
  rw [unlisten] at hunlisten
  cases hregistrations : unregister listener (m.registrations kind) with
  | error cause =>
    rw [hregistrations] at hunlisten
    cases hunlisten
  | ok listeners =>
    rw [hregistrations] at hunlisten
    cases hunlisten
    cases kind <;> rfl

/-- A listener that is called does the same whatever the machine. -/
theorem react_withMachine (listener : Listener) (m : Monitored) (machine : Machine) :
    react listener (m.withMachine machine) =
      (react listener m).map (·.withMachine machine) := by
  rw [react, react, unlisten_withMachine]
  split_ifs
  · cases m.unlisten listener.home listener <;> rfl
  · rfl

theorem deliverTo_withMachine (listeners : List Listener) (m : Monitored) (machine : Machine) :
    deliverTo react listeners (m.withMachine machine) =
      let delivery := deliverTo react listeners m
      { delivery with state := delivery.state.withMachine machine } := by
  induction listeners generalizing m with
  | nil => rfl
  | cons listener rest ih =>
    rw [deliverTo, deliverTo, react_withMachine]
    cases react listener m with
    | none => rfl
    | some after =>
      simp only [Option.map_some, ih]

/-- A delivery does the same whatever the machine. -/
theorem deliver_withMachine (m : Monitored) (machine : Machine) (kind : EventKind) (event : Event) :
    (m.withMachine machine).deliver kind event =
      let delivery := m.deliver kind event
      (delivery.1, delivery.2.1, delivery.2.2.withMachine machine) := by
  rw [deliver, deliver, registrations_withMachine, deliverTo_withMachine]

/-! ### Observers -/

/-- Observers are all told of an event and change nothing. -/
theorem deliver_of_observes {kind : EventKind} (event : Event)
    (hobserve : ∀ listener ∈ m.registrations kind, listener.observes = true) :
    m.deliver kind event = (true, (m.registrations kind).map (⟨·, event⟩), m) := by
  rw [deliver, deliverTo_of_observes _ _ hobserve]

/-- A step whose diagnostic goes to observers. -/
theorem step_of_observes
    (hobserve : ∀ listener ∈ m.forDiagnostics, listener.observes = true) :
    m.step = (.ok m.machine.step.1,
      m.machine.step.1.diagnostics.flatMap fun event ↦
        m.forDiagnostics.map (⟨·, .diagnostic event⟩),
      m.withMachine m.machine.step.2) := by
  have hdeliver (machine : Machine) (event : Event) :
      { m with machine := machine }.deliver .diagnostic event =
        (true, m.forDiagnostics.map (⟨·, event⟩), { m with machine := machine }) :=
    deliver_of_observes event hobserve
  rw [step]
  generalize m.machine.step = result
  obtain ⟨outcome, after⟩ := result
  cases outcome with
  | executed word diagnostic =>
    cases diagnostic with
    | none => rfl
    | some event =>
      simp only [hdeliver, Outcome.diagnostics, List.flatMap_singleton]
      rfl
  | faulted | refused => rfl

/-- A tick whose tone goes to observers. -/
theorem tick_of_observes (hobserve : ∀ listener ∈ m.forTones, listener.observes = true) :
    m.tick = (.ok m.machine.tick.1,
      if m.machine.tick.1 then m.forTones.map (⟨·, .tone⟩) else [],
      m.withMachine m.machine.tick.2) := by
  have hdeliver (machine : Machine) :
      { m with machine := machine }.deliver .tone .tone =
        (true, m.forTones.map (⟨·, .tone⟩), { m with machine := machine }) :=
    deliver_of_observes .tone hobserve
  rw [tick]
  generalize m.machine.tick = result
  obtain ⟨tone, after⟩ := result
  cases tone with
  | false => rfl
  | true =>
    simp only [hdeliver]
    rfl

/-- Takes up to the given number of steps and stops after one that does not execute a word or whose
diagnostic makes a listener fail. -/
def run (m : Monitored) : Nat → List (Except ListenerError Outcome) × List Notice × Monitored
  | 0 => ([], [], m)
  | count + 1 =>
    match m.step with
    | (.ok (.executed word diagnostic), notices, after) =>
      let (results, later, final) := after.run count
      (.ok (.executed word diagnostic) :: results, notices ++ later, final)
    | (stopped, notices, after) => ([stopped], notices, after)

end Monitored

/-! ### Requests -/

/-- Whether an operation is carried out, which depends on the operation alone: keys must exist and
programs must fit. -/
def Operation.isAccepted : Operation → Bool
  | ask (.press number) | ask (.release number) => 0 ≤ number && number < 16
  | ask (.load bytes) => bytes.size ≤ maxProgramSize
  | ask _ | resetKeypad | moveTo _ => true

/-- What a host can ask of a machine with its listeners. -/
inductive Request where
  /-- Carries out an operation on the machine. -/
  | operate (operation : Operation)
  /-- Adds a registration. -/
  | listen (kind : EventKind) (listener : Listener)
  /-- Takes back a registration. -/
  | unlisten (kind : EventKind) (listener : Listener)

/-- What a host gets to see of a request. -/
structure Response where
  /-- What came of each step. -/
  steps : List (Except ListenerError Outcome) := []
  /-- What came of a tick, if the timers were counted down. -/
  tone : Option (Except ListenerError Bool) := none
  /-- Whether the request was carried out. -/
  isAccepted : Bool := true
  /-- The listeners that were called, in order. -/
  notices : List Notice := []

namespace Monitored

/-- What comes of a request. -/
def respond (m : Monitored) : Request → Response × Monitored
  | .operate (.ask .step) =>
    let (result, notices, after) := m.step
    ({ steps := [result], notices := notices }, after)
  | .operate (.ask (.run count)) =>
    let (results, notices, after) := m.run count.toNat
    ({ steps := results, notices := notices }, after)
  | .operate (.ask .tick) =>
    let (tone, notices, after) := m.tick
    ({ tone := some tone, notices := notices }, after)
  | .operate operation =>
    ({ isAccepted := operation.isAccepted }, m.withMachine (m.machine.operate operation))
  | .listen kind listener => ({}, m.listen kind listener)
  | .unlisten kind listener =>
    match m.unlisten kind listener with
    | .ok after => ({}, after)
    | .error _ => ({ isAccepted := false }, m)

/-- What comes of requests one after the other. -/
def respondAll (m : Monitored) : List Request → List Response × Monitored
  | [] => ([], m)
  | request :: rest =>
    let (response, after) := m.respond request
    let (responses, final) := after.respondAll rest
    (response :: responses, final)

theorem respondAll_cons (m : Monitored) (request : Request) (rest : List Request) :
    m.respondAll (request :: rest) =
      ((m.respond request).1 :: ((m.respond request).2.respondAll rest).1,
        ((m.respond request).2.respondAll rest).2) :=
  rfl

end Monitored

end Cosmac
