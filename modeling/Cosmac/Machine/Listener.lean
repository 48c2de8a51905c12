import Cosmac.Machine.Step

/-!
# Listeners

A host registers listeners for two kinds of events: diagnostics and sounding ticks. An event goes
to every registration that is present when it occurs, in order of registration, whatever the
listeners do to the registrations meanwhile, unless one of them fails. `Monitored` is a machine with
its registrations.
-/

set_option autoImplicit false

namespace Cosmac

/-! ### Delivery -/

/-- What has come of calling listeners. -/
structure Delivery (ι σ : Type) where
  /-- The listeners that were called, in order. -/
  called : List ι
  /-- The state that they left. -/
  state : σ
  /-- Whether none of them failed. -/
  isComplete : Bool

/-- Calls listeners in order, up to the first that fails. `react` is what a call does to the state,
unless it fails. -/
def deliverTo {ι σ : Type} (react : ι → σ → Option σ) : List ι → σ → Delivery ι σ
  | [], state => ⟨[], state, true⟩
  | listener :: rest, state =>
    match react listener state with
    | none => ⟨[listener], state, false⟩
    | some after =>
      let delivery := deliverTo react rest after
      { delivery with called := listener :: delivery.called }

/-! ### Registrations -/

/-- The kinds of events. -/
inductive EventKind where
  | diagnostic
  | tone
  deriving DecidableEq, Repr

/-- A listener by its name. One that listens only once takes back one of its registrations whenever
it is called. -/
structure Listener where
  /-- What the listener is known by. -/
  name : String
  /-- Whether a call takes back a registration. -/
  once : Bool
  /-- The kind of events for which a call takes back a registration. -/
  home : EventKind
  deriving DecidableEq, Repr

/-- Why a registration cannot be taken back. -/
inductive ListenerError where
  /-- There is none. -/
  | notRegistered
  deriving DecidableEq, Repr

/-- The wording of an error. -/
def ListenerError.message : ListenerError → String
  | notRegistered => "list.remove(x): x not in list"

/-- Registrations without the first one of a listener. -/
def unregister {ι : Type} [DecidableEq ι] (listener : ι) (registrations : List ι) :
    Except ListenerError (List ι) :=
  if listener ∈ registrations then .ok (registrations.erase listener) else .error .notRegistered

/-! ### Monitored machines -/

/-- An event as a listener receives it. -/
inductive Event where
  | diagnostic (event : Diagnostic)
  | tone
  deriving DecidableEq, Repr

/-- A call of a listener. -/
structure Notice where
  /-- Who was called. -/
  listener : Listener
  /-- What it was told. -/
  event : Event
  deriving DecidableEq, Repr

/-- A machine and the registrations of its listeners. -/
structure Monitored where
  /-- The machine. -/
  machine : Machine
  /-- The registrations for diagnostics. -/
  forDiagnostics : List Listener
  /-- The registrations for sounding ticks. -/
  forTones : List Listener

namespace Monitored

/-- A machine nobody listens to. -/
def ofMachine (machine : Machine) : Monitored :=
  ⟨machine, [], []⟩

/-- The registrations for a kind of event. -/
def registrations (m : Monitored) : EventKind → List Listener
  | .diagnostic => m.forDiagnostics
  | .tone => m.forTones

/-- Replaces the registrations for a kind of event. -/
def withRegistrations (m : Monitored) (kind : EventKind) (listeners : List Listener) :
    Monitored :=
  match kind with
  | .diagnostic => { m with forDiagnostics := listeners }
  | .tone => { m with forTones := listeners }

/-- Adds a registration. -/
def listen (m : Monitored) (kind : EventKind) (listener : Listener) : Monitored :=
  m.withRegistrations kind (m.registrations kind ++ [listener])

/-- Takes back the first registration of a listener. -/
def unlisten (m : Monitored) (kind : EventKind) (listener : Listener) :
    Except ListenerError Monitored :=
  (unregister listener (m.registrations kind)).map (m.withRegistrations kind)

/-- What a call of a listener does to the registrations. -/
def react (listener : Listener) (m : Monitored) : Option Monitored :=
  if listener.once then (m.unlisten listener.home listener).toOption else some m

/-- Sends an event to the listeners of its kind. -/
def deliver (m : Monitored) (kind : EventKind) (event : Event) :
    Bool × List Notice × Monitored :=
  let delivery := deliverTo react (m.registrations kind) m
  (delivery.isComplete, delivery.called.map (⟨·, event⟩), delivery.state)

/-- Takes a step and reports a diagnostic, if one arose. Where a listener fails, the diagnostic is
remembered and the step is not completed. -/
def step (m : Monitored) : Except ListenerError Outcome × List Notice × Monitored :=
  match m.machine.step with
  | (.executed word (some event), after) =>
    let reported := { m with machine := m.machine.report event }
    match reported.deliver .diagnostic (.diagnostic event) with
    | (true, notices, m) =>
      (.ok (.executed word (some event)), notices, { m with machine := after })
    | (false, notices, m) => (.error .notRegistered, notices, m)
  | (outcome, after) => (.ok outcome, [], { m with machine := after })

/-- Counts the timers down and reports a tone, if one sounded. -/
def tick (m : Monitored) : Except ListenerError Bool × List Notice × Monitored :=
  match m.machine.tick with
  | (true, machine) =>
    match { m with machine := machine }.deliver .tone .tone with
    | (true, notices, m) => (.ok true, notices, m)
    | (false, notices, m) => (.error .notRegistered, notices, m)
  | (false, machine) => (.ok false, [], { m with machine := machine })

end Monitored

end Cosmac
