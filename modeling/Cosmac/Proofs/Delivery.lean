import Cosmac.Proofs.Countdown

/-!
# Delivery of events

Listeners may change the registrations while they are told of an event: a `Conduct` says which
registrations each of them adds and whether it takes back one of its own. An event goes to the
registrations that are present when it occurs, to each of them once and in their order, whatever
such listeners do meanwhile, and if some listeners take back one registration whenever they are
called, those of the others are left (`Monitored.events_reach_registrations`). What carries this is
a count: a listener that has yet to be called so many times has at least as many registrations. With
the listeners of a monitored machine this is what its steps and ticks do
(`Monitored.happen_plain_step`, `Monitored.happen_plain_tick`).
-/

set_option autoImplicit false

namespace Cosmac

/-! ### Calls in the course of a delivery -/

section Calls

variable {ι σ : Type} {react : ι → σ → Option σ}

/-- In the course of calling listeners from a state on, a listener is called in another state. -/
inductive IsCalledIn (react : ι → σ → Option σ) : List ι → σ → ι → σ → Prop
  | first (listener : ι) (rest : List ι) (state : σ) :
      IsCalledIn react (listener :: rest) state listener state
  | later {first : ι} {rest : List ι} {state next : σ} {listener : ι} {final : σ}
      (hreact : react first state = some next) (hrest : IsCalledIn react rest next listener final) :
      IsCalledIn react (first :: rest) state listener final

theorem deliverTo_of_react {first : ι} {state next : σ} (hreact : react first state = some next)
    (rest : List ι) :
    deliverTo react (first :: rest) state =
      { deliverTo react rest next with called := first :: (deliverTo react rest next).called } := by
  rw [deliverTo, hreact]

end Calls

/-! ### Conduct -/

/-- The kind of an event. -/
def Event.kind : Event → EventKind
  | .diagnostic _ => .diagnostic
  | .tone => .tone

/-- What a listener does to the registrations while it is called. It adds some, may take back one of
its own, and adds some more. -/
structure Answer where
  /-- The registrations that it adds first. -/
  before : List (EventKind × Listener) := []
  /-- The kind of events for which it takes back its first registration, if it does. -/
  takenBack : Option EventKind := none
  /-- The registrations that it adds last. -/
  after : List (EventKind × Listener) := []

/-- The registrations that are added for a kind of events. -/
def Answer.addedTo (kind : EventKind) (added : List (EventKind × Listener)) : List Listener :=
  (added.filter (·.1 = kind)).map Prod.snd

/-- How listeners behave, in view of what they remember, of the machine and of its registrations. -/
structure Conduct (σ : Type) where
  /-- What a listener does to the registrations when it is told of an event. -/
  answer : Listener → Event → σ × Monitored → Answer
  /-- What the listeners remember after the call. -/
  memory : Listener → Event → σ × Monitored → σ

namespace Monitored

variable {m after : Monitored} {listener : Listener} {answer : Answer}

/-- Whether there are at least as many registrations for a kind of events as listeners to be called,
listener by listener. -/
def HasEnough (m : Monitored) (kind : EventKind) (listeners : List Listener) : Prop :=
  ∀ listener, listeners.count listener ≤ (m.registrations kind).count listener

/-- Adds registrations one after the other. -/
def listenAll (m : Monitored) (added : List (EventKind × Listener)) : Monitored :=
  added.foldl (fun m registration ↦ m.listen registration.1 registration.2) m

/-- Makes the changes of a listener. It fails if there is nothing to take back. -/
def accept (m : Monitored) (listener : Listener) (answer : Answer) : Option Monitored :=
  match answer.takenBack with
  | none => some ((m.listenAll answer.before).listenAll answer.after)
  | some kind =>
    ((m.listenAll answer.before).unlisten kind listener).toOption.map (·.listenAll answer.after)

/-- Added registrations come last. -/
theorem registrations_listenAll (m : Monitored) (added : List (EventKind × Listener))
    (kind : EventKind) :
    (m.listenAll added).registrations kind =
      m.registrations kind ++ Answer.addedTo kind added := by
  induction added generalizing m with
  | nil => exact (List.append_nil _).symm
  | cons registration rest ih =>
    refine (ih (m.listen registration.1 registration.2)).trans ?_
    rw [listen, registrations_withRegistrations, Answer.addedTo, Answer.addedTo]
    by_cases hkind : registration.1 = kind
    · simp [hkind]
    · simp [hkind, Ne.symm hkind]

theorem unlisten_of_mem {kind : EventKind} (hmem : listener ∈ m.registrations kind) :
    m.unlisten kind listener =
      .ok (m.withRegistrations kind ((m.registrations kind).erase listener)) := by
  rw [unlisten, unregister, if_pos hmem]
  rfl

/-- What the changes of a listener leave, if it has what it takes back. -/
theorem exists_accept_eq
    (hown : ∀ kind, answer.takenBack = some kind →
      listener ∈ (m.listenAll answer.before).registrations kind) :
    ∃ after, m.accept listener answer = some after ∧
      ∀ kind, after.registrations kind =
        (if answer.takenBack = some kind then
          ((m.listenAll answer.before).registrations kind).erase listener
        else (m.listenAll answer.before).registrations kind) ++
          Answer.addedTo kind answer.after := by
  rw [accept]
  cases htakenBack : answer.takenBack with
  | none =>
    refine ⟨_, rfl, fun kind ↦ ?_⟩
    rw [registrations_listenAll, if_neg nofun]
  | some kind =>
    simp only [unlisten_of_mem (hown kind htakenBack)]
    refine ⟨_, rfl, fun other ↦ ?_⟩
    rw [registrations_listenAll, registrations_withRegistrations]
    by_cases hkind : other = kind
    · rw [if_pos hkind, if_pos (congrArg some hkind.symm), hkind]
    · rw [if_neg hkind, if_neg fun h ↦ hkind (Option.some.inj h).symm]

end Monitored

namespace Conduct

variable {σ : Type} {conduct : Conduct σ} {event : Event}

/-- What a call of a listener does. -/
def call (conduct : Conduct σ) (event : Event) (listener : Listener) (state : σ × Monitored) :
    Option (σ × Monitored) :=
  (state.2.accept listener (conduct.answer listener event state)).map
    (conduct.memory listener event state, ·)

/-- Whether listeners that take back a registration for events of another kind have one whenever
they are called. -/
def HasElsewhere (conduct : Conduct σ) (event : Event) (listeners : List Listener)
    (start : σ × Monitored) : Prop :=
  ∀ listener state, IsCalledIn (conduct.call event) listeners start listener state →
    ∀ kind, kind ≠ event.kind → (conduct.answer listener event state).takenBack = some kind →
      listener ∈
        (state.2.listenAll (conduct.answer listener event state).before).registrations kind

/-- Whether chosen listeners take back one registration for an event whenever they are told of it,
and the registrations for such events are changed in no other way. -/
def TakesBackJust (conduct : Conduct σ) (chosen : Listener → Bool) (event : Event)
    (listeners : List Listener) (start : σ × Monitored) : Prop :=
  ∀ listener state, IsCalledIn (conduct.call event) listeners start listener state →
    ((conduct.answer listener event state).takenBack = some event.kind ↔ chosen listener = true) ∧
      Answer.addedTo event.kind (conduct.answer listener event state).before = [] ∧
      Answer.addedTo event.kind (conduct.answer listener event state).after = []

variable {first listener : Listener} {rest listeners : List Listener} {state next : σ × Monitored}

theorem HasElsewhere.of_call (helsewhere : conduct.HasElsewhere event (first :: rest) state)
    (hcall : conduct.call event first state = some next) :
    conduct.HasElsewhere event rest next :=
  fun listener final hcalled ↦ helsewhere listener final (.later hcall hcalled)

theorem TakesBackJust.of_call {chosen : Listener → Bool}
    (hjust : conduct.TakesBackJust chosen event (first :: rest) state)
    (hcall : conduct.call event first state = some next) :
    conduct.TakesBackJust chosen event rest next :=
  fun listener final hcalled ↦ hjust listener final (.later hcall hcalled)

/-- A listener with enough registrations goes through with a call, and there are enough of them for
the calls to come. -/
theorem exists_call_eq (helsewhere : conduct.HasElsewhere event (first :: rest) state)
    (henough : state.2.HasEnough event.kind (first :: rest)) :
    let answer := conduct.answer first event state
    let added := (state.2.listenAll answer.before).registrations event.kind
    ∃ next, conduct.call event first state = some next ∧
      next.2.registrations event.kind =
        (if answer.takenBack = some event.kind then added.erase first else added) ++
          Answer.addedTo event.kind answer.after ∧
      next.2.HasEnough event.kind rest := by
  intro answer added
  have hadded : added =
      state.2.registrations event.kind ++ Answer.addedTo event.kind answer.before :=
    Monitored.registrations_listenAll state.2 answer.before event.kind
  have hown : ∀ kind, answer.takenBack = some kind →
      first ∈ (state.2.listenAll answer.before).registrations kind := by
    intro kind htakenBack
    by_cases hkind : kind = event.kind
    · have hfirst := henough first
      rw [List.count_cons_self] at hfirst
      have hmem : first ∈ state.2.registrations event.kind :=
        List.count_pos_iff.mp (Nat.lt_of_lt_of_le (Nat.succ_pos _) hfirst)
      rw [hkind, Monitored.registrations_listenAll]
      exact List.mem_append_left _ hmem
    · exact helsewhere first state (.first first rest state) kind hkind htakenBack
  obtain ⟨after, haccept, hregistrations⟩ := Monitored.exists_accept_eq hown
  have hafter : after.registrations event.kind =
      (if answer.takenBack = some event.kind then added.erase first else added) ++
        Answer.addedTo event.kind answer.after := hregistrations event.kind
  refine ⟨(conduct.memory first event state, after), ?_, hafter, fun listener ↦ ?_⟩
  · rw [call, haccept]
    rfl
  · have hbefore := henough listener
    rw [List.count_cons] at hbefore
    rw [hafter, List.count_append]
    split_ifs
    · rw [List.count_erase, hadded, List.count_append]
      omega
    · rw [hadded, List.count_append]
      omega

/-- Listeners with enough registrations all go through with their calls. -/
theorem isComplete_deliverTo (helsewhere : conduct.HasElsewhere event listeners state)
    (henough : state.2.HasEnough event.kind listeners) :
    (deliverTo (conduct.call event) listeners state).isComplete = true := by
  induction listeners generalizing state with
  | nil => rfl
  | cons first rest ih =>
    obtain ⟨next, hcall, -, hleft⟩ := exists_call_eq helsewhere henough
    rw [deliverTo_of_react hcall]
    exact ih (helsewhere.of_call hcall) hleft

/-- If chosen listeners are called as often as they are registered and take back one registration
each time, the registrations of the others are left. -/
theorem registrations_deliverTo {chosen : Listener → Bool}
    (helsewhere : conduct.HasElsewhere event listeners state)
    (henough : state.2.HasEnough event.kind listeners)
    (hjust : conduct.TakesBackJust chosen event listeners state)
    (hchosen : ∀ listener, chosen listener = true →
      (state.2.registrations event.kind).count listener = listeners.count listener) :
    (deliverTo (conduct.call event) listeners state).state.2.registrations event.kind =
      (state.2.registrations event.kind).filter (!chosen ·) := by
  induction listeners generalizing state with
  | nil =>
    refine (List.filter_eq_self.mpr fun listener hlistener ↦ ?_).symm
    have hnone : chosen listener ≠ true := fun h ↦
      List.count_eq_zero.mp (hchosen listener h) hlistener
    rw [Bool.not_eq_true _ |>.mp hnone]
    rfl
  | cons first rest ih =>
    obtain ⟨next, hcall, hregistrations, hleft⟩ := exists_call_eq helsewhere henough
    obtain ⟨htakes, hbefore, hafter⟩ := hjust first state (.first first rest state)
    rw [Monitored.registrations_listenAll, hbefore, hafter, List.append_nil, List.append_nil]
      at hregistrations
    have hlater := ih (helsewhere.of_call hcall) hleft (hjust.of_call hcall)
    rw [deliverTo_of_react hcall]
    by_cases hfirst : chosen first = true
    · rw [if_pos (htakes.mpr hfirst)] at hregistrations
      refine (hlater fun listener h ↦ ?_).trans ?_
      · rw [hregistrations, List.count_erase, hchosen listener h, List.count_cons]
        exact Nat.add_sub_cancel _ _
      · -- a chosen listener is not among those that the filter keeps
        rw [hregistrations, ← List.erase_filter, List.erase_of_not_mem]
        simp [hfirst]
    · rw [if_neg (htakes.not.mpr hfirst)] at hregistrations
      rw [← hregistrations]
      refine hlater fun listener h ↦ ?_
      have hne : first ≠ listener := fun hsame ↦ hfirst (hsame ▸ h)
      rw [hregistrations, hchosen listener h, List.count_cons_of_ne hne]

end Conduct

/-! ### Occasions -/

/-- What may bring about an event. -/
inductive Occasion where
  /-- A step: its word may be unknown. -/
  | step
  /-- A tick: it may sound. -/
  | tick

/-- What happens to a machine on an occasion. -/
structure Happening where
  /-- The event that is brought about, if one is. -/
  event? : Option Event
  /-- The machine while the listeners are told of the event. -/
  meanwhile : Machine
  /-- The machine afterwards. -/
  afterwards : Machine

/-- What a step or a tick of a machine brings about. -/
def Machine.happening (m : Machine) : Occasion → Happening
  | .step =>
    match m.step with
    | (.executed _ (some event), after) => ⟨some (.diagnostic event), m.report event, after⟩
    | (_, after) => ⟨none, m, after⟩
  | .tick => ⟨if m.tick.1 then some .tone else none, m.tick.2, m.tick.2⟩

namespace Monitored

variable {σ : Type}

/-- Tells the listeners of an event. -/
def tell (conduct : Conduct σ) (memory : σ) (m : Monitored) (event : Event) :
    Delivery Listener (σ × Monitored) :=
  deliverTo (conduct.call event) (m.registrations event.kind) (memory, m)

/-- Takes a step or counts the timers down, with listeners that behave in a given way. The result
says whether all listeners that were called have gone through with it, which they were, what they
remember and what is left. -/
def happen (conduct : Conduct σ) (memory : σ) (m : Monitored) (occasion : Occasion) :
    Bool × List Notice × σ × Monitored :=
  let happening := m.machine.happening occasion
  match happening.event? with
  | none => (true, [], memory, m.withMachine happening.afterwards)
  | some event =>
    let delivery := (m.withMachine happening.meanwhile).tell conduct memory event
    (delivery.isComplete, delivery.called.map (⟨·, event⟩), delivery.state.1,
      if delivery.isComplete then delivery.state.2.withMachine happening.afterwards
      else delivery.state.2)

theorem happen_of_event {conduct : Conduct σ} {memory : σ} {m : Monitored} {occasion : Occasion}
    {event : Event} (hevent : (m.machine.happening occasion).event? = some event) :
    m.happen conduct memory occasion =
      let happening := m.machine.happening occasion
      let delivery := (m.withMachine happening.meanwhile).tell conduct memory event
      (delivery.isComplete, delivery.called.map (⟨·, event⟩), delivery.state.1,
        if delivery.isComplete then delivery.state.2.withMachine happening.afterwards
        else delivery.state.2) := by
  rw [happen, hevent]

end Monitored

/-- The listeners of a monitored machine: those that listen only once take back a registration
whenever they are called. -/
def Conduct.plain : Conduct Unit where
  answer listener _ _ := { takenBack := if listener.once then some listener.home else none }
  memory _ _ _ := ()

namespace Monitored

theorem call_plain (event : Event) (listener : Listener) (m : Monitored) :
    Conduct.plain.call event listener ((), m) = (react listener m).map ((), ·) := by
  rw [Conduct.call, react]
  cases honce : listener.once with
  | false => simp [Conduct.plain, accept, honce, listenAll]
  | true =>
    simp only [Conduct.plain, accept, honce, listenAll, if_true, List.foldl_nil]
    cases m.unlisten listener.home listener <;> rfl

theorem deliverTo_plain (event : Event) (listeners : List Listener) (m : Monitored) :
    deliverTo (Conduct.plain.call event) listeners ((), m) =
      let delivery := deliverTo react listeners m
      ⟨delivery.called, ((), delivery.state), delivery.isComplete⟩ := by
  induction listeners generalizing m with
  | nil => rfl
  | cons first rest ih =>
    rw [deliverTo, deliverTo, call_plain]
    cases react first m with
    | none => rfl
    | some next => simp only [Option.map_some, ih]

theorem happen_plain_step (m : Monitored) :
    m.happen .plain () .step = (m.step.1.isOk, m.step.2.1, (), m.step.2.2) := by
  rw [happen, Machine.happening, step]
  generalize m.machine.step = result
  obtain ⟨outcome, after⟩ := result
  cases outcome with
  | executed word diagnostic =>
    cases diagnostic with
    | none => rfl
    | some event =>
      simp only [tell, deliverTo_plain, deliver, withMachine, Event.kind]
      generalize deliverTo react _ _ = delivery
      obtain ⟨called, final, isComplete⟩ := delivery
      cases isComplete <;> rfl
  | faulted | refused => rfl

theorem happen_plain_tick (m : Monitored) :
    m.happen .plain () .tick = (m.tick.1.isOk, m.tick.2.1, (), m.tick.2.2) := by
  rw [happen, Machine.happening, tick]
  generalize m.machine.tick = result
  obtain ⟨tone, after⟩ := result
  cases tone with
  | false => rfl
  | true =>
    simp only [if_true, tell, deliverTo_plain, deliver, withMachine, Event.kind]
    generalize hdelivery : deliverTo react _ _ = delivery
    have hmachine : delivery.state.machine = after := by
      rw [← hdelivery]
      exact machine_deliver { m with machine := after } .tone .tone
    obtain ⟨called, final, isComplete⟩ := delivery
    subst hmachine
    cases isComplete <;> rfl

/-- An event reaches the registrations that are present when it occurs, be it an unknown word in a
step or a sounding tick: each of them is called once, in the order of registration, whatever the
listeners do to the registrations meanwhile. A listener may be registered any number of times. When
it is called, it may add registrations for either kind of events, also of itself, and it may take
back one of its own, which must exist if it is for events of the other kind; what it does may depend
on earlier calls. Neither does the loss of a registration keep a listener from being called, nor are
those called that are added in the meantime. If some chosen listeners take back one registration for
such events at each call and nothing else changes these registrations, those of the other listeners
are left, in their order. -/
theorem events_reach_registrations {σ : Type} (conduct : Conduct σ) (memory : σ) (m : Monitored)
    (occasion : Occasion) {event : Event}
    (hevent : (m.machine.happening occasion).event? = some event)
    (helsewhere : conduct.HasElsewhere event (m.registrations event.kind)
      (memory, m.withMachine (m.machine.happening occasion).meanwhile)) :
    let (isComplete, notices, _, after) := m.happen conduct memory occasion
    isComplete = true ∧
    notices = (m.registrations event.kind).map (⟨·, event⟩) ∧
    ∀ chosen : Listener → Bool,
      conduct.TakesBackJust chosen event (m.registrations event.kind)
        (memory, m.withMachine (m.machine.happening occasion).meanwhile) →
      after.registrations event.kind = (m.registrations event.kind).filter (!chosen ·) := by
  rw [happen_of_event hevent]
  generalize m.machine.happening occasion = happening at helsewhere ⊢
  have hpresent (machine : Machine) :
      (m.withMachine machine).registrations event.kind = m.registrations event.kind :=
    registrations_withMachine m machine event.kind
  have henough : (m.withMachine happening.meanwhile).HasEnough event.kind
      (m.registrations event.kind) := fun listener ↦ by rw [hpresent]
  have hcomplete := Conduct.isComplete_deliverTo helsewhere henough
  have hcalled := (called_deliverTo _ _ _).2 hcomplete
  simp only [tell, hpresent, hcomplete, hcalled, if_true, true_and]
  intro chosen hjust
  have hleft := Conduct.registrations_deliverTo helsewhere henough hjust fun listener _ ↦ by
    rw [hpresent]
  rw [registrations_withMachine, hleft, hpresent]

/-- A guest that is registered twice takes back a registration at each call, while a bell adds
another guest. -/
theorem events_reach_registrations_of_guest :
    let machine := Machine.powerOn ⟨#[0x60, 0x05], by decide⟩ .screen .idle .silent
    let guest : Listener := ⟨"guest", false, .tone⟩
    let bell : Listener := ⟨"bell", false, .tone⟩
    let late : Listener := ⟨"late", false, .tone⟩
    let m : Monitored := ⟨{ machine with timers := ⟨0, 1⟩ }, [], [guest, bell, guest]⟩
    let conduct (kind : EventKind) : Conduct Nat :=
      { answer := fun listener _ _ ↦
          if listener = guest then { takenBack := some .tone } else { before := [(kind, late)] }
        memory := fun _ _ state ↦ state.1 + 1 }
    (∀ kind, (m.happen (conduct kind) 0 .tick).2.1 =
      [⟨guest, .tone⟩, ⟨bell, .tone⟩, ⟨guest, .tone⟩]) ∧
      (m.happen (conduct .diagnostic) 0 .tick).2.2.2.forTones = [bell] := by
  intro machine guest bell late m conduct
  have hsounds (kind : EventKind) :=
    m.events_reach_registrations (conduct kind) 0 .tick (rfl : _ = some Event.tone)
      fun listener state _ other hother htakenBack ↦ by
        simp only [conduct] at htakenBack
        split_ifs at htakenBack
        exact absurd (Option.some.inj htakenBack).symm hother
  refine ⟨fun kind ↦ (hsounds kind).2.1, ?_⟩
  refine ((hsounds .diagnostic).2.2 (· = guest) fun listener state _ ↦ ?_).trans (by decide)
  by_cases hguest : listener = guest
  · simp [conduct, hguest, Event.kind, Answer.addedTo]
  · simp [conduct, hguest, Event.kind, Answer.addedTo]

end Monitored

end Cosmac
