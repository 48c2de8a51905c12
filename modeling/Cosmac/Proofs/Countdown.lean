import Cosmac.Proofs.Interleaving

/-!
# Countdown

Between two settings of the timers nothing but ticks touches them. Whatever steps, keys and other
requests lie between the ticks, each tick takes one from either timer until it is zero, and it
sounds while the sound timer runs (`Monitored.timers_count_down`). Every listener is told of a tick
that sounds, once for each of its registrations, unless one fails, and `Monitored.HearsTones` tells
when none does (`Monitored.deliver_tone_iff`).
-/

set_option autoImplicit false

namespace Cosmac

/-! ### Words -/

/-- Whether a word sets a timer. -/
def Word.setsTimers (w : Word) : Bool :=
  w.isPeripheral 0x15 || w.isPeripheral 0x18

theorem Instruction.setsTimers_of_fits {w : Word} {instruction : Instruction}
    (hfits : instruction.Fits w) (hword : w.setsTimers = false) :
    instruction.setsTimers = false := by
  cases instruction
  case setDelay | setSound =>
    simp only [Word.setsTimers, hfits.1, Bool.true_or, Bool.or_true, Bool.true_eq_false] at hword
  all_goals rfl

/-! ### Timers -/

theorem Timers.toNat_countDown (value : UInt8) : (countDown value).toNat = value.toNat - 1 := by
  rw [countDown]
  split_ifs with hzero
  · rw [hzero]
    rfl
  · have hpositive : value.toNat ≠ 0 := fun h ↦ hzero (UInt8.toNat_inj.mp h)
    have hone : (1 : UInt8) ≤ value :=
      UInt8.le_iff_toNat_le.mpr (Nat.one_le_iff_ne_zero.mpr hpositive)
    exact UInt8.toNat_sub_of_le value 1 hone

namespace Machine

variable {m : Machine}

/-- A step leaves the timers alone, unless it executes a word that sets one. -/
theorem timers_of_step
    (hwords : ∀ word diagnostic, m.step.1 = .executed word diagnostic → word.setsTimers = false) :
    m.step.2.timers = m.timers := by
  have hdevices : m.step.2.devices = m.devices.stepped m := devices_step m
  generalize hresult : m.step = result at hwords hdevices
  cases step_cases hresult with
  | refused | reported | faulted => rfl
  | @completed instruction after next hrunning hdecode hexecute =>
    have hsets : instruction.setsTimers = false :=
      Instruction.setsTimers_of_fits (Instruction.fits_of_decode? hdecode) (hwords _ _ rfl)
    rw [Devices.stepped_of_decode hrunning hdecode] at hdevices
    refine (congrArg Devices.timers hdevices).trans ?_
    cases instruction
    case setDelay | setSound => cases hsets
    all_goals rfl

/-- An operation that takes no step, counts nothing down and starts no program leaves the timers
alone. -/
theorem timers_operate (m : Machine) (operation : Operation)
    (hrestarts : operation.restarts = false) (hstep : operation ≠ .ask .step)
    (hrun : ∀ count, operation ≠ .ask (.run count)) (htick : operation ≠ .ask .tick) :
    (m.operate operation).timers = m.timers := by
  by_cases hkeys : operation.worksKeypad = true
  · obtain ⟨change, hchange⟩ := operate_of_worksKeypad hkeys
    rw [(hchange m).1]
  cases operation with
  | resetKeypad | moveTo => rfl
  | ask action =>
    cases action with
    | step => exact absurd rfl hstep
    | run count => exact absurd rfl (hrun count)
    | tick => exact absurd rfl htick
    | press | release | releaseAll => exact absurd rfl hkeys
    | reset => cases hrestarts
    | write | setRegister => rfl
    | load bytes =>
      have hlarge : ¬ bytes.size ≤ maxProgramSize := of_decide_eq_false hrestarts
      simp only [operate, perform, load, Program.ofBytes, dif_neg hlarge]

end Machine

/-! ### Deliveries -/

namespace Monitored

variable {m after : Monitored} {kind : EventKind} {listener : Listener}

theorem registrations_withRegistrations (m : Monitored) (kind other : EventKind)
    (listeners : List Listener) :
    (m.withRegistrations kind listeners).registrations other =
      if other = kind then listeners else m.registrations other := by
  cases kind <;> cases other <;> rfl

/-- A call of a listener leaves one registration less, if it takes one back. -/
theorem count_of_react (honce : listener.once = true) (hreact : react listener m = some after)
    (kind : EventKind) (other : Listener) :
    listener ∈ m.registrations listener.home ∧
      (after.registrations kind).count other = (m.registrations kind).count other -
        if kind = listener.home ∧ listener = other then 1 else 0 := by
  rw [react, if_pos honce, unlisten, unregister] at hreact
  split_ifs at hreact with hmem
  · cases hreact
    refine ⟨hmem, ?_⟩
    rw [registrations_withRegistrations]
    by_cases hkind : kind = listener.home
    · rw [if_pos hkind, hkind, List.count_erase]
      simp only [beq_iff_eq, true_and]
    · rw [if_neg hkind, if_neg fun h ↦ hkind h.1, Nat.sub_zero]
  · cases hreact

/-- No listener fails if each that takes back registrations has as many of them as it is called
times. -/
theorem isComplete_deliverTo_iff (listeners : List Listener) (m : Monitored) :
    (deliverTo react listeners m).isComplete = true ↔
      ∀ listener, listener.once = true →
        listeners.count listener ≤ (m.registrations listener.home).count listener := by
  induction listeners generalizing m with
  | nil => simp [deliverTo]
  | cons first rest ih =>
    rw [deliverTo]
    cases honce : first.once with
    | false =>
      have hreact : react first m = some m := by
        rw [react, honce]
        rfl
      rw [hreact]
      simp only [ih]
      refine forall_congr' fun listener ↦ imp_congr_right fun hlistener ↦ ?_
      have hne : first ≠ listener := by
        rintro rfl
        exact Bool.false_ne_true (honce.symm.trans hlistener)
      rw [List.count_cons_of_ne hne]
    | true =>
      cases hreact : react first m with
      | none =>
        have hmem : first ∉ m.registrations first.home := by
          intro hmem
          rw [react, if_pos honce, unlisten, unregister, if_pos hmem] at hreact
          cases hreact
        refine iff_of_false Bool.false_ne_true fun hall ↦ ?_
        have hcount := hall first honce
        rw [List.count_cons_self, List.count_eq_zero_of_not_mem hmem] at hcount
        exact Nat.not_succ_le_zero _ hcount
      | some after =>
        simp only [ih]
        refine forall_congr' fun listener ↦ imp_congr_right fun _ ↦ ?_
        obtain ⟨hmem, hcount⟩ := count_of_react honce hreact listener.home listener
        have hpositive := List.count_pos_iff.mpr hmem
        by_cases hfirst : first = listener
        · subst hfirst
          rw [if_pos ⟨rfl, rfl⟩] at hcount
          rw [hcount, List.count_cons_self]
          omega
        · rw [if_neg fun h ↦ hfirst h.2] at hcount
          rw [hcount, List.count_cons_of_ne hfirst, Nat.sub_zero]

/-- Listeners are called in order, up to one that fails. -/
theorem called_deliverTo {ι σ : Type} (react : ι → σ → Option σ) (listeners : List ι) (state : σ) :
    (deliverTo react listeners state).called <+: listeners ∧
      ((deliverTo react listeners state).isComplete = true →
        (deliverTo react listeners state).called = listeners) := by
  induction listeners generalizing state with
  | nil => exact ⟨List.prefix_refl _, fun _ ↦ rfl⟩
  | cons first rest ih =>
    rw [deliverTo]
    cases react first state with
    | none => exact ⟨by simp, fun hcomplete ↦ absurd hcomplete Bool.false_ne_true⟩
    | some after =>
      obtain ⟨hleads, hall⟩ := ih after
      exact ⟨List.prefix_cons_inj first |>.mpr hleads, fun h ↦ congrArg (first :: ·) (hall h)⟩

/-- An event goes to the listeners of its kind in order, and to all of them if none fails. -/
theorem notices_deliver (m : Monitored) (kind : EventKind) (event : Event) :
    (m.deliver kind event).2.1 <+: (m.registrations kind).map (Notice.mk · event) ∧
      ((m.deliver kind event).1 = true →
        (m.deliver kind event).2.1 = (m.registrations kind).map (Notice.mk · event)) := by
  obtain ⟨hleads, hall⟩ := called_deliverTo react (m.registrations kind) m
  exact ⟨hleads.map _, fun hcomplete ↦ congrArg _ (hall hcomplete)⟩

/-- Listeners do not touch the machine. -/
theorem machine_deliver (m : Monitored) (kind : EventKind) (event : Event) :
    (m.deliver kind event).2.2.machine = m.machine :=
  congrArg (fun delivery ↦ delivery.2.2.machine) (m.deliver_withMachine m.machine kind event)

/-- Whether no listener fails at a tick that sounds. One that takes back a registration for
diagnostics whenever it is called must have as many of these as for tones. -/
def HearsTones (m : Monitored) : Prop :=
  ∀ listener ∈ m.forTones, listener.once = true → listener.home = .diagnostic →
    m.forTones.count listener ≤ m.forDiagnostics.count listener

theorem deliver_tone_iff (m : Monitored) : (m.deliver .tone .tone).1 = true ↔ m.HearsTones := by
  refine (isComplete_deliverTo_iff m.forTones m).trans ?_
  constructor
  · intro hall listener _ honce hhome
    have hcount := hall listener honce
    rwa [hhome] at hcount
  · intro hhears listener honce
    cases hhome : listener.home with
    | tone => exact Nat.le_refl _
    | diagnostic =>
      by_cases hmem : listener ∈ m.forTones
      · exact hhears listener hmem honce hhome
      · rw [List.count_eq_zero_of_not_mem hmem]
        exact Nat.zero_le _

/-! ### Ticks -/

theorem tick_of_silence (hsound : m.machine.timers.sound = 0) :
    m.tick = (.ok false, [], m.withMachine m.machine.tick.2) := by
  have htone : m.machine.tick = (false, m.machine.tick.2) := by
    rw [Machine.tick, Timers.tick, hsound]
    rfl
  rw [tick, htone]
  rfl

theorem tick_of_sounding (hsound : m.machine.timers.sound ≠ 0) :
    m.tick =
      (if ((m.withMachine m.machine.tick.2).deliver .tone .tone).1 then .ok true
        else .error .notRegistered,
      ((m.withMachine m.machine.tick.2).deliver .tone .tone).2) := by
  have htone : m.machine.tick = (true, m.machine.tick.2) := by
    rw [Machine.tick, Timers.tick, bne_iff_ne.mpr hsound]
  rw [withMachine, tick, htone]
  rcases hdelivery : Monitored.deliver { m with machine := m.machine.tick.2 } .tone .tone with
    ⟨isComplete, notices, final⟩
  simp only [hdelivery]
  cases isComplete <;> rfl

/-- A tick counts the timers down, whatever the listeners do. -/
theorem machine_tick (m : Monitored) : m.tick.2.2.machine = m.machine.tick.2 := by
  by_cases hsound : m.machine.timers.sound = 0
  · rw [tick_of_silence hsound]
    rfl
  · rw [tick_of_sounding hsound]
    exact machine_deliver _ .tone .tone

/-! ### Steps -/

/-- The word that a step executed. -/
def executed? : Except ListenerError Outcome → Option Word
  | .ok (.executed word _) => some word
  | .ok (.faulted _) | .ok (.refused _) | .error _ => none

theorem timers_step (m : Monitored)
    (hwords : ∀ word, executed? m.step.1 = some word → word.setsTimers = false) :
    m.step.2.2.machine.timers = m.machine.timers := by
  have hreported (event : Diagnostic) :=
    machine_deliver { m with machine := m.machine.report event } .diagnostic (.diagnostic event)
  have hstep := m.machine.timers_of_step
  rw [step] at hwords ⊢
  generalize m.machine.step = result at hwords hstep
  obtain ⟨outcome, after⟩ := result
  cases outcome with
  | executed word diagnostic =>
    cases diagnostic with
    | none =>
      refine hstep fun other diagnostic hother ↦ ?_
      cases hother
      exact hwords word rfl
    | some event =>
      have hmachine := hreported event
      simp only at hwords ⊢
      generalize Monitored.deliver _ _ _ = delivery at hwords hmachine
      obtain ⟨isComplete, notices, final⟩ := delivery
      cases isComplete with
      | true =>
        refine hstep fun other diagnostic hother ↦ ?_
        cases hother
        exact hwords word rfl
      | false =>
        have htimers : final.machine.timers = (m.machine.report event).timers :=
          congrArg Machine.timers hmachine
        exact htimers
  | faulted | refused =>
    refine hstep fun word diagnostic hword ↦ ?_
    cases hword

theorem timers_run (count : Nat) (m : Monitored)
    (hwords : ∀ result ∈ (m.run count).1, ∀ word, executed? result = some word →
      word.setsTimers = false) :
    (m.run count).2.2.machine.timers = m.machine.timers := by
  induction count generalizing m with
  | zero => rfl
  | succ count ih =>
    have hstep := m.timers_step
    rw [run] at hwords ⊢
    generalize m.step = result at hwords hstep
    obtain ⟨result, notices, after⟩ := result
    cases result with
    | error cause => exact hstep nofun
    | ok outcome =>
      cases outcome with
      | executed word diagnostic =>
        rw [List.forall_mem_cons] at hwords
        exact (ih after hwords.2).trans (hstep hwords.1)
      | faulted | refused => exact hstep nofun

end Monitored

/-! ### Requests -/

namespace Request

/-- Whether a request counts the timers down. -/
def isTick : Request → Bool
  | operate (.ask .tick) => true
  | _ => false

/-- Whether a request starts a program anew. -/
def restarts : Request → Bool
  | operate operation => operation.restarts
  | listen _ _ | unlisten _ _ => false

theorem eq_tick_of_isTick {request : Request} (htick : request.isTick = true) :
    request = operate (.ask .tick) := by
  unfold isTick at htick
  split at htick
  · rfl
  · cases htick

end Request

/-- The words that were executed in the course of a request. -/
def Response.words (response : Response) : List Word :=
  response.steps.filterMap Monitored.executed?

namespace Monitored

/-- Of requests that start no program and execute no word that sets a timer, ticks alone change the
timers. -/
theorem timers_respond (m : Monitored) {request : Request} (hrestarts : request.restarts = false)
    (hwords : ∀ word ∈ (m.respond request).1.words, word.setsTimers = false) :
    (m.respond request).2.machine.timers =
      if request.isTick then m.machine.timers.tick.1 else m.machine.timers := by
  have hexecuted : ∀ result ∈ (m.respond request).1.steps, ∀ word,
      executed? result = some word → word.setsTimers = false := fun result hresult word hword ↦
    hwords word (List.mem_filterMap.mpr ⟨result, hresult, hword⟩)
  cases request with
  | listen kind listener => cases kind <;> rfl
  | unlisten kind listener =>
    rw [respond]
    cases hunlisten : m.unlisten kind listener with
    | ok after => exact congrArg Machine.timers (machine_of_unlisten hunlisten)
    | error => rfl
  | operate operation =>
    have hoperate := m.machine.timers_operate operation hrestarts
    cases operation with
    | resetKeypad | moveTo => rfl
    | ask action =>
      cases action with
      | step => exact m.timers_step (hexecuted _ List.mem_cons_self)
      | run count => exact m.timers_run count.toNat hexecuted
      | tick => exact congrArg Machine.timers m.machine_tick
      | press | release | releaseAll | reset | load | write | setRegister =>
        exact hoperate nofun nofun nofun

/-! ### Ticks among other requests -/

/-- A tick that a host has asked for. -/
structure TickRecord where
  /-- The machine and its listeners just before. -/
  before : Monitored
  /-- What came of it. -/
  response : Response

/-- The ticks among requests one after the other. -/
def ticks (m : Monitored) : List Request → List TickRecord
  | [] => []
  | request :: rest =>
    let later := (m.respond request).2.ticks rest
    if request.isTick then ⟨m, (m.respond request).1⟩ :: later else later

namespace TickRecord

/-- Whether a tick has sounded: the host was told so, and every listener, once for each of its
registrations, unless one of them failed. -/
def Sounds (t : TickRecord) : Prop :=
  (t.before.HearsTones →
    t.response.tone = some (.ok true) ∧
      t.response.notices = t.before.forTones.map (⟨·, .tone⟩)) ∧
  (¬ t.before.HearsTones →
    t.response.tone = some (.error .notRegistered) ∧
      t.response.notices <+: t.before.forTones.map (⟨·, .tone⟩))

/-- Whether nobody was told that a tick has sounded. -/
def IsSilent (t : TickRecord) : Prop :=
  t.response.tone = some (.ok false) ∧ t.response.notices = []

end TickRecord

/-- A tick sounds while the sound timer runs. -/
theorem sounds_or_isSilent (m : Monitored) :
    let t : TickRecord := ⟨m, (m.respond (.operate (.ask .tick))).1⟩
    if 0 < m.machine.timers.sound.toNat then t.Sounds else t.IsSilent := by
  intro t
  have htone : t.response.tone = some m.tick.1 := rfl
  have hnotices : t.response.notices = m.tick.2.1 := rfl
  split_ifs with hpositive
  · have hsound : m.machine.timers.sound ≠ 0 := fun hzero ↦ by
      rw [hzero] at hpositive
      exact Nat.lt_irrefl 0 hpositive
    obtain ⟨hleads, hall⟩ := (m.withMachine m.machine.tick.2).notices_deliver .tone .tone
    have hcomplete := deliver_tone_iff (m.withMachine m.machine.tick.2)
    rw [tick_of_sounding hsound] at htone hnotices
    refine ⟨fun hhears ↦ ?_, fun hhears ↦ ?_⟩
    · have hdelivered := hcomplete.mpr hhears
      rw [htone, hnotices, if_pos hdelivered]
      exact ⟨rfl, hall hdelivered⟩
    · rw [htone, hnotices, if_neg (hcomplete.not.mpr hhears)]
      exact ⟨rfl, hleads⟩
  · have hsound : m.machine.timers.sound = 0 :=
      UInt8.toNat_inj.mp (Nat.eq_zero_of_not_pos hpositive)
    rw [tick_of_silence hsound] at htone hnotices
    exact ⟨htone, hnotices⟩

/-- Ticks are the requests that count the timers down. -/
theorem length_ticks (m : Monitored) (requests : List Request) :
    (m.ticks requests).length = requests.countP Request.isTick := by
  induction requests generalizing m with
  | nil => rfl
  | cons request rest ih =>
    rw [ticks, List.countP_cons, ← ih (m.respond request).2]
    split_ifs <;> rfl

section Steady

variable {requests : List Request}

/-- After requests that start no program and execute no word that sets a timer, the timers have gone
down by the number of ticks. -/
theorem timers_respondAll (m : Monitored)
    (hrestarts : ∀ request ∈ requests, request.restarts = false)
    (hwords : ∀ response ∈ (m.respondAll requests).1, ∀ word ∈ response.words,
      word.setsTimers = false) :
    let final := (m.respondAll requests).2.machine.timers
    let count := requests.countP Request.isTick
    final.delay.toNat = m.machine.timers.delay.toNat - count ∧
      final.sound.toNat = m.machine.timers.sound.toNat - count := by
  induction requests generalizing m with
  | nil => exact ⟨rfl, rfl⟩
  | cons request rest ih =>
    rw [respondAll_cons, List.forall_mem_cons] at hwords
    rw [List.forall_mem_cons] at hrestarts
    have htimers := m.timers_respond hrestarts.1 hwords.1
    obtain ⟨hdelay, hsound⟩ := ih (m.respond request).2 hrestarts.2 hwords.2
    simp only [respondAll_cons, List.countP_cons, hdelay, hsound, htimers]
    split_ifs with htick
    · simp only [Timers.tick, Timers.toNat_countDown]
      omega
    · exact ⟨rfl, rfl⟩

/-- The ticks among such requests sound as long as the sound timer runs. -/
theorem sounds_or_isSilent_of_getElem? (m : Monitored)
    (hrestarts : ∀ request ∈ requests, request.restarts = false)
    (hwords : ∀ response ∈ (m.respondAll requests).1, ∀ word ∈ response.words,
      word.setsTimers = false)
    {k : Nat} {t : TickRecord} (ht : (m.ticks requests)[k]? = some t) :
    if k < m.machine.timers.sound.toNat then t.Sounds else t.IsSilent := by
  induction requests generalizing m k with
  | nil => cases ht
  | cons request rest ih =>
    rw [respondAll_cons, List.forall_mem_cons] at hwords
    rw [List.forall_mem_cons] at hrestarts
    have htimers := m.timers_respond hrestarts.1 hwords.1
    have hlater {k : Nat} (ht : ((m.respond request).2.ticks rest)[k]? = some t) :=
      ih (m.respond request).2 hrestarts.2 hwords.2 ht
    rw [ticks] at ht
    split_ifs at ht htimers with htick
    · rw [htimers] at hlater
      cases k with
      | zero =>
        obtain rfl : _ = t := Option.some.inj ht
        have hrequest : request = .operate (.ask .tick) := Request.eq_tick_of_isTick htick
        rw [hrequest]
        exact m.sounds_or_isSilent
      | succ k =>
        have hsounds := hlater ht
        simp only [Timers.tick, Timers.toNat_countDown] at hsounds
        have hnext : k < m.machine.timers.sound.toNat - 1 ↔
            k + 1 < m.machine.timers.sound.toNat := by omega
        simpa only [hnext] using hsounds
    · rw [← htimers]
      exact hlater ht

end Steady

/-- Between two settings of the timers nothing but ticks touches them. Let a host make any requests
that start no program, and let no step of them execute a word that sets a timer: then there may be
steps of any kind, also such that fault or meet a halted machine, keys, writes to memory and
registers, and changes of the registrations between the ticks. Each tick takes one from either
timer, until it is zero. As many ticks as the sound timer showed at first sound, and later ones are
silent. -/
theorem timers_count_down (m : Monitored) (requests : List Request)
    (hrestarts : ∀ request ∈ requests, request.restarts = false)
    (hwords : ∀ response ∈ (m.respondAll requests).1, ∀ word ∈ response.words,
      word.setsTimers = false) :
    let count := requests.countP Request.isTick
    let final := (m.respondAll requests).2.machine.timers
    let sound := m.machine.timers.sound.toNat
    final.delay.toNat = m.machine.timers.delay.toNat - count ∧
    final.sound.toNat = sound - count ∧
    (m.ticks requests).length = count ∧
    ∀ (k : Nat) (t : TickRecord), (m.ticks requests)[k]? = some t →
      if k < sound then t.Sounds else t.IsSilent := by
  intro count final sound
  obtain ⟨hdelay, hsound⟩ := m.timers_respondAll hrestarts hwords
  exact ⟨hdelay, hsound, m.length_ticks requests,
    fun _ _ ht ↦ m.sounds_or_isSilent_of_getElem? hrestarts hwords ht⟩

/-- A step and a key lie between two ticks of a machine with five units of delay and one of sound.
The bell is registered twice. -/
theorem timers_count_down_of_bell :
    let machine := Machine.powerOn ⟨#[0x60, 0x05], by decide⟩ .screen .idle .silent
    let bell : Listener := ⟨"bell", false, .tone⟩
    let once : Listener := ⟨"once", true, .tone⟩
    let m : Monitored := ⟨{ machine with timers := ⟨5, 1⟩ }, [], [bell, once, bell]⟩
    let requests : List Request :=
      [.operate (.ask .step), .operate (.ask .tick), .operate (.ask (.press 5)),
        .operate (.ask .tick)]
    (m.respondAll requests).2.machine.timers.delay.toNat = 3 ∧
      ∃ first second : TickRecord, m.ticks requests = [first, second] ∧
        first.response.tone = some (.ok true) ∧
        first.response.notices = [⟨bell, .tone⟩, ⟨once, .tone⟩, ⟨bell, .tone⟩] ∧
        second.response.tone = some (.ok false) := by
  obtain ⟨start, hstart⟩ :
      ∃ start, Machine.powerOn ⟨#[0x60, 0x05], by decide⟩ .screen .idle .silent = start := ⟨_, rfl⟩
  have hfetch : start.fetch = 0x6005 := by
    rw [← hstart]
    exact (Machine.fetch_powerOn ⟨#[0x60, 0x05], by decide⟩ .screen .idle .silent).trans (by decide)
  have hrunning : start.fault = none := by
    rw [← hstart]
    rfl
  rw [hstart]
  intro machine bell once m requests
  have hdecode : Instruction.decode? m.machine.fetch = some (.setByte 0 5) := by
    have hsame : m.machine.fetch = 0x6005 := hfetch
    rw [hsame]
    rfl
  have hsilent : m.machine.step.1 = .executed 0x6005 none := by
    rw [Machine.step_of_execute (m := m.machine) hrunning hdecode rfl]
    exact congrArg (Outcome.executed · none) hfetch
  have hstep : m.step = (.ok (.executed 0x6005 none), [], m.withMachine m.machine.step.2) := by
    rw [step_of_no_diagnostic (by rw [hsilent]; rfl), hsilent]
    rfl
  have hexecuted : (m.respondAll requests).1.flatMap Response.words = [0x6005] := by
    simp only [requests, respondAll, respond, hstep]
    rfl
  have hwords : ∀ response ∈ (m.respondAll requests).1, ∀ word ∈ response.words,
      word.setsTimers = false := by
    intro response hresponse word hword
    have hmem := List.mem_flatMap.mpr ⟨response, hresponse, hword⟩
    rw [hexecuted, List.mem_singleton] at hmem
    rw [hmem]
    decide
  have htones : (m.respond (.operate (.ask .step))).2.forTones = [bell, once, bell] := by
    simp only [respond, hstep]
    rfl
  have hhears : (m.respond (.operate (.ask .step))).2.HearsTones := by
    intro listener hlistener _ hhome
    have hall : ∀ listener ∈ [bell, once, bell], listener.home ≠ .diagnostic := by decide
    rw [htones] at hlistener
    exact absurd hhome (hall listener hlistener)
  obtain ⟨hdelay, -, -, hticks⟩ := m.timers_count_down requests (by decide) hwords
  obtain ⟨htone, hnotices⟩ := (hticks 0 _ rfl).1 hhears
  simp only [htones] at hnotices
  exact ⟨hdelay, _, _, rfl, htone, hnotices, (hticks 1 _ rfl).1⟩

end Monitored

end Cosmac
