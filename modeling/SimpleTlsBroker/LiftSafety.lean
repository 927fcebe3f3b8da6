import Mathlib.Data.List.GetD
import Mathlib.Data.List.Induction
import Mathlib.Tactic.Linarith
import SimpleTlsBroker.Lift

namespace SimpleTlsBroker

/-!
# Safety of the lift

Every step of the application switches the relays as a command says, arms a
movement, ends one, or leaves the relays alone.  A movement keeps the relays
apart and runs out; a command does neither.
-/

/-! ## Steps -/

namespace LiftEvent

/-- When an event arms a movement. -/
def armedAt? : LiftEvent → Option Nat
  | .estimate _ _ now => some now
  | .reset now => some now
  | .published _ => none

end LiftEvent

namespace Lift

/-- The time of the last estimate or presence reset. -/
def lastArmed (lift : Lift) : Option Nat :=
  lift.trace.findSome? LiftEvent.armedAt?

end Lift

/--
A message for `mqttCallback`, and what the local variables hold before they are
set.
-/
structure Delivery where
  topic : List Byte
  payload : List Byte
  stack : Nat → Byte
  h : ℚ

namespace Delivery

/-- The message as the handlers see it. -/
def text (delivery : Delivery) : List Byte :=
  Lift.message delivery.payload delivery.stack

/-- Is the message a command? -/
def IsCommand (delivery : Delivery) : Prop :=
  hasText "r2d-fx/command" (cString delivery.topic) = true

/--
The text is the payload up to its first NUL, whatever was on the stack, if the
payload fits into `msg`.
-/
theorem text_eq
    {delivery : Delivery}
    (short : delivery.payload.length < Lift.msgSize) :
    delivery.text = cString delivery.payload := by
  have copied :
      (List.range delivery.payload.length).map
          (Lift.copyMessage delivery.payload delivery.stack) =
        delivery.payload := by
    apply List.ext_getElem
    · simp
    · intro index inRange inPayload
      have notEnd : index ≠ delivery.payload.length := Nat.ne_of_lt inPayload
      have inCopy : index < min delivery.payload.length Lift.msgSize :=
        Nat.lt_min.mpr ⟨inPayload, Nat.lt_trans inPayload short⟩
      simp only [List.getElem_map, List.getElem_range, Lift.copyMessage,
        if_neg notEnd, if_pos inCopy, List.getD_eq_getElem _ _ inPayload]
  rw [text, Lift.message, copied]

end Delivery

/-- A step of the application. -/
inductive LiftStep where
  | message (delivery : Delivery)
  | tick

namespace LiftStep

/-- Take a step at some time. -/
def apply
    (sscanf : Sscanf)
    (now : Nat) : LiftStep → Lift → Lift
  | .message delivery, lift =>
      lift.mqttCallback sscanf delivery.stack delivery.h delivery.topic
        delivery.payload now
  | .tick, lift => lift.loopClient now

/-- Take steps one after the other. -/
def run
    (sscanf : Sscanf)
    (steps : List (Nat × LiftStep))
    (lift : Lift) : Lift :=
  steps.foldl (fun lift (now, step) => step.apply sscanf now lift) lift

end LiftStep

/-! ## What a step does -/

/-- The conversion of a number that is not negative rounds down. -/
theorem truncate_eq_floor
    {number : ℚ}
    (nonneg : 0 ≤ number) :
    truncate number = ⌊number⌋ := by
  rw [truncate, Rat.floor_def', Int.tdiv_eq_ediv_of_nonneg]
  exact Rat.num_nonneg.mpr nonneg

/-- A number between two naturals is converted to one between them. -/
theorem truncate_bounds
    {number : ℚ}
    {low high : Nat}
    (atLeast : (low : ℚ) ≤ number)
    (atMost : number ≤ high) :
    low ≤ (truncate number).toNat ∧ (truncate number).toNat ≤ high := by
  have nonneg : 0 ≤ number := le_trans (Nat.cast_nonneg low) atLeast
  have lower : (low : Int) ≤ ⌊number⌋ := by
    apply Int.le_floor.mpr
    exact_mod_cast atLeast
  have upper : ⌊number⌋ ≤ (high : Int) := by
    have rounded : (⌊number⌋ : ℚ) ≤ high :=
      le_trans (Int.floor_le number) atMost
    exact_mod_cast rounded
  rw [truncate_eq_floor nonneg]
  omega

namespace Lift

variable {before after : Lift}
variable {now : Nat}

/-- The lift sits down by 1 to 8, whatever the body size. -/
theorem heights_bounds (bodySize : Int) (wheelchair : Bool) :
    1 ≤ (heights bodySize wheelchair).1 ∧
      (heights bodySize wheelchair).1 ≤ 8 := by
  cases wheelchair with
  | true => norm_num [heights]
  | false =>
      have clamped :
          (0 : ℚ) ≤ ((max (min bodySize 200) 150 - 150 : Int) : ℚ) := by
        have inRange : 0 ≤ max (min bodySize 200) 150 - 150 := by omega
        exact_mod_cast inRange
      have sitdown :
          (heights bodySize false).1 =
            min (50 + ((max (min bodySize 200) 150 - 150 : Int) : ℚ) / 8) 55 -
              47 := rfl
      rw [sitdown]
      constructor
      · have atLeast :
            (48 : ℚ) ≤
              min (50 + ((max (min bodySize 200) 150 - 150 : Int) : ℚ) / 8)
                55 := by
          apply le_min
          · linarith
          · norm_num
        linarith
      · have atMost :=
          min_le_right
            (50 + ((max (min bodySize 200) 150 - 150 : Int) : ℚ) / 8) 55
        linarith

/-- A movement was armed: one relay is on, for a limited time from now on. -/
structure Armed (now : Nat) (after : Lift) : Prop where
  apart : after.r1 = !after.r2
  positive : after.movetime ≠ 0
  bounded : after.movetime ≤ incrementMax
  starttime : after.starttime = millis now
  lastArmed : after.lastArmed = some now

/-- The presence status is no part of it. -/
theorem Armed.setPresent
    (armed : Armed now after)
    (present : Nat) :
    Armed now { after with present := present } :=
  ⟨armed.apart, armed.positive, armed.bounded, armed.starttime,
    armed.lastArmed⟩

/-- What nothing but arming and stopping changes. -/
structure SameTimer (before after : Lift) : Prop where
  movetime : after.movetime = before.movetime
  starttime : after.starttime = before.starttime
  lastArmed : after.lastArmed = before.lastArmed

/-- The relays and the timer are as they were. -/
structure Kept (before after : Lift) : Prop extends SameTimer before after where
  r1 : after.r1 = before.r1
  r2 : after.r2 = before.r2

theorem Kept.refl (lift : Lift) : Kept lift lift :=
  ⟨⟨rfl, rfl, rfl⟩, rfl, rfl⟩

/-- An estimate arms a movement, whatever it is called with. -/
theorem armed_estimateSettings
    (bodySize : Int)
    (wheelchair : Bool)
    (now : Nat)
    (lift : Lift) :
    Armed now (lift.estimateSettings bodySize wheelchair now) := by
  unfold estimateSettings
  dsimp only
  by_cases reset : bodySize = 0
  · rw [if_pos reset]
    exact ⟨rfl, show incrementMax ≠ 0 by decide, Nat.le_refl _, rfl, rfl⟩
  · rw [if_neg reset]
    obtain ⟨atLeast, atMost⟩ := heights_bounds bodySize wheelchair
    have time :
        1000 ≤ (truncate
            (increment * (heights bodySize wheelchair).1)).toNat ∧
          (truncate
            (increment * (heights bodySize wheelchair).1)).toNat ≤ 8000 := by
      apply truncate_bounds
      · norm_num [increment]
        linarith
      · norm_num [increment]
        linarith
    have small :
        (truncate (increment * (heights bodySize wheelchair).1)).toNat %
            2 ^ 32 =
          (truncate (increment * (heights bodySize wheelchair).1)).toNat :=
      Nat.mod_eq_of_lt (by omega)
    refine ⟨rfl, ?_, ?_, rfl, rfl⟩
    · change (truncate _).toNat % 2 ^ 32 ≠ 0
      rw [small]
      omega
    · change (truncate _).toNat % 2 ^ 32 ≤ incrementMax
      rw [small, incrementMax]
      omega

theorem kept_noteToilet
    (msg : List Byte)
    (length : Nat)
    (lift : Lift) :
    Kept lift (lift.noteToilet msg length) := by
  unfold noteToilet
  split
  · exact .refl lift
  · split
    · exact ⟨⟨rfl, rfl, rfl⟩, rfl, rfl⟩
    · exact .refl lift

/-- Presence data arms a movement or leaves the relays and the timer alone. -/
theorem armed_or_kept_processStatus
    (sscanf : Sscanf)
    (msg : List Byte)
    (length now : Nat)
    (lift : Lift) :
    Armed now (lift.processStatus sscanf msg length now) ∨
      Kept lift (lift.processStatus sscanf msg length now) := by
  unfold processStatus
  split
  · split
    · exact .inr (.refl lift)
    · have kept := kept_noteToilet msg length lift
      dsimp only
      generalize lift.noteToilet msg length = informed at *
      split
      · exact .inr kept
      · exact .inl ((armed_estimateSettings _ _ now informed).setPresent 3)
  · split
    · exact .inr ⟨⟨rfl, rfl, rfl⟩, rfl, rfl⟩
    · exact .inr (.refl lift)

/-- So does a message about the presence of a person. -/
theorem armed_or_kept_presence
    (msg : List Byte)
    (now : Nat)
    (lift : Lift) :
    Armed now (lift.presence msg now) ∨ Kept lift (lift.presence msg now) := by
  unfold presence
  split
  · split
    · exact .inr ⟨⟨rfl, rfl, rfl⟩, rfl, rfl⟩
    · exact .inr (.refl lift)
  · exact .inl ⟨rfl, show incrementMax ≠ 0 by decide, Nat.le_refl _, rfl, rfl⟩

/-- So does a message that asks for an estimate. -/
theorem armed_or_kept_estimate
    (sscanf : Sscanf)
    (h : ℚ)
    (msg : List Byte)
    (length now : Nat)
    (lift : Lift) :
    Armed now (lift.estimate sscanf h msg length now) ∨
      Kept lift (lift.estimate sscanf h msg length now) := by
  unfold estimate
  split
  · exact .inr (.refl lift)
  · split
    · exact .inr (.refl lift)
    · exact .inl (armed_estimateSettings _ _ now lift)

/-- What a command makes of a relay: switching off has the last word. -/
def commanded
    (on off : String)
    (msg : List Byte)
    (relay : Bool) : Bool :=
  (hasText on msg || relay) && !hasText off msg

/-- A command switches the relays and leaves the timer alone. -/
theorem command_spec
    (msg : List Byte)
    (now : Nat)
    (lift : Lift) :
    (lift.command msg now).r1 = commanded "R1ON" "R1OFF" msg lift.r1 ∧
      (lift.command msg now).r2 = commanded "R2ON" "R2OFF" msg lift.r2 ∧
        SameTimer lift (lift.command msg now) := by
  have unchanged : SameTimer lift (lift.command msg now) := by
    unfold command
    constructor <;> split <;> split <;> split <;> split <;> rfl
  refine ⟨?_, ?_, unchanged⟩
  · unfold command commanded
    cases hasText "R1ON" msg <;> cases hasText "R1OFF" msg <;>
      cases hasText "R2ON" msg <;> cases hasText "R2OFF" msg <;>
        simp [ledBlink]
  · unfold command commanded
    cases hasText "R1ON" msg <;> cases hasText "R1OFF" msg <;>
      cases hasText "R2ON" msg <;> cases hasText "R2OFF" msg <;>
        simp [ledBlink]

end Lift

/-- All that a step can do to the relays and the timer. -/
inductive Effect
    (now : Nat)
    (step : LiftStep)
    (before after : Lift) : Prop where
  | switched
      (delivery : Delivery)
      (isMessage : step = .message delivery)
      (isCommand : delivery.IsCommand)
      (r1 :
        after.r1 = Lift.commanded "R1ON" "R1OFF" delivery.text before.r1)
      (r2 :
        after.r2 = Lift.commanded "R2ON" "R2OFF" delivery.text before.r2)
      (sameTimer : Lift.SameTimer before after)
  | armed
      (noTick : step ≠ .tick)
      (armed : Lift.Armed now after)
  | stopped
      (r1 : after.r1 = false)
      (r2 : after.r2 = false)
      (movetime : after.movetime = 0)
  | kept
      (waits :
        step = .tick → before.movetime = 0 ∨
          Lift.since now before.starttime ≤ before.movetime)
      (kept : Lift.Kept before after)

namespace LiftStep

/-- A message is a command, or arms a movement, or does neither. -/
theorem effect_message
    (sscanf : Sscanf)
    (now : Nat)
    (delivery : Delivery)
    (lift : Lift) :
    Effect now (.message delivery) lift
      ((LiftStep.message delivery).apply sscanf now lift) := by
  have armedOrKept {after : Lift}
      (either : Lift.Armed now after ∨ Lift.Kept lift after) :
      Effect now (.message delivery) lift after := by
    rcases either with armed | kept
    · exact .armed (fun isTick => nomatch isTick) armed
    · exact .kept (fun isTick => nomatch isTick) kept
  rw [apply]
  unfold Lift.mqttCallback
  dsimp only
  by_cases isCommand :
      hasText "r2d-fx/command" (cString delivery.topic) = true
  · rw [if_pos isCommand]
    obtain ⟨r1, r2, sameTimer⟩ := Lift.command_spec delivery.text now lift
    exact .switched delivery rfl isCommand r1 r2 sameTimer
  · rw [if_neg isCommand]
    apply armedOrKept
    -- The other topics, in the order in which they are looked for.
    split
    · exact .inr ⟨⟨rfl, rfl, rfl⟩, rfl, rfl⟩
    · split
      · exact Lift.armed_or_kept_presence _ now lift
      · split
        · exact Lift.armed_or_kept_processStatus sscanf _ _ now lift
        · split
          · exact Lift.armed_or_kept_estimate sscanf _ _ _ now lift
          · exact .inr (.refl lift)

/-- A tick stops the lift when the time is over, and waits until then. -/
theorem effect_tick
    (sscanf : Sscanf)
    (now : Nat)
    (lift : Lift) :
    Effect now .tick lift (LiftStep.tick.apply sscanf now lift) := by
  rw [apply]
  unfold Lift.loopClient
  dsimp only
  generalize blinked :
    (if lift.ledTime ≠ 0 ∧ Lift.since now lift.ledTime > Lift.blinkTime then
      { lift with ledTime := 0, led := true }
    else
      lift) = lit
  have kept : Lift.Kept lift lit := by
    rw [← blinked]
    split
    · exact ⟨⟨rfl, rfl, rfl⟩, rfl, rfl⟩
    · exact .refl lift
  by_cases elapsed :
      lit.movetime ≠ 0 ∧ Lift.since now lit.starttime > lit.movetime
  · rw [if_pos elapsed]
    exact .stopped rfl rfl rfl
  · rw [if_neg elapsed]
    refine .kept (fun _ => ?_) kept
    rw [kept.movetime, kept.starttime] at elapsed
    omega

/-- A step has one of the four effects. -/
theorem effect
    (sscanf : Sscanf)
    (now : Nat)
    (step : LiftStep)
    (lift : Lift) :
    Effect now step lift (step.apply sscanf now lift) := by
  cases step with
  | message delivery => exact effect_message sscanf now delivery lift
  | tick => exact effect_tick sscanf now lift

end LiftStep

/-! ## Messages of a broker -/

namespace Delivery

/-- `"presence/event/present"` with the payload `"0"`. -/
def leave : Delivery where
  topic := ascii "presence/event/present"
  payload := ascii "0"
  stack := fun _ => 0
  h := 0

/-- `"r2d-fx/command"` with the payload `"R1ON R2ON"`. -/
def bothOn : Delivery where
  topic := ascii "r2d-fx/command"
  payload := ascii "R1ON R2ON"
  stack := fun _ => 0
  h := 0

end Delivery

/-- `sscanf` on texts without a number. -/
def noNumbers : Sscanf where
  float text := if text = [] then .endOfInput else .mismatch
  int text := if text = [] then .endOfInput else .mismatch

/-! ## The interlock -/

namespace Lift

/-- Are both relays on? -/
def BothHigh (lift : Lift) : Prop :=
  lift.r1 = true ∧ lift.r2 = true

instance (lift : Lift) : Decidable lift.BothHigh :=
  inferInstanceAs (Decidable (lift.r1 = true ∧ lift.r2 = true))

/-- A relay is on after a command. -/
theorem commanded_eq_true
    {on off : String}
    {msg : List Byte}
    {relay : Bool} :
    commanded on off msg relay = true ↔
      (hasText on msg = true ∨ relay = true) ∧ hasText off msg = false := by
  simp [commanded]

end Lift

/-- A command that has both relays switched on, or on already, and none off. -/
structure Delivery.LeavesBothOn
    (delivery : Delivery)
    (lift : Lift) : Prop where
  isCommand : delivery.IsCommand
  firstOn : hasText "R1ON" delivery.text = true ∨ lift.r1 = true
  firstStays : hasText "R1OFF" delivery.text = false
  secondOn : hasText "R2ON" delivery.text = true ∨ lift.r2 = true
  secondStays : hasText "R2OFF" delivery.text = false

namespace LiftStep

variable {sscanf : Sscanf}
variable {now : Nat}
variable {lift : Lift}

/-- Such a command is obeyed. -/
theorem bothHigh_of_leavesBothOn
    (sscanf : Sscanf)
    (now : Nat)
    {delivery : Delivery}
    (leaves : delivery.LeavesBothOn lift) :
    ((LiftStep.message delivery).apply sscanf now lift).BothHigh := by
  rw [apply]
  unfold Lift.mqttCallback
  dsimp only
  rw [if_pos (show hasText _ _ = true from leaves.isCommand)]
  obtain ⟨r1, r2, _⟩ := Lift.command_spec delivery.text now lift
  constructor
  · exact r1.trans
      (Lift.commanded_eq_true.mpr ⟨leaves.firstOn, leaves.firstStays⟩)
  · exact r2.trans
      (Lift.commanded_eq_true.mpr ⟨leaves.secondOn, leaves.secondStays⟩)

/-- No other step closes both relays. -/
theorem leavesBothOn_of_bothHigh
    {step : LiftStep}
    (apart : ¬ lift.BothHigh)
    (both : (step.apply sscanf now lift).BothHigh) :
    ∃ delivery, step = .message delivery ∧ delivery.LeavesBothOn lift := by
  obtain ⟨first, second⟩ := both
  cases step.effect sscanf now lift with
  | switched delivery isMessage isCommand r1 r2 _ =>
      obtain ⟨firstOn, firstStays⟩ :=
        Lift.commanded_eq_true.mp (r1.symm.trans first)
      obtain ⟨secondOn, secondStays⟩ :=
        Lift.commanded_eq_true.mp (r2.symm.trans second)
      exact ⟨delivery, isMessage, isCommand, firstOn, firstStays, secondOn,
        secondStays⟩
  | armed _ armed =>
      have different := armed.apart
      rw [first, second] at different
      contradiction
  | stopped r1 _ _ =>
      rw [r1] at first
      contradiction
  | kept _ kept =>
      exact absurd ⟨kept.r1.symm.trans first, kept.r2.symm.trans second⟩ apart

/--
From outputs that are low, no state of a run has both relays on if and only if
no step of it is a command that leaves both on.
-/
theorem interlocked_iff
    (sscanf : Sscanf)
    (low : lift.r1 = false ∧ lift.r2 = false)
    (steps : List (Nat × LiftStep)) :
    (∀ earlier later, steps = earlier ++ later →
        ¬ (run sscanf earlier lift).BothHigh) ↔
      ∀ earlier now delivery later,
        steps = earlier ++ (now, .message delivery) :: later →
          ¬ delivery.LeavesBothOn (run sscanf earlier lift) := by
  constructor
  · intro interlocked earlier now delivery later split leaves
    apply interlocked (earlier ++ [(now, .message delivery)]) later
    · rw [split, List.append_assoc, List.singleton_append]
    · rw [run, List.foldl_append]
      exact bothHigh_of_leavesBothOn sscanf now leaves
  · intro obeys earlier
    induction earlier using List.reverseRecOn with
    | nil =>
        rintro _ _ ⟨first, _⟩
        rw [run, List.foldl_nil, low.1] at first
        contradiction
    | append_singleton earlier timed inductionHypothesis =>
        obtain ⟨now, step⟩ := timed
        intro later split both
        rw [List.append_assoc, List.singleton_append] at split
        rw [run, List.foldl_append] at both
        obtain ⟨delivery, rfl, leaves⟩ :=
          leavesBothOn_of_bothHigh (inductionHypothesis _ split) both
        exact obeys earlier now delivery later split leaves

/-- The person leaves, and the movement that this starts ends. -/
theorem interlocked_leave :
    ¬ (run noNumbers [(0, .message .leave)] Lift.setupClient).BothHigh := by
  apply (interlocked_iff noNumbers ⟨rfl, rfl⟩
    [(0, .message .leave), (10001, .tick)]).mpr _ _ [(10001, .tick)] rfl
  intro earlier now delivery later split leaves
  have member :
      (now, LiftStep.message delivery) ∈
        [(0, LiftStep.message .leave), (10001, .tick)] := by
    rw [split]
    exact List.mem_append_right earlier List.mem_cons_self
  have isLeave : now = 0 ∧ delivery = .leave := by
    simpa using member
  have isCommand := leaves.isCommand
  rw [isLeave.2, Delivery.IsCommand] at isCommand
  contradiction

/-- One command closes both relays. -/
theorem interlocked_bothOn :
    (Lift.setupClient.r1 = false ∧ Lift.setupClient.r2 = false) ∧
      (run noNumbers [(0, .message .bothOn)] Lift.setupClient).BothHigh := by
  decide

end LiftStep

/-! ## The timer -/

/-- Is a step a command to switch a relay on? -/
def LiftStep.SwitchesOn : LiftStep → Prop
  | .message delivery =>
      delivery.IsCommand ∧
        (hasText "R1ON" (cString delivery.payload) = true ∨
          hasText "R2ON" (cString delivery.payload) = true)
  | .tick => False

/-- Does the payload of a message fit into `msg`? -/
def LiftStep.Fits : LiftStep → Prop
  | .message delivery => delivery.payload.length < Lift.msgSize
  | .tick => True

/-- The lift, the time of the last step, and that of the last tick. -/
structure TimedLift where
  lift : Lift
  now : Nat
  lastTick : Nat

namespace TimedLift

/-- A step at some time. -/
def after
    (sscanf : Sscanf)
    (timed : TimedLift)
    (now : Nat) : LiftStep → TimedLift
  | .message delivery =>
      { timed with
        lift := (LiftStep.message delivery).apply sscanf now timed.lift
        now := now }
  | .tick =>
      { lift := LiftStep.tick.apply sscanf now timed.lift
        now := now
        lastTick := now }

/--
The states of runs without commands that switch on, all of whose steps meet a
condition.  The first step is a tick, since `loop` calls `loop_Client` before
the broker.
-/
inductive Reachable
    (sscanf : Sscanf)
    (condition : LiftStep → Prop) : TimedLift → Prop where
  | first (start : Nat) :
      Reachable sscanf condition
        { lift := Lift.setupClient.loopClient start
          now := start
          lastTick := start }
  | step
      {timed : TimedLift}
      (reachable : Reachable sscanf condition timed)
      {now : Nat}
      (later : timed.now ≤ now)
      {step : LiftStep}
      (soon : step = .tick → now < timed.lastTick + 2 ^ 31)
      (switchesNothingOn : ¬ step.SwitchesOn)
      (meets : condition step) :
      Reachable sscanf condition (timed.after sscanf now step)

/-- A relay that is on is on for a limited time that is looked after. -/
structure Safe (timed : TimedLift) : Prop where
  running :
    timed.lift.r1 = true ∨ timed.lift.r2 = true → timed.lift.movetime ≠ 0
  bounded : timed.lift.movetime ≤ Lift.incrementMax
  ordered : timed.lastTick ≤ timed.now
  armed :
    timed.lift.movetime ≠ 0 →
      ∃ armed, timed.lift.lastArmed = some armed ∧
        timed.lift.starttime = Lift.millis armed ∧
          armed ≤ timed.now ∧
            timed.lastTick ≤ armed + Lift.incrementMax

variable {sscanf : Sscanf}
variable {timed : TimedLift}
variable {now : Nat}

/-- At a tick that comes soon enough, the program sees the true time. -/
theorem since_eq
    {armed : Nat}
    (starttime : timed.lift.starttime = Lift.millis armed)
    (earlier : armed ≤ now)
    (looked : timed.lastTick ≤ armed + Lift.incrementMax)
    (soon : now < timed.lastTick + 2 ^ 31) :
    Lift.since now timed.lift.starttime = now - armed := by
  rw [starttime]
  exact WrappingClock.difference_of_looked earlier looked soon (by decide)

@[simp] theorem lift_after (step : LiftStep) :
    (timed.after sscanf now step).lift = step.apply sscanf now timed.lift := by
  cases step <;> rfl

@[simp] theorem now_after (step : LiftStep) :
    (timed.after sscanf now step).now = now := by
  cases step <;> rfl

/-- The last tick is that of the step, if it is one. -/
theorem lastTick_after (step : LiftStep) :
    (timed.after sscanf now step).lastTick = timed.lastTick ∨
      step = .tick ∧ (timed.after sscanf now step).lastTick = now := by
  cases step with
  | message delivery => exact .inl rfl
  | tick => exact .inr ⟨rfl, rfl⟩

/-- No tick was later than the last step. -/
theorem Safe.lastTick_after_le
    (safe : timed.Safe)
    (later : timed.now ≤ now)
    (step : LiftStep) :
    (timed.after sscanf now step).lastTick ≤ now := by
  cases step with
  | message delivery => exact Nat.le_trans safe.ordered later
  | tick => exact Nat.le_refl now

/-- A step that keeps the timer keeps what is known of it. -/
theorem Safe.armed_after
    (safe : timed.Safe)
    (later : timed.now ≤ now)
    {step : LiftStep}
    (soon : step = .tick → now < timed.lastTick + 2 ^ 31)
    (waits :
      step = .tick → timed.lift.movetime = 0 ∨
        Lift.since now timed.lift.starttime ≤ timed.lift.movetime)
    (sameTimer : Lift.SameTimer timed.lift (step.apply sscanf now timed.lift))
    (running : (step.apply sscanf now timed.lift).movetime ≠ 0) :
    ∃ armed, (step.apply sscanf now timed.lift).lastArmed = some armed ∧
      (step.apply sscanf now timed.lift).starttime = Lift.millis armed ∧
        armed ≤ now ∧
          (timed.after sscanf now step).lastTick ≤
            armed + Lift.incrementMax := by
  rw [sameTimer.movetime] at running
  obtain ⟨armed, lastArmed, starttime, earlier, looked⟩ := safe.armed running
  refine ⟨armed, sameTimer.lastArmed.trans lastArmed,
    sameTimer.starttime.trans starttime, Nat.le_trans earlier later, ?_⟩
  rcases lastTick_after step with same | ⟨isTick, isNow⟩
  · rw [same]
    exact looked
  · rw [isNow]
    rcases waits isTick with off | waiting
    · exact absurd off running
    · rw [since_eq starttime (Nat.le_trans earlier later) looked
        (soon isTick)] at waiting
      have bounded := safe.bounded
      omega

/-- A step that keeps the timer and switches no relay on is safe. -/
theorem Safe.after_sameTimer
    (safe : timed.Safe)
    (later : timed.now ≤ now)
    {step : LiftStep}
    (soon : step = .tick → now < timed.lastTick + 2 ^ 31)
    (waits :
      step = .tick → timed.lift.movetime = 0 ∨
        Lift.since now timed.lift.starttime ≤ timed.lift.movetime)
    (sameTimer : Lift.SameTimer timed.lift (step.apply sscanf now timed.lift))
    (r1 :
      (step.apply sscanf now timed.lift).r1 = true → timed.lift.r1 = true)
    (r2 :
      (step.apply sscanf now timed.lift).r2 = true → timed.lift.r2 = true) :
    (timed.after sscanf now step).Safe where
  running := by
    intro high
    rw [lift_after] at high ⊢
    rw [sameTimer.movetime]
    exact safe.running (high.imp r1 r2)
  bounded := by
    rw [lift_after, sameTimer.movetime]
    exact safe.bounded
  ordered := by
    rw [now_after]
    exact safe.lastTick_after_le later step
  armed := by
    rw [lift_after, now_after]
    exact safe.armed_after later soon waits sameTimer

/-- A step that arms a movement is safe. -/
theorem Safe.after_armed
    (safe : timed.Safe)
    (later : timed.now ≤ now)
    {step : LiftStep}
    (armed : Lift.Armed now (step.apply sscanf now timed.lift)) :
    (timed.after sscanf now step).Safe where
  running := by
    intro _
    rw [lift_after]
    exact armed.positive
  bounded := by
    rw [lift_after]
    exact armed.bounded
  ordered := by
    rw [now_after]
    exact safe.lastTick_after_le later step
  armed := by
    intro _
    rw [lift_after, now_after]
    exact ⟨now, armed.lastArmed, armed.starttime, Nat.le_refl now,
      Nat.le_trans (safe.lastTick_after_le later step)
        (Nat.le_add_right now _)⟩

/-- A step that stops the lift is safe. -/
theorem Safe.after_stopped
    (safe : timed.Safe)
    (later : timed.now ≤ now)
    {step : LiftStep}
    (r1 : (step.apply sscanf now timed.lift).r1 = false)
    (r2 : (step.apply sscanf now timed.lift).r2 = false)
    (movetime : (step.apply sscanf now timed.lift).movetime = 0) :
    (timed.after sscanf now step).Safe where
  running := by
    intro high
    rw [lift_after, r1, r2] at high
    simp at high
  bounded := by
    rw [lift_after, movetime]
    exact Nat.zero_le _
  ordered := by
    rw [now_after]
    exact safe.lastTick_after_le later step
  armed := by
    intro running
    rw [lift_after] at running
    exact absurd movetime running

/-- Every step without such a command keeps the lift safe. -/
theorem Safe.after
    (safe : timed.Safe)
    (later : timed.now ≤ now)
    {step : LiftStep}
    (soon : step = .tick → now < timed.lastTick + 2 ^ 31)
    (switchesNothingOn : ¬ step.SwitchesOn)
    (fits : step.Fits) :
    (timed.after sscanf now step).Safe := by
  cases step.effect sscanf now timed.lift with
  | switched delivery isMessage isCommand r1 r2 sameTimer =>
      rw [isMessage] at switchesNothingOn fits
      rw [Delivery.text_eq fits] at r1 r2
      have firstOff (on : hasText "R1ON" (cString delivery.payload) = true) :
          False :=
        switchesNothingOn ⟨isCommand, .inl on⟩
      have secondOff (on : hasText "R2ON" (cString delivery.payload) = true) :
          False :=
        switchesNothingOn ⟨isCommand, .inr on⟩
      apply safe.after_sameTimer later soon _ sameTimer
      · intro first
        have commanded := Lift.commanded_eq_true.mp (r1.symm.trans first)
        exact commanded.1.resolve_left firstOff
      · intro second
        have commanded := Lift.commanded_eq_true.mp (r2.symm.trans second)
        exact commanded.1.resolve_left secondOff
      · rw [isMessage]
        exact fun isTick => nomatch isTick
  | armed _ armed => exact safe.after_armed later armed
  | stopped r1 r2 movetime => exact safe.after_stopped later r1 r2 movetime
  | kept waits kept =>
      exact safe.after_sameTimer later soon waits kept.toSameTimer
        kept.r1.symm.trans kept.r2.symm.trans

/-- So every state of a run of such messages is safe. -/
theorem Reachable.safe
    (reachable : Reachable sscanf LiftStep.Fits timed) :
    timed.Safe := by
  induction reachable with
  | first start =>
      constructor
      · intro high
        have low :
            (Lift.setupClient.loopClient start).r1 = false ∧
              (Lift.setupClient.loopClient start).r2 = false := ⟨rfl, rfl⟩
        rw [low.1, low.2] at high
        simp at high
      · exact Nat.zero_le _
      · exact Nat.le_refl start
      · intro running
        exact absurd rfl running
  | step _ later soon switchesNothingOn fits inductionHypothesis =>
      exact inductionHypothesis.after later soon switchesNothingOn fits

/-- The person left right before the clock wraps. -/
def leftLift : TimedLift :=
  TimedLift.after noNumbers
    { lift := Lift.setupClient.loopClient (2 ^ 32 - 2)
      now := 2 ^ 32 - 2
      lastTick := 2 ^ 32 - 2 } (2 ^ 32 - 1) (.message .leave)

/-- That is a reachable state. -/
theorem reachable_leftLift : Reachable noNumbers LiftStep.Fits leftLift := by
  apply Reachable.step (Reachable.first (2 ^ 32 - 2)) (by decide)
  · exact fun isTick => nomatch isTick
  · rintro ⟨isCommand, _⟩
    rw [Delivery.IsCommand] at isCommand
    contradiction
  · exact (by decide : (ascii "0").length < Lift.msgSize)

/--
In every run of messages that fit into `msg`, a relay that is on has a movement
with a bounded time, and the tick at which more than this time has passed since
the movement was armed ends it.
-/
theorem stops_in_time
    (reachable : Reachable sscanf LiftStep.Fits timed) :
    (timed.lift.r1 = true ∨ timed.lift.r2 = true →
        timed.lift.movetime ≠ 0 ∧
          timed.lift.movetime ≤ Lift.incrementMax) ∧
      ∀ now armed, timed.now ≤ now → now < timed.lastTick + 2 ^ 31 →
        timed.lift.lastArmed = some armed →
          armed + timed.lift.movetime < now →
            (timed.lift.loopClient now).r1 = false ∧
              (timed.lift.loopClient now).r2 = false ∧
                (timed.lift.loopClient now).movetime = 0 := by
  have safe := reachable.safe
  refine ⟨fun high => ⟨safe.running high, safe.bounded⟩, ?_⟩
  intro now armed later soon isArmed elapsed
  cases LiftStep.tick.effect sscanf now timed.lift with
  | switched delivery isMessage _ _ _ _ => exact nomatch isMessage
  | armed noTick _ => exact absurd rfl noTick
  | stopped r1 r2 movetime => exact ⟨r1, r2, movetime⟩
  | kept waits kept =>
      have idle : timed.lift.movetime = 0 := by
        rcases waits rfl with off | waiting
        · exact off
        · by_contra running
          obtain ⟨armed', lastArmed, starttime, earlier, looked⟩ :=
            safe.armed running
          have sameTime : armed' = armed :=
            Option.some.inj (lastArmed.symm.trans isArmed)
          rw [since_eq starttime (Nat.le_trans earlier later) looked soon]
            at waiting
          omega
      -- Nothing has to be stopped: no relay is on.
      have low (high : timed.lift.r1 = true ∨ timed.lift.r2 = true) : False :=
        safe.running high idle
      have first : timed.lift.r1 = false :=
        Bool.eq_false_of_not_eq_true fun on => low (.inl on)
      have second : timed.lift.r2 = false :=
        Bool.eq_false_of_not_eq_true fun on => low (.inr on)
      exact ⟨kept.r1.trans first, kept.r2.trans second,
        kept.movetime.trans idle⟩

/-- The movement ends after the wrap. -/
theorem stops_in_time_leftLift :
    (leftLift.lift.loopClient (2 ^ 32 + 10000)).r1 = false ∧
      (leftLift.lift.loopClient (2 ^ 32 + 10000)).r2 = false ∧
        (leftLift.lift.loopClient (2 ^ 32 + 10000)).movetime = 0 :=
  (stops_in_time reachable_leftLift).2 (2 ^ 32 + 10000) (2 ^ 32 - 1)
    (by decide) (by decide) (by decide) (by decide)

/--
A command of 320 bytes without the name of a relay.  Behind `msg` stands
`"R1ON"` on the stack.
-/
def overlongCommand : Delivery where
  topic := ascii "r2d-fx/command"
  payload := List.replicate 320 0x78
  stack := fun index => (ascii "R1ON").getD (index - Lift.msgSize) 0
  h := 0

/-- The lift that hears it after its first tick. -/
def overlongLift : TimedLift :=
  TimedLift.after noNumbers
    { lift := Lift.setupClient.loopClient 1
      now := 1
      lastTick := 1 } 2 (.message overlongCommand)

/-- Its text does not end with `msg`, and the relay stays on. -/
theorem not_stops_overlong :
    ¬ (LiftStep.message overlongCommand).SwitchesOn ∧
      Reachable noNumbers (fun _ => True) overlongLift ∧
        overlongLift.lift.r1 = true ∧ overlongLift.lift.movetime = 0 := by
  have namesNoRelay : ¬ (LiftStep.message overlongCommand).SwitchesOn := by
    rintro ⟨_, named⟩
    revert named
    decide +kernel
  refine ⟨namesNoRelay, ?_, by decide +kernel, by decide +kernel⟩
  exact .step (.first 1) (by decide) (fun isTick => nomatch isTick)
    namesNoRelay trivial

end TimedLift

end SimpleTlsBroker
