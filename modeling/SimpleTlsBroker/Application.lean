import SimpleTlsBroker.Lift

namespace SimpleTlsBroker

/-!
# The functions of the application

In the program `MQTTpublish` is not the end of the matter: the broker delivers
what is published while the function that publishes it is still running.  Here
the functions of `app.cpp` are written for a host that has the variables of the
lift among others and says what `MQTTpublish` does.  As long as `MQTTpublish`
leaves these variables alone, they become what they become without a broker.
-/

namespace LiftEvent

/-- What an event publishes. -/
def notice? : LiftEvent → Option Notice
  | .published notice => some notice
  | .estimate _ _ _ | .reset _ => none

end LiftEvent

namespace Lift

/-- What was published so far, oldest first. -/
def notices (lift : Lift) : List Notice :=
  lift.trace.reverse.filterMap LiftEvent.notice?

/-- One event more. -/
theorem notices_log
    (event : LiftEvent)
    (lift : Lift) :
    (lift.log event).notices = lift.notices ++ event.notice?.toList := by
  unfold notices log
  rw [List.reverse_cons, List.filterMap_append]
  cases published : event.notice? <;> simp [published]

/-- A change that publishes nothing. -/
def Silent (change : Lift → Lift) : Prop :=
  ∀ lift, (change lift).notices = lift.notices

end Lift

/-- The variables of the lift, and `MQTTpublish`, which may not return. -/
structure Host (State : Type) where
  lift : State → Lift
  setLift : State → Lift → State
  publish : Notice → State → Option State

namespace Host

variable {State : Type}

/-- Change the variables. -/
def modify
    (host : Host State)
    (change : Lift → Lift)
    (state : State) : State :=
  host.setLift state (change (host.lift state))

/-- `estimateSettings`. -/
def estimateSettings
    (host : Host State)
    (bodySize : Int)
    (wheelchair : Bool)
    (now : Nat)
    (state : State) : Option State :=
  let state := host.modify (Lift.log (.estimate bodySize wheelchair now)) state
  if bodySize = 0 then
    some
      (host.modify
        (fun lift =>
          { lift with
            movetime := Lift.incrementMax
            starttime := Lift.millis now }.down)
        state)
  else
    let (sitdown, standup) := Lift.heights bodySize wheelchair
    let movetime := (truncate (Lift.increment * sitdown)).toNat % 2 ^ 32
    let state :=
      host.modify
        (fun lift =>
          { lift with
            movetime := movetime
            starttime := Lift.millis now }.up)
        state
    (host.publish (.estimated sitdown standup movetime) state).bind
      (host.publish .speak)

/-- `processstatus`. -/
def processStatus
    (host : Host State)
    (sscanf : Sscanf)
    (msg : List Byte)
    (length now : Nat)
    (state : State) : Option State :=
  if (host.lift state).present = 2 then
    match (getJsonVal msg "height" length).bind fun val =>
        scanRetry sscanf.float val (-1) with
    | none => some state
    | some h =>
        let state := host.modify (Lift.noteToilet msg length) state
        match getJsonVal msg "wheelchair" length with
        | none => some state
        | some val =>
            (host.estimateSettings (truncate h) (Lift.isOne val) now
              state).map (host.modify fun lift => { lift with present := 3 })
  else if (host.lift state).present < 2 then
    some
      (host.modify (fun lift => { lift with present := lift.present + 1 })
        state)
  else
    some state

/-- The presence case of `mqttCallback`. -/
def presence
    (host : Host State)
    (msg : List Byte)
    (now : Nat)
    (state : State) : Option State :=
  if Lift.isOne msg then
    some
      (if (host.lift state).present = 0 then
        host.modify (fun lift => { lift with present := 1 }) state
      else
        state)
  else
    host.publish .default
      (host.modify
        (fun lift =>
          { lift.log (.reset now) with
            ontoilet := false
            present := 0
            movetime := Lift.incrementMax
            starttime := Lift.millis now }.down)
        state)

/-- The estimate case of `mqttCallback`. -/
def estimate
    (host : Host State)
    (sscanf : Sscanf)
    (h : ℚ)
    (msg : List Byte)
    (length now : Nat)
    (state : State) : Option State :=
  match (getJsonVal msg "height" length).bind fun val =>
      scanRetry sscanf.float val h with
  | none => some state
  | some h =>
      match (getJsonVal msg "wheelchair" length).bind fun val =>
          scanRetry sscanf.int val 0 with
      | none => some state
      | some w => host.estimateSettings (truncate h) (w = 1) now state

/-- `mqttCallback`. -/
def mqttCallback
    (host : Host State)
    (sscanf : Sscanf)
    (stack : Nat → Byte)
    (h : ℚ)
    (topic payload : List Byte)
    (now : Nat)
    (state : State) : Option State :=
  let topic := cString topic
  let msg := Lift.message payload stack
  if hasText "r2d-fx/command" topic then
    some (host.modify (Lift.command msg now) state)
  else if hasText "r2d-fx/query" topic then
    host.publish .info state
  else if hasText "presence/event/present" topic then
    host.presence msg now state
  else if hasText "presence/event/status" topic then
    host.processStatus sscanf msg payload.length now state
  else if hasText "r2d-fx/estimate" topic then
    host.estimate sscanf h msg payload.length now state
  else
    some state

/-- `loop_Client`. -/
def loopClient
    (host : Host State)
    (now : Nat)
    (state : State) : Option State :=
  let state :=
    if (host.lift state).ledTime ≠ 0 ∧
        Lift.since now (host.lift state).ledTime > Lift.blinkTime then
      host.modify (fun lift => { lift with ledTime := 0, led := true }) state
    else
      state
  if (host.lift state).movetime ≠ 0 ∧
      Lift.since now (host.lift state).starttime >
        (host.lift state).movetime then
    host.publish .stopped
      (host.modify (fun lift => { lift.stop with movetime := 0 }) state)
  else
    some state

/-! ## A publisher that leaves the lift alone -/

/-- `MQTTpublish` returns, and does to the lift what it does without a broker. -/
structure Steady
    (host : Host State)
    (good : State → Prop) : Prop where
  stored : ∀ state lift, host.lift (host.setLift state lift) = lift
  modify :
    ∀ state change, good state → Lift.Silent change →
      good (host.modify change state)
  publish :
    ∀ state notice, good state →
      ∃ after, host.publish notice state = some after ∧ good after ∧
        host.lift after = (host.lift state).publish notice

/-- A function returns with the lift in some state. -/
def Returns
    (host : Host State)
    (good : State → Prop)
    (result : Option State)
    (lift : Lift) : Prop :=
  ∃ after, result = some after ∧ good after ∧ host.lift after = lift

variable {host : Host State}
variable {good : State → Prop}
variable {state : State}

/-- What returns at once. -/
theorem Returns.now (isGood : good state) :
    host.Returns good (some state) (host.lift state) :=
  ⟨state, rfl, isGood, rfl⟩

/-- One function after another. -/
theorem Returns.bind
    {result : Option State}
    {lift lift' : Lift}
    {next : State → Option State}
    (first : host.Returns good result lift)
    (second :
      ∀ after, good after → host.lift after = lift →
        host.Returns good (next after) lift') :
    host.Returns good (result.bind next) lift' := by
  obtain ⟨after, rfl, isGood, isLift⟩ := first
  exact second after isGood isLift

namespace Steady

/-- A change of the variables. -/
theorem changes
    {change : Lift → Lift}
    (steady : host.Steady good)
    (isGood : good state)
    (silent : Lift.Silent change) :
    good (host.modify change state) ∧
      host.lift (host.modify change state) = change (host.lift state) :=
  ⟨steady.modify state change isGood silent, steady.stored _ _⟩

/-- A change of the variables is all that is done. -/
theorem modified
    {change : Lift → Lift}
    (steady : host.Steady good)
    (isGood : good state)
    (silent : Lift.Silent change) :
    host.Returns good (some (host.modify change state))
      (change (host.lift state)) := by
  obtain ⟨isGoodAfter, isLift⟩ := steady.changes isGood silent
  exact ⟨_, rfl, isGoodAfter, isLift⟩

/-- A change of the variables, and a publication. -/
theorem published
    {change : Lift → Lift}
    (steady : host.Steady good)
    (isGood : good state)
    (silent : Lift.Silent change)
    (notice : Notice) :
    host.Returns good (host.publish notice (host.modify change state))
      ((change (host.lift state)).publish notice) := by
  obtain ⟨isGoodAfter, isLift⟩ := steady.changes isGood silent
  rw [← isLift]
  exact steady.publish _ notice isGoodAfter

/-- `estimateSettings`. -/
theorem estimateSettings
    (steady : host.Steady good)
    (isGood : good state)
    (bodySize : Int)
    (wheelchair : Bool)
    (now : Nat) :
    host.Returns good (host.estimateSettings bodySize wheelchair now state)
      ((host.lift state).estimateSettings bodySize wheelchair now) := by
  have silent :
      Lift.Silent (Lift.log (.estimate bodySize wheelchair now)) := by
    intro lift
    rw [Lift.notices_log]
    exact List.append_nil _
  obtain ⟨isGoodLogged, isLogged⟩ := steady.changes isGood silent
  unfold Host.estimateSettings Lift.estimateSettings
  dsimp only
  rw [← isLogged]
  split
  · apply steady.modified isGoodLogged
    exact fun _ => rfl
  · apply Returns.bind
    · apply steady.published isGoodLogged
      exact fun _ => rfl
    · intro after isGoodAfter isLift
      rw [← isLift]
      exact steady.publish after .speak isGoodAfter

/-- `processstatus`. -/
theorem processStatus
    (steady : host.Steady good)
    (isGood : good state)
    (sscanf : Sscanf)
    (msg : List Byte)
    (length now : Nat) :
    host.Returns good (host.processStatus sscanf msg length now state)
      ((host.lift state).processStatus sscanf msg length now) := by
  have silent : Lift.Silent (Lift.noteToilet msg length) := by
    intro lift
    unfold Lift.noteToilet
    split
    · rfl
    · split <;> rfl
  unfold Host.processStatus Lift.processStatus
  split
  · cases (getJsonVal msg "height" length).bind fun val =>
        scanRetry sscanf.float val (-1) with
    | none => exact .now isGood
    | some h =>
        obtain ⟨isGoodNoted, isNoted⟩ := steady.changes isGood silent
        dsimp only
        rw [← isNoted]
        cases getJsonVal msg "wheelchair" length with
        | none => exact .now isGoodNoted
        | some val =>
            dsimp only
            rw [Option.map_eq_bind]
            apply Returns.bind
            · exact steady.estimateSettings isGoodNoted _ _ now
            · intro after isGoodAfter isLift
              rw [← isLift]
              apply steady.modified isGoodAfter
              exact fun _ => rfl
  · split
    · apply steady.modified isGood
      exact fun _ => rfl
    · exact .now isGood

/-- The presence case of `mqttCallback`. -/
theorem presence
    (steady : host.Steady good)
    (isGood : good state)
    (msg : List Byte)
    (now : Nat) :
    host.Returns good (host.presence msg now state)
      ((host.lift state).presence msg now) := by
  unfold Host.presence Lift.presence
  split
  · split
    · apply steady.modified isGood
      exact fun _ => rfl
    · exact .now isGood
  · apply steady.published isGood
    intro lift
    change (lift.log (.reset now)).notices = lift.notices
    rw [Lift.notices_log]
    exact List.append_nil _

/-- The estimate case of `mqttCallback`. -/
theorem estimate
    (steady : host.Steady good)
    (isGood : good state)
    (sscanf : Sscanf)
    (h : ℚ)
    (msg : List Byte)
    (length now : Nat) :
    host.Returns good (host.estimate sscanf h msg length now state)
      ((host.lift state).estimate sscanf h msg length now) := by
  unfold Host.estimate Lift.estimate
  cases (getJsonVal msg "height" length).bind fun val =>
      scanRetry sscanf.float val h with
  | none => exact .now isGood
  | some h =>
      dsimp only
      cases (getJsonVal msg "wheelchair" length).bind fun val =>
          scanRetry sscanf.int val 0 with
      | none => exact .now isGood
      | some w => exact steady.estimateSettings isGood _ _ now

/-- `mqttCallback` returns, and the lift is what it is without a broker. -/
theorem mqttCallback
    (steady : host.Steady good)
    (isGood : good state)
    (sscanf : Sscanf)
    (stack : Nat → Byte)
    (h : ℚ)
    (topic payload : List Byte)
    (now : Nat) :
    host.Returns good
      (host.mqttCallback sscanf stack h topic payload now state)
      ((host.lift state).mqttCallback sscanf stack h topic payload now) := by
  have silent (msg : List Byte) : Lift.Silent (Lift.command msg now) := by
    intro lift
    unfold Lift.command
    dsimp only
    split_ifs <;> rfl
  unfold Host.mqttCallback Lift.mqttCallback
  dsimp only
  split
  · exact steady.modified isGood (silent _)
  · split
    · exact steady.publish state .info isGood
    · split
      · exact steady.presence isGood _ now
      · split
        · exact steady.processStatus isGood sscanf _ _ now
        · split
          · exact steady.estimate isGood sscanf h _ _ now
          · exact .now isGood

/-- So does `loop_Client`. -/
theorem loopClient
    (steady : host.Steady good)
    (isGood : good state)
    (now : Nat) :
    host.Returns good (host.loopClient now state)
      ((host.lift state).loopClient now) := by
  have blinked
      {state : State}
      (isGood : good state) :
      host.Returns good
        (if (host.lift state).movetime ≠ 0 ∧
            Lift.since now (host.lift state).starttime >
              (host.lift state).movetime then
          host.publish .stopped
            (host.modify (fun lift => { lift.stop with movetime := 0 }) state)
        else
          some state)
        (if (host.lift state).movetime ≠ 0 ∧
            Lift.since now (host.lift state).starttime >
              (host.lift state).movetime then
          { (host.lift state).stop with movetime := 0 }.publish .stopped
        else
          host.lift state) := by
    split
    · apply steady.published isGood
      exact fun _ => rfl
    · exact .now isGood
  have silent :
      Lift.Silent fun lift => { lift with ledTime := 0, led := true } :=
    fun _ => rfl
  unfold Host.loopClient Lift.loopClient
  dsimp only
  split
  · obtain ⟨isGoodAfter, isLift⟩ := steady.changes isGood silent
    have later := blinked isGoodAfter
    rw [isLift] at later ⊢
    exact later
  · exact blinked isGood

end Steady

end Host

end SimpleTlsBroker
