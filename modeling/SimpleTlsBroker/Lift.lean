import Mathlib.Data.Rat.Floor
import SimpleTlsBroker.CStrings
import SimpleTlsBroker.Message
import SimpleTlsBroker.Library.WrappingClock

namespace SimpleTlsBroker

/-!
# The lift

`app.cpp` is a local client of the broker that drives the two relays of a
motor.  Messages start and reset a movement or switch the relays themselves;
the loop stops a movement when its time is over.  The clock of the model does
not wrap; `millis` is what the program sees of it.
-/

/-! ## Searching and scanning -/

/-- `strstr`: the string from the first place on at which `needle` begins. -/
def strstr (needle : List Byte) : List Byte → Option (List Byte)
  | [] => if needle.isPrefixOf [] then some [] else none
  | byte :: rest =>
      if needle.isPrefixOf (byte :: rest) then
        some (byte :: rest)
      else
        strstr needle rest

/-- It is an end of the string that was searched. -/
theorem suffix_of_strstr
    {needle text rest : List Byte}
    (found : strstr needle text = some rest) :
    rest <:+ text := by
  induction text with
  | nil =>
      unfold strstr at found
      split at found
      · exact Option.some.inj found ▸ List.suffix_refl _
      · exact nomatch found
  | cons byte text inductionHypothesis =>
      unfold strstr at found
      split at found
      · exact Option.some.inj found ▸ List.suffix_refl _
      · exact (inductionHypothesis found).trans (List.suffix_cons byte text)

/-- Is `needle` somewhere in a string? -/
def hasText (needle : String) (text : List Byte) : Bool :=
  (strstr (ascii needle) text).isSome

/-- What `sscanf` returns for one conversion: 1, 0 or `EOF`. -/
inductive Scan (α : Type) where
  | converted (value : α)
  | mismatch
  | endOfInput
  deriving Repr, DecidableEq

/-- `sscanf` with the formats `%f` and `%d`. -/
structure Sscanf where
  float : List Byte → Scan ℚ
  int : List Byte → Scan Int

/--
`sscanf(val, format, &variable) || sscanf(val + 1, format, &variable)`: the
variable afterwards, unless both calls return 0.  `EOF` is true and leaves the
variable as it was.
-/
def scanRetry
    (scan : List Byte → Scan α)
    (val : List Byte)
    (initial : α) : Option α :=
  match scan val with
  | .converted value => some value
  | .endOfInput => some initial
  | .mismatch =>
      match scan val.tail with
      | .converted value => some value
      | .endOfInput => some initial
      | .mismatch => none

/-- The characters that `getJSONval` skips in front of a value. -/
def jsonSeparators : List Byte := ascii ":' \""

/-- `getJSONval`: the string from the value behind a member on. -/
def getJsonVal
    (data : List Byte)
    (member : String)
    (length : Nat) : Option (List Byte) :=
  if length = 0 then
    none
  else
    ((strstr (ascii member) data).bind (strstr (ascii ":"))).map fun val =>
      val.dropWhile fun byte => byte ∈ jsonSeparators

/-- The conversion of a number to an integer type: towards zero. -/
def truncate (number : ℚ) : Int :=
  number.num.tdiv number.den

/-! ## The state -/

/-- What the client publishes. -/
inductive Notice where
  /-- `"r2d-fx/connected"`, `"1"`. -/
  | connected
  /-- `"r2d-fx/info"`: version and address. -/
  | info
  /-- `"r2d-fx/event/state"`: `"### estimated hs=.. hu=.. t=.."`. -/
  | estimated (sitdown standup : ℚ) (time : Nat)
  /-- `"tts/speak"`: `SPEAK_SET`. -/
  | speak
  /-- `"r2d-fx/event/state"`: `"Go back to default"`. -/
  | default
  /-- `"r2d-fx/event/state"`: `"stopped"`. -/
  | stopped
  deriving DecidableEq

/-- What happened to the lift. -/
inductive LiftEvent where
  /-- `estimateSettings` was called. -/
  | estimate (bodySize : Int) (wheelchair : Bool) (now : Nat)
  /-- The person left. -/
  | reset (now : Nat)
  | published (notice : Notice)
  deriving DecidableEq

/-- The outputs and the global variables of `app.cpp`; `true` is `HIGH`. -/
structure Lift where
  r1 : Bool
  r2 : Bool
  led : Bool
  movetime : Nat
  starttime : Nat
  ledTime : Nat
  present : Nat
  ontoilet : Bool
  /-- The events, newest first. -/
  trace : List LiftEvent
  deriving DecidableEq

namespace Lift

/-- `BLINKTIME`. -/
def blinkTime : Nat := 1000

/-- `INCREMENT`. -/
def increment : Nat := 1000

/-- `INCREMENTMAX`. -/
def incrementMax : Nat := 10000

/-- `millis()`, a 32-bit counter. -/
def millis (now : Nat) : Nat :=
  now % 2 ^ 32

/-- `millis() - start` in 32 bits. -/
def since (now start : Nat) : Nat :=
  WrappingClock.difference (2 ^ 32) (millis now) start

/-- `setup_Client`. -/
def setupClient : Lift where
  r1 := false
  r2 := false
  led := true
  movetime := 0
  starttime := 0
  ledTime := 0
  present := 0
  ontoilet := false
  trace := [.published .connected]

/-- Record an event. -/
def log (event : LiftEvent) (lift : Lift) : Lift :=
  { lift with trace := event :: lift.trace }

/-- `MQTTpublish`; the client is subscribed to none of its own topics. -/
def publish (notice : Notice) (lift : Lift) : Lift :=
  lift.log (.published notice)

/-- `UP`. -/
def up (lift : Lift) : Lift :=
  { lift with r1 := true, r2 := false }

/-- `DOWN`. -/
def down (lift : Lift) : Lift :=
  { lift with r2 := true, r1 := false }

/-- `STOP`. -/
def stop (lift : Lift) : Lift :=
  { lift with r2 := false, r1 := false }

/-- `LEDblink`. -/
def ledBlink (now : Nat) (lift : Lift) : Lift :=
  { lift with led := false, ledTime := millis now }

/-- `h_sitdown` and `h_standup` of `estimateSettings`. -/
def heights (bodySize : Int) (wheelchair : Bool) : ℚ × ℚ :=
  let (sitdown, standup) : ℚ × ℚ :=
    if wheelchair then
      (48, 50)
    else
      let bodySize := max (min bodySize 200) 150 - 150
      (50 + bodySize / 8, 53 + bodySize / 8)
  (min sitdown 55 - 47, min standup 65 - 47)

/-- `estimateSettings`. -/
def estimateSettings
    (bodySize : Int)
    (wheelchair : Bool)
    (now : Nat)
    (lift : Lift) : Lift :=
  let lift := lift.log (.estimate bodySize wheelchair now)
  if bodySize = 0 then
    { lift with
      movetime := incrementMax
      starttime := millis now }.down
  else
    let (sitdown, standup) := heights bodySize wheelchair
    let movetime := (truncate (increment * sitdown)).toNat % 2 ^ 32
    (({ lift with
        movetime := movetime
        starttime := millis now }.up).publish
      (.estimated sitdown standup movetime)).publish .speak

/-- Is the first character of a string a `1`? -/
def isOne (text : List Byte) : Bool :=
  text.head? = some 0x31

/-- The member `"on_toilet"` of presence data. -/
def noteToilet
    (msg : List Byte)
    (length : Nat)
    (lift : Lift) : Lift :=
  match getJsonVal msg "on_toilet" length with
  | none => lift
  | some val => if isOne val then { lift with ontoilet := true } else lift

/-- `processstatus`; `h` starts with -1. -/
def processStatus
    (sscanf : Sscanf)
    (msg : List Byte)
    (length now : Nat)
    (lift : Lift) : Lift :=
  if lift.present = 2 then
    match (getJsonVal msg "height" length).bind fun val =>
        scanRetry sscanf.float val (-1) with
    | none => lift
    | some h =>
        let lift := lift.noteToilet msg length
        match getJsonVal msg "wheelchair" length with
        | none => lift
        | some val =>
            { lift.estimateSettings (truncate h) (isOne val) now with
              present := 3 }
  else if lift.present < 2 then
    { lift with present := lift.present + 1 }
  else
    lift

/-- The command case of `mqttCallback`. -/
def command
    (msg : List Byte)
    (now : Nat)
    (lift : Lift) : Lift :=
  let lift :=
    if hasText "R1ON" msg then { lift with r1 := true }.ledBlink now else lift
  let lift :=
    if hasText "R2ON" msg then { lift with r2 := true }.ledBlink now else lift
  let lift :=
    if hasText "R1OFF" msg then { lift with r1 := false }.ledBlink now else lift
  if hasText "R2OFF" msg then { lift with r2 := false }.ledBlink now else lift

/-- The presence case of `mqttCallback`. -/
def presence
    (msg : List Byte)
    (now : Nat)
    (lift : Lift) : Lift :=
  if isOne msg then
    if lift.present = 0 then { lift with present := 1 } else lift
  else
    (({ lift.log (.reset now) with
        ontoilet := false
        present := 0
        movetime := incrementMax
        starttime := millis now }.down).publish .default)

/-- The estimate case of `mqttCallback`; `h` is not initialised. -/
def estimate
    (sscanf : Sscanf)
    (h : ℚ)
    (msg : List Byte)
    (length now : Nat)
    (lift : Lift) : Lift :=
  match (getJsonVal msg "height" length).bind fun val =>
      scanRetry sscanf.float val h with
  | none => lift
  | some h =>
      match (getJsonVal msg "wheelchair" length).bind fun val =>
          scanRetry sscanf.int val 0 with
      | none => lift
      | some w => lift.estimateSettings (truncate h) (w = 1) now

/-- The size of `msg` in `mqttCallback`. -/
def msgSize : Nat := 300

/--
The memory of `msg` after the payload was copied and terminated; `stack` was
there before.
-/
def copyMessage
    (payload : List Byte)
    (stack : Nat → Byte) : Nat → Byte :=
  fun index =>
    if index = payload.length then
      0
    else if index < min payload.length msgSize then
      payload.getD index 0
    else
      stack index

/-- `msg` as a C string: its terminator is at the length of the payload. -/
def message
    (payload : List Byte)
    (stack : Nat → Byte) : List Byte :=
  cString ((List.range payload.length).map (copyMessage payload stack))

/--
`mqttCallback`.  What its local variables hold before they are set, `stack` and
`h`, is arbitrary.
-/
def mqttCallback
    (sscanf : Sscanf)
    (stack : Nat → Byte)
    (h : ℚ)
    (topic payload : List Byte)
    (now : Nat)
    (lift : Lift) : Lift :=
  let topic := cString topic
  let msg := message payload stack
  if hasText "r2d-fx/command" topic then
    lift.command msg now
  else if hasText "r2d-fx/query" topic then
    lift.publish .info
  else if hasText "presence/event/present" topic then
    lift.presence msg now
  else if hasText "presence/event/status" topic then
    lift.processStatus sscanf msg payload.length now
  else if hasText "r2d-fx/estimate" topic then
    lift.estimate sscanf h msg payload.length now
  else
    lift

/-- `loop_Client`. -/
def loopClient (now : Nat) (lift : Lift) : Lift :=
  let lift :=
    if lift.ledTime ≠ 0 ∧ since now lift.ledTime > blinkTime then
      { lift with ledTime := 0, led := true }
    else
      lift
  if lift.movetime ≠ 0 ∧ since now lift.starttime > lift.movetime then
    { lift.stop with movetime := 0 }.publish .stopped
  else
    lift

end Lift

end SimpleTlsBroker
