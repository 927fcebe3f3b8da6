import Mathlib.Data.List.Infix
import SimpleTlsBroker.LiftSafety

namespace SimpleTlsBroker

/-!
# Estimates and the numbers they come from

Two handlers of `mqttCallback` look for a height in a message and call
`estimateSettings` with it.  They take `EOF`, which `sscanf` returns when there
is nothing left to convert, for success, and then go on with whatever their
variable had before.
-/

/-! ## The text of a number -/

section Searching

variable {needle text rest val : List Byte}

/-- What `strstr` finds begins with what it looked for. -/
theorem prefix_of_strstr
    (found : strstr needle text = some rest) :
    needle <+: rest := by
  induction text with
  | nil =>
      unfold strstr at found
      split at found
      · rename_i begins
        exact Option.some.inj found ▸ List.isPrefixOf_iff_prefix.mp begins
      · cases found
  | cons byte text inductionHypothesis =>
      unfold strstr at found
      split at found
      · rename_i begins
        exact Option.some.inj found ▸ List.isPrefixOf_iff_prefix.mp begins
      · exact inductionHypothesis found

/-- A search for a character that a text does not begin with goes behind it. -/
theorem strstr_append
    {byte : Byte}
    (absent : byte ∉ text) :
    strstr [byte] (text ++ rest) = strstr [byte] rest := by
  induction text with
  | nil => rfl
  | cons first text inductionHypothesis =>
      have differs : ¬ byte = first := List.ne_of_not_mem_cons absent
      have later := inductionHypothesis (List.not_mem_of_not_mem_cons absent)
      simp [strstr, List.isPrefixOf, differs, later]

/-- The value that `getJSONval` finds stands behind the name of the member. -/
theorem behind_of_getJsonVal
    {member : String}
    {length : Nat}
    (noColon : 0x3A ∉ ascii member)
    (found : getJsonVal text member length = some val) :
    ∃ before between,
      text = before ++ (ascii member ++ (between ++ val)) := by
  unfold getJsonVal at found
  split at found
  · exact nomatch found
  · obtain ⟨colon, atColon, isVal⟩ := Option.map_eq_some_iff.mp found
    obtain ⟨rest, atMember, atColon⟩ := Option.bind_eq_some_iff.mp atColon
    obtain ⟨before, isText⟩ := suffix_of_strstr atMember
    obtain ⟨behind, isRest⟩ := prefix_of_strstr atMember
    have colonBehind : strstr [0x3A] behind = some colon := by
      rw [← strstr_append noColon, isRest]
      exact atColon
    have isSuffix : val <:+ behind := by
      rw [← isVal]
      exact (List.dropWhile_suffix _).trans (suffix_of_strstr colonBehind)
    obtain ⟨between, isBehind⟩ := isSuffix
    exact ⟨before, between, by rw [isBehind, isRest, isText]⟩

end Searching

/-! ## The result of two scans -/

/-- The outcome of `sscanf(val, ..)`, or of `sscanf(val + 1, ..)` after a 0. -/
def lastScan
    (scan : List Byte → Scan α)
    (val : List Byte) : Scan α :=
  match scan val with
  | .mismatch => scan val.tail
  | outcome => outcome

/-- The variable is set by a conversion, and kept at the end of the input. -/
theorem scanRetry_eq
    (scan : List Byte → Scan α)
    (val : List Byte)
    (initial : α) :
    scanRetry scan val initial =
      match lastScan scan val with
      | .converted value => some value
      | .endOfInput => some initial
      | .mismatch => none := by
  unfold scanRetry lastScan
  cases scan val with
  | converted value => rfl
  | endOfInput => rfl
  | mismatch => rfl

/--
The conversion of a number to `int` is defined.  Infinities and NaN count as
numbers that are too large.
-/
def FitsInt (number : ℚ) : Prop :=
  -2 ^ 31 ≤ truncate number ∧ truncate number < 2 ^ 31

instance (number : ℚ) : Decidable (FitsInt number) :=
  inferInstanceAs
    (Decidable (-2 ^ 31 ≤ truncate number ∧ truncate number < 2 ^ 31))

/-- A scan that gives a height, or says that there is none. -/
def Usable : Scan ℚ → Prop
  | .converted number => FitsInt number
  | .mismatch => True
  | .endOfInput => False

instance (outcome : Scan ℚ) : Decidable (Usable outcome) :=
  match outcome with
  | .converted number => inferInstanceAs (Decidable (FitsInt number))
  | .mismatch => inferInstanceAs (Decidable True)
  | .endOfInput => inferInstanceAs (Decidable False)

/-! ## The calls of `estimateSettings` -/

namespace LiftEvent

/-- The height that `estimateSettings` was called with. -/
def height? : LiftEvent → Option Int
  | .estimate bodySize _ _ => some bodySize
  | _ => none

end LiftEvent

/-- The handlers that call `estimateSettings`. -/
inductive Estimator where
  /-- `processstatus`. -/
  | status
  /-- The estimate case of `mqttCallback`. -/
  | estimate
  deriving Repr, DecidableEq

/-- The handler for a topic, if it is one of the two. -/
def estimator? (topic : List Byte) : Option Estimator :=
  let topic := cString topic
  if hasText "r2d-fx/command" topic then
    none
  else if hasText "r2d-fx/query" topic then
    none
  else if hasText "presence/event/present" topic then
    none
  else if hasText "presence/event/status" topic then
    some .status
  else if hasText "r2d-fx/estimate" topic then
    some .estimate
  else
    none

namespace Lift

variable {sscanf : Sscanf}
variable {text : List Byte}
variable {length now : Nat}
variable {lift : Lift}

/-- The heights that `estimateSettings` was called with, newest first. -/
def estimated (lift : Lift) : List Int :=
  lift.trace.filterMap LiftEvent.height?

/-- Apart from the height, a handler is ready to call `estimateSettings`. -/
def goesOn
    (sscanf : Sscanf)
    (text : List Byte)
    (length : Nat)
    (lift : Lift) : Estimator → Bool
  | .status =>
      decide (lift.present = 2) &&
        (getJsonVal text "wheelchair" length).isSome
  | .estimate =>
      ((getJsonVal text "wheelchair" length).bind fun val =>
        scanRetry sscanf.int val 0).isSome

/-- What the variable of the height has when a handler starts. -/
def initialHeight (h : ℚ) : Estimator → ℚ
  | .status => -1
  | .estimate => h

/-- The height that a handler calls `estimateSettings` with. -/
def calledWith
    (sscanf : Sscanf)
    (h : ℚ)
    (text : List Byte)
    (length : Nat)
    (lift : Lift)
    (handler : Estimator) : Option Int :=
  if lift.goesOn sscanf text length handler then
    ((getJsonVal text "height" length).bind fun val =>
      scanRetry sscanf.float val (initialHeight h handler)).map truncate
  else
    none

@[simp] theorem estimated_estimateSettings
    (bodySize : Int)
    (wheelchair : Bool)
    (now : Nat)
    (lift : Lift) :
    (lift.estimateSettings bodySize wheelchair now).estimated =
      bodySize :: lift.estimated := by
  unfold estimateSettings
  dsimp only
  split <;> rfl

@[simp] theorem estimated_noteToilet
    (msg : List Byte)
    (length : Nat)
    (lift : Lift) :
    (lift.noteToilet msg length).estimated = lift.estimated := by
  unfold noteToilet
  split
  · rfl
  · split <;> rfl

@[simp] theorem estimated_command
    (msg : List Byte)
    (now : Nat)
    (lift : Lift) :
    (lift.command msg now).estimated = lift.estimated := by
  unfold command
  dsimp only
  split <;> split <;> split <;> split <;> rfl

@[simp] theorem estimated_presence
    (msg : List Byte)
    (now : Nat)
    (lift : Lift) :
    (lift.presence msg now).estimated = lift.estimated := by
  unfold presence
  split
  · split <;> rfl
  · rfl

/-- The call of `processstatus`. -/
theorem estimated_processStatus
    (sscanf : Sscanf)
    (h : ℚ)
    (text : List Byte)
    (length now : Nat)
    (lift : Lift) :
    (lift.processStatus sscanf text length now).estimated =
      (lift.calledWith sscanf h text length .status).toList ++
        lift.estimated := by
  unfold processStatus calledWith goesOn initialHeight
  by_cases ready : lift.present = 2
  · rw [if_pos ready]
    cases (getJsonVal text "height" length).bind fun val =>
        scanRetry sscanf.float val (-1) with
    | none => simp
    | some height =>
        have noted := lift.estimated_noteToilet text length
        dsimp only
        generalize lift.noteToilet text length = informed at *
        cases getJsonVal text "wheelchair" length with
        | none => simpa using noted
        | some val =>
            have goes :
                (decide (lift.present = 2) && (some val).isSome) = true := by
              simp [ready]
            have called :=
              estimated_estimateSettings (truncate height) (isOne val) now
                informed
            rw [noted] at called
            rw [if_pos goes]
            exact called
  · rw [if_neg ready]
    have unchanged :
        (if lift.present < 2 then
          { lift with present := lift.present + 1 }
        else
          lift).estimated = lift.estimated := by
      split <;> rfl
    simpa [ready] using unchanged

/-- The call of the estimate case. -/
theorem estimated_estimate
    (sscanf : Sscanf)
    (h : ℚ)
    (text : List Byte)
    (length now : Nat)
    (lift : Lift) :
    (lift.estimate sscanf h text length now).estimated =
      (lift.calledWith sscanf h text length .estimate).toList ++
        lift.estimated := by
  unfold estimate calledWith goesOn initialHeight
  cases (getJsonVal text "height" length).bind fun val =>
      scanRetry sscanf.float val h with
  | none => simp
  | some height =>
      cases (getJsonVal text "wheelchair" length).bind fun val =>
          scanRetry sscanf.int val 0 with
      | none => simp
      | some w => simp

/-- The call of `mqttCallback`, for every topic. -/
theorem estimated_mqttCallback
    (sscanf : Sscanf)
    (delivery : Delivery)
    (now : Nat)
    (lift : Lift) :
    (lift.mqttCallback sscanf delivery.stack delivery.h delivery.topic
        delivery.payload now).estimated =
      ((estimator? delivery.topic).bind
          (lift.calledWith sscanf delivery.h delivery.text
            delivery.payload.length)).toList ++ lift.estimated := by
  unfold mqttCallback estimator?
  dsimp only
  split
  · exact estimated_command _ now lift
  · split
    · rfl
    · split
      · exact estimated_presence _ now lift
      · split
        · exact estimated_processStatus sscanf delivery.h delivery.text
            delivery.payload.length now lift
        · split
          · exact estimated_estimate sscanf delivery.h delivery.text
              delivery.payload.length now lift
          · rfl

end Lift

/-! ## Heights that were parsed -/

/--
A height is the integer part of a number that `sscanf` converted, from the
value behind a `"height"` in a payload.
-/
def Parsed
    (sscanf : Sscanf)
    (payload : List Byte)
    (height : Int) : Prop :=
  ∃ before between val number,
    cString payload = before ++ (ascii "height" ++ (between ++ val)) ∧
      getJsonVal (cString payload) "height" payload.length = some val ∧
      lastScan sscanf.float val = .converted number ∧
      FitsInt number ∧
      height = truncate number

/-- Every call of `estimateSettings` for a message is with a parsed height. -/
def OnlyParsed
    (sscanf : Sscanf)
    (payload : List Byte)
    (lift after : Lift) : Prop :=
  ∃ heights,
    after.estimated = heights ++ lift.estimated ∧
      ∀ height ∈ heights, Parsed sscanf payload height

namespace Lift

variable {sscanf : Sscanf}
variable {payload : List Byte}
variable {lift after : Lift}

/-- The new calls are known from the calls before. -/
theorem onlyParsed_iff
    {heights : List Int}
    (called : after.estimated = heights ++ lift.estimated) :
    OnlyParsed sscanf payload lift after ↔
      ∀ height ∈ heights, Parsed sscanf payload height := by
  constructor
  · rintro ⟨others, same, parsed⟩
    have isHeights : others = heights :=
      List.append_cancel_right (same.symm.trans called)
    exact isHeights ▸ parsed
  · intro parsed
    exact ⟨heights, called, parsed⟩

/-- A value is where `getJSONval` finds it, so only its scan matters. -/
theorem parsed_iff
    {val : List Byte}
    {height : Int}
    (found :
      getJsonVal (cString payload) "height" payload.length = some val) :
    Parsed sscanf payload height ↔
      ∃ number,
        lastScan sscanf.float val = .converted number ∧
          FitsInt number ∧
          height = truncate number := by
  constructor
  · rintro ⟨_, _, other, number, -, alsoFound, converted, fits, isHeight⟩
    have same : val = other := Option.some.inj (found.symm.trans alsoFound)
    exact ⟨number, same ▸ converted, fits, isHeight⟩
  · rintro ⟨number, converted, fits, isHeight⟩
    obtain ⟨before, between, isText⟩ :=
      behind_of_getJsonVal (by decide) found
    exact ⟨before, between, val, number, isText, found, converted, fits,
      isHeight⟩

/-- The height of one handler is parsed if its last scan is usable. -/
theorem parsed_scanRetry_iff
    {val : List Byte}
    (sscanf : Sscanf)
    (initial : ℚ)
    (found :
      getJsonVal (cString payload) "height" payload.length = some val) :
    (∀ height ∈ (scanRetry sscanf.float val initial).map truncate,
        Parsed sscanf payload height) ↔
      Usable (lastScan sscanf.float val) := by
  simp only [parsed_iff found, scanRetry_eq]
  cases lastScan sscanf.float val with
  | converted number => simp [Usable]
  | endOfInput => simp [Usable]
  | mismatch => simp [Usable]

/-- The same for the handler as a whole. -/
theorem parsed_calledWith_iff
    (sscanf : Sscanf)
    (h : ℚ)
    (payload : List Byte)
    (lift : Lift)
    (handler : Estimator) :
    (∀ height ∈ lift.calledWith sscanf h (cString payload) payload.length
        handler, Parsed sscanf payload height) ↔
      (lift.goesOn sscanf (cString payload) payload.length handler = true →
        ∀ val,
          getJsonVal (cString payload) "height" payload.length = some val →
            Usable (lastScan sscanf.float val)) := by
  unfold calledWith
  by_cases goes :
      lift.goesOn sscanf (cString payload) payload.length handler = true
  · rw [if_pos goes]
    cases found : getJsonVal (cString payload) "height" payload.length with
    | none => simp
    | some val =>
        have parsed :=
          parsed_scanRetry_iff sscanf (initialHeight h handler) found
        simpa [goes] using parsed
  · simp [goes]

/--
The heights that a message that fits into `msg` moves the lift to are parsed
exactly if a handler that goes on does not find the end of the input in place
of the height, and finds no number that is too large.
-/
theorem only_parsed_iff
    (sscanf : Sscanf)
    {delivery : Delivery}
    (short : delivery.payload.length < Lift.msgSize)
    (now : Nat)
    (lift : Lift) :
    OnlyParsed sscanf delivery.payload lift
        (lift.mqttCallback sscanf delivery.stack delivery.h delivery.topic
          delivery.payload now) ↔
      ∀ handler,
        estimator? delivery.topic = some handler →
          lift.goesOn sscanf (cString delivery.payload)
              delivery.payload.length handler = true →
            ∀ val,
              getJsonVal (cString delivery.payload) "height"
                  delivery.payload.length = some val →
                Usable (lastScan sscanf.float val) := by
  have called := lift.estimated_mqttCallback sscanf delivery now
  rw [Delivery.text_eq short] at called
  rw [onlyParsed_iff called]
  cases estimator? delivery.topic with
  | none => simp
  | some handler =>
      have parsed :=
        parsed_calledWith_iff sscanf delivery.h delivery.payload lift handler
      simpa using parsed

end Lift

/-! ## A height that nobody sent -/

/-- The number of a text of decimal digits, behind blanks. -/
def scanDigits (text : List Byte) : Scan Int :=
  let text := text.dropWhile fun byte => byte ∈ ascii " \t\n\r"
  let digits := text.takeWhile fun byte => decide (IsDigit byte)
  if text = [] then
    .endOfInput
  else if digits = [] then
    .mismatch
  else
    .converted
      (digits.foldl (fun number digit => 10 * number + (digit.toNat - 48)) 0)

/-- `sscanf` on texts whose numbers have digits only. -/
def digitsOnly : Sscanf where
  float text :=
    match scanDigits text with
    | .converted number => .converted number
    | .mismatch => .mismatch
    | .endOfInput => .endOfInput
  int := scanDigits

/-- An estimate for a person of 170 cm. -/
def Delivery.height : Delivery where
  topic := ascii "r2d-fx/estimate"
  payload := ascii "\x7b\"wheelchair\":0,\"height\":170\x7d"
  stack := fun _ => 0
  h := 0

/-- The lift moves to the height that was sent. -/
theorem only_parsed_height :
    OnlyParsed digitsOnly Delivery.height.payload Lift.setupClient
      (Lift.setupClient.mqttCallback digitsOnly Delivery.height.stack
        Delivery.height.h Delivery.height.topic Delivery.height.payload 0) := by
  apply (Lift.only_parsed_iff digitsOnly (by decide) 0 Lift.setupClient).mpr
  intro handler _ _ val found
  have isVal : some (ascii "170\x7d") = some val := by
    rw [← found]
    decide +kernel
  rw [← Option.some.inj isVal]
  have converted :
      lastScan digitsOnly.float (ascii "170\x7d") = .converted 170 := by
    decide +kernel
  rw [converted]
  exact (by decide +kernel : FitsInt 170)

/-- An estimate without a value for the height; 170 was on the stack. -/
def Delivery.noHeight : Delivery where
  topic := ascii "r2d-fx/estimate"
  payload := ascii "\x7b\"wheelchair\":0,\"height\":\x7d"
  stack := fun _ => 0
  h := 170

/--
The value is `"}"`.  The second call of `sscanf` starts behind it, and its
`EOF` passes for a height.
-/
theorem not_only_parsed_noHeight :
    ¬ OnlyParsed digitsOnly Delivery.noHeight.payload Lift.setupClient
      (Lift.setupClient.mqttCallback digitsOnly Delivery.noHeight.stack
        Delivery.noHeight.h Delivery.noHeight.topic
        Delivery.noHeight.payload 0) := by
  rintro ⟨heights, called, parsed⟩
  have isHeight : heights = [170] := by
    have moved :
        (Lift.setupClient.mqttCallback digitsOnly Delivery.noHeight.stack
          Delivery.noHeight.h Delivery.noHeight.topic
          Delivery.noHeight.payload 0).estimated = [170] := by
      decide +kernel
    have notBefore : Lift.setupClient.estimated = [] := rfl
    rw [moved, notBefore, List.append_nil] at called
    exact called.symm
  obtain ⟨_, _, val, number, -, found, converted, -, -⟩ :=
    parsed 170 (by simp [isHeight])
  have isVal : some [0x7D] = some val := by
    rw [← found]
    decide +kernel
  have atEnd : lastScan digitsOnly.float [0x7D] = .endOfInput := by
    decide +kernel
  rw [← Option.some.inj isVal, atEnd] at converted
  exact nomatch converted

end SimpleTlsBroker
