import SimpleTlsBroker.Admission
import SimpleTlsBroker.Lift
import SimpleTlsBroker.PublishPayload

namespace SimpleTlsBroker

/-!
# The message buffer of the callback

`mqttCallback` copies at most 300 bytes of a payload into `msg[300]`, but ends
them at the length of the payload.  If that is inside the buffer, so is every
byte that is read when `msg` is searched.
-/

open Memory

/-! ## Searching memory -/

namespace Parse

/-- A string and its terminator stand in memory. -/
structure StringAt
    (memory : Nat → Byte)
    (pointer : Nat)
    (text : List Byte) : Prop where
  holds : Holds memory pointer (text ++ [0])
  noNul : 0 ∉ text

/-- `strstr`: a pointer to the first place at which `needle` begins. -/
def strstr (needle : List Byte) : Nat → Nat → Parse (Option Nat)
  | 0, _ => pure none
  | fuel + 1, pointer => do
      let found ← startsWith needle pointer
      if found then
        pure (some pointer)
      else do
        let byte ← readByte pointer
        if byte = 0 then
          pure none
        else
          strstr needle fuel (pointer + 1)

/-- The loop of `getJSONval` over the separators in front of a value. -/
def skipSeparators : Nat → Nat → Parse Nat
  | 0, val => pure val
  | fuel + 1, val => do
      let byte ← readByte val
      if byte ≠ 0 ∧ byte ∈ jsonSeparators then
        skipSeparators fuel (val + 1)
      else
        pure val

/-- `getJSONval`: a pointer to the value behind a member. -/
def getJsonVal
    (fuel data : Nat)
    (member : String)
    (length : Nat) : Parse (Option Nat) :=
  if length = 0 then
    pure none
  else do
    match ← strstr (ascii member) fuel data with
    | none => pure none
    | some val =>
        match ← strstr (ascii ":") fuel val with
        | none => pure none
        | some val => do
            let val ← skipSeparators fuel val
            pure (some val)

variable {memory : Nat → Byte}
variable {pointer ending fuel : Nat}
variable {text needle : List Byte}

/-- A pointer into a string that ends at some address, as what it points to. -/
def PointsInto
    (memory : Nat → Byte)
    (ending : Nat) : Option Nat → Option (List Byte) → Prop
  | none, none => True
  | some pointer, some rest =>
      StringAt memory pointer rest ∧ pointer + rest.length = ending
  | _, _ => False

/-- There is a pointer exactly if there is a string. -/
theorem PointsInto.cases
    {found : Option Nat}
    {rest? : Option (List Byte)}
    (points : PointsInto memory ending found rest?) :
    (found = none ∧ rest? = none) ∨
      ∃ val rest, found = some val ∧ rest? = some rest ∧
        StringAt memory val rest ∧ val + rest.length = ending := by
  match found, rest?, points with
  | none, none, _ => exact .inl ⟨rfl, rfl⟩
  | some val, some rest, points =>
      exact .inr ⟨val, rest, rfl, rfl, points⟩

/-- A string has its terminator behind it. -/
theorem StringAt.nil
    (string : StringAt memory pointer []) :
    memory pointer = 0 :=
  string.holds.1

/-- The first byte of a string, and the others. -/
theorem StringAt.cons
    {byte : Byte}
    (string : StringAt memory pointer (byte :: text)) :
    memory pointer = byte ∧ byte ≠ 0 ∧ StringAt memory (pointer + 1) text :=
  ⟨string.holds.1, fun isNul => string.noNul (isNul ▸ List.mem_cons_self),
    string.holds.2, List.not_mem_of_not_mem_cons string.noNul⟩

/-- A comparison ends in the string, and sees whether the needle begins it. -/
theorem startsWith_spec
    (string : StringAt memory pointer text)
    (noNul : 0 ∉ needle) :
    (startsWith needle pointer).run memory = needle.isPrefixOf text ∧
      ∀ offset ∈ (startsWith needle pointer).reads memory,
        offset ≤ pointer + text.length := by
  induction needle generalizing pointer text with
  | nil => exact ⟨by cases text <;> rfl, by simp [startsWith]⟩
  | cons expected rest inductionHypothesis =>
      have notNul : 0 ≠ expected := List.ne_of_not_mem_cons noNul
      have noNulRest := List.not_mem_of_not_mem_cons noNul
      cases text with
      | nil =>
          have differs : ¬ memory pointer = expected := by
            rw [string.nil]
            exact notNul
          simp [startsWith, differs]
      | cons byte text =>
          obtain ⟨isByte, _, stringRest⟩ := string.cons
          obtain ⟨run, reads⟩ := inductionHypothesis stringRest noNulRest
          by_cases same : byte = expected
          · have found : memory pointer = expected := isByte.trans same
            simp only [startsWith, run_bind, run_readByte, found, if_pos,
              reads_bind, reads_readByte, run, List.singleton_append,
              List.mem_cons, List.length_cons]
            refine ⟨by simp [same], ?_⟩
            rintro offset (isFirst | later)
            · omega
            · have inRest := reads offset later
              omega
          · have differs : ¬ memory pointer = expected := isByte ▸ same
            have notPrefix : ¬ expected = byte := fun h => same h.symm
            simp [startsWith, differs, List.isPrefixOf, notPrefix]

/-- A string that begins with the needle is found at once. -/
theorem strstr_begins
    (string : StringAt memory pointer text)
    (noNul : 0 ∉ needle)
    (begins : needle.isPrefixOf text = true)
    (fuel : Nat) :
    PointsInto memory (pointer + text.length)
        ((strstr needle (fuel + 1) pointer).run memory)
        (SimpleTlsBroker.strstr needle text) ∧
      ∀ offset ∈ (strstr needle (fuel + 1) pointer).reads memory,
        offset ≤ pointer + text.length := by
  obtain ⟨run, reads⟩ := startsWith_spec string noNul
  have found : SimpleTlsBroker.strstr needle text = some text := by
    cases text with
    | nil => exact if_pos begins
    | cons byte rest => exact if_pos begins
  rw [begins] at run
  rw [found]
  simp only [strstr, run_bind, reads_bind, run, if_true, run_pure,
    reads_pure, List.append_nil]
  exact ⟨⟨string, rfl⟩, reads⟩

/-- `strstr` reads nothing behind the string, and finds what is there. -/
theorem strstr_spec
    (string : StringAt memory pointer text)
    (noNul : 0 ∉ needle)
    (enough : text.length < fuel) :
    PointsInto memory (pointer + text.length)
        ((strstr needle fuel pointer).run memory)
        (SimpleTlsBroker.strstr needle text) ∧
      ∀ offset ∈ (strstr needle fuel pointer).reads memory,
        offset ≤ pointer + text.length := by
  obtain ⟨fuel, rfl⟩ := Nat.exists_eq_add_one.mpr (Nat.zero_lt_of_lt enough)
  induction text generalizing pointer fuel with
  | nil =>
      cases begins : needle.isPrefixOf ([] : List Byte) with
      | true => exact strstr_begins string noNul begins fuel
      | false =>
          obtain ⟨run, reads⟩ := startsWith_spec string noNul
          rw [begins] at run
          simp only [strstr, SimpleTlsBroker.strstr, run_bind, reads_bind,
            run, begins, Bool.false_eq_true, if_false, run_readByte,
            reads_readByte, string.nil, if_true, run_pure, reads_pure,
            List.append_nil, List.mem_append, List.mem_singleton]
          refine ⟨trivial, ?_⟩
          rintro offset (compared | rfl)
          · exact reads offset compared
          · exact Nat.le_add_right _ _
  | cons byte rest inductionHypothesis =>
      cases begins : needle.isPrefixOf (byte :: rest) with
      | true => exact strstr_begins string noNul begins fuel
      | false =>
          obtain ⟨isByte, notNul, stringRest⟩ := string.cons
          obtain ⟨run, reads⟩ := startsWith_spec string noNul
          obtain ⟨fuel, rfl⟩ :=
            Nat.exists_eq_add_one.mpr
              (Nat.zero_lt_of_lt (Nat.lt_of_succ_lt_succ enough))
          obtain ⟨points, later⟩ :=
            inductionHypothesis stringRest fuel
              (Nat.lt_of_succ_lt_succ enough)
          have lengths : pointer + 1 + rest.length =
              pointer + (byte :: rest).length := by
            rw [List.length_cons]
            omega
          rw [begins] at run
          rw [lengths] at points later
          rw [strstr]
          simp only [SimpleTlsBroker.strstr, run_bind, reads_bind,
            run, begins, Bool.false_eq_true, if_false, run_readByte,
            reads_readByte, isByte, notNul, List.mem_append,
            List.mem_singleton]
          refine ⟨points, ?_⟩
          rintro offset (compared | rfl | inRest)
          · exact reads offset compared
          · exact Nat.le_add_right _ _
          · exact later offset inRest

/-- Skipping separators ends in the string. -/
theorem skipSeparators_spec
    (string : StringAt memory pointer text)
    (enough : text.length < fuel) :
    let val := (skipSeparators fuel pointer).run memory
    let rest := text.dropWhile fun byte => byte ∈ jsonSeparators
    (StringAt memory val rest ∧ val + rest.length = pointer + text.length) ∧
      ∀ offset ∈ (skipSeparators fuel pointer).reads memory,
        offset ≤ pointer + text.length := by
  induction text generalizing pointer fuel with
  | nil =>
      obtain ⟨fuel, rfl⟩ := Nat.exists_eq_succ_of_ne_zero (by omega : fuel ≠ 0)
      simp [skipSeparators, string.nil, string]
  | cons byte rest inductionHypothesis =>
      obtain ⟨fuel, rfl⟩ := Nat.exists_eq_succ_of_ne_zero (by omega : fuel ≠ 0)
      obtain ⟨isByte, notNul, stringRest⟩ := string.cons
      have lengths : pointer + 1 + rest.length =
          pointer + (byte :: rest).length := by
        rw [List.length_cons]
        omega
      by_cases separates : byte ∈ jsonSeparators
      · obtain ⟨points, later⟩ :=
          inductionHypothesis stringRest
            (by simpa using enough : rest.length < fuel)
        rw [lengths] at points later
        simp only [skipSeparators, run_bind, reads_bind, run_readByte,
          reads_readByte, isByte, separates, notNul, ne_eq,
          not_false_eq_true, and_self, if_true, decide_true,
          List.dropWhile_cons_of_pos, List.mem_append, List.mem_singleton]
        refine ⟨points, ?_⟩
        rintro offset (rfl | inRest)
        · exact Nat.le_add_right _ _
        · exact later offset inRest
      · simp [skipSeparators, isByte, separates, string]

/-- `getJSONval` reads nothing behind the string, and finds what is there. -/
theorem getJsonVal_spec
    {member : String}
    (string : StringAt memory pointer text)
    (noNul : 0 ∉ ascii member)
    (enough : text.length < fuel)
    (length : Nat) :
    PointsInto memory (pointer + text.length)
        ((getJsonVal fuel pointer member length).run memory)
        (SimpleTlsBroker.getJsonVal text member length) ∧
      ∀ offset ∈ (getJsonVal fuel pointer member length).reads memory,
        offset ≤ pointer + text.length := by
  unfold getJsonVal SimpleTlsBroker.getJsonVal
  by_cases isEmpty : length = 0
  · simp [isEmpty, PointsInto]
  · obtain ⟨points, reads⟩ := strstr_spec string noNul enough
    rw [if_neg isEmpty, if_neg isEmpty]
    rcases points.cases with ⟨run, missing⟩ | ⟨val, rest, run, isRest, atVal, end_⟩
    · simp only [run_bind, reads_bind, run, missing, Option.bind_none,
        Option.map_none, run_pure, reads_pure, List.append_nil]
      exact ⟨trivial, reads⟩
    · have enoughRest : rest.length < fuel :=
        Nat.lt_of_le_of_lt (suffix_of_strstr isRest).length_le enough
      have noNulColon : 0 ∉ ascii ":" := by decide
      obtain ⟨points', reads'⟩ := strstr_spec atVal noNulColon enoughRest
      rw [end_] at points' reads'
      rcases points'.cases with
        ⟨run', missing'⟩ | ⟨val', rest', run', isRest', atVal', end'⟩
      · simp only [run_bind, reads_bind, run, isRest, Option.bind_some,
          run', missing', Option.map_none, run_pure, reads_pure,
          List.append_nil, List.mem_append]
        refine ⟨trivial, ?_⟩
        rintro offset (first | second)
        · exact reads offset first
        · exact reads' offset second
      · have enoughRest' : rest'.length < fuel :=
          Nat.lt_of_le_of_lt (suffix_of_strstr isRest').length_le enoughRest
        obtain ⟨skipped, reads''⟩ := skipSeparators_spec atVal' enoughRest'
        rw [end'] at skipped reads''
        simp only [run_bind, reads_bind, run, isRest, Option.bind_some,
          run', isRest', Option.map_some, run_pure, reads_pure,
          List.append_nil, List.mem_append]
        refine ⟨skipped, ?_⟩
        rintro offset (first | second | third)
        · exact reads offset first
        · exact reads' offset second
        · exact reads'' offset third

end Parse

/-! ## Stores -/

namespace Lift

variable {payload : List Byte}

/-- The stores of `mqttCallback` into `msg` that copy a payload, in order. -/
def copyStores (payload : List Byte) : List (Nat × Byte) :=
  ((List.range (min payload.length msgSize)).map fun index =>
    (index, payload.getD index 0)) ++ [(payload.length, 0)]

/-- `sketch_version`. -/
def sketchVersion : String := "v221207r2d-fx @"

/-- The stores of `snprintf` into `msg`, for an address of the access point. -/
def infoStores (localIp : List Byte) : List (Nat × Byte) :=
  let info := ascii sketchVersion ++ cString localIp
  ((info.take (msgSize - 1) ++ [0]).zipIdx).map fun (byte, index) =>
    (index, byte)

/-- All stores of `mqttCallback` into `msg`. -/
def callbackStores
    (localIp topic payload : List Byte) : List (Nat × Byte) :=
  let topic := cString topic
  if hasText "r2d-fx/command" topic then
    copyStores payload
  else if hasText "r2d-fx/query" topic then
    copyStores payload ++ infoStores localIp
  else
    copyStores payload

/-- Memory after some stores. -/
def perform
    (memory : Nat → Byte)
    (stores : List (Nat × Byte)) : Nat → Byte :=
  stores.foldl (fun memory store => Function.update memory store.1 store.2)
    memory

/-- The bytes of a text, stored one after the other. -/
theorem perform_range
    (memory : Nat → Byte)
    (value : Nat → Byte)
    (count index : Nat) :
    perform memory
        ((List.range count).map fun index => (index, value index)) index =
      if index < count then value index else memory index := by
  induction count with
  | zero => rfl
  | succ count inductionHypothesis =>
      unfold perform at *
      rw [List.range_succ, List.map_append, List.foldl_append,
        List.map_singleton, List.foldl_cons, List.foldl_nil]
      by_cases isLast : index = count
      · subst isLast
        simp
      · rw [Function.update_of_ne isLast, inductionHypothesis]
        by_cases before : index < count
        · rw [if_pos before, if_pos (Nat.lt_succ_of_lt before)]
        · rw [if_neg before, if_neg (by omega)]

/-- The stores leave the memory that the handlers see. -/
theorem perform_copyStores
    (payload : List Byte)
    (stack : Nat → Byte) :
    perform stack (copyStores payload) = copyMessage payload stack := by
  funext index
  have copied :=
    perform_range stack (fun index => payload.getD index 0)
      (min payload.length msgSize) index
  unfold copyStores copyMessage perform at *
  rw [List.foldl_append, List.foldl_cons, List.foldl_nil]
  by_cases isEnd : index = payload.length
  · subst isEnd
    simp
  · rw [Function.update_of_ne isEnd, copied, if_neg isEnd]

/-- `snprintf` stays inside its buffer. -/
theorem infoStores_inside
    (localIp : List Byte) :
    ∀ store ∈ infoStores localIp, store.1 < msgSize := by
  intro store member
  unfold infoStores at member
  obtain ⟨⟨byte, index⟩, inText, rfl⟩ := List.mem_map.mp member
  have inRange := List.snd_lt_of_mem_zipIdx inText
  rw [List.length_append, List.length_take, List.length_singleton] at inRange
  unfold msgSize at *
  dsimp only
  omega

/-- A short payload is copied into the buffer, its terminator as well. -/
theorem copyStores_inside
    (short : payload.length < msgSize) :
    ∀ store ∈ copyStores payload, store.1 < msgSize := by
  intro store member
  unfold copyStores at member
  rcases List.mem_append.mp member with copied | isEnd
  · obtain ⟨index, inRange, rfl⟩ := List.mem_map.mp copied
    exact (Nat.lt_min.mp (List.mem_range.mp inRange)).2
  · rw [List.mem_singleton.mp isEnd]
    exact short

/-- The stores of `mqttCallback` are those of the copy, or more. -/
theorem mem_callbackStores
    (localIp topic payload : List Byte)
    (store : Nat × Byte) :
    store ∈ callbackStores localIp topic payload →
      store ∈ copyStores payload ∨ store ∈ infoStores localIp := by
  unfold callbackStores
  dsimp only
  split
  · exact .inl
  · split
    · exact List.mem_append.mp
    · exact .inl

/-- The terminator is stored for every topic. -/
theorem terminator_mem_callbackStores
    (localIp topic payload : List Byte) :
    (payload.length, 0) ∈ callbackStores localIp topic payload := by
  have copied : (payload.length, 0) ∈ copyStores payload :=
    List.mem_append_right _ List.mem_cons_self
  unfold callbackStores
  dsimp only
  split
  · exact copied
  · split
    · exact List.mem_append_left _ copied
    · exact copied

/-! ## The bound -/

/-- `msg` after the copy. -/
def msgAfter
    (payload : List Byte)
    (stack : Nat → Byte) : Nat → Byte :=
  perform stack (copyStores payload)

/-- The bytes of the buffer. -/
def msgBytes
    (payload : List Byte)
    (stack : Nat → Byte) : List Byte :=
  (List.range msgSize).map (msgAfter payload stack)

/--
All stores are inside `msg`, which then is a string that begins the payload,
and so are all reads of a search in it.
-/
structure CopyBound
    (localIp topic payload : List Byte)
    (stack : Nat → Byte) : Prop where
  stores :
    ∀ store ∈ callbackStores localIp topic payload, store.1 < msgSize
  terminated : 0 ∈ msgBytes payload stack
  text : cString (msgBytes payload stack) <+: payload
  strstr :
    ∀ needle : List Byte, 0 ∉ needle → ∀ fuel, msgSize ≤ fuel →
      ∀ offset ∈
        (Parse.strstr needle fuel 0).reads (msgAfter payload stack),
          offset < msgSize
  getJsonVal :
    ∀ member, 0 ∉ ascii member → ∀ fuel, msgSize ≤ fuel →
      ∀ offset ∈
        (Parse.getJsonVal fuel 0 member payload.length).reads
            (msgAfter payload stack),
          offset < msgSize

/-- After the copy of a short payload, its string stands in `msg`. -/
theorem stringAt_msgAfter
    (short : payload.length < msgSize)
    (stack : Nat → Byte) :
    Parse.StringAt (msgAfter payload stack) 0 (cString payload) := by
  have whole : Holds (msgAfter payload stack) 0 (payload ++ [0]) := by
    apply holds_of_getElem
    intro index inText
    rw [List.length_append, List.length_singleton] at inText
    rw [msgAfter, perform_copyStores, Nat.zero_add]
    by_cases isEnd : index = payload.length
    · subst isEnd
      simp [copyMessage]
    · have inPayload : index < payload.length := by omega
      have inCopy : index < min payload.length msgSize :=
        Nat.lt_min.mpr ⟨inPayload, Nat.lt_trans inPayload short⟩
      simp only [copyMessage, if_neg isEnd, if_pos inCopy]
      rw [List.getElem_append_left inPayload, List.getD_eq_getElem _ _ inPayload]
  obtain ⟨behind, split⟩ := Terminated.exists_append_stop 0 payload []
  rw [split, ← List.singleton_append, ← List.append_assoc,
    holds_append] at whole
  exact ⟨whole.1, not_mem_cString payload⟩

/-- The buffer then begins with this string and a terminator. -/
theorem msgBytes_eq
    (short : payload.length < msgSize)
    (stack : Nat → Byte) :
    ∃ behind, msgBytes payload stack = cString payload ++ 0 :: behind := by
  have string := stringAt_msgAfter short stack
  have shorter : (cString payload).length ≤ payload.length :=
    (List.takeWhile_sublist _).length_le
  have read := string.holds.map_range
  simp only [Nat.zero_add] at read
  have front :
      (msgBytes payload stack).take (cString payload ++ [0]).length =
        cString payload ++ [0] := by
    have inBuffer : (cString payload ++ [0]).length ≤ msgSize := by
      rw [List.length_append, List.length_singleton]
      omega
    rw [msgBytes, ← List.map_take, List.take_range,
      Nat.min_eq_left inBuffer]
    exact read
  refine ⟨(msgBytes payload stack).drop (cString payload ++ [0]).length, ?_⟩
  rw [← List.singleton_append, ← List.append_assoc]
  conv_lhs => rw [← List.take_append_drop
    (cString payload ++ [0]).length (msgBytes payload stack), front]

/--
Whatever the topic and whatever was on the stack, `mqttCallback` stays inside
its buffer if and only if the payload is shorter than it.
-/
theorem copy_bound_iff
    (localIp topic payload : List Byte)
    (stack : Nat → Byte) :
    CopyBound localIp topic payload stack ↔ payload.length < msgSize := by
  constructor
  · intro bound
    exact bound.stores _ (terminator_mem_callbackStores localIp topic payload)
  · intro short
    have string := stringAt_msgAfter short stack
    obtain ⟨behind, bytes⟩ := msgBytes_eq short stack
    have shorter : (cString payload).length ≤ payload.length :=
      (List.takeWhile_sublist _).length_le
    have inside : 0 + (cString payload).length < msgSize := by omega
    refine ⟨?_, ?_, ?_, ?_, ?_⟩
    · intro store member
      rcases mem_callbackStores localIp topic payload store member with
        copied | isInfo
      · exact copyStores_inside short store copied
      · exact infoStores_inside localIp store isInfo
    · rw [bytes]
      simp
    · have read :
          cString (cString payload ++ 0 :: behind) = cString payload :=
        Terminated.text_append (not_mem_cString payload) behind
      rw [bytes, read]
      exact List.takeWhile_prefix _
    · intro needle noNul fuel enough offset member
      have spec := Parse.strstr_spec string noNul (by omega : _ < fuel)
      exact Nat.lt_of_le_of_lt (spec.2 offset member) inside
    · intro member noNul fuel enough offset inReads
      have spec :=
        Parse.getJsonVal_spec string noNul (by omega : _ < fuel)
          payload.length
      exact Nat.lt_of_le_of_lt (spec.2 offset inReads) inside

/-- There is a quality of service 0. -/
theorem qos_pos : 0 < 3 := by decide

/-- A message of 300 bytes for the topic `"a"`. -/
def oversized : Publication where
  dup := false
  qos := ⟨0, qos_pos⟩
  retain := false
  name := [0x61]
  identifier := (0, 0)
  payload := List.replicate msgSize 0x78

/-- Its payload is as long as the buffer. -/
theorem length_oversized : oversized.payload.length = msgSize :=
  List.length_replicate

/-- It fits into a message. -/
theorem fits_oversized :
    (oversized.packet [0xAF, 0x02]).bytes.length ≤
      MqttMessage.maxBufferLength := by
  have noIdentifier : oversized.identifierField = [] := rfl
  rw [Packet.length_bytes, Publication.body_packet, noIdentifier,
    List.nil_append, List.length_append, length_stringField,
    length_oversized]
  decide

/-- The broker hands it to a callback, which stores behind its buffer. -/
theorem not_copy_bound_oversized :
    let world := World.subscribedRun
    let frame := oversized.packet [0xAF, 0x02]
    (world.processMessage 1 frame.message).trace.services =
        world.trace.services ++ [.callback 1 ⟨1⟩ oversized.payload] ∧
      (msgSize, 0) ∈ callbackStores [] [0x61] oversized.payload ∧
        ∀ stack, ¬ CopyBound [] [0x61] oversized.payload stack := by
  intro world frame
  have stored : (msgSize, 0) ∈ callbackStores [] [0x61] oversized.payload := by
    rw [← length_oversized]
    exact terminator_mem_callbackStores [] [0x61] oversized.payload
  refine ⟨?_, stored, ?_⟩
  · obtain ⟨payload, fields, exactly⟩ :=
      World.exists_fields world fits_oversized (by decide)
    have same : payload = oversized.payload :=
      exactly.mpr (.inr ⟨rfl, rfl⟩)
    rw [same] at fields
    exact World.services_processMessage_local
      (oversized.kind?_message [0xAF, 0x02]) fields
      World.exactAt_subscribedRun (by decide) (by decide) (by decide)
  · intro stack bound
    exact absurd (bound.stores _ stored) (Nat.lt_irrefl msgSize)

end Lift

end SimpleTlsBroker
