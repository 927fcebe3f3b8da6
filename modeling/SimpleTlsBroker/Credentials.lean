import SimpleTlsBroker.MessageReads
import SimpleTlsBroker.Library.Memory

namespace SimpleTlsBroker

/-!
# Comparing credentials

`compareString` walks along the configured credential and the received field
at once.  Both pointers advance also past the first difference, so the final
test looks one byte further than the comparison has come.
-/

namespace CharPointer

/-- A NUL-terminated string. -/
structure PointsTo
    (good : CharPointer)
    (text : List Byte) : Prop where
  holds : Memory.Holds good 0 (text ++ [0])
  noNul : 0 ∉ text

/-- A list without NUL is a NUL-terminated string. -/
theorem pointsTo_ofList
    {text : List Byte}
    (noNul : 0 ∉ text) :
    (ofList text).PointsTo text where
  noNul := noNul
  holds := by
    have read := Memory.holds_map_range (ofList text) 0 (text.length + 1)
    have same :
        ((List.range (text.length + 1)).map fun index =>
          ofList text (0 + index)) = text ++ [0] := by
      apply List.ext_getElem
      · simp
      · intro index _ inText
        simp [ofList, List.getElem_append, List.getD_eq_getElem?_getD]
        split
        · rename_i inside
          simp [inside]
        · rename_i outside
          simp [List.getElem?_eq_none (Nat.le_of_not_lt outside)]
    rw [same] at read
    exact read

end CharPointer

namespace MqttBroker

open Memory

/-!
## The reads of the configured credential

`compareLoop` takes `good` as a function and records what is read of `str`.
The same walk with the two exchanged records what is read of `good`.
-/

/-- The loop of `compareString`, with its reads of `good`. -/
def compareLoopGood
    (str : CharPointer) :
    (len goodOffset strOffset : Nat) → Parse Nat
  | 0, goodOffset, _ => pure goodOffset
  | len + 1, goodOffset, strOffset => do
      let byte ← Parse.readByte goodOffset
      if byte = str strOffset then
        compareLoopGood str len (goodOffset + 1) (strOffset + 1)
      else
        pure (goodOffset + 1)

/-- `MqttBroker::compareString`, with its reads of `good`. -/
def compareStringGood
    (memory : CharPointer)
    (str len : Nat) : Parse Bool := do
  let goodOffset ← compareLoopGood memory (len % 256) 0 str
  let last ← Parse.readByte goodOffset
  pure (last = 0)

/-- One round of the loop, by its effect on the cursor. -/
theorem run_compareLoop_succ
    (good memory : CharPointer)
    (len goodOffset strOffset : Nat) :
    (compareLoop good (len + 1) goodOffset strOffset).run memory =
      if good goodOffset = memory strOffset then
        (compareLoop good len (goodOffset + 1) (strOffset + 1)).run memory
      else
        goodOffset + 1 := by
  simp only [compareLoop, Parse.run_bind, Parse.run_ite, Parse.run_pure]
  rfl

/-- Both walks of the loop end at the same place. -/
theorem run_compareLoopGood
    (good memory : CharPointer)
    (len goodOffset strOffset : Nat) :
    (compareLoopGood memory len goodOffset strOffset).run good =
      (compareLoop good len goodOffset strOffset).run memory := by
  induction len generalizing goodOffset strOffset with
  | zero => rfl
  | succ len inductionHypothesis =>
      rw [run_compareLoop_succ, ← inductionHypothesis]
      simp only [compareLoopGood, Parse.run_bind, Parse.run_ite,
        Parse.run_pure]
      rfl

/-- Both walks compute the same result. -/
theorem run_compareStringGood
    (good memory : CharPointer)
    (str len : Nat) :
    (compareStringGood memory str len).run good =
      (compareString good str len).run memory := by
  simp only [compareStringGood, compareString, Parse.run_bind,
    run_compareLoopGood]
  rfl

/-- The cursor in `good` never goes back. -/
theorem le_compareLoop
    (good memory : CharPointer)
    (len goodOffset strOffset : Nat) :
    goodOffset ≤ (compareLoop good len goodOffset strOffset).run memory := by
  induction len generalizing goodOffset strOffset with
  | zero => exact Nat.le_refl goodOffset
  | succ len inductionHypothesis =>
      rw [run_compareLoop_succ]
      split
      · exact Nat.le_of_succ_le (inductionHypothesis _ _)
      · exact Nat.le_succ goodOffset

/-- One round of the loop, by its reads of `good`. -/
theorem reads_compareLoopGood_succ
    (good memory : CharPointer)
    (len goodOffset strOffset : Nat) :
    (compareLoopGood memory (len + 1) goodOffset strOffset).reads good =
      goodOffset ::
        if good goodOffset = memory strOffset then
          (compareLoopGood memory len (goodOffset + 1)
            (strOffset + 1)).reads good
        else
          [] := by
  simp only [compareLoopGood, Parse.reads_bind, Parse.reads_ite,
    Parse.reads_pure]
  rfl

/-- All reads of the loop are before the place where the cursor ends. -/
theorem reads_compareLoopGood
    (good memory : CharPointer)
    (len goodOffset strOffset : Nat) :
    ∀ offset ∈ (compareLoopGood memory len goodOffset strOffset).reads good,
      offset < (compareLoop good len goodOffset strOffset).run memory := by
  induction len generalizing goodOffset strOffset with
  | zero =>
      intro offset member
      exact absurd member List.not_mem_nil
  | succ len inductionHypothesis =>
      intro offset member
      rw [reads_compareLoopGood_succ] at member
      rw [run_compareLoop_succ]
      by_cases same : good goodOffset = memory strOffset
      · rw [if_pos same] at member ⊢
        rcases List.mem_cons.mp member with rfl | later
        · exact le_compareLoop good memory len (offset + 1) (strOffset + 1)
        · exact inductionHypothesis _ _ offset later
      · rw [if_neg same] at member ⊢
        rw [List.mem_singleton.mp member]
        exact Nat.lt_succ_self goodOffset

/-- The places of `good` that `compareString` reads: up to its final test. -/
theorem reads_compareStringGood
    (good memory : CharPointer)
    (str len bound : Nat) :
    (∀ offset ∈ (compareStringGood memory str len).reads good,
        offset ≤ bound) ↔
      (compareLoop good (len % 256) 0 str).run memory ≤ bound := by
  have reads :
      (compareStringGood memory str len).reads good =
        (compareLoopGood memory (len % 256) 0 str).reads good ++
          [(compareLoop good (len % 256) 0 str).run memory] := by
    simp only [compareStringGood, Parse.reads_bind, run_compareLoopGood]
    rfl
  rw [reads]
  constructor
  · intro inside
    exact inside _ (List.mem_append_right _ List.mem_cons_self)
  · intro inside offset member
    rcases List.mem_append.mp member with earlier | last
    · have before :=
        reads_compareLoopGood good memory (len % 256) 0 str offset earlier
      omega
    · rw [List.mem_singleton.mp last]
      exact inside

/-! ## Where the comparison stops -/

/--
The bytes compared are a beginning of the text, or the first byte in which
they differ from it is not the last one of the text.
-/
def Decided (text compared : List Byte) : Prop :=
  compared <+: text ∨
    ∃ common byte other rest more,
      text = common ++ byte :: rest ∧
        compared = common ++ other :: more ∧
          byte ≠ other ∧ rest ≠ []

/-- A comparison with nothing is decided. -/
theorem decided_nil (text : List Byte) : Decided text [] :=
  .inl (List.nil_prefix)

/-- A text that has come to its end decides nothing. -/
theorem not_decided_ended
    {byte : Byte}
    {more : List Byte} :
    ¬ Decided [] (byte :: more) := by
  rintro (isPrefix | ⟨common, _, _, _, _, ended, _⟩)
  · simp at isPrefix
  · simp at ended

/-- Equal bytes leave the decision to the later ones. -/
theorem decided_same
    {byte : Byte}
    {text compared : List Byte} :
    Decided (byte :: text) (byte :: compared) ↔ Decided text compared := by
  constructor
  · rintro (isPrefix | ⟨common, first, other, rest, more, whole, read, differ, proper⟩)
    · exact .inl (List.prefix_cons_inj byte |>.mp isPrefix)
    · cases common with
      | nil =>
          obtain ⟨rfl, rfl⟩ := List.cons.inj whole
          obtain ⟨rfl, rfl⟩ := List.cons.inj read
          exact absurd rfl differ
      | cons head common =>
          obtain ⟨rfl, rfl⟩ := List.cons.inj whole
          obtain ⟨_, rfl⟩ := List.cons.inj read
          exact .inr ⟨common, first, other, rest, more, rfl, rfl, differ,
            proper⟩
  · rintro (isPrefix | ⟨common, first, other, rest, more, rfl, rfl, differ, proper⟩)
    · exact .inl (List.prefix_cons_inj byte |>.mpr isPrefix)
    · exact .inr ⟨byte :: common, first, other, rest, more, rfl, rfl,
        differ, proper⟩

/-- Different bytes decide, unless they are the last ones of the text. -/
theorem decided_different
    {byte other : Byte}
    {text compared : List Byte}
    (differ : byte ≠ other) :
    Decided (byte :: text) (other :: compared) ↔ text ≠ [] := by
  constructor
  · rintro (isPrefix | ⟨common, first, found, rest, more, whole, read, _, proper⟩)
    · obtain ⟨same, _⟩ := List.cons_prefix_cons.mp isPrefix
      exact absurd same.symm differ
    · cases common with
      | nil =>
          obtain ⟨_, rfl⟩ := List.cons.inj whole
          exact proper
      | cons head common =>
          obtain ⟨rfl, _⟩ := List.cons.inj whole
          obtain ⟨rfl, _⟩ := List.cons.inj read
          exact absurd rfl differ
  · intro proper
    exact .inr ⟨[], byte, other, text, compared, rfl, rfl, differ, proper⟩

/-! ## When the comparison is right -/

/--
A decided comparison ends inside the text or at its NUL, and finds the NUL if
and only if all bytes are equal.
-/
theorem compareLoop_decided
    {good memory : CharPointer}
    {text compared : List Byte}
    {goodOffset strOffset : Nat}
    (terminated : Holds good goodOffset (text ++ [0]))
    (noNul : 0 ∉ text)
    (received : Holds memory strOffset compared)
    (decided : Decided text compared) :
    let cursor :=
      (compareLoop good compared.length goodOffset strOffset).run memory
    cursor ≤ goodOffset + text.length ∧
      (good cursor = 0 ↔ compared = text) := by
  induction compared generalizing text goodOffset strOffset with
  | nil =>
      refine ⟨Nat.le_add_right goodOffset text.length, ?_⟩
      cases text with
      | nil => exact ⟨fun _ => rfl, fun _ => terminated.1⟩
      | cons byte text =>
          have notNul : byte ≠ 0 := by
            rintro rfl
            exact noNul List.mem_cons_self
          constructor
          · intro isNul
            exact absurd (terminated.1.symm.trans isNul) notNul
          · intro same
            contradiction
  | cons other compared inductionHypothesis =>
      cases text with
      | nil => exact absurd decided not_decided_ended
      | cons byte text =>
          obtain ⟨isByte, terminated⟩ := terminated
          obtain ⟨isOther, received⟩ := received
          have noNul : 0 ∉ text := fun member =>
            noNul (List.mem_cons_of_mem byte member)
          rw [List.length_cons, run_compareLoop_succ, isByte, isOther]
          by_cases same : byte = other
          · subst same
            rw [if_pos rfl]
            obtain ⟨inside, equal⟩ :=
              inductionHypothesis terminated noNul received
                (decided_same.mp decided)
            refine ⟨by rw [List.length_cons]; omega, equal.trans ?_⟩
            simp
          · rw [if_neg same]
            have proper := (decided_different same).mp decided
            cases text with
            | nil => exact absurd rfl proper
            | cons next text =>
                have notNul : next ≠ 0 := by
                  rintro rfl
                  exact noNul List.mem_cons_self
                refine ⟨by simp only [List.length_cons]; omega, ?_⟩
                constructor
                · intro isNul
                  exact absurd (terminated.1.symm.trans isNul) notNul
                · intro equal
                  exact absurd (List.cons.inj equal).1.symm same

/--
An undecided comparison passes the NUL, or takes the last byte of the text
for equal although it is not.
-/
theorem compareLoop_undecided
    {good memory : CharPointer}
    {text compared : List Byte}
    {goodOffset strOffset : Nat}
    (terminated : Holds good goodOffset (text ++ [0]))
    (received : Holds memory strOffset compared)
    (undecided : ¬ Decided text compared) :
    let cursor :=
      (compareLoop good compared.length goodOffset strOffset).run memory
    goodOffset + text.length < cursor ∨
      good cursor = 0 ∧ compared ≠ text := by
  induction compared generalizing text goodOffset strOffset with
  | nil => exact absurd (decided_nil text) undecided
  | cons other compared inductionHypothesis =>
      rw [List.length_cons, run_compareLoop_succ]
      cases text with
      | nil =>
          left
          split
          · exact le_compareLoop good memory _ (goodOffset + 1) _
          · exact Nat.lt_succ_self goodOffset
      | cons byte text =>
          obtain ⟨isByte, terminated⟩ := terminated
          obtain ⟨isOther, received⟩ := received
          rw [isByte, isOther]
          by_cases same : byte = other
          · subst same
            rw [if_pos rfl]
            have later :=
              inductionHypothesis terminated received
                fun decided => undecided (decided_same.mpr decided)
            rcases later with passed | ⟨isNul, different⟩
            · left
              rw [List.length_cons]
              omega
            · exact .inr ⟨isNul, fun equal =>
                different (List.cons.inj equal).2⟩
          · rw [if_neg same]
            have ended : text = [] := by
              by_contra proper
              exact undecided ((decided_different same).mpr proper)
            subst ended
            exact .inr ⟨terminated.1, fun equal =>
              same (List.cons.inj equal).1.symm⟩

/--
What a comparison owes: it succeeds for the configured text only, and reads
no byte of `good` behind the NUL.
-/
structure ComparesExactly
    (good : CharPointer)
    (text : List Byte)
    (memory : CharPointer)
    (str len : Nat) : Prop where
  result :
    (compareString good str len).run memory = true ↔
      len = text.length ∧ (Parse.readSlice str len).run memory = text
  inText :
    ∀ offset ∈ (compareStringGood memory str len).reads good,
      offset ≤ text.length

/-- The bytes that are compared, of a length cut to 8 bits. -/
def compared (memory : CharPointer) (str len : Nat) : List Byte :=
  (Parse.readSlice str (len % 256)).run memory

/-- The result of `compareString` is that of the final test. -/
theorem run_compareString
    (good memory : CharPointer)
    (str len : Nat) :
    (compareString good str len).run memory = true ↔
      good ((compareLoop good (len % 256) 0 str).run memory) = 0 := by
  simp only [compareString, Parse.run_bind, Parse.run_pure,
    decide_eq_true_eq]

/--
`checkUser` and `checkPassword` compare exactly if and only if the comparison
is decided inside the configured text, and a field that agrees with all of it
has no further 256 bytes.
-/
theorem compareString_exact_iff
    {good : CharPointer}
    {text : List Byte}
    (pointsTo : good.PointsTo text)
    (short : text.length ≤ 255)
    (memory : CharPointer)
    (str len : Nat) :
    ComparesExactly good text memory str len ↔
      Decided text (compared memory str len) ∧
        (compared memory str len = text → len = text.length) := by
  have length : (compared memory str len).length = len % 256 := by
    simp [compared]
  have received : Holds memory str (compared memory str len) :=
    holds_map_range memory str (len % 256)
  have whole :
      len = text.length ∧ (Parse.readSlice str len).run memory = text →
        compared memory str len = text := by
    rintro ⟨sameLength, same⟩
    have small : len % 256 = len := Nat.mod_eq_of_lt (by omega)
    rw [compared, small]
    exact same
  constructor
  · intro exactly
    have inside :=
      (reads_compareStringGood good memory str len text.length).mp
        exactly.inText
    have decided : Decided text (compared memory str len) := by
      by_contra undecided
      have wrong :=
        compareLoop_undecided pointsTo.holds received undecided
      rw [length] at wrong
      rcases wrong with passed | ⟨isNul, different⟩
      · omega
      · have success := (run_compareString good memory str len).mpr isNul
        exact different (whole (exactly.result.mp success))
    refine ⟨decided, ?_⟩
    intro equal
    have right :=
      compareLoop_decided pointsTo.holds pointsTo.noNul received decided
    rw [length] at right
    have success :=
      (run_compareString good memory str len).mpr (right.2.mpr equal)
    exact (exactly.result.mp success).1
  · rintro ⟨decided, sameLength⟩
    have right :=
      compareLoop_decided pointsTo.holds pointsTo.noNul received decided
    rw [length] at right
    constructor
    case inText =>
      apply (reads_compareStringGood good memory str len text.length).mpr
      have inside := right.1
      omega
    case result =>
      rw [run_compareString, right.2]
      constructor
      · intro equal
        have isLength := sameLength equal
        have small : len % 256 = len := Nat.mod_eq_of_lt (by omega)
        refine ⟨isLength, ?_⟩
        rw [compared, small] at equal
        exact equal
      · exact whole

/-- The password `"ab"` is accepted. -/
theorem compareString_exact_same :
    ComparesExactly (CharPointer.ofList [0x61, 0x62]) [0x61, 0x62]
      (CharPointer.ofList [0x61, 0x62]) 0 2 :=
  (compareString_exact_iff (CharPointer.pointsTo_ofList (by decide))
    (by decide) _ 0 2).mpr ⟨.inl (List.prefix_refl _), fun _ => rfl⟩

/-- For the password `"ab"` the field `"ax"` is accepted as well. -/
theorem compareString_accepts_other :
    (CharPointer.ofList [0x61, 0x62]).PointsTo [0x61, 0x62] ∧
      (compareString (CharPointer.ofList [0x61, 0x62]) 0 2).run
          (CharPointer.ofList [0x61, 0x78]) = true ∧
      ¬ ComparesExactly (CharPointer.ofList [0x61, 0x62]) [0x61, 0x62]
          (CharPointer.ofList [0x61, 0x78]) 0 2 := by
  have success :
      (compareString (CharPointer.ofList [0x61, 0x62]) 0 2).run
        (CharPointer.ofList [0x61, 0x78]) = true := by decide
  refine ⟨CharPointer.pointsTo_ofList (by decide), success, ?_⟩
  intro exactly
  exact absurd (exactly.result.mp success).2 (by decide)

end MqttBroker

end SimpleTlsBroker
