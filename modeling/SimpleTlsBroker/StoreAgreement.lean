import SimpleTlsBroker.Settings

namespace SimpleTlsBroker

/-!
# Parameters in RAM and in flash

`set_config_param_str` writes a value to the flash and then to its variable.
When the flash cannot be opened it does neither; when the flash does not take
the value, it writes the variable all the same.  So the two agree along a
sequence of calls if and only if no call of the second kind brings a new value.
-/

open Terminated

/-- Variables of `PARAMLEN` bytes, and the flash. -/
structure Stores (Variable : Type) where
  ram : Variable → List Byte
  nvs : Nvs

/-- A call of `set_config_param_str` with a variable as its target. -/
structure ParamCall (Variable : Type) where
  answers : SetAnswers
  name : String
  param : List Byte
  target : Variable
  deriving Repr, DecidableEq

namespace Stores

variable {Variable : Type} [DecidableEq Variable]
variable {before start stores : Stores Variable}
variable {call : ParamCall Variable}
variable {calls : List (ParamCall Variable)}

/-- The result of a call, and what it leaves in both stores. -/
def perform
    (stores : Stores Variable)
    (call : ParamCall Variable) : EspErr × Stores Variable :=
  let (err, target, nvs) :=
    Nvs.setConfigParamStr call.answers call.name call.param
      (stores.ram call.target) stores.nvs
  (err,
    { ram := Function.update stores.ram call.target target
      nvs := nvs })

/-- A variable holds a string, which is the one stored under a name. -/
structure Agrees
    (stores : Stores Variable)
    (name : String)
    (target : Variable) : Prop where
  terminated : Within 0 paramLen (stores.ram target)
  stored : stores.nvs.strings name = some (cString (stores.ram target))

/--
A call leaves its target in agreement, and as it was if it returns an error.
-/
structure Keeps
    (before : Stores Variable)
    (call : ParamCall Variable) : Prop where
  agrees : (before.perform call).2.Agrees call.name call.target
  target :
    (before.perform call).1 ≠ espOk →
      (before.perform call).2.ram call.target = before.ram call.target

/--
The flash cannot be opened or takes the value, or the target has the value
already.
-/
def Harmless
    (before : Stores Variable)
    (call : ParamCall Variable) : Prop :=
  call.answers.opened ≠ espOk ∨
    call.answers.stored = espOk ∨
      strncpy (before.ram call.target) call.param paramLen =
        before.ram call.target

/--
The flash takes the value, or the name and the target agree already and the
call is harmless.
-/
def Safe
    (before : Stores Variable)
    (call : ParamCall Variable) : Prop :=
  call.answers.opened = espOk ∧ call.answers.stored = espOk ∨
    before.Agrees call.name call.target ∧ before.Harmless call

/-- Every call of a sequence does something in the state before it. -/
def Throughout
    (holds : Stores Variable → ParamCall Variable → Prop) :
    Stores Variable → List (ParamCall Variable) → Prop
  | _, [] => True
  | stores, call :: rest =>
      holds stores call ∧ Throughout holds (stores.perform call).2 rest

/-- Each name has one target, and each target one name. -/
def Paired (calls : List (ParamCall Variable)) : Prop :=
  ∀ first ∈ calls, ∀ second ∈ calls,
    first.name = second.name ↔ first.target = second.target

instance (calls : List (ParamCall Variable)) : Decidable (Paired calls) :=
  inferInstanceAs
    (Decidable
      (∀ first ∈ calls, ∀ second ∈ calls,
        first.name = second.name ↔ first.target = second.target))

/-! ## What a call does -/

/-- A call that cannot open the flash does nothing. -/
theorem perform_of_closed
    (before : Stores Variable)
    (closed : call.answers.opened ≠ espOk) :
    before.perform call = (call.answers.opened, before) := by
  simp [perform, Nvs.setConfigParamStr, closed]

/-- A call whose value the flash takes leaves both stores with it. -/
theorem keeps_of_stored
    (short : (cString call.param).length < paramLen)
    (opened : call.answers.opened = espOk)
    (stored : call.answers.stored = espOk) :
    before.Keeps call := by
  have performed :
      before.perform call =
        (espOk,
          { ram :=
              Function.update before.ram call.target
                (strncpy (before.ram call.target) call.param paramLen)
            nvs := before.nvs.setStr call.name call.param }) := by
    simp [perform, Nvs.setConfigParamStr, opened, stored]
  constructor
  · rw [performed]
    constructor
    · dsimp only
      rw [Function.update_self]
      exact within_copy short _
    · dsimp only [Nvs.setStr]
      rw [Function.update_self, Function.update_self,
        cString_strncpy short]
  · rw [performed]
    exact fun failed => absurd rfl failed

/-- A call whose value the flash does not take sets its target. -/
theorem perform_of_rejected
    (before : Stores Variable)
    (opened : call.answers.opened = espOk)
    (rejected : call.answers.stored ≠ espOk) :
    before.perform call =
      (call.answers.stored,
        { ram :=
            Function.update before.ram call.target
              (strncpy (before.ram call.target) call.param paramLen)
          nvs := before.nvs }) := by
  simp [perform, Nvs.setConfigParamStr, opened, rejected]

/-- A call keeps an agreement exactly if it is harmless. -/
theorem keeps_iff
    (short : (cString call.param).length < paramLen)
    (agrees : before.Agrees call.name call.target) :
    before.Keeps call ↔ before.Harmless call := by
  by_cases opened : call.answers.opened = espOk
  · by_cases stored : call.answers.stored = espOk
    · exact iff_of_true (keeps_of_stored short opened stored)
        (.inr (.inl stored))
    · have performed := perform_of_rejected before opened stored
      constructor
      · intro keeps
        have target := keeps.target
        rw [performed] at target
        simp only [Function.update_self] at target
        exact .inr (.inr (target stored))
      · rintro (closed | isStored | same)
        · exact absurd opened closed
        · exact absurd isStored stored
        · have unchanged : (before.perform call).2 = before := by
            rw [performed, same, Function.update_eq_self]
          constructor
          · rw [unchanged]
            exact agrees
          · rw [unchanged]
            exact fun _ => rfl
  · have performed := perform_of_closed before opened
    refine iff_of_true ?_ (.inl opened)
    constructor
    · rw [performed]
      exact agrees
    · rw [performed]
      exact fun _ => rfl

/-- A call whose value is not stored leaves the flash as it was. -/
theorem perform_of_not_stored
    (before : Stores Variable)
    (notStored :
      ¬ (call.answers.opened = espOk ∧ call.answers.stored = espOk)) :
    (before.perform call).1 ≠ espOk ∧
      (before.perform call).2.nvs = before.nvs := by
  by_cases opened : call.answers.opened = espOk
  · have rejected : call.answers.stored ≠ espOk := fun stored =>
      notStored ⟨opened, stored⟩
    rw [perform_of_rejected before opened rejected]
    exact ⟨rejected, rfl⟩
  · rw [perform_of_closed before opened]
    exact ⟨opened, rfl⟩

/-- In any state, a call leaves an agreement exactly if it is safe. -/
theorem keeps_iff_safe
    (short : (cString call.param).length < paramLen) :
    before.Keeps call ↔ before.Safe call := by
  constructor
  · intro keeps
    by_cases stored :
        call.answers.opened = espOk ∧ call.answers.stored = espOk
    · exact .inl stored
    · obtain ⟨failed, sameFlash⟩ :=
        perform_of_not_stored before stored
      have sameTarget := keeps.target failed
      have agrees : before.Agrees call.name call.target := by
        constructor
        · rw [← sameTarget]
          exact keeps.agrees.terminated
        · rw [← sameTarget, ← sameFlash]
          exact keeps.agrees.stored
      exact .inr ⟨agrees, (keeps_iff short agrees).mp keeps⟩
  · rintro (⟨opened, stored⟩ | ⟨agrees, harmless⟩)
    · exact keeps_of_stored short opened stored
    · exact (keeps_iff short agrees).mpr harmless

/-- A call leaves the other variables and names alone. -/
theorem agrees_perform_other
    {name : String}
    {target : Variable}
    (otherName : name ≠ call.name)
    (otherTarget : target ≠ call.target)
    (agrees : before.Agrees name target) :
    (before.perform call).2.Agrees name target := by
  have sameRam :
      (before.perform call).2.ram target = before.ram target :=
    Function.update_of_ne otherTarget _ _
  have sameStored :
      (before.perform call).2.nvs.strings name =
        before.nvs.strings name := by
    unfold perform Nvs.setConfigParamStr
    by_cases opened : call.answers.opened = espOk
    · by_cases stored : call.answers.stored = espOk
      · simp [opened, stored, Nvs.setStr, Function.update_of_ne otherName]
      · simp [opened, stored]
    · simp [opened]
  constructor
  · rw [sameRam]
    exact agrees.terminated
  · rw [sameStored, sameRam]
    exact agrees.stored

/-! ## Sequences of calls -/

/-- So a call that keeps its agreement keeps all of them. -/
theorem Keeps.agrees_all
    (paired : Paired (call :: calls))
    (keeps : before.Keeps call)
    (agrees :
      ∀ other ∈ call :: calls, before.Agrees other.name other.target) :
    ∀ other ∈ calls,
      (before.perform call).2.Agrees other.name other.target := by
  intro other member
  have inAll : other ∈ call :: calls := List.mem_cons_of_mem call member
  have together := paired other inAll call List.mem_cons_self
  by_cases sameName : other.name = call.name
  · rw [sameName, together.mp sameName]
    exact keeps.agrees
  · exact agrees_perform_other sameName
      (fun sameTarget => sameName (together.mpr sameTarget))
      (agrees other inAll)

/-- Along a sequence, calls keep their agreements exactly if they are safe. -/
theorem throughout_keeps_iff_safe
    (short : ∀ call ∈ calls, (cString call.param).length < paramLen) :
    Throughout Keeps start calls ↔ Throughout Safe start calls := by
  induction calls generalizing start with
  | nil => exact Iff.rfl
  | cons call rest inductionHypothesis =>
      have later := fun other member =>
        short other (List.mem_cons_of_mem call member)
      exact and_congr (keeps_iff_safe (short call List.mem_cons_self))
        (inductionHypothesis later)

/--
If names and targets belong together and agree at the beginning, they agree as
long as all calls are harmless.
-/
theorem throughout_keeps_iff_harmless
    (paired : Paired calls)
    (short : ∀ call ∈ calls, (cString call.param).length < paramLen)
    (agrees : ∀ call ∈ calls, start.Agrees call.name call.target) :
    Throughout Keeps start calls ↔ Throughout Harmless start calls := by
  induction calls generalizing start with
  | nil => exact Iff.rfl
  | cons call rest inductionHypothesis =>
      have first :=
        keeps_iff (short call List.mem_cons_self)
          (agrees call List.mem_cons_self)
      have later (keeps : start.Keeps call) :=
        inductionHypothesis
          (fun first inRest second alsoInRest =>
            paired first (List.mem_cons_of_mem call inRest)
              second (List.mem_cons_of_mem call alsoInRest))
          (fun other member => short other (List.mem_cons_of_mem call member))
          (keeps.agrees_all paired agrees)
      constructor
      · rintro ⟨keeps, rest⟩
        exact ⟨first.mp keeps, (later keeps).mp rest⟩
      · rintro ⟨harmless, rest⟩
        have keeps := first.mpr harmless
        exact ⟨keeps, (later keeps).mpr rest⟩

/--
All calls of a sequence of short values leave their targets in agreement, and
as they were on an error, if and only if all of them are safe.  From a state
in which every target agrees with the flash, and with one target for each
name, that is so if and only if all of them are harmless.
-/
theorem stays_in_agreement_iff
    (short : ∀ call ∈ calls, (cString call.param).length < paramLen) :
    (Throughout Keeps start calls ↔ Throughout Safe start calls) ∧
      (Paired calls →
        (∀ call ∈ calls, start.Agrees call.name call.target) →
          (Throughout Keeps start calls ↔ Throughout Harmless start calls)) :=
  ⟨throughout_keeps_iff_safe short,
    fun paired agrees => throughout_keeps_iff_harmless paired short agrees⟩

/-- An SSID in both stores. -/
def agreed : Stores String where
  ram := fun _ => strncpy Nvs.zeroed (ascii "old") paramLen
  nvs := Nvs.empty.setStr "sta_ssid" (ascii "old")

/-- A call that sets it. -/
def setSsid (answers : SetAnswers) : ParamCall String where
  answers := answers
  name := "sta_ssid"
  param := ascii "new"
  target := "sta_ssid"

/-- `ESP_ERR_NVS_NOT_ENOUGH_SPACE`. -/
def espErrNvsNotEnoughSpace : EspErr := 0x1105

/-- They agree. -/
theorem agrees_agreed : agreed.Agrees "sta_ssid" "sta_ssid" :=
  ⟨by decide, by decide⟩

/-- They still do when the flash cannot be opened, and later takes the value. -/
theorem stays_in_agreement_closed :
    Throughout Keeps agreed
      [setSsid ⟨espErrNvsNotFound, espOk⟩, setSsid ⟨espOk, espOk⟩] := by
  refine ((stays_in_agreement_iff ?_).2 ?_ ?_).mpr ?_
  · decide
  · decide
  · simpa [setSsid] using agrees_agreed
  · exact ⟨.inl (by decide), .inr (.inl rfl), trivial⟩

/-- A full flash keeps the old value, and the variable gets the new one. -/
theorem not_stays_in_agreement_full :
    let call := setSsid ⟨espOk, espErrNvsNotEnoughSpace⟩
    let (err, after) := agreed.perform call
    agreed.Agrees call.name call.target ∧
      (cString call.param).length < paramLen ∧
        err ≠ espOk ∧
          cString (after.ram call.target) = ascii "new" ∧
            after.nvs.strings call.name = some (ascii "old") ∧
              ¬ Throughout Keeps agreed [call] := by
  intro call
  have rejected :
      (agreed.perform call).1 ≠ espOk := by decide
  have changed :
      cString ((agreed.perform call).2.ram call.target) = ascii "new" := by
    decide
  refine ⟨agrees_agreed, by decide, rejected, changed, by decide, ?_⟩
  rintro ⟨keeps, _⟩
  rw [keeps.target rejected] at changed
  exact absurd changed (by decide)

end Stores

end SimpleTlsBroker
