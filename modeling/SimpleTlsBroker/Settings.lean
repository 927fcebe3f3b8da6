import SimpleTlsBroker.CStrings
import SimpleTlsBroker.Library.History

namespace SimpleTlsBroker

/-!
# Parameters in flash

`utils.cpp` stores strings in a namespace of the flash and reads them back into
buffers of `PARAMLEN` bytes.  The writer does not look at the length of a
string, and the reader asks for the length that was stored.  What the calls
of the flash library return is given, the strings that it holds are not.
-/

open Terminated

/-- An `esp_err_t`. -/
abbrev EspErr := Int

/-- `ESP_OK`. -/
def espOk : EspErr := 0

/-- `ESP_ERR_NVS_NOT_FOUND`. -/
def espErrNvsNotFound : EspErr := 0x1102

/-- `PARAMLEN`. -/
def paramLen : Nat := 50

/-- The strings of the namespace `PARAM_NAMESPACE`. -/
structure Nvs where
  strings : String → Option (List Byte)

/-- What `nvs_open` and `nvs_set_str` return. -/
structure SetAnswers where
  opened : EspErr
  stored : EspErr
  deriving Repr, DecidableEq

/--
What `nvs_open` and the two calls of `nvs_get_str` return for a name that is
there.
-/
structure GetAnswers where
  opened : EspErr
  measured : EspErr
  copied : EspErr
  deriving Repr, DecidableEq

/-- Everything succeeds. -/
def GetAnswers.ok : GetAnswers :=
  ⟨espOk, espOk, espOk⟩

namespace Nvs

/-- Nothing stored. -/
def empty : Nvs where
  strings := fun _ => none

/-- `nvs_set_str`, when it succeeds. -/
def setStr
    (nvs : Nvs)
    (name : String)
    (param : List Byte) : Nvs where
  strings := Function.update nvs.strings name (some (cString param))

/-- `set_config_param_str`: its result, the target, and the flash. -/
def setConfigParamStr
    (answers : SetAnswers)
    (name : String)
    (param target : List Byte)
    (nvs : Nvs) : EspErr × List Byte × Nvs :=
  if answers.opened ≠ espOk then
    (answers.opened, target, nvs)
  else
    let nvs :=
      if answers.stored = espOk then
        nvs.setStr name param
      else
        nvs
    (answers.stored, strncpy target param paramLen, nvs)

/--
`get_config_param_str`: its result, and the bytes that are written to `param`.
The result of the second `nvs_get_str` is ignored.
-/
def getConfigParamStr
    (answers : GetAnswers)
    (name : String)
    (nvs : Nvs) : EspErr × List Byte :=
  if answers.opened ≠ espOk then
    (answers.opened, [])
  else
    match nvs.strings name with
    | none => (espErrNvsNotFound, [])
    | some value =>
        if answers.measured ≠ espOk then
          (answers.measured, [])
        else
          -- The length that `nvs_get_str` reports has the terminator in it.
          let len := value.length + 1
          if answers.copied = espOk then
            (espOk, (value ++ [0]).take len)
          else
            (espOk, [])

end Nvs

/-! ## Calls of the writer -/

/-- A call of `set_config_param_str`. -/
structure SetCall where
  answers : SetAnswers
  name : String
  param : List Byte
  target : List Byte
  deriving Repr, DecidableEq

/-- The call stores its string. -/
def SetCall.Stores (call : SetCall) (name : String) : Prop :=
  call.name = name ∧ call.answers.opened = espOk ∧
    call.answers.stored = espOk

instance (call : SetCall) (name : String) : Decidable (call.Stores name) :=
  inferInstanceAs
    (Decidable
      (call.name = name ∧ call.answers.opened = espOk ∧
        call.answers.stored = espOk))

namespace Nvs

variable {before after nvs : Nvs}
variable {name : String}
variable {param target : List Byte}
variable {answers : SetAnswers}

/-- The flash after a call. -/
def perform (nvs : Nvs) (call : SetCall) : Nvs :=
  (setConfigParamStr call.answers call.name call.param call.target nvs).2.2

/-- One call that meets a condition. -/
def Step
    (condition : SetCall → Prop)
    (before after : Nvs) : Prop :=
  ∃ call, condition call ∧ after = before.perform call

/-- Calls that all meet a condition. -/
abbrev Run (condition : SetCall → Prop) : Nvs → Nvs → Prop :=
  Relation.ReflTransGen (Step condition)

/-- What a call leaves in the flash. -/
theorem strings_perform
    (nvs : Nvs)
    (call : SetCall)
    (name : String) :
    (nvs.perform call).strings name =
      if call.Stores name then
        some (cString call.param)
      else
        nvs.strings name := by
  unfold perform setConfigParamStr SetCall.Stores
  by_cases opened : call.answers.opened = espOk
  · by_cases stored : call.answers.stored = espOk
    · by_cases same : call.name = name
      · subst same
        simp [opened, stored, setStr]
      · simp [opened, stored, setStr, same, Function.update_of_ne (Ne.symm same)]
    · simp [opened, stored]
  · simp [opened]

/-- What was stored under a name stays until it is stored anew. -/
theorem strings_run
    {value : Option (List Byte)}
    (run : Run (fun call => ¬ call.Stores name) before after)
    (holds : before.strings name = value) :
    after.strings name = value := by
  apply History.run_preserves ?_ run holds
  rintro before after ⟨call, notStored, rfl⟩ holds
  rw [strings_perform, if_neg notStored, holds]

/-- The reader gets what is stored, with its terminator. -/
theorem getConfigParamStr_ok
    {value : List Byte}
    (stored : nvs.strings name = some value) :
    getConfigParamStr .ok name nvs = (espOk, value ++ [0]) := by
  have whole : (value ++ [0]).take (value.length + 1) = value ++ [0] :=
    List.take_of_length_le (by simp)
  simp [getConfigParamStr, GetAnswers.ok, stored, whole]

/-! ## The next boot -/

/--
Reading a parameter writes no more bytes than its buffer has, and leaves a
string in it.
-/
structure FitsAtBoot
    (nvs : Nvs)
    (name : String)
    (buffer : List Byte) : Prop where
  inBuffer : (getConfigParamStr .ok name nvs).2.length ≤ paramLen
  terminated :
    Within 0 paramLen (overwrite buffer (getConfigParamStr .ok name nvs).2)

/--
A string that was stored, and not stored anew since, fits into a buffer at
boot if and only if it is shorter than the buffer.
-/
theorem fits_at_boot_iff
    {call : SetCall}
    (stores : call.Stores name)
    (later :
      Run (fun other => ¬ other.Stores name) (nvs.perform call) after)
    (buffer : List Byte) :
    after.FitsAtBoot name buffer ↔
      (cString call.param).length < paramLen := by
  have stored : after.strings name = some (cString call.param) := by
    apply strings_run later
    rw [strings_perform, if_pos stores]
  have read := getConfigParamStr_ok stored
  constructor
  · rintro ⟨inBuffer, _⟩
    rw [read, List.length_append] at inBuffer
    exact inBuffer
  · intro short
    constructor
    · rw [read, List.length_append]
      exact short
    · rw [read]
      exact within_overwrite short buffer

/-- The buffers before the first boot. -/
def zeroed : List Byte :=
  List.replicate paramLen 0

/-- Storing a passphrase of the uplink. -/
def storePassword (password : List Byte) : SetCall where
  answers := ⟨espOk, espOk⟩
  name := "sta_password"
  param := password
  target := zeroed

/-- A passphrase of eight characters fits. -/
theorem fits_at_boot_short :
    (empty.perform (storePassword (ascii "12345678"))).FitsAtBoot
      "sta_password" zeroed :=
  (fits_at_boot_iff (by decide) .refl zeroed).mpr (by decide)

/-- A passphrase of 63 characters, as WPA2 permits, does not. -/
theorem not_fits_at_boot_passphrase :
    let call := storePassword (List.replicate 63 0x61)
    call.Stores "sta_password" ∧
      (getConfigParamStr .ok "sta_password" (empty.perform call)).2.length =
          64 ∧
        ¬ (empty.perform call).FitsAtBoot "sta_password" zeroed := by
  intro call
  have written :
      (getConfigParamStr .ok "sta_password" (empty.perform call)).2.length =
        64 := by
    decide
  refine ⟨by decide, written, ?_⟩
  rintro ⟨inBuffer, _⟩
  rw [written] at inBuffer
  exact absurd inBuffer (by decide)

end Nvs

end SimpleTlsBroker
