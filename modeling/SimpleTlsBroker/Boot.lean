import SimpleTlsBroker.ConfigRequest

namespace SimpleTlsBroker

/-!
# Parameters at boot

`setup` reads every parameter from the flash into its variable, and sets a
default where there is none.  If all stored values are shorter than the
variables, the reads stay within them, and the variables have what is stored.
-/

open Terminated

namespace Parameter

/-- What `setup` sets where nothing is stored. -/
def default : Parameter → String
  | .apSsid => "NAT_Router"
  | _ => ""

/-- The parameters in the order of `setup`. -/
def all : List Parameter :=
  [.staSsid, .entUsername, .entIdentity, .staPassword, .staticIp,
    .subnetMask, .gateway, .apSsid, .apPassword, .apIp]

/-- There are no others. -/
theorem mem_all (parameter : Parameter) : parameter ∈ all := by
  cases parameter <;> decide

end Parameter

namespace Router

variable {router : Router}
variable {parameter other : Parameter}

/-- `param_set_default`. -/
def paramSetDefault (defVal : String) (goal : List Byte) : List Byte :=
  strncpy goal (ascii defVal) 50

/-- `setup` for one parameter. -/
def loadParam
    (answers : Parameter → GetAnswers)
    (router : Router)
    (parameter : Parameter) : Router :=
  let (ret, written) :=
    Nvs.getConfigParamStr (answers parameter) parameter.key router.nvs
  let buffer := overwrite (router.ram parameter) written
  { router with
    ram :=
      Function.update router.ram parameter
        (if ret ≠ espOk then
          paramSetDefault parameter.default buffer
        else
          buffer) }

/--
`setup`, as far as it is about the parameters, while the pin that erases the
flash is not held low.
-/
def setup
    (answers : Parameter → GetAnswers)
    (router : Router) : Router :=
  Parameter.all.foldl (loadParam answers) router

/-- All calls of the flash library succeed. -/
def readOk : Parameter → GetAnswers := fun _ => .ok

/-- The flash holds C strings that are shorter than the variables. -/
def Fits (nvs : Nvs) : Prop :=
  ∀ parameter : Parameter, ∀ value,
    nvs.strings parameter.key = some value →
      cString value = value ∧ value.length < paramLen

/-- The value that a parameter has to have. -/
def expected
    (nvs : Nvs)
    (parameter : Parameter) : List Byte :=
  (nvs.strings parameter.key).getD (ascii parameter.default)

/-- Reading one parameter leaves the flash and the other variables alone. -/
theorem loadParam_other
    (answers : Parameter → GetAnswers)
    (router : Router)
    (parameter : Parameter) :
    (router.loadParam answers parameter).nvs = router.nvs ∧
      ∀ other ≠ parameter,
        (router.loadParam answers parameter).ram other = router.ram other :=
  ⟨rfl, fun _ distinct => Function.update_of_ne distinct _ _⟩

/-- Reading one parameter gives its variable the value. -/
theorem text_loadParam
    (fits : Fits router.nvs)
    (parameter : Parameter) :
    (router.loadParam readOk parameter).text parameter =
      expected router.nvs parameter := by
  unfold text loadParam expected
  dsimp only
  rw [Function.update_self]
  cases stored : router.nvs.strings parameter.key with
  | none =>
      have short : (cString (ascii parameter.default)).length < 50 := by
        cases parameter <;> decide
      have noNul :
          cString (ascii parameter.default) = ascii parameter.default := by
        cases parameter <;> decide
      have read :
          Nvs.getConfigParamStr (readOk parameter) parameter.key
            router.nvs = (espErrNvsNotFound, []) := by
        simp [Nvs.getConfigParamStr, readOk, GetAnswers.ok, stored]
      rw [read, if_pos (by decide)]
      exact (cString_strncpy short _).trans noNul
  | some value =>
      obtain ⟨isString, _⟩ := fits parameter value stored
      have read :
          Nvs.getConfigParamStr (readOk parameter) parameter.key
            router.nvs = (espOk, value ++ [0]) :=
        Nvs.getConfigParamStr_ok stored
      have noNul : 0 ∉ value := isString ▸ not_mem_cString value
      rw [read, if_neg (not_not.mpr rfl)]
      exact text_overwrite noNul _

/-- What the reads of some parameters leave. -/
theorem foldl_loadParam
    (fits : Fits router.nvs)
    (parameters : List Parameter) :
    (parameters.foldl (loadParam readOk) router).nvs = router.nvs ∧
      ∀ parameter,
        (parameters.foldl (loadParam readOk) router).text parameter =
          if parameter ∈ parameters then
            expected router.nvs parameter
          else
            router.text parameter := by
  induction parameters generalizing router with
  | nil => exact ⟨rfl, fun parameter => by simp⟩
  | cons first rest inductionHypothesis =>
      obtain ⟨sameNvs, others⟩ := loadParam_other readOk router first
      have loaded := text_loadParam fits first
      have fitsThen : Fits (router.loadParam readOk first).nvs := fits
      obtain ⟨nvs, texts⟩ := inductionHypothesis fitsThen
      refine ⟨nvs.trans sameNvs, ?_⟩
      intro parameter
      rw [List.foldl_cons, texts parameter, sameNvs]
      by_cases inRest : parameter ∈ rest
      · simp [inRest]
      · by_cases isFirst : parameter = first
        · subst isFirst
          simp [inRest, loaded]
        · have kept :
              (router.loadParam readOk first).text parameter =
                router.text parameter :=
            congrArg cString (others parameter isFirst)
          simp [inRest, isFirst, kept]

/-- No read goes beyond its variable. -/
theorem length_written_le
    (fits : Fits router.nvs)
    (parameter : Parameter) :
    (Nvs.getConfigParamStr (readOk parameter) parameter.key
      router.nvs).2.length ≤ paramLen := by
  cases stored : router.nvs.strings parameter.key with
  | none => simp [Nvs.getConfigParamStr, readOk, GetAnswers.ok, stored]
  | some value =>
      have read :
          Nvs.getConfigParamStr (readOk parameter) parameter.key
            router.nvs = (espOk, value ++ [0]) :=
        Nvs.getConfigParamStr_ok stored
      rw [read, List.length_append]
      exact (fits parameter value stored).2

/--
At boot no read goes beyond its variable, and every variable gets the value
that is stored for it, or its default.
-/
theorem setup_loads
    (fits : Fits router.nvs)
    (parameter : Parameter) :
    (Nvs.getConfigParamStr (readOk parameter) parameter.key
        router.nvs).2.length ≤ paramLen ∧
      (router.setup readOk).text parameter =
        expected router.nvs parameter := by
  have loaded := (foldl_loadParam fits Parameter.all).2 parameter
  rw [if_pos parameter.mem_all] at loaded
  exact ⟨length_written_le fits parameter, loaded⟩

/-! ## A boot after a request -/

/-- A request of short values keeps the flash readable. -/
theorem fits_parseUri
    {request : Request}
    (short : request.Short)
    (fits : Fits router.nvs)
    (template : List Byte) :
    Fits (parseUri template allOk request router).2.nvs := by
  rw [(parseUri_eq template request router).2]
  intro parameter value isStored
  by_cases hasField : parameter.HasField
  · have stored := stored_setParameters request router hasField
    unfold Router.stored at stored
    rw [stored] at isStored
    by_cases present : request.hasArg parameter.key = true
    · rw [if_pos present] at isStored
      obtain rfl := Option.some.inj isStored
      exact ⟨cString_cString _, short.arg _⟩
    · rw [if_neg present] at isStored
      exact fits parameter value isStored
  · have isAddress : parameter = .apIp := not_not.mp hasField
    subst isAddress
    rw [strings_setParameters_address] at isStored
    exact fits .apIp value isStored

/--
After the next boot, whatever the memory holds then, a parameter whose field
was submitted has the value that was stored for it, also the mask, which its
own request did not set.  Every other one has what was stored before, or its
default.
-/
theorem setup_parseUri
    {request : Request}
    {booted : Router}
    (short : request.Short)
    (fits : Fits router.nvs)
    (template : List Byte)
    (kept : booted.nvs = (parseUri template allOk request router).2.nvs)
    (parameter : Parameter) :
    (Nvs.getConfigParamStr (readOk parameter) parameter.key
        booted.nvs).2.length ≤ paramLen ∧
      (booted.setup readOk).text parameter =
        if parameter.HasField ∧ request.hasArg parameter.key = true then
          cString (request.arg (sourceOf parameter))
        else
          expected router.nvs parameter := by
  have fitsThen : Fits booted.nvs := kept ▸ fits_parseUri short fits template
  obtain ⟨inside, loaded⟩ := setup_loads fitsThen parameter
  refine ⟨inside, loaded.trans ?_⟩
  unfold expected
  rw [kept, (parseUri_eq template request router).2]
  by_cases hasField : parameter.HasField
  · have stored := stored_setParameters request router hasField
    unfold Router.stored at stored
    rw [stored]
    by_cases present : request.hasArg parameter.key = true
    · rw [if_pos present, if_pos ⟨hasField, present⟩]
      rfl
    · rw [if_neg present, if_neg fun both => present both.2]
  · have isAddress : parameter = .apIp := not_not.mp hasField
    subst isAddress
    rw [strings_setParameters_address, if_neg fun both => hasField both.1]

/-- The mask of a static address is there after the boot, the gateway is not. -/
theorem setup_parseUri_static :
    let stored := (parseUri [] allOk staticAddress fresh).2.nvs
    let booted := { fresh with nvs := stored }.setup readOk
    booted.text .subnetMask = ascii "255.0.0.0" ∧ booted.text .gateway = [] := by
  have empty : Fits fresh.nvs := fun parameter value stored => by cases stored
  have loaded :=
    @setup_parseUri fresh staticAddress
      { fresh with nvs := (parseUri [] allOk staticAddress fresh).2.nvs }
      (by decide) empty [] rfl
  exact ⟨(loaded .subnetMask).2, (loaded .gateway).2⟩

end Router

end SimpleTlsBroker
