import SimpleTlsBroker.ConfigPage
import SimpleTlsBroker.Settings

namespace SimpleTlsBroker

/-!
# A request to the configuration server

`parseUri` has a branch for each field of the form.  A branch names the field
that it tests, the name under which the value is stored, the field that it
reads and the variable that it sets, and not all four are the same.
-/

/-- The arguments of a request, in the order in which they are searched. -/
structure Request where
  arguments : List (String × List Byte)
  deriving Repr, DecidableEq

namespace Request

/-- The value of the first argument with a name. -/
def value? (request : Request) (name : String) : Option (List Byte) :=
  (request.arguments.find? fun argument => argument.1 = name).map Prod.snd

/-- `WebServer::args`. -/
def args (request : Request) : Nat :=
  request.arguments.length

/-- `WebServer::hasArg`. -/
def hasArg (request : Request) (name : String) : Bool :=
  (request.value? name).isSome

/-- `WebServer::arg`; a missing argument is the empty string. -/
def arg (request : Request) (name : String) : List Byte :=
  (request.value? name).getD []

end Request

/-- The variables and the flash of the router. -/
structure Router where
  ram : Parameter → List Byte
  nvs : Nvs
  uplinkConnected : Bool
  configPage : List Byte

namespace Router

variable {request : Request}
variable {router before after : Router}
variable {answers : String → SetAnswers}
variable {template : List Byte}

/-- `set_config_param_str` with a variable as its target. -/
def setConfigParamStr
    (answers : SetAnswers)
    (name : String)
    (param : List Byte)
    (target : Parameter)
    (router : Router) : Router :=
  let (_, buffer, nvs) :=
    Nvs.setConfigParamStr answers name param (router.ram target) router.nvs
  { router with
    ram := Function.update router.ram target buffer
    nvs := nvs }

/-- A branch of `parseUri`. -/
def branch
    (answers : String → SetAnswers)
    (request : Request)
    (tested name read : String)
    (target : Parameter)
    (router : Router) : Router :=
  if request.hasArg tested then
    router.setConfigParamStr (answers name) name (request.arg read) target
  else
    router

/-- The branches of `parseUri` that set parameters. -/
def setParameters
    (answers : String → SetAnswers)
    (request : Request)
    (router : Router) : Router :=
  let branch := branch answers request
  let router := branch "ap_ssid" "ap_ssid" "ap_ssid" .apSsid router
  let router :=
    branch "ap_password" "ap_password" "ap_password" .apPassword router
  let router := branch "sta_ssid" "sta_ssid" "sta_ssid" .staSsid router
  let router :=
    branch "sta_password" "sta_password" "sta_password" .staPassword router
  let router :=
    branch "ent_username" "ent_username" "ent_username" .entUsername router
  let router :=
    branch "ent_identity" "ent_identity" "ent_identity" .entIdentity router
  let router := branch "static_ip" "static_ip" "static_ip" .staticIp router
  -- The subnet mask is copied to the variable of the gateway.
  let router :=
    branch "subnet_mask" "subnet_mask" "subnet_mask" .gateway router
  -- The gateway is read from an argument that the form does not have.
  branch "gateway" "gateway" "gate" .gateway router

/-- `parseUri`: whether to reboot, and the router afterwards. -/
def parseUri
    (template : List Byte)
    (answers : String → SetAnswers)
    (request : Request)
    (router : Router) : Bool × Router :=
  if request.args ≠ 0 then
    let router := router.setParameters answers request
    (request.hasArg "reset",
      { router with
        configPage :=
          fillPage template router.uplinkConnected router.ram })
  else
    (false, router)

end Router

/-! ## The fields of the form -/

namespace Parameter

/-- The name of a parameter in the flash, and of its field in the form. -/
def key : Parameter → String
  | .staSsid => "sta_ssid"
  | .entUsername => "ent_username"
  | .entIdentity => "ent_identity"
  | .staPassword => "sta_password"
  | .staticIp => "static_ip"
  | .subnetMask => "subnet_mask"
  | .gateway => "gateway"
  | .apSsid => "ap_ssid"
  | .apPassword => "ap_password"
  | .apIp => "ap_ip"

/-- The address of the access point has no field. -/
def HasField (parameter : Parameter) : Prop :=
  parameter ≠ .apIp

instance (parameter : Parameter) : Decidable parameter.HasField :=
  inferInstanceAs (Decidable (parameter ≠ .apIp))

end Parameter

namespace Router

/-- A variable as a string. -/
def text (router : Router) (parameter : Parameter) : List Byte :=
  cString (router.ram parameter)

/-- The value that is stored for a parameter. -/
def stored
    (router : Router)
    (parameter : Parameter) : Option (List Byte) :=
  router.nvs.strings parameter.key

/-! ## What the branches do -/

/-- All calls of the flash library succeed. -/
def allOk : String → SetAnswers := fun _ => ⟨espOk, espOk⟩

/-- What a branch leaves in the flash. -/
theorem strings_branch
    (request : Request)
    (tested name read : String)
    (target : Parameter)
    (router : Router)
    (other : String) :
    (branch allOk request tested name read target router).nvs.strings other =
      if request.hasArg tested = true ∧ other = name then
        some (cString (request.arg read))
      else
        router.nvs.strings other := by
  unfold branch
  by_cases present : request.hasArg tested = true
  · by_cases same : other = name
    · simp [present, same, setConfigParamStr, Nvs.setConfigParamStr, allOk,
        Nvs.setStr]
    · simp [present, same, setConfigParamStr, Nvs.setConfigParamStr, allOk,
        Nvs.setStr]
  · simp [present]

/-- What a branch leaves in the variables. -/
theorem text_branch
    {request : Request}
    {read : String}
    (short : (cString (request.arg read)).length < paramLen)
    (tested name : String)
    (target : Parameter)
    (router : Router)
    (other : Parameter) :
    (branch allOk request tested name read target router).text other =
      if request.hasArg tested = true ∧ other = target then
        cString (request.arg read)
      else
        router.text other := by
  have copied := cString_strncpy short (router.ram target)
  unfold branch
  by_cases present : request.hasArg tested = true
  · by_cases same : other = target
    · subst same
      simp [present, text, setConfigParamStr, Nvs.setConfigParamStr, allOk,
        copied]
    · simp [present, same, text, setConfigParamStr, Nvs.setConfigParamStr,
        allOk]
  · simp [present]

end Router

/-- The values of a request are shorter than a buffer. -/
def Request.Short (request : Request) : Prop :=
  ∀ argument ∈ request.arguments, (cString argument.2).length < paramLen

instance (request : Request) : Decidable request.Short :=
  inferInstanceAs
    (Decidable
      (∀ argument ∈ request.arguments,
        (cString argument.2).length < paramLen))

/-- So is every value that is read. -/
theorem Request.Short.arg
    {request : Request}
    (short : request.Short)
    (name : String) :
    (cString (request.arg name)).length < paramLen := by
  unfold Request.arg Request.value?
  cases found :
      request.arguments.find? fun argument => decide (argument.1 = name) with
  | none => decide
  | some argument => exact short argument (List.mem_of_find?_eq_some found)

namespace Router

variable {request : Request}
variable {router before : Router}
variable {template : List Byte}

/-- The argument from which a parameter is stored. -/
def sourceOf : Parameter → String
  | .gateway => "gate"
  | parameter => parameter.key

/-- For all others it is the field itself. -/
theorem sourceOf_eq_key
    {parameter : Parameter}
    (notGateway : parameter ≠ .gateway) :
    sourceOf parameter = parameter.key := by
  cases parameter with
  | gateway => exact absurd rfl notGateway
  | _ => rfl

/-- The address of the access point is not stored. -/
theorem strings_setParameters_address
    (request : Request)
    (router : Router) :
    (router.setParameters allOk request).nvs.strings Parameter.apIp.key =
      router.nvs.strings Parameter.apIp.key := by
  unfold setParameters
  simp [strings_branch, Parameter.key]

/-- All fields are stored under their names, one of them from elsewhere. -/
theorem stored_setParameters
    (request : Request)
    (router : Router)
    {parameter : Parameter}
    (hasField : parameter.HasField) :
    (router.setParameters allOk request).stored parameter =
      if request.hasArg parameter.key = true then
        some (cString (request.arg (sourceOf parameter)))
      else
        router.stored parameter := by
  unfold stored setParameters
  cases parameter with
  | apIp => exact absurd rfl hasField
  | _ =>
      simp only [strings_branch, Parameter.key, sourceOf, String.reduceEq,
        and_false, and_true, if_false]
      exact if_congr Iff.rfl rfl rfl

/-- The variables of seven fields are set from them. -/
theorem text_setParameters
    (short : request.Short)
    (router : Router)
    {parameter : Parameter}
    (hasField : parameter.HasField)
    (notMask : parameter ≠ .subnetMask)
    (notGateway : parameter ≠ .gateway) :
    (router.setParameters allOk request).text parameter =
      if request.hasArg parameter.key = true then
        cString (request.arg parameter.key)
      else
        router.text parameter := by
  unfold setParameters
  cases parameter with
  | apIp => exact absurd rfl hasField
  | subnetMask => exact absurd rfl notMask
  | gateway => exact absurd rfl notGateway
  | _ =>
      simp only [text_branch (short.arg _), Parameter.key, reduceCtorEq,
        and_false, and_true, if_false]
      exact if_congr Iff.rfl rfl rfl

/-- The variable of the subnet mask is never set. -/
theorem text_setParameters_mask
    (short : request.Short)
    (router : Router) :
    (router.setParameters allOk request).text .subnetMask =
      router.text .subnetMask := by
  unfold setParameters
  simp [text_branch (short.arg _)]

/-- The variable of the gateway is set by two branches. -/
theorem text_setParameters_gateway
    (short : request.Short)
    (router : Router) :
    (router.setParameters allOk request).text .gateway =
      if request.hasArg "gateway" = true then
        cString (request.arg "gate")
      else if request.hasArg "subnet_mask" = true then
        cString (request.arg "subnet_mask")
      else
        router.text .gateway := by
  unfold setParameters
  simp [text_branch (short.arg _)]

/-- A request without arguments sets nothing, as if it were searched. -/
theorem parseUri_eq
    (template : List Byte)
    (request : Request)
    (router : Router) :
    let after := (parseUri template allOk request router).2
    after.ram = (router.setParameters allOk request).ram ∧
      after.nvs = (router.setParameters allOk request).nvs := by
  unfold parseUri
  by_cases isEmpty : request.args ≠ 0
  · rw [if_pos isEmpty]
    exact ⟨rfl, rfl⟩
  · rw [if_neg isEmpty]
    have none : request.arguments = [] :=
      List.length_eq_zero_iff.mp (not_not.mp isEmpty)
    have absent (name : String) : request.hasArg name = false := by
      simp [Request.hasArg, Request.value?, none]
    simp [setParameters, branch, absent]

/-! ## The law -/

/--
A submitted parameter has its value, in the flash and in RAM; one that is not
submitted is as it was.
-/
def Obeys
    (request : Request)
    (before after : Router)
    (parameter : Parameter) : Prop :=
  match request.value? parameter.key with
  | some value =>
      after.stored parameter = some (cString value) ∧
        after.text parameter = cString value
  | none =>
      after.stored parameter = before.stored parameter ∧
        after.text parameter = before.text parameter

/-- A request sets the fields that it submits, and no other. -/
def FrameLaw
    (request : Request)
    (before after : Router) : Prop :=
  ∀ parameter : Parameter, parameter.HasField →
    Obeys request before after parameter

/--
A request for which the two branches that name other things do no harm.  A
submitted mask has to be in its variable already, and in that of the gateway
if no gateway is submitted; a submitted gateway has to be in the argument
`"gate"`.
-/
structure Harmless
    (request : Request)
    (before : Router) : Prop where
  mask :
    ∀ value, request.value? "subnet_mask" = some value →
      before.text .subnetMask = cString value ∧
        (request.value? "gateway" = none →
          before.text .gateway = cString value)
  gateway :
    ∀ value, request.value? "gateway" = some value →
      cString (request.arg "gate") = cString value

/-- An argument that is there has its value. -/
theorem hasArg_of_value
    {name : String}
    {value : List Byte}
    (submitted : request.value? name = some value) :
    request.hasArg name = true ∧ request.arg name = value := by
  simp [Request.hasArg, Request.arg, submitted]

/-- An argument that is missing is not there. -/
theorem hasArg_of_none
    {name : String}
    (missing : request.value? name = none) :
    request.hasArg name = false := by
  simp [Request.hasArg, missing]

/-- Seven of the branches obey. -/
theorem obeys_setParameters
    (short : request.Short)
    (before : Router)
    {parameter : Parameter}
    (hasField : parameter.HasField)
    (notMask : parameter ≠ .subnetMask)
    (notGateway : parameter ≠ .gateway) :
    Obeys request before (before.setParameters allOk request) parameter := by
  have isSource := sourceOf_eq_key notGateway
  unfold Obeys
  rw [stored_setParameters request before hasField, isSource,
    text_setParameters short before hasField notMask notGateway]
  cases submitted : request.value? parameter.key with
  | some value =>
      obtain ⟨present, isValue⟩ := hasArg_of_value submitted
      rw [if_pos present, if_pos present, isValue]
      exact ⟨rfl, rfl⟩
  | none =>
      have absent := hasArg_of_none submitted
      rw [if_neg (by simp [absent]), if_neg (by simp [absent])]
      exact ⟨rfl, rfl⟩

/-- The mask obeys if it is not submitted, or was in its variable before. -/
theorem obeys_mask_iff
    (short : request.Short)
    (before : Router) :
    Obeys request before (before.setParameters allOk request) .subnetMask ↔
      ∀ value, request.value? "subnet_mask" = some value →
        before.text .subnetMask = cString value := by
  have hasField : Parameter.subnetMask.HasField := by decide
  have stored := stored_setParameters request before hasField
  have isKey : Parameter.subnetMask.key = "subnet_mask" := rfl
  have isSource : sourceOf .subnetMask = "subnet_mask" := rfl
  unfold Obeys
  rw [stored, text_setParameters_mask short before, isKey, isSource]
  cases submitted : request.value? "subnet_mask" with
  | some value =>
      obtain ⟨present, isValue⟩ := hasArg_of_value submitted
      rw [if_pos present, isValue]
      simp
  | none =>
      have absent := hasArg_of_none submitted
      rw [if_neg (by simp [absent])]
      simp

/--
The gateway obeys if it is submitted as the argument that is read, or if no
mask takes its variable.
-/
theorem obeys_gateway_iff
    (short : request.Short)
    (before : Router) :
    Obeys request before (before.setParameters allOk request) .gateway ↔
      (∀ value, request.value? "gateway" = some value →
        cString (request.arg "gate") = cString value) ∧
      (request.value? "gateway" = none →
        ∀ value, request.value? "subnet_mask" = some value →
          before.text .gateway = cString value) := by
  have hasField : Parameter.gateway.HasField := by decide
  have stored := stored_setParameters request before hasField
  have isKey : Parameter.gateway.key = "gateway" := rfl
  have isSource : sourceOf .gateway = "gate" := rfl
  unfold Obeys
  rw [stored, text_setParameters_gateway short before, isKey, isSource]
  cases submitted : request.value? "gateway" with
  | some value =>
      obtain ⟨present, _⟩ := hasArg_of_value submitted
      rw [if_pos present, if_pos present]
      simp
  | none =>
      have absent := hasArg_of_none submitted
      rw [if_neg (by simp [absent]), if_neg (by simp [absent])]
      cases isMask : request.value? "subnet_mask" with
      | some value =>
          obtain ⟨present, isValue⟩ := hasArg_of_value isMask
          rw [if_pos present, isValue]
          simp [eq_comm]
      | none =>
          have absent := hasArg_of_none isMask
          rw [if_neg (by simp [absent])]
          simp

/-- Whether a parameter obeys is about the flash and the variables. -/
theorem obeys_congr
    {before after other : Router}
    (sameRam : after.ram = other.ram)
    (sameNvs : after.nvs = other.nvs)
    (parameter : Parameter) :
    Obeys request before after parameter ↔
      Obeys request before other parameter := by
  unfold Obeys stored text
  rw [sameRam, sameNvs]

/--
With all calls of the flash library succeeding, a request of values that fit
into a buffer obeys the law if and only if it is harmless.
-/
theorem frame_law_iff
    (template : List Byte)
    (short : request.Short)
    (before : Router) :
    FrameLaw request before (parseUri template allOk request before).2 ↔
      Harmless request before := by
  obtain ⟨sameRam, sameNvs⟩ := parseUri_eq template request before
  have congruent (parameter : Parameter) :=
    @obeys_congr request before _ _ sameRam sameNvs parameter
  constructor
  · intro law
    have mask :=
      (obeys_mask_iff short before).mp
        ((congruent .subnetMask).mp (law .subnetMask (by decide)))
    have gateway :=
      (obeys_gateway_iff short before).mp
        ((congruent .gateway).mp (law .gateway (by decide)))
    exact ⟨fun value isMask =>
        ⟨mask value isMask, fun missing => gateway.2 missing value isMask⟩,
      gateway.1⟩
  · intro harmless parameter hasField
    rw [congruent]
    by_cases isMask : parameter = .subnetMask
    · subst isMask
      rw [obeys_mask_iff short before]
      exact fun value submitted => (harmless.mask value submitted).1
    · by_cases isGateway : parameter = .gateway
      · subst isGateway
        rw [obeys_gateway_iff short before]
        exact ⟨harmless.gateway, fun missing value submitted =>
          (harmless.mask value submitted).2 missing⟩
      · exact obeys_setParameters short before hasField isMask isGateway

/-- A router with empty variables and nothing in its flash. -/
def fresh : Router where
  ram := fun _ => Nvs.zeroed
  nvs := .empty
  uplinkConnected := false
  configPage := []

/-- A new SSID and passphrase for the uplink are set. -/
theorem frame_law_uplink :
    let request : Request :=
      ⟨[("sta_ssid", ascii "home"), ("sta_password", ascii "12345678")]⟩
    FrameLaw request fresh (parseUri [] allOk request fresh).2 :=
  (frame_law_iff [] (by decide) fresh).mpr
    ⟨fun _ submitted => by simp [Request.value?] at submitted,
      fun _ submitted => by simp [Request.value?] at submitted⟩

/-- A mask and a gateway, as the form submits them. -/
def staticAddress : Request :=
  ⟨[("static_ip", ascii "10.0.0.2"), ("subnet_mask", ascii "255.0.0.0"),
    ("gateway", ascii "10.0.0.1")]⟩

/-- The mask is not set in RAM, and the gateway is set to nothing. -/
theorem not_frame_law_static :
    let after := (parseUri [] allOk staticAddress fresh).2
    staticAddress.Short ∧
      ¬ FrameLaw staticAddress fresh after ∧
        after.text .subnetMask = [] ∧ after.text .gateway = [] ∧
          after.stored .gateway = some [] := by
  intro after
  have noMask : after.text .subnetMask = [] := by decide
  have noGateway : after.text .gateway = [] := by decide
  refine ⟨by decide, ?_, noMask, noGateway, by decide⟩
  intro law
  have obeys := law .subnetMask (by decide)
  have mask : after.text .subnetMask = ascii "255.0.0.0" := obeys.2
  rw [noMask] at mask
  exact absurd mask (by decide)

end Router

end SimpleTlsBroker
