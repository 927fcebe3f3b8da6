import SimpleTlsBroker.CStrings

namespace SimpleTlsBroker

/-!
# The configuration page

The configuration server shows the parameters of the router on a page.  The
template is a parameter here; `snprintf` fills it with the escaped values, and
three of them as they are.
-/

/-- The parameters that the router keeps in RAM, by their variables. -/
inductive Parameter where
  | staSsid
  | entUsername
  | entIdentity
  | staPassword
  | staticIp
  | subnetMask
  | gateway
  | apSsid
  | apPassword
  | apIp
  deriving Repr, DecidableEq

/-- The characters that `html_escape` replaces. -/
def htmlSpecial : List Byte := ascii "\\'\"&#;"

/-- What `html_escape` makes of one character. -/
def escapeChar (byte : Byte) : List Byte :=
  if byte ∈ htmlSpecial then
    ascii "&#" ++ [0x30 + byte / 10, 0x30 + byte % 10] ++ ascii ";"
  else
    [byte]

/-- `html_escape`. -/
def htmlEscape (src : List Byte) : List Byte :=
  (cString src).flatMap escapeChar

/-- `snprintf` for the conversions `%s` and `%%`, without its limit. -/
def formatStrings : List Byte → List (List Byte) → List Byte
  | 0x25 :: 0x25 :: template, values =>
      0x25 :: formatStrings template values
  | 0x25 :: 0x73 :: template, value :: values =>
      cString value ++ formatStrings template values
  | byte :: template, values => byte :: formatStrings template values
  | [], _ => []

/-- `fillPage`: the page as a string. -/
def fillPage
    (template : List Byte)
    (uplinkConnected : Bool)
    (ram : Parameter → List Byte) : List Byte :=
  let safe (parameter : Parameter) := htmlEscape (ram parameter)
  let pageLen :=
    template.length + (safe .apSsid).length + (safe .apPassword).length +
      (safe .staSsid).length + (safe .staPassword).length +
        (safe .entUsername).length + (safe .entIdentity).length + 256
  (formatStrings template
    [if uplinkConnected then ascii "00ff00" else ascii "ff0000",
      safe .apSsid, safe .apPassword, safe .staSsid, safe .staPassword,
      safe .entUsername, safe .entIdentity, ram .staticIp, ram .subnetMask,
      ram .gateway]).take (pageLen - 1)

end SimpleTlsBroker
