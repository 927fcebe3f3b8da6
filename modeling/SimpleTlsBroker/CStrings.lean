import SimpleTlsBroker.Message
import SimpleTlsBroker.Library.Terminated

namespace SimpleTlsBroker

/-!
# C strings

Texts of the source as bytes, and the string functions that the application
and the configuration server share.
-/

/-- A text of the source, as bytes. -/
def ascii (text : String) : List Byte :=
  text.toList.map fun character => UInt8.ofNat character.toNat

/-- A decimal digit. -/
def IsDigit (byte : Byte) : Prop :=
  0x30 ≤ byte ∧ byte ≤ 0x39

instance (byte : Byte) : Decidable (IsDigit byte) :=
  inferInstanceAs (Decidable (0x30 ≤ byte ∧ byte ≤ 0x39))

/-- What a C string function sees of some bytes: those before the first NUL. -/
def cString (bytes : List Byte) : List Byte :=
  bytes.takeWhile fun byte => byte ≠ 0

/-- `strncpy(target, source, count)`, as the buffer afterwards. -/
def strncpy
    (target source : List Byte)
    (count : Nat) : List Byte :=
  Terminated.copy 0 target source count

/-- A C string has no NUL in it. -/
theorem not_mem_cString (bytes : List Byte) : 0 ∉ cString bytes :=
  Terminated.not_mem_text 0 bytes

/-- A C string is its own. -/
theorem cString_cString (bytes : List Byte) :
    cString (cString bytes) = cString bytes :=
  Terminated.text_text 0 bytes

/-- So are bytes without a NUL. -/
theorem cString_of_not_mem
    {bytes : List Byte}
    (noNul : 0 ∉ bytes) :
    cString bytes = bytes :=
  Terminated.text_of_not_mem noNul

/-- A string that is shorter than the count is copied whole. -/
theorem cString_strncpy
    {source : List Byte}
    {count : Nat}
    (short : (cString source).length < count)
    (target : List Byte) :
    cString (strncpy target source count) = cString source :=
  Terminated.text_copy short target

end SimpleTlsBroker
