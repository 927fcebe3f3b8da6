import SimpleTlsBroker.ConfigPage
import SimpleTlsBroker.Library.Escapes
import SimpleTlsBroker.Library.Memory

namespace SimpleTlsBroker

/-!
# Escaping for HTML

`html_escape` goes over a string twice: it counts the bytes that it needs, and
then writes them.  The two passes agree, and what is written is the string
with its special characters replaced by numeric entities, from which it can be
read back.
-/

open Memory

/-! ## The code -/

/-- The entity of a character whose code has two decimal digits. -/
def entity (byte : Byte) : List Byte :=
  ascii "&#" ++ [0x30 + byte / 10, 0x30 + byte % 10] ++ ascii ";"

/-- The character of an entity with two digits at the front of a text. -/
def entity? : List Byte → Option Byte
  | 0x26 :: 0x23 :: tens :: ones :: 0x3B :: _ =>
      if IsDigit tens ∧ IsDigit ones then
        some (10 * (tens - 0x30) + (ones - 0x30))
      else
        none
  | _ => none

/-- Entities are longer than four bytes. -/
theorem length_of_entity?
    {text : List Byte}
    {byte : Byte}
    (isEntity : entity? text = some byte) :
    4 < text.length := by
  unfold entity? at isEntity
  split at isEntity
  · simp
  · exact nomatch isEntity

/-- The entity of a special character is recognised. -/
theorem entity?_entity
    {byte : Byte}
    (special : byte ∈ htmlSpecial)
    (rest : List Byte) :
    entity? (entity byte ++ rest) = some byte := by
  have known : ∀ byte ∈ htmlSpecial, entity? (entity byte) = some byte := by
    decide +kernel
  have shape :
      entity byte =
        [0x26, 0x23, 0x30 + byte / 10, 0x30 + byte % 10, 0x3B] := rfl
  have alone := known byte special
  rw [shape] at alone ⊢
  exact alone

/-- Other characters do not begin one. -/
theorem entity?_plain
    {byte : Byte}
    (plain : byte ∉ htmlSpecial)
    (rest : List Byte) :
    entity? (byte :: rest) = none := by
  unfold entity?
  split
  · rename_i shape
    rw [List.cons.injEq] at shape
    rw [shape.1] at plain
    exact absurd (by decide) plain
  · rfl

/-- The special characters with their entities. -/
def htmlCode : Escapes.Code Byte where
  Special byte := byte ∈ htmlSpecial
  isSpecial byte := inferInstanceAs (Decidable (byte ∈ htmlSpecial))
  width := 4
  escape := entity
  recognize? := entity?
  length_escape _ _ := rfl
  recognize_escape _ rest special := entity?_entity special rest
  recognize_plain _ rest plain := entity?_plain plain rest
  length_of_recognized _ _ := length_of_entity?

/-- Every entity with two digits replaced by its character. -/
def unescape (text : List Byte) : List Byte :=
  htmlCode.decode text

/-- `html_escape` encodes a string. -/
theorem htmlEscape_eq (src : List Byte) :
    htmlEscape src = htmlCode.encode (cString src) := rfl

/-- A string is read back. -/
theorem unescape_htmlEscape (src : List Byte) :
    unescape (htmlEscape src) = cString src :=
  Escapes.Code.decode_encode _

/-! ## The characters of the result -/

/-- What a character becomes. -/
theorem mem_replace
    {byte char : Byte}
    (member : byte ∈ htmlCode.replace char) :
    (htmlCode.replace char = [char] ∧ byte = char ∧ char ∉ htmlSpecial) ∨
      (htmlCode.replace char = entity char ∧ char ∈ htmlSpecial) := by
  by_cases special : char ∈ htmlSpecial
  · exact .inr ⟨if_pos special, special⟩
  · have plain : htmlCode.replace char = [char] := if_neg special
    rw [plain, List.mem_singleton] at member
    exact .inl ⟨plain, member, special⟩

/-- A character of the result was there before, or is one of an entity. -/
theorem mem_htmlEscape
    {src : List Byte}
    {byte : Byte}
    (member : byte ∈ htmlEscape src) :
    (byte ∈ cString src ∧ byte ∉ htmlSpecial) ∨
      ∃ char ∈ htmlSpecial, byte ∈ entity char := by
  rw [htmlEscape_eq, Escapes.Code.mem_encode] at member
  obtain ⟨char, inSource, inReplaced⟩ := member
  rcases mem_replace inReplaced with ⟨_, rfl, plain⟩ | ⟨isEntity, special⟩
  · exact .inl ⟨inSource, plain⟩
  · exact .inr ⟨char, special, isEntity ▸ inReplaced⟩

/-- A special character of the result is one of an entity. -/
theorem special_of_mem_entity
    {byte char : Byte}
    (special : char ∈ htmlSpecial)
    (member : byte ∈ entity char)
    (isSpecial : byte ∈ htmlSpecial) :
    byte ∈ ascii "&#;" := by
  have known :
      ∀ char ∈ htmlSpecial, ∀ byte ∈ entity char, byte ∈ htmlSpecial →
        byte ∈ ascii "&#;" := by
    decide +kernel
  exact known char special byte member isSpecial

/-- The result has no other special characters. -/
theorem special_of_mem_htmlEscape
    {src : List Byte}
    {byte : Byte}
    (member : byte ∈ htmlEscape src)
    (isSpecial : byte ∈ htmlSpecial) :
    byte ∈ ascii "&#;" := by
  rcases mem_htmlEscape member with ⟨_, plain⟩ | ⟨char, special, inEntity⟩
  · exact absurd isSpecial plain
  · exact special_of_mem_entity special inEntity isSpecial

/-- The result is a string again. -/
theorem not_mem_htmlEscape (src : List Byte) : 0 ∉ htmlEscape src := by
  have known : ∀ char ∈ htmlSpecial, 0 ∉ entity char := by decide +kernel
  intro member
  rcases mem_htmlEscape member with ⟨inSource, _⟩ | ⟨char, special, inEntity⟩
  · exact not_mem_cString src inSource
  · exact known char special inEntity

/-! ## The two passes -/

/-- The first pass: `esc_len`. -/
def escLen (src : List Byte) : Nat :=
  (cString src).foldl
    (fun escLen byte => if byte ∈ htmlSpecial then escLen + 4 else escLen)
    ((cString src).length + 1)

/-- The memory at `res`, and the index of the next byte. -/
structure Output where
  res : Nat → Byte
  j : Nat

namespace Output

/-- `res[j++] = byte`. -/
def put (output : Output) (byte : Byte) : Output where
  res := Function.update output.res output.j byte
  j := output.j + 1

/-- The second pass, for one character. -/
def escape (output : Output) (byte : Byte) : Output :=
  if byte ∈ htmlSpecial then
    ((((output.put 0x26).put 0x23).put (0x30 + byte / 10)).put
      (0x30 + byte % 10)).put 0x3B
  else
    output.put byte

/-- A text was written from the beginning, and nothing behind it. -/
structure Wrote
    (initial : Nat → Byte)
    (output : Output)
    (text : List Byte) : Prop where
  j : output.j = text.length
  holds : Holds output.res 0 text
  behind : ∀ index, text.length ≤ index → output.res index = initial index

variable {initial : Nat → Byte}
variable {output : Output}
variable {text : List Byte}

/-- One byte more. -/
theorem Wrote.put
    (wrote : Wrote initial output text)
    (byte : Byte) :
    Wrote initial (output.put byte) (text ++ [byte]) where
  j := by simp [Output.put, wrote.j]
  holds := by
    have written := wrote.holds.write byte
    rw [Nat.zero_add, ← wrote.j] at written
    exact written
  behind := by
    intro index isBehind
    rw [List.length_append, List.length_singleton] at isBehind
    have other : index ≠ output.j := by
      rw [wrote.j]
      omega
    exact (Function.update_of_ne other _ _).trans
      (wrote.behind index (by omega))

/-- What stands for one character. -/
theorem Wrote.escape
    (wrote : Wrote initial output text)
    (byte : Byte) :
    Wrote initial (output.escape byte) (text ++ htmlCode.replace byte) := by
  unfold Output.escape
  by_cases special : byte ∈ htmlSpecial
  · have isEntity : htmlCode.replace byte = entity byte := if_pos special
    have written :=
      ((((wrote.put 0x26).put 0x23).put (0x30 + byte / 10)).put
        (0x30 + byte % 10)).put 0x3B
    rw [if_pos special, isEntity]
    simpa [entity, ascii] using written
  · have plain : htmlCode.replace byte = [byte] := if_neg special
    rw [if_neg special, plain]
    exact wrote.put byte

/-- What stands for all characters of a text. -/
theorem Wrote.foldl
    (wrote : Wrote initial output text)
    (src : List Byte) :
    Wrote initial (src.foldl Output.escape output)
      (text ++ htmlCode.encode src) := by
  induction src generalizing output text with
  | nil => simpa using wrote
  | cons byte rest inductionHypothesis =>
      have later := inductionHypothesis (wrote.escape byte)
      rw [List.append_assoc] at later
      exact later

end Output

/-- The second pass: the memory at `res` when it is returned. -/
def escapeInto (res : Nat → Byte) (src : List Byte) : Output :=
  ((cString src).foldl Output.escape ⟨res, 0⟩).put 0

/-- The result of the second pass. -/
theorem wrote_escapeInto
    (res : Nat → Byte)
    (src : List Byte) :
    Output.Wrote res (escapeInto res src) (htmlEscape src ++ [0]) := by
  have nothing : Output.Wrote res ⟨res, 0⟩ [] :=
    ⟨rfl, trivial, fun _ _ => rfl⟩
  exact (nothing.foldl (cString src)).put 0

/-- A character becomes one byte, or five. -/
theorem length_replace (byte : Byte) :
    (htmlCode.replace byte).length =
      if byte ∈ htmlSpecial then 5 else 1 := by
  by_cases special : byte ∈ htmlSpecial
  · have isEntity : htmlCode.replace byte = entity byte := if_pos special
    rw [if_pos special, isEntity]
    rfl
  · have plain : htmlCode.replace byte = [byte] := if_neg special
    rw [if_neg special, plain]
    rfl

/-- The rounds of the first pass count what each character becomes. -/
theorem foldl_escLen
    (text : List Byte)
    (escLen : Nat) :
    text.foldl
          (fun escLen byte =>
            if byte ∈ htmlSpecial then escLen + 4 else escLen)
          escLen + text.length =
      escLen + (htmlCode.encode text).length := by
  induction text generalizing escLen with
  | nil => rfl
  | cons byte rest inductionHypothesis =>
      rw [List.foldl_cons, List.length_cons, Escapes.Code.encode_cons,
        List.length_append, length_replace]
      by_cases special : byte ∈ htmlSpecial
      · have later := inductionHypothesis (escLen + 4)
        rw [if_pos special, if_pos special]
        omega
      · have later := inductionHypothesis escLen
        rw [if_neg special, if_neg special]
        omega

/-- The first pass counts what the second one writes. -/
theorem escLen_eq (src : List Byte) :
    escLen src = (htmlEscape src).length + 1 := by
  have counted := foldl_escLen (cString src) ((cString src).length + 1)
  rw [htmlEscape_eq]
  unfold escLen
  omega

/-! ## The result -/

/-- The string that was written. -/
def Output.string (output : Output) : List Byte :=
  cString ((List.range output.j).map output.res)

/-- It is the escaped string. -/
theorem string_escapeInto
    (res : Nat → Byte)
    (src : List Byte) :
    (escapeInto res src).string = htmlEscape src := by
  have wrote := wrote_escapeInto res src
  have read := wrote.holds.map_range
  simp only [Nat.zero_add] at read
  unfold Output.string
  rw [wrote.j, read]
  exact Terminated.text_append (not_mem_htmlEscape src) []

/--
An index of the result belongs to the entity of a special character: five
bytes of which two are the decimal digits of its code.
-/
def InEntity
    (src result : List Byte)
    (index : Nat) : Prop :=
  ∃ before char after tens ones,
    cString src = before ++ char :: after ∧ char ∈ htmlSpecial ∧
      (htmlEscape before).length ≤ index ∧
        index < (htmlEscape before).length + 5 ∧
          IsDigit tens ∧ IsDigit ones ∧
            char = 10 * (tens - 0x30) + (ones - 0x30) ∧
              (result.drop (htmlEscape before).length).take 5 =
                [0x26, 0x23, tens, ones, 0x3B]

/-- Entities have two digits. -/
theorem digits_of_special
    {char : Byte}
    (special : char ∈ htmlSpecial) :
    IsDigit (0x30 + char / 10) ∧ IsDigit (0x30 + char % 10) ∧
      char = 10 * (0x30 + char / 10 - 0x30) + (0x30 + char % 10 - 0x30) := by
  have known :
      ∀ char ∈ htmlSpecial,
        IsDigit (0x30 + char / 10) ∧ IsDigit (0x30 + char % 10) ∧
          char =
            10 * (0x30 + char / 10 - 0x30) + (0x30 + char % 10 - 0x30) := by
    decide +kernel
  exact known char special

/-- Every special character of the result belongs to an entity. -/
theorem inEntity_of_special
    {src : List Byte}
    {index : Nat}
    {byte : Byte}
    (stands : (htmlEscape src)[index]? = some byte)
    (isSpecial : byte ∈ htmlSpecial) :
    InEntity src (htmlEscape src) index := by
  obtain ⟨inText, isByte⟩ := List.getElem?_eq_some_iff.mp stands
  obtain ⟨before, char, after, split, atLeast, below⟩ :=
    Escapes.Code.exists_replaced (htmlEscape_eq src ▸ inText)
  have noNul : 0 ∉ before := by
    intro member
    apply not_mem_cString src
    rw [split]
    exact List.mem_append_left _ member
  have isBefore : htmlEscape before = htmlCode.encode before :=
    congrArg htmlCode.encode (cString_of_not_mem noNul)
  have block : ((htmlEscape src).drop (htmlCode.encode before).length).take
      (htmlCode.replace char).length = htmlCode.replace char := by
    rw [htmlEscape_eq, split]
    exact Escapes.Code.take_drop_encode before char after
  have inBlock : byte ∈ htmlCode.replace char := by
    rw [← block, ← isByte]
    refine List.mem_iff_getElem.mpr
      ⟨index - (htmlCode.encode before).length, ?_, ?_⟩
    · rw [block]
      omega
    · simp [Nat.add_sub_cancel' atLeast]
  rcases mem_replace inBlock with ⟨_, rfl, plain⟩ | ⟨isEntity, special⟩
  · exact absurd isSpecial plain
  · obtain ⟨tens, ones, value⟩ := digits_of_special special
    rw [isEntity] at block below
    refine ⟨before, char, after, _, _, split, special, ?_, ?_, tens, ones,
      value, ?_⟩
    · rw [isBefore]
      exact atLeast
    · rw [isBefore]
      exact below
    · rw [isBefore]
      exact block

/--
`html_escape` writes as many bytes as it has allocated and no others.  Quotes
and backslashes do not occur in its result, the characters `&`, `#` and `;`
only in entities, and with the entities replaced it is the string again, so
that it comes from no other string.
-/
theorem html_escape_exact
    (res : Nat → Byte)
    (src : List Byte) :
    let output := escapeInto res src
    (output.j = escLen src ∧
        ∀ index, escLen src ≤ index → output.res index = res index) ∧
      (∀ byte ∈ output.string, byte ∉ ascii "'\"\\") ∧
        (∀ index byte, output.string[index]? = some byte →
          byte ∈ ascii "&#;" → InEntity src output.string index) ∧
          unescape output.string = cString src ∧
            ∀ res' other, (escapeInto res' other).string = output.string →
              cString other = cString src := by
  have wrote := wrote_escapeInto res src
  have isCount : (htmlEscape src ++ [0]).length = escLen src := by
    rw [escLen_eq]
    simp
  dsimp only
  simp only [string_escapeInto]
  refine ⟨⟨wrote.j.trans isCount, ?_⟩, ?_, ?_, unescape_htmlEscape src, ?_⟩
  · intro index isBehind
    exact wrote.behind index (isCount.trans_le isBehind)
  · intro byte member isQuote
    have known :
        ∀ byte ∈ ascii "'\"\\", byte ∈ htmlSpecial ∧ byte ∉ ascii "&#;" := by
      decide +kernel
    obtain ⟨isSpecial, other⟩ := known byte isQuote
    exact other (special_of_mem_htmlEscape member isSpecial)
  · intro index byte stands isMark
    have known : ∀ byte ∈ ascii "&#;", byte ∈ htmlSpecial := by
      decide +kernel
    exact inEntity_of_special stands (known byte isMark)
  · intro res' other same
    rw [htmlEscape_eq, htmlEscape_eq] at same
    exact Escapes.Code.encode_injective same

end SimpleTlsBroker
