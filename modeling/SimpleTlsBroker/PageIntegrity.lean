import SimpleTlsBroker.ConfigTemplate
import SimpleTlsBroker.HtmlEscape
import SimpleTlsBroker.Library.Slots

namespace SimpleTlsBroker

/-!
# The page shows the parameters

`fillPage` allocates enough for all values that are shorter than their
variables.  Six of them are escaped and can be read back from their inputs;
three are put into their inputs as they are, and can be read back as long as
they have no quote and no entity in them.  Two of the inputs stand in a
comment, which their values do not end as long as the end of a comment is not
in them.
-/

open Escapes (Code)

/-! ## Formatting -/

section Formatting

variable {template text : List Byte}
variable {values : List (List Byte)}

/-- A text without percent sign is copied. -/
theorem formatStrings_text
    (plain : 0x25 ∉ text)
    (template : List Byte)
    (values : List (List Byte)) :
    formatStrings (text ++ template) values =
      text ++ formatStrings template values := by
  induction text with
  | nil => rfl
  | cons byte rest inductionHypothesis =>
      have notFirst : 0x25 ≠ byte := List.ne_of_not_mem_cons plain
      have plainRest : 0x25 ∉ rest := List.not_mem_of_not_mem_cons plain
      have taken :
          formatStrings (byte :: (rest ++ template)) values =
            byte :: formatStrings (rest ++ template) values := by
        rw [formatStrings]
        · intro _ isPercent
          exact absurd isPercent.symm notFirst
        · intro _ _ _ _ isPercent
          exact absurd isPercent.symm notFirst
      rw [List.cons_append, taken, inductionHypothesis plainRest]
      rfl

/-- `%s` is replaced by the next string. -/
theorem formatStrings_value
    (template value : List Byte)
    (values : List (List Byte)) :
    formatStrings (ascii "%s" ++ template) (value :: values) =
      cString value ++ formatStrings template values := rfl

/-- `%%` is replaced by a percent sign. -/
theorem formatStrings_percent
    (template : List Byte)
    (values : List (List Byte)) :
    formatStrings (ascii "%%" ++ template) values =
      ascii "%" ++ formatStrings template values := rfl

/-- The result is not longer than the template and the strings together. -/
theorem length_formatStrings_le
    (template : List Byte)
    (values : List (List Byte)) :
    (formatStrings template values).length ≤
      template.length + (values.flatMap cString).length := by
  fun_induction formatStrings template values with
  | case1 values template inductionHypothesis =>
      simp only [List.length_cons]
      omega
  | case2 template value values inductionHypothesis =>
      simp only [List.length_append, List.length_cons,
        List.flatMap_cons]
      omega
  | case3 values byte template _ _ inductionHypothesis =>
      simp only [List.length_cons]
      omega
  | case4 values => simp

end Formatting

/-! ## The texts of the template -/

/-- A character does not occur in a text. -/
def Lacks (text : String) (byte : Byte) : Prop :=
  byte ∉ ascii text

/-- This is seen from the characters of a literal. -/
theorem lacks_ofList
    {chars : List Char}
    {byte : Byte}
    (free :
      chars.all (fun char => UInt8.ofNat char.toNat != byte) = true) :
    Lacks (String.ofList chars) byte := by
  unfold Lacks ascii
  rw [String.toList_ofList]
  simpa using free

theorem ascii_append (first second : String) :
    ascii (first ++ second) = ascii first ++ ascii second := by
  simp [ascii]

theorem lacks_append
    {first second : String}
    {byte : Byte}
    (lacksFirst : Lacks first byte)
    (lacksSecond : Lacks second byte) :
    Lacks (first ++ second) byte := by
  unfold Lacks
  rw [ascii_append, List.mem_append]
  exact not_or.mpr ⟨lacksFirst, lacksSecond⟩

theorem lacks_join
    {parts : List String}
    {byte : Byte}
    (lacks : ∀ part ∈ parts, Lacks part byte) :
    Lacks (String.join parts) byte := by
  unfold Lacks ascii
  rw [String.toList_join, List.map_flatMap]
  intro member
  obtain ⟨part, inParts, inText⟩ := List.mem_flatMap.mp member
  exact lacks part inParts inText

section LongTexts

set_option maxRecDepth 10000

/-- There is no percent sign in the texts of the template. -/
theorem plain_pageStart : Lacks pageStart 0x25 :=
  lacks_ofList (by decide +kernel)

theorem plain_pageForms : Lacks pageForms 0x25 :=
  lacks_ofList (by decide +kernel)

theorem plain_pageProgress : Lacks pageProgress 0x25 :=
  lacks_ofList (by decide +kernel)

theorem plain_pageEnd : Lacks pageEnd 0x25 :=
  lacks_ofList (by decide +kernel)

theorem plain_logo : Lacks logo 0x25 := by
  apply lacks_join
  repeat'
    refine List.forall_mem_cons.mpr ⟨lacks_ofList (by decide +kernel), ?_⟩
  exact nofun

/-- There is none in the texts in front of the inputs. -/
theorem plain_textBefore (parameter : Parameter) :
    Lacks (textBefore parameter) 0x25 := by
  cases parameter with
  | apSsid =>
      have style : Lacks pageStyle 0x25 := lacks_ofList (by decide +kernel)
      have script : Lacks pageScript 0x25 := lacks_ofList (by decide +kernel)
      exact lacks_append (lacks_append style plain_logo) script
  | entUsername =>
      have before : Lacks beforeComment 0x25 := lacks_ofList (by decide +kernel)
      have mark : Lacks "<!--" 0x25 := lacks_ofList (by decide +kernel)
      have start : Lacks commentStart 0x25 := lacks_ofList (by decide +kernel)
      exact lacks_append (lacks_append before mark) start
  | staticIp =>
      have ending : Lacks commentEnd 0x25 := lacks_ofList (by decide +kernel)
      have mark : Lacks "-->" 0x25 := lacks_ofList (by decide +kernel)
      have after : Lacks afterComment 0x25 := lacks_ofList (by decide +kernel)
      exact lacks_append (lacks_append ending mark) after
  | _ => exact lacks_ofList (by decide +kernel)

end LongTexts

/-- A character that is not in the name of an input is not in its opening. -/
theorem lacks_opening
    {parameter : Parameter}
    {byte : Byte}
    (lacksFront : Lacks "<input type='text' name='" byte)
    (lacksKey : Lacks parameter.key byte)
    (lacksBack : Lacks "' value='" byte) :
    Lacks (opening parameter) byte :=
  lacks_append (lacks_append lacksFront lacksKey) lacksBack

/-- There is no percent sign in the inputs. -/
theorem plain_opening (parameter : Parameter) :
    Lacks (opening parameter) 0x25 := by
  apply lacks_opening
  · exact lacks_ofList (by decide +kernel)
  · cases parameter <;> exact lacks_ofList (by decide +kernel)
  · exact lacks_ofList (by decide +kernel)

/-- There is no hyphen in them. -/
theorem opening_lacks_hyphen (parameter : Parameter) :
    Lacks (opening parameter) 0x2D := by
  apply lacks_opening
  · exact lacks_ofList (by decide +kernel)
  · cases parameter <;> exact lacks_ofList (by decide +kernel)
  · exact lacks_ofList (by decide +kernel)

/-! ## The page -/

section Page

variable {uplinkConnected : Bool}
variable {ram : Parameter → List Byte}

/-- The parameters that `fillPage` does not escape. -/
def unescapedParameters : List Parameter :=
  [.staticIp, .subnetMask, .gateway]

/-- The argument of `snprintf` for a parameter. -/
def argument
    (ram : Parameter → List Byte)
    (parameter : Parameter) : List Byte :=
  if parameter ∈ unescapedParameters then
    ram parameter
  else
    htmlEscape (ram parameter)

/-- The colour of the light. -/
def colour (uplinkConnected : Bool) : List Byte :=
  if uplinkConnected then ascii "00ff00" else ascii "ff0000"

/-- The arguments of `snprintf` behind the template. -/
def pageArguments
    (uplinkConnected : Bool)
    (ram : Parameter → List Byte) : List (List Byte) :=
  colour uplinkConnected :: shown.map (argument ram)

/-- `page_len`. -/
def pageLen
    (template : List Byte)
    (ram : Parameter → List Byte) : Nat :=
  template.length + (htmlEscape (ram .apSsid)).length +
    (htmlEscape (ram .apPassword)).length +
      (htmlEscape (ram .staSsid)).length +
        (htmlEscape (ram .staPassword)).length +
          (htmlEscape (ram .entUsername)).length +
            (htmlEscape (ram .entIdentity)).length + 256

/-- `fillPage` formats the template, up to the length of its buffer. -/
theorem fillPage_eq
    (template : List Byte)
    (uplinkConnected : Bool)
    (ram : Parameter → List Byte) :
    fillPage template uplinkConnected ram =
      (formatStrings template (pageArguments uplinkConnected ram)).take
        (pageLen template ram - 1) := rfl

/-- An escaped string is a string. -/
theorem cString_htmlEscape (src : List Byte) :
    cString (htmlEscape src) = htmlEscape src :=
  cString_of_not_mem (not_mem_htmlEscape src)

/-- What is put into the input of an escaped parameter. -/
theorem argument_escaped
    {parameter : Parameter}
    (escaped : parameter ∉ unescapedParameters) :
    cString (argument ram parameter) = htmlEscape (ram parameter) := by
  rw [argument, if_neg escaped, cString_htmlEscape]

/-- What is put into the input of another one. -/
theorem argument_unescaped
    {parameter : Parameter}
    (unescaped : parameter ∈ unescapedParameters) :
    cString (argument ram parameter) = cString (ram parameter) := by
  rw [argument, if_pos unescaped]

/-- The buffer is long enough. -/
theorem fillPage_complete
    (short :
      ∀ parameter ∈ shown, (cString (ram parameter)).length < paramLen)
    (template : List Byte)
    (uplinkConnected : Bool) :
    fillPage template uplinkConnected ram =
      formatStrings template (pageArguments uplinkConnected ram) := by
  have atMost :=
    length_formatStrings_le template (pageArguments uplinkConnected ram)
  have light : (cString (colour uplinkConnected)).length = 6 := by
    cases uplinkConnected <;> decide
  have staticIp := short .staticIp (by decide)
  have subnetMask := short .subnetMask (by decide)
  have gateway := short .gateway (by decide)
  rw [fillPage_eq]
  apply List.take_of_length_le
  simp only [pageArguments, shown, argument, unescapedParameters, light,
    List.map_cons, List.map_nil, List.flatMap_cons, List.flatMap_nil,
    List.length_append, List.length_nil, List.mem_cons, List.not_mem_nil,
    reduceCtorEq, or_false, or_true, if_true, if_false,
    cString_htmlEscape] at atMost ⊢
  unfold pageLen
  unfold paramLen at staticIp subnetMask gateway
  omega

/-- The text in front of a value. -/
def textOf (parameter : Parameter) : List Byte :=
  ascii (textBefore parameter) ++ ascii (opening parameter)

/-- The text behind the last value, as it is shown. -/
def shownEnd : List Byte :=
  ascii pageForms ++
    (ascii "%" ++ (ascii pageProgress ++ (ascii "%" ++ ascii pageEnd)))

/--
The values of the inputs of a page: the text of the template, and between its
quotes whatever is there up to the next quote.
-/
def readPage
    (uplinkConnected : Bool)
    (page : List Byte) : Option (List (List Byte)) :=
  let start := ascii pageStart ++ colour uplinkConnected
  if start.isPrefixOf page then
    Slots.read 0x27 textOf shownEnd shown (page.drop start.length)
  else
    none

/-- The inputs of the template are filled one by one. -/
theorem formatStrings_inputs
    (parameters : List Parameter)
    (value : Parameter → List Byte)
    (rest : List Byte) :
    formatStrings (parameters.flatMap field ++ rest)
        (parameters.map value) =
      Slots.render 0x27 textOf (fun parameter => cString (value parameter))
        (formatStrings rest []) parameters := by
  induction parameters with
  | nil => rfl
  | cons parameter parameters inductionHypothesis =>
      have quote : 0x25 ∉ ascii "'" := by decide
      rw [List.flatMap_cons, List.map_cons, List.append_assoc, field]
      simp only [List.append_assoc]
      rw [formatStrings_text (plain_textBefore parameter),
        formatStrings_text (plain_opening parameter), formatStrings_value,
        formatStrings_text quote, inductionHypothesis, Slots.render, textOf,
        List.append_assoc]
      rfl

/-- So is the whole template. -/
theorem formatStrings_configPage
    (uplinkConnected : Bool)
    (ram : Parameter → List Byte) :
    formatStrings configPage (pageArguments uplinkConnected ram) =
      ascii pageStart ++ colour uplinkConnected ++
        Slots.render 0x27 textOf
          (fun parameter => cString (argument ram parameter))
          shownEnd shown := by
  have light :
      cString (colour uplinkConnected) = colour uplinkConnected := by
    cases uplinkConnected <;> decide
  have ending :
      formatStrings
          (ascii pageForms ++ (ascii "%%" ++ (ascii pageProgress ++
            (ascii "%%" ++ ascii pageEnd)))) [] =
        shownEnd := by
    have last := formatStrings_text plain_pageEnd [] []
    rw [List.append_nil] at last
    rw [formatStrings_text plain_pageForms, formatStrings_percent,
      formatStrings_text plain_pageProgress, formatStrings_percent, last]
    simp [formatStrings, shownEnd]
  unfold configPage pageArguments
  simp only [List.append_assoc]
  rw [formatStrings_text plain_pageStart, formatStrings_value, light]
  have inputs := formatStrings_inputs shown (argument ram)
    (ascii pageForms ++ (ascii "%%" ++ (ascii pageProgress ++
      (ascii "%%" ++ ascii pageEnd))))
  rw [inputs, ending]

/-! ## The comment of the page -/

/-- HTML ends a comment at `-->`, and at `--!>`. -/
def EndsComment (text : List Byte) : Prop :=
  ascii "-->" <:+: text ∨ ascii "--!>" <:+: text

instance (text : List Byte) : Decidable (EndsComment text) :=
  inferInstanceAs
    (Decidable (ascii "-->" <:+: text ∨ ascii "--!>" <:+: text))

/-- Such an end does not begin in a text without hyphens. -/
theorem endsComment_append
    {front : List Byte}
    (noHyphen : 0x2D ∉ front)
    (back : List Byte) :
    EndsComment (front ++ back) ↔ EndsComment back :=
  or_congr (Code.infix_append_iff_of_not_mem noHyphen _ back)
    (Code.infix_append_iff_of_not_mem noHyphen _ back)

/-- A quote is no part of it. -/
theorem endsComment_append_quote
    (front back : List Byte) :
    EndsComment (front ++ 0x27 :: back) ↔
      EndsComment front ∨ EndsComment back := by
  unfold EndsComment
  rw [Terminated.infix_append_stop_iff (by decide),
    Terminated.infix_append_stop_iff (by decide)]
  exact or_or_or_comm

/-- Escaping does not touch it. -/
theorem endsComment_htmlEscape (src : List Byte) :
    EndsComment (htmlEscape src) ↔ EndsComment (cString src) := by
  have arrow : htmlCode.Untouched (ascii "-->") := by
    have known :
        ∀ value ∈ ascii "-->", value ∉ htmlSpecial ∧
          ∀ special ∈ htmlSpecial, value ∉ entity special := by
      decide +kernel
    exact known
  have bang : htmlCode.Untouched (ascii "--!>") := by
    have known :
        ∀ value ∈ ascii "--!>", value ∉ htmlSpecial ∧
          ∀ special ∈ htmlSpecial, value ∉ entity special := by
      decide +kernel
    exact known
  unfold EndsComment
  rw [htmlEscape_eq, Code.infix_encode_iff arrow, Code.infix_encode_iff bang]

/-- The parameters whose inputs stand in the comment. -/
def commentedParameters : List Parameter :=
  [.entUsername, .entIdentity]

/-- What stands between `<!--` and `-->` of the template in a page. -/
def commentText (ram : Parameter → List Byte) : List Byte :=
  ascii commentStart ++ ascii (opening .entUsername) ++
    cString (argument ram .entUsername) ++ ascii "'" ++
      textOf .entIdentity ++ cString (argument ram .entIdentity) ++
        ascii "'" ++ ascii commentEnd

/-- It is a part of the page. -/
theorem commentText_infix
    (uplinkConnected : Bool)
    (ram : Parameter → List Byte) :
    ascii "<!--" ++ commentText ram ++ ascii "-->" <:+:
      formatStrings configPage (pageArguments uplinkConnected ram) := by
  have quote : ascii "'" = [0x27] := rfl
  rw [formatStrings_configPage]
  apply List.infix_append_of_infix_right
  iterate 4 apply Slots.infix_render_cons
  refine ⟨ascii beforeComment,
    ascii afterComment ++ (ascii (opening .staticIp) ++
      (cString (argument ram .staticIp) ++
        0x27 :: Slots.render 0x27 textOf
          (fun parameter => cString (argument ram parameter)) shownEnd
          [.subnetMask, .gateway])), ?_⟩
  have before :
      textOf .entUsername =
        ascii beforeComment ++ ascii "<!--" ++ ascii commentStart ++
          ascii (opening .entUsername) := by
    rw [textOf, textBefore, ascii_append, ascii_append]
  have after :
      textOf .staticIp =
        ascii commentEnd ++ ascii "-->" ++ ascii afterComment ++
          ascii (opening .staticIp) := by
    rw [textOf, textBefore, ascii_append, ascii_append]
  simp only [Slots.render, before, after, commentText, quote,
    List.append_assoc, List.cons_append, List.nil_append]

/-- Only the values in the comment can end it. -/
theorem endsComment_commentText (ram : Parameter → List Byte) :
    EndsComment (commentText ram) ↔
      EndsComment (cString (argument ram .entUsername)) ∨
        EndsComment (cString (argument ram .entIdentity)) := by
  have start : Lacks commentStart 0x2D := lacks_ofList (by decide +kernel)
  have between : Lacks (textBefore .entIdentity) 0x2D :=
    lacks_ofList (by decide +kernel)
  have ending : Lacks commentEnd 0x2D := lacks_ofList (by decide +kernel)
  have notAtEnd : ¬ EndsComment (ascii commentEnd) := by
    rw [← List.append_nil (ascii commentEnd), endsComment_append ending]
    decide
  have quote : ascii "'" = [0x27] := rfl
  simp only [commentText, textOf, quote, List.append_assoc,
    List.cons_append, List.nil_append]
  rw [endsComment_append start,
    endsComment_append (opening_lacks_hyphen .entUsername),
    endsComment_append_quote, endsComment_append between,
    endsComment_append (opening_lacks_hyphen .entIdentity),
    endsComment_append_quote, or_iff_left notAtEnd]

/-- The comment ends where the template ends it, unless a value in it does. -/
theorem commentEnds_iff (ram : Parameter → List Byte) :
    ¬ EndsComment (commentText ram) ↔
      ∀ parameter ∈ commentedParameters,
        ¬ EndsComment (cString (ram parameter)) := by
  have username : Parameter.entUsername ∉ unescapedParameters := by decide
  have identity : Parameter.entIdentity ∉ unescapedParameters := by decide
  rw [endsComment_commentText, argument_escaped username,
    argument_escaped identity, endsComment_htmlEscape,
    endsComment_htmlEscape]
  simp [commentedParameters]

/-! ## Reading the page back -/

/-- A value that may stand between quotes as it is. -/
def AttributeSafe (value : List Byte) : Prop :=
  0x27 ∉ value ∧ ¬ htmlCode.HasEscape value

instance (value : List Byte) : Decidable (AttributeSafe value) :=
  decidable_of_iff (0x27 ∉ value ∧ htmlCode.decode value = value)
    (and_congr_right fun _ => Code.decode_eq_self_iff (by decide) value)

/-- There is no quote in an escaped string. -/
theorem quote_not_mem_htmlEscape (src : List Byte) :
    0x27 ∉ htmlEscape src := by
  intro member
  exact absurd (special_of_mem_htmlEscape member (by decide)) (by decide)

/-- An input shows its parameter if the value is escaped, or safe. -/
theorem shows_iff (parameter : Parameter) :
    0x27 ∉ cString (argument ram parameter) ∧
        unescape (cString (argument ram parameter)) =
          cString (ram parameter) ↔
      (parameter ∈ unescapedParameters →
        AttributeSafe (cString (ram parameter))) := by
  by_cases unescaped : parameter ∈ unescapedParameters
  · rw [argument_unescaped unescaped, imp_iff_right unescaped]
    exact and_congr_right fun _ => Code.decode_eq_self_iff (by decide) _
  · rw [argument_escaped unescaped]
    refine iff_of_true ⟨quote_not_mem_htmlEscape _, ?_⟩
      fun isUnescaped => absurd isUnescaped unescaped
    exact unescape_htmlEscape _

/-- A value that is cut off at a quote is not read back as a whole. -/
theorem free_of_read_back
    (parameter : Parameter)
    (readBack :
      unescape
          (Terminated.text 0x27 (cString (argument ram parameter))) =
        cString (ram parameter)) :
    0x27 ∉ cString (argument ram parameter) := by
  by_cases unescaped : parameter ∈ unescapedParameters
  · rw [argument_unescaped unescaped] at readBack ⊢
    intro member
    have cut := Terminated.length_text_lt member
    have decoded :=
      htmlCode.length_decodeFrom_le 0
        (Terminated.text 0x27 (cString (ram parameter)))
    have lengths := congrArg List.length readBack
    unfold unescape Code.decode at lengths
    omega
  · rw [argument_escaped unescaped]
    exact quote_not_mem_htmlEscape _

/-- The inputs of a page are read behind its start. -/
theorem readPage_append
    (uplinkConnected : Bool)
    (rest : List Byte) :
    readPage uplinkConnected
        (ascii pageStart ++ colour uplinkConnected ++ rest) =
      Slots.read 0x27 textOf shownEnd shown rest := by
  unfold readPage
  dsimp only
  rw [if_pos (by simp), List.drop_left]

/--
The page can be read back if and only if the values that are not escaped are
safe.
-/
theorem readBack_iff
    (uplinkConnected : Bool)
    (ram : Parameter → List Byte) :
    (readPage uplinkConnected
          (formatStrings configPage
            (pageArguments uplinkConnected ram))).map
        (List.map unescape) =
        some (shown.map fun parameter => cString (ram parameter)) ↔
      ∀ parameter ∈ unescapedParameters,
        AttributeSafe (cString (ram parameter)) := by
  have allShown : ∀ parameter ∈ unescapedParameters, parameter ∈ shown := by
    decide
  rw [formatStrings_configPage, readPage_append,
    Slots.read_back_iff fun parameter _ => free_of_read_back parameter]
  constructor
  · intro shows parameter unescaped
    exact (shows_iff parameter).mp
      (shows parameter (allShown parameter unescaped)) unescaped
  · intro safe parameter _
    exact (shows_iff parameter).mpr (safe parameter)

/--
The page is the whole template, in which every input shows its parameter and
the comment ends where the template ends it.
-/
structure Intact
    (uplinkConnected : Bool)
    (ram : Parameter → List Byte) : Prop where
  complete :
    fillPage configPage uplinkConnected ram =
      formatStrings configPage (pageArguments uplinkConnected ram)
  readBack :
    (readPage uplinkConnected
          (fillPage configPage uplinkConnected ram)).map
        (List.map unescape) =
      some (shown.map fun parameter => cString (ram parameter))
  comment :
    ascii "<!--" ++ commentText ram ++ ascii "-->" <:+:
      fillPage configPage uplinkConnected ram
  commentEnds : ¬ EndsComment (commentText ram)

/--
For values that fit into their variables the page is intact if and only if the
three that are not escaped have no quote and no entity in them, and the two in
the comment do not end it.
-/
theorem page_intact_iff
    (short :
      ∀ parameter ∈ shown, (cString (ram parameter)).length < paramLen)
    (uplinkConnected : Bool) :
    Intact uplinkConnected ram ↔
      (∀ parameter ∈ unescapedParameters,
        AttributeSafe (cString (ram parameter))) ∧
        ∀ parameter ∈ commentedParameters,
          ¬ EndsComment (cString (ram parameter)) := by
  have complete := fillPage_complete short configPage uplinkConnected
  rw [← readBack_iff uplinkConnected ram, ← commentEnds_iff]
  constructor
  · intro intact
    rw [← complete]
    exact ⟨intact.readBack, intact.commentEnds⟩
  · rintro ⟨readBack, commentEnds⟩
    refine ⟨complete, ?_, ?_, commentEnds⟩
    · rw [complete]
      exact readBack
    · rw [complete]
      exact commentText_infix uplinkConnected ram

/-- A router with special characters in an SSID. -/
def quotedSsid : Parameter → List Byte
  | .staSsid => ascii "Joe's \"R&D\"; #1"
  | .staticIp => ascii "10.0.0.2"
  | _ => []

/-- Its page is intact. -/
theorem page_intact_quoted : Intact true quotedSsid :=
  (page_intact_iff (by decide) true).mpr (by decide)

/-- A static address that ends its attribute and begins another. -/
def injected : Parameter → List Byte
  | .staticIp => ascii "' onfocus='alert(1)"
  | _ => []

/-- The page does not show it. -/
theorem not_page_intact_injected :
    (∀ parameter ∈ shown,
        (cString (injected parameter)).length < paramLen) ∧
      ¬ Intact true injected := by
  refine ⟨by decide, ?_⟩
  rintro ⟨complete, readBack, -, -⟩
  rw [complete, readBack_iff] at readBack
  exact absurd (readBack .staticIp (by decide)) (by decide)

end Page

end SimpleTlsBroker
