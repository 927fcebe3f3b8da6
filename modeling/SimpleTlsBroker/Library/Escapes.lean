import Mathlib.Tactic.Common

namespace Escapes

/-!
# Escapes

A text is escaped value by value: special values are replaced by escapes of
one width, all others stand for themselves.  If an escape is recognised by what
stands at the front of a text, and nothing that stands for itself is taken for
one, then decoding gives the text back.
-/

variable {Value : Type}

/-- Special values, their escapes, and how an escape is recognised. -/
structure Code (Value : Type) where
  Special : Value → Prop
  isSpecial : DecidablePred Special
  /-- The length of an escape behind its first value. -/
  width : Nat
  escape : Value → List Value
  /-- The value of an escape at the front of a text. -/
  recognize? : List Value → Option Value
  length_escape :
    ∀ value, Special value → (escape value).length = width + 1
  recognize_escape :
    ∀ value rest, Special value →
      recognize? (escape value ++ rest) = some value
  recognize_plain :
    ∀ value rest, ¬ Special value → recognize? (value :: rest) = none
  length_of_recognized :
    ∀ text value, recognize? text = some value → width < text.length

namespace Code

variable (code : Code Value)

instance : DecidablePred code.Special := code.isSpecial

/-- What stands for a value. -/
def replace (value : Value) : List Value :=
  if code.Special value then code.escape value else [value]

/-- A text with its special values replaced. -/
def encode (text : List Value) : List Value :=
  text.flatMap code.replace

/-- Decode what is behind some values that belong to an escape. -/
def decodeFrom : Nat → List Value → List Value
  | _, [] => []
  | skip + 1, _ :: rest => decodeFrom skip rest
  | 0, value :: rest =>
      match code.recognize? (value :: rest) with
      | some escaped => escaped :: decodeFrom code.width rest
      | none => value :: decodeFrom 0 rest

/-- Replace every escape by its value, from the front of a text on. -/
def decode (text : List Value) : List Value :=
  code.decodeFrom 0 text

/-- There is an escape in a text. -/
def HasEscape (text : List Value) : Prop :=
  ∃ before after value,
    text = before ++ after ∧ code.recognize? after = some value

variable {code : Code Value}

@[simp] theorem encode_nil : code.encode [] = [] := rfl

@[simp] theorem encode_cons
    (value : Value)
    (rest : List Value) :
    code.encode (value :: rest) = code.replace value ++ code.encode rest :=
  List.flatMap_cons

@[simp] theorem encode_append (first second : List Value) :
    code.encode (first ++ second) = code.encode first ++ code.encode second :=
  List.flatMap_append

/-- A value of an encoded text belongs to what stands for a value. -/
theorem mem_encode
    {value : Value}
    {text : List Value} :
    value ∈ code.encode text ↔
      ∃ escaped ∈ text, value ∈ code.replace escaped :=
  List.mem_flatMap

/-- Nothing is decoded before the end of an escape. -/
theorem decodeFrom_eq
    (skip : Nat)
    (text : List Value) :
    code.decodeFrom skip text = code.decode (text.drop skip) := by
  induction skip generalizing text with
  | zero => rfl
  | succ skip inductionHypothesis =>
      cases text with
      | nil => rfl
      | cons value rest => exact inductionHypothesis rest

/-- Decoding what stands for a value. -/
theorem decode_replace_append
    (value : Value)
    (rest : List Value) :
    code.decode (code.replace value ++ rest) = value :: code.decode rest := by
  unfold replace
  by_cases special : code.Special value
  · rw [if_pos special]
    have recognized := code.recognize_escape value rest special
    have length := code.length_escape value special
    cases shape : code.escape value with
    | nil =>
        rw [shape] at length
        exact absurd length (Nat.succ_ne_zero _).symm
    | cons first behind =>
        rw [shape, List.cons_append] at recognized
        rw [shape, List.length_cons] at length
        have isWidth : behind.length = code.width := Nat.succ.inj length
        have taken :
            code.decode (first :: (behind ++ rest)) =
              value :: code.decodeFrom code.width (behind ++ rest) := by
          simp [decode, decodeFrom, recognized]
        rw [List.cons_append, taken, decodeFrom_eq, ← isWidth,
          List.drop_left]
  · rw [if_neg special]
    have plain := code.recognize_plain value rest special
    simp [decode, decodeFrom, plain]

/-- Decoding a text that was encoded. -/
@[simp] theorem decode_encode (text : List Value) :
    code.decode (code.encode text) = text := by
  induction text with
  | nil => rfl
  | cons value rest inductionHypothesis =>
      rw [encode_cons, decode_replace_append, inductionHypothesis]

/-- Different texts are encoded differently. -/
theorem encode_injective : Function.Injective code.encode :=
  Function.LeftInverse.injective decode_encode

/-- Every index of an encoded text belongs to what stands for one value. -/
theorem exists_replaced
    {text : List Value}
    {index : Nat}
    (inText : index < (code.encode text).length) :
    ∃ before value after,
      text = before ++ value :: after ∧
        (code.encode before).length ≤ index ∧
          index <
            (code.encode before).length + (code.replace value).length := by
  induction text generalizing index with
  | nil => exact absurd inText (Nat.not_lt_zero index)
  | cons first rest inductionHypothesis =>
      rw [encode_cons, List.length_append] at inText
      by_cases inFirst : index < (code.replace first).length
      · exact ⟨[], first, rest, rfl, Nat.zero_le _, by simpa⟩
      · have inRest :
            index - (code.replace first).length <
              (code.encode rest).length := by
          omega
        obtain ⟨before, value, after, isRest, atLeast, atMost⟩ :=
          inductionHypothesis inRest
        refine ⟨first :: before, value, after, by rw [isRest]; rfl, ?_, ?_⟩
        · rw [encode_cons, List.length_append]
          omega
        · rw [encode_cons, List.length_append]
          omega

/-- What stands for a value, in its place. -/
theorem take_drop_encode
    (before : List Value)
    (value : Value)
    (after : List Value) :
    ((code.encode (before ++ value :: after)).drop
        (code.encode before).length).take (code.replace value).length =
      code.replace value := by
  rw [encode_append, encode_cons, List.drop_left, List.take_left]

/-! ## Patterns -/

/-- A pattern of values that escaping leaves alone. -/
def Untouched (code : Code Value) (pattern : List Value) : Prop :=
  ∀ value ∈ pattern,
    ¬ code.Special value ∧
      ∀ special, code.Special special → value ∉ code.escape special

/-- A pattern does not begin in a text without its first value. -/
theorem infix_append_iff_of_not_mem
    {first : Value}
    {front : List Value}
    (absent : first ∉ front)
    (pattern back : List Value) :
    first :: pattern <:+: front ++ back ↔ first :: pattern <:+: back := by
  constructor
  · intro inWhole
    induction front with
    | nil => exact inWhole
    | cons value front inductionHypothesis =>
        rw [List.cons_append] at inWhole
        rcases List.infix_cons_iff.mp inWhole with atFront | behind
        · have same := (List.cons_prefix_cons.mp atFront).1
          exact absurd (same ▸ List.mem_cons_self) absent
        · exact inductionHypothesis
            (List.not_mem_of_not_mem_cons absent) behind
  · exact List.infix_append_of_infix_right

/-- An encoded text begins with the same untouched patterns. -/
theorem prefix_encode_iff
    {pattern : List Value}
    (untouched : code.Untouched pattern)
    (text : List Value) :
    pattern <+: code.encode text ↔ pattern <+: text := by
  induction pattern generalizing text with
  | nil => simp
  | cons first pattern inductionHypothesis =>
      have atFirst := untouched first List.mem_cons_self
      have later : code.Untouched pattern := fun value member =>
        untouched value (List.mem_cons_of_mem first member)
      cases text with
      | nil => rfl
      | cons value rest =>
          rw [encode_cons, List.cons_prefix_cons]
          unfold replace
          by_cases special : code.Special value
          · have other : first ≠ value := by
              rintro rfl
              exact atFirst.1 special
            have length := code.length_escape value special
            rw [if_pos special]
            cases shape : code.escape value with
            | nil =>
                rw [shape] at length
                exact absurd length (Nat.succ_ne_zero _).symm
            | cons front behind =>
                have differs : first ≠ front := by
                  rintro rfl
                  exact atFirst.2 value special (shape ▸ List.mem_cons_self)
                simp [other, differs]
          · rw [if_neg special, List.singleton_append,
              List.cons_prefix_cons, inductionHypothesis later]

/-- Such a pattern is in an encoded text if it was there before. -/
theorem infix_encode_iff
    {pattern : List Value}
    (untouched : code.Untouched pattern)
    (text : List Value) :
    pattern <:+: code.encode text ↔ pattern <:+: text := by
  cases pattern with
  | nil => simp
  | cons first pattern =>
      induction text with
      | nil => rfl
      | cons value rest inductionHypothesis =>
          by_cases special : code.Special value
          · have isEscape : code.replace value = code.escape value :=
              if_pos special
            have notAtFront : ¬ first :: pattern <+: value :: rest := by
              intro atFront
              have same := (List.cons_prefix_cons.mp atFront).1
              exact (untouched first List.mem_cons_self).1 (same ▸ special)
            have absent : first ∉ code.escape value :=
              (untouched first List.mem_cons_self).2 value special
            rw [encode_cons, isEscape, infix_append_iff_of_not_mem absent,
              inductionHypothesis, List.infix_cons_iff,
              or_iff_right notAtFront]
          · have isPlain : code.replace value = [value] := if_neg special
            have atFront := prefix_encode_iff untouched (value :: rest)
            rw [encode_cons, isPlain, List.singleton_append] at atFront ⊢
            rw [List.infix_cons_iff, atFront, inductionHypothesis,
              List.infix_cons_iff]

/-! ## Texts that are not encoded -/

/-- Decoding makes no text longer. -/
theorem length_decodeFrom_le
    (skip : Nat)
    (text : List Value) :
    (code.decodeFrom skip text).length ≤ text.length - skip := by
  induction text generalizing skip with
  | nil => simp [decodeFrom]
  | cons value rest inductionHypothesis =>
      cases skip with
      | succ skip =>
          have later := inductionHypothesis skip
          simpa [decodeFrom] using later
      | zero =>
          have escaped := inductionHypothesis code.width
          have plain := inductionHypothesis 0
          unfold decodeFrom
          split
          · simp only [List.length_cons]
            omega
          · simp only [List.length_cons]
            omega

/-- A text that begins with an escape becomes shorter. -/
theorem length_decode_lt
    {text : List Value}
    {value : Value}
    (width : 0 < code.width)
    (recognized : code.recognize? text = some value) :
    (code.decode text).length < text.length := by
  have long := code.length_of_recognized text value recognized
  cases text with
  | nil => exact absurd long (Nat.not_lt_zero _)
  | cons first rest =>
      have later := code.length_decodeFrom_le code.width rest
      simp only [decode, decodeFrom, recognized, List.length_cons] at long ⊢
      omega

/-- A text is its own decoding exactly if there is no escape in it. -/
theorem decode_eq_self_iff
    (width : 0 < code.width)
    (text : List Value) :
    code.decode text = text ↔ ¬ code.HasEscape text := by
  induction text with
  | nil =>
      refine iff_of_true rfl ?_
      rintro ⟨before, after, value, isEmpty, recognized⟩
      obtain ⟨rfl, rfl⟩ := List.append_eq_nil_iff.mp isEmpty.symm
      exact Nat.not_lt_zero _ (code.length_of_recognized _ _ recognized)
  | cons first rest inductionHypothesis =>
      cases recognized : code.recognize? (first :: rest) with
      | some value =>
          refine iff_of_false ?_ ?_
          · intro same
            have shorter := length_decode_lt width recognized
            rw [same] at shorter
            exact Nat.lt_irrefl _ shorter
          · exact fun none => none ⟨[], _, value, rfl, recognized⟩
      | none =>
          have taken : code.decode (first :: rest) = first :: code.decode rest := by
            simp [decode, decodeFrom, recognized]
          rw [taken, List.cons.injEq, and_iff_right rfl,
            inductionHypothesis, not_iff_not]
          constructor
          · rintro ⟨before, after, value, isRest, isEscape⟩
            exact ⟨first :: before, after, value, by rw [isRest]; rfl,
              isEscape⟩
          · rintro ⟨before, after, value, isText, isEscape⟩
            cases before with
            | nil =>
                rw [List.nil_append] at isText
                rw [← isText, recognized] at isEscape
                exact nomatch isEscape
            | cons _ before =>
                rw [List.cons_append, List.cons.injEq] at isText
                exact ⟨before, after, value, isText.2, isEscape⟩

end Code

end Escapes
