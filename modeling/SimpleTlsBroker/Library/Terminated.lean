import Mathlib.Data.List.TakeWhile

namespace Terminated

/-!
# Texts that end with a terminator

A buffer is a list of values; its text is what stands before the first
terminator.  `copy` and `overwrite` are the two ways in which a text gets into
a buffer: up to a count and filled with terminators, or as many values as
there are.
-/

variable {Value : Type}
variable {stop : Value}
variable {source target : List Value}
variable {count : Nat}

/-- Values over the beginning of a buffer. -/
def overwrite (target values : List Value) : List Value :=
  values ++ target.drop values.length

/-- A terminator stands within the first values. -/
def Within
    (stop : Value)
    (count : Nat)
    (buffer : List Value) : Prop :=
  stop ∈ buffer.take count

/-- A text and its terminator, written to a buffer, end within their length. -/
theorem within_overwrite
    (short : source.length < count)
    (target : List Value) :
    Within stop count (overwrite target (source ++ [stop])) := by
  have fits : (source ++ [stop]).length ≤ count := by
    rw [List.length_append]
    exact short
  unfold Within overwrite
  rw [List.take_append, List.mem_append, List.take_of_length_le fits]
  left
  simp

/-- A pattern without terminators stands on one side of a terminator. -/
theorem infix_append_stop_iff
    {pattern : List Value}
    (free : stop ∉ pattern)
    (front back : List Value) :
    pattern <:+: front ++ stop :: back ↔
      pattern <:+: front ∨ pattern <:+: back := by
  constructor
  · intro inWhole
    rcases List.infix_append_iff.mp inWhole with inFront | inBack | across
    · exact .inl inFront
    · rcases List.infix_cons_iff.mp inBack with atStop | inBack
      · cases pattern with
        | nil => exact .inl List.nil_infix
        | cons first rest =>
            have isStop := (List.cons_prefix_cons.mp atStop).1
            exact absurd (isStop ▸ List.mem_cons_self) free
      · exact .inr inBack
    · obtain ⟨before, behind, isPattern, inFront, atStop⟩ := across
      cases behind with
      | nil =>
          rw [isPattern, List.append_nil]
          exact .inl inFront.isInfix
      | cons first rest =>
          have isStop := (List.cons_prefix_cons.mp atStop).1
          rw [isPattern, isStop] at free
          exact absurd
            (List.mem_append_right before List.mem_cons_self) free
  · rintro (inFront | inBack)
    · exact List.infix_append_of_infix_left inFront
    · exact List.infix_append_of_infix_right (List.infix_cons inBack)

variable [DecidableEq Value]

instance (stop : Value) (count : Nat) (buffer : List Value) :
    Decidable (Within stop count buffer) :=
  inferInstanceAs (Decidable (stop ∈ buffer.take count))

/-- The values before the first terminator. -/
def text (stop : Value) (buffer : List Value) : List Value :=
  buffer.takeWhile fun value => value ≠ stop

/-- A text has no terminator in it. -/
theorem not_mem_text (stop : Value) (buffer : List Value) :
    stop ∉ text stop buffer := by
  intro member
  have other := List.mem_takeWhile_imp member
  simp at other

/-- The text of a text. -/
theorem text_text (stop : Value) (buffer : List Value) :
    text stop (text stop buffer) = text stop buffer :=
  List.takeWhile_idem

/-- Values without terminator are their own text. -/
theorem text_of_not_mem
    {buffer : List Value}
    (free : stop ∉ buffer) :
    text stop buffer = buffer := by
  apply List.takeWhile_eq_self_iff.mpr
  intro value member
  have other : value ≠ stop := by
    rintro rfl
    exact free member
  simpa using other

/-- Values without terminator, and one behind them. -/
theorem text_append
    (free : stop ∉ source)
    (rest : List Value) :
    text stop (source ++ stop :: rest) = source := by
  unfold text
  rw [List.takeWhile_append_of_pos]
  · simp
  · exact List.takeWhile_eq_self_iff.mp (text_of_not_mem free)

/-- The text of values with one in front. -/
theorem text_cons
    (stop value : Value)
    (rest : List Value) :
    text stop (value :: rest) =
      if value = stop then [] else value :: text stop rest := by
  unfold text
  by_cases isStop : value = stop
  · simp [isStop]
  · simp [isStop]

/-- The text of values with a terminator behind them. -/
theorem text_append_stop
    (stop : Value)
    (values rest : List Value) :
    text stop (values ++ stop :: rest) = text stop values := by
  induction values with
  | nil => simp [text]
  | cons value values inductionHypothesis =>
      rw [List.cons_append, text_cons, text_cons, inductionHypothesis]

/-- A terminator stands behind that text. -/
theorem exists_append_stop
    (stop : Value)
    (values rest : List Value) :
    ∃ behind,
      values ++ stop :: rest = text stop values ++ stop :: behind := by
  induction values with
  | nil => exact ⟨rest, rfl⟩
  | cons value values inductionHypothesis =>
      rw [text_cons]
      by_cases isStop : value = stop
      · exact ⟨values ++ stop :: rest, by simp [isStop]⟩
      · obtain ⟨behind, shape⟩ := inductionHypothesis
        exact ⟨behind, by simp [isStop, shape]⟩

/-- It is what is left when the text is dropped. -/
theorem drop_text_append_stop
    (stop : Value)
    (values rest : List Value) :
    ∃ behind,
      (values ++ stop :: rest).drop (text stop values).length =
        stop :: behind := by
  obtain ⟨behind, shape⟩ := exists_append_stop stop values rest
  exact ⟨behind, by rw [shape, List.drop_left]⟩

/-- The text of values with a terminator in them is shorter. -/
theorem length_text_lt
    {values : List Value}
    (member : stop ∈ values) :
    (text stop values).length < values.length := by
  obtain ⟨front, back, rfl⟩ := List.append_of_mem member
  rw [text_append_stop, List.length_append, List.length_cons]
  have atMost : (text stop front).length ≤ front.length :=
    (List.takeWhile_sublist _).length_le
  omega

/-- A text that was written with its terminator. -/
theorem text_overwrite
    (free : stop ∉ source)
    (target : List Value) :
    text stop (overwrite target (source ++ [stop])) = source := by
  unfold overwrite
  rw [List.append_assoc, List.singleton_append]
  exact text_append free _

/-- The first values of a text, filled up with terminators to a count. -/
def copy
    (stop : Value)
    (target source : List Value)
    (count : Nat) : List Value :=
  (text stop source).take count ++
    (List.replicate (count - (text stop source).length) stop ++
      target.drop count)

/-- A text that is shorter than the count arrives whole. -/
theorem text_copy
    (short : (text stop source).length < count)
    (target : List Value) :
    text stop (copy stop target source count) = text stop source := by
  obtain ⟨fill, isFill⟩ :=
    Nat.exists_eq_succ_of_ne_zero
      (Nat.ne_of_gt (Nat.sub_pos_of_lt short))
  unfold copy
  rw [List.take_of_length_le (Nat.le_of_lt short), isFill,
    List.replicate_succ, List.cons_append]
  exact text_append (not_mem_text stop source) _

/-- Such a copy ends within the count. -/
theorem within_copy
    (short : (text stop source).length < count)
    (target : List Value) :
    Within stop count (copy stop target source count) := by
  have filled : 0 < count - (text stop source).length :=
    Nat.sub_pos_of_lt short
  unfold Within copy
  rw [List.take_of_length_le (Nat.le_of_lt short), List.take_append,
    List.mem_append, List.take_append, List.mem_append]
  right
  left
  rw [List.take_replicate, List.mem_replicate]
  exact ⟨by omega, rfl⟩

end Terminated
