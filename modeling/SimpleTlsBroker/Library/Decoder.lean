import Mathlib.Tactic.Common

namespace Decoder

/-!
# Incremental decoders

A decoder takes one input at a time and now and then puts out a result.  Its
behaviour on a list of inputs composes along concatenation, which reduces a
stream of frames to its single frames.
-/

variable {State Input Output Frame : Type}

/-- Feed a list of inputs to a decoder and collect its results. -/
def feed
    (step : State → Input → State × Option Output) :
    State → List Input → State × List Output
  | state, [] => (state, [])
  | state, input :: rest =>
      let (state, output) := step state input
      let (final, outputs) := feed step state rest
      (final, output.toList ++ outputs)

@[simp] theorem feed_nil
    (step : State → Input → State × Option Output)
    (state : State) :
    feed step state [] = (state, []) := rfl

theorem feed_cons
    (step : State → Input → State × Option Output)
    (state : State)
    (input : Input)
    (rest : List Input) :
    feed step state (input :: rest) =
      ((feed step (step state input).1 rest).1,
        (step state input).2.toList ++
          (feed step (step state input).1 rest).2) := rfl

/-- Feeding one input. -/
@[simp] theorem feed_singleton
    (step : State → Input → State × Option Output)
    (state : State)
    (input : Input) :
    feed step state [input] =
      ((step state input).1, (step state input).2.toList) := by
  simp [feed_cons]

/-- Feeding a concatenation feeds its parts one after the other. -/
theorem feed_append
    (step : State → Input → State × Option Output)
    (state : State)
    (first second : List Input) :
    feed step state (first ++ second) =
      ((feed step (feed step state first).1 second).1,
        (feed step state first).2 ++
          (feed step (feed step state first).1 second).2) := by
  induction first generalizing state with
  | nil =>
      simp
  | cons input rest inductionHypothesis =>
      simp [feed_cons, inductionHypothesis]

/--
If every frame, fed in a state of rest, gives its one result and leads back to
rest, then a concatenation of frames gives their results in order.
-/
theorem feed_frames
    {step : State → Input → State × Option Output}
    {AtRest : State → Prop}
    {inputs : Frame → List Input}
    {result : Frame → Output}
    (frames : List Frame)
    (decodes :
      ∀ frame ∈ frames, ∀ state, AtRest state →
        AtRest (feed step state (inputs frame)).1 ∧
          (feed step state (inputs frame)).2 = [result frame])
    {state : State}
    (atRest : AtRest state) :
    AtRest (feed step state (frames.flatMap inputs)).1 ∧
      (feed step state (frames.flatMap inputs)).2 = frames.map result := by
  induction frames generalizing state with
  | nil =>
      exact ⟨atRest, rfl⟩
  | cons frame rest inductionHypothesis =>
      obtain ⟨restAfter, one⟩ := decodes frame (by simp) state atRest
      obtain ⟨restFinal, later⟩ :=
        inductionHypothesis
          (fun other member => decodes other (by simp [member]))
          restAfter
      simp only [List.flatMap_cons, feed_append]
      exact ⟨restFinal, by simp [one, later]⟩

end Decoder
