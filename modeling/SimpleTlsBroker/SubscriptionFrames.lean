import SimpleTlsBroker.Frames

namespace SimpleTlsBroker

/-!
# SUBSCRIBE and UNSUBSCRIBE frames

Both carry a packet identifier and any number of filters; only SUBSCRIBE has a
QoS behind each filter.  The topic loop walks through such a frame filter by
filter and stops exactly at its end.
-/

open Memory

/-- The contents of a SUBSCRIBE or UNSUBSCRIBE frame. -/
structure FilterList where
  identifier : Byte × Byte
  filters : List (List Byte × Byte)
  short : ∀ filter ∈ filters, filter.1.length ≤ 255

namespace FilterList

/-- One filter; the QoS is sent with SUBSCRIBE only. -/
def item
    (subscribe : Bool)
    (filter : List Byte × Byte) : List Byte :=
  stringField filter.1 ++ if subscribe then [filter.2] else []

/-- The frame, with a given encoding of its length. -/
def packet
    (frame : FilterList)
    (subscribe : Bool)
    (lengthBytes : List Byte) : Packet where
  first :=
    (if subscribe then
      MqttType.subscribe.code
    else
      MqttType.unSubscribe.code) ||| 0x02
  lengthBytes := lengthBytes
  body :=
    frame.identifier.1 :: frame.identifier.2 ::
      frame.filters.flatMap (item subscribe)

/-- What the topic loop makes of a filter. -/
def parsed
    (subscribe : Bool)
    (filter : List Byte × Byte) : List Byte × Byte :=
  (filter.1, if subscribe then filter.2 else 0)

/-- Every filter takes some bytes. -/
theorem length_item_pos
    (subscribe : Bool)
    (filter : List Byte × Byte) :
    0 < (item subscribe filter).length := by
  rw [item, List.length_append, length_stringField]
  omega

/-- Every filter takes at least two bytes of a frame. -/
theorem length_le_items
    (subscribe : Bool)
    (filters : List (List Byte × Byte)) :
    2 * filters.length ≤ (filters.flatMap (item subscribe)).length := by
  induction filters with
  | nil => exact Nat.le_refl 0
  | cons filter rest inductionHypothesis =>
      have two : 2 ≤ (item subscribe filter).length := by
        rw [item, List.length_append, length_stringField]
        omega
      rw [List.flatMap_cons, List.length_append, List.length_cons]
      omega

end FilterList

namespace MqttClient

open FilterList

variable {memory : Nat → Byte}
variable {subscribe : Bool}

/-- One round of the topic loop: the filter is cut, and the cursor is not. -/
theorem run_parseFilters_cut
    {filter : List Byte × Byte}
    {payload endOffset : Nat}
    (holds : Holds memory payload (item subscribe filter))
    (fits : filter.1.length < 65536)
    (more : payload < endOffset)
    (fuel : Nat) :
    (parseFilters subscribe endOffset (fuel + 1) payload).run memory =
      let later :=
        (parseFilters subscribe endOffset fuel
          (payload + (item subscribe filter).length)).run memory
      (parsed subscribe (Topic.cut filter.1, filter.2) :: later.1,
        later.2) := by
  obtain ⟨name, qos⟩ := filter
  rw [item, holds_append, length_stringField] at holds
  obtain ⟨field, behind⟩ := holds
  have length := Parse.run_getString field fits
  have isName := Parse.run_readSlice_cut (Parse.holds_text field)
  have next : payload + (name.length + 2) = payload + 2 + name.length := by
    omega
  rw [next] at behind
  cases subscribe with
  | true =>
      have isQos : memory (payload + 2 + name.length) = qos := behind.1
      have cursor :
          payload + (item true (name, qos)).length =
            payload + 2 + name.length + 1 := by
        simp only [item, List.length_append, length_stringField, if_true,
          List.length_singleton]
        omega
      rw [cursor]
      simp only [parseFilters, if_pos more, if_true, Parse.run_bind,
        Parse.run_pure, length, isName, Parse.run_readByte, isQos, parsed]
  | false =>
      have cursor :
          payload + (item false (name, qos)).length =
            payload + 2 + name.length := by
        simp only [item, List.length_append, length_stringField,
          Bool.false_eq_true, if_false, List.length_nil]
        omega
      rw [cursor]
      simp only [parseFilters, if_pos more, Bool.false_eq_true, if_false,
        Parse.run_bind, Parse.run_pure, length, isName, parsed]

/-- One round of the topic loop, for a filter that is taken whole. -/
theorem run_parseFilters_item
    {filter : List Byte × Byte}
    {payload endOffset : Nat}
    (holds : Holds memory payload (item subscribe filter))
    (short : filter.1.length ≤ 255)
    (more : payload < endOffset)
    (fuel : Nat) :
    (parseFilters subscribe endOffset (fuel + 1) payload).run memory =
      let later :=
        (parseFilters subscribe endOffset fuel
          (payload + (item subscribe filter).length)).run memory
      (parsed subscribe filter :: later.1, later.2) := by
  have round := run_parseFilters_cut holds (by omega) more fuel
  rwa [Topic.cut_eq_self short] at round

/-- The topic loop finds all filters, and its cursor stops at the end. -/
theorem run_parseFilters
    {filters : List (List Byte × Byte)}
    {payload : Nat}
    (holds : Holds memory payload (filters.flatMap (item subscribe)))
    (short : ∀ filter ∈ filters, filter.1.length ≤ 255)
    {fuel : Nat}
    (enough : filters.length ≤ fuel) :
    (parseFilters subscribe
        (payload + (filters.flatMap (item subscribe)).length) fuel
        payload).run memory =
      (filters.map (parsed subscribe),
        payload + (filters.flatMap (item subscribe)).length) := by
  induction filters generalizing payload fuel with
  | nil =>
      cases fuel with
      | zero => rfl
      | succ fuel => simp [parseFilters]
  | cons filter rest inductionHypothesis =>
      cases fuel with
      | zero => exact absurd enough (Nat.not_succ_le_zero rest.length)
      | succ fuel =>
          rw [List.flatMap_cons, holds_append] at holds
          have positive := length_item_pos subscribe filter
          have cursor :
              payload + (item subscribe filter).length +
                  (rest.flatMap (item subscribe)).length =
                payload +
                  ((filter :: rest).flatMap (item subscribe)).length := by
            rw [List.flatMap_cons, List.length_append, Nat.add_assoc]
          have later :=
            inductionHypothesis holds.2
              (fun other member =>
                short other (List.mem_cons_of_mem filter member))
              (Nat.le_of_succ_le_succ enough)
          rw [cursor] at later
          rw [run_parseFilters_item holds.1 (short filter List.mem_cons_self)
            (by rw [← cursor]; omega) fuel, later, List.map_cons]

end MqttClient

end SimpleTlsBroker
