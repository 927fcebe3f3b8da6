import Mathlib.Data.Set.Insert
import Mathlib.Logic.Function.Basic

namespace PubSub

/-!
# Publish and subscribe

What a broker is for, without its data structures: members come and go, each is
subscribed to a set of names, and a message published under a name is delivered
to the members subscribed to it, in the order in which they came.  What reaches
a member of a message is its own affair, and may be nothing.
-/

variable {Client Name Message Content : Type}

/-- Who is there, what each is subscribed to, and what reaches it. -/
structure State (Client Name Message Content : Type) where
  members : List Client
  subscribed : Client → Set Name
  reach : Client → Name → Message → Option Content

/-- What a broker is asked for. -/
inductive Request (Client Name Message Content : Type) where
  | join (client : Client) (reach : Name → Message → Option Content)
  | attend (client : Client) (reach : Name → Message → Option Content)
  | leave (client : Client)
  | subscribe (client : Client) (names : Set Name)
  | unsubscribe (client : Client) (names : Set Name)
  | publish (name : Name) (message : Message)
  | idle

/-- The contents among some deliveries that are for one client. -/
def received
    [DecidableEq Client]
    (client : Client)
    (deliveries : List (Client × Content)) : List Content :=
  deliveries.filterMap fun delivery =>
    if delivery.1 = client then some delivery.2 else none

/-- Deliveries after others. -/
theorem received_append
    [DecidableEq Client]
    (client : Client)
    (earlier later : List (Client × Content)) :
    received client (earlier ++ later) =
      received client earlier ++ received client later :=
  List.filterMap_append

namespace State

/-- A client is there and subscribed to a name. -/
def Serves
    (state : State Client Name Message Content)
    (client : Client)
    (name : Name) : Prop :=
  client ∈ state.members ∧ name ∈ state.subscribed client

open Classical in
/-- What one client gets of a message, if it is subscribed. -/
noncomputable def delivery
    (state : State Client Name Message Content)
    (name : Name)
    (message : Message)
    (client : Client) : Option (Client × Content) :=
  if name ∈ state.subscribed client then
    (state.reach client name message).map fun content => (client, content)
  else
    none

/-- The deliveries that a request causes, in order. -/
noncomputable def deliveries
    (state : State Client Name Message Content) :
    Request Client Name Message Content → List (Client × Content)
  | .publish name message =>
      state.members.filterMap (state.delivery name message)
  | _ => []

variable [DecidableEq Client]

/-- The state after a request. -/
def next
    (state : State Client Name Message Content) :
    Request Client Name Message Content →
      State Client Name Message Content
  | .join client reach =>
      { members := state.members ++ [client]
        subscribed := Function.update state.subscribed client ∅
        reach := Function.update state.reach client reach }
  | .attend client reach =>
      { state with reach := Function.update state.reach client reach }
  | .leave client =>
      { state with members := state.members.erase client }
  | .subscribe client names =>
      { state with
        subscribed :=
          Function.update state.subscribed client
            (state.subscribed client ∪ names) }
  | .unsubscribe client names =>
      { state with
        subscribed :=
          Function.update state.subscribed client
            (state.subscribed client \ names) }
  | .publish _ _ => state
  | .idle => state

/-- The state after several requests. -/
def run
    (state : State Client Name Message Content)
    (requests : List (Request Client Name Message Content)) :
    State Client Name Message Content :=
  requests.foldl next state

/-- The deliveries that several requests cause. -/
noncomputable def allDeliveries :
    List (Request Client Name Message Content) →
      State Client Name Message Content → List (Client × Content)
  | [], _ => []
  | request :: rest, state =>
      state.deliveries request ++ allDeliveries rest (state.next request)

/-- Nobody joins twice. -/
def Admissible :
    List (Request Client Name Message Content) →
      State Client Name Message Content → Prop
  | [], _ => True
  | request :: rest, state =>
      (∀ client reach, request = .join client reach →
        client ∉ state.members) ∧
        Admissible rest (state.next request)

open Classical in
/-- What one client gets: the publications it is subscribed to at that time. -/
noncomputable def inbox
    (client : Client) :
    List (Request Client Name Message Content) →
      State Client Name Message Content → List Content
  | [], _ => []
  | .publish name message :: rest, state =>
      if state.Serves client name then
        (state.reach client name message).toList ++ inbox client rest state
      else
        inbox client rest state
  | request :: rest, state => inbox client rest (state.next request)

variable {state : State Client Name Message Content}
variable {client : Client}
variable {name : Name}
variable {message : Message}
variable {request : Request Client Name Message Content}
variable {requests : List (Request Client Name Message Content)}

/-! ## One request more -/

/-- The state after one request more. -/
theorem run_concat
    (requests : List (Request Client Name Message Content))
    (request : Request Client Name Message Content)
    (state : State Client Name Message Content) :
    state.run (requests ++ [request]) = (state.run requests).next request := by
  unfold run
  rw [List.foldl_append]
  rfl

/-- The deliveries of one request more. -/
theorem allDeliveries_concat
    (requests : List (Request Client Name Message Content))
    (request : Request Client Name Message Content)
    (state : State Client Name Message Content) :
    allDeliveries (requests ++ [request]) state =
      allDeliveries requests state ++
        (state.run requests).deliveries request := by
  induction requests generalizing state with
  | nil => exact List.append_nil _
  | cons first rest inductionHypothesis =>
      rw [List.cons_append, allDeliveries, allDeliveries,
        inductionHypothesis, List.append_assoc]
      rfl

/-- One request more is admissible after the others. -/
theorem admissible_concat
    (admissible : Admissible requests state)
    (fresh :
      ∀ client reach, request = .join client reach →
        client ∉ (state.run requests).members) :
    Admissible (requests ++ [request]) state := by
  induction requests generalizing state with
  | nil => exact ⟨fresh, trivial⟩
  | cons first rest inductionHypothesis =>
      exact ⟨admissible.1, inductionHypothesis admissible.2 fresh⟩

/-! ## What a client receives -/

/-- Members stay different if nobody joins twice. -/
theorem nodup_next
    (nodup : state.members.Nodup)
    (fresh :
      ∀ client reach, request = .join client reach →
        client ∉ state.members) :
    (state.next request).members.Nodup := by
  cases request with
  | join client reach =>
      have isNew := fresh client reach rfl
      refine List.nodup_append.mpr ⟨nodup, by simp, ?_⟩
      intro member isMember other isOther same
      obtain rfl := List.mem_singleton.mp isOther
      exact isNew (same ▸ isMember)
  | attend client reach => exact nodup
  | leave client => exact nodup.erase client
  | subscribe client names => exact nodup
  | unsubscribe client names => exact nodup
  | publish name message => exact nodup
  | idle => exact nodup

/-- Nothing is delivered to those that are not asked. -/
theorem received_filterMap_of_not_mem
    {clients : List Client}
    (notAsked : client ∉ clients) :
    received client (clients.filterMap (state.delivery name message)) =
      [] := by
  unfold received
  rw [List.filterMap_eq_nil_iff]
  intro delivered member
  obtain ⟨other, asked, isDelivery⟩ := List.mem_filterMap.mp member
  unfold delivery at isDelivery
  split at isDelivery
  · obtain ⟨content, _, rfl⟩ := Option.map_eq_some_iff.mp isDelivery
    have distinct : other ≠ client := by
      rintro rfl
      exact notAsked asked
    exact if_neg distinct
  · cases isDelivery

open Classical in
/-- A publication reaches a client once if the client is served, else never. -/
theorem received_deliveries_publish
    (nodup : state.members.Nodup)
    (client : Client)
    (name : Name)
    (message : Message) :
    received client (state.deliveries (.publish name message)) =
      if state.Serves client name then
        (state.reach client name message).toList
      else
        [] := by
  by_cases member : client ∈ state.members
  · obtain ⟨earlier, later, split⟩ := List.append_of_mem member
    rw [split] at nodup
    obtain ⟨_, nodupLater, apart⟩ := List.nodup_append.mp nodup
    have notEarlier : client ∉ earlier := fun isEarlier =>
      apart client isEarlier client List.mem_cons_self rfl
    have notLater : client ∉ later := (List.nodup_cons.mp nodupLater).1
    have own :
        received client ([client].filterMap (state.delivery name message)) =
          if state.Serves client name then
            (state.reach client name message).toList
          else
            [] := by
      unfold delivery received Serves
      by_cases subscribed : name ∈ state.subscribed client
      · cases reached : state.reach client name message <;>
          simp [subscribed, member, reached]
      · simp [subscribed]
    change
      received client (state.members.filterMap (state.delivery name message)) =
        _
    rw [split, ← List.singleton_append, List.filterMap_append,
      List.filterMap_append, received_append, received_append,
      received_filterMap_of_not_mem notEarlier,
      received_filterMap_of_not_mem notLater, own, List.append_nil,
      List.nil_append]
  · rw [if_neg fun served => member served.1]
    exact received_filterMap_of_not_mem member

/-- Each client gets its inbox: every publication once, and in order. -/
theorem received_allDeliveries
    (nodup : state.members.Nodup)
    (admissible : Admissible requests state)
    (client : Client) :
    received client (allDeliveries requests state) =
      inbox client requests state := by
  induction requests generalizing state with
  | nil => rfl
  | cons request rest inductionHypothesis =>
      obtain ⟨fresh, admissible⟩ := admissible
      have later :=
        inductionHypothesis (nodup_next nodup fresh) admissible
      rw [allDeliveries, received_append, later]
      cases request with
      | publish name message =>
          rw [received_deliveries_publish nodup, inbox]
          split <;> rfl
      | join client reach => rfl
      | attend client reach => rfl
      | leave client => rfl
      | subscribe client names => rfl
      | unsubscribe client names => rfl
      | idle => rfl

end State

end PubSub
