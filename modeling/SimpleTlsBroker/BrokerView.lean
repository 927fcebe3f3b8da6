import SimpleTlsBroker.Library.PubSub
import SimpleTlsBroker.ReferenceCounts
import SimpleTlsBroker.Subscribing
import SimpleTlsBroker.Vocabulary

namespace SimpleTlsBroker

/-!
# The broker as a publish and subscribe service

A world stands for a state of the abstract service: the clients of the list are
its members, what they are subscribed to are the names of their topics, and a
member is reached by a frame or by a call of its callback.  Most of what the
program does goes unnoticed by the service.
-/

open History

/-- What a client gets of a publication. -/
inductive Content where
  | frame (bytes : List Byte)
  | call (name payload : List Byte)
  deriving Repr, DecidableEq

/-- What is published under a name. -/
structure Post where
  frame : List Byte
  payload : List Byte
  deriving Repr, DecidableEq

/-- The requests that the program understands. -/
abbrev BrokerRequest :=
  PubSub.Request ClientId (List Byte) Post Content

/-- A networked client is reached by a frame. -/
def Content.byFrame (_ : List Byte) (post : Post) : Option Content :=
  some (.frame post.frame)

/-- A local client is reached by a call. -/
def Content.byCall (name : List Byte) (post : Post) : Option Content :=
  some (.call name post.payload)

/-- A local client without callback is not reached. -/
def Content.unreached (_ : List Byte) (_ : Post) : Option Content :=
  none

/-- How a client is reached. -/
def MqttClient.reach (record : MqttClient) :
    List Byte → Post → Option Content :=
  if record.client then
    Content.byFrame
  else if record.callback then
    Content.byCall
  else
    Content.unreached

namespace Event

/-- PUBLISH messages that are sent, and calls of a callback. -/
def isPost : Event → Bool
  | .sentTo _ bytes => bytes.headD 0 &&& 0xF0 = MqttType.publish.code
  | .callback _ _ _ => true
  | _ => false

/-- What such an event delivers. -/
def delivered? (indexer : StringIndexer) : Event → Option (ClientId × Content)
  | .sentTo client bytes => some (client, .frame bytes)
  | .callback client topic payload =>
      some (client, .call (indexer.str topic) payload)
  | _ => none

/-- A post is a service. -/
theorem isService_of_isPost
    {event : Event}
    (isPost : event.isPost = true) :
    event.isService = true := by
  cases event <;> simp_all [Event.isPost, isService]

/-- The events of a session are no posts. -/
theorem OnSession.not_isPost
    {slot : SlotId}
    {fd : Int}
    {event : Event}
    (onSession : event.OnSession slot fd) :
    event.isPost = false := by
  cases event <;> simp_all [OnSession, isPost]

/-- Nor are those of a closing. -/
theorem IsClosing.not_isPost
    {client : ClientId}
    {event : Event}
    (isClosing : event.IsClosing client) :
    event.isPost = false := by
  cases event <;> simp_all [IsClosing, isPost]

end Event

namespace Trace

/-- The posts of a run, oldest first. -/
def posts (trace : Trace) : List Event :=
  (trace.filter Event.isPost).reverse

/-- The posts are among the services. -/
theorem posts_eq_filter_services (trace : Trace) :
    trace.posts = trace.services.filter Event.isPost := by
  unfold posts services
  rw [List.filter_reverse, List.filter_filter]
  congr 2
  funext event
  cases isPost : event.isPost with
  | true => simp [Event.isService_of_isPost isPost]
  | false => rfl

/-- One more event. -/
theorem posts_cons (event : Event) (trace : Trace) :
    posts (event :: trace) =
      posts trace ++ if event.isPost then [event] else [] := by
  unfold posts
  cases isPost : event.isPost <;> simp [isPost]

/-- Events that are no posts. -/
theorem posts_grown
    {allowed : Event → Prop}
    {earlier later : Trace}
    (grown : Grown allowed earlier later)
    (noPosts : ∀ event, allowed event → event.isPost = false) :
    posts later = posts earlier := by
  obtain ⟨since, rfl, allAllowed⟩ := grown
  have none : since.filter Event.isPost = [] := by
    refine List.filter_eq_nil_iff.mpr fun event member => ?_
    simp [noPosts event (allAllowed event member)]
  simp [posts, none]

end Trace

/-- `complete` leaves the first byte of a message alone. -/
theorem MqttMessage.headD_encoded
    {message : MqttMessage}
    {first : Byte}
    {rest : List Byte}
    (buffer : message.buffer = first :: rest) :
    message.encoded.buffer.headD 0 = first := by
  unfold encoded
  split
  · dsimp only
    split
    · simp [buffer]
    · simp [buffer]
  · simp [buffer]

/-- The topic loop takes two bytes at least for a filter. -/
theorem MqttClient.length_parseFilters_le
    (subscribe : Bool)
    (endOffset fuel payload : Nat)
    (memory : Nat → Byte) :
    2 * ((parseFilters subscribe endOffset fuel payload).run
        memory).1.length ≤
      endOffset + 1 - payload := by
  induction fuel generalizing payload with
  | zero => exact Nat.zero_le _
  | succ fuel inductionHypothesis =>
      by_cases more : payload < endOffset
      · cases subscribe with
        | true =>
            simp only [parseFilters, if_pos more, if_true, Parse.run_bind,
              Parse.run_pure, Parse.getString, List.length_cons]
            have later := inductionHypothesis
              (payload + 2 + (Parse.readWord payload).run memory + 1)
            omega
        | false =>
            simp only [parseFilters, if_pos more, Bool.false_eq_true, if_false,
              Parse.run_bind, Parse.run_pure, Parse.getString,
              List.length_cons]
            have later := inductionHypothesis
              (payload + 2 + (Parse.readWord payload).run memory)
            omega
      · simp [parseFilters, if_neg more]

namespace World

variable {Os : Type}

/-- The service that a world stands for. -/
def view
    (world : World StringIndexer Os)
    (broker : BrokerId) :
    PubSub.State ClientId (List Byte) Post Content where
  members := world.members broker
  subscribed := world.subscribedNames
  reach client := (world.clients client).reach

/-- What was delivered between two states of a run. -/
def delivered
    (before after : World StringIndexer Os) : List (ClientId × Content) :=
  (after.trace.posts.drop before.trace.posts.length).filterMap
    (Event.delivered? after.indexer)

/-- Nothing happened that the service is about. -/
structure Unnoticed (before after : World StringIndexer Os) : Prop where
  indexer : after.indexer = before.indexer
  brokers : after.brokers = before.brokers
  subscriptions : ∀ client,
    (after.clients client).subscriptions =
      (before.clients client).subscriptions
  reach : ∀ client,
    (after.clients client).reach = (before.clients client).reach
  posts : after.trace.posts = before.trace.posts

/-- A request was served, and what is due was delivered. -/
structure Serves
    (broker : BrokerId)
    (before after : World StringIndexer Os)
    (request : BrokerRequest) : Prop where
  view : after.view broker = (before.view broker).next request
  delivered :
    before.delivered after = (before.view broker).deliveries request

variable {broker : BrokerId}
variable {before middle after : World StringIndexer Os}
variable {request : BrokerRequest}

/-- The same posts deliver nothing. -/
theorem delivered_of_posts
    (posts : after.trace.posts = before.trace.posts) :
    before.delivered after = [] := by
  unfold delivered
  rw [posts, List.drop_length]
  rfl

/-- Requests other than publications deliver nothing. -/
theorem Serves.silent
    (view : after.view broker = (before.view broker).next request)
    (posts : after.trace.posts = before.trace.posts)
    (noPublication : ∀ name post, request ≠ .publish name post) :
    Serves broker before after request where
  view := view
  delivered := by
    rw [delivered_of_posts posts]
    cases request with
    | publish name post => exact absurd rfl (noPublication name post)
    | join client reach => rfl
    | attend client reach => rfl
    | leave client => rfl
    | subscribe client names => rfl
    | unsubscribe client names => rfl
    | idle => rfl

namespace Unnoticed

theorem refl (world : World StringIndexer Os) : Unnoticed world world :=
  ⟨rfl, rfl, fun _ => rfl, fun _ => rfl, rfl⟩

theorem trans
    (first : Unnoticed before middle)
    (second : Unnoticed middle after) :
    Unnoticed before after where
  indexer := second.indexer.trans first.indexer
  brokers := second.brokers.trans first.brokers
  subscriptions client :=
    (second.subscriptions client).trans (first.subscriptions client)
  reach client := (second.reach client).trans (first.reach client)
  posts := second.posts.trans first.posts

/-- The world stands for the same service. -/
theorem view
    (unnoticed : Unnoticed before after)
    (broker : BrokerId) :
    after.view broker = before.view broker := by
  unfold World.view members subscribedNames
  simp only [unnoticed.indexer, unnoticed.brokers, unnoticed.subscriptions,
    unnoticed.reach]

/-- This is no request. -/
theorem serves
    (unnoticed : Unnoticed before after)
    (broker : BrokerId) :
    Serves broker before after .idle :=
  .silent (unnoticed.view broker) unnoticed.posts (by simp)

/-- Something unnoticed before a request. -/
theorem andServes
    (unnoticed : Unnoticed before middle)
    (serves : Serves broker middle after request) :
    Serves broker before after request where
  view := by
    rw [serves.view, unnoticed.view]
  delivered := by
    rw [← unnoticed.view, ← serves.delivered]
    unfold World.delivered
    rw [unnoticed.posts]

/-- And after it. -/
theorem afterServes
    (unnoticed : Unnoticed middle after)
    (serves : Serves broker before middle request) :
    Serves broker before after request where
  view := by
    rw [unnoticed.view, serves.view]
  delivered := by
    rw [← serves.delivered]
    unfold World.delivered
    rw [unnoticed.posts, unnoticed.indexer]

/-- Logging an event that is no post. -/
theorem log
    (world : World StringIndexer Os)
    {event : Event}
    (noPost : event.isPost = false) :
    Unnoticed world (world.log event) := by
  refine ⟨rfl, rfl, fun _ => rfl, fun _ => rfl, ?_⟩
  rw [trace_log, Trace.posts_cons, noPost]
  exact List.append_nil _

/-- Work on the device. -/
theorem device
    (world : World StringIndexer Os)
    {device : Device Os}
    (posts : device.trace.posts = world.trace.posts) :
    Unnoticed world { world with device := device } :=
  ⟨rfl, rfl, fun _ => rfl, fun _ => rfl, posts⟩

/-- Changing a record but for its subscriptions and the way it is reached. -/
theorem modifyClient
    (world : World StringIndexer Os)
    (client : ClientId)
    {change : MqttClient → MqttClient}
    (keeps :
      ∀ record, (change record).subscriptions = record.subscriptions ∧
        (change record).reach = record.reach) :
    Unnoticed world (world.modifyClient client change) := by
  refine ⟨rfl, rfl, ?_, ?_, rfl⟩
  · intro other
    by_cases same : other = client
    · subst same
      rw [clients_modifyClient_self, (keeps _).1]
    · rw [clients_modifyClient_other world change same]
  · intro other
    by_cases same : other = client
    · subst same
      rw [clients_modifyClient_self, (keeps _).2]
    · rw [clients_modifyClient_other world change same]

/-- Work on the sessions. -/
theorem sessionWork
    (world : World StringIndexer Os)
    {device : Device Os}
    (work : SessionWork world.device device) :
    Unnoticed world { world with device := device } := by
  apply Unnoticed.device
  apply Trace.posts_grown work.trace
  rintro event ⟨slot, fd, onSession⟩
  exact onSession.not_isPost

variable [Platform Os]

/-- Setting a deadline. -/
theorem clientAlive
    (world : World StringIndexer Os)
    (client : ClientId)
    (moreSeconds : Nat) :
    Unnoticed world (world.clientAlive client moreSeconds) := by
  unfold World.clientAlive
  exact modifyClient world client fun _ => ⟨rfl, rfl⟩

/-- Writing to a session. -/
theorem writeClient
    (world : World StringIndexer Os)
    (client : ClientId)
    (bytes : List Byte) :
    Unnoticed world (world.writeClient client bytes) := by
  unfold World.writeClient
  apply Unnoticed.device
  cases connected : (world.clients client).connection with
  | none => rfl
  | some slot =>
      apply Trace.posts_grown (world.device.trace_writeData slot bytes)
      intro event onSession
      exact onSession.not_isPost

/-- Sending a message that is not a PUBLISH message. -/
theorem sendTo
    (world : World StringIndexer Os)
    {message : MqttMessage}
    (client : ClientId)
    {first : Byte}
    {rest : List Byte}
    (buffer : message.buffer = first :: rest)
    (noPublish : first &&& 0xF0 ≠ MqttType.publish.code) :
    Unnoticed world (world.sendTo message client).2 := by
  have noPost :
      (Event.sentTo client message.encoded.buffer).isPost = false := by
    unfold Event.isPost
    dsimp only
    rw [MqttMessage.headD_encoded buffer]
    exact decide_eq_false noPublish
  unfold World.sendTo
  rw [if_pos (by simp [buffer])]
  exact (log world noPost).trans (writeClient _ client _)

end Unnoticed

end World

end SimpleTlsBroker
