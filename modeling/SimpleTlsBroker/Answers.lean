import SimpleTlsBroker.Building
import SimpleTlsBroker.Changes

namespace SimpleTlsBroker

/-!
# The messages sent to a client

What `processMessage` answers is a list of messages.  Writing to a session,
closing a client and setting a deadline add nothing to it; `sendTo` adds one.
-/

open History

namespace Event

/-- The message sent to one client. -/
def sentTo? (client : ClientId) : Event → Option (List Byte)
  | .sentTo other bytes => if other = client then some bytes else none
  | _ => none

/-- The events of a closing. -/
def IsClosing (client : ClientId) : Event → Prop
  | .closed other => other = client
  | .dropped other _ _ => other = client
  | .deleted _ _ => True
  | _ => False

end Event

namespace Trace

variable {client : ClientId}

/-- The messages sent to one client, oldest first. -/
def messagesTo (client : ClientId) (trace : Trace) : List (List Byte) :=
  (trace.filterMap (Event.sentTo? client)).reverse

/-- One more message. -/
@[simp] theorem messagesTo_sentTo
    (client : ClientId)
    (bytes : List Byte)
    (trace : Trace) :
    messagesTo client (.sentTo client bytes :: trace) =
      messagesTo client trace ++ [bytes] := by
  simp [messagesTo, Event.sentTo?]

/-- Events that are no message. -/
theorem messagesTo_grown
    {allowed : Event → Prop}
    {earlier later : Trace}
    (grown : Grown allowed earlier later)
    (silent : ∀ event, allowed event → event.sentTo? client = none) :
    messagesTo client later = messagesTo client earlier := by
  obtain ⟨since, rfl, allAllowed⟩ := grown
  have none : since.filterMap (Event.sentTo? client) = [] := by
    rw [List.filterMap_eq_nil_iff]
    exact fun event member => silent event (allAllowed event member)
  simp [messagesTo, none]

end Trace

namespace World

variable {Index Os : Type} [Platform Os]
variable {client : ClientId}

/-- A write is no message of its own. -/
@[simp] theorem messagesTo_writeClient
    (world : World Index Os)
    (client other : ClientId)
    (bytes : List Byte) :
    (world.writeClient other bytes).trace.messagesTo client =
      world.trace.messagesTo client := by
  cases connected : (world.clients other).connection with
  | none => simp [writeClient, connected, Device.writeData, trace]
  | some slot =>
      have grown := world.device.trace_writeData slot bytes
      have written :
          (world.writeClient other bytes).trace =
            (world.device.writeData (some slot) bytes).2.trace := by
        simp [writeClient, connected, trace]
      rw [written]
      apply Trace.messagesTo_grown grown
      intro event onSession
      cases event with
      | sentTo other bytes => exact onSession.elim
      | _ => rfl

/-- Sending a message that has begun adds it, with its length, to the answers. -/
theorem messagesTo_sendOwn
    (world : World Index Os)
    (message : MqttMessage)
    (client : ClientId)
    (begun : message.buffer.length ≠ 0) :
    (world.sendOwn message client).trace.messagesTo client =
      world.trace.messagesTo client ++ [message.encoded.buffer] := by
  simp only [sendOwn, sendTo, if_pos begun, messagesTo_writeClient,
    trace_log, Trace.messagesTo_sentTo]

/-- Sending a message that was built by some calls adds its packet. -/
theorem messagesTo_sendCalls
    (world : World Index Os)
    (type flags : Byte)
    (calls : List MqttMessage.AddCall)
    (client : ClientId)
    (bounded :
      (calls.flatMap MqttMessage.AddCall.added).length ≤ 4093) :
    (world.sendOwn
        (calls.foldl MqttMessage.AddCall.apply
          (MqttMessage.ofType type flags)) client).trace.messagesTo client =
      world.trace.messagesTo client ++
        [(MqttMessage.builtPacket (type ||| flags)
          (calls.flatMap MqttMessage.AddCall.added)).bytes] := by
  have collected := MqttMessage.buffer_calls type flags calls bounded
  rw [messagesTo_sendOwn _ _ _ (by simp [collected.1]),
    MqttMessage.encoded_calls type flags calls bounded]

/-- Sending changes no client. -/
@[simp] theorem clients_sendOwn
    (world : World Index Os)
    (message : MqttMessage)
    (client : ClientId) :
    (world.sendOwn message client).clients = world.clients := by
  unfold sendOwn sendTo
  split <;> rfl

/-- Sending leaves the topics alone. -/
@[simp] theorem indexer_sendOwn
    (world : World Index Os)
    (message : MqttMessage)
    (client : ClientId) :
    (world.sendOwn message client).indexer = world.indexer := by
  unfold sendOwn sendTo
  split <;> rfl

/-- A closing is recorded. -/
theorem trace_close
    (world : World Index Os)
    (client : ClientId) :
    Grown (Event.IsClosing client) world.trace (world.close client).trace ∧
      .closed client ∈ (world.close client).trace := by
  have device := world.device_close client
  have closed :
      Grown (Event.IsClosing client) world.trace
        (.closed client :: world.trace) := .single rfl
  unfold trace at closed ⊢
  rw [device]
  cases world.session? client with
  | none => exact ⟨closed, List.mem_cons_self⟩
  | some slot =>
      have dropped :
          Grown (Event.IsClosing client) world.device.trace
            (((world.device.log (.closed client)).log
              (.dropped client slot (world.device.fd slot)))).trace :=
        closed.cons rfl
      have deleted :=
        (((world.device.log (.closed client)).log
          (.dropped client slot
            (world.device.fd slot)))).trace_httpdSessDelete slot
      refine ⟨dropped.trans (deleted.weaken ?_), ?_⟩
      · rintro event rfl
        trivial
      · exact deleted.mem (List.mem_cons_of_mem _ List.mem_cons_self)

/-- A closing is no message. -/
@[simp] theorem messagesTo_close
    (world : World Index Os)
    (client other : ClientId) :
    (world.close other).trace.messagesTo client =
      world.trace.messagesTo client := by
  apply Trace.messagesTo_grown (world.trace_close other).1
  intro event isClosing
  cases event with
  | sentTo _ _ => exact isClosing.elim
  | _ => rfl

/-- The deadline is set, and nothing else changes. -/
theorem finish_open
    (client : ClientId)
    (world : World Index Os) :
    (finish client (false, world)).trace = world.trace ∧
      (finish client (false, world)).indexer = world.indexer ∧
        ((finish client (false, world)).clients client).mqttConnected =
            (world.clients client).mqttConnected ∧
          ((finish client (false, world)).clients client).parent =
              (world.clients client).parent ∧
            ((finish client (false, world)).clients client).subscriptions =
              (world.clients client).subscriptions := by
  simp [finish, clientAlive]

/-- A failed case closes the client. -/
theorem finish_closing
    (client : ClientId)
    (world : World Index Os) :
    finish client (true, world) = world.close client := rfl

end World

end SimpleTlsBroker
