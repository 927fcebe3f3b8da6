import SimpleTlsBroker.Topics

namespace SimpleTlsBroker

/-!
# The events of a run

The program has no log of its own.  The model records what reaches the outside
of the broker, and the calls that properties are about, newest event first.
-/

/-- The address of a `MqttClient` object. -/
abbrev ClientId := Nat

/-- The address of a `MqttBroker` object. -/
abbrev BrokerId := Nat

/-- The position of a `sock_db` slot in the session table. -/
abbrev SlotId := Nat

/-- One observable step of a run. -/
inductive Event where
  /-- `MqttBroker::loop` created a client for an accepted session. -/
  | accepted (client : ClientId) (slot : SlotId)
  /-- `recv_fn` was called and returned `ret`. -/
  | received (slot : SlotId) (fd ret : Int)
  /-- `MqttClient::loop` fed a byte to the message of a client. -/
  | fed (client : ClientId) (slot : SlotId) (byte : Byte)
  /-- `processMessage` was called. -/
  | processed (client : ClientId) (mesg : MqttMessage)
  /-- Results of `checkUser` and `checkPassword`, where they were called. -/
  | credentials (client : ClientId) (user password : Option Bool)
  /--
  `sendTo` was called with a message for a client.  Its bytes go nowhere if the
  client has no connection, which the link to an upstream broker never has.
  -/
  | sentTo (client : ClientId) (bytes : List Byte)
  /-- `writeData` was called on a session. -/
  | written (slot : SlotId) (bytes : List Byte)
  /-- `send_fn` was called and returned `ret`. -/
  | sent (slot : SlotId) (fd : Int) (bytes : List Byte) (ret : Int)
  /-- The callback of a client was invoked. -/
  | callback (client : ClientId) (topic : Topic) (payload : List Byte)
  /-- `close` was called on a client. -/
  | closed (client : ClientId)
  /-- `removeClient` asked for the deletion of a session. -/
  | dropped (client : ClientId) (slot : SlotId) (fd : Int)
  /-- `httpd_sess_delete` deleted an open session. -/
  | deleted (slot : SlotId) (fd : Int)
  deriving Repr, DecidableEq

namespace Event

/-- The client an event is about, if it is about one. -/
def client? : Event → Option ClientId
  | .accepted client _ => some client
  | .fed client _ _ => some client
  | .processed client _ => some client
  | .credentials client _ _ => some client
  | .sentTo client _ => some client
  | .callback client _ _ => some client
  | .closed client => some client
  | .dropped client _ _ => some client
  | _ => none

/-- The client an accepted slot was given to. -/
def acceptedBy? (slot : SlotId) : Event → Option ClientId
  | .accepted client taken => if taken = slot then some client else none
  | _ => none

/-- The result of `recv_fn` or `send_fn`, for the events that have one. -/
def transportResult? : Event → Option Int
  | .received _ _ ret => some ret
  | .sent _ _ _ ret => some ret
  | _ => none

/-- The byte fed to the message of one client. -/
def fedTo? (client : ClientId) : Event → Option Byte
  | .fed other _ byte => if other = client then some byte else none
  | _ => none

/-- The message one client processed. -/
def processedBy? (client : ClientId) : Event → Option MqttMessage
  | .processed other mesg => if other = client then some mesg else none
  | _ => none

end Event

/-- The events of a run, newest first. -/
abbrev Trace := List Event

namespace Trace

/-- The client created by the last accept into a slot. -/
def owner? (slot : SlotId) : Trace → Option ClientId
  | [] => none
  | event :: earlier =>
      match event.acceptedBy? slot with
      | some client => some client
      | none => owner? slot earlier

/-- The bytes fed to one client, oldest first. -/
def fedTo (client : ClientId) (trace : Trace) : List Byte :=
  (trace.filterMap (Event.fedTo? client)).reverse

/-- The messages one client processed, oldest first. -/
def processedBy (client : ClientId) (trace : Trace) : List MqttMessage :=
  (trace.filterMap (Event.processedBy? client)).reverse

/-- No call of `recv_fn` or `send_fn` returned a negative value. -/
def TransportOk (trace : Trace) : Prop :=
  ∀ event ∈ trace, ∀ ret ∈ event.transportResult?, 0 ≤ ret

instance (trace : Trace) : Decidable trace.TransportOk :=
  inferInstanceAs
    (Decidable (∀ event ∈ trace, ∀ ret ∈ event.transportResult?, 0 ≤ ret))

end Trace

end SimpleTlsBroker
