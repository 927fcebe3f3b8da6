import Mathlib.Algebra.Group.Nat.Defs
import SimpleTlsBroker.Trace

namespace SimpleTlsBroker

/-!
# The TLS sessions

The session table of `httpd_sess.c` and the socket functions of
`httpd_main.c`.  Sockets, TLS and the clock belong to the platform; the model
takes them as operations on an opaque state, so every result of a call is
possible.
-/

/-- What the sources call below themselves. -/
class Platform (Os : Type) where
  /-- `millis()`. -/
  millis : Os → Nat
  /-- `select` on descriptors to read: the count, and the descriptors set. -/
  select : Os → List Int → (Int × (Int → Bool)) × Os
  /-- `pending_fn` finds bytes in the TLS buffer of a descriptor. -/
  pending : Os → Int → Bool
  /-- `recv_fn` for a number of bytes: the result, and the bytes stored. -/
  recv : Os → Int → Nat → (Int × List Byte) × Os
  /-- `send_fn`. -/
  send : Os → Int → List Byte → Int × Os
  /-- `accept` on the listening socket. -/
  accept : Os → Int × Os
  /-- `config.open_fn`, the TLS handshake: did it return `ESP_OK`? -/
  openFn : Os → Int → Bool × Os
  /-- `config.close_fn` or `close`. -/
  closeFn : Os → Int → Os
  /-- `connected()` of the `TcpClient` a client holds. -/
  tcpConnected : Os → ClientId → Bool
  /-- The memory behind the terminator of a message buffer. -/
  memory : Os → Nat → Byte

/-- `struct sock_db`, one slot of the session table. -/
structure SockDb where
  fd : Int
  /-- Is `handle` set? -/
  handle : Bool
  lruCounter : Nat
  lruSocket : Bool
  pendingLen : Nat
  deriving Repr, DecidableEq

/-- `struct httpd_data`. -/
structure HttpdData where
  maxOpenSockets : Nat
  lruPurgeEnable : Bool
  listenFd : Int
  hdSd : SlotId → SockDb
  hdSdActiveCount : Int
  lruCounter : Nat

/-- The platform, the session table and the events so far. -/
structure Device (Os : Type) where
  os : Os
  hd : HttpdData
  trace : Trace

namespace HttpdData

/-- A slot after `httpd_create` and `httpd_sess_init`. -/
def initialSlot : SockDb where
  fd := -1
  handle := false
  lruCounter := 0
  lruSocket := false
  pendingLen := 0

/-- The slots of the table, in the order `httpd_sess_enum` visits them. -/
def slots (hd : HttpdData) : List SlotId :=
  List.range hd.maxOpenSockets

/-- `httpd_sess_get_free`. -/
def httpdSessGetFree (hd : HttpdData) : Option SlotId :=
  if hd.hdSdActiveCount = hd.maxOpenSockets then
    none
  else
    hd.slots.find? fun slot => (hd.hdSd slot).fd < 0

/-- `httpd_is_sess_available`. -/
def httpdIsSessAvailable (hd : HttpdData) : Bool :=
  hd.httpdSessGetFree.isSome

/-- `httpd_sess_get`; no request handler is ever active here. -/
def httpdSessGet (hd : HttpdData) (sockfd : Int) : Option SlotId :=
  hd.slots.find? fun slot => (hd.hdSd slot).fd = sockfd

/-- The descriptors `httpd_sess_set_descriptors` adds to the read set. -/
def descriptors (hd : HttpdData) : List Int :=
  (hd.slots.map fun slot => (hd.hdSd slot).fd).filter fun fd => fd ≠ -1

/-- Replace one slot. -/
def setSlot
    (hd : HttpdData)
    (slot : SlotId)
    (entry : SockDb) : HttpdData :=
  { hd with hdSd := Function.update hd.hdSd slot entry }

/-- The search of `httpd_sess_close_lru`; it stops at the first free slot. -/
def findLowestLru
    (hd : HttpdData) :
    List SlotId → Nat → Option SlotId → Option SlotId
  | [], _, found => found
  | slot :: rest, lowest, found =>
      if (hd.hdSd slot).fd = -1 then
        found
      else if (hd.hdSd slot).lruCounter < lowest then
        findLowestLru hd rest (hd.hdSd slot).lruCounter (some slot)
      else
        findLowestLru hd rest lowest found

/-- `httpd_queue_work` of this repository: the work is never queued. -/
def httpdQueueWork (hd : HttpdData) : Bool × HttpdData :=
  (true, hd)

/-- `httpd_sess_close_lru`. -/
def httpdSessCloseLru (hd : HttpdData) : Bool × HttpdData :=
  match hd.findLowestLru hd.slots (2 ^ 64 - 1) none with
  | none => (true, hd)
  | some slot =>
      (hd.setSlot slot
        { hd.hdSd slot with lruSocket := true }).httpdQueueWork

end HttpdData

namespace Device

variable {Os : Type}

/-- Record an event. -/
def log (device : Device Os) (event : Event) : Device Os :=
  { device with trace := event :: device.trace }

/-- The descriptor in a slot. -/
def fd (device : Device Os) (slot : SlotId) : Int :=
  (device.hd.hdSd slot).fd

variable [Platform Os]

/-- `millis()`, a 32-bit counter. -/
def millis (device : Device Os) : Nat :=
  Platform.millis device.os % 2 ^ 32

/--
`httpd_sess_delete` with the handle of the session.  A session without handle
or descriptor is left alone.
-/
def httpdSessDelete
    (device : Device Os)
    (session : SlotId) : Device Os :=
  if (device.hd.hdSd session).handle = false ∨ device.fd session < 0 then
    device
  else
    let count := device.hd.hdSdActiveCount - 1
    { os := Platform.closeFn device.os (device.fd session)
      hd :=
        { device.hd.setSlot session
            { device.hd.hdSd session with fd := -1 } with
          hdSdActiveCount := count
          lruCounter := if count = 0 then 0 else device.hd.lruCounter }
      trace := .deleted session (device.fd session) :: device.trace }

/-- `httpd_sess_new`: the session, unless there is none to be had. -/
def httpdSessNew
    (device : Device Os)
    (newfd : Int) : Option SlotId × Device Os :=
  if (device.hd.httpdSessGet newfd).isSome then
    (none, device)
  else
    match device.hd.httpdSessGetFree with
    | none => (none, device)
    | some session =>
        let hd :=
          device.hd.setSlot session
            { HttpdData.initialSlot with fd := newfd, handle := true }
        let (opened, os) := Platform.openFn device.os newfd
        let device := { device with os := os, hd := hd }
        if opened then
          (some session,
            { device with
              hd := { hd with hdSdActiveCount := hd.hdSdActiveCount + 1 } })
        else
          -- The counter goes down although it was not increased.
          (none, device.httpdSessDelete session)

/-- `httpd_accept_conn`: success, and the new session if one was made. -/
def httpdAcceptConn
    (device : Device Os) : (Bool × Option SlotId) × Device Os :=
  if device.hd.lruPurgeEnable ∧ ¬ device.hd.httpdIsSessAvailable then
    let (ok, hd) := device.hd.httpdSessCloseLru
    ((ok, none), { device with hd := hd })
  else
    let (newfd, os) := Platform.accept device.os
    let device := { device with os := os }
    if newfd < 0 then
      ((false, none), device)
    else
      match device.httpdSessNew newfd with
      | (some session, device) => ((true, some session), device)
      | (none, device) =>
          ((false, none),
            { device with os := Platform.closeFn device.os newfd })

/-- `checkAvail`: the session of a connection that was waiting. -/
def checkAvail (device : Device Os) : Option SlotId × Device Os :=
  let listening :=
    if device.hd.lruPurgeEnable ∨ device.hd.httpdIsSessAvailable then
      [device.hd.listenFd]
    else
      []
  let ((activeCnt, ready), os) :=
    Platform.select device.os (listening ++ device.hd.descriptors)
  let device := { device with os := os }
  if activeCnt ≤ 0 then
    (none, device)
  else if device.hd.listenFd ∈ listening ∧ ready device.hd.listenFd then
    match device.httpdAcceptConn with
    | ((true, session), device) => (session, device)
    | ((false, _), device) => (none, device)
  else
    (none, device)

/-- `readData`: the result, and the bytes stored in the buffer. -/
def readData
    (device : Device Os)
    (session : Option SlotId)
    (buflen : Nat) : (Int × List Byte) × Device Os :=
  match session with
  | none => ((0, []), device)
  | some slot =>
      if (device.hd.hdSd slot).handle then
        let ((ret, buf), os) := Platform.recv device.os (device.fd slot) buflen
        let device :=
          { device with os := os }.log (.received slot (device.fd slot) ret)
        if ret < 0 then
          ((-1, []), device.httpdSessDelete slot)
        else
          ((ret, buf), device)
      else
        ((0, []), device)

/-- `writeData`. -/
def writeData
    (device : Device Os)
    (session : Option SlotId)
    (buf : List Byte) : Int × Device Os :=
  match session with
  | none => (0, device)
  | some slot =>
      let device := device.log (.written slot buf)
      if (device.hd.hdSd slot).handle then
        let (ret, os) := Platform.send device.os (device.fd slot) buf
        let device :=
          { device with os := os }.log (.sent slot (device.fd slot) buf ret)
        if ret < 0 then
          (-1, device.httpdSessDelete slot)
        else
          (ret, device)
      else
        (0, device)

/-- `canReadData`. -/
def canReadData
    (device : Device Os)
    (session : Option SlotId) : Bool × Device Os :=
  match session with
  | none => (false, device)
  | some slot =>
      if (device.hd.hdSd slot).handle = false ∨ device.fd slot < 0 then
        (false, device)
      else
        let ((_, ready), os) := Platform.select device.os [device.fd slot]
        (ready (device.fd slot) ||
            Platform.pending os (device.fd slot) ||
            (device.hd.hdSd slot).pendingLen ≠ 0,
          { device with os := os })

end Device

end SimpleTlsBroker
