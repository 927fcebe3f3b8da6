import SimpleTlsBroker.SessionEffects
import SimpleTlsBroker.Library.Holders

namespace SimpleTlsBroker

/-!
# Accepted descriptors and the count of sessions

A ledger next to the platform notes every descriptor that `accept` returns,
every handshake of `config.open_fn` and every descriptor that is closed.  As
long as the handshakes succeed, the session table closes what it accepted once
and counts its open slots; a failed handshake closes its descriptor twice.
-/

open History

/-- What happens to descriptors. -/
inductive FdEvent where
  | accepted (fd : Int)
  | handshake (fd : Int) (succeeded : Bool)
  | closed (fd : Int)
  deriving Repr, DecidableEq

/-- What happened to descriptors, newest first. -/
abbrev FdEvents := List FdEvent

namespace FdEvents

/-- Was a descriptor accepted and not closed since? -/
def isOpen : FdEvents → Int → Bool
  | [], _ => false
  | .accepted found :: earlier, fd => found = fd || isOpen earlier fd
  | .handshake _ _ :: earlier, fd => isOpen earlier fd
  | .closed found :: earlier, fd => found ≠ fd && isOpen earlier fd

/-- `accept` returns no descriptor that is still open. -/
def FreshlyAccepted (events : FdEvents) : Prop :=
  Checked
    (fun event earlier =>
      ∀ fd, event = .accepted fd → isOpen earlier fd = false)
    events

/-- Only open descriptors are closed: once between two times of acceptance. -/
def ClosedOnce (events : FdEvents) : Prop :=
  Checked
    (fun event earlier =>
      ∀ fd, event = .closed fd → isOpen earlier fd = true)
    events

/-- No handshake failed. -/
def HandshakesSucceeded (events : FdEvents) : Prop :=
  ∀ fd, .handshake fd false ∉ events

end FdEvents

/-- A platform with a ledger of descriptors. -/
structure Ledger (Os : Type) where
  events : FdEvents
  rest : Os

namespace Ledger

variable {Os : Type} [Platform Os]

instance : Platform (Ledger Os) where
  millis ledger := Platform.millis ledger.rest
  select ledger fds :=
    let (result, rest) := Platform.select ledger.rest fds
    (result, { ledger with rest := rest })
  pending ledger fd := Platform.pending ledger.rest fd
  recv ledger fd buflen :=
    let (result, rest) := Platform.recv ledger.rest fd buflen
    (result, { ledger with rest := rest })
  send ledger fd bytes :=
    let (ret, rest) := Platform.send ledger.rest fd bytes
    (ret, { ledger with rest := rest })
  accept ledger :=
    let (fd, rest) := Platform.accept ledger.rest
    (fd,
      { events :=
          if fd < 0 then ledger.events else .accepted fd :: ledger.events
        rest := rest })
  openFn ledger fd :=
    let (succeeded, rest) := Platform.openFn ledger.rest fd
    (succeeded,
      { events := .handshake fd succeeded :: ledger.events
        rest := rest })
  closeFn ledger fd :=
    { events := .closed fd :: ledger.events
      rest := Platform.closeFn ledger.rest fd }
  tcpConnected ledger client := Platform.tcpConnected ledger.rest client
  memory ledger offset := Platform.memory ledger.rest offset

/-- The ledger after `accept`. -/
theorem events_accept (ledger : Ledger Os) :
    (Platform.accept ledger).2.events =
      if (Platform.accept ledger).1 < 0 then
        ledger.events
      else
        .accepted (Platform.accept ledger).1 :: ledger.events :=
  rfl

/-- The ledger after a handshake. -/
theorem events_openFn (ledger : Ledger Os) (fd : Int) :
    (Platform.openFn ledger fd).2.events =
      .handshake fd (Platform.openFn ledger fd).1 :: ledger.events :=
  rfl

/-- The ledger after a descriptor was closed. -/
theorem events_closeFn (ledger : Ledger Os) (fd : Int) :
    (Platform.closeFn ledger fd).events = .closed fd :: ledger.events :=
  rfl

end Ledger

namespace HttpdData

/-- Does a slot have a descriptor? -/
def slotOpen (hd : HttpdData) (slot : SlotId) : Bool :=
  0 ≤ (hd.hdSd slot).fd

/-- The number of slots with a descriptor. -/
def openSlots (hd : HttpdData) : Nat :=
  Holders.count (Finset.range hd.maxOpenSockets) hd.slotOpen true

/-- Replacing a slot changes the number by that slot. -/
theorem openSlots_setSlot
    (hd : HttpdData)
    {slot : SlotId}
    (inTable : slot < hd.maxOpenSockets)
    (entry : SockDb) :
    (hd.setSlot slot entry).openSlots +
        (if hd.slotOpen slot = true then 1 else 0) =
      hd.openSlots + if decide (0 ≤ entry.fd) = true then 1 else 0 := by
  have sameSlots :
      (hd.setSlot slot entry).slotOpen =
        Function.update hd.slotOpen slot (decide (0 ≤ entry.fd)) := by
    funext other
    by_cases same : other = slot
    · subst same
      simp [slotOpen, setSlot]
    · simp [slotOpen, setSlot, same]
  unfold openSlots
  rw [sameSlots]
  exact Holders.count_update hd.slotOpen true
    (Finset.mem_range.mpr inTable) (decide (0 ≤ entry.fd))

/-- The same sessions are as many. -/
theorem openSlots_of_same
    {before after : HttpdData}
    (same : Device.SameSessions before after) :
    after.openSlots = before.openSlots := by
  have sameSlots : after.slotOpen = before.slotOpen := by
    funext slot
    unfold slotOpen
    rw [same.fds slot]
  unfold openSlots
  rw [same.sockets, sameSlots]

end HttpdData

namespace Device

open HttpdData

variable {Os : Type} [Platform Os]
variable {device before after : Device (Ledger Os)}

/-- The calls that manage sessions, and time that passes between them. -/
inductive SessionStep :
    Device (Ledger Os) → Device (Ledger Os) → Prop where
  | checkAvail (device : Device (Ledger Os)) :
      SessionStep device device.checkAvail.2
  | delete (device : Device (Ledger Os)) (session : SlotId) :
      SessionStep device (device.httpdSessDelete session)
  | environment (device : Device (Ledger Os)) (rest : Os) :
      SessionStep device
        { device with os := { device.os with rest := rest } }

/-- Any sequence of such calls. -/
abbrev SessionRun :
    Device (Ledger Os) → Device (Ledger Os) → Prop :=
  Relation.ReflTransGen SessionStep

/-- A table after `httpd_create` and `httpd_sess_init`. -/
structure Initialised (device : Device (Ledger Os)) : Prop where
  slots : ∀ slot, device.hd.hdSd slot = HttpdData.initialSlot
  count : device.hd.hdSdActiveCount = 0
  noEvents : device.os.events = []

/-- The count is that of the open slots, and no descriptor is closed twice. -/
structure Accounted (device : Device (Ledger Os)) : Prop where
  counted : device.hd.hdSdActiveCount = device.hd.openSlots
  closedOnce : FdEvents.ClosedOnce device.os.events

/-- The table with a new session. -/
def withSession
    (hd : HttpdData)
    (session : SlotId)
    (newfd : Int) : HttpdData :=
  { hd.setSlot session
      { HttpdData.initialSlot with fd := newfd, handle := true } with
    hdSdActiveCount := hd.hdSdActiveCount + 1 }

/--
What `checkAvail` can do: accept nothing, make a session of a descriptor,
close a descriptor that gets none, or fail at the handshake, which closes the
descriptor twice and counts a session down that was never counted.
-/
inductive Checking
    (before after : Device (Ledger Os)) : Prop where
  | idle
      (same : SameSessions before.hd after.hd)
      (events : after.os.events = before.os.events)
  | refused
      (newfd : Int)
      (hd : after.hd = before.hd)
      (events :
        after.os.events =
          .closed newfd :: .accepted newfd :: before.os.events)
  | opened
      (newfd : Int)
      (session : SlotId)
      (valid : 0 ≤ newfd)
      (free : (before.hd.hdSd session).fd < 0)
      (inTable : session < before.hd.maxOpenSockets)
      (hd : after.hd = withSession before.hd session newfd)
      (events :
        after.os.events =
          .handshake newfd true :: .accepted newfd :: before.os.events)
  | failed
      (newfd : Int)
      (events :
        after.os.events =
          .closed newfd :: .closed newfd :: .handshake newfd false ::
            .accepted newfd :: before.os.events)

omit [Platform Os] in
/-- A call of the platform that leaves the ledger alone came before. -/
theorem Checking.afterOs
    {os : Ledger Os}
    (checking : Checking { before with os := os } after)
    (same : os.events = before.os.events) :
    Checking before after := by
  cases checking with
  | idle sessions events =>
      exact .idle sessions (events.trans same)
  | refused newfd hd events =>
      refine .refused newfd hd ?_
      rw [events, same]
  | opened newfd session valid free inTable hd events =>
      refine .opened newfd session valid free inTable hd ?_
      rw [events, same]
  | failed newfd events =>
      refine .failed newfd ?_
      rw [events, same]

/-- A free slot is a slot of the table. -/
theorem inTable_httpdSessGetFree
    {hd : HttpdData}
    {slot : SlotId}
    (found : hd.httpdSessGetFree = some slot) :
    slot < hd.maxOpenSockets := by
  unfold HttpdData.httpdSessGetFree at found
  split at found
  · contradiction
  · exact List.mem_range.mp (List.mem_of_find?_eq_some found)

/-- Deleting an open session. -/
theorem httpdSessDelete_open
    (device : Device (Ledger Os))
    {session : SlotId}
    (hasHandle : (device.hd.hdSd session).handle = true)
    (isOpen : 0 ≤ device.fd session) :
    device.httpdSessDelete session =
      { os := Platform.closeFn device.os (device.fd session)
        hd :=
          { device.hd.setSlot session
              { device.hd.hdSd session with fd := -1 } with
            hdSdActiveCount := device.hd.hdSdActiveCount - 1
            lruCounter :=
              if device.hd.hdSdActiveCount - 1 = 0 then
                0
              else
                device.hd.lruCounter }
        trace := .deleted session (device.fd session) :: device.trace } := by
  unfold httpdSessDelete
  rw [if_neg (by simp [hasHandle, isOpen])]

/-- Deleting an open session closes its descriptor. -/
theorem events_httpdSessDelete
    (device : Device (Ledger Os))
    {session : SlotId}
    (hasHandle : (device.hd.hdSd session).handle = true)
    (isOpen : 0 ≤ device.fd session) :
    (device.httpdSessDelete session).os.events =
      .closed (device.fd session) :: device.os.events := by
  rw [httpdSessDelete_open device hasHandle isOpen]
  rfl

/-- The three ends of `httpd_sess_new`. -/
theorem httpdSessNew_cases
    (device : Device (Ledger Os))
    {newfd : Int}
    (valid : 0 ≤ newfd) :
    device.httpdSessNew newfd = (none, device) ∨
      (∃ session after,
        device.httpdSessNew newfd = (some session, after) ∧
          (device.hd.hdSd session).fd < 0 ∧
          session < device.hd.maxOpenSockets ∧
          after.hd = withSession device.hd session newfd ∧
          after.os.events = .handshake newfd true :: device.os.events) ∨
      ∃ after,
        device.httpdSessNew newfd = (none, after) ∧
          after.os.events =
            .closed newfd :: .handshake newfd false ::
              device.os.events := by
  unfold httpdSessNew
  split
  · exact .inl rfl
  · split
    · exact .inl rfl
    · rename_i session found
      dsimp only
      right
      split
      · rename_i opened
        refine .inl ⟨session, _, rfl, fd_httpdSessGetFree found,
          inTable_httpdSessGetFree found, rfl, ?_⟩
        dsimp only
        rw [Ledger.events_openFn, opened]
      · rename_i failed
        refine .inr ⟨_, rfl, ?_⟩
        rw [events_httpdSessDelete _ (by simp [HttpdData.setSlot])
          (by simpa [fd, HttpdData.setSlot] using valid)]
        dsimp only
        rw [Ledger.events_openFn, Bool.eq_false_iff.mpr failed]
        simp [fd, HttpdData.setSlot]

/-- What `httpd_accept_conn` does. -/
theorem checking_httpdAcceptConn (device : Device (Ledger Os)) :
    Checking device device.httpdAcceptConn.2 := by
  unfold httpdAcceptConn
  split
  · exact .idle (sameSessions_httpdSessCloseLru device.hd) rfl
  · dsimp only
    split
    · rename_i negative
      refine .idle (.refl _) ?_
      dsimp only
      rw [Ledger.events_accept, if_pos negative]
    · rename_i valid
      have cases :=
        httpdSessNew_cases
          { device with os := (Platform.accept device.os).2 }
          (Int.not_lt.mp valid)
      rcases cases with same | created | failed
      · rw [same]
        refine .refused (Platform.accept device.os).1 rfl ?_
        dsimp only
        rw [Ledger.events_closeFn, Ledger.events_accept, if_neg valid]
      · obtain ⟨session, after, result, free, inTable, hd, events⟩ := created
        rw [result]
        refine .opened _ session (Int.not_lt.mp valid) free inTable hd ?_
        rw [events, Ledger.events_accept, if_neg valid]
      · obtain ⟨after, result, events⟩ := failed
        rw [result]
        refine .failed (Platform.accept device.os).1 ?_
        dsimp only
        rw [Ledger.events_closeFn, events, Ledger.events_accept,
          if_neg valid]

/-- What `checkAvail` does. -/
theorem checking_checkAvail (device : Device (Ledger Os)) :
    Checking device device.checkAvail.2 := by
  unfold checkAvail
  dsimp only
  generalize
    (if device.hd.lruPurgeEnable ∨ device.hd.httpdIsSessAvailable then
      [device.hd.listenFd]
    else
      []) = listening
  split
  · exact .idle (.refl _) rfl
  · split
    · have checking :=
        checking_httpdAcceptConn
          { device with
            os :=
              (Platform.select device.os
                (listening ++ device.hd.descriptors)).2 }
      split
      · rename_i session after result
        rw [result] at checking
        exact checking.afterOs rfl
      · rename_i after result
        rw [result] at checking
        exact checking.afterOs rfl
    · exact .idle (.refl _) rfl

/-! ## The count -/

omit [Platform Os] in
/-- A new session is counted up. -/
theorem counted_withSession
    {hd : HttpdData}
    {session : SlotId}
    {newfd : Int}
    (counted : hd.hdSdActiveCount = hd.openSlots)
    (inTable : session < hd.maxOpenSockets)
    (free : (hd.hdSd session).fd < 0)
    (valid : 0 ≤ newfd) :
    (withSession hd session newfd).hdSdActiveCount =
      (withSession hd session newfd).openSlots := by
  have more :=
    hd.openSlots_setSlot inTable
      { HttpdData.initialSlot with fd := newfd, handle := true }
  have wasFree : ¬ hd.slotOpen session = true := by
    simpa [HttpdData.slotOpen] using free
  rw [if_neg wasFree, if_pos (decide_eq_true valid)] at more
  change hd.hdSdActiveCount + 1 =
    ((hd.setSlot session
      { HttpdData.initialSlot with
        fd := newfd, handle := true }).openSlots : Int)
  omega

/-- A deleted session is counted down. -/
theorem counted_httpdSessDelete
    {session : SlotId}
    (counted : device.hd.hdSdActiveCount = device.hd.openSlots)
    (inTable : session < device.hd.maxOpenSockets)
    (hasHandle : (device.hd.hdSd session).handle = true)
    (isOpen : 0 ≤ device.fd session) :
    (device.httpdSessDelete session).hd.hdSdActiveCount =
      (device.httpdSessDelete session).hd.openSlots := by
  have fewer :=
    device.hd.openSlots_setSlot inTable
      { device.hd.hdSd session with fd := -1 }
  have wasOpen : device.hd.slotOpen session = true := decide_eq_true isOpen
  rw [wasOpen, if_pos rfl, if_neg (by simp)] at fewer
  rw [httpdSessDelete_open device hasHandle isOpen]
  change device.hd.hdSdActiveCount - 1 =
    ((device.hd.setSlot session
      { device.hd.hdSd session with fd := -1 }).openSlots : Int)
  omega

/-! ## The invariant of the calls -/

/--
What the calls preserve: the count is that of the open slots, the open slots
hold different descriptors that are open, and nothing is closed twice.
-/
structure Orderly (device : Device (Ledger Os)) : Prop where
  accounted : Accounted device
  inTable :
    ∀ slot, 0 ≤ device.fd slot →
      slot < device.hd.maxOpenSockets ∧
        (device.hd.hdSd slot).handle = true
  listed :
    ∀ slot, 0 ≤ device.fd slot →
      FdEvents.isOpen device.os.events (device.fd slot) = true
  distinct :
    ∀ slot other, 0 ≤ device.fd slot →
      device.fd other = device.fd slot → other = slot

namespace Orderly

omit [Platform Os] in
/-- The table as it was initialised. -/
theorem start (initialised : Initialised device) : Orderly device where
  accounted := by
    constructor
    · rw [initialised.count]
      unfold HttpdData.openSlots Holders.count
      rw [Finset.card_eq_zero.mpr]
      · rfl
      · apply Finset.filter_eq_empty_iff.mpr
        intro slot _
        simp [HttpdData.slotOpen, initialised.slots, HttpdData.initialSlot]
    · rw [initialised.noEvents]
      exact trivial
  inTable slot isOpen := by
    simp [fd, initialised.slots, HttpdData.initialSlot] at isOpen
  listed slot isOpen := by
    simp [fd, initialised.slots, HttpdData.initialSlot] at isOpen
  distinct slot other isOpen _ := by
    simp [fd, initialised.slots, HttpdData.initialSlot] at isOpen

omit [Platform Os] in
/-- The same sessions and the same events. -/
theorem of_same
    (orderly : Orderly before)
    (same : SameSessions before.hd after.hd)
    (events : after.os.events = before.os.events) :
    Orderly after where
  accounted := by
    constructor
    · rw [same.count, HttpdData.openSlots_of_same same]
      exact orderly.accounted.counted
    · rw [events]
      exact orderly.accounted.closedOnce
  inTable slot isOpen := by
    unfold fd at isOpen
    rw [same.fds slot] at isOpen
    rw [same.sockets, same.handles slot]
    exact orderly.inTable slot isOpen
  listed slot isOpen := by
    unfold fd at isOpen ⊢
    rw [same.fds slot] at isOpen ⊢
    rw [events]
    exact orderly.listed slot isOpen
  distinct slot other isOpen sameFd := by
    unfold fd at isOpen sameFd
    rw [same.fds slot] at isOpen sameFd
    rw [same.fds other] at sameFd
    exact orderly.distinct slot other isOpen sameFd

/-- A deletion. -/
theorem delete
    (orderly : Orderly before)
    (session : SlotId) :
    Orderly (before.httpdSessDelete session) := by
  by_cases shut :
      (before.hd.hdSd session).handle = false ∨ before.fd session < 0
  · have unchanged : before.httpdSessDelete session = before := by
      unfold httpdSessDelete
      rw [if_pos shut]
    rw [unchanged]
    exact orderly
  · have isOpen : 0 ≤ before.fd session := by
      simpa using (not_or.mp shut).2
    obtain ⟨inTable, hasHandle⟩ := orderly.inTable session isOpen
    have after := httpdSessDelete_open before hasHandle isOpen
    have closed : (before.httpdSessDelete session).fd session = -1 := by
      rw [after]
      simp [fd, HttpdData.setSlot]
    have others :
        ∀ slot, 0 ≤ (before.httpdSessDelete session).fd slot →
          slot ≠ session ∧
            (before.httpdSessDelete session).hd.hdSd slot =
              before.hd.hdSd slot := by
      intro slot stillOpen
      have distinct : slot ≠ session := by
        rintro rfl
        omega
      exact ⟨distinct, hdSd_httpdSessDelete_other before distinct⟩
    have sockets :
        (before.httpdSessDelete session).hd.maxOpenSockets =
          before.hd.maxOpenSockets := by
      rw [after]
      rfl
    have events := events_httpdSessDelete before hasHandle isOpen
    constructor
    case accounted =>
      constructor
      · exact counted_httpdSessDelete orderly.accounted.counted inTable
          hasHandle isOpen
      · rw [events]
        refine ⟨?_, orderly.accounted.closedOnce⟩
        rintro closedFd ⟨⟩
        exact orderly.listed session isOpen
    case inTable =>
      intro slot stillOpen
      obtain ⟨_, same⟩ := others slot stillOpen
      unfold fd at stillOpen
      rw [same] at stillOpen ⊢
      rw [sockets]
      exact orderly.inTable slot stillOpen
    case listed =>
      intro slot stillOpen
      obtain ⟨isOther, same⟩ := others slot stillOpen
      unfold fd at stillOpen
      rw [same] at stillOpen
      have listed := orderly.listed slot stillOpen
      have otherFd : before.fd session ≠ before.fd slot := by
        intro sameFd
        exact isOther (orderly.distinct session slot isOpen sameFd.symm)
      rw [events]
      unfold fd at listed otherFd ⊢
      rw [same]
      simp [FdEvents.isOpen, otherFd, listed]
    case distinct =>
      intro slot other stillOpen sameFd
      obtain ⟨isOther, same⟩ := others slot stillOpen
      obtain ⟨_, sameOther⟩ := others other (sameFd ▸ stillOpen)
      unfold fd at stillOpen sameFd
      rw [same] at stillOpen sameFd
      rw [sameOther] at sameFd
      exact orderly.distinct slot other stillOpen sameFd

omit [Platform Os] in
/-- A descriptor that was just accepted is in no slot. -/
theorem not_in_table
    {newfd : Int}
    (orderly : Orderly before)
    (fresh :
      FdEvents.FreshlyAccepted (.accepted newfd :: before.os.events))
    {slot : SlotId}
    (isOpen : 0 ≤ before.fd slot) :
    before.fd slot ≠ newfd := by
  intro sameFd
  have listed := orderly.listed slot isOpen
  rw [sameFd, fresh.1 newfd rfl] at listed
  contradiction

omit [Platform Os] in
/-- A connection without session is closed at once. -/
theorem refuse
    {newfd : Int}
    (orderly : Orderly before)
    (fresh :
      FdEvents.FreshlyAccepted (.accepted newfd :: before.os.events))
    (hd : after.hd = before.hd)
    (events :
      after.os.events =
        .closed newfd :: .accepted newfd :: before.os.events) :
    Orderly after where
  accounted := by
    constructor
    · rw [hd]
      exact orderly.accounted.counted
    · rw [events]
      refine ⟨?_, ?_, orderly.accounted.closedOnce⟩
      · rintro closedFd ⟨⟩
        simp [FdEvents.isOpen]
      · rintro closedFd ⟨⟩
  inTable slot isOpen := by
    unfold fd at isOpen
    rw [hd] at isOpen ⊢
    exact orderly.inTable slot isOpen
  listed slot isOpen := by
    unfold fd at isOpen ⊢
    rw [hd] at isOpen ⊢
    have listed := orderly.listed slot isOpen
    have isOther := orderly.not_in_table fresh isOpen
    unfold fd at listed isOther
    rw [events]
    simp [FdEvents.isOpen, isOther.symm, listed]
  distinct slot other isOpen sameFd := by
    unfold fd at isOpen sameFd
    rw [hd] at isOpen sameFd
    exact orderly.distinct slot other isOpen sameFd

omit [Platform Os] in
/-- A new session. -/
theorem opened
    {newfd : Int}
    {session : SlotId}
    (orderly : Orderly before)
    (fresh :
      FdEvents.FreshlyAccepted (.accepted newfd :: before.os.events))
    (valid : 0 ≤ newfd)
    (free : (before.hd.hdSd session).fd < 0)
    (inTable : session < before.hd.maxOpenSockets)
    (hd : after.hd = withSession before.hd session newfd)
    (events :
      after.os.events =
        .handshake newfd true :: .accepted newfd :: before.os.events) :
    Orderly after := by
  have new :
      after.hd.hdSd session =
        { HttpdData.initialSlot with fd := newfd, handle := true } := by
    rw [hd]
    simp [withSession, HttpdData.setSlot]
  have old :
      ∀ slot ≠ session, after.hd.hdSd slot = before.hd.hdSd slot := by
    intro slot isOther
    rw [hd]
    simp [withSession, HttpdData.setSlot, isOther]
  have newFd : after.fd session = newfd := by
    unfold fd
    rw [new]
  have oldFd : ∀ slot ≠ session, after.fd slot = before.fd slot := by
    intro slot isOther
    unfold fd
    rw [old slot isOther]
  constructor
  case accounted =>
    constructor
    · rw [hd]
      exact counted_withSession orderly.accounted.counted inTable free valid
    · rw [events]
      refine ⟨?_, ?_, orderly.accounted.closedOnce⟩
      · rintro closedFd ⟨⟩
      · rintro closedFd ⟨⟩
  case inTable =>
    intro slot isOpen
    have sockets : after.hd.maxOpenSockets = before.hd.maxOpenSockets := by
      rw [hd]
      rfl
    rw [sockets]
    by_cases same : slot = session
    · subst same
      exact ⟨inTable, by rw [new]⟩
    · unfold fd at isOpen
      rw [old slot same] at isOpen ⊢
      exact orderly.inTable slot isOpen
  case listed =>
    intro slot isOpen
    rw [events]
    by_cases same : slot = session
    · subst same
      rw [newFd]
      simp [FdEvents.isOpen]
    · rw [oldFd slot same] at isOpen ⊢
      have listed := orderly.listed slot isOpen
      simp [FdEvents.isOpen, listed]
  case distinct =>
    -- The new descriptor was closed before, so no slot of the table had it.
    intro slot other isOpen sameFd
    by_cases isNew : slot = session
    · subst isNew
      by_contra otherNew
      rw [newFd] at isOpen sameFd
      rw [oldFd other otherNew] at sameFd
      exact orderly.not_in_table fresh (sameFd ▸ isOpen) sameFd
    · rw [oldFd slot isNew] at isOpen sameFd
      by_cases otherNew : other = session
      · subst otherNew
        rw [newFd] at sameFd
        exact (orderly.not_in_table fresh isOpen sameFd.symm).elim
      · rw [oldFd other otherNew] at sameFd
        exact orderly.distinct slot other isOpen sameFd

end Orderly

/-! ## Runs of the calls -/

/-- The ledger only grows. -/
theorem SessionStep.grown (step : SessionStep before after) :
    Grown (fun _ => True) before.os.events after.os.events := by
  cases step with
  | checkAvail =>
      cases checking_checkAvail before with
      | idle same events =>
          rw [events]
          exact .refl _
      | refused newfd hd events =>
          rw [events]
          exact (Grown.single trivial).cons trivial
      | opened newfd session valid free inTable hd events =>
          rw [events]
          exact (Grown.single trivial).cons trivial
      | failed newfd events =>
          rw [events]
          exact (((Grown.single trivial).cons trivial).cons trivial).cons
            trivial
  | delete session =>
      unfold httpdSessDelete
      split
      · exact .refl _
      · exact .single trivial
  | environment rest => exact .refl _

/-- One call keeps order, unless its handshake fails. -/
theorem Orderly.step
    (orderly : Orderly before)
    (step : SessionStep before after)
    (fresh : FdEvents.FreshlyAccepted after.os.events)
    (succeeded : FdEvents.HandshakesSucceeded after.os.events) :
    Orderly after := by
  cases step with
  | checkAvail =>
      cases checking_checkAvail before with
      | idle same events => exact orderly.of_same same events
      | refused newfd hd events =>
          rw [events] at fresh
          exact orderly.refuse fresh.2 hd events
      | opened newfd session valid free inTable hd events =>
          rw [events] at fresh
          exact orderly.opened fresh.2 valid free inTable hd events
      | failed newfd events =>
          rw [events] at succeeded
          exact (succeeded newfd (by simp)).elim
  | delete session => exact orderly.delete session
  | environment rest => exact orderly.of_same (.refl _) rfl

/-- Runs keep order, unless a handshake fails. -/
theorem Orderly.run
    (run : SessionRun before after)
    (orderly : Orderly before)
    (fresh : FdEvents.FreshlyAccepted after.os.events)
    (succeeded : FdEvents.HandshakesSucceeded after.os.events) :
    Orderly after := by
  induction run with
  | refl => exact orderly
  | tail _ last inductionHypothesis =>
      have grown := last.grown
      apply Orderly.step _ last fresh succeeded
      apply inductionHypothesis (fresh.shrink grown)
      exact fun fd failed => succeeded fd (grown.mem failed)

/-- A failed handshake closes a descriptor that is closed. -/
theorem SessionStep.succeeded
    (step : SessionStep before after)
    (succeeded : FdEvents.HandshakesSucceeded before.os.events)
    (closedOnce : FdEvents.ClosedOnce after.os.events) :
    FdEvents.HandshakesSucceeded after.os.events := by
  intro failedFd failed
  cases step with
  | checkAvail =>
      cases checking_checkAvail before with
      | idle same events =>
          rw [events] at failed
          exact succeeded failedFd failed
      | refused newfd hd events =>
          rw [events] at failed
          exact succeeded failedFd (by simpa using failed)
      | opened newfd session valid free inTable hd events =>
          rw [events] at failed
          exact succeeded failedFd (by simpa using failed)
      | failed newfd events =>
          rw [events] at closedOnce
          have stillOpen := closedOnce.1 newfd rfl
          simp [FdEvents.isOpen] at stillOpen
  | delete session =>
      unfold httpdSessDelete at failed
      split at failed
      · exact succeeded failedFd failed
      · dsimp only at failed
        rw [Ledger.events_closeFn] at failed
        exact succeeded failedFd (by simpa using failed)
  | environment rest => exact succeeded failedFd failed

/-- If nothing was closed twice, no handshake failed. -/
theorem succeeded_of_closedOnce
    (run : SessionRun before after)
    (succeeded : FdEvents.HandshakesSucceeded before.os.events)
    (closedOnce : FdEvents.ClosedOnce after.os.events) :
    FdEvents.HandshakesSucceeded after.os.events := by
  induction run with
  | refl => exact succeeded
  | tail _ last inductionHypothesis =>
      apply last.succeeded _ closedOnce
      exact inductionHypothesis (closedOnce.shrink last.grown)

/--
After any calls on an initialised table, the count is that of the open slots
and no descriptor was closed twice, if and only if every handshake succeeded.
-/
theorem accounted_iff_handshakes_succeeded
    (initialised : Initialised before)
    (run : SessionRun before after)
    (fresh : FdEvents.FreshlyAccepted after.os.events) :
    Accounted after ↔ FdEvents.HandshakesSucceeded after.os.events := by
  constructor
  · intro accounted
    apply succeeded_of_closedOnce run _ accounted.closedOnce
    intro fd failed
    rw [initialised.noEvents] at failed
    contradiction
  · intro succeeded
    have start := Orderly.start initialised
    exact (start.run run fresh succeeded).accounted

end Device

/-! ## One handshake -/

/-- Connections that wait, each with the outcome of its handshake. -/
structure Listener where
  connections : List (Int × Bool)

namespace Listener

instance : Platform Listener where
  millis _ := 0
  select listener _ := ((1, fun _ => !listener.connections.isEmpty), listener)
  pending _ _ := false
  recv listener _ _ := ((-1, []), listener)
  send listener _ bytes := (bytes.length, listener)
  accept listener :=
    match listener.connections with
    | [] => (-1, listener)
    | (fd, _) :: _ => (fd, listener)
  openFn listener _ :=
    match listener.connections with
    | [] => (false, listener)
    | (_, succeeded) :: rest => (succeeded, { connections := rest })
  closeFn listener _ := listener
  tcpConnected _ _ := false
  memory _ _ := 0

/-- An initialised table of four slots, and the connections that wait. -/
def setup (connections : List (Int × Bool)) : Device (Ledger Listener) where
  os := { events := [], rest := { connections := connections } }
  hd :=
    { maxOpenSockets := 4
      lruPurgeEnable := false
      listenFd := 0
      hdSd := fun _ => HttpdData.initialSlot
      hdSdActiveCount := 0
      lruCounter := 0 }
  trace := []

/-- The table is initialised. -/
theorem initialised_setup (connections : List (Int × Bool)) :
    (setup connections).Initialised :=
  ⟨fun _ => rfl, rfl, rfl⟩

/-- A session that is opened and deleted is accounted for. -/
theorem accounted_session :
    ((setup [(5, true)]).checkAvail.2.httpdSessDelete 0).Accounted := by
  have events :
      ((setup [(5, true)]).checkAvail.2.httpdSessDelete 0).os.events =
        [.closed 5, .handshake 5 true, .accepted 5] := by
    decide
  have run :
      Device.SessionRun (setup [(5, true)])
        ((setup [(5, true)]).checkAvail.2.httpdSessDelete 0) :=
    (Relation.ReflTransGen.single (.checkAvail _)).tail (.delete _ 0)
  refine
    (Device.accounted_iff_handshakes_succeeded
      (initialised_setup [(5, true)]) run ?_).mpr ?_
  · rw [events]
    refine ⟨?_, ?_, ?_, trivial⟩
    · rintro fd ⟨⟩
    · rintro fd ⟨⟩
    · rintro fd ⟨⟩
      rfl
  · rw [events]
    simp [FdEvents.HandshakesSucceeded]

/-- A failed handshake: -1 sessions, and its descriptor is closed twice. -/
theorem failed_handshake_not_accounted :
    Device.SessionRun (setup [(5, false)])
        (setup [(5, false)]).checkAvail.2 ∧
      (setup [(5, false)]).checkAvail.2.os.events =
        [.closed 5, .closed 5, .handshake 5 false, .accepted 5] ∧
      (setup [(5, false)]).checkAvail.2.hd.hdSdActiveCount = -1 ∧
      (setup [(5, false)]).checkAvail.2.hd.openSlots = 0 ∧
      ¬ (setup [(5, false)]).checkAvail.2.Accounted := by
  have count :
      (setup [(5, false)]).checkAvail.2.hd.hdSdActiveCount = -1 := by
    decide
  have openSlots : (setup [(5, false)]).checkAvail.2.hd.openSlots = 0 := by
    decide
  refine ⟨.single (.checkAvail _), by decide, count, openSlots, ?_⟩
  intro accounted
  have counted := accounted.counted
  rw [count, openSlots] at counted
  contradiction

end Listener

end SimpleTlsBroker
