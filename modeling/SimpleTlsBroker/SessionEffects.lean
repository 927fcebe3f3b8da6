import SimpleTlsBroker.Sessions
import SimpleTlsBroker.Library.History

namespace SimpleTlsBroker

/-!
# What the session operations do

One statement for each operation: what it leaves in the session table, and
which events it records.  A failed transfer is visible in the trace, so a trace
without failures means an unchanged table.
-/

open History

namespace Event

/-- Events of the calls that work on one session. -/
def OnSession (slot : SlotId) (fd : Int) : Event → Prop
  | .received other found _ => other = slot ∧ found = fd
  | .written other _ => other = slot
  | .sent other found _ _ => other = slot ∧ found = fd
  | .deleted other found => other = slot ∧ found = fd
  | _ => False

/-- The deletion of a session. -/
def IsDeletion : Event → Prop
  | .deleted _ _ => True
  | _ => False

end Event

/-- A trace without failures had none before. -/
theorem Trace.TransportOk.shrink
    {allowed : Event → Prop}
    {earlier later : Trace}
    (transportOk : TransportOk later)
    (grown : Grown allowed earlier later) :
    TransportOk earlier := fun event member =>
  transportOk event (grown.mem member)

/-- Some sessions of a table may have been deleted, and none were made. -/
def SlotsShrunk (before after : HttpdData) : Prop :=
  ∀ slot,
    after.hdSd slot = before.hdSd slot ∨
      after.hdSd slot = { before.hdSd slot with fd := -1 }

namespace SlotsShrunk

theorem refl (hd : HttpdData) : SlotsShrunk hd hd :=
  fun _ => .inl rfl

theorem trans
    {before middle after : HttpdData}
    (first : SlotsShrunk before middle)
    (second : SlotsShrunk middle after) :
    SlotsShrunk before after := by
  intro slot
  rcases second slot with same | closed
  · rw [same]
    exact first slot
  · right
    rw [closed]
    rcases first slot with same | closedBefore
    · rw [same]
    · rw [closedBefore]

end SlotsShrunk

namespace Device

variable {Os : Type} [Platform Os]

/-! ## `httpd_sess_delete` -/

@[simp] theorem hdSd_httpdSessDelete_other
    (device : Device Os)
    {session slot : SlotId}
    (distinct : slot ≠ session) :
    (device.httpdSessDelete session).hd.hdSd slot =
      device.hd.hdSd slot := by
  unfold httpdSessDelete
  split
  · rfl
  · simp [HttpdData.setSlot, distinct]

/-- A session that was open, or was deleted before, has no descriptor. -/
theorem fd_httpdSessDelete
    {device : Device Os}
    {session : SlotId}
    (handle : (device.hd.hdSd session).handle = true)
    (valid : 0 ≤ device.fd session ∨ device.fd session = -1) :
    (device.httpdSessDelete session).fd session = -1 := by
  unfold httpdSessDelete
  split
  · rename_i left
    rcases valid with isOpen | deleted
    · rcases left with noHandle | isClosed
      · rw [handle] at noHandle
        contradiction
      · omega
    · exact deleted
  · simp [fd, HttpdData.setSlot]

/-- Only the descriptor of a slot is changed. -/
theorem hdSd_httpdSessDelete
    (device : Device Os)
    (session slot : SlotId) :
    (device.httpdSessDelete session).hd.hdSd slot =
        device.hd.hdSd slot ∨
      (device.httpdSessDelete session).hd.hdSd slot =
        { device.hd.hdSd slot with fd := -1 } := by
  unfold httpdSessDelete
  split
  · exact .inl rfl
  · by_cases same : slot = session
    · subst same
      exact .inr (by simp [HttpdData.setSlot])
    · exact .inl (by simp [HttpdData.setSlot, same])

/-- Afterwards the session has no handle or no descriptor. -/
theorem shut_httpdSessDelete
    (device : Device Os)
    (session : SlotId) :
    ((device.httpdSessDelete session).hd.hdSd session).handle = false ∨
      (device.httpdSessDelete session).fd session < 0 := by
  unfold httpdSessDelete
  split
  · assumption
  · right
    simp [fd, HttpdData.setSlot]

/-- A deletion is recorded, and nothing else. -/
theorem trace_httpdSessDelete
    (device : Device Os)
    (session : SlotId) :
    Grown (fun event => event = .deleted session (device.fd session))
      device.trace (device.httpdSessDelete session).trace := by
  unfold httpdSessDelete
  split
  · exact .refl _
  · exact .single rfl

/-! ## Transfers -/

@[simp] theorem hdSd_writeData_other
    (device : Device Os)
    {session slot : SlotId}
    (distinct : slot ≠ session)
    (buf : List Byte) :
    (device.writeData (some session) buf).2.hd.hdSd slot =
      device.hd.hdSd slot := by
  unfold writeData
  dsimp only
  split
  · split
    · rw [hdSd_httpdSessDelete_other _ distinct]
      rfl
    · rfl
  · rfl

/-- `writeData` records events of its session only. -/
theorem trace_writeData
    (device : Device Os)
    (session : SlotId)
    (buf : List Byte) :
    Grown (Event.OnSession session (device.fd session))
      device.trace (device.writeData (some session) buf).2.trace := by
  have written :
      Grown (Event.OnSession session (device.fd session)) device.trace
        (.written session buf :: device.trace) := .single rfl
  unfold writeData
  dsimp only
  split
  · split
    · refine (written.cons ⟨rfl, rfl⟩).trans
        ((trace_httpdSessDelete _ session).weaken ?_)
      rintro event rfl
      exact ⟨rfl, rfl⟩
    · exact written.cons ⟨rfl, rfl⟩
  · exact written

/-- A write that does not fail leaves the session table alone. -/
theorem hd_writeData
    (device : Device Os)
    (session : SlotId)
    (buf : List Byte)
    (transportOk :
      Trace.TransportOk (device.writeData (some session) buf).2.trace) :
    (device.writeData (some session) buf).2.hd = device.hd := by
  revert transportOk
  unfold writeData
  dsimp only
  split
  · split
    · rename_i failed
      intro transportOk
      have sent := transportOk.shrink (trace_httpdSessDelete _ session)
      have positive := sent _ List.mem_cons_self _ rfl
      omega
    · exact fun _ => rfl
  · exact fun _ => rfl

/-- `readData` records events of its session only. -/
theorem trace_readData
    (device : Device Os)
    (session : SlotId)
    (buflen : Nat) :
    Grown (Event.OnSession session (device.fd session))
      device.trace (device.readData (some session) buflen).2.trace := by
  unfold readData
  dsimp only
  split
  · split
    · refine (Grown.single ⟨rfl, rfl⟩).trans
        ((trace_httpdSessDelete _ session).weaken ?_)
      rintro event rfl
      exact ⟨rfl, rfl⟩
    · exact .single ⟨rfl, rfl⟩
  · exact .refl _

/-- `readData` deletes its own session at most. -/
theorem slotsShrunk_readData
    (device : Device Os)
    (session : SlotId)
    (buflen : Nat) :
    SlotsShrunk device.hd (device.readData (some session) buflen).2.hd := by
  unfold readData
  dsimp only
  split
  · split
    · exact hdSd_httpdSessDelete _ session
    · exact .refl _
  · exact .refl _

/-- A read that does not fail leaves the session table alone. -/
theorem hd_readData
    (device : Device Os)
    (session : SlotId)
    (buflen : Nat)
    (transportOk :
      Trace.TransportOk (device.readData (some session) buflen).2.trace) :
    (device.readData (some session) buflen).2.hd = device.hd := by
  revert transportOk
  unfold readData
  dsimp only
  split
  · split
    · rename_i failed
      intro transportOk
      have received := transportOk.shrink (trace_httpdSessDelete _ session)
      have positive := received _ List.mem_cons_self _ rfl
      omega
    · exact fun _ => rfl
  · exact fun _ => rfl

/-- A failed read leaves a negative result in the trace. -/
theorem not_transportOk_readData
    (device : Device Os)
    (session : SlotId)
    (buflen : Nat)
    (failed : (device.readData (some session) buflen).1.1 < 0) :
    ¬ Trace.TransportOk (device.readData (some session) buflen).2.trace := by
  revert failed
  unfold readData
  dsimp only
  split
  · split
    · rename_i negative
      intro _ transportOk
      have received := transportOk.shrink (trace_httpdSessDelete _ session)
      have positive := received _ List.mem_cons_self _ rfl
      omega
    · intro failed
      contradiction
  · simp

/-! ## Accepting -/

/-- The search for a free slot finds one without descriptor. -/
theorem fd_httpdSessGetFree
    {hd : HttpdData}
    {slot : SlotId}
    (found : hd.httpdSessGetFree = some slot) :
    (hd.hdSd slot).fd < 0 := by
  unfold HttpdData.httpdSessGetFree at found
  split at found
  · simp at found
  · simpa using List.find?_some found

/-- Open sessions of a table are open in another with the same handle. -/
def SessionsKept (before after : HttpdData) : Prop :=
  ∀ slot, 0 ≤ (before.hdSd slot).fd →
    (after.hdSd slot).fd = (before.hdSd slot).fd ∧
      (after.hdSd slot).handle = (before.hdSd slot).handle

theorem SessionsKept.refl (hd : HttpdData) : SessionsKept hd hd :=
  fun _ _ => ⟨rfl, rfl⟩

/-- Two tables with the same options, sessions and count of sessions. -/
structure SameSessions (before after : HttpdData) : Prop where
  sockets : after.maxOpenSockets = before.maxOpenSockets
  purge : after.lruPurgeEnable = before.lruPurgeEnable
  count : after.hdSdActiveCount = before.hdSdActiveCount
  fds : ∀ slot, (after.hdSd slot).fd = (before.hdSd slot).fd
  handles : ∀ slot, (after.hdSd slot).handle = (before.hdSd slot).handle

theorem SameSessions.refl (hd : HttpdData) : SameSessions hd hd :=
  ⟨rfl, rfl, rfl, fun _ => rfl, fun _ => rfl⟩

theorem SameSessions.trans
    {before middle after : HttpdData}
    (first : SameSessions before middle)
    (second : SameSessions middle after) :
    SameSessions before after where
  sockets := second.sockets.trans first.sockets
  purge := second.purge.trans first.purge
  count := second.count.trans first.count
  fds slot := (second.fds slot).trans (first.fds slot)
  handles slot := (second.handles slot).trans (first.handles slot)

/-- Marking the least recently used session changes no session. -/
theorem sameSessions_httpdSessCloseLru (hd : HttpdData) :
    SameSessions hd hd.httpdSessCloseLru.2 := by
  unfold HttpdData.httpdSessCloseLru
  split
  · exact .refl hd
  · rename_i marked _
    refine ⟨rfl, rfl, rfl, ?_, ?_⟩
    · intro slot
      by_cases same : slot = marked
      · subst same
        simp [HttpdData.httpdQueueWork, HttpdData.setSlot]
      · simp [HttpdData.httpdQueueWork, HttpdData.setSlot, same]
    · intro slot
      by_cases same : slot = marked
      · subst same
        simp [HttpdData.httpdQueueWork, HttpdData.setSlot]
      · simp [HttpdData.httpdQueueWork, HttpdData.setSlot, same]

/-- Marking the least recently used session keeps all sessions. -/
theorem sessionsKept_httpdSessCloseLru (hd : HttpdData) :
    SessionsKept hd hd.httpdSessCloseLru.2 := by
  intro slot _
  have same := sameSessions_httpdSessCloseLru hd
  exact ⟨same.fds slot, same.handles slot⟩

/-- The outcome of an attempt to set up a new session. -/
structure Acceptance
    (before : Device Os)
    (session : Option SlotId)
    (after : Device Os) : Prop where
  kept : SessionsKept before.hd after.hd
  fresh : ∀ slot, session = some slot →
    before.fd slot < 0 ∧
      0 ≤ after.fd slot ∧
        (after.hd.hdSd slot).handle = true
  shut : ∀ slot, before.fd slot = -1 →
    session = some slot ∨ after.fd slot = -1
  pending : (∀ slot, (before.hd.hdSd slot).pendingLen = 0) →
    ∀ slot, (after.hd.hdSd slot).pendingLen = 0
  trace : Grown Event.IsDeletion before.trace after.trace

omit [Platform Os] in
/-- The operating system may change at any time. -/
theorem Acceptance.afterOs
    {device after : Device Os}
    {session : Option SlotId}
    (os : Os)
    (accepted : Acceptance { device with os := os } session after) :
    Acceptance device session after :=
  ⟨accepted.kept, accepted.fresh, accepted.shut, accepted.pending,
    accepted.trace⟩

omit [Platform Os] in
/-- Without a session only the operating system has changed. -/
theorem Acceptance.refused
    (device : Device Os)
    (os : Os) :
    Acceptance device none { device with os := os } where
  kept := .refl _
  fresh := by simp
  shut _ := .inr
  pending := id
  trace := .refl _

/-- Taking a free slot keeps the open sessions. -/
theorem sessionsKept_setSlot
    {hd : HttpdData}
    {session : SlotId}
    (free : (hd.hdSd session).fd < 0)
    (entry : SockDb) :
    SessionsKept hd (hd.setSlot session entry) := by
  intro slot isOpen
  have distinct : slot ≠ session := by
    rintro rfl
    omega
  simp [HttpdData.setSlot, distinct]

/-- `httpd_sess_new` on a descriptor. -/
theorem acceptance_httpdSessNew
    (device : Device Os)
    {newfd : Int}
    (valid : 0 ≤ newfd) :
    Acceptance device (device.httpdSessNew newfd).1
      (device.httpdSessNew newfd).2 := by
  unfold httpdSessNew
  split
  · exact .refused device device.os
  · split
    · exact .refused device device.os
    · rename_i session found
      have free : (device.hd.hdSd session).fd < 0 :=
        fd_httpdSessGetFree found
      dsimp only
      split
      · refine ⟨sessionsKept_setSlot free _, ?_, ?_, ?_, .refl _⟩
        · rintro slot ⟨⟩
          exact ⟨free, by simpa [fd, HttpdData.setSlot] using valid,
            by simp [HttpdData.setSlot]⟩
        · intro slot isShut
          by_cases same : slot = session
          · exact .inl (same ▸ rfl)
          · exact .inr (by simpa [fd, HttpdData.setSlot, same] using isShut)
        · intro nonePending slot
          by_cases same : slot = session
          · subst same
            simp [HttpdData.setSlot, HttpdData.initialSlot]
          · simpa [HttpdData.setSlot, same] using nonePending slot
      · refine ⟨?_, by simp, ?_, ?_, ?_⟩
        · intro slot isOpen
          have distinct : slot ≠ session := by
            rintro rfl
            omega
          rw [hdSd_httpdSessDelete_other _ distinct]
          exact sessionsKept_setSlot free _ slot isOpen
        · intro slot isShut
          right
          by_cases same : slot = session
          · subst same
            refine fd_httpdSessDelete ?_ (.inl ?_)
            · simp [HttpdData.setSlot]
            · simpa [fd, HttpdData.setSlot] using valid
          · rw [fd, hdSd_httpdSessDelete_other _ same]
            simpa [fd, HttpdData.setSlot, same] using isShut
        · intro nonePending slot
          by_cases same : slot = session
          · subst same
            rcases hdSd_httpdSessDelete (_ : Device Os) slot slot with
              kept | closed
            · rw [kept]
              simp [HttpdData.setSlot, HttpdData.initialSlot]
            · rw [closed]
              simp [HttpdData.setSlot, HttpdData.initialSlot]
          · rw [hdSd_httpdSessDelete_other _ same]
            simpa [HttpdData.setSlot, same] using nonePending slot
        · refine (trace_httpdSessDelete _ session).weaken ?_
          rintro event rfl
          exact trivial

/-- `httpd_accept_conn`: a session only counts when it succeeded. -/
theorem acceptance_httpdAcceptConn (device : Device Os) :
    Acceptance device
      (if device.httpdAcceptConn.1.1 then
        device.httpdAcceptConn.1.2
      else
        none)
      device.httpdAcceptConn.2 := by
  unfold httpdAcceptConn
  split
  · refine ⟨sessionsKept_httpdSessCloseLru _, by simp, ?_, ?_, .refl _⟩
    · intro slot isShut
      exact .inr (((sameSessions_httpdSessCloseLru _).fds slot).trans isShut)
    intro nonePending slot
    dsimp only
    unfold HttpdData.httpdSessCloseLru
    split
    · exact nonePending slot
    · rename_i marked _
      by_cases same : slot = marked
      · subst same
        simpa [HttpdData.httpdQueueWork, HttpdData.setSlot] using
          nonePending slot
      · simpa [HttpdData.httpdQueueWork, HttpdData.setSlot, same] using
          nonePending slot
  · dsimp only
    split
    · exact .refused _ _
    · rename_i valid
      have created :=
        acceptance_httpdSessNew
          { device with os := (Platform.accept device.os).2 }
          (Int.not_lt.mp valid)
      split
      · rename_i session after result
        rw [result] at created
        exact created.afterOs _
      · rename_i after result
        rw [result] at created
        refine ⟨created.kept, by simp, ?_, created.pending, created.trace⟩
        intro slot isShut
        exact .inr ((created.shut slot isShut).resolve_left (by simp))

/-- `checkAvail` finds at most a fresh session. -/
theorem acceptance_checkAvail (device : Device Os) :
    Acceptance device device.checkAvail.1 device.checkAvail.2 := by
  unfold checkAvail
  dsimp only
  generalize
    (if device.hd.lruPurgeEnable ∨ device.hd.httpdIsSessAvailable then
      [device.hd.listenFd]
    else
      []) = listening
  split
  · exact .refused _ _
  · split
    · have accepted :=
        acceptance_httpdAcceptConn
          { device with
            os :=
              (Platform.select device.os
                (listening ++ device.hd.descriptors)).2 }
      split
      · rename_i session after result
        rw [result] at accepted
        exact accepted.afterOs _
      · rename_i after result
        rw [result] at accepted
        exact accepted.afterOs _
    · exact .refused _ _

end Device

end SimpleTlsBroker
