import SimpleTlsBroker.SessionEffects
import SimpleTlsBroker.Scripts

namespace SimpleTlsBroker

/-!
# Purging the least recently used session

With `lru_purge_enable`, a connection that waits at a full session table makes
`httpd_accept_conn` mark the least recently used session and hand its closure
to `httpd_queue_work`.  That function drops the work, so the table stays full.
-/

open History

namespace HttpdData

variable {hd before after : HttpdData}

/-- Every slot of the table is in use. -/
def Full (hd : HttpdData) : Prop :=
  ∀ slot ∈ hd.slots, 0 ≤ (hd.hdSd slot).fd

instance (hd : HttpdData) : Decidable hd.Full :=
  inferInstanceAs (Decidable (∀ slot ∈ hd.slots, 0 ≤ (hd.hdSd slot).fd))

/-- One session was closed, and it had a lowest counter. -/
def ClosedLru (before after : HttpdData) : Prop :=
  ∃ slot ∈ before.slots,
    (∀ other ∈ before.slots,
      (before.hdSd slot).lruCounter ≤ (before.hdSd other).lruCounter) ∧
    (after.hdSd slot).fd < 0 ∧
    ∀ other ∈ before.slots, other ≠ slot →
      (after.hdSd other).fd = (before.hdSd other).fd

/-- A table with the same sessions is as full. -/
theorem Full.of_same
    (full : before.Full)
    (still : Device.SameSessions before after) :
    after.Full := by
  intro slot member
  rw [still.fds slot]
  apply full slot
  unfold slots at member ⊢
  rw [← still.sockets]
  exact member

/-- A full table has no free slot, whatever its counter says. -/
theorem Full.not_available (full : hd.Full) :
    hd.httpdIsSessAvailable = false := by
  have none : hd.httpdSessGetFree = none := by
    unfold httpdSessGetFree
    split
    · rfl
    · apply List.find?_eq_none.mpr
      intro slot member free
      have used := full slot member
      have negative := of_decide_eq_true free
      omega
  unfold httpdIsSessAvailable
  rw [none]
  rfl

/-- In a full table no session was closed. -/
theorem Full.not_closedLru
    (full : before.Full)
    (still : Device.SameSessions before after) :
    ¬ ClosedLru before after := by
  rintro ⟨slot, member, _, closed, _⟩
  have used := full slot member
  rw [still.fds slot] at closed
  omega

end HttpdData

namespace Device

open HttpdData

variable {Os : Type} [Platform Os]
variable {device before after : Device Os}

/-- The same table, at a later state of the platform. -/
def later (device : Device Os) (os : Os) : Device Os :=
  { device with os := os }

/-- `select` reports a connection on the listening socket. -/
def Waiting (device : Device Os) : Prop :=
  let result :=
    (Platform.select device.os
      (device.hd.listenFd :: device.hd.descriptors)).1
  0 < result.1 ∧ result.2 device.hd.listenFd = true

instance (device : Device Os) : Decidable device.Waiting :=
  inferInstanceAs
    (Decidable
      (0 < (Platform.select device.os
          (device.hd.listenFd :: device.hd.descriptors)).1.1 ∧
        (Platform.select device.os
          (device.hd.listenFd :: device.hd.descriptors)).1.2
            device.hd.listenFd = true))

/-- A connection waits, and `accept` and `open_fn` will succeed with it. -/
def WaitingToSucceed (device : Device Os) : Prop :=
  let os :=
    (Platform.select device.os
      (device.hd.listenFd :: device.hd.descriptors)).2
  device.Waiting ∧ 0 ≤ (Platform.accept os).1 ∧
    (Platform.openFn (Platform.accept os).2 (Platform.accept os).1).1 = true

instance (device : Device Os) : Decidable device.WaitingToSucceed :=
  inferInstanceAs (Decidable (device.Waiting ∧ _ ∧ _))

/--
The purge makes room: by the next call one least recently used session is
closed, and that call returns a session for the connection that still waits.
-/
def MakesRoom (device : Device Os) : Prop :=
  ClosedLru device.hd device.checkAvail.2.hd ∧
    ∀ os,
      (device.checkAvail.2.later os).WaitingToSucceed →
        ∃ slot, (device.checkAvail.2.later os).checkAvail.1 = some slot

/-- One more call of `checkAvail`, after time has passed. -/
def Call (before after : Device Os) : Prop :=
  ∃ os, after = (before.later os).checkAvail.2

/-- With a full table `httpd_accept_conn` accepts nothing. -/
theorem httpdAcceptConn_of_full
    (device : Device Os)
    (purges : device.hd.lruPurgeEnable = true)
    (full : device.hd.Full) :
    device.httpdAcceptConn.1.2 = none ∧
      SameSessions device.hd device.httpdAcceptConn.2.hd := by
  unfold httpdAcceptConn
  rw [if_pos ⟨purges, by simp [full.not_available]⟩]
  exact ⟨rfl, sameSessions_httpdSessCloseLru device.hd⟩

/-- With a full table `checkAvail` returns no session and closes none. -/
theorem checkAvail_of_full
    (device : Device Os)
    (purges : device.hd.lruPurgeEnable = true)
    (full : device.hd.Full) :
    device.checkAvail.1 = none ∧
      SameSessions device.hd device.checkAvail.2.hd := by
  unfold checkAvail
  dsimp only
  generalize
    (if device.hd.lruPurgeEnable ∨ device.hd.httpdIsSessAvailable then
      [device.hd.listenFd]
    else
      []) = listening
  split
  · exact ⟨rfl, .refl _⟩
  · split
    · have refused :=
        httpdAcceptConn_of_full
          { device with
            os :=
              (Platform.select device.os
                (listening ++ device.hd.descriptors)).2 }
          purges full
      split
      · rename_i session after result
        rw [result] at refused
        exact refused
      · rename_i after result
        rw [result] at refused
        exact ⟨rfl, refused.2⟩
    · exact ⟨rfl, .refl _⟩

/-- However often it is called. -/
theorem sameSessions_of_calls
    (purges : before.hd.lruPurgeEnable = true)
    (full : before.hd.Full)
    (calls : Relation.ReflTransGen Call before after) :
    SameSessions before.hd after.hd := by
  induction calls with
  | refl => exact .refl _
  | @tail middle after _ last inductionHypothesis =>
      obtain ⟨os, rfl⟩ := last
      have refused :=
        checkAvail_of_full (middle.later os)
          (inductionHypothesis.purge.trans purges)
          (full.of_same inductionHypothesis)
      exact inductionHypothesis.trans refused.2

/--
A full table with `lru_purge_enable` stays as it is: the purge closes no
session, and no call of `checkAvail` returns one.
-/
theorem full_table_never_purged
    (purges : device.hd.lruPurgeEnable = true)
    (full : device.hd.Full) :
    ¬ device.MakesRoom ∧
      ∀ later, Relation.ReflTransGen Call device later →
        later.checkAvail.1 = none ∧
          ∀ slot, later.fd slot = device.fd slot := by
  have first := checkAvail_of_full device purges full
  refine ⟨fun makesRoom => full.not_closedLru first.2 makesRoom.1, ?_⟩
  intro later calls
  have still := sameSessions_of_calls purges full calls
  exact
    ⟨(checkAvail_of_full later
        (still.purge.trans purges) (full.of_same still)).1,
      still.fds⟩

/-- Two sessions with different counters fill a table. -/
def busy : Device Script where
  os :=
    { clock := 0
      connections := [9]
      receipts := []
      sendResults := [] }
  hd :=
    { Script.table with
      maxOpenSockets := 2
      lruPurgeEnable := true
      hdSd := fun slot =>
        { HttpdData.initialSlot with
          fd := 7 + slot
          handle := true
          lruCounter := 2 - slot }
      hdSdActiveCount := 2
      lruCounter := 2 }
  trace := []

/-- A third connection waits at that table, also after the next call. -/
theorem busy_never_purged :
    ¬ busy.MakesRoom ∧
      (busy.later busy.os).checkAvail.2.checkAvail.1 = none := by
  have full : busy.hd.Full := by decide
  obtain ⟨noRoom, never⟩ := full_table_never_purged rfl full
  exact ⟨noRoom, (never _ (.single ⟨busy.os, rfl⟩)).1⟩

/-- The purge closes nothing although a connection waits at a full table. -/
theorem busy_not_purged :
    busy.hd.lruPurgeEnable = true ∧ busy.hd.Full ∧ busy.Waiting ∧
      (busy.checkAvail.2.later busy.os).WaitingToSucceed ∧
      ¬ ClosedLru busy.hd busy.checkAvail.2.hd ∧
      (busy.checkAvail.2.later busy.os).checkAvail.1 = none := by
  have full : busy.hd.Full := by decide
  have still : SameSessions busy.hd busy.checkAvail.2.hd :=
    (checkAvail_of_full busy rfl full).2
  exact ⟨rfl, full, by decide, by decide, full.not_closedLru still, by decide⟩

end Device

end SimpleTlsBroker
