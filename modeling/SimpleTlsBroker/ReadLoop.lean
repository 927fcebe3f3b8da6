import SimpleTlsBroker.Reception
import SimpleTlsBroker.Library.Polling

namespace SimpleTlsBroker

/-!
# The read loop

The read loop of a client polls its session until there is nothing to read.
A round of it takes at most one byte in, and none at all once the session is
shut.
-/

open History

namespace World

variable {Index Os : Type} [Platform Os]
variable {before middle after world : World Index Os}
variable {client other : ClientId}

/-- The session of a client, if it has one, cannot be read from. -/
def Shut
    (world : World Index Os)
    (client : ClientId) : Prop :=
  ∀ slot, (world.clients client).connection = some slot →
    (world.device.hd.hdSd slot).handle = false ∨ world.device.fd slot < 0

/-- A client with a session that can be read from. -/
structure ReadsFrom
    (world : World Index Os)
    (client : ClientId)
    (slot : SlotId) : Prop where
  connected : (world.clients client).connection = some slot
  handle : (world.device.hd.hdSd slot).handle = true
  isOpen : 0 ≤ world.device.fd slot

omit [Platform Os] in
/-- A session is shut, or it can be read from. -/
theorem shut_or_readsFrom
    (world : World Index Os)
    (client : ClientId) :
    world.Shut client ∨ ∃ slot, world.ReadsFrom client slot := by
  by_cases reads : ∃ slot, world.ReadsFrom client slot
  · exact .inr reads
  · left
    intro slot connected
    by_cases isOpen : 0 ≤ world.device.fd slot
    · left
      by_contra handle
      exact reads ⟨slot, connected, by simpa using handle, isOpen⟩
    · exact .inr (Int.not_le.mp isOpen)

omit [Platform Os] in
theorem ReadsFrom.not_shut
    {slot : SlotId}
    (reads : world.ReadsFrom client slot) :
    ¬ world.Shut client := by
  intro shut
  rcases shut slot reads.connected with noHandle | closed
  · simp [reads.handle] at noHandle
  · exact absurd reads.isOpen (Int.not_le.mpr closed)

/-- A shut session is not opened again by what clients do. -/
theorem Shut.shrunk
    (shut : before.Shut client)
    (shrunk : SessionsShrunk before after) :
    after.Shut client := by
  intro slot connected
  rw [shrunk.connection] at connected
  unfold Device.fd
  rcases shrunk.slots slot with same | closed
  · rw [same]
    exact shut slot connected
  · right
    simp [closed]

/-- What can be read from afterwards could be read from before. -/
theorem ReadsFrom.grown
    {slot : SlotId}
    (reads : after.ReadsFrom client slot)
    (shrunk : SessionsShrunk before after) :
    before.ReadsFrom client slot ∧
      after.device.fd slot = before.device.fd slot := by
  have handle := reads.handle
  have isOpen := reads.isOpen
  unfold Device.fd at isOpen ⊢
  rcases shrunk.slots slot with same | closed
  · rw [same] at handle isOpen ⊢
    exact ⟨⟨(shrunk.connection client).symm.trans reads.connected, handle,
      isOpen⟩, rfl⟩
  · rw [closed] at isOpen
    simp at isOpen

/-- The timeout check sets a deadline, or ends a connection. -/
theorem expire_spared
    (client : ClientId)
    (world : World Index Os)
    (other : ClientId) :
    Spared client world (world.expire other) := by
  unfold expire
  dsimp only
  split
  · split
    · exact .close client world other
    · split
      · exact .clientAlive client world other 0
      · exact .refl client world
    · exact .refl client world
  · exact .refl client world

/-! ## Rounds of the loop -/

/-- Looking for data changes the platform only. -/
theorem canReadData_eq
    (device : Device Os)
    (session : Option SlotId) :
    ∃ os, (device.canReadData session).2 = { device with os := os } := by
  unfold Device.canReadData
  split
  · exact ⟨device.os, rfl⟩
  · split
    · exact ⟨device.os, rfl⟩
    · exact ⟨_, rfl⟩

variable [Indexer Index]

/-- The loop of the source is a polling loop. -/
theorem readLoop_eq_loop
    (client : ClientId)
    (fuel : Nat)
    (world : World Index Os) :
    readLoop client fuel world =
      Polling.loop (fun world => world.poll client) fuel world := by
  induction fuel generalizing world with
  | zero => rfl
  | succ fuel inductionHypothesis =>
      rw [readLoop, Polling.loop]
      rcases world.poll client with ⟨_ | _, next⟩
      · rfl
      · exact inductionHypothesis next

/-- Polling a shut session changes nothing. -/
theorem poll_of_shut
    (shut : world.Shut client) :
    world.poll client = (false, world) := by
  have idle :
      world.device.canReadData (world.clients client).connection =
        (false, world.device) := by
    unfold Device.canReadData
    split
    · rfl
    · rename_i slot connected
      rw [if_pos (shut slot connected)]
  simp only [poll, idle]
  rfl

/-- Session operations delete sessions at most. -/
structure SessionWork (before after : Device Os) : Prop where
  slots : SlotsShrunk before.hd after.hd
  trace :
    Grown (fun event => ∃ slot fd, event.OnSession slot fd)
      before.trace after.trace

/-- The session operations of a round, and the byte it takes in, if any. -/
theorem poll_cases
    (world : World Index Os)
    (client : ClientId) :
    ∃ device : Device Os,
      SessionWork world.device device ∧
        ((world.poll client).2 = { world with device := device } ∨
          ∃ slot byte,
            (world.poll client).2 =
              ({ world with device := device }.log
                (.fed client slot byte)).feed client byte) := by
  obtain ⟨os, selected⟩ :=
    canReadData_eq world.device (world.clients client).connection
  unfold poll
  rw [show world.device.canReadData (world.clients client).connection =
    ((world.device.canReadData (world.clients client).connection).1,
      { world.device with os := os }) from Prod.ext rfl selected]
  dsimp only
  split
  · unfold readOnce
    dsimp only
    split
    · exact ⟨{ world.device with os := os }, ⟨.refl _, .refl _⟩, .inl rfl⟩
    · rename_i slot connected
      have read :
          SessionWork world.device
            ({ world.device with os := os }.readData (some slot) 1).2 := by
        refine ⟨Device.slotsShrunk_readData _ slot 1, ?_⟩
        exact (Device.trace_readData _ slot 1).weaken
          fun _ onSession => ⟨slot, _, onSession⟩
      split
      · exact ⟨_, read, .inr ⟨slot, _, rfl⟩⟩
      · split
        · exact ⟨_, read, .inl rfl⟩
        · refine ⟨_, ⟨read.slots.trans ?_, read.trace.trans ?_⟩, .inl rfl⟩
          · exact Device.hdSd_httpdSessDelete _ slot
          · refine (Device.trace_httpdSessDelete _ slot).weaken ?_
            rintro event rfl
            exact ⟨slot, _, rfl, rfl⟩
  · exact ⟨{ world.device with os := os }, ⟨.refl _, .refl _⟩, .inl rfl⟩

/-- The byte that a round takes in, and the world before it is fed. -/
def fetch?
    (world : World Index Os)
    (client : ClientId) : Option (World Index Os × Byte) :=
  let (ready, device) :=
    world.device.canReadData (world.clients client).connection
  match ready, (world.clients client).connection with
  | true, some slot =>
      let ((ret, buf), device) := device.readData (some slot) 1
      if ret > 0 then
        some
          ({ world with device := device }.log
            (.fed client slot (buf.headD 0)), buf.headD 0)
      else
        none
  | _, _ => none

/-- The message that the byte completes, and the world in which it is processed. -/
def arriving?
    (world : World Index Os)
    (client : ClientId) : Option (World Index Os × MqttMessage) :=
  match world.fetch? client with
  | some (world, byte) =>
      let mesg := (world.clients client).message.incoming byte
      if mesg.type ≠ MqttType.unknown.code then
        some (world.takeByte client byte, mesg)
      else
        none
  | none => none

/-- A round takes in the byte that was fetched, or none. -/
theorem poll_fetch
    (world : World Index Os)
    (client : ClientId) :
    ∃ device : Device Os,
      SessionWork world.device device ∧
        (world.fetch? client = none ∧
            (world.poll client).2 = { world with device := device } ∨
          ∃ slot byte,
            (world.clients client).connection = some slot ∧
              world.fetch? client =
                some
                  ({ world with device := device }.log
                    (.fed client slot byte), byte) ∧
                (world.poll client).2 =
                  ({ world with device := device }.log
                    (.fed client slot byte)).feed client byte) := by
  obtain ⟨os, selected⟩ :=
    canReadData_eq world.device (world.clients client).connection
  unfold poll fetch?
  rw [show world.device.canReadData (world.clients client).connection =
    ((world.device.canReadData (world.clients client).connection).1,
      { world.device with os := os }) from Prod.ext rfl selected]
  dsimp only
  cases (world.device.canReadData (world.clients client).connection).1 with
  | false =>
      exact ⟨{ world.device with os := os }, ⟨.refl _, .refl _⟩,
        .inl ⟨rfl, rfl⟩⟩
  | true =>
      unfold readOnce
      dsimp only
      cases connected : (world.clients client).connection with
      | none =>
          exact ⟨{ world.device with os := os }, ⟨.refl _, .refl _⟩,
            .inl ⟨rfl, rfl⟩⟩
      | some slot =>
          have read :
              SessionWork world.device
                ({ world.device with os := os }.readData (some slot) 1).2 := by
            refine ⟨Device.slotsShrunk_readData _ slot 1, ?_⟩
            exact (Device.trace_readData _ slot 1).weaken
              fun _ onSession => ⟨slot, _, onSession⟩
          dsimp only
          by_cases positive :
              ({ world.device with os := os }.readData (some slot) 1).1.1 > 0
          · simp only [if_pos positive, if_true]
            exact ⟨_, read, .inr ⟨slot, _, rfl, rfl, rfl⟩⟩
          · simp only [if_neg positive, if_true]
            split
            · exact ⟨_, read, .inl ⟨trivial, rfl⟩⟩
            · refine ⟨_, ⟨read.slots.trans ?_, read.trace.trans ?_⟩,
                .inl ⟨trivial, rfl⟩⟩
              · exact Device.hdSd_httpdSessDelete _ slot
              · refine (Device.trace_httpdSessDelete _ slot).weaken ?_
                rintro event rfl
                exact ⟨slot, _, rfl, rfl⟩

/-- A round completes no message, or one that is then processed. -/
theorem poll_arriving
    (world : World Index Os)
    (client : ClientId) :
    ∃ device : Device Os,
      SessionWork world.device device ∧
        (world.arriving? client = none ∧
            ((world.poll client).2 = { world with device := device } ∨
              ∃ slot byte,
                (world.poll client).2 =
                  ({ world with device := device }.log
                    (.fed client slot byte)).takeByte client byte) ∨
          ∃ slot byte middle mesg,
            (world.clients client).connection = some slot ∧
              world.arriving? client = some (middle, mesg) ∧
                middle =
                    ({ world with device := device }.log
                      (.fed client slot byte)).takeByte client byte ∧
                  (world.poll client).2 =
                    (middle.processMessage client mesg).modifyClient client
                      fun record =>
                        { record with message := record.message.reset }) := by
  obtain ⟨device, work, ⟨nothing, result⟩ |
    ⟨slot, byte, connected, fetched, result⟩⟩ := world.poll_fetch client
  · refine ⟨device, work, .inl ⟨?_, .inl result⟩⟩
    unfold arriving?
    rw [nothing]
  · rcases ({ world with device := device }.log
        (.fed client slot byte)).feed_cases client byte with
      ⟨incomplete, taken⟩ | ⟨complete, processed⟩
    · refine ⟨device, work,
        .inl ⟨?_, .inr ⟨slot, byte, result.trans taken⟩⟩⟩
      unfold arriving?
      rw [fetched]
      exact if_neg (not_not.mpr incomplete)
    · refine ⟨device, work, .inr ⟨slot, byte, _, _, connected, ?_, rfl,
        result.trans processed⟩⟩
      unfold arriving?
      rw [fetched]
      exact if_pos complete

omit [Platform Os] [Indexer Index] in
/-- The session operations are no receptions. -/
theorem ReceptionKept.of_device
    {device : Device Os}
    (grown :
      Grown (fun event => ∃ slot fd, event.OnSession slot fd)
        world.trace device.trace) :
    ReceptionKept client world { world with device := device } := by
  refine ⟨rfl, rfl, Nat.le_refl _, grown.weaken ?_⟩
  rintro event ⟨slot, fd, onSession⟩
  cases event <;> simp_all [Event.OnSession, Event.IsReception]

/-- A round of the loop takes in one byte at most. -/
theorem poll_receives
    (isRemote : (world.clients client).client = true) :
    ∃ bytes, bytes.length ≤ 1 ∧
      Receives client bytes world (world.poll client).2 := by
  obtain ⟨device, work, result | ⟨slot, byte, result⟩⟩ :=
    world.poll_cases client
  · have kept : ReceptionKept client world { world with device := device } :=
      .of_device work.trace
    rw [result]
    exact ⟨[], Nat.zero_le 1, .of_kept kept⟩
  · have kept : ReceptionKept client world { world with device := device } :=
      .of_device work.trace
    rw [result]
    exact ⟨[byte], Nat.le_refl 1, (Receives.of_kept kept).trans
      (feed_receives (kept.remote.trans isRemote) slot byte).1⟩

/-- The rounds of another client are none of this one's business. -/
theorem poll_receptionKept
    (isRemote : (world.clients client).client = true)
    (distinct : client ≠ other) :
    ReceptionKept client world (world.poll other).2 := by
  obtain ⟨device, work, result | ⟨slot, byte, result⟩⟩ :=
    world.poll_cases other
  · exact result ▸ .of_device work.trace
  · have kept : ReceptionKept client world { world with device := device } :=
      .of_device work.trace
    have fed :
        ReceptionKept client { world with device := device }
          ({ world with device := device }.log (.fed other slot byte)) :=
      .log _ distinct.symm
    rw [result]
    exact (kept.trans fed).trans
      (feed_receptionKept (fed.remote.trans isRemote) distinct byte)

end World

end SimpleTlsBroker
