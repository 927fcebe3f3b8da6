import SimpleTlsBroker.ReadLoop
import SimpleTlsBroker.Scripts

namespace SimpleTlsBroker

/-!
# Peers of finite length

A peer sends finitely many bytes and then is silent, fails or closes its
connection.  The read loop of `MqttClient::loop` takes the bytes in one by one
and hands on the packets they consist of; it does not end when it meets an
orderly close.
-/

open History

/-- How a peer goes on after its last byte. -/
inductive Ending where
  | silent
  | error
  | closed
  deriving Repr, DecidableEq

/-- The bytes a peer still sends, and what follows them. -/
structure Peer where
  bytes : List Byte
  ending : Ending
  deriving Repr, DecidableEq

/-- Does `select` report the socket of a peer as readable? -/
def Peer.readable (peer : Peer) : Bool :=
  !peer.bytes.isEmpty || peer.ending != .silent

/-- A platform some of whose descriptors lead to such peers. -/
structure PeerNetwork (Os : Type) where
  peers : Int → Option Peer
  rest : Os

namespace PeerNetwork

variable {Os : Type} [Platform Os]

/-- `recv_fn` on the socket of a peer; in silence it times out. -/
def recvPeer
    (network : PeerNetwork Os)
    (fd : Int)
    (peer : Peer)
    (buflen : Nat) : (Int × List Byte) × PeerNetwork Os :=
  match peer.bytes, peer.ending with
  | [], .closed => ((0, []), network)
  | [], .silent | [], .error => ((-1, []), network)
  | byte :: bytes, _ =>
      ((((byte :: bytes).take buflen).length, (byte :: bytes).take buflen),
        { network with
          peers :=
            Function.update network.peers fd
              (some { peer with bytes := (byte :: bytes).drop buflen }) })

instance : Platform (PeerNetwork Os) where
  millis network := Platform.millis network.rest
  select network fds :=
    let ((activeCnt, ready), rest) := Platform.select network.rest fds
    ((activeCnt, fun fd =>
        match network.peers fd with
        | some peer => peer.readable
        | none => ready fd),
      { network with rest := rest })
  pending network fd :=
    match network.peers fd with
    | some _ => false
    | none => Platform.pending network.rest fd
  recv network fd buflen :=
    match network.peers fd with
    | some peer => network.recvPeer fd peer buflen
    | none =>
        let (result, rest) := Platform.recv network.rest fd buflen
        (result, { network with rest := rest })
  send network fd bytes :=
    let (ret, rest) := Platform.send network.rest fd bytes
    (ret, { network with rest := rest })
  accept network :=
    let (fd, rest) := Platform.accept network.rest
    (fd, { network with rest := rest })
  openFn network fd :=
    let (opened, rest) := Platform.openFn network.rest fd
    (opened, { network with rest := rest })
  closeFn network fd :=
    { network with rest := Platform.closeFn network.rest fd }
  tcpConnected network client := Platform.tcpConnected network.rest client
  memory network offset := Platform.memory network.rest offset

/-- What the broker sends does not change what its peers send. -/
theorem peers_of_sendOrClose
    {before after : PeerNetwork Os}
    (called : Relation.ReflTransGen World.SendOrClose before after) :
    after.peers = before.peers := by
  induction called with
  | refl => rfl
  | tail _ last inductionHypothesis =>
      rw [← inductionHypothesis]
      cases last <;> rfl

end PeerNetwork

namespace World

open MqttMessage (receive)

variable {Index Os : Type} [Indexer Index] [Platform Os]
variable {world before after : World Index (PeerNetwork Os)}
variable {client : ClientId}
variable {slot : SlotId}
variable {peer : Peer}

/-- The session of a client, as long as it is open, leads to a peer. -/
def Faces
    (world : World Index (PeerNetwork Os))
    (client : ClientId)
    (peer : Peer) : Prop :=
  ∀ slot, world.ReadsFrom client slot →
    world.device.os.peers (world.device.fd slot) = some peer

omit [Indexer Index] in
/-- Clients that act do not change whom a client faces. -/
theorem Faces.shrunk
    (faces : before.Faces client peer)
    (shrunk : SessionsShrunk before after) :
    after.Faces client peer := by
  intro slot reads
  obtain ⟨readBefore, sameFd⟩ := reads.grown shrunk
  rw [PeerNetwork.peers_of_sendOrClose shrunk.os, sameFd]
  exact faces slot readBefore

/-! ## One round -/

/-- The world after a `select`, which no peer notices. -/
def selected
    (world : World Index (PeerNetwork Os))
    (rest : Os) : World Index (PeerNetwork Os) :=
  { world with
    device :=
      { world.device with
        os := { world.device.os with rest := rest } } }

omit [Indexer Index] [Platform Os] in
theorem ReadsFrom.selected
    (reads : world.ReadsFrom client slot)
    (rest : Os) :
    (world.selected rest).ReadsFrom client slot :=
  ⟨reads.connected, reads.handle, reads.isOpen⟩

omit [Indexer Index] [Platform Os] in
theorem Faces.selected
    (faces : world.Faces client peer)
    (rest : Os) :
    (world.selected rest).Faces client peer :=
  fun slot reads => faces slot ⟨reads.connected, reads.handle, reads.isOpen⟩

/-- A round on a session that leads to a peer. -/
theorem poll_of_faces
    (reads : world.ReadsFrom client slot)
    (faces : world.Faces client peer) :
    ∃ rest,
      world.poll client =
        if peer.readable ∨ (world.device.hd.hdSd slot).pendingLen ≠ 0 then
          (true, (world.selected rest).readOnce client)
        else
          (false, world.selected rest) := by
  have isOpen : ¬ ((world.device.hd.hdSd slot).handle = false ∨
      world.device.fd slot < 0) := by
    rintro (noHandle | closed)
    · simp [reads.handle] at noHandle
    · exact absurd reads.isOpen (Int.not_le.mpr closed)
  refine ⟨(Platform.select world.device.os.rest
    [world.device.fd slot]).2, ?_⟩
  simp only [poll, Device.canReadData, reads.connected, if_neg isOpen,
    Platform.select, Platform.pending, faces slot reads, Bool.or_false,
    Bool.or_eq_true, decide_eq_true_eq]
  rfl

omit [Indexer Index] in
/-- `readData` on a session that leads to a peer. -/
theorem readData_of_faces
    (reads : world.ReadsFrom client slot)
    (faces : world.Faces client peer) :
    world.device.readData (some slot) 1 =
      let ((ret, buf), network) :=
        world.device.os.recvPeer (world.device.fd slot) peer 1
      let device :=
        { world.device with os := network }.log
          (.received slot (world.device.fd slot) ret)
      if ret < 0 then
        ((-1, []), device.httpdSessDelete slot)
      else
        ((ret, buf), device) := by
  simp only [Device.readData, if_pos reads.handle, Platform.recv,
    faces slot reads]

/-- The body of the loop, with a byte to read. -/
theorem readOnce_byte
    {byte : Byte}
    {bytes : List Byte}
    {ending : Ending}
    (reads : world.ReadsFrom client slot)
    (faces : world.Faces client ⟨byte :: bytes, ending⟩)
    (isRemote : (world.clients client).client = true) :
    Receives client [byte] world (world.readOnce client) ∧
      (world.readOnce client).Faces client ⟨bytes, ending⟩ := by
  let taken : World Index (PeerNetwork Os) :=
    { world with
      device :=
        { world.device with
          os :=
            { world.device.os with
              peers :=
                Function.update world.device.os.peers
                  (world.device.fd slot) (some ⟨bytes, ending⟩) } }.log
          (.received slot (world.device.fd slot) 1) }
  have body :
      world.readOnce client =
        (taken.log (.fed client slot byte)).feed client byte := by
    simp only [readOnce, reads.connected, readData_of_faces reads faces,
      PeerNetwork.recvPeer]
    rfl
  have takenFaces : taken.Faces client ⟨bytes, ending⟩ := by
    intro other otherReads
    have same : slot = other :=
      Option.some.inj (reads.connected.symm.trans otherReads.connected)
    subst same
    exact Function.update_self _ _ _
  have kept : ReceptionKept client world taken :=
    .of_device (.single ⟨slot, _, rfl, rfl⟩)
  have takenRemote : (taken.clients client).client = true := isRemote
  obtain ⟨receives, shrunk⟩ := feed_receives takenRemote slot byte
  rw [body]
  exact ⟨(Receives.of_kept kept).trans receives, takenFaces.shrunk shrunk⟩

/-- The body of the loop, after an orderly close, changes nothing. -/
theorem readOnce_closed
    (reads : world.ReadsFrom client slot)
    (faces : world.Faces client ⟨[], .closed⟩) :
    ReceptionKept client world (world.readOnce client) ∧
      (world.readOnce client).ReadsFrom client slot ∧
        (world.readOnce client).Faces client ⟨[], .closed⟩ := by
  have body :
      world.readOnce client =
        world.log (.received slot (world.device.fd slot) 0) := by
    simp only [readOnce, reads.connected, readData_of_faces reads faces,
      PeerNetwork.recvPeer]
    rfl
  rw [body]
  exact ⟨.of_device (.single ⟨slot, _, rfl, rfl⟩),
    ⟨reads.connected, reads.handle, reads.isOpen⟩,
    fun other reads => faces other ⟨reads.1, reads.2, reads.3⟩⟩

/-- The body of the loop shuts the session when there was nothing to read. -/
theorem readOnce_failed
    {ending : Ending}
    (reads : world.ReadsFrom client slot)
    (faces : world.Faces client ⟨[], ending⟩)
    (disorderly : ending ≠ .closed) :
    ReceptionKept client world (world.readOnce client) ∧
      (world.readOnce client).Shut client := by
  let failed : Device (PeerNetwork Os) :=
    world.device.log (.received slot (world.device.fd slot) (-1))
  have body :
      world.readOnce client =
        { world with
          device :=
            (failed.httpdSessDelete slot).httpdSessDelete slot } := by
    cases ending with
    | closed => exact (disorderly rfl).elim
    | silent | error =>
        simp only [readOnce, reads.connected, readData_of_faces reads faces,
          PeerNetwork.recvPeer]
        rfl
  rw [body]
  have deletion (device : Device (PeerNetwork Os)) :
      Grown (fun event => ∃ slot fd, event.OnSession slot fd) device.trace
        (device.httpdSessDelete slot).trace := by
    refine (device.trace_httpdSessDelete slot).weaken ?_
    rintro event rfl
    exact ⟨slot, _, rfl, rfl⟩
  refine ⟨.of_device ?_, ?_⟩
  · exact ((Grown.single ⟨slot, _, rfl, rfl⟩).trans
      (deletion failed)).trans (deletion _)
  intro other connected
  have same : slot = other :=
    Option.some.inj (reads.connected.symm.trans connected)
  subst same
  exact Device.shut_httpdSessDelete _ slot

/-! ## The whole loop -/

/-- A round with a byte to read. -/
theorem poll_byte
    {byte : Byte}
    {bytes : List Byte}
    {ending : Ending}
    (reads : world.ReadsFrom client slot)
    (faces : world.Faces client ⟨byte :: bytes, ending⟩)
    (isRemote : (world.clients client).client = true) :
    (world.poll client).1 = true ∧
      Receives client [byte] world (world.poll client).2 ∧
        (world.poll client).2.Faces client ⟨bytes, ending⟩ := by
  obtain ⟨rest, result⟩ := poll_of_faces reads faces
  have ready :
      (Peer.mk (byte :: bytes) ending).readable ∨
        (world.device.hd.hdSd slot).pendingLen ≠ 0 :=
    .inl rfl
  rw [if_pos ready] at result
  have kept : ReceptionKept client world (world.selected rest) :=
    .of_device (.refl _)
  obtain ⟨receives, facesAfter⟩ :=
    readOnce_byte (reads.selected rest) (faces.selected rest) isRemote
  rw [result]
  exact ⟨rfl, (Receives.of_kept kept).trans receives, facesAfter⟩

/-- After an orderly close the loop never ends. -/
theorem not_terminates_of_closed
    (reads : world.ReadsFrom client slot)
    (faces : world.Faces client ⟨[], .closed⟩) :
    ¬ Polling.Terminates (fun world => world.poll client) world := by
  let Waiting (world : World Index (PeerNetwork Os)) : Prop :=
    world.ReadsFrom client slot ∧ world.Faces client ⟨[], .closed⟩
  have stays (world : World Index (PeerNetwork Os))
      (waiting : Waiting world) :
      (world.poll client).1 = true ∧ Waiting (world.poll client).2 := by
    obtain ⟨rest, result⟩ := poll_of_faces waiting.1 waiting.2
    have ready :
        (Peer.mk [] .closed).readable ∨
          (world.device.hd.hdSd slot).pendingLen ≠ 0 :=
      .inl rfl
    rw [if_pos ready] at result
    rw [result]
    exact ⟨rfl, (readOnce_closed (waiting.1.selected rest)
      (waiting.2.selected rest)).2⟩
  exact Polling.not_terminates stays ⟨reads, faces⟩

/-- In silence, and after an error, the loop ends and has read nothing. -/
theorem loop_of_disorderly
    {ending : Ending}
    (reads : world.ReadsFrom client slot)
    (faces : world.Faces client ⟨[], ending⟩)
    (disorderly : ending ≠ .closed) :
    ∃ fuel after,
      Polling.loop (fun world => world.poll client) fuel world =
          some after ∧
        ReceptionKept client world after := by
  obtain ⟨rest, result⟩ := poll_of_faces reads faces
  have kept : ReceptionKept client world (world.selected rest) :=
    .of_device (.refl _)
  by_cases ready :
      (Peer.mk [] ending).readable ∨
        (world.device.hd.hdSd slot).pendingLen ≠ 0
  · rw [if_pos ready] at result
    obtain ⟨keptRead, shut⟩ :=
      readOnce_failed (reads.selected rest) (faces.selected rest) disorderly
    refine ⟨2, (world.selected rest).readOnce client, ?_,
      kept.trans keptRead⟩
    rw [Polling.loop_of_busy (by rw [result]), result,
      Polling.loop_of_idle (by rw [poll_of_shut shut]), poll_of_shut shut]
  · rw [if_neg ready] at result
    refine ⟨1, world.selected rest, ?_, kept⟩
    rw [Polling.loop_of_idle (by rw [result]), result]

/-- The read loop ends unless its session outlives an orderly close. -/
theorem terminates_iff
    {bytes : List Byte}
    {ending : Ending}
    (faces : world.Faces client ⟨bytes, ending⟩)
    (isRemote : (world.clients client).client = true) :
    Polling.Terminates (fun world => world.poll client) world ↔
      (ending = .closed →
        (Polling.after (fun world => world.poll client) bytes.length
          world).Shut client) := by
  induction bytes generalizing world with
  | nil =>
      rcases shut_or_readsFrom world client with shut | ⟨slot, reads⟩
      · have idle := poll_of_shut shut
        exact iff_of_true
          (Polling.terminates_of_idle (by rw [idle])) fun _ => shut
      · by_cases orderly : ending = .closed
        · subst orderly
          refine iff_of_false (not_terminates_of_closed reads faces) ?_
          exact fun shut => reads.not_shut (shut rfl)
        · obtain ⟨fuel, after, returned, _⟩ :=
            loop_of_disorderly reads faces orderly
          exact iff_of_true ⟨fuel, by rw [returned]; rfl⟩
            fun closed => (orderly closed).elim
  | cons byte rest inductionHypothesis =>
      rcases shut_or_readsFrom world client with shut | ⟨slot, reads⟩
      · have idle := poll_of_shut shut
        refine iff_of_true
          (Polling.terminates_of_idle (by rw [idle])) fun _ => ?_
        rw [Polling.after_of_fixed (by rw [idle])]
        exact shut
      · obtain ⟨busy, receives, facesAfter⟩ :=
          poll_byte reads faces isRemote
        rw [Polling.terminates_of_busy busy, List.length_cons,
          Polling.after_succ]
        exact inductionHypothesis facesAfter
          (receives.remote.trans isRemote)

/--
The loop of a client ends for every peer, in every state of the client, unless
the session is still open when an orderly close follows the last byte.
-/
theorem loop_terminates_iff
    (faces : world.Faces client peer) :
    (∃ fuel, (clientLoop fuel world client).isSome) ↔
      ((world.clients client).client = true →
        peer.ending = .closed →
          (Polling.after (fun world => world.poll client) peer.bytes.length
            (world.expire client)).Shut client) := by
  have checked := expire_spared client world client
  have facesAfter := faces.shrunk checked.toSessionsShrunk
  by_cases isRemote : (world.clients client).client = true
  · have isRemoteAfter := checked.remote.trans isRemote
    have loop (fuel : Nat) :
        clientLoop fuel world client =
          Polling.loop (fun world => world.poll client) fuel
            (world.expire client) := by
      rw [← readLoop_eq_loop]
      simp only [clientLoop, isRemoteAfter, ↓reduceIte]
    simp only [loop, isRemote, true_implies]
    exact terminates_iff facesAfter isRemoteAfter
  · have isLocalAfter :
        ((world.expire client).clients client).client = false := by
      rw [checked.remote]
      simpa using isRemote
    refine iff_of_true ⟨0, ?_⟩ fun remote => (isRemote remote).elim
    simp [clientLoop, isLocalAfter]

/-- A round after the last byte receives nothing. -/
theorem poll_exhausted
    {ending : Ending}
    (faces : world.Faces client ⟨[], ending⟩) :
    ReceptionKept client world (world.poll client).2 ∧
      (world.poll client).2.Faces client ⟨[], ending⟩ := by
  rcases shut_or_readsFrom world client with shut | ⟨slot, reads⟩
  · rw [poll_of_shut shut]
    exact ⟨.refl client world, faces⟩
  · obtain ⟨rest, result⟩ := poll_of_faces reads faces
    have kept : ReceptionKept client world (world.selected rest) :=
      .of_device (.refl _)
    rw [result]
    split
    · by_cases orderly : ending = .closed
      · subst orderly
        obtain ⟨keptRead, _, facesAfter⟩ :=
          readOnce_closed (reads.selected rest) (faces.selected rest)
        exact ⟨kept.trans keptRead, facesAfter⟩
      · obtain ⟨keptRead, shut⟩ :=
          readOnce_failed (reads.selected rest) (faces.selected rest) orderly
        exact ⟨kept.trans keptRead,
          fun _ readsAfter => (readsAfter.not_shut shut).elim⟩
    · exact ⟨kept, faces.selected rest⟩

/-- So does any number of rounds. -/
theorem after_exhausted
    {ending : Ending}
    (faces : world.Faces client ⟨[], ending⟩)
    (count : Nat) :
    ReceptionKept client world
      (Polling.after (fun world => world.poll client) count world) := by
  let Exhausted (later : World Index (PeerNetwork Os)) : Prop :=
    ReceptionKept client world later ∧ later.Faces client ⟨[], ending⟩
  have preserves (later : World Index (PeerNetwork Os))
      (exhausted : Exhausted later) :
      Exhausted (later.poll client).2 := by
    obtain ⟨kept, facesAfter⟩ := poll_exhausted exhausted.2
    exact ⟨exhausted.1.trans kept, facesAfter⟩
  have start : Exhausted world := ⟨.refl client world, faces⟩
  exact (Polling.after_preserves preserves count start).1

/-- As long as the session is open, the rounds take in the bytes of the peer. -/
theorem poll_bytes
    {bytes : List Byte}
    {ending : Ending}
    (faces : world.Faces client ⟨bytes, ending⟩)
    (isRemote : (world.clients client).client = true)
    (stays :
      ¬ (Polling.after (fun world => world.poll client) bytes.length
        world).Shut client) :
    let read :=
      Polling.after (fun world => world.poll client) bytes.length world
    Receives client bytes world read ∧
      read.Faces client ⟨[], ending⟩ ∧
        ∀ fuel,
          Polling.loop (fun world => world.poll client)
              (fuel + bytes.length) world =
            Polling.loop (fun world => world.poll client) fuel read := by
  induction bytes generalizing world with
  | nil => exact ⟨.of_kept (.refl client world), faces, fun _ => rfl⟩
  | cons byte rest inductionHypothesis =>
      rcases shut_or_readsFrom world client with shut | ⟨slot, reads⟩
      · rw [Polling.after_of_fixed (by rw [poll_of_shut shut])] at stays
        exact (stays shut).elim
      · obtain ⟨busy, receives, facesAfter⟩ :=
          poll_byte reads faces isRemote
        obtain ⟨receivesRest, facesLast, loopRest⟩ :=
          inductionHypothesis facesAfter
            (receives.remote.trans isRemote) stays
        refine ⟨receives.trans receivesRest, facesLast, fun fuel => ?_⟩
        rw [List.length_cons, ← Nat.add_assoc, Polling.loop_of_busy busy]
        exact loopRest fuel

/-- A client has handed on some packets, and nothing is left of them. -/
structure HandedOn
    (client : ClientId)
    (packets : List Packet)
    (before after : World Index Os) : Prop where
  processed :
    after.trace.processedBy client =
      before.trace.processedBy client ++ packets.map Packet.message
  isReset : (after.clients client).message.IsReset

omit [Indexer Index] [Platform Os] in
/-- Receiving packets within the limit hands them on. -/
theorem Receives.handedOn
    {packets : List Packet}
    {before after : World Index Os}
    (receives :
      Receives client (packets.flatMap Packet.bytes) before after)
    (wellFormed : ∀ packet ∈ packets, packet.WellFormed)
    (inLimit : ∀ packet ∈ packets, packet.InLimit)
    (isReset : (before.clients client).message.IsReset) :
    HandedOn client packets before after := by
  obtain ⟨resetAfter, handedOn⟩ :=
    Packet.feed_packets wellFormed inLimit isReset
  constructor
  case processed => rw [receives.processedBy, handedOn]
  case isReset =>
    rw [receives.message]
    exact resetAfter

/--
A stream of packets within the limit that closes nothing is handed on packet by
packet, whether the lengths are encoded in the shortest way or not, once the
loop has taken in its bytes; after that nothing more is handed on.  Unless the
peer closes the connection, this is the state in which the loop ends.
-/
theorem stream_framing
    {packets : List Packet}
    {ending : Ending}
    (wellFormed : ∀ packet ∈ packets, packet.WellFormed)
    (inLimit : ∀ packet ∈ packets, packet.InLimit)
    (isReset : (world.clients client).message.IsReset)
    (isRemote : (world.clients client).client = true)
    (faces : world.Faces client ⟨packets.flatMap Packet.bytes, ending⟩)
    (stays :
      ¬ (Polling.after (fun world => world.poll client)
        (packets.flatMap Packet.bytes).length world).Shut client) :
    (∀ count, (packets.flatMap Packet.bytes).length ≤ count →
      HandedOn client packets world
        (Polling.after (fun world => world.poll client) count world)) ∧
      (ending ≠ .closed →
        ∃ fuel after,
          readLoop client fuel world = some after ∧
            HandedOn client packets world after) := by
  obtain ⟨receives, exhausted, looped⟩ := poll_bytes faces isRemote stays
  constructor
  · intro count enough
    obtain ⟨more, rfl⟩ := Nat.exists_eq_add_of_le enough
    rw [Polling.after_add]
    have whole :=
      receives.trans (.of_kept (after_exhausted exhausted more))
    rw [List.append_nil] at whole
    exact whole.handedOn wellFormed inLimit isReset
  · intro disorderly
    rcases shut_or_readsFrom _ client with shut | ⟨slot, reads⟩
    · exact (stays shut).elim
    · obtain ⟨fuel, after, returned, kept⟩ :=
        loop_of_disorderly reads exhausted disorderly
      have whole := receives.trans (.of_kept kept)
      rw [List.append_nil] at whole
      refine ⟨fuel + (packets.flatMap Packet.bytes).length, after, ?_,
        whole.handedOn wellFormed inLimit isReset⟩
      rw [readLoop_eq_loop, looped, returned]

end World

/-! ## Examples of peers -/

namespace PeerNetwork

/-- A server on whose first connection a peer waits. -/
def setup (peer : Peer) : World StringIndexer (PeerNetwork Script) where
  device :=
    { os :=
        { peers := fun fd => if fd = 5 then some peer else none
          rest :=
            { clock := 0
              connections := [5]
              receipts := []
              sendResults := [] } }
      hd := Script.table
      trace := [] }
  indexer := .empty
  brokers := fun _ =>
    { clients := []
      authUser := .ofList [0x75]
      authPassword := .ofList [0x70]
      broker := none }
  clients := fun _ => MqttClient.initial
  next := 0

/-- The server after it has accepted the connection. -/
def accepted (peer : Peer) : World StringIndexer (PeerNetwork Script) :=
  (setup peer).accept 0

/-- The accepted client faces the peer. -/
theorem faces_accepted (peer : Peer) :
    (accepted peer).Faces 0 peer := by
  intro slot reads
  have connected : ((accepted peer).clients 0).connection = some 0 := rfl
  obtain rfl : 0 = slot :=
    Option.some.inj (connected.symm.trans reads.connected)
  rfl

end PeerNetwork

namespace World

open PeerNetwork (accepted faces_accepted)

/-- The loop ends for a peer that breaks off in the middle of a packet. -/
theorem loop_terminates_iff_error :
    ∃ fuel,
      (clientLoop fuel (accepted ⟨[0x10, 0x13], .error⟩) 0).isSome :=
  (loop_terminates_iff (faces_accepted ⟨[0x10, 0x13], .error⟩)).mpr
    fun _ closed => by contradiction

/-- For a peer that closes its connection at once it does not end. -/
theorem not_terminates_closed :
    (accepted ⟨[], .closed⟩).Faces 0 ⟨[], .closed⟩ ∧
      ((accepted ⟨[], .closed⟩).clients 0).Accepted ∧
        ∀ fuel, clientLoop fuel (accepted ⟨[], .closed⟩) 0 = none := by
  refine ⟨faces_accepted _, ⟨by decide, by decide⟩, ?_⟩
  have reads : (accepted ⟨[], .closed⟩).ReadsFrom 0 0 :=
    ⟨by decide, by decide, by decide⟩
  intro fuel
  by_contra returned
  refine not_terminates_of_closed reads (faces_accepted _) ⟨fuel, ?_⟩
  rw [← readLoop_eq_loop]
  exact Option.isSome_iff_ne_none.mpr returned

/-- A peer that sends two PINGRESP messages and waits. -/
def pingPeer : Peer where
  bytes := [Packet.pingResp, .pingResp].flatMap Packet.bytes
  ending := .silent

/-- The loop hands on both messages. -/
theorem stream_framing_ping :
    ∃ fuel after,
      readLoop 0 fuel (accepted pingPeer) = some after ∧
        HandedOn 0 [.pingResp, .pingResp] (accepted pingPeer) after := by
  have wellFormed :
      ∀ packet ∈ [Packet.pingResp, .pingResp], packet.WellFormed := by
    simp [Packet.wellFormed_pingResp]
  have inLimit :
      ∀ packet ∈ [Packet.pingResp, .pingResp], packet.InLimit := by
    simp [Packet.inLimit_pingResp]
  have isReset : ((accepted pingPeer).clients 0).message.IsReset :=
    ⟨by decide, by decide, by decide⟩
  have reads :
      (Polling.after (fun world => world.poll 0)
        ([Packet.pingResp, .pingResp].flatMap Packet.bytes).length
        (accepted pingPeer)).ReadsFrom 0 0 :=
    ⟨by decide, by decide, by decide⟩
  exact (stream_framing wellFormed inLimit isReset (by decide)
    (faces_accepted pingPeer) reads.not_shut).2 (by decide)

end World

end SimpleTlsBroker
