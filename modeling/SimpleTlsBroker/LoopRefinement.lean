import SimpleTlsBroker.ReadLoop
import SimpleTlsBroker.StepTransitions

namespace SimpleTlsBroker

/-!
# The loops as runs

A call of `MqttBroker::loop` that returns is a run: an accept, and for the
upstream link and every client of the list a timeout check and rounds of the
read loop.  A client that is closed in the middle of its read loop is polled
once more, but its session is shut by then and nothing happens.
-/

open History

namespace World

variable {Index Os : Type} [Platform Os]
variable {broker : BrokerId}
variable {actors : ClientId → Prop}
variable {before after world : World Index Os}
variable {client other : ClientId}

/-- The broker still polls a client, or there is nothing to read from it. -/
def PolledOrShut
    (broker : BrokerId)
    (client : ClientId)
    (world : World Index Os) : Prop :=
  world.Polled broker client ∨ world.Shut client

/-- A change that concerns the client at most by closing it. -/
def only
    (client : ClientId)
    (_ : World Index Os)
    (other : ClientId) : Prop :=
  other = client

/-- A client that leaves the list leaves its session shut. -/
theorem close_polledOrShut
    (linked : Linked broker world)
    (isRemote : (world.clients client).client = true)
    (polled : world.Polled broker client) :
    PolledOrShut broker client (world.close client) := by
  have device := world.device_close client
  rcases polled with member | isUpstream
  · right
    intro slot connected
    rw [connection_close] at connected
    have session : world.session? client = some slot := by
      simp [session?, linked.memberParent client member, isRemote, connected]
    rw [session] at device
    rw [device]
    exact Device.shut_httpdSessDelete _ slot
  · left
    right
    rw [upstream_close]
    exact isUpstream

/-- A change that closes one client at most keeps it polled, or shut. -/
theorem Change.polledOrShut
    {actor : ClientId}
    (change : Change (only client) actor before after)
    (linked : Linked broker before)
    (isRemote : (before.clients client).client = true)
    (settled : PolledOrShut broker client before) :
    PolledOrShut broker client after := by
  rcases change.quiet_or with quiet | ⟨bytes, _, rfl⟩ | ⟨isClient, rfl⟩
  · rcases settled with polled | shut
    · left
      unfold Polled members
      rw [quiet.brokers]
      exact polled
    · right
      intro slot connected
      rw [quiet.connection] at connected
      rw [Device.fd, quiet.hd]
      exact shut slot connected
  · have shrunk :=
      (Spared.writeClient client before actor bytes).toSessionsShrunk
    exact settled.imp id fun shut => shut.shrunk shrunk
  · obtain rfl : actor = client := isClient
    rcases settled with polled | shut
    · exact close_polledOrShut linked isRemote polled
    · exact .inr
        (shut.shrunk (Spared.close actor before actor).toSessionsShrunk)

/-- So do several of them. -/
theorem Changes.polledOrShut
    (changes : Changes (only client) actors before after)
    (linked : Linked broker before)
    (isRemote : (before.clients client).client = true)
    (settled : PolledOrShut broker client before) :
    PolledOrShut broker client after := by
  let invariant (world : World Index Os) : Prop :=
    Linked broker world ∧ (world.clients client).client = true ∧
      PolledOrShut broker client world
  have preserves (first second : World Index Os)
      (step : ∃ actor, actors actor ∧ Change (only client) actor first second)
      (holds : invariant first) :
      invariant second := by
    obtain ⟨actor, _, change⟩ := step
    obtain ⟨linked, isRemote, settled⟩ := holds
    refine ⟨linked.change change, ?_,
      change.polledOrShut linked isRemote settled⟩
    rcases change.quiet_or with quiet | ⟨bytes, _, rfl⟩ | ⟨_, rfl⟩
    · rw [quiet.client]
      exact isRemote
    · exact isRemote
    · rw [client_close]
      exact isRemote
  exact (run_preserves preserves changes ⟨linked, isRemote, settled⟩).2.2

variable [Indexer Index]

/-- A round of the read loop closes nobody but its client. -/
theorem poll_only
    (linked : Linked broker world)
    (polled : world.Polled broker client)
    (isRemote : (world.clients client).client = true) :
    ∃ read,
      LinksKept world read ∧
        Changes (only client) (fun _ => True) read (world.poll client).2 := by
  obtain ⟨device, _, result | ⟨slot, byte, result⟩⟩ :=
    world.poll_cases client
  · exact ⟨_, result ▸ .device world device, .refl⟩
  · let fed : World Index Os :=
      { world with device := device }.log (.fed client slot byte)
    have fedKept : LinksKept world fed :=
      .trans (.device world device) (.log _ _)
    have changes :
        Changes (only client) (fun _ => True) fed (fed.feed client byte) :=
      feed_changes byte (linked.kept fedKept) polled (fun _ _ => trivial)
        isRemote fun _ _ => rfl
    exact ⟨fed, fedKept, result ▸ changes⟩

/-- A round of the read loop leaves a client polled, or its session shut. -/
theorem poll_polledOrShut
    (linked : Linked broker world)
    (polled : world.Polled broker client)
    (isRemote : (world.clients client).client = true) :
    PolledOrShut broker client (world.poll client).2 := by
  obtain ⟨read, kept, changes⟩ := poll_only linked polled isRemote
  refine changes.polledOrShut (linked.kept kept)
    ((kept.client client).trans isRemote) (.inl ?_)
  unfold Polled members
  rw [kept.brokers]
  exact polled

/-- What is known before and after a loop. -/
structure LoopRun
    (broker : BrokerId)
    (before after : World Index Os) : Prop where
  linked : Linked broker after
  run : Run broker always before after

/-- One more step. -/
theorem LoopRun.step
    {action : Action Os}
    (earlier : LoopRun broker before world)
    (step : Step broker world action after) :
    LoopRun broker before after :=
  ⟨earlier.linked.step step, earlier.run.tail ⟨action, step, trivial⟩⟩

/-- What is known about a client between two rounds of its read loop. -/
structure ReadLoopRun
    (broker : BrokerId)
    (client : ClientId)
    (before after : World Index Os) : Prop where
  loopRun : LoopRun broker before after
  isRemote : (after.clients client).client = true
  settled : PolledOrShut broker client after

/-- One more round. -/
theorem ReadLoopRun.poll
    (earlier : ReadLoopRun broker client before world) :
    ReadLoopRun broker client before (world.poll client).2 := by
  obtain ⟨loopRun, isRemote, polled | shut⟩ := earlier
  · obtain ⟨bytes, _, receives⟩ := poll_receives isRemote
    exact
      { loopRun := loopRun.step (.poll client polled)
        isRemote := receives.remote.trans isRemote
        settled := poll_polledOrShut loopRun.linked polled isRemote }
  · rw [poll_of_shut shut]
    exact ⟨loopRun, isRemote, .inr shut⟩

/-- The read loop of a client. -/
theorem readLoop_run
    {fuel : Nat}
    (earlier : ReadLoopRun broker client before world)
    (returned : readLoop client fuel world = some after) :
    LoopRun broker before after := by
  rw [readLoop_eq_loop] at returned
  exact
    (Polling.loop_preserves (fun _ holds => ReadLoopRun.poll holds) returned
      earlier).loopRun

/-- `MqttClient::loop`. -/
theorem clientLoop_run
    {fuel : Nat}
    (earlier : LoopRun broker before world)
    (polled : world.Polled broker client)
    (returned : clientLoop fuel world client = some after) :
    LoopRun broker before after := by
  have checked := earlier.step (.expire client polled)
  have changes :
      Changes (only client) (fun _ => True) world (world.expire client) :=
    expire_changes trivial fun _ => rfl
  have same := (expire_spared client world client).remote
  unfold clientLoop at returned
  dsimp only at returned
  split at returned
  · rename_i isRemote
    have settled :=
      changes.polledOrShut earlier.linked (same.symm.trans isRemote)
        (.inl polled)
    exact readLoop_run ⟨checked, isRemote, settled⟩ returned
  · obtain rfl : world.expire client = after := Option.some.inj returned
    exact checked

/-- The loop over the client list. -/
theorem clientsLoop_run
    {fuel rounds index : Nat}
    (earlier : LoopRun broker before world)
    (returned : clientsLoop broker fuel rounds index world = some after) :
    LoopRun broker before after := by
  induction rounds generalizing index world with
  | zero => simp [clientsLoop] at returned
  | succ rounds inductionHypothesis =>
      rw [clientsLoop] at returned
      split at returned
      · obtain rfl : world = after := Option.some.inj returned
        exact earlier
      · rename_i client found
        have polled : world.Polled broker client :=
          .inl (List.mem_of_getElem? found)
        cases looped : world.clientLoop fuel client with
        | none =>
            simp [looped] at returned
        | some next =>
            rw [looped] at returned
            exact inductionHypothesis
              (clientLoop_run earlier polled looped) returned

/-- A call of `MqttBroker::loop` that returns is a run. -/
theorem brokerLoop_run
    {fuel : Nat}
    (linked : Linked broker world)
    (returned : brokerLoop fuel world broker = some after) :
    Run broker always world after := by
  have start : LoopRun broker world world := ⟨linked, .refl⟩
  have accepted := start.step .accept
  unfold brokerLoop at returned
  dsimp only at returned
  split at returned
  · exact (clientsLoop_run accepted returned).run
  · rename_i upstream isUpstream
    rcases looped : (world.accept broker).clientLoop fuel upstream with
      _ | next
    · simp [looped] at returned
    · rw [looped] at returned
      have upstreamRun := clientLoop_run accepted (.inr isUpstream) looped
      exact (clientsLoop_run upstreamRun returned).run

end World

end SimpleTlsBroker
