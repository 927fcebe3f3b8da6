import SimpleTlsBroker.Library.IndexLoop
import SimpleTlsBroker.LoopRefinement
import SimpleTlsBroker.Scripts

namespace SimpleTlsBroker

/-!
# Whom a pass of the loop reaches

`MqttBroker::loop` goes through its list by index, and a client that closes
itself is taken off the list by its own `loop`.  The next client then moves to
its place and has to wait for the next pass.
-/

open History

namespace World

variable {Index Os : Type} [Platform Os]
variable {broker : BrokerId}
variable {client : ClientId}
variable {actors : ClientId → Prop}
variable {list : List ClientId}
variable {before after world : World Index Os}

/-! ## What a client does to the list -/

/-- The list is as it was, apart from one client at most. -/
def ListedBut
    (broker : BrokerId)
    (client : ClientId)
    (list : List ClientId)
    (world : World Index Os) : Prop :=
  world.members broker = list ∨ world.members broker = list.erase client

omit [Platform Os] in
/-- Keeping the links keeps the list. -/
theorem ListedBut.kept
    (listed : ListedBut broker client list before)
    (kept : LinksKept before after) :
    ListedBut broker client list after := by
  unfold ListedBut members
  rw [kept.brokers]
  exact listed

/-- Closing the client takes it off the list. -/
theorem ListedBut.close
    (listed : ListedBut broker client list world)
    (linked : Linked broker world)
    (nodup : list.Nodup) :
    ListedBut broker client list (world.close client) := by
  right
  rw [linked.members_close]
  rcases listed with same | erased
  · rw [same]
  · rw [erased, List.erase_of_not_mem nodup.not_mem_erase]

/-- Changes that close the client at most. -/
theorem Changes.listedBut
    (changes : Changes (only client) actors before after)
    (linked : Linked broker before)
    (nodup : list.Nodup)
    (listed : ListedBut broker client list before) :
    ListedBut broker client list after := by
  let invariant (world : World Index Os) : Prop :=
    Linked broker world ∧ ListedBut broker client list world
  have preserves (first second : World Index Os)
      (step : ∃ actor, actors actor ∧ Change (only client) actor first second)
      (holds : invariant first) :
      invariant second := by
    obtain ⟨actor, _, change⟩ := step
    obtain ⟨linked, listed⟩ := holds
    refine ⟨linked.change change, ?_⟩
    rcases change.quiet_or with quiet | ⟨bytes, _, rfl⟩ | ⟨isClient, rfl⟩
    · exact listed.kept quiet.toLinksKept
    · exact listed
    · obtain rfl : actor = client := isClient
      exact listed.close linked nodup
  exact (run_preserves preserves changes ⟨linked, listed⟩).2

variable [Indexer Index]

/-- The read loop of a client takes nobody else off the list. -/
theorem readLoop_listedBut
    {fuel : Nat}
    (earlier : ReadLoopRun broker client before world)
    (nodup : list.Nodup)
    (listed : ListedBut broker client list world)
    (returned : readLoop client fuel world = some after) :
    ListedBut broker client list after := by
  let invariant (world : World Index Os) : Prop :=
    ReadLoopRun broker client before world ∧
      ListedBut broker client list world
  have preserves (world : World Index Os) (holds : invariant world) :
      invariant (world.poll client).2 := by
    obtain ⟨reading, listed⟩ := holds
    refine ⟨reading.poll, ?_⟩
    obtain ⟨loopRun, isRemote, polled | shut⟩ := reading
    · obtain ⟨read, kept, changes⟩ :=
        poll_only loopRun.linked polled isRemote
      exact changes.listedBut (loopRun.linked.kept kept) nodup
        (listed.kept kept)
    · rw [poll_of_shut shut]
      exact listed
  rw [readLoop_eq_loop] at returned
  exact (Polling.loop_preserves preserves returned ⟨earlier, listed⟩).2

/-- Nor does the rest of `MqttClient::loop`. -/
theorem clientLoop_listedBut
    {fuel : Nat}
    (linked : Linked broker world)
    (polled : world.Polled broker client)
    (returned : clientLoop fuel world client = some after) :
    ListedBut broker client (world.members broker) after := by
  have changes :
      Changes (only client) (fun _ => True) world (world.expire client) :=
    expire_changes trivial fun _ => rfl
  have checked : LoopRun broker world (world.expire client) :=
    LoopRun.step ⟨linked, .refl⟩ (.expire client polled)
  have listed :=
    changes.listedBut linked linked.nodup
      (.inl rfl : ListedBut broker client (world.members broker) world)
  have same := (expire_spared client world client).remote
  unfold clientLoop at returned
  dsimp only at returned
  split at returned
  · rename_i isRemote
    have settled :=
      changes.polledOrShut linked (same.symm.trans isRemote) (.inl polled)
    exact readLoop_listedBut ⟨checked, isRemote, settled⟩ linked.nodup listed
      returned
  · obtain rfl : world.expire client = after := Option.some.inj returned
    exact listed

/-! ## Passes -/

/-- `MqttBroker::loop` up to its own loop over the clients. -/
def beforeClients
    (fuel : Nat)
    (world : World Index Os)
    (broker : BrokerId) : Option (World Index Os) :=
  let world := world.accept broker
  match (world.brokers broker).broker with
  | none => some world
  | some upstream => world.clientLoop fuel upstream

/-- A pass of `MqttBroker::loop`, with the clients whose `loop` it calls. -/
def pass
    (fuel : Nat)
    (world : World Index Os)
    (broker : BrokerId) : Option (List ClientId × World Index Os) :=
  match world.beforeClients fuel broker with
  | none => none
  | some start =>
      IndexLoop.loop (fun world => world.members broker) (clientLoop fuel)
        fuel 0 start

/-- The loop over the list is a loop by index. -/
theorem clientsLoop_eq_loop
    (broker : BrokerId)
    (fuel rounds index : Nat)
    (world : World Index Os) :
    clientsLoop broker fuel rounds index world =
      (IndexLoop.loop (fun world => world.members broker) (clientLoop fuel)
        rounds index world).map Prod.snd := by
  induction rounds generalizing index world with
  | zero => rfl
  | succ rounds inductionHypothesis =>
      rw [clientsLoop, IndexLoop.loop]
      cases (world.members broker)[index]? with
      | none => rfl
      | some client =>
          dsimp only
          cases world.clientLoop fuel client with
          | none => rfl
          | some next =>
              dsimp only
              rw [inductionHypothesis, Option.map_map]
              rfl

/-- A pass is a call of `MqttBroker::loop`. -/
theorem brokerLoop_eq_pass
    (fuel : Nat)
    (world : World Index Os)
    (broker : BrokerId) :
    brokerLoop fuel world broker =
      (world.pass fuel broker).map Prod.snd := by
  unfold brokerLoop pass beforeClients
  dsimp only
  cases ((world.accept broker).brokers broker).broker with
  | none => exact clientsLoop_eq_loop broker fuel fuel 0 _
  | some upstream =>
      dsimp only
      cases (world.accept broker).clientLoop fuel upstream with
      | none => rfl
      | some next => exact clientsLoop_eq_loop broker fuel fuel 0 next

omit [Indexer Index] in
/-- An accept adds a client behind the others, if any. -/
theorem members_accept
    (world : World Index Os)
    (broker : BrokerId) :
    ∃ others,
      (world.accept broker).members broker =
        world.members broker ++ others := by
  cases found : world.device.checkAvail.1 with
  | none =>
      rw [accept_none broker found]
      exact ⟨[], (List.append_nil _).symm⟩
  | some slot =>
      exact ⟨[world.next], (created_accept broker found).1.members⟩

/-- Before its own loop `MqttBroker::loop` only adds to the list. -/
theorem members_beforeClients
    {fuel : Nat}
    {start : World Index Os}
    (linked : Linked broker world)
    (started : world.beforeClients fuel broker = some start) :
    Linked broker start ∧
      ∃ others, start.members broker = world.members broker ++ others := by
  obtain ⟨others, accepted⟩ := members_accept world broker
  have linkedThen : Linked broker (world.accept broker) := linked.accept
  unfold beforeClients at started
  dsimp only at started
  split at started
  · obtain rfl := Option.some.inj started
    exact ⟨linkedThen, others, accepted⟩
  · rename_i upstream isUpstream
    refine ⟨(clientLoop_run ⟨linkedThen, .refl⟩ (.inr isUpstream)
      started).linked, others, ?_⟩
    rw [← accepted]
    -- The upstream link is not on the list, so closing it changes nothing.
    rcases clientLoop_listedBut linkedThen (.inr isUpstream) started with
      same | erased
    · exact same
    · rw [erased,
        List.erase_of_not_mem (linkedThen.outside upstream isUpstream).1]

/-- The loop of a client takes itself off the list at most. -/
theorem selfRemoving_clientLoop
    (broker : BrokerId)
    (fuel : Nat) :
    IndexLoop.SelfRemoving
      (fun world : World Index Os => world.members broker)
      (clientLoop fuel) (Linked broker) where
  nodup _ linked := linked.nodup
  keeps _ _ _ linked member returned :=
    (clientLoop_run ⟨linked, .refl⟩ (.inl member) returned).linked
  removes _ _ _ linked member returned :=
    clientLoop_listedBut linked (.inl member) returned

/--
A pass of `MqttBroker::loop` calls the `loop` of every client that was on the
list at its start exactly once, if and only if none of them but the last is
taken off the list by its own `loop`.
-/
theorem polled_once_iff
    {fuel : Nat}
    {first start : World Index Os}
    {polled : List ClientId}
    (initial : Initial first broker)
    (earlier : Run broker always first world)
    (started : world.beforeClients fuel broker = some start)
    (returned : world.pass fuel broker = some (polled, after)) :
    (∀ client ∈ world.members broker, polled.count client = 1) ↔
      IndexLoop.Steady (fun world => world.members broker)
        (clientLoop fuel) (world.members broker) start := by
  obtain ⟨linked, others, added⟩ :=
    members_beforeClients (Linked.run initial earlier) started
  have split :
      start.members broker = [] ++ (world.members broker ++ others) := added
  have looped :
      IndexLoop.loop (fun world => world.members broker) (clientLoop fuel)
        fuel ([] : List ClientId).length start = some (polled, after) := by
    unfold pass at returned
    rw [started] at returned
    exact returned
  exact (selfRemoving_clientLoop broker fuel).visits_once_iff linked split
    looped

/-- Two local clients without deadline. -/
def idlePair : World StringIndexer Script :=
  performAll 0 always [.newLocal [] 0, .newLocal [] 0]
    (Script.setup
      { clock := 0
        connections := []
        receipts := []
        sendResults := [] })

/-- A pass calls both of them. -/
theorem polled_once_idle :
    ∃ polled after,
      idlePair.pass 3 0 = some (polled, after) ∧
        ∀ client ∈ idlePair.members 0, polled.count client = 1 := by
  have run :
      Run 0 always (Script.mk 0 [] [] []).setup idlePair :=
    run_performAll 0 always _ _
  have started : idlePair.beforeClients 3 0 = some (idlePair.accept 0) := rfl
  have kept :
      clientLoop 3 (idlePair.accept 0) 0 = some (idlePair.accept 0) := rfl
  obtain ⟨⟨polled, after⟩, returned⟩ :=
    Option.isSome_iff_exists.mp (by decide : (idlePair.pass 3 0).isSome)
  refine ⟨polled, after, returned, ?_⟩
  refine (polled_once_iff (Script.initial_setup _) run started returned).mpr ?_
  refine .inr fun next looped => ?_
  obtain rfl := Option.some.inj (kept.symm.trans looped)
  exact ⟨by decide, .inl rfl⟩

/-- Two accepted peers, of which the first sends PINGREQ without CONNECT. -/
def rudePair : World StringIndexer Script :=
  performAll 0 always [.accept, .accept]
    (Script.setup
      { clock := 0
        connections := [5, 6]
        receipts := Script.receive [0xC0, 0x00]
        sendResults := [] })

/-- The first closes itself, and the pass leaves the second one out. -/
theorem not_polled_once_rude :
    (∃ script : Script, Run 0 always script.setup rudePair) ∧
      rudePair.members 0 = [0, 1] ∧
      ∃ after, rudePair.pass 5 0 = some ([0], after) :=
  ⟨⟨_, run_performAll 0 always _ _⟩, by decide, _, rfl⟩

end World

end SimpleTlsBroker
