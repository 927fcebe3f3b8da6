import SimpleTlsBroker.StepTransitions
import SimpleTlsBroker.FanOut

namespace SimpleTlsBroker

/-!
# Local clients

A local client has no connection, so nobody but the broker can close it: when
its deadline has passed, or when a message that is not a PUBLISH message is
published to it.  The deadline is set by every delivery and is never switched
off.
-/

open History

namespace World

variable {Index Os : Type} [Indexer Index] [Platform Os]

/--
The client is not overdue when the broker looks at it, and the messages that
the application publishes fit into a message.
-/
def SparesClient
    (client : ClientId)
    (world : World Index Os) : Action Os → Prop
  | .expire other => other = client → ¬ world.Overdue client
  | .publish _ topic payload =>
      (publishMessage (Indexer.str world.indexer topic) payload).kind? =
        some .publish
  | _ => True

instance (world : World Index Os) (client : ClientId) :
    Decidable (world.Overdue client) :=
  inferInstanceAs (Decidable (_ ∧ _))

instance
    (client : ClientId)
    (world : World Index Os)
    (action : Action Os) :
    Decidable (world.SparesClient client action) :=
  match action with
  | .expire other =>
      inferInstanceAs (Decidable (other = client → ¬ world.Overdue client))
  | .publish _ topic payload =>
      inferInstanceAs
        (Decidable
          ((publishMessage (Indexer.str world.indexer topic) payload).kind? =
            some .publish))
  | .accept | .poll _ | .newLocal _ _ | .setCallback _ | .subscribe _ _ _
  | .unsubscribe _ _ | .connectUpstream _ _ | .internTopic _
  | .releaseTopic _ | .environment _ => .isTrue trivial

/-- A local client in the list of the broker. -/
structure LocalMember
    (broker : BrokerId)
    (client : ClientId)
    (world : World Index Os) : Prop where
  member : client ∈ world.members broker
  isLocal : (world.clients client).client = false

variable {broker : BrokerId}
variable {client : ClientId}
variable {before middle after : World Index Os}

/-- Networked clients, and all clients but one, may be closed. -/
def AllBut
    (spared : ClientId)
    (world : World Index Os)
    (client : ClientId) : Prop :=
  (world.clients client).client = true ∨ client ≠ spared

omit [Indexer Index] in
/-- Transitions that spare a local member keep it. -/
theorem LocalMember.transition
    (localMember : LocalMember broker client before)
    (linked : Linked broker before)
    (transition : Transition broker (AllBut client) before after) :
    LocalMember broker client after := by
  have spared : ¬ AllBut client before client := by
    rintro (isRemote | other)
    · rw [localMember.isLocal] at isRemote
      contradiction
    · exact other rfl
  have kept := transition.memberKept linked localMember.member spared
  exact ⟨kept.member, kept.remote.trans localMember.isLocal⟩

omit [Indexer Index] in
/-- An accept keeps all members. -/
theorem LocalMember.accept
    (localMember : LocalMember broker client before)
    (linked : Linked broker before) :
    LocalMember broker client (before.accept broker) := by
  have kept := accept_memberKept linked localMember.member
  exact ⟨kept.member, kept.remote.trans localMember.isLocal⟩

/-- A step that spares a local member closes other clients at most. -/
theorem LocalMember.transitions
    {action : Action Os}
    (localMember : LocalMember broker client before)
    (linked : Linked broker before)
    (spares : before.SparesClient client action)
    (step : Step broker before action after) :
    action = .accept ∧ after = before.accept broker ∨
      Transitions broker (AllBut client) before after := by
  refine step.transitions linked (fun _ _ _ isRemote => .inl isRemote)
    ?_ ?_ ?_
  · rintro other rfl overdue
    by_cases same : other = client
    · exact absurd (same ▸ overdue) (spares same)
    · exact .inr same
  · rintro other topic payload rfl malformed
    exact absurd spares malformed
  · intro alive middle
    right
    rintro rfl
    cases isUpstream : (before.brokers broker).broker with
    | none =>
        have born := linked.member_lt_next localMember.member
        simp [upstreamLink, isUpstream] at born
    | some upstream =>
        have outside := (linked.outside upstream isUpstream).1
        refine outside ?_
        simpa [upstreamLink, isUpstream] using localMember.member

/-! ## What a publication returns -/

/-- A delivery has somewhere to send. -/
theorem publishIfSubscribed_sends
    (world : World Index Os)
    (client : ClientId)
    (topic : Topic)
    (msg : MqttMessage) :
    (world.publishIfSubscribed client topic msg).1.1 ≠ .nowhereToSend := by
  unfold publishIfSubscribed
  split
  · split
    · unfold sendTo
      split <;> simp
    · simp
  · simp

/-- A round of the loop of `publish` does not run out of places to send. -/
theorem publishStep_sends
    (broker : BrokerId)
    (source : ClientId)
    (topic : Topic)
    {state : (MqttError × MqttMessage) × World Index Os}
    (sends : state.1.1 ≠ .nowhereToSend)
    (client : ClientId) :
    (publishStep broker source topic state client).1.1 ≠
      .nowhereToSend := by
  obtain ⟨⟨retval, msg⟩, world⟩ := state
  unfold publishStep
  dsimp only
  split
  · split
    · dsimp only
      split
      · exact publishIfSubscribed_sends world _ topic msg
      · exact sends
    · exact publishIfSubscribed_sends world client topic msg
  · exact publishIfSubscribed_sends world client topic msg

/-- `MqttBroker::publish` never returns `MqttNowhereToSend`. -/
theorem publish_sends
    (world : World Index Os)
    (broker : BrokerId)
    (source : ClientId)
    (topic : Topic)
    (msg : MqttMessage) :
    (world.publish broker source topic msg).1.1 ≠ .nowhereToSend := by
  have loop (clients : List ClientId)
      (state : (MqttError × MqttMessage) × World Index Os)
      (sends : state.1.1 ≠ .nowhereToSend) :
      (clients.foldl (publishStep broker source topic) state).1.1 ≠
        .nowhereToSend := by
    induction clients generalizing state with
    | nil => exact sends
    | cons client rest inductionHypothesis =>
        exact inductionHypothesis _
          (publishStep_sends broker source topic sends client)
  exact loop _ _ (by simp)

/--
A local client stays in the list of its broker, with its parent set, in every
run in which it is never overdue at a timeout check and the application
publishes messages that fit.  Its `publish` always finds somewhere to send, and
what the broker publishes to a topic it is subscribed to reaches its callback.
-/
theorem local_client_stays
    {condition : World Index Os → Action Os → Prop}
    {id : List Byte}
    {alive : Nat}
    (initial : Initial before broker)
    (earlier : Run broker condition before middle)
    (run :
      Run broker (SparesClient middle.next)
        (middle.newLocal broker id alive) after) :
    middle.next ∈ after.members broker ∧
      (after.clients middle.next).parent = some broker ∧
        (∀ topic payload ret last,
          after.clientPublish middle.next topic payload = some (ret, last) →
            ret ≠ .nowhereToSend) ∧
          ∀ name payload topic msg source,
            SessionsApart Os →
            after.upstreamConnected broker = false →
            PublishFrame after msg name payload →
            Indexer.ExactAt after.indexer name topic →
            after.isSubscribedTo middle.next topic = true →
            (after.clients middle.next).callback = true →
            .callback middle.next topic payload ∈
              (after.publish broker source topic msg).2.trace := by
  have linked : Linked broker middle := Linked.run initial earlier
  have created := created_newLocal middle broker id alive
  have newLinked : Linked broker (middle.newLocal broker id alive) :=
    linked.step (.newLocal id alive)
  have start :
      LocalMember broker middle.next (middle.newLocal broker id alive) := by
    refine ⟨?_, ?_⟩
    · rw [created.members]
      simp
    · rw [created.self]
      rfl
  obtain ⟨lastLinked, stays⟩ :=
    Run.invariant_of newLinked run start
      (fun _ _ _ linked holds spares step =>
        holds.transitions linked spares step)
      (fun _ linked _ holds => holds.accept linked)
      fun _ _ linked transition holds => holds.transition linked transition
  have attached := lastLinked.memberParent _ stays.member
  refine ⟨stays.member, attached, ?_, ?_⟩
  · intro topic payload ret last returned
    have isRet := congrArg Prod.fst (clientPublish_eq_some returned)
    dsimp only at isRet
    rw [isRet]
    unfold publishBuilt
    rw [attached]
    exact publish_sends after broker middle.next topic _
  · intro name payload topic msg source apart noUpstream frame exact
      subscribed called
    exact publish_calls apart noUpstream frame exact stays.member
      stays.isLocal subscribed called source

/-- A server without peers. -/
def quietScript : Script where
  clock := 0
  connections := []
  receipts := []
  sendResults := []

/-- A local client that is told about its own publication. -/
def ownPublication : List (Action Script) :=
  [.internTopic [0x61], .subscribe 0 ⟨1⟩ 0, .setCallback 0,
    .publish 0 ⟨1⟩ [0x78]]

/-- Just before the deadline, and after it. -/
def lookAt (clock : Nat) : List (Action Script) :=
  [.environment { quietScript with clock := clock }, .expire 0]

/-- The run in which the broker looks at the client in time. -/
def punctualRun : World StringIndexer Script :=
  performAll 0 (SparesClient 0) (ownPublication ++ lookAt 65000)
    (quietScript.setup.newLocal 0 [] 0)

/-- The local client stays as long as the broker looks in time. -/
theorem local_client_stays_punctual :
    .callback 0 ⟨1⟩ [0x78] ∈ punctualRun.trace ∧
      0 ∈ punctualRun.members 0 := by
  refine ⟨by decide, ?_⟩
  have noSteps : Run 0 always quietScript.setup quietScript.setup := .refl
  exact (local_client_stays quietScript.initial_setup noSteps
    (run_performAll 0 _ _ _)).1

/-- The run in which the broker looks at the client one millisecond later. -/
def lateRun : World StringIndexer Script :=
  performAll 0 always (ownPublication ++ lookAt 65001)
    (quietScript.setup.newLocal 0 [] 0)

/-- The delivery set a deadline, and the broker closes the local client. -/
theorem not_member_late :
    Initial quietScript.setup 0 ∧
      Run 0 always (quietScript.setup.newLocal 0 [] 0) lateRun ∧
        0 ∉ lateRun.members 0 ∧
          (lateRun.clients 0).parent = none ∧
            (lateRun.clientPublish 0 ⟨1⟩ []).map Prod.fst =
              some .nowhereToSend :=
  ⟨quietScript.initial_setup, run_performAll 0 _ _ _, by decide, by decide,
    by decide⟩

end World

end SimpleTlsBroker
