import SimpleTlsBroker.FirmwareSetup
import SimpleTlsBroker.LiftSafety

namespace SimpleTlsBroker

/-!
# Runs of the program

The client of the application stays what `setup` made it: the only local client
of the broker, subscribed to its five topics under their names.  So every step
returns, whatever peers send, as long as payloads fit into `msg` and no topic
has too many holders, and the callback is not called while it is running.
-/

open World

namespace LiftStep

/-- One step more. -/
theorem run_concat
    (sscanf : Sscanf)
    (steps : List (Nat × LiftStep))
    (now : Nat)
    (step : LiftStep)
    (lift : Lift) :
    run sscanf (steps ++ [(now, step)]) lift =
      step.apply sscanf now (run sscanf steps lift) := by
  unfold run
  rw [List.foldl_append]
  rfl

end LiftStep

namespace Program

variable {Os : Type}
variable {surroundings : Surroundings Os}
variable {broker : BrokerId}
variable {program before after : Program Os}
variable {client : ClientId}
variable {performed : List (Nat × Action Os)}

/-! ## What stays of the setup -/

/-- The client of the application as `setup` left it, and the books. -/
structure Installed
    (broker : BrokerId)
    (program : Program Os) : Prop where
  linked : Linked broker program.world
  ledger : World.Ledger (fun _ => 0) program.world
  noUpstream : (program.world.brokers broker).broker = none
  isLocal : (program.world.clients program.mqttClient).client = false
  born : program.mqttClient < program.world.next
  remote :
    ∀ client ∈ program.world.members broker, client ≠ program.mqttClient →
      (program.world.clients client).client = true
  commands :
    ∀ topic ∈ (program.world.clients program.mqttClient).subscriptions,
      program.world.indexer.str topic ∈ commandNames

/-- There is room for five holders more. -/
theorem Spacious.fits
    {room : Nat}
    (spacious : program.Spacious)
    (small : room ≤ 5)
    (topic : Topic) :
    program.world.held (fun _ => 0) topic + room ≤ 255 :=
  Nat.add_le_add (spacious topic) small

/-- No counter is near its end. -/
theorem Spacious.world (spacious : program.Spacious) :
    program.world.Spacious fun _ => 0 :=
  fun topic => Nat.le_trans (spacious topic) (by decide)

namespace Installed

/-- The application is attentive. -/
theorem attentive
    {room : Nat}
    (installed : Installed broker program)
    (spacious : program.Spacious)
    (small : room ≤ 5) :
    Attentive broker program.mqttClient room program.world where
  linked := installed.linked
  noUpstream := installed.noUpstream
  isLocal := installed.isLocal
  remote := installed.remote
  commands := installed.commands
  booked := ⟨_, installed.ledger.booked, spacious.fits small⟩

/-- What keeps the books leaves the client as it is. -/
theorem follows
    {room : Nat}
    (installed : Installed broker before)
    (spacious : before.Spacious)
    (small : room ≤ 5)
    (mqttClient : after.mqttClient = before.mqttClient)
    (follows : Follows broker room before.world after.world) :
    Installed broker after := by
  have later := (installed.attentive spacious small).later follows
  rw [← mqttClient] at later
  refine ⟨later.linked, ?_, later.noUpstream, later.isLocal, ?_,
    later.remote, later.commands⟩
  · exact (installed.ledger.keeps follows.books (spacious.fits small)).ledger
  · rw [mqttClient, follows.books.next]
    exact installed.born

/-- The application keeps its names if it keeps its subscriptions. -/
theorem commands_of_accounted
    {world : World StringIndexer Os}
    (installed : Installed broker before)
    (accounted :
      Accounted (fun _ => 0) (fun _ => 0) before.world world)
    (subscriptions :
      (world.clients before.mqttClient).subscriptions =
        (before.world.clients before.mqttClient).subscriptions) :
    ∀ topic ∈ (world.clients before.mqttClient).subscriptions,
      world.indexer.str topic ∈ commandNames := by
  intro topic member
  have heldAfter : 0 < world.held (fun _ => 0) topic :=
    accounted.ledger.booked.subscribed before.mqttClient topic member
  rw [subscriptions] at member
  have heldBefore : 0 < before.world.held (fun _ => 0) topic :=
    installed.ledger.booked.subscribed before.mqttClient topic member
  rw [accounted.names topic heldBefore heldAfter]
  exact installed.commands topic member

variable [Platform Os]

/-- A round that completes no PUBLISH message. -/
theorem poll_other
    (installed : Installed broker before)
    (polled : before.world.Polled broker client)
    (spacious : before.Spacious)
    (spaciousAfter :
      Spacious { before with world := (before.world.poll client).2 })
    (notPublish :
      ∀ middle mesg,
        before.world.arriving? client = some (middle, mesg) →
          mesg.kind? ≠ some .publish) :
    Installed broker
      { before with world := (before.world.poll client).2 } := by
  have member : client ∈ before.world.members broker := by
    rcases polled with member | isUpstream
    · exact member
    · rw [installed.noUpstream] at isUpstream
      contradiction
  by_cases isApp : client = before.mqttClient
  · subst isApp
    have unconnected :=
      installed.linked.unconnected_of_local installed.isLocal
    rw [poll_unconnected unconnected]
    exact installed
  · have accounted :=
      installed.ledger.poll (installed.linked.member_lt_next member)
        spacious.world spaciousAfter.world
    have private_ :=
      poll_private (installed.linked.active_of_polled polled) notPublish
    refine ⟨installed.linked.step (.poll client polled), accounted.ledger,
      (private_.upstream broker).trans installed.noUpstream,
      (private_.client _).trans installed.isLocal, ?_, ?_, ?_⟩
    · rw [private_.next]
      exact installed.born
    · intro other inAfter distinct
      exact (private_.client other).trans
        (installed.remote other (private_.members broker inAfter) distinct)
    · exact installed.commands_of_accounted accounted
        (private_.subscriptions _ (Ne.symm isApp))

/-- The accept part of the loop adds a networked client at most. -/
theorem accept
    (installed : Installed broker before) :
    Installed broker
      { before with world := before.world.accept broker } := by
  have accounted := installed.ledger.accept broker
  cases found : before.world.device.checkAvail.1 with
  | none =>
      rw [accept_none broker found] at accounted ⊢
      exact ⟨installed.linked.device _, accounted.ledger,
        installed.noUpstream, installed.isLocal, installed.born,
        installed.remote, installed.commands⟩
  | some slot =>
      obtain ⟨created, _⟩ := created_accept broker found
      have same := created.other before.mqttClient (Nat.ne_of_lt installed.born)
      refine ⟨installed.linked.accept, accounted.ledger, ?_, ?_, ?_, ?_, ?_⟩
      · exact (congrArg MqttBroker.broker (created.brokers broker) :).trans
          installed.noUpstream
      · exact (congrArg MqttClient.client same).trans installed.isLocal
      · rw [created.next]
        exact Nat.lt_succ_of_lt installed.born
      · intro client member distinct
        rw [created.members] at member
        rcases List.mem_append.mp member with earlier | isNew
        · rw [created.other client
            (Nat.ne_of_lt (installed.linked.member_lt_next earlier))]
          exact installed.remote client earlier distinct
        · obtain rfl := List.mem_singleton.mp isNew
          rw [created.self]
          rfl
      · exact installed.commands_of_accounted accounted
          (congrArg MqttClient.subscriptions same)

/-- The timeout check. -/
theorem expire_spec
    (world : World StringIndexer Os)
    (client : ClientId) :
    Follows broker 0 world (world.expire client) ∧
      Uncalled world (world.expire client) := by
  unfold World.expire
  dsimp only
  split
  · split
    · exact ⟨.close world client, Uncalled.close world client⟩
    · split
      · exact ⟨.clientAlive world client 0, .refl _⟩
      · exact ⟨.refl world, .refl _⟩
    · exact ⟨.refl world, .refl _⟩
  · exact ⟨.refl world, .refl _⟩

/-- The accept part of the loop calls nobody. -/
theorem uncalled_accept
    (world : World StringIndexer Os)
    (broker : BrokerId) :
    Uncalled world (world.accept broker) := by
  refine (trace_accept world broker).weaken ?_
  rintro event (isDeletion | ⟨slot, rfl⟩)
  · cases event with
    | callback _ _ _ => exact isDeletion.elim
    | _ => rfl
  · rfl

/-! ## Steps -/

/-- What a step makes of the lift, and what it notes. -/
inductive Moves
    (surroundings : Surroundings Os)
    (before : Program Os)
    (action : Action Os)
    (after : Program Os) : Prop where
  | ticked
      (now : Nat)
      (looped : ∀ time, loopTime? (time, action) = some time)
      (isNow : before.world.device.millis = now)
      (lift : after.lift = before.lift.loopClient now)
      (history : after.history = before.history ++ [.loopClient now])
      (calls :
        after.world.trace.callbackCalls = before.world.trace.callbackCalls)
  | heard
      (notLooped : ∀ time, loopTime? (time, action) = none)
      (hears : Hears surroundings before after)

/-- A step returns the same, however often the callback may be called. -/
structure Performs
    (surroundings : Surroundings Os)
    (broker : BrokerId)
    (before : Program Os)
    (action : Action Os)
    (after : Program Os) : Prop where
  returns :
    ∀ fuel,
      before.perform surroundings broker (fuel + 1) action = some after
  mqttClient : after.mqttClient = before.mqttClient
  moves : Moves surroundings before action after
  installed : after.Spacious → Installed broker after

/-- Every step returns. -/
theorem step
    (installed : Installed broker before)
    (spacious : before.Spacious)
    (surroundings : Surroundings Os)
    {action : Action Os}
    (permitted : before.Permits broker action) :
    ∃ after, Performs surroundings broker before action after := by
  cases action with
  | loopClient =>
      have attentive :=
        @Installed.attentive _ _ _ 2 installed spacious (by decide)
      obtain ⟨follows, uncalled⟩ :=
        follows_said attentive surroundings
          (before.lift.loopClient before.world.device.millis)
      exact ⟨_, fun _ => loopClient_eq attentive surroundings _, rfl,
        .ticked _ (fun _ => rfl) rfl rfl rfl uncalled.calls,
        fun _ => installed.follows spacious (by decide) rfl follows⟩
  | accept =>
      have quiet :=
        @Unheard.of_uncalled _ before _
          (uncalled_accept before.world broker)
      exact ⟨_, fun _ => rfl, rfl,
        .heard (fun _ => rfl) (.nothing quiet),
        fun _ => installed.accept⟩
  | expire client =>
      obtain ⟨follows, uncalled⟩ :=
        @expire_spec _ broker _ before.world client
      exact ⟨_, fun _ => rfl, rfl,
        .heard (fun _ => rfl) (.nothing (.of_uncalled uncalled)),
        fun _ => installed.follows spacious (by decide) rfl follows⟩
  | environment os =>
      have follows :
          Follows broker 0 before.world
            { before.world with
              device := { before.world.device with os := os } } :=
        .device before.world _
      exact ⟨_, fun _ => rfl, rfl,
        .heard (fun _ => rfl) (.nothing ⟨rfl, rfl, rfl⟩),
        fun _ => installed.follows spacious (by decide) rfl follows⟩
  | poll client =>
      have attentive :=
        @Installed.attentive _ _ _ 3 installed spacious (by decide)
      cases @polls _ _ surroundings _ _ _ attentive permitted with
      | published middle mesg arriving isPublish settles =>
          exact ⟨_,
            fun fuel =>
              settles.returns _ (answers_callback surroundings broker fuel),
            settles.mqttClient, .heard (fun _ => rfl) settles.hears,
            fun _ => installed.follows spacious (by decide)
              settles.mqttClient settles.follows⟩
      | other returns notPublish =>
          have alone :=
            poll_private (installed.linked.active_of_polled permitted)
              notPublish
          exact ⟨_, fun _ => returns _, rfl,
            .heard (fun _ => rfl) (.nothing (.of_uncalled alone.uncalled)),
            fun spaciousAfter =>
              installed.poll_other permitted spacious spaciousAfter
                notPublish⟩

end Installed

/-! ## Runs -/

/-- The names of the application are a vocabulary of their own. -/
def commandVocabulary : Vocabulary where
  names := commandNames.toFinset
  noNul := by decide +kernel
  beginsIs := by decide +kernel
  short := by decide +kernel
  enough := by decide +kernel

variable [Platform Os]

/-- The setup installs the application. -/
theorem Subscribed.installed
    {vocabulary : Vocabulary}
    (subscribed : Subscribed vocabulary broker before)
    (surroundings : Surroundings Os) :
    Installed broker (before.reported surroundings) ∧
      (before.reported surroundings).Spacious ∧
        (before.reported surroundings).lift = Lift.setupClient ∧
          (before.reported surroundings).history = [] ∧
            (before.reported surroundings).world.trace.callbackCalls = [] := by
  have attentive := subscribed.attentive
  obtain ⟨⟨follows, uncalled⟩, _⟩ :=
    mqttPublish_eq attentive surroundings (callback surroundings 0) .connected
  have few (topic : Topic) :
      (before.reported surroundings).world.holders topic ≤ 1 := by
    have sameHeld := congrFun (follows.books.held fun _ => 0) topic
    have fewBefore := subscribed.held_le topic
    rw [← sameHeld] at fewBefore
    exact fewBefore
  have installed : Installed broker before :=
    ⟨subscribed.linked, subscribed.filed.ledger, subscribed.noUpstream,
      subscribed.isLocal, subscribed.born, attentive.remote,
      attentive.commands⟩
  have spacious : before.Spacious := fun topic =>
    Nat.le_trans (subscribed.held_le topic) (by decide)
  refine ⟨installed.follows spacious (by decide) rfl follows,
    fun topic => Nat.le_trans (few topic) (by decide), ?_,
    subscribed.noHistory, uncalled.calls.trans subscribed.noCalls⟩
  change before.lift.publish .connected = Lift.setupClient
  rw [subscribed.lift]
  rfl

/-- The application stays installed while there is space. -/
theorem Reachable.installed
    {surroundings : Surroundings Os}
    {condition : Program Os → Prop}
    (spaciousOf : ∀ program, condition program → program.Spacious)
    (reachable :
      Reachable surroundings broker condition performed program) :
    Installed broker program ∧ program.Spacious := by
  induction reachable with
  | setup fuel alive world after initial noTopics returned =>
      cases fuel with
      | zero => cases returned
      | succ fuel =>
          obtain ⟨before, subscribed, returns⟩ :=
            @setupClient_returns _ commandVocabulary _ _ _ initial noTopics
              (fun _ => List.mem_toFinset.mpr) surroundings alive
          obtain rfl :=
            Option.some.inj ((returns fuel).symm.trans returned)
          obtain ⟨installed, spacious, _⟩ :=
            subscribed.installed surroundings
          exact ⟨installed, spacious⟩
  | step fuel action performed before after _ permitted returned holds
      inductionHypothesis =>
      obtain ⟨installed, spacious⟩ := inductionHypothesis
      obtain ⟨after', performs⟩ :=
        installed.step spacious surroundings permitted
      obtain rfl :=
        Option.some.inj ((performs.returns fuel).symm.trans returned)
      exact ⟨performs.installed (spaciousOf _ holds), spaciousOf _ holds⟩

/-! ## Runs that can be computed -/

omit [Platform Os] in
/-- With few clients there are few holders. -/
theorem spacious_of_next (few : program.world.next ≤ 250) :
    program.Spacious := by
  intro topic
  unfold holders Shares.count
  refine Nat.le_trans (Finset.card_filter_le _ _) ?_
  rw [Finset.card_range]
  exact few

instance
    (broker : BrokerId)
    (program : Program Os)
    (action : Action Os) : Decidable (program.Permits broker action) :=
  match action with
  | .expire _ | .poll _ => inferInstanceAs (Decidable (_ ∨ _))
  | .loopClient | .accept | .environment _ => .isTrue trivial

instance (program : Program Os) : Decidable program.FitsMsg :=
  inferInstanceAs (Decidable (∀ call ∈ _, _ < _))

/-- Perform actions, as long as they are permitted and stay within bounds. -/
def performAll
    (surroundings : Surroundings Os)
    (broker : BrokerId) :
    List (Action Os) → List (Nat × Action Os) × Program Os →
      Option (List (Nat × Action Os) × Program Os)
  | [], run => some run
  | action :: rest, (performed, program) =>
      if program.Permits broker action then
        (program.perform surroundings broker 1 action).bind fun after =>
          if after.FitsMsg ∧ after.world.next ≤ 250 then
            performAll surroundings broker rest
              (performed ++ [(program.world.device.millis, action)], after)
          else
            none
      else
        none

/-- What they lead to is reachable. -/
theorem reachable_performAll
    {surroundings : Surroundings Os}
    {actions : List (Action Os)}
    {first last : List (Nat × Action Os) × Program Os}
    (reachable :
      Reachable surroundings broker
        (fun program => program.FitsMsg ∧ program.Spacious) first.1 first.2)
    (leads : performAll surroundings broker actions first = some last) :
    Reachable surroundings broker
      (fun program => program.FitsMsg ∧ program.Spacious) last.1 last.2 := by
  induction actions generalizing first with
  | nil =>
      obtain rfl := Option.some.inj leads
      exact reachable
  | cons action rest inductionHypothesis =>
      rw [performAll] at leads
      split at leads
      · obtain ⟨middle, returned, later⟩ :=
          Option.bind_eq_some_iff.mp leads
        split at later
        · rename_i bounds
          refine inductionHypothesis ?_ later
          exact .step 0 action first.1 first.2 middle reachable ‹_› returned
            ⟨bounds.1, spacious_of_next bounds.2⟩
        · contradiction
      · contradiction

/-- A platform on which nothing is written into messages. -/
def bareSurroundings : Surroundings Script where
  sscanf := noNumbers
  localIp := []
  decimals _ := []
  stack _ _ := 0
  h _ := 0

/-- A PUBLISH message for `"r2d-fx/query"`. -/
def queryPacket : List Byte :=
  [0x30, 0x0F, 0x00, 0x0C] ++ ascii "r2d-fx/query" ++ [0x78]

/-- A peer logs in and queries. -/
def queryScript : Script where
  clock := 0
  connections := [5]
  receipts := Script.receive (Script.connectPacket ++ queryPacket)
  sendResults := []

/-- The program when all of the query but its last byte has arrived. -/
def asking? : Option (List (Nat × Action Script) × Program Script) :=
  (setupClient bareSurroundings 1 queryScript.setup 0 0).bind fun start =>
    performAll bareSurroundings 0
      (.accept :: .loopClient :: List.replicate 37 (.poll 1)) ([], start)

/-- It gets there. -/
theorem isSome_asking : asking?.isSome = true := by decide +kernel

/-- What was performed, and this program. -/
def asking : List (Nat × Action Script) × Program Script :=
  asking?.get isSome_asking

/-- It is a reachable one. -/
theorem reachable_asking :
    Reachable bareSurroundings 0
      (fun program => program.FitsMsg ∧ program.Spacious)
      asking.1 asking.2 := by
  obtain ⟨start, returned, leads⟩ :=
    Option.bind_eq_some_iff.mp (Option.some_get isSome_asking).symm
  have initial := queryScript.initial_setup
  exact @reachable_performAll _ _ _ _ _ ([], start) asking
    (.setup 1 0 queryScript.setup start initial rfl returned) leads

/-- The last byte arrives. -/
def asked? : Option (List (Nat × Action Script) × Program Script) :=
  performAll bareSurroundings 0 [.poll 1] asking

/-- That can be done. -/
theorem isSome_asked : asked?.isSome = true := by decide +kernel

/-- The program afterwards. -/
def asked : List (Nat × Action Script) × Program Script :=
  asked?.get isSome_asked

/-- It is reachable, too. -/
theorem reachable_asked :
    Reachable bareSurroundings 0
      (fun program => program.FitsMsg ∧ program.Spacious)
      asked.1 asked.2 :=
  reachable_performAll reachable_asking (Option.some_get isSome_asked).symm

/-! ## Every step returns -/

/--
Whatever peers have sent, as long as the callback had room for every payload
and no topic too many holders, the next step of the program returns, and it
returns the same if the callback may only be called when it is not running:
what the application publishes never comes back to it.
-/
theorem returns_of_reachable
    {surroundings : Surroundings Os}
    (reachable :
      Reachable surroundings broker
        (fun program => program.FitsMsg ∧ program.Spacious)
        performed program)
    {action : Action Os}
    (permitted : program.Permits broker action) :
    ∃ after,
      ∀ fuel,
        program.perform surroundings broker (fuel + 1) action =
          some after := by
  obtain ⟨installed, spacious⟩ := reachable.installed fun _ => And.right
  obtain ⟨after, performs⟩ := installed.step spacious surroundings permitted
  exact ⟨after, performs.returns⟩

/-- The last byte of the query makes the application answer. -/
theorem returns_asking :
    ∃ after,
      ∀ fuel,
        asking.2.perform bareSurroundings 0 (fuel + 1) (.poll 1) =
          some after :=
  returns_of_reachable reachable_asking (by decide +kernel)

/-! ## The lift -/

/-- The setup has called nobody. -/
theorem setupClient_uncalled
    {surroundings : Surroundings Os}
    {fuel alive : Nat}
    {world : World StringIndexer Os}
    (initial : World.Initial world broker)
    (noTopics : world.indexer = .empty)
    (returned :
      setupClient surroundings fuel world broker alive = some after) :
    after.lift = Lift.setupClient ∧ after.history = [] ∧
      after.world.trace.callbackCalls = [] := by
  cases fuel with
  | zero => cases returned
  | succ fuel =>
      obtain ⟨before, subscribed, returns⟩ :=
        @setupClient_returns _ commandVocabulary _ _ _ initial noTopics
          (fun _ => List.mem_toFinset.mpr) surroundings alive
      obtain rfl := Option.some.inj ((returns fuel).symm.trans returned)
      exact (subscribed.installed surroundings).2.2

/-- The notes of a run account for the lift, the trace and what was performed. -/
structure Noted
    (surroundings : Surroundings Os)
    (performed : List (Nat × Action Os))
    (program : Program Os) : Prop where
  lift :
    program.lift =
      LiftStep.run surroundings.sscanf (program.history.map AppCall.step)
        Lift.setupClient
  calls :
    program.world.trace.callbackCalls =
      program.history.filterMap (AppCall.callbackCall? program.mqttClient)
  loops :
    program.history.filterMap AppCall.loopTime? =
      performed.filterMap loopTime?
  commands :
    ∀ now topic delivery,
      .mqttCallback now topic delivery ∈ program.history →
        delivery.topic ∈ commandNames

namespace Noted

variable {surroundings : Surroundings Os}
variable {action : Action Os}
variable {time : Nat}

omit [Platform Os] in
/-- Nothing is noted where nothing is heard. -/
theorem unheard
    (noted : Noted surroundings performed before)
    (sameClient : after.mqttClient = before.mqttClient)
    (notLooped : loopTime? (time, action) = none)
    (unheard : Unheard before after) :
    Noted surroundings (performed ++ [(time, action)]) after := by
  constructor
  case lift => rw [unheard.lift, unheard.history, noted.lift]
  case calls => rw [unheard.calls, unheard.history, sameClient, noted.calls]
  case loops =>
    rw [unheard.history, noted.loops, List.filterMap_append,
      List.filterMap_cons_none notLooped]
    exact (List.append_nil _).symm
  case commands =>
    rw [unheard.history]
    exact noted.commands

omit [Platform Os] in
/-- A call of the callback is noted, and is a step of the lift. -/
theorem heard
    (noted : Noted surroundings performed before)
    (sameClient : after.mqttClient = before.mqttClient)
    (notLooped : loopTime? (time, action) = none)
    (hears : Hears surroundings before after) :
    Noted surroundings (performed ++ [(time, action)]) after := by
  cases hears with
  | nothing unheard => exact noted.unheard sameClient notLooped unheard
  | called now topic delivery isCommand isLift history isCalls =>
      constructor
      case lift =>
        rw [isLift, history, List.map_append, noted.lift]
        exact (LiftStep.run_concat _ _ now (.message delivery) _).symm
      case calls =>
        rw [isCalls, history, sameClient, List.filterMap_append, noted.calls]
        rfl
      case loops =>
        rw [history, List.filterMap_append, noted.loops,
          List.filterMap_append, List.filterMap_cons_none notLooped]
        rfl
      case commands =>
        intro now' topic' delivery' member
        rw [history] at member
        rcases List.mem_append.mp member with earlier | isLast
        · exact noted.commands now' topic' delivery' earlier
        · cases List.mem_singleton.mp isLast
          exact isCommand

omit [Platform Os] in
/-- A call of `loop_Client` is noted, and is a tick of the lift. -/
theorem ticked
    {now : Nat}
    (noted : Noted surroundings performed before)
    (sameClient : after.mqttClient = before.mqttClient)
    (looped : loopTime? (now, action) = some now)
    (isLift : after.lift = before.lift.loopClient now)
    (history : after.history = before.history ++ [.loopClient now])
    (sameCalls :
      after.world.trace.callbackCalls =
        before.world.trace.callbackCalls) :
    Noted surroundings (performed ++ [(now, action)]) after := by
  constructor
  case lift =>
    rw [isLift, history, List.map_append, noted.lift]
    exact (LiftStep.run_concat _ _ now .tick _).symm
  case calls =>
    rw [sameCalls, history, sameClient, List.filterMap_append, noted.calls]
    exact (List.append_nil _).symm
  case loops =>
    rw [history, List.filterMap_append, noted.loops, List.filterMap_append,
      List.filterMap_cons_some looped]
    rfl
  case commands =>
    intro now' topic delivery member
    rw [history] at member
    rcases List.mem_append.mp member with earlier | isTick
    · exact noted.commands now' topic delivery earlier
    · cases List.mem_singleton.mp isTick

end Noted

/-- In every state that is reached the notes are complete. -/
theorem Reachable.noted
    {surroundings : Surroundings Os}
    {condition : Program Os → Prop}
    (spaciousOf : ∀ program, condition program → program.Spacious)
    (reachable :
      Reachable surroundings broker condition performed program) :
    Noted surroundings performed program := by
  induction reachable with
  | setup fuel alive world after initial noTopics returned =>
      obtain ⟨lift, history, calls⟩ :=
        setupClient_uncalled initial noTopics returned
      constructor <;> rw [history]
      case lift => exact lift
      case calls => exact calls
      case loops => rfl
      case commands => exact fun _ _ _ member => nomatch member
  | step fuel action performed before after reachable permitted returned _
      noted =>
      obtain ⟨installed, spacious⟩ := reachable.installed spaciousOf
      obtain ⟨after', performs⟩ :=
        installed.step spacious surroundings permitted
      obtain rfl :=
        Option.some.inj ((performs.returns fuel).symm.trans returned)
      cases performs.moves with
      | ticked now looped isNow lift history calls =>
          subst isNow
          exact noted.ticked performs.mqttClient (looped _) lift history calls
      | heard notLooped hears =>
          exact noted.heard performs.mqttClient (notLooped _) hears

/--
The lift of the program is the lift of its callback and its loop: it is what
the noted calls make of it, one after the other and each at its time.  These are
the calls of callbacks in the trace, each with its topic, which has one of the
five names, and its payload, and the calls of `loop_Client`, at their times.
-/
theorem lift_of_reachable
    {surroundings : Surroundings Os}
    (reachable :
      Reachable surroundings broker
        (fun program => program.FitsMsg ∧ program.Spacious)
        performed program) :
    program.lift =
        LiftStep.run surroundings.sscanf (program.history.map AppCall.step)
          Lift.setupClient ∧
      program.world.trace.callbackCalls =
          program.history.filterMap
            (AppCall.callbackCall? program.mqttClient) ∧
        program.history.filterMap AppCall.loopTime? =
            performed.filterMap loopTime? ∧
          ∀ now topic delivery,
            .mqttCallback now topic delivery ∈ program.history →
              delivery.topic ∈ commandNames := by
  have noted := reachable.noted fun _ => And.right
  exact ⟨noted.lift, noted.calls, noted.loops, noted.commands⟩

/-- The query was heard when it was complete, after one `loop_Client`. -/
theorem lift_asked :
    asked.2.lift =
        LiftStep.run noNumbers (asked.2.history.map AppCall.step)
          Lift.setupClient ∧
      asked.2.world.trace.callbackCalls =
          asked.2.history.filterMap
            (AppCall.callbackCall? asked.2.mqttClient) ∧
        asked.2.history.filterMap AppCall.loopTime? =
            asked.1.filterMap loopTime? ∧
          (∀ now topic delivery,
            .mqttCallback now topic delivery ∈ asked.2.history →
              delivery.topic ∈ commandNames) ∧
            asked.1.filterMap loopTime? = [0] ∧
              asked.2.world.trace.callbackCalls.map (·.2.2) =
                [[0x78]] := by
  obtain ⟨lift, calls, loops, commands⟩ := lift_of_reachable reachable_asked
  exact ⟨lift, calls, loops, commands, by decide +kernel,
    by decide +kernel⟩

end Program

end SimpleTlsBroker
