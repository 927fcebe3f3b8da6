import SimpleTlsBroker.SessionCustody

namespace SimpleTlsBroker

/-!
# The directory of sessions

No two sessions ever have the same descriptor, so a descriptor stands for its
session.  `httpd_get_client_list` reports the open sessions, each once, and
`httpd_sess_close_all` leaves nothing behind.
-/

namespace SessionTable

/-- A descriptor stands for one session of the table. -/
structure Directory (table : SessionTable) : Prop where
  idle : table.hdReqAuxSd = none
  fds :
    ∀ slot,
      (table.hdSd slot).fd = -1 ∨
        slot ∈ table.slots ∧ 0 ≤ (table.hdSd slot).fd
  apart :
    ∀ first second,
      0 ≤ (table.hdSd first).fd →
        (table.hdSd first).fd = (table.hdSd second).fd → first = second

variable {table after : SessionTable}
variable {slot : SlotId}
variable {sockfd : Int}

/-- Deleting a session closes its slot only. -/
theorem fd_httpdSessDelete
    (table : SessionTable)
    (slot other : SlotId) :
    ((table.httpdSessDelete slot).hdSd other).fd =
      if other = slot ∧ 0 ≤ (table.hdSd slot).fd then
        -1
      else
        (table.hdSd other).fd := by
  rw [httpdSessDelete]
  by_cases free : (table.hdSd slot).fd < 0
  · rw [if_pos free, if_neg fun isOpen => absurd isOpen.2 (Int.not_le.mpr free)]
  · rw [if_neg free]
    have isOpen : 0 ≤ (table.hdSd slot).fd := Int.not_lt.mp free
    by_cases same : other = slot
    · subst same
      rw [if_pos ⟨rfl, isOpen⟩]
      simp only [uncount, modifySlot, Function.update_self]
    · rw [if_neg fun isHere => same isHere.1]
      simp only [uncount, modifySlot, Function.update_of_ne same]
      have closing : Alike table (table.closeFd slot) :=
        ⟨rfl, fun _ => rfl, rfl, rfl, rfl⟩
      exact (closing.httpdSessClearCtx slot).fd other

/-- It leaves the size of the table and the request alone. -/
theorem sockets_httpdSessDelete
    (table : SessionTable)
    (slot : SlotId) :
    (table.httpdSessDelete slot).maxOpenSockets = table.maxOpenSockets ∧
      (table.httpdSessDelete slot).hdReqAuxSd = table.hdReqAuxSd := by
  rw [httpdSessDelete]
  have closing : Alike table (table.closeFd slot) :=
    ⟨rfl, fun _ => rfl, rfl, rfl, rfl⟩
  have cleared := closing.httpdSessClearCtx slot
  split
  · exact ⟨rfl, rfl⟩
  · exact ⟨cleared.sockets, cleared.request⟩

namespace Directory

/-- The descriptors are the same. -/
theorem of_same
    (directory : Directory table)
    (idle : after.hdReqAuxSd = table.hdReqAuxSd)
    (sockets : after.maxOpenSockets = table.maxOpenSockets)
    (fds : ∀ slot, (after.hdSd slot).fd = (table.hdSd slot).fd) :
    Directory after where
  idle := idle.trans directory.idle
  fds slot := by
    rw [fds slot, slots, sockets]
    exact directory.fds slot
  apart first second := by
    rw [fds first, fds second]
    exact directory.apart first second

/-- Contexts and counters do not matter. -/
theorem of_alike
    (directory : Directory table)
    (alike : Alike table after) :
    Directory after :=
  directory.of_same alike.request alike.sockets alike.fd

/-- Neither does what a slot has besides its descriptor. -/
theorem modifySlot
    {change : SockDb → SockDb}
    (directory : Directory table)
    (slot : SlotId)
    (sameFd : ∀ session, (change session).fd = session.fd) :
    Directory (table.modifySlot slot change) := by
  refine directory.of_same rfl rfl fun other => ?_
  by_cases same : other = slot
  · subst same
    simp only [SessionTable.modifySlot, Function.update_self, sameFd]
  · simp only [SessionTable.modifySlot, Function.update_of_ne same]

/-- A new table has no sessions. -/
theorem start (maxOpenSockets : Nat) :
    Directory (SessionTable.start maxOpenSockets) where
  idle := rfl
  fds _ := .inl rfl
  apart _ _ isOpen := absurd isOpen (by simp [SessionTable.start])

/-- A session is deleted. -/
theorem httpdSessDelete
    (directory : Directory table)
    (slot : SlotId) :
    Directory (table.httpdSessDelete slot) := by
  obtain ⟨sockets, idle⟩ := sockets_httpdSessDelete table slot
  have shrunk (other : SlotId) :
      ((table.httpdSessDelete slot).hdSd other).fd = -1 ∨
        ((table.httpdSessDelete slot).hdSd other).fd =
          (table.hdSd other).fd := by
    rw [fd_httpdSessDelete]
    split
    · exact .inl rfl
    · exact .inr rfl
  have stillOpen
      {other : SlotId}
      (isOpen : 0 ≤ ((table.httpdSessDelete slot).hdSd other).fd) :
      ((table.httpdSessDelete slot).hdSd other).fd =
        (table.hdSd other).fd := by
    rcases shrunk other with closed | same
    · rw [closed] at isOpen
      contradiction
    · exact same
  refine ⟨idle.trans directory.idle, ?_, ?_⟩
  · intro other
    rcases shrunk other with closed | same
    · exact .inl closed
    · rw [same, slots, sockets]
      exact directory.fds other
  · intro first second isOpen equal
    have isOpen' := isOpen
    rw [equal] at isOpen'
    rw [stillOpen isOpen, stillOpen isOpen'] at equal
    rw [stillOpen isOpen] at isOpen
    exact directory.apart first second isOpen equal

/-- A descriptor that is new enters a free slot. -/
theorem enter
    (directory : Directory table)
    (absent : table.httpdSessGet sockfd = none)
    (found : table.httpdSessGetFree = some slot)
    (isFd : 0 ≤ sockfd) :
    Directory (table.enter slot sockfd) := by
  have member : slot ∈ table.slots := by
    rw [httpdSessGetFree_eq] at found
    split at found
    · contradiction
    · exact List.mem_of_find?_eq_some found
  have isNew (other : SlotId) : (table.hdSd other).fd ≠ sockfd := by
    intro isTaken
    rw [httpdSessGet_eq directory.idle] at absent
    rcases directory.fds other with closed | ⟨inside, _⟩
    · rw [isTaken] at closed
      rw [closed] at isFd
      contradiction
    · have notTaken := List.find?_eq_none.mp absent other inside
      exact notTaken (decide_eq_true isTaken)
  have fdHere : ((table.enter slot sockfd).hdSd slot).fd = sockfd := by
    simp only [SessionTable.enter, SessionTable.modifySlot,
      Function.update_self]
  have fdOther
      {other : SlotId}
      (distinct : other ≠ slot) :
      ((table.enter slot sockfd).hdSd other).fd = (table.hdSd other).fd := by
    simp only [SessionTable.enter, SessionTable.modifySlot,
      Function.update_of_ne distinct]
  refine ⟨directory.idle, ?_, ?_⟩
  · intro other
    by_cases same : other = slot
    · subst same
      rw [fdHere]
      exact .inr ⟨member, isFd⟩
    · rw [fdOther same]
      exact directory.fds other
  · intro first second isOpen equal
    by_cases isFirst : first = slot
    · by_cases isSecond : second = slot
      · rw [isFirst, isSecond]
      · rw [isFirst, fdHere, fdOther isSecond] at equal
        exact absurd equal.symm (isNew second)
    · by_cases isSecond : second = slot
      · rw [isSecond, fdHere, fdOther isFirst] at equal
        exact absurd equal (isNew first)
      · rw [fdOther isFirst] at isOpen
        rw [fdOther isFirst, fdOther isSecond] at equal
        exact directory.apart first second isOpen equal

/-- A loop that deletes some sessions. -/
theorem foldl
    {change : SessionTable → SlotId → SessionTable}
    (directory : Directory table)
    (slots : List SlotId)
    (keeps :
      ∀ table slot, Directory table → Directory (change table slot)) :
    Directory (slots.foldl change table) := by
  induction slots generalizing table with
  | nil => exact directory
  | cons slot rest inductionHypothesis =>
      exact inductionHypothesis (keeps table slot directory)

/-- Every call keeps the descriptors apart. -/
theorem call
    {call : SessionCall}
    (directory : Directory table)
    (proper : call.Proper) :
    Directory (call.perform table) := by
  cases call with
  | new newfd sets opened =>
      change Directory (table.httpdSessNew newfd _).2
      rw [httpdSessNew]
      cases absent : table.httpdSessGet newfd with
      | some slot => exact directory
      | none =>
          cases found : table.httpdSessGetFree with
          | none => exact directory
          | some slot =>
              have entered := directory.enter absent found proper
              have prepared :=
                entered.of_alike
                  ((Alike.refl _).performAll entered.idle sets)
              cases opened with
              | true => exact prepared.of_same rfl rfl fun _ => rfl
              | false => exact prepared.httpdSessDelete slot
  | set call =>
      exact directory.of_alike
        ((Alike.refl table).perform directory.idle call)
  | delete slot => exact directory.httpdSessDelete slot
  | close slot =>
      change Directory (table.httpdSessClose slot)
      rw [httpdSessClose]
      split
      · exact directory
      · have unmarked :=
          @modifySlot table (fun session => { session with lruSocket := false })
            directory slot fun _ => rfl
        exact unmarked.httpdSessDelete slot
  | closeAll =>
      change Directory table.httpdSessCloseAll
      rw [httpdSessCloseAll_eq]
      exact directory.foldl _ fun _ slot kept => kept.httpdSessDelete slot
  | deleteInvalid valid =>
      change Directory (table.httpdSessDeleteInvalid valid)
      rw [httpdSessDeleteInvalid_eq]
      refine directory.foldl _ fun table slot kept => ?_
      split
      · exact kept
      · exact kept.httpdSessDelete slot
  | closeLru =>
      change Directory table.httpdSessCloseLru.2
      rw [httpdSessCloseLru]
      cases table.lruSession? with
      | none => exact directory
      | some slot =>
          exact
            @modifySlot table
              (fun session => { session with lruSocket := true })
              directory slot fun _ => rfl
  | triggerClose sockfd =>
      change Directory (table.httpdSessTriggerClose sockfd).2
      rw [httpdSessTriggerClose]
      cases table.httpdSessGet sockfd <;> exact directory
  | updateLruCounter sockfd =>
      change Directory (table.httpdSessUpdateLruCounter sockfd).2
      rw [httpdSessUpdateLruCounter, session_findFd]
      cases table.slots.find? fun slot => (table.hdSd slot).fd = sockfd with
      | none => exact directory
      | some slot =>
          exact
            (@modifySlot table
              (fun session =>
                { session with
                  lruCounter := (table.lruCounter + 1) % 2 ^ 64 })
              directory slot fun _ => rfl).of_same rfl rfl fun _ => rfl

/-- So does every run. -/
theorem run
    {calls : List SessionCall}
    (directory : Directory table)
    (proper : ∀ call ∈ calls, call.Proper) :
    Directory (calls.foldl SessionCall.perform table) := by
  induction calls generalizing table with
  | nil => exact directory
  | cons call rest inductionHypothesis =>
      obtain ⟨first, later⟩ := List.forall_mem_cons.mp proper
      exact inductionHypothesis (directory.call first) later

/-- `httpd_sess_get` finds the sessions that are open. -/
theorem httpdSessGet_eq_some_iff
    (directory : Directory table)
    (isFd : 0 ≤ sockfd) :
    table.httpdSessGet sockfd = some slot ↔
      (table.hdSd slot).fd = sockfd := by
  constructor
  · intro found
    exact (found_httpdSessGet directory.idle found).2
  · intro isSession
    have inside : slot ∈ table.slots := by
      rcases directory.fds slot with closed | ⟨inside, _⟩
      · rw [closed] at isSession
        rw [← isSession] at isFd
        contradiction
      · exact inside
    cases found : table.httpdSessGet sockfd with
    | none =>
        rw [httpdSessGet_eq directory.idle] at found
        have notHere := List.find?_eq_none.mp found slot inside
        exact absurd (decide_eq_true isSession) notHere
    | some other =>
        have isOther := (found_httpdSessGet directory.idle found).2
        have same : other = slot :=
          directory.apart other slot (by rw [isOther]; exact isFd)
            (isOther.trans isSession.symm)
        rw [same]

end Directory

/-! ## The list of clients -/

/-- The loop of `httpd_get_client_list`. -/
def listClients
    (table : SessionTable)
    (maxFds : Nat) : List SlotId → List Int → Bool × List Int
  | [], clientFds => (true, clientFds)
  | slot :: rest, clientFds =>
      if (table.hdSd slot).fd ≠ -1 then
        if clientFds.length < maxFds then
          listClients table maxFds rest (clientFds ++ [(table.hdSd slot).fd])
        else
          (false, clientFds)
      else
        listClients table maxFds rest clientFds

/--
`httpd_get_client_list` for an array of so many descriptors: does it return
`ESP_OK`, and what does it store?
-/
def httpdGetClientList
    (table : SessionTable)
    (maxFds : Nat) : Bool × List Int :=
  if maxFds = 0 then
    (false, [])
  else
    table.listClients maxFds table.slots []

/-- The descriptors of the open sessions, in the order of their slots. -/
def openFds (table : SessionTable) : List Int :=
  (table.slots.filter fun slot => 0 ≤ (table.hdSd slot).fd).map fun slot =>
    (table.hdSd slot).fd

/-- The loop stores the open descriptors, as many as there is room for. -/
theorem Directory.listClients
    (directory : Directory table)
    {maxFds : Nat}
    (slots : List SlotId)
    (clientFds : List Int)
    (room : clientFds.length ≤ maxFds) :
    let fds :=
      (slots.filter fun slot => 0 ≤ (table.hdSd slot).fd).map fun slot =>
        (table.hdSd slot).fd
    table.listClients maxFds slots clientFds =
      (decide (clientFds.length + fds.length ≤ maxFds),
        clientFds ++ fds.take (maxFds - clientFds.length)) := by
  induction slots generalizing clientFds with
  | nil => simp [SessionTable.listClients, room]
  | cons slot rest inductionHypothesis =>
      dsimp only at inductionHypothesis ⊢
      rw [SessionTable.listClients]
      rcases directory.fds slot with closed | ⟨_, isOpen⟩
      · rw [if_neg (not_not.mpr closed), inductionHypothesis clientFds room,
          List.filter_cons_of_neg (by simp [closed])]
      · have used : (table.hdSd slot).fd ≠ -1 := by
          intro closed
          rw [closed] at isOpen
          contradiction
        rw [if_pos used, List.filter_cons_of_pos (by simpa using isOpen),
          List.map_cons, List.length_cons]
        by_cases fits : clientFds.length < maxFds
        · have enough :
              (clientFds ++ [(table.hdSd slot).fd]).length ≤ maxFds := by
            rw [List.length_append]
            exact fits
          have left :
              maxFds - clientFds.length =
                maxFds - (clientFds ++ [(table.hdSd slot).fd]).length + 1 := by
            rw [List.length_append, List.length_singleton]
            omega
          rw [if_pos fits, inductionHypothesis _ enough, left,
            List.take_succ_cons, List.append_assoc, List.length_append,
            List.length_singleton, Nat.add_assoc, Nat.add_comm 1]
          rfl
        · have full : maxFds - clientFds.length = 0 := by omega
          rw [if_neg fits, full, List.take_zero, List.append_nil]
          simp only [Prod.mk.injEq, and_true]
          apply Eq.symm
          apply decide_eq_false
          omega

/-- The open descriptors are different. -/
theorem Directory.nodup_openFds (directory : Directory table) :
    table.openFds.Nodup := by
  apply List.Nodup.map_on _ (List.nodup_range.filter _)
  intro first member second _ equal
  have isOpen := of_decide_eq_true (List.mem_filter.mp member).2
  exact directory.apart first second isOpen equal

/-- A descriptor is open exactly if `httpd_sess_get` finds its session. -/
theorem Directory.mem_openFds_iff
    (directory : Directory table)
    (fd : Int) :
    fd ∈ table.openFds ↔ 0 ≤ fd ∧ (table.httpdSessGet fd).isSome := by
  constructor
  · intro member
    obtain ⟨slot, inside, isFd⟩ := List.mem_map.mp member
    have isOpen := of_decide_eq_true (List.mem_filter.mp inside).2
    rw [isFd] at isOpen
    have found := (directory.httpdSessGet_eq_some_iff isOpen).mpr isFd
    exact ⟨isOpen, Option.isSome_iff_exists.mpr ⟨slot, found⟩⟩
  · rintro ⟨isOpen, isSession⟩
    obtain ⟨slot, found⟩ := Option.isSome_iff_exists.mp isSession
    obtain ⟨inside, isFd⟩ := found_httpdSessGet directory.idle found
    refine List.mem_map.mpr ⟨slot, List.mem_filter.mpr ⟨inside, ?_⟩, isFd⟩
    rw [isFd]
    exact decide_eq_true isOpen

/-- So `httpd_get_client_list` stores them as far as the array goes. -/
theorem Directory.httpdGetClientList
    (directory : Directory table)
    {maxFds : Nat}
    (room : 0 < maxFds) :
    table.httpdGetClientList maxFds =
      (decide (table.openFds.length ≤ maxFds), table.openFds.take maxFds) := by
  have listed := directory.listClients table.slots [] (Nat.zero_le maxFds)
  dsimp only at listed
  rw [List.nil_append, List.length_nil, Nat.zero_add, Nat.sub_zero] at listed
  rw [SessionTable.httpdGetClientList, if_neg (Nat.ne_of_gt room), listed]
  rfl

/--
In every reachable table `httpd_get_client_list` stores the first open sessions
in the order of their slots, no descriptor twice.  It succeeds exactly if the
array is long enough for all; then a descriptor is listed exactly if
`httpd_sess_get` finds a session for it.
-/
theorem client_list_exact
    {maxOpenSockets maxFds : Nat}
    {calls : List SessionCall}
    (proper : ∀ call ∈ calls, call.Proper)
    (room : 0 < maxFds) :
    let table := calls.foldl SessionCall.perform (start maxOpenSockets)
    let clients := table.httpdGetClientList maxFds
    clients.2 = table.openFds.take maxFds ∧
      clients.2.Nodup ∧
      (clients.1 = true ↔ table.openFds.length ≤ maxFds) ∧
      (clients.1 = true →
        ∀ fd,
          fd ∈ clients.2 ↔ 0 ≤ fd ∧ (table.httpdSessGet fd).isSome) := by
  have directory := (Directory.start maxOpenSockets).run proper
  dsimp only
  rw [directory.httpdGetClientList room]
  refine ⟨rfl, ?_, decide_eq_true_iff, ?_⟩
  · exact directory.nodup_openFds.sublist (List.take_sublist _ _)
  · intro succeeds fd
    have all := of_decide_eq_true succeeds
    rw [List.take_of_length_le all]
    exact directory.mem_openFds_iff fd

/-- Three sessions, of which the first is closed and its slot used again. -/
def reopened : List SessionCall :=
  [.new 5 [] true, .new 6 [] true, .new 7 [] true, .delete 0,
    .new 8 [⟨.user, 8, some 1, none⟩] true]

/-- An array for three descriptors is long enough. -/
theorem client_list_exact_reopened :
    ((reopened.foldl SessionCall.perform (start 4)).httpdGetClientList 3).2 =
        [8, 6, 7] ∧
      ∀ fd,
        fd ∈ [8, 6, 7] ↔
          0 ≤ fd ∧
            ((reopened.foldl SessionCall.perform
              (start 4)).httpdSessGet fd).isSome := by
  obtain ⟨_, _, _, complete⟩ :=
    @client_list_exact 4 3 reopened (by decide) (by decide)
  have stored :
      ((reopened.foldl SessionCall.perform
        (start 4)).httpdGetClientList 3).2 = [8, 6, 7] := by
    decide
  refine ⟨stored, ?_⟩
  rw [← stored]
  exact complete (by decide)

/-! ## Closing everything -/

/-- Which descriptors are open after some sessions were deleted. -/
theorem fd_foldl_httpdSessDelete
    (slots : List SlotId)
    (table : SessionTable)
    (other : SlotId) :
    ((slots.foldl httpdSessDelete table).hdSd other).fd =
      if other ∈ slots ∧ 0 ≤ (table.hdSd other).fd then
        -1
      else
        (table.hdSd other).fd := by
  induction slots generalizing table with
  | nil => simp
  | cons slot rest inductionHypothesis =>
      rw [List.foldl_cons, inductionHypothesis, fd_httpdSessDelete]
      by_cases same : other = slot
      · subst same
        by_cases isOpen : 0 ≤ (table.hdSd other).fd <;> simp [isOpen]
      · simp [same]

/-- Clearing contexts closes no descriptor. -/
theorem closed_httpdSessClearCtx
    (table : SessionTable)
    (slot : SlotId) :
    (table.httpdSessClearCtx slot).closed = table.closed := by
  have freed
      (table : SessionTable)
      (freeFn : FreeFn)
      (ctx : Option ContextId) :
      (table.httpdSessFreeCtx freeFn ctx).closed = table.closed := by
    cases ctx <;> rfl
  unfold httpdSessClearCtx
  dsimp only
  split
  · rfl
  · split <;> split <;> simp only [modifySlot, freed]

/-- Deleting an open session closes its descriptor. -/
theorem closed_httpdSessDelete
    (table : SessionTable)
    (slot : SlotId) :
    (table.httpdSessDelete slot).closed =
      if 0 ≤ (table.hdSd slot).fd then
        (table.hdSd slot).fd :: table.closed
      else
        table.closed := by
  rw [httpdSessDelete]
  by_cases free : (table.hdSd slot).fd < 0
  · rw [if_pos free, if_neg (Int.not_le.mpr free)]
  · rw [if_neg free, if_pos (Int.not_lt.mp free)]
    exact closed_httpdSessClearCtx (table.closeFd slot) slot

/-- The descriptors are closed in the order of the slots. -/
theorem closed_foldl_httpdSessDelete
    (slots : List SlotId)
    (nodup : slots.Nodup)
    (table : SessionTable) :
    (slots.foldl httpdSessDelete table).closed =
      ((slots.filter fun slot => 0 ≤ (table.hdSd slot).fd).map fun slot =>
        (table.hdSd slot).fd).reverse ++ table.closed := by
  induction slots generalizing table with
  | nil => rfl
  | cons slot rest inductionHypothesis =>
      obtain ⟨outside, nodup⟩ := List.nodup_cons.mp nodup
      have others
          (other : SlotId)
          (member : other ∈ rest) :
          ((table.httpdSessDelete slot).hdSd other).fd =
            (table.hdSd other).fd := by
        rw [fd_httpdSessDelete, if_neg]
        rintro ⟨same, _⟩
        rw [same] at member
        exact outside member
      have sameOpen :
          (rest.filter fun other =>
              0 ≤ ((table.httpdSessDelete slot).hdSd other).fd) =
            rest.filter fun other => 0 ≤ (table.hdSd other).fd := by
        apply List.filter_congr
        intro other member
        rw [others other member]
      have sameFds :
          ((rest.filter fun other => 0 ≤ (table.hdSd other).fd).map fun other =>
              ((table.httpdSessDelete slot).hdSd other).fd) =
            (rest.filter fun other => 0 ≤ (table.hdSd other).fd).map
              fun other => (table.hdSd other).fd := by
        apply List.map_congr_left
        intro other member
        exact others other (List.mem_filter.mp member).1
      rw [List.foldl_cons, inductionHypothesis nodup, sameOpen, sameFds,
        closed_httpdSessDelete]
      by_cases isOpen : 0 ≤ (table.hdSd slot).fd <;> simp [isOpen]

/-- Deleting sessions entrusts nothing. -/
theorem entrusted_foldl_httpdSessDelete
    (slots : List SlotId)
    (table : SessionTable) :
    (slots.foldl httpdSessDelete table).entrusted = table.entrusted := by
  induction slots generalizing table with
  | nil => rfl
  | cons slot rest inductionHypothesis =>
      rw [List.foldl_cons, inductionHypothesis]
      by_cases free : (table.hdSd slot).fd < 0
      · rw [httpdSessDelete, if_pos free]
      · exact congrArg Custody.Books.entrusted
          (books_httpdSessDelete (Int.not_lt.mp free))

/--
`httpd_sess_close_all` leaves no session and no context: whatever happened
before, each open descriptor is closed once, in the order of the slots, and
every context that a session was ever given has then been freed exactly once.
-/
theorem close_all_leaves_nothing
    {maxOpenSockets : Nat}
    {calls : List SessionCall}
    (allows : (start maxOpenSockets).AllowsAll calls) :
    let table := calls.foldl SessionCall.perform (start maxOpenSockets)
    let after := table.httpdSessCloseAll
    (∀ slot, (after.hdSd slot).fd = -1) ∧
      after.closed = table.openFds.reverse ++ table.closed ∧
      (after.released.map Prod.fst).Nodup ∧
      ∀ ctx,
        ctx ∈ after.released.map Prod.fst ↔
          ctx ∈ table.entrusted.map Prod.fst := by
  have directory := (Directory.start maxOpenSockets).run allows.proper
  have kept := (Kept.start maxOpenSockets).run allows
  generalize calls.foldl SessionCall.perform (start maxOpenSockets) =
    table at directory kept
  have keptAfter : Kept table.httpdSessCloseAll :=
    @Kept.call table .closeAll kept trivial
  dsimp only
  rw [httpdSessCloseAll_eq] at keptAfter ⊢
  have free (slot : SlotId) :
      ((table.slots.foldl httpdSessDelete table).hdSd slot).fd = -1 := by
    rw [fd_foldl_httpdSessDelete]
    rcases directory.fds slot with closed | isOpen
    · rw [closed]
      simp
    · rw [if_pos isOpen]
  refine ⟨free, ?_, keptAfter.sound.once, ?_⟩
  · exact closed_foldl_httpdSessDelete table.slots List.nodup_range table
  · intro ctx
    rw [keptAfter.released_iff, entrusted_foldl_httpdSessDelete]
    refine and_iff_left ?_
    intro slot
    obtain ⟨noCtx, noTransportCtx⟩ :=
      keptAfter.owns_nothing (by rw [free slot]; decide)
    rw [noCtx, noTransportCtx]
    exact ⟨(Option.some_ne_none ctx).symm, (Option.some_ne_none ctx).symm⟩

/-- All are closed in the end. -/
theorem close_all_leaves_nothing_reopened :
    ((reopened.foldl SessionCall.perform
        (start 4)).httpdSessCloseAll).closed = [7, 6, 8, 5] := by
  obtain ⟨_, closed, _⟩ :=
    @close_all_leaves_nothing 4 reopened (by decide)
  exact closed.trans (by decide)

end SessionTable

end SimpleTlsBroker
