import SimpleTlsBroker.SessionDirectory
import SimpleTlsBroker.Library.Recency
import SimpleTlsBroker.Library.Shares

namespace SimpleTlsBroker

/-!
# The least recently used session

`httpd_sess_update_lru_counter` stamps a session, and `httpd_sess_close_lru`
searches for the lowest stamp.  As long as no handshake fails, which lets the
count of sessions and with it the clock start anew too early, the stamps follow
the order of use; a session that was not used since it was opened comes first.
-/

open Recency

namespace SessionTable

/-- How many sessions are open. -/
def openCount (table : SessionTable) : Nat :=
  Shares.count (Finset.range table.maxOpenSockets)
    (fun slot (_ : Unit) => 0 ≤ (table.hdSd slot).fd) ()

/-- The stamps of the slots. -/
def stamp (table : SessionTable) (slot : SlotId) : Nat :=
  (table.hdSd slot).lruCounter

/-- The count is right, and the stamps follow the order of use. -/
structure Ranked (table : SessionTable) (used : List SlotId) : Prop where
  directory : Directory table
  counted : table.hdSdActiveCount = table.openCount
  stamped : Stamped used table.stamp table.lruCounter
  opened : ∀ slot ∈ used, 0 ≤ (table.hdSd slot).fd
  unused :
    ∀ slot, 0 ≤ (table.hdSd slot).fd → slot ∉ used → table.stamp slot = 0

variable {table after : SessionTable}
variable {slot : SlotId}
variable {used : List SlotId}

/-- Is a slot open? -/
def isOpen (table : SessionTable) (slot : SlotId) : Bool :=
  0 ≤ (table.hdSd slot).fd

/-- The open sessions in the order of their last use, after a call. -/
def recent
    (table : SessionTable)
    (used : List SlotId) : SessionCall → List SlotId
  | .updateLruCounter sockfd =>
      match table.httpdSessGet sockfd with
      | some slot => touch slot used
      | none => used
  | call => used.filter (call.perform table).isOpen

/-- The open sessions in the order of their last use, after many calls. -/
def recency :
    SessionTable → List SlotId → List SessionCall → List SlotId
  | _, used, [] => used
  | table, used, call :: rest =>
      recency (call.perform table) (table.recent used call) rest

/-- No handshake fails. -/
def SessionCall.Succeeds : SessionCall → Prop
  | .new _ _ opened => opened = true
  | _ => True

/-! ## Deletions -/

/-- A deletion leaves the stamps of the slots. -/
theorem stamp_httpdSessDelete
    (table : SessionTable)
    (slot other : SlotId) :
    (table.httpdSessDelete slot).stamp other = table.stamp other := by
  have closing : Alike table (table.closeFd slot) :=
    ⟨rfl, fun _ => rfl, rfl, rfl, rfl⟩
  have cleared := closing.httpdSessClearCtx slot
  have sameStamp (other : SlotId) :
      (((table.closeFd slot).httpdSessClearCtx slot).hdSd other).lruCounter =
        (table.hdSd other).lruCounter :=
    congrArg SimpleTlsBroker.SockDb.lruCounter (cleared.sessions other)
  rw [httpdSessDelete]
  split
  · rfl
  · by_cases same : other = slot
    · subst same
      simp only [stamp, uncount, modifySlot, Function.update_self, sameStamp]
    · simp only [stamp, uncount, modifySlot, Function.update_of_ne same,
        sameStamp]

/-- The count and the clock after a deletion. -/
theorem count_httpdSessDelete
    (isOpen : 0 ≤ (table.hdSd slot).fd) :
    (table.httpdSessDelete slot).hdSdActiveCount =
        table.hdSdActiveCount - 1 ∧
      (table.httpdSessDelete slot).lruCounter =
        if table.hdSdActiveCount - 1 = 0 then 0 else table.lruCounter := by
  have closing : Alike table (table.closeFd slot) :=
    ⟨rfl, fun _ => rfl, rfl, rfl, rfl⟩
  have cleared := closing.httpdSessClearCtx slot
  have count :
      ((table.closeFd slot).httpdSessClearCtx slot).hdSdActiveCount =
        table.hdSdActiveCount :=
    cleared.activeCount
  have clock :
      ((table.closeFd slot).httpdSessClearCtx slot).lruCounter =
        table.lruCounter :=
    cleared.lruCounter
  rw [httpdSessDelete, if_neg (Int.not_lt.mpr isOpen)]
  simp only [uncount, modifySlot, count, clock, and_self]

/-- An open session less. -/
theorem openCount_httpdSessDelete
    (directory : Directory table)
    (isOpen : 0 ≤ (table.hdSd slot).fd) :
    (table.httpdSessDelete slot).openCount + 1 = table.openCount := by
  have inside : slot ∈ Finset.range table.maxOpenSockets := by
    rcases directory.fds slot with closed | ⟨member, _⟩
    · rw [closed] at isOpen
      contradiction
    · exact Finset.mem_range.mpr (List.mem_range.mp member)
  rw [openCount, openCount, (sockets_httpdSessDelete table slot).1]
  apply Shares.count_loss inside isOpen
  · rw [fd_httpdSessDelete, if_pos ⟨rfl, isOpen⟩]
    decide
  · intro other _ distinct
    rw [fd_httpdSessDelete, if_neg fun isHere => distinct isHere.1]

/-- Without open sessions the count is zero, and only then. -/
theorem openCount_eq_zero
    (directory : Directory table)
    (none : table.openCount = 0)
    (slot : SlotId) :
    ¬ 0 ≤ (table.hdSd slot).fd := by
  intro isOpen
  rcases directory.fds slot with closed | ⟨member, _⟩
  · rw [closed] at isOpen
    contradiction
  · have inside : slot ∈ Finset.range table.maxOpenSockets :=
      Finset.mem_range.mpr (List.mem_range.mp member)
    have positive : 0 < table.openCount :=
      Shares.count_pos_iff.mpr ⟨slot, inside, isOpen⟩
    rw [none] at positive
    exact Nat.lt_irrefl 0 positive

namespace Ranked

/-- All sessions in use are open. -/
theorem filter_isOpen (ranked : Ranked table used) :
    used.filter table.isOpen = used :=
  List.filter_eq_self.mpr fun slot member =>
    decide_eq_true (ranked.opened slot member)

/-- A deleted session is forgotten. -/
theorem httpdSessDelete
    (ranked : Ranked table used)
    (slot : SlotId) :
    Ranked (table.httpdSessDelete slot)
      (used.filter (table.httpdSessDelete slot).isOpen) := by
  by_cases free : (table.hdSd slot).fd < 0
  · have unchanged : table.httpdSessDelete slot = table := by
      rw [SessionTable.httpdSessDelete, if_pos free]
    rw [unchanged, ranked.filter_isOpen]
    exact ranked
  · have wasOpen : 0 ≤ (table.hdSd slot).fd := Int.not_lt.mp free
    have directory := ranked.directory.httpdSessDelete slot
    obtain ⟨count, clock⟩ := count_httpdSessDelete wasOpen
    have fewer := openCount_httpdSessDelete ranked.directory wasOpen
    have counted :
        (table.httpdSessDelete slot).hdSdActiveCount =
          (table.httpdSessDelete slot).openCount := by
      rw [count, ranked.counted, ← fewer]
      omega
    refine ⟨directory, counted, ?_, ?_, ?_⟩
    · rw [clock]
      by_cases last : table.hdSdActiveCount - 1 = 0
      · have none : (table.httpdSessDelete slot).openCount = 0 := by
          rw [count, last] at counted
          exact Int.ofNat_eq_zero.mp counted.symm
        have forgotten :
            used.filter (table.httpdSessDelete slot).isOpen = [] := by
          apply List.filter_eq_nil_iff.mpr
          intro other _ isOpen
          exact openCount_eq_zero directory none other
            (of_decide_eq_true isOpen)
        rw [forgotten]
        exact stamped_nil _ _
      · rw [if_neg last]
        exact ranked.stamped.forget _ fun other _ _ =>
          stamp_httpdSessDelete table slot other
    · intro other member
      exact of_decide_eq_true (List.mem_filter.mp member).2
    · intro other isOpen unused
      have notUsed : other ∉ used := fun inUse =>
        unused (List.mem_filter.mpr ⟨inUse, decide_eq_true isOpen⟩)
      have stillOpen : 0 ≤ (table.hdSd other).fd := by
        rw [fd_httpdSessDelete] at isOpen
        split at isOpen
        · contradiction
        · exact isOpen
      rw [stamp_httpdSessDelete]
      exact ranked.unused other stillOpen notUsed

/-- Some sessions are deleted, one after the other. -/
theorem foldl
    {change : SessionTable → SlotId → SessionTable}
    (ranked : Ranked table used)
    (slots : List SlotId)
    (deletes :
      ∀ table slot,
        change table slot = table ∨
          change table slot = table.httpdSessDelete slot) :
    Ranked (slots.foldl change table)
        (used.filter (slots.foldl change table).isOpen) ∧
      ∀ slot,
        (slots.foldl change table).isOpen slot = true →
          table.isOpen slot = true := by
  induction slots generalizing table used with
  | nil =>
      refine ⟨?_, fun _ => id⟩
      rw [List.foldl_nil, ranked.filter_isOpen]
      exact ranked
  | cons slot rest inductionHypothesis =>
      rw [List.foldl_cons]
      rcases deletes table slot with stays | deleted
      · rw [stays]
        exact inductionHypothesis ranked
      · rw [deleted]
        obtain ⟨later, shrinks⟩ :=
          inductionHypothesis (ranked.httpdSessDelete slot)
        refine ⟨?_, ?_⟩
        · rw [List.filter_filter] at later
          have same (other : SlotId) :
              ((rest.foldl change (table.httpdSessDelete slot)).isOpen other &&
                (table.httpdSessDelete slot).isOpen other) =
                (rest.foldl change (table.httpdSessDelete slot)).isOpen
                  other :=
            Bool.and_eq_left_iff_imp.mpr (shrinks other)
          simp only [same] at later
          exact later
        · intro other isOpen
          have before := of_decide_eq_true (shrinks other isOpen)
          rw [fd_httpdSessDelete] at before
          split at before
          · contradiction
          · exact decide_eq_true before

/-! ## The other calls -/

/-- A new table has no sessions. -/
theorem start (maxOpenSockets : Nat) :
    Ranked (SessionTable.start maxOpenSockets) [] where
  directory := .start maxOpenSockets
  counted := by
    have none : (SessionTable.start maxOpenSockets).openCount = 0 := by
      apply Nat.eq_zero_of_not_pos
      intro positive
      obtain ⟨slot, _, isOpen⟩ := Shares.count_pos_iff.mp positive
      exact absurd isOpen (by simp [SessionTable.start])
    rw [none]
    rfl
  stamped := stamped_nil _ _
  opened _ member := nomatch member
  unused _ isOpen := absurd isOpen (by simp [SessionTable.start])

/-- Changes that descriptors, stamps and counts do not notice. -/
theorem of_same
    (ranked : Ranked table used)
    (directory : Directory after)
    (sockets : after.maxOpenSockets = table.maxOpenSockets)
    (fds : ∀ slot, (after.hdSd slot).fd = (table.hdSd slot).fd)
    (stamps : ∀ slot, after.stamp slot = table.stamp slot)
    (count : after.hdSdActiveCount = table.hdSdActiveCount)
    (clock : after.lruCounter = table.lruCounter) :
    Ranked after used where
  directory := directory
  counted := by
    have sameCount : after.openCount = table.openCount := by
      rw [openCount, openCount, sockets]
      apply Shares.count_congr
      intro slot _
      rw [fds slot]
    rw [count, sameCount]
    exact ranked.counted
  stamped := by
    have sameStamps : after.stamp = table.stamp := funext stamps
    rw [sameStamps, clock]
    exact ranked.stamped
  opened slot member := by
    rw [fds slot]
    exact ranked.opened slot member
  unused slot isOpen notUsed := by
    rw [fds slot] at isOpen
    rw [stamps slot]
    exact ranked.unused slot isOpen notUsed

/-- Contexts do not matter. -/
theorem of_alike
    (ranked : Ranked table used)
    (alike : Alike table after) :
    Ranked after used :=
  ranked.of_same (ranked.directory.of_alike alike) alike.sockets alike.fd
    (fun slot =>
      congrArg SimpleTlsBroker.SockDb.lruCounter (alike.sessions slot))
    alike.activeCount alike.lruCounter

/-- Neither do the marks of sessions. -/
theorem mark
    (ranked : Ranked table used)
    (slot : SlotId)
    (marked : Bool) :
    Ranked
      (table.modifySlot slot
        fun session => { session with lruSocket := marked })
      used := by
  have keeps
      {Value : Type}
      (read : SessionTable.SockDb → Value)
      (same :
        ∀ session,
          read { session with lruSocket := marked } = read session)
      (other : SlotId) :
      read
          ((table.modifySlot slot
            fun session => { session with lruSocket := marked }).hdSd other) =
        read (table.hdSd other) := by
    by_cases here : other = slot
    · subst here
      simp only [modifySlot, Function.update_self]
      exact same _
    · simp only [modifySlot, Function.update_of_ne here]
  have directory :=
    @Directory.modifySlot table
      (fun session => { session with lruSocket := marked })
      ranked.directory slot fun _ => rfl
  exact ranked.of_same directory rfl
    (keeps SessionTable.SockDb.fd fun _ => rfl)
    (keeps SessionTable.SockDb.lruCounter fun _ => rfl) rfl rfl

/-- A new session was not used yet. -/
theorem new
    {newfd : Int}
    {sets : List ContextCall}
    (ranked : Ranked table used)
    (absent : table.httpdSessGet newfd = none)
    (found : table.httpdSessGetFree = some slot)
    (isFd : 0 ≤ newfd) :
    Ranked
      { sets.foldl ContextCall.perform (table.enter slot newfd) with
        hdSdActiveCount :=
          (sets.foldl ContextCall.perform
            (table.enter slot newfd)).hdSdActiveCount + 1 }
      used := by
  have entered := ranked.directory.enter absent found isFd
  have alike :=
    (Alike.refl (table.enter slot newfd)).performAll entered.idle sets
  have free := Kept.free_of_httpdSessGetFree found
  have inside : slot ∈ Finset.range table.maxOpenSockets := by
    rw [httpdSessGetFree_eq] at found
    split at found
    · contradiction
    · have member := List.mem_of_find?_eq_some found
      exact Finset.mem_range.mpr (List.mem_range.mp member)
  have fdHere : ((table.enter slot newfd).hdSd slot).fd = newfd := by
    simp only [enter, modifySlot, Function.update_self]
  have others
      (other : SlotId)
      (distinct : other ≠ slot) :
      (table.enter slot newfd).hdSd other = table.hdSd other := by
    simp only [enter, modifySlot, Function.update_of_ne distinct]
  have notUsed : slot ∉ used := by
    intro inUse
    exact absurd (ranked.opened slot inUse) (Int.not_le.mpr free)
  have stampUsed
      (other : SlotId)
      (inUse : other ∈ used) :
      (table.enter slot newfd).stamp other = table.stamp other := by
    have distinct : other ≠ slot := by
      rintro rfl
      exact notUsed inUse
    rw [stamp, stamp, others other distinct]
  have openCount :
      (table.enter slot newfd).openCount = table.openCount + 1 := by
    apply Shares.count_gain inside (Int.not_le.mpr free)
    · rw [fdHere]
      exact isFd
    · intro other _ distinct
      rw [others other distinct]
  have ready :
      Ranked
        { table.enter slot newfd with
          hdSdActiveCount := table.hdSdActiveCount + 1 } used := by
    refine ⟨entered.of_same rfl rfl fun _ => rfl, ?_, ?_, ?_, ?_⟩
    · change table.hdSdActiveCount + 1 = (table.enter slot newfd).openCount
      rw [openCount, ranked.counted]
      rfl
    · have kept :=
        ranked.stamped.forget (fun _ => true) fun other inUse _ =>
          stampUsed other inUse
      rw [List.filter_true] at kept
      exact kept
    · intro other inUse
      change 0 ≤ ((table.enter slot newfd).hdSd other).fd
      by_cases same : other = slot
      · rw [same, fdHere]
        exact isFd
      · rw [others other same]
        exact ranked.opened other inUse
    · intro other isOpen unused
      change 0 ≤ ((table.enter slot newfd).hdSd other).fd at isOpen
      change (table.enter slot newfd).stamp other = 0
      by_cases same : other = slot
      · subst same
        simp only [stamp, enter, modifySlot, Function.update_self]
        rfl
      · rw [others other same] at isOpen
        rw [stamp, others other same]
        exact ranked.unused other isOpen unused
  refine ready.of_alike ⟨alike.sockets, alike.sessions, ?_, alike.lruCounter,
    alike.request⟩
  exact congrArg (· + 1) alike.activeCount

/-- A session is used. -/
theorem touch
    {sockfd : Int}
    (ranked : Ranked table used)
    (isFd : 0 ≤ sockfd)
    (found : table.httpdSessGet sockfd = some slot)
    (early : table.lruCounter + 1 < 2 ^ 64) :
    Ranked (table.httpdSessUpdateLruCounter sockfd).2
      (Recency.touch slot used) := by
  have isSession := (found_httpdSessGet ranked.directory.idle found).2
  have isOpen : 0 ≤ (table.hdSd slot).fd := by
    rw [isSession]
    exact isFd
  rw [httpdSessGet_eq ranked.directory.idle] at found
  rw [httpdSessUpdateLruCounter, session_findFd, found,
    Nat.mod_eq_of_lt early]
  dsimp only
  have fds (other : SlotId) :
      (Function.update table.hdSd slot
          { table.hdSd slot with lruCounter := table.lruCounter + 1 }
            other).fd = (table.hdSd other).fd := by
    by_cases same : other = slot
    · rw [same, Function.update_self]
    · rw [Function.update_of_ne same]
  have stampHere :
      (Function.update table.hdSd slot
          { table.hdSd slot with lruCounter := table.lruCounter + 1 }
            slot).lruCounter = table.lruCounter + 1 := by
    rw [Function.update_self]
  have stampOther
      (other : SlotId)
      (distinct : other ≠ slot) :
      (Function.update table.hdSd slot
          { table.hdSd slot with lruCounter := table.lruCounter + 1 }
            other).lruCounter = table.stamp other := by
    rw [Function.update_of_ne distinct]
    rfl
  refine ⟨?_, ?_, ?_, ?_, ?_⟩
  · exact ranked.directory.of_same rfl rfl fds
  · refine ranked.counted.trans (congrArg Nat.cast (Eq.symm ?_))
    apply Shares.count_congr
    intro other _
    exact iff_of_eq (congrArg (0 ≤ ·) (fds other))
  · exact ranked.stamped.touch slot stampHere stampOther
  · intro other member
    refine (fds other).symm ▸ ?_
    rcases mem_touch.mp member with isSlot | inUse
    · rw [isSlot]
      exact isOpen
    · exact ranked.opened other inUse
  · intro other stillOpen notUsed
    rw [mem_touch, not_or] at notUsed
    refine (stampOther other notUsed.1).trans ?_
    exact ranked.unused other ((fds other) ▸ stillOpen) notUsed.2

/-- Every call keeps the order of use. -/
theorem call
    {call : SessionCall}
    (ranked : Ranked table used)
    (proper : call.Proper)
    (succeeds : call.Succeeds)
    (early : table.lruCounter + 1 < 2 ^ 64) :
    Ranked (call.perform table) (table.recent used call) := by
  have still
      {after : SessionTable}
      (ranked : Ranked after used) :
      Ranked after (used.filter after.isOpen) := by
    rw [ranked.filter_isOpen]
    exact ranked
  cases call with
  | new newfd sets opened =>
      apply still
      change Ranked (table.httpdSessNew newfd _).2 used
      rw [httpdSessNew]
      cases absent : table.httpdSessGet newfd with
      | some slot => exact ranked
      | none =>
          cases found : table.httpdSessGetFree with
          | none => exact ranked
          | some slot =>
              have isOpened : opened = true := succeeds
              subst isOpened
              exact ranked.new absent found proper
  | set call =>
      apply still
      exact ranked.of_alike
        ((Alike.refl table).perform ranked.directory.idle call)
  | delete slot => exact ranked.httpdSessDelete slot
  | close slot =>
      change Ranked (table.httpdSessClose slot)
        (used.filter (table.httpdSessClose slot).isOpen)
      rw [httpdSessClose]
      split
      · exact still ranked
      · exact (ranked.mark slot false).httpdSessDelete slot
  | closeAll =>
      change Ranked table.httpdSessCloseAll
        (used.filter table.httpdSessCloseAll.isOpen)
      rw [httpdSessCloseAll_eq]
      exact (ranked.foldl table.slots fun _ _ => .inr rfl).1
  | deleteInvalid valid =>
      change Ranked (table.httpdSessDeleteInvalid valid)
        (used.filter (table.httpdSessDeleteInvalid valid).isOpen)
      rw [httpdSessDeleteInvalid_eq]
      refine (ranked.foldl table.slots fun table slot => ?_).1
      split
      · exact .inl rfl
      · exact .inr rfl
  | closeLru =>
      apply still
      change Ranked table.httpdSessCloseLru.2 used
      rw [httpdSessCloseLru]
      cases table.lruSession? with
      | none => exact ranked
      | some slot => exact ranked.mark slot true
  | triggerClose sockfd =>
      apply still
      change Ranked (table.httpdSessTriggerClose sockfd).2 used
      rw [httpdSessTriggerClose]
      cases table.httpdSessGet sockfd <;> exact ranked
  | updateLruCounter sockfd =>
      change Ranked (table.httpdSessUpdateLruCounter sockfd).2
        (match table.httpdSessGet sockfd with
        | some slot => Recency.touch slot used
        | none => used)
      cases found : table.httpdSessGet sockfd with
      | some slot => exact ranked.touch proper found early
      | none =>
          rw [httpdSessGet_eq ranked.directory.idle] at found
          rw [httpdSessUpdateLruCounter, session_findFd, found]
          exact ranked

end Ranked

/-- A deletion never moves the clock on. -/
theorem lruCounter_httpdSessDelete_le
    (table : SessionTable)
    (slot : SlotId) :
    (table.httpdSessDelete slot).lruCounter ≤ table.lruCounter := by
  by_cases free : (table.hdSd slot).fd < 0
  · rw [httpdSessDelete, if_pos free]
  · rw [(count_httpdSessDelete (Int.not_lt.mp free)).2]
    split
    · exact Nat.zero_le _
    · exact Nat.le_refl _

/-- Neither do many. -/
theorem lruCounter_foldl_le
    {change : SessionTable → SlotId → SessionTable}
    (slots : List SlotId)
    (table : SessionTable)
    (deletes :
      ∀ table slot, (change table slot).lruCounter ≤ table.lruCounter) :
    (slots.foldl change table).lruCounter ≤ table.lruCounter := by
  induction slots generalizing table with
  | nil => exact Nat.le_refl _
  | cons slot rest inductionHypothesis =>
      exact Nat.le_trans (inductionHypothesis _) (deletes table slot)

/-- A call moves the clock by one tick at most. -/
theorem lruCounter_perform_le
    (idle : table.hdReqAuxSd = none)
    (call : SessionCall) :
    (call.perform table).lruCounter ≤ table.lruCounter + 1 := by
  cases call with
  | new newfd sets opened =>
      apply Nat.le_succ_of_le
      change (table.httpdSessNew newfd _).2.lruCounter ≤ _
      rw [httpdSessNew]
      split
      · exact Nat.le_refl _
      · cases table.httpdSessGetFree with
        | none => exact Nat.le_refl _
        | some slot =>
            have alike :=
              (Alike.refl (table.enter slot newfd)).performAll idle sets
            have sameClock := Nat.le_of_eq alike.lruCounter
            cases opened with
            | true => exact sameClock
            | false =>
                exact Nat.le_trans (lruCounter_httpdSessDelete_le _ slot)
                  sameClock
  | set call =>
      have alike := (Alike.refl table).perform idle call
      exact Nat.le_succ_of_le (Nat.le_of_eq alike.lruCounter)
  | delete slot =>
      exact Nat.le_succ_of_le (lruCounter_httpdSessDelete_le table slot)
  | close slot =>
      apply Nat.le_succ_of_le
      change (table.httpdSessClose slot).lruCounter ≤ _
      rw [httpdSessClose]
      split
      · exact Nat.le_refl _
      · exact lruCounter_httpdSessDelete_le _ slot
  | closeAll =>
      apply Nat.le_succ_of_le
      change table.httpdSessCloseAll.lruCounter ≤ _
      rw [httpdSessCloseAll_eq]
      exact lruCounter_foldl_le _ _ lruCounter_httpdSessDelete_le
  | deleteInvalid valid =>
      apply Nat.le_succ_of_le
      change (table.httpdSessDeleteInvalid valid).lruCounter ≤ _
      rw [httpdSessDeleteInvalid_eq]
      refine lruCounter_foldl_le _ _ fun table slot => ?_
      split
      · exact Nat.le_refl _
      · exact lruCounter_httpdSessDelete_le table slot
  | closeLru =>
      apply Nat.le_succ_of_le
      change table.httpdSessCloseLru.2.lruCounter ≤ _
      rw [httpdSessCloseLru]
      cases table.lruSession? <;> exact Nat.le_refl _
  | triggerClose sockfd =>
      apply Nat.le_succ_of_le
      change (table.httpdSessTriggerClose sockfd).2.lruCounter ≤ _
      rw [httpdSessTriggerClose]
      cases table.httpdSessGet sockfd <;> exact Nat.le_refl _
  | updateLruCounter sockfd =>
      change (table.httpdSessUpdateLruCounter sockfd).2.lruCounter ≤ _
      rw [httpdSessUpdateLruCounter, session_findFd]
      cases table.slots.find? fun slot => (table.hdSd slot).fd = sockfd with
      | none => exact Nat.le_succ _
      | some slot => exact Nat.mod_le _ _

/-- A run keeps the order of use, and counts no more uses than calls. -/
theorem Ranked.run
    {calls : List SessionCall}
    (ranked : Ranked table used)
    (proper : ∀ call ∈ calls, call.Proper)
    (succeed : ∀ call ∈ calls, call.Succeeds)
    (early : table.lruCounter + calls.length < 2 ^ 64) :
    Ranked (calls.foldl SessionCall.perform table)
        (recency table used calls) ∧
      (calls.foldl SessionCall.perform table).lruCounter ≤
        table.lruCounter + calls.length := by
  induction calls generalizing table used with
  | nil => exact ⟨ranked, Nat.le_refl _⟩
  | cons call rest inductionHypothesis =>
      rw [List.length_cons] at early ⊢
      obtain ⟨first, later⟩ := List.forall_mem_cons.mp proper
      have clock := lruCounter_perform_le ranked.directory.idle call
      have kept :=
        ranked.call first (succeed call List.mem_cons_self) (by omega)
      obtain ⟨rankedAfter, clockAfter⟩ :=
        inductionHypothesis kept later
          (fun other member => succeed other (List.mem_cons_of_mem call member))
          (by omega)
      exact ⟨rankedAfter, Nat.le_trans clockAfter (by omega)⟩

/-- In a full table the enumeration is a search for the lowest stamp. -/
theorem lruSession?_eq
    (full : ∀ slot ∈ table.slots, 0 ≤ (table.hdSd slot).fd) :
    table.lruSession? = search table.stamp table.slots (2 ^ 64 - 1) none := by
  have searches
      (slots : List SlotId)
      (context : EnumContext)
      (isTask : context.task = .findLowestLru)
      (areOpen : ∀ slot ∈ slots, 0 ≤ (table.hdSd slot).fd) :
      (Enumeration.enumerate (enumFunction anyValid) slots
          (table, context)).2.session =
        search table.stamp slots context.lruCounter context.session := by
    induction slots generalizing context with
    | nil => rfl
    | cons slot rest inductionHypothesis =>
        have used : (table.hdSd slot).fd ≠ -1 := by
          have isOpen := areOpen slot List.mem_cons_self
          intro closed
          rw [closed] at isOpen
          contradiction
        have later (other : SlotId) (member : other ∈ rest) :=
          areOpen other (List.mem_cons_of_mem slot member)
        rw [search]
        by_cases lower : table.stamp slot < context.lruCounter
        · have goesOn :
              enumFunction anyValid slot (table, context) =
                (true,
                  (table,
                    { context with
                      lruCounter := (table.hdSd slot).lruCounter
                      session := some slot })) := by
            simp [enumFunction, isTask, used, show
              (table.hdSd slot).lruCounter < context.lruCounter from lower]
          have found :=
            inductionHypothesis
              { context with
                lruCounter := (table.hdSd slot).lruCounter
                session := some slot } isTask later
          rw [Enumeration.enumerate_of_goesOn goesOn, found, if_pos lower]
          rfl
        · have goesOn :
              enumFunction anyValid slot (table, context) =
                (true, (table, context)) := by
            simp [enumFunction, isTask, used, show
              ¬ (table.hdSd slot).lruCounter < context.lruCounter from lower]
          rw [Enumeration.enumerate_of_goesOn goesOn,
            inductionHypothesis context isTask later, if_neg lower]
  exact searches table.slots _ rfl full

/-- In a full table the search finds the oldest session. -/
theorem Ranked.lruSession?
    (ranked : Ranked table used)
    (early : table.lruCounter < 2 ^ 64 - 1)
    (full : ∀ slot ∈ table.slots, 0 ≤ (table.hdSd slot).fd) :
    table.lruSession? = oldest table.slots used := by
  rw [lruSession?_eq full]
  apply ranked.stamped.search_eq
  · intro slot member
    exact ranked.unused slot (full slot member)
  · intro slot inUse
    have isOpen := ranked.opened slot inUse
    rcases ranked.directory.fds slot with closed | ⟨member, _⟩
    · rw [closed] at isOpen
      contradiction
    · exact member
  · exact early

/--
When the table is full, `httpd_sess_close_lru` marks the first session that was
not used since it was opened, or else the one whose last use is the oldest, as
long as no handshake failed and the clock did not run over.
-/
theorem close_lru_marks_oldest
    {maxOpenSockets : Nat}
    {calls : List SessionCall}
    (proper : ∀ call ∈ calls, call.Proper)
    (succeed : ∀ call ∈ calls, call.Succeeds)
    (early : calls.length < 2 ^ 64 - 1)
    (full :
      let table := calls.foldl SessionCall.perform (start maxOpenSockets)
      ∀ slot ∈ table.slots, 0 ≤ (table.hdSd slot).fd) :
    let table := calls.foldl SessionCall.perform (start maxOpenSockets)
    table.httpdSessCloseLru =
      (true,
        match
            oldest table.slots
              (recency (start maxOpenSockets) [] calls) with
        | some slot =>
            table.modifySlot slot
              fun session => { session with lruSocket := true }
        | none => table) := by
  have unstamped : (start maxOpenSockets).lruCounter = 0 := rfl
  obtain ⟨ranked, clock⟩ :=
    (Ranked.start maxOpenSockets).run proper succeed (by omega)
  rw [unstamped, Nat.zero_add] at clock
  dsimp only at full ⊢
  rw [httpdSessCloseLru,
    ranked.lruSession? (Nat.lt_of_le_of_lt clock early) full]
  cases oldest (calls.foldl SessionCall.perform (start maxOpenSockets)).slots
    (recency (start maxOpenSockets) [] calls) <;> rfl

/-- Two sessions, of which the first is used last. -/
def usedTwice : List SessionCall :=
  [.new 5 [] true, .new 6 [] true, .updateLruCounter 5,
    .updateLruCounter 6, .updateLruCounter 5]

/-- The second session is marked. -/
theorem close_lru_marks_oldest_usedTwice :
    ((usedTwice.foldl SessionCall.perform
        (start 2)).httpdSessCloseLru.2.hdSd 1).lruSocket = true := by
  have succeed : ∀ call ∈ usedTwice, call.Succeeds := by
    intro call member
    simp only [usedTwice, List.mem_cons, List.not_mem_nil, or_false] at member
    rcases member with rfl | rfl | rfl | rfl | rfl <;> trivial
  have marked :=
    @close_lru_marks_oldest 2 usedTwice (by decide) succeed (by decide)
      (by decide)
  rw [marked]
  decide

end SessionTable

end SimpleTlsBroker
