import SimpleTlsBroker.Scripts
import SimpleTlsBroker.SessionTable

namespace SimpleTlsBroker

/-!
# The plain table shows the full one

The broker's model has a session table without contexts, whose searches are
plain ones.  It shows the full table: whatever calls are made, the sessions
stay the same, and the tasks of `enum_function` find what the searches find.
-/

open Enumeration

/-- `httpd_sess_update_lru_counter`: is there a session with this descriptor? -/
def HttpdData.httpdSessUpdateLruCounter
    (hd : HttpdData)
    (sockfd : Int) : Bool × HttpdData :=
  match hd.httpdSessGet sockfd with
  | none => (false, hd)
  | some slot =>
      let count := (hd.lruCounter + 1) % 2 ^ 64
      (true,
        { hd with lruCounter := count }.setSlot slot
          { hd.hdSd slot with lruCounter := count })

namespace SessionTable

/-- The plain table has the same sessions, and no request is worked on. -/
structure Shows (table : SessionTable) (hd : HttpdData) : Prop where
  sockets : hd.maxOpenSockets = table.maxOpenSockets
  sessions : ∀ slot, hd.hdSd slot = (table.hdSd slot).plain
  activeCount : hd.hdSdActiveCount = table.hdSdActiveCount
  lruCounter : hd.lruCounter = table.lruCounter
  idle : table.hdReqAuxSd = none
  handled : ∀ slot, 0 ≤ (table.hdSd slot).fd → (table.hdSd slot).handle = true

namespace Shows

variable {table after : SessionTable}
variable {hd : HttpdData}

/-- Both tables have the same slots. -/
theorem slots (shows : Shows table hd) : hd.slots = table.slots := by
  rw [HttpdData.slots, SessionTable.slots, shows.sockets]

/-- The descriptors are the same. -/
theorem fd
    (shows : Shows table hd)
    (slot : SlotId) :
    (hd.hdSd slot).fd = (table.hdSd slot).fd :=
  congrArg SimpleTlsBroker.SockDb.fd (shows.sessions slot)

/-! ## Searches -/

/-- `httpd_sess_get` finds the same session. -/
theorem httpdSessGet
    (shows : Shows table hd)
    (sockfd : Int) :
    table.httpdSessGet sockfd = hd.httpdSessGet sockfd := by
  rw [httpdSessGet_eq shows.idle, HttpdData.httpdSessGet, shows.slots]
  simp only [shows.fd]

/-- `httpd_sess_get_free` finds the same slot. -/
theorem httpdSessGetFree (shows : Shows table hd) :
    table.httpdSessGetFree = hd.httpdSessGetFree := by
  rw [httpdSessGetFree_eq, HttpdData.httpdSessGetFree, shows.slots,
    shows.activeCount, shows.sockets]
  simp only [shows.fd]

/-- `httpd_is_sess_available` says the same. -/
theorem httpdIsSessAvailable (shows : Shows table hd) :
    table.httpdIsSessAvailable = hd.httpdIsSessAvailable :=
  congrArg Option.isSome shows.httpdSessGetFree

/-- `httpd_sess_set_descriptors` adds the same descriptors. -/
theorem httpdSessSetDescriptors (shows : Shows table hd) :
    table.httpdSessSetDescriptors.1 = hd.descriptors := by
  rw [httpdSessSetDescriptors_eq, HttpdData.descriptors, shows.slots]
  simp only [shows.fd]

/-- `httpd_sess_close_lru` finds the same session. -/
theorem lruSession? (shows : Shows table hd) :
    table.lruSession? = hd.findLowestLru hd.slots (2 ^ 64 - 1) none := by
  have searches
      (slots : List SlotId)
      (context : EnumContext)
      (isTask : context.task = .findLowestLru) :
      (enumerate (enumFunction anyValid) slots (table, context)).2.session =
        hd.findLowestLru slots context.lruCounter context.session := by
    induction slots generalizing context with
    | nil => rfl
    | cons slot rest inductionHypothesis =>
        have sameFd := shows.fd slot
        have sameCounter :
            (hd.hdSd slot).lruCounter = (table.hdSd slot).lruCounter :=
          congrArg SimpleTlsBroker.SockDb.lruCounter (shows.sessions slot)
        rw [HttpdData.findLowestLru, sameFd, sameCounter]
        by_cases free : (table.hdSd slot).fd = -1
        · have stops :
              enumFunction anyValid slot (table, context) =
                (false, (table, context)) := by
            simp [enumFunction, isTask, free]
          rw [enumerate_of_stops stops, if_pos free]
        · rw [if_neg free]
          by_cases lower :
              (table.hdSd slot).lruCounter < context.lruCounter
          · have goesOn :
                enumFunction anyValid slot (table, context) =
                  (true,
                    (table,
                      { context with
                        lruCounter := (table.hdSd slot).lruCounter
                        session := some slot })) := by
              simp [enumFunction, isTask, free, lower]
            have later :=
              inductionHypothesis
                { context with
                  lruCounter := (table.hdSd slot).lruCounter
                  session := some slot } isTask
            rw [enumerate_of_goesOn goesOn, later, if_pos lower]
          · have goesOn :
                enumFunction anyValid slot (table, context) =
                  (true, (table, context)) := by
              simp [enumFunction, isTask, free, lower]
            rw [enumerate_of_goesOn goesOn, inductionHypothesis context isTask,
              if_neg lower]
  rw [shows.slots]
  exact searches table.slots _ rfl

/-! ## Changes -/

/-- What only contexts and the history are about does not show. -/
theorem of_alike
    (shows : Shows table hd)
    (alike : Alike table after) :
    Shows after hd where
  sockets := shows.sockets.trans alike.sockets.symm
  sessions slot := (shows.sessions slot).trans (alike.sessions slot).symm
  activeCount := shows.activeCount.trans alike.activeCount.symm
  lruCounter := shows.lruCounter.trans alike.lruCounter.symm
  idle := alike.request.trans shows.idle
  handled := by
    intro slot isOpen
    rw [alike.fd slot] at isOpen
    rw [alike.handle slot]
    exact shows.handled slot isOpen

/-- Both tables change the same slot alike. -/
theorem setSlot
    {change : SessionTable.SockDb → SessionTable.SockDb}
    {entry : SimpleTlsBroker.SockDb}
    (shows : Shows table hd)
    (slot : SlotId)
    (isEntry : entry = (change (table.hdSd slot)).plain)
    (handled :
      0 ≤ (change (table.hdSd slot)).fd →
        (change (table.hdSd slot)).handle = true) :
    Shows (table.modifySlot slot change) (hd.setSlot slot entry) where
  sockets := shows.sockets
  sessions other := by
    by_cases same : other = slot
    · subst same
      simp only [HttpdData.setSlot, SessionTable.modifySlot,
        Function.update_self]
      exact isEntry
    · simp only [HttpdData.setSlot, SessionTable.modifySlot,
        Function.update_of_ne same]
      exact shows.sessions other
  activeCount := shows.activeCount
  lruCounter := shows.lruCounter
  idle := shows.idle
  handled other := by
    by_cases same : other = slot
    · subst same
      simp only [SessionTable.modifySlot, Function.update_self]
      exact handled
    · simp only [SessionTable.modifySlot, Function.update_of_ne same]
      exact shows.handled other

/-- Both tables count one session less. -/
theorem uncount (shows : Shows table hd) :
    Shows table.uncount
      { hd with
        hdSdActiveCount := hd.hdSdActiveCount - 1
        lruCounter :=
          if hd.hdSdActiveCount - 1 = 0 then 0 else hd.lruCounter } where
  sockets := shows.sockets
  sessions := shows.sessions
  activeCount := congrArg (· - 1) shows.activeCount
  lruCounter := by
    rw [shows.activeCount, shows.lruCounter]
    rfl
  idle := shows.idle
  handled := shows.handled

/-- Both tables count one session more. -/
theorem count (shows : Shows table hd) :
    Shows { table with hdSdActiveCount := table.hdSdActiveCount + 1 }
      { hd with hdSdActiveCount := hd.hdSdActiveCount + 1 } where
  sockets := shows.sockets
  sessions := shows.sessions
  activeCount := congrArg (· + 1) shows.activeCount
  lruCounter := shows.lruCounter
  idle := shows.idle
  handled := shows.handled

/-- Both tables count up, and stamp the same session. -/
theorem httpdSessUpdateLruCounter
    (shows : Shows table hd)
    (sockfd : Int) :
    (table.httpdSessUpdateLruCounter sockfd).1 =
        (hd.httpdSessUpdateLruCounter sockfd).1 ∧
      Shows (table.httpdSessUpdateLruCounter sockfd).2
        (hd.httpdSessUpdateLruCounter sockfd).2 := by
  have found := shows.httpdSessGet sockfd
  rw [httpdSessGet_eq shows.idle, ← session_findFd] at found
  rw [SessionTable.httpdSessUpdateLruCounter,
    HttpdData.httpdSessUpdateLruCounter, found]
  cases hd.httpdSessGet sockfd with
  | none => exact ⟨rfl, shows⟩
  | some slot =>
      have counted :
          Shows
            { table with lruCounter := (table.lruCounter + 1) % 2 ^ 64 }
            { hd with lruCounter := (hd.lruCounter + 1) % 2 ^ 64 } :=
        { shows with
          lruCounter := by rw [shows.lruCounter] }
      refine ⟨rfl, ?_⟩
      refine
        @setSlot _ _
          (fun session =>
            { session with lruCounter := (table.lruCounter + 1) % 2 ^ 64 })
          { hd.hdSd slot with lruCounter := (hd.lruCounter + 1) % 2 ^ 64 }
          counted slot ?_ (shows.handled slot)
      rw [shows.sessions slot, shows.lruCounter]
      rfl

variable {Os : Type} [Platform Os]
variable {device : Device Os}

/-- A session with bytes to read has them in both. -/
theorem canReadData
    (shows : Shows table device.hd)
    {slot : SlotId}
    (isOpen : 0 ≤ (table.hdSd slot).fd) :
    let fd := (table.hdSd slot).fd
    let polled := Platform.select device.os [fd]
    (device.canReadData (some slot)).1 =
      (polled.1.2 fd ||
        table.httpdSessPending (Platform.pending polled.2) slot) := by
  have sameFd : device.fd slot = (table.hdSd slot).fd := shows.fd slot
  have isUsed :
      ¬ ((device.hd.hdSd slot).handle = false ∨ device.fd slot < 0) := by
    rw [shows.sessions slot, sameFd]
    simpa [SockDb.plain, shows.handled slot isOpen] using isOpen
  have pendingLen :
      (device.hd.hdSd slot).pendingLen = (table.hdSd slot).pendingLen :=
    congrArg SimpleTlsBroker.SockDb.pendingLen (shows.sessions slot)
  unfold Device.canReadData
  dsimp only
  rw [if_neg isUsed, sameFd, pendingLen, Bool.or_assoc]
  rfl

/-- Both delete a session. -/
theorem httpdSessDelete
    (shows : Shows table device.hd)
    (slot : SlotId) :
    Shows (table.httpdSessDelete slot) (device.httpdSessDelete slot).hd := by
  have sameFd : device.fd slot = (table.hdSd slot).fd := shows.fd slot
  by_cases closed : (table.hdSd slot).fd < 0
  · rw [SessionTable.httpdSessDelete, if_pos closed,
      Device.httpdSessDelete, if_pos (.inr (by rw [sameFd]; exact closed))]
    exact shows
  · have isOpen : 0 ≤ (table.hdSd slot).fd := Int.not_lt.mp closed
    have handle : (device.hd.hdSd slot).handle = true := by
      rw [shows.sessions slot]
      exact shows.handled slot isOpen
    have isUsed :
        ¬ ((device.hd.hdSd slot).handle = false ∨ device.fd slot < 0) := by
      rw [handle, sameFd]
      simpa using isOpen
    rw [SessionTable.httpdSessDelete, if_neg closed, Device.httpdSessDelete,
      if_neg isUsed]
    have noted : Alike table (table.closeFd slot) :=
      ⟨rfl, fun _ => rfl, rfl, rfl, rfl⟩
    have cleared := shows.of_alike (noted.httpdSessClearCtx slot)
    have marked :=
      @setSlot _ _ (fun session => { session with fd := -1 })
        { device.hd.hdSd slot with fd := -1 } cleared slot
        (by rw [cleared.sessions slot]; rfl)
        (fun isOpen => absurd isOpen (by simp))
    exact marked.uncount

/-- Both take a descriptor into the same slot, or both refuse it. -/
theorem httpdSessNew
    (shows : Shows table device.hd)
    (newfd : Int)
    (sets : List ContextCall) :
    let opened :=
      table.httpdSessNew newfd fun table =>
        ((Platform.openFn device.os newfd).1,
          sets.foldl ContextCall.perform table)
    opened.1 = (device.httpdSessNew newfd).1 ∧
      Shows opened.2 (device.httpdSessNew newfd).2.hd := by
  dsimp only
  rw [SessionTable.httpdSessNew, Device.httpdSessNew,
    shows.httpdSessGet newfd, shows.httpdSessGetFree]
  split
  · exact ⟨rfl, shows⟩
  · cases device.hd.httpdSessGetFree with
    | none => exact ⟨rfl, shows⟩
    | some session =>
        have entered :
            Shows (table.enter session newfd)
              (device.hd.setSlot session
                { HttpdData.initialSlot with fd := newfd, handle := true }) :=
          shows.setSlot session rfl fun _ => rfl
        have prepared :=
          entered.of_alike ((Alike.refl _).performAll entered.idle sets)
        dsimp only
        cases (Platform.openFn device.os newfd).1 with
        | true => exact ⟨rfl, prepared.count⟩
        | false =>
            refine ⟨rfl, ?_⟩
            exact @httpdSessDelete _ _ _
              { device with
                os := (Platform.openFn device.os newfd).2
                hd :=
                  device.hd.setSlot session
                    { HttpdData.initialSlot with
                      fd := newfd
                      handle := true } } prepared session

/-- Both mark the same session. -/
theorem httpdSessCloseLru (shows : Shows table hd) :
    Shows table.httpdSessCloseLru.2 hd.httpdSessCloseLru.2 := by
  rw [SessionTable.httpdSessCloseLru, HttpdData.httpdSessCloseLru,
    shows.lruSession?]
  cases hd.findLowestLru hd.slots (2 ^ 64 - 1) none with
  | none => exact shows
  | some slot =>
      refine
        @setSlot _ _ (fun session => { session with lruSocket := true })
          { hd.hdSd slot with lruSocket := true } shows slot ?_
          (shows.handled slot)
      rw [shows.sessions slot]
      rfl

end Shows

/-! ## Runs on both tables -/

/-- The calls that change a table. -/
inductive Call (Os : Type) where
  /-- `httpd_sess_new`, and what `open_fn` sets. -/
  | new (newfd : Int) (sets : List ContextCall)
  | delete (slot : SlotId)
  | closeLru
  /-- `httpd_sess_update_lru_counter`. -/
  | use (sockfd : Int)
  | context (call : ContextCall)
  | platform (os : Os)

variable {Os : Type} [Platform Os]

/-- Make a call on the full table and on the plain one. -/
def onBoth :
    SessionTable × Device Os → Call Os → SessionTable × Device Os
  | (table, device), .new newfd sets =>
      ((table.httpdSessNew newfd fun table =>
          ((Platform.openFn device.os newfd).1,
            sets.foldl ContextCall.perform table)).2,
        (device.httpdSessNew newfd).2)
  | (table, device), .delete slot =>
      (table.httpdSessDelete slot, device.httpdSessDelete slot)
  | (table, device), .closeLru =>
      (table.httpdSessCloseLru.2,
        { device with hd := device.hd.httpdSessCloseLru.2 })
  | (table, device), .use sockfd =>
      ((table.httpdSessUpdateLruCounter sockfd).2,
        { device with hd := (device.hd.httpdSessUpdateLruCounter sockfd).2 })
  | (table, device), .context call => (call.perform table, device)
  | (table, device), .platform os => (table, { device with os := os })

/-- A call keeps the tables together. -/
theorem Shows.onBoth
    {table : SessionTable}
    {device : Device Os}
    (shows : Shows table device.hd)
    (call : Call Os) :
    Shows (onBoth (table, device) call).1
      (onBoth (table, device) call).2.hd := by
  cases call with
  | new newfd sets => exact (shows.httpdSessNew newfd sets).2
  | delete slot => exact shows.httpdSessDelete slot
  | closeLru => exact shows.httpdSessCloseLru
  | use sockfd => exact (shows.httpdSessUpdateLruCounter sockfd).2
  | context call =>
      exact shows.of_alike ((Alike.refl table).perform shows.idle call)
  | platform os => exact shows

/-- A new plain table shows the new table. -/
theorem shows_start
    {hd : HttpdData}
    (unused : ∀ slot, hd.hdSd slot = HttpdData.initialSlot)
    (noneActive : hd.hdSdActiveCount = 0)
    (unstamped : hd.lruCounter = 0) :
    Shows (start hd.maxOpenSockets) hd where
  sockets := rfl
  sessions slot := unused slot
  activeCount := noneActive
  lruCounter := unstamped
  idle := rfl
  handled _ isOpen := absurd isOpen (by simp [start])

/-- Calls on a new table and on the plain one that a device starts with. -/
def runBoth
    (device : Device Os)
    (calls : List (Call Os)) : SessionTable × Device Os :=
  calls.foldl onBoth (start device.hd.maxOpenSockets, device)

/--
After any calls, the enumerations of the full table find what the plain table
finds: the session with a descriptor, the free slot, the descriptors to wait
for and the session to purge.  A descriptor gets the same slot in both, and the
same open sessions have bytes to read.
-/
theorem enumerations_find_plain
    {device : Device Os}
    (unused : ∀ slot, device.hd.hdSd slot = HttpdData.initialSlot)
    (noneActive : device.hd.hdSdActiveCount = 0)
    (unstamped : device.hd.lruCounter = 0)
    (calls : List (Call Os)) :
    let table := (runBoth device calls).1
    let after := (runBoth device calls).2
    (∀ sockfd, table.httpdSessGet sockfd = after.hd.httpdSessGet sockfd) ∧
      table.httpdSessGetFree = after.hd.httpdSessGetFree ∧
      table.httpdIsSessAvailable = after.hd.httpdIsSessAvailable ∧
      table.httpdSessSetDescriptors.1 = after.hd.descriptors ∧
      table.lruSession? =
        after.hd.findLowestLru after.hd.slots (2 ^ 64 - 1) none ∧
      (∀ slot, 0 ≤ (table.hdSd slot).fd →
        let fd := (table.hdSd slot).fd
        let polled := Platform.select after.os [fd]
        (after.canReadData (some slot)).1 =
          (polled.1.2 fd ||
            table.httpdSessPending (Platform.pending polled.2) slot)) ∧
      ∀ newfd (sets : List ContextCall),
        (table.httpdSessNew newfd fun table =>
            ((Platform.openFn after.os newfd).1,
              sets.foldl ContextCall.perform table)).1 =
          (after.httpdSessNew newfd).1 := by
  have shows :
      ∀ table (device : Device Os),
        Shows table device.hd →
          Shows (calls.foldl onBoth (table, device)).1
            (calls.foldl onBoth (table, device)).2.hd := by
    induction calls with
    | nil => exact fun _ _ shows => shows
    | cons call rest inductionHypothesis =>
        intro table device shows
        exact inductionHypothesis _ _ (shows.onBoth call)
  have shown := shows _ _ (shows_start unused noneActive unstamped)
  exact ⟨shown.httpdSessGet, shown.httpdSessGetFree,
    shown.httpdIsSessAvailable, shown.httpdSessSetDescriptors,
    shown.lruSession?, fun _ isOpen => shown.canReadData isOpen,
    fun newfd sets => (shown.httpdSessNew newfd sets).1⟩

/-- A device without connections. -/
def quietDevice : Device Script where
  os :=
    { clock := 0
      connections := []
      receipts := []
      sendResults := [] }
  hd := Script.table
  trace := []

/-- Three sessions with TLS contexts, of which the first two are used. -/
def threeUsed : List (Call Script) :=
  [.new 5 [⟨.transport, 5, some 1, some 0⟩],
    .new 6 [⟨.transport, 6, some 2, some 0⟩], .use 6, .use 5,
    .new 7 [⟨.transport, 7, some 3, some 0⟩], .use 7]

/-- The second session is found, and it is the one to purge. -/
theorem enumerations_find_plain_used :
    (runBoth quietDevice threeUsed).1.httpdSessGet 6 = some 1 ∧
      (runBoth quietDevice threeUsed).1.lruSession? = some 1 := by
  obtain ⟨get, _, _, _, lru, _⟩ :=
    @enumerations_find_plain _ _ quietDevice (fun _ => rfl) rfl rfl threeUsed
  exact ⟨(get 6).trans (by decide), lru.trans (by decide)⟩

end SessionTable

end SimpleTlsBroker
