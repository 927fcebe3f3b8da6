import SimpleTlsBroker.Sessions
import SimpleTlsBroker.Library.Enumeration

namespace SimpleTlsBroker

/-!
# The session table in full

Every function of `httpd_sess.c` goes through the table with one loop,
`httpd_sess_enum`, whose visitor `enum_function` switches on a task.  Sessions
own contexts, which are freed by functions that come with them.
-/

open Enumeration

/-- A context; no two allocations are the same one. -/
abbrev ContextId := Nat

/-- A function that frees a context; without one it is `free`. -/
abbrev FreeFn := Option Nat

namespace SessionTable

/-- `struct sock_db`, with its contexts. -/
structure SockDb where
  fd : Int
  ctx : Option ContextId
  transportCtx : Option ContextId
  /-- Is `handle` set? -/
  handle : Bool
  freeCtx : FreeFn
  freeTransportCtx : FreeFn
  lruCounter : Nat
  lruSocket : Bool
  pendingLen : Nat
  deriving Repr, DecidableEq

/-- A slot whose bytes are all zero. -/
def SockDb.zero : SockDb where
  fd := 0
  ctx := none
  transportCtx := none
  handle := false
  freeCtx := none
  freeTransportCtx := none
  lruCounter := 0
  lruSocket := false
  pendingLen := 0

/-- `task_t`. -/
inductive Task where
  | none
  | init
  | getActive
  | getFree
  | findFd
  | setDescriptor
  | deleteInvalid
  | findLowestLru
  | close
  deriving Repr, DecidableEq

/-- `enum_context_t`; what an initializer does not name is zero. -/
structure EnumContext where
  task : Task
  fd : Int
  /-- The descriptors set in `fdset`. -/
  fdset : List Int
  maxFd : Int
  lruCounter : Nat
  session : Option SlotId
  deriving Repr, DecidableEq

/-- `{ .task = task }`. -/
def EnumContext.ofTask (task : Task) : EnumContext where
  task := task
  fd := 0
  fdset := []
  maxFd := 0
  lruCounter := 0
  session := none

end SessionTable

/--
`struct httpd_data`, with the request that a handler is working on, and the
history of its descriptors and contexts.
-/
structure SessionTable where
  maxOpenSockets : Nat
  hdSd : SlotId → SessionTable.SockDb
  hdSdActiveCount : Int
  lruCounter : Nat
  /-- `hd_req_aux.sd`. -/
  hdReqAuxSd : Option SlotId
  /-- `hd_req.sess_ctx` and `hd_req.free_ctx`. -/
  hdReqSessCtx : Option ContextId
  hdReqFreeCtx : FreeFn
  /-- The descriptors closed, newest first. -/
  closed : List Int
  /-- The contexts freed, newest first. -/
  released : List (ContextId × FreeFn)
  /-- The contexts that were set, newest first. -/
  entrusted : List (ContextId × FreeFn)

namespace SessionTable

/-- The slots of the table, in the order of their addresses. -/
def slots (table : SessionTable) : List SlotId :=
  List.range table.maxOpenSockets

/-- Change one slot. -/
def modifySlot
    (table : SessionTable)
    (slot : SlotId)
    (change : SockDb → SockDb) : SessionTable :=
  { table with
    hdSd := Function.update table.hdSd slot (change (table.hdSd slot)) }

/-- Note that a context was set. -/
def entrust
    (table : SessionTable)
    (ctx : Option ContextId)
    (freeFn : FreeFn) : SessionTable :=
  { table with
    entrusted := (ctx.map fun ctx => (ctx, freeFn)).toList ++ table.entrusted }

/-- `httpd_sess_free_ctx`; the callers clear the pointer themselves. -/
def httpdSessFreeCtx
    (table : SessionTable)
    (freeFn : FreeFn) : Option ContextId → SessionTable
  | none => table
  | some ctx => { table with released := (ctx, freeFn) :: table.released }

/-- `httpd_sess_clear_ctx`. -/
def httpdSessClearCtx
    (table : SessionTable)
    (slot : SlotId) : SessionTable :=
  let session := table.hdSd slot
  if session.ctx = none ∧ session.transportCtx = none then
    table
  else
    let table :=
      if session.ctx = none then
        table
      else
        (table.httpdSessFreeCtx session.freeCtx session.ctx).modifySlot slot
          fun session => { session with ctx := none, freeCtx := none }
    if session.transportCtx = none then
      table
    else
      (table.httpdSessFreeCtx session.freeTransportCtx
        session.transportCtx).modifySlot slot
          fun session =>
            { session with transportCtx := none, freeTransportCtx := none }

/-- The descriptor of a session is closed. -/
def closeFd
    (table : SessionTable)
    (slot : SlotId) : SessionTable :=
  { table with closed := (table.hdSd slot).fd :: table.closed }

/-- There is one active session less; without any the LRU counter starts anew. -/
def uncount (table : SessionTable) : SessionTable :=
  let count := table.hdSdActiveCount - 1
  { table with
    hdSdActiveCount := count
    lruCounter := if count = 0 then 0 else table.lruCounter }

/-- `httpd_sess_delete`. -/
def httpdSessDelete
    (table : SessionTable)
    (slot : SlotId) : SessionTable :=
  if (table.hdSd slot).fd < 0 then
    table
  else
    (((table.closeFd slot).httpdSessClearCtx slot).modifySlot slot
      fun session => { session with fd := -1 }).uncount

/--
`enum_function`: does the enumeration go on, and what becomes of the table and
of the context?  `valid` is `fd_is_valid`.
-/
def enumFunction
    (valid : Int → Bool)
    (slot : SlotId) :
    SessionTable × EnumContext → Bool × (SessionTable × EnumContext)
  | (table, context) =>
      let session := table.hdSd slot
      let search (found : Bool) :=
        if found then
          (false, (table, { context with session := some slot }))
        else
          (true, (table, context))
      match context.task with
      | .init =>
          (true,
            (table.modifySlot slot
              fun session => { session with fd := -1, ctx := none },
              context))
      | .getActive => search (session.fd ≠ -1)
      | .getFree => search (session.fd < 0)
      | .findFd => search (session.fd = context.fd)
      | .setDescriptor =>
          if session.fd ≠ -1 then
            (true,
              (table,
                { context with
                  fdset := context.fdset ++ [session.fd]
                  maxFd := max context.maxFd session.fd }))
          else
            (true, (table, context))
      | .deleteInvalid =>
          if valid session.fd then
            (true, (table, context))
          else
            (true, (table.httpdSessDelete slot, context))
      | .findLowestLru =>
          if session.fd = -1 then
            (false, (table, context))
          else if session.lruCounter < context.lruCounter then
            (true,
              (table,
                { context with
                  lruCounter := session.lruCounter
                  session := some slot }))
          else
            (true, (table, context))
      | .close =>
          if session.fd ≠ -1 then
            (true, (table.httpdSessDelete slot, context))
          else
            (true, (table, context))
      | .none => (false, (table, context))

/-- `httpd_sess_enum` with `enum_function`. -/
def httpdSessEnum
    (table : SessionTable)
    (valid : Int → Bool)
    (context : EnumContext) : SessionTable × EnumContext :=
  enumerate (enumFunction valid) table.slots (table, context)

/-- The searches do not call `fd_is_valid`. -/
def anyValid (_ : Int) : Bool := true

/-- `httpd_sess_get_free`. -/
def httpdSessGetFree (table : SessionTable) : Option SlotId :=
  if table.hdSdActiveCount = table.maxOpenSockets then
    none
  else
    (table.httpdSessEnum anyValid (.ofTask .getFree)).2.session

/-- `httpd_is_sess_available`. -/
def httpdIsSessAvailable (table : SessionTable) : Bool :=
  table.httpdSessGetFree.isSome

/-- The session of the current request, if it has this descriptor. -/
def requestSession?
    (table : SessionTable)
    (sockfd : Int) : Option SlotId :=
  table.hdReqAuxSd.filter fun slot => (table.hdSd slot).fd = sockfd

/-- `httpd_sess_get`. -/
def httpdSessGet
    (table : SessionTable)
    (sockfd : Int) : Option SlotId :=
  if table.maxOpenSockets = 0 then
    none
  else
    match table.requestSession? sockfd with
    | some slot => some slot
    | none =>
        (table.httpdSessEnum anyValid
          { EnumContext.ofTask .findFd with fd := sockfd }).2.session

/-- A slot is cleared for a new descriptor. -/
def enter
    (table : SessionTable)
    (slot : SlotId)
    (newfd : Int) : SessionTable :=
  table.modifySlot slot
    fun _ => { SockDb.zero with fd := newfd, handle := true }

/--
`httpd_sess_new`: the session, unless there is none to be had.  `openFn` is
`config.open_fn`, which may set contexts, and says whether it succeeded.
-/
def httpdSessNew
    (table : SessionTable)
    (newfd : Int)
    (openFn : SessionTable → Bool × SessionTable) :
    Option SlotId × SessionTable :=
  if (table.httpdSessGet newfd).isSome then
    (none, table)
  else
    match table.httpdSessGetFree with
    | none => (none, table)
    | some session =>
        let (opened, table) := openFn (table.enter session newfd)
        if opened then
          (some session,
            { table with hdSdActiveCount := table.hdSdActiveCount + 1 })
        else
          (none, table.httpdSessDelete session)

/-- `httpd_sess_get_ctx`. -/
def httpdSessGetCtx
    (table : SessionTable)
    (sockfd : Int) : Option ContextId :=
  match table.httpdSessGet sockfd with
  | none => none
  | some slot =>
      if table.hdReqAuxSd = some slot then
        table.hdReqSessCtx
      else
        (table.hdSd slot).ctx

/-- `httpd_sess_set_ctx`. -/
def httpdSessSetCtx
    (table : SessionTable)
    (sockfd : Int)
    (ctx : Option ContextId)
    (freeFn : FreeFn) : SessionTable :=
  match table.httpdSessGet sockfd with
  | none => table
  | some slot =>
      if table.hdReqAuxSd = some slot then
        -- A request keeps the context until it is cleaned up.
        let table :=
          if table.hdReqSessCtx ≠ ctx then
            let table :=
              if (table.hdSd slot).ctx ≠ table.hdReqSessCtx then
                table.httpdSessFreeCtx table.hdReqFreeCtx table.hdReqSessCtx
              else
                table
            { table with hdReqSessCtx := ctx }
          else
            table
        { table with hdReqFreeCtx := freeFn }.entrust ctx freeFn
      else
        let session := table.hdSd slot
        let table :=
          if session.ctx ≠ ctx then
            (table.httpdSessFreeCtx session.freeCtx session.ctx).modifySlot
              slot fun session => { session with ctx := ctx }
          else
            table
        (table.modifySlot slot
          fun session => { session with freeCtx := freeFn }).entrust ctx freeFn

/-- `httpd_sess_get_transport_ctx`. -/
def httpdSessGetTransportCtx
    (table : SessionTable)
    (sockfd : Int) : Option ContextId :=
  match table.httpdSessGet sockfd with
  | none => none
  | some slot => (table.hdSd slot).transportCtx

/-- `httpd_sess_set_transport_ctx`. -/
def httpdSessSetTransportCtx
    (table : SessionTable)
    (sockfd : Int)
    (ctx : Option ContextId)
    (freeFn : FreeFn) : SessionTable :=
  match table.httpdSessGet sockfd with
  | none => table
  | some slot =>
      let session := table.hdSd slot
      let table :=
        if session.transportCtx ≠ ctx then
          (table.httpdSessFreeCtx session.freeTransportCtx
            session.transportCtx).modifySlot slot
              fun session => { session with transportCtx := ctx }
        else
          table
      (table.modifySlot slot
        fun session => { session with freeTransportCtx := freeFn }).entrust
          ctx freeFn

/-- `httpd_sess_set_descriptors`: the descriptors added, and the highest. -/
def httpdSessSetDescriptors (table : SessionTable) : List Int × Int :=
  let context :=
    (table.httpdSessEnum anyValid
      { EnumContext.ofTask .setDescriptor with maxFd := -1 }).2
  (context.fdset, context.maxFd)

/-- `httpd_sess_delete_invalid`. -/
def httpdSessDeleteInvalid
    (table : SessionTable)
    (valid : Int → Bool) : SessionTable :=
  (table.httpdSessEnum valid (.ofTask .deleteInvalid)).1

/-- `httpd_sess_init`. -/
def httpdSessInit (table : SessionTable) : SessionTable :=
  (table.httpdSessEnum anyValid (.ofTask .init)).1

/-- `httpd_sess_update_lru_counter`: is there a session with this descriptor? -/
def httpdSessUpdateLruCounter
    (table : SessionTable)
    (sockfd : Int) : Bool × SessionTable :=
  match
      (table.httpdSessEnum anyValid
        { EnumContext.ofTask .findFd with fd := sockfd }).2.session with
  | none => (false, table)
  | some slot =>
      let count := (table.lruCounter + 1) % 2 ^ 64
      (true,
        { table with lruCounter := count }.modifySlot slot
          fun session => { session with lruCounter := count })

/-- `httpd_queue_work` of this repository: the work is never queued. -/
def httpdQueueWork (table : SessionTable) : Bool × SessionTable :=
  (true, table)

/-- `httpd_sess_trigger_close`: is there a session with this descriptor? -/
def httpdSessTriggerClose
    (table : SessionTable)
    (sockfd : Int) : Bool × SessionTable :=
  match table.httpdSessGet sockfd with
  | none => (false, table)
  | some _ => table.httpdQueueWork

/-- The session that `httpd_sess_close_lru` finds. -/
def lruSession? (table : SessionTable) : Option SlotId :=
  (table.httpdSessEnum anyValid
    { EnumContext.ofTask .findLowestLru with
      lruCounter := 2 ^ 64 - 1
      fd := -1 }).2.session

/-- `httpd_sess_close_lru`. -/
def httpdSessCloseLru (table : SessionTable) : Bool × SessionTable :=
  match table.lruSession? with
  | none => (true, table)
  | some slot =>
      (table.modifySlot slot
        fun session => { session with lruSocket := true }).httpdQueueWork

/-- `httpd_sess_close`, the work that is queued. -/
def httpdSessClose
    (table : SessionTable)
    (slot : SlotId) : SessionTable :=
  if (table.hdSd slot).lruCounter = 0 ∧
      (table.hdSd slot).lruSocket = false then
    table
  else
    (table.modifySlot slot
      fun session => { session with lruSocket := false }).httpdSessDelete slot

/-- `httpd_sess_close_all`. -/
def httpdSessCloseAll (table : SessionTable) : SessionTable :=
  (table.httpdSessEnum anyValid (.ofTask .close)).1

/-- `httpd_sess_pending`, where `pendingFn` found bytes or not. -/
def httpdSessPending
    (table : SessionTable)
    (pendingFn : Int → Bool)
    (slot : SlotId) : Bool :=
  pendingFn (table.hdSd slot).fd || (table.hdSd slot).pendingLen ≠ 0

/-- What `httpd_create` allocates, with every byte zero. -/
def zeroed (maxOpenSockets : Nat) : SessionTable where
  maxOpenSockets := maxOpenSockets
  hdSd _ := .zero
  hdSdActiveCount := 0
  lruCounter := 0
  hdReqAuxSd := none
  hdReqSessCtx := none
  hdReqFreeCtx := none
  closed := []
  released := []
  entrusted := []

/-- The table after `httpd_create` and `httpd_sess_init`. -/
def start (maxOpenSockets : Nat) : SessionTable where
  maxOpenSockets := maxOpenSockets
  hdSd _ := { SockDb.zero with fd := -1 }
  hdSdActiveCount := 0
  lruCounter := 0
  hdReqAuxSd := none
  hdReqSessCtx := none
  hdReqFreeCtx := none
  closed := []
  released := []
  entrusted := []

/-! ## What the enumerations find -/

variable {table : SessionTable}
variable {valid : Int → Bool}
variable {context : EnumContext}

/-- A search returns the first session that it looks for. -/
theorem session_search
    {isFound : SlotId → Bool}
    (unfound : context.session = none)
    (searches :
      ∀ slot,
        enumFunction valid slot (table, context) =
          if isFound slot then
            (false, (table, { context with session := some slot }))
          else
            (true, (table, context))) :
    (table.httpdSessEnum valid context).2.session =
      table.slots.find? isFound := by
  unfold httpdSessEnum
  rw [enumerate_find fun slot _ => searches slot]
  cases table.slots.find? isFound with
  | none => exact unfound
  | some slot => rfl

/-- The first free slot is found. -/
theorem httpdSessGetFree_eq (table : SessionTable) :
    table.httpdSessGetFree =
      if table.hdSdActiveCount = table.maxOpenSockets then
        none
      else
        table.slots.find? fun slot => (table.hdSd slot).fd < 0 := by
  have searched :
      (table.httpdSessEnum anyValid (.ofTask .getFree)).2.session =
        table.slots.find? fun slot => (table.hdSd slot).fd < 0 :=
    session_search rfl fun _ => rfl
  rw [httpdSessGetFree, searched]

/-- The first session with a descriptor is found. -/
theorem session_findFd
    (table : SessionTable)
    (sockfd : Int) :
    (table.httpdSessEnum anyValid
        { EnumContext.ofTask .findFd with fd := sockfd }).2.session =
      table.slots.find? fun slot => (table.hdSd slot).fd = sockfd :=
  session_search rfl fun _ => rfl

/-- Without a request `httpd_sess_get` is that search. -/
theorem httpdSessGet_eq
    (idle : table.hdReqAuxSd = none)
    (sockfd : Int) :
    table.httpdSessGet sockfd =
      table.slots.find? fun slot => (table.hdSd slot).fd = sockfd := by
  have noRequest : table.requestSession? sockfd = none := by
    rw [requestSession?, idle, Option.filter_none]
  rw [httpdSessGet, noRequest, session_findFd]
  split
  · rename_i empty
    rw [slots, empty]
    rfl
  · rfl

/-- What `httpd_sess_get` returns is a slot of the table with the descriptor. -/
theorem found_httpdSessGet
    {slot : SlotId}
    {sockfd : Int}
    (idle : table.hdReqAuxSd = none)
    (found : table.httpdSessGet sockfd = some slot) :
    slot ∈ table.slots ∧ (table.hdSd slot).fd = sockfd := by
  rw [httpdSessGet_eq idle] at found
  exact ⟨List.mem_of_find?_eq_some found,
    of_decide_eq_true (List.find?_some found :)⟩

/-- All sessions are deleted, one after the other. -/
theorem httpdSessCloseAll_eq (table : SessionTable) :
    table.httpdSessCloseAll = table.slots.foldl httpdSessDelete table := by
  have visits (slot : SlotId) (table : SessionTable) :
      enumFunction anyValid slot (table, .ofTask .close) =
        (true, (table.httpdSessDelete slot, .ofTask .close)) := by
    by_cases free : (table.hdSd slot).fd = -1
    · have unchanged : table.httpdSessDelete slot = table := by
        rw [httpdSessDelete, free]
        rfl
      simp [enumFunction, EnumContext.ofTask, free, unchanged]
    · simp [enumFunction, EnumContext.ofTask, free]
  rw [httpdSessCloseAll, httpdSessEnum, enumerate_each visits]

/-- The sessions with invalid descriptors are deleted. -/
theorem httpdSessDeleteInvalid_eq
    (table : SessionTable)
    (valid : Int → Bool) :
    table.httpdSessDeleteInvalid valid =
      table.slots.foldl
        (fun table slot =>
          if valid (table.hdSd slot).fd then
            table
          else
            table.httpdSessDelete slot) table := by
  have visits (slot : SlotId) (table : SessionTable) :
      enumFunction valid slot (table, .ofTask .deleteInvalid) =
        (true,
          (if valid (table.hdSd slot).fd then
            table
          else
            table.httpdSessDelete slot, .ofTask .deleteInvalid)) := by
    simp only [enumFunction, EnumContext.ofTask]
    split <;> rfl
  rw [httpdSessDeleteInvalid, httpdSessEnum, enumerate_each visits]

/-- The descriptors of the open sessions are collected. -/
theorem httpdSessSetDescriptors_eq (table : SessionTable) :
    table.httpdSessSetDescriptors.1 =
      (table.slots.map fun slot => (table.hdSd slot).fd).filter
        fun fd => fd ≠ -1 := by
  have collects
      (slots : List SlotId)
      (context : EnumContext)
      (isTask : context.task = .setDescriptor) :
      (enumerate (enumFunction anyValid) slots (table, context)).2.fdset =
        context.fdset ++
          (slots.map fun slot => (table.hdSd slot).fd).filter
            fun fd => fd ≠ -1 := by
    induction slots generalizing context with
    | nil => simp [enumerate]
    | cons slot rest inductionHypothesis =>
        by_cases free : (table.hdSd slot).fd = -1
        · have goesOn :
              enumFunction anyValid slot (table, context) =
                (true, (table, context)) := by
            simp [enumFunction, isTask, free]
          rw [enumerate_of_goesOn goesOn, inductionHypothesis context isTask]
          simp [free]
        · have goesOn :
              enumFunction anyValid slot (table, context) =
                (true,
                  (table,
                    { context with
                      fdset := context.fdset ++ [(table.hdSd slot).fd]
                      maxFd := max context.maxFd (table.hdSd slot).fd })) := by
            simp [enumFunction, isTask, free]
          have later :=
            inductionHypothesis
              { context with
                fdset := context.fdset ++ [(table.hdSd slot).fd]
                maxFd := max context.maxFd (table.hdSd slot).fd } isTask
          rw [enumerate_of_goesOn goesOn, later]
          simp [free]
  exact collects table.slots _ rfl

/-- `httpd_sess_init` makes every slot of the table free. -/
theorem hdSd_httpdSessInit
    {slot : SlotId}
    (member : slot ∈ table.slots) :
    table.httpdSessInit.hdSd slot =
      { table.hdSd slot with fd := -1, ctx := none } := by
  have initialized
      (slots : List SlotId)
      (nodup : slots.Nodup)
      (table : SessionTable) :
      (slots.foldl
        (fun table slot =>
          table.modifySlot slot
            fun session => { session with fd := -1, ctx := none })
        table).hdSd slot =
          if slot ∈ slots then
            { table.hdSd slot with fd := -1, ctx := none }
          else
            table.hdSd slot := by
    induction slots generalizing table with
    | nil => rfl
    | cons first rest inductionHypothesis =>
        obtain ⟨outside, nodup⟩ := List.nodup_cons.mp nodup
        rw [List.foldl_cons, inductionHypothesis nodup]
        by_cases same : slot = first
        · subst same
          simp [outside, modifySlot]
        · simp [same, modifySlot]
  have visits (slot : SlotId) (table : SessionTable) :
      enumFunction anyValid slot (table, .ofTask .init) =
        (true,
          (table.modifySlot slot
            fun session => { session with fd := -1, ctx := none },
            .ofTask .init)) := rfl
  rw [httpdSessInit, httpdSessEnum, enumerate_each visits,
    initialized table.slots List.nodup_range table, if_pos member]

/-- The table that is set up has free slots, and nothing else is in it. -/
theorem httpdSessInit_zeroed
    (maxOpenSockets : Nat)
    {slot : SlotId}
    (member : slot ∈ (zeroed maxOpenSockets).slots) :
    (zeroed maxOpenSockets).httpdSessInit.hdSd slot =
      (start maxOpenSockets).hdSd slot :=
  hdSd_httpdSessInit member

/-! ## What contexts do not change -/

/-- A slot without its contexts. -/
def SockDb.plain (session : SessionTable.SockDb) : SimpleTlsBroker.SockDb where
  fd := session.fd
  handle := session.handle
  lruCounter := session.lruCounter
  lruSocket := session.lruSocket
  pendingLen := session.pendingLen

/-- Two tables differ in contexts and in the history only. -/
structure Alike (before after : SessionTable) : Prop where
  sockets : after.maxOpenSockets = before.maxOpenSockets
  sessions : ∀ slot, (after.hdSd slot).plain = (before.hdSd slot).plain
  activeCount : after.hdSdActiveCount = before.hdSdActiveCount
  lruCounter : after.lruCounter = before.lruCounter
  request : after.hdReqAuxSd = before.hdReqAuxSd

/-- The two contexts of a session. -/
inductive Kind where
  | user
  | transport
  deriving Repr, DecidableEq

/-- A call that sets a context of the session with a descriptor. -/
structure ContextCall where
  kind : Kind
  sockfd : Int
  ctx : Option ContextId
  freeFn : FreeFn
  deriving Repr, DecidableEq

/-- Make the call. -/
def ContextCall.perform
    (table : SessionTable)
    (call : ContextCall) : SessionTable :=
  match call.kind with
  | .user => table.httpdSessSetCtx call.sockfd call.ctx call.freeFn
  | .transport =>
      table.httpdSessSetTransportCtx call.sockfd call.ctx call.freeFn

namespace Alike

variable {before after last : SessionTable}

theorem refl (table : SessionTable) : Alike table table :=
  ⟨rfl, fun _ => rfl, rfl, rfl, rfl⟩

theorem trans
    (first : Alike before after)
    (second : Alike after last) : Alike before last where
  sockets := second.sockets.trans first.sockets
  sessions slot := (second.sessions slot).trans (first.sessions slot)
  activeCount := second.activeCount.trans first.activeCount
  lruCounter := second.lruCounter.trans first.lruCounter
  request := second.request.trans first.request

/-- The descriptors are the same. -/
theorem fd
    (alike : Alike before after)
    (slot : SlotId) :
    (after.hdSd slot).fd = (before.hdSd slot).fd :=
  congrArg SimpleTlsBroker.SockDb.fd (alike.sessions slot)

/-- So are the handles. -/
theorem handle
    (alike : Alike before after)
    (slot : SlotId) :
    (after.hdSd slot).handle = (before.hdSd slot).handle :=
  congrArg SimpleTlsBroker.SockDb.handle (alike.sessions slot)

/-- A freed context is only noted. -/
theorem httpdSessFreeCtx
    (alike : Alike before after)
    (freeFn : FreeFn)
    (ctx : Option ContextId) :
    Alike before (after.httpdSessFreeCtx freeFn ctx) := by
  cases ctx with
  | none => exact alike
  | some ctx => exact alike.trans ⟨rfl, fun _ => rfl, rfl, rfl, rfl⟩

/-- A slot changes in its contexts. -/
theorem modifySlot
    {change : SockDb → SockDb}
    (alike : Alike before after)
    (slot : SlotId)
    (keeps : ∀ session, (change session).plain = session.plain) :
    Alike before (after.modifySlot slot change) := by
  refine alike.trans ⟨rfl, ?_, rfl, rfl, rfl⟩
  intro other
  by_cases same : other = slot
  · subst same
    simp only [SessionTable.modifySlot, Function.update_self]
    exact keeps _
  · simp only [SessionTable.modifySlot, Function.update_of_ne same]

/-- Clearing contexts. -/
theorem httpdSessClearCtx
    (alike : Alike before after)
    (slot : SlotId) :
    Alike before (after.httpdSessClearCtx slot) := by
  have cleared :
      Alike before
        (if (after.hdSd slot).ctx = none then
          after
        else
          (after.httpdSessFreeCtx (after.hdSd slot).freeCtx
            (after.hdSd slot).ctx).modifySlot slot
              fun session => { session with ctx := none, freeCtx := none }) := by
    split
    · exact alike
    · refine (alike.httpdSessFreeCtx _ _).modifySlot slot ?_
      exact fun _ => rfl
  unfold SessionTable.httpdSessClearCtx
  dsimp only
  split
  · exact alike
  · split
    · exact cleared
    · refine (cleared.httpdSessFreeCtx _ _).modifySlot slot ?_
      exact fun _ => rfl

/-- Setting a context. -/
theorem perform
    (alike : Alike before after)
    (idle : before.hdReqAuxSd = none)
    (call : ContextCall) :
    Alike before (call.perform after) := by
  have noRequest : after.hdReqAuxSd = none := alike.request.trans idle
  obtain ⟨kind, sockfd, ctx, freeFn⟩ := call
  cases kind with
  | user =>
      change Alike before (after.httpdSessSetCtx sockfd ctx freeFn)
      unfold SessionTable.httpdSessSetCtx
      split
      · exact alike
      · rename_i slot _
        rw [if_neg (by simp [noRequest])]
        have changed :
            Alike before
              (if (after.hdSd slot).ctx ≠ ctx then
                (after.httpdSessFreeCtx (after.hdSd slot).freeCtx
                  (after.hdSd slot).ctx).modifySlot slot
                    fun session => { session with ctx := ctx }
              else
                after) := by
          split
          · refine (alike.httpdSessFreeCtx _ _).modifySlot slot ?_
            exact fun _ => rfl
          · exact alike
        have tagged :=
          @modifySlot _ _ (fun session => { session with freeCtx := freeFn })
            changed slot fun _ => rfl
        exact tagged.trans ⟨rfl, fun _ => rfl, rfl, rfl, rfl⟩
  | transport =>
      change Alike before (after.httpdSessSetTransportCtx sockfd ctx freeFn)
      unfold SessionTable.httpdSessSetTransportCtx
      split
      · exact alike
      · rename_i slot _
        have changed :
            Alike before
              (if (after.hdSd slot).transportCtx ≠ ctx then
                (after.httpdSessFreeCtx (after.hdSd slot).freeTransportCtx
                  (after.hdSd slot).transportCtx).modifySlot slot
                    fun session => { session with transportCtx := ctx }
              else
                after) := by
          split
          · refine (alike.httpdSessFreeCtx _ _).modifySlot slot ?_
            exact fun _ => rfl
          · exact alike
        have tagged :=
          @modifySlot _ _
            (fun session => { session with freeTransportCtx := freeFn })
            changed slot fun _ => rfl
        exact tagged.trans ⟨rfl, fun _ => rfl, rfl, rfl, rfl⟩

/-- Setting many contexts. -/
theorem performAll
    (alike : Alike before after)
    (idle : before.hdReqAuxSd = none)
    (calls : List ContextCall) :
    Alike before (calls.foldl ContextCall.perform after) := by
  induction calls generalizing after with
  | nil => exact alike
  | cons call rest inductionHypothesis =>
      exact inductionHypothesis (alike.perform idle call)

end Alike

end SessionTable

end SimpleTlsBroker
