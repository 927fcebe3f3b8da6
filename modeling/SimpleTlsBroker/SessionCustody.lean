import SimpleTlsBroker.SessionTable
import SimpleTlsBroker.Library.Custody

namespace SimpleTlsBroker

/-!
# Custody of the session contexts

A session owns what `httpd_sess_set_ctx` and `httpd_sess_set_transport_ctx` gave
it, such as the TLS connection, and `httpd_sess_delete` frees it.  Seen as books
of custody, the table frees every context once, and none before its session
lets it go.
-/

open Custody

namespace SessionTable

/-- A context of a session, with the function that frees it. -/
def SockDb.item (session : SessionTable.SockDb) :
    Kind → Option (ContextId × FreeFn)
  | .user => session.ctx.map fun ctx => (ctx, session.freeCtx)
  | .transport =>
      session.transportCtx.map fun ctx => (ctx, session.freeTransportCtx)

/-- The contexts of a table as books of custody. -/
def books (table : SessionTable) : Books (Kind × SlotId) ContextId FreeFn where
  held place := (table.hdSd place.2).item place.1
  released := table.released
  entrusted := table.entrusted

variable {table after : SessionTable}
variable {slot : SlotId}
variable {kind : Kind}

/-! ## What the functions do to the books -/

/-- A slot that changes twice. -/
theorem modifySlot_modifySlot
    (table : SessionTable)
    (slot : SlotId)
    (first second : SockDb → SockDb) :
    (table.modifySlot slot first).modifySlot slot second =
      table.modifySlot slot fun session => second (first session) := by
  simp only [modifySlot, Function.update_self, Function.update_idem]

/-- A slot changes in something else. -/
theorem books_modifySlot
    {change : SockDb → SockDb}
    (keeps :
      ∀ kind,
        (change (table.hdSd slot)).item kind = (table.hdSd slot).item kind) :
    (table.modifySlot slot change).books = table.books := by
  apply Books.ext
  · funext place
    simp only [books, modifySlot]
    by_cases same : place.2 = slot
    · rw [same, Function.update_self]
      exact keeps place.1
    · rw [Function.update_of_ne same]
  · rfl
  · rfl

/-- Freeing a context leaves the slots alone. -/
theorem hdSd_httpdSessFreeCtx
    (table : SessionTable)
    (freeFn : FreeFn)
    (ctx : Option ContextId) :
    (table.httpdSessFreeCtx freeFn ctx).hdSd = table.hdSd := by
  cases ctx <;> rfl

/-- A context is freed, and another item takes its place. -/
theorem books_replace
    {change : SockDb → SockDb}
    {ctx : Option ContextId}
    {freeFn : FreeFn}
    (isItem :
      (table.hdSd slot).item kind = ctx.map fun ctx => (ctx, freeFn))
    (others :
      ∀ other, other ≠ kind →
        (change (table.hdSd slot)).item other =
          (table.hdSd slot).item other) :
    ((table.httpdSessFreeCtx freeFn ctx).modifySlot slot change).books =
      { table.books.release (kind, slot) with
        held :=
          Function.update table.books.held (kind, slot)
            ((change (table.hdSd slot)).item kind) } := by
  apply Books.ext
  · funext place
    simp only [books, modifySlot, hdSd_httpdSessFreeCtx]
    by_cases here : place = (kind, slot)
    · subst here
      simp only [Function.update_self]
    · rw [Function.update_of_ne here]
      by_cases same : place.2 = slot
      · have isOther : place.1 ≠ kind := fun isKind =>
          here (Prod.ext isKind same)
        rw [same, Function.update_self]
        exact others place.1 isOther
      · rw [Function.update_of_ne same]
  · change (table.httpdSessFreeCtx freeFn ctx).released =
      ((table.hdSd slot).item kind).toList ++ table.released
    rw [isItem]
    cases ctx <;> rfl
  · cases ctx <;> rfl

/-- A context that is there is freed. -/
theorem books_clear
    {change : SockDb → SockDb}
    {ctx : Option ContextId}
    {freeFn : FreeFn}
    (isItem :
      (table.hdSd slot).item kind = ctx.map fun ctx => (ctx, freeFn))
    (cleared : (change (table.hdSd slot)).item kind = none)
    (others :
      ∀ other, other ≠ kind →
        (change (table.hdSd slot)).item other =
          (table.hdSd slot).item other) :
    (if ctx = none then
      table
    else
      (table.httpdSessFreeCtx freeFn ctx).modifySlot slot change).books =
      table.books.release (kind, slot) := by
  split
  · rename_i absent
    rw [absent] at isItem
    exact (Books.release_of_empty isItem).symm
  · rw [books_replace isItem others, cleared]
    rfl

/-- `httpd_sess_clear_ctx` releases both contexts. -/
theorem books_httpdSessClearCtx
    (table : SessionTable)
    (slot : SlotId) :
    (table.httpdSessClearCtx slot).books =
      (table.books.release (.user, slot)).release (.transport, slot) := by
  have user :=
    @books_clear table slot .user
      (fun session => { session with ctx := none, freeCtx := none })
      _ _ rfl rfl (by rintro (_ | _) distinct <;> trivial)
  unfold httpdSessClearCtx
  dsimp only
  split
  · rename_i absent
    have noUser : table.books.held (.user, slot) = none := by
      simp [books, SockDb.item, absent.1]
    have noTransport : table.books.held (.transport, slot) = none := by
      simp [books, SockDb.item, absent.2]
    rw [Books.release_of_empty noUser, Books.release_of_empty noTransport]
  · rw [← user]
    apply books_clear
    · split
      · rfl
      · simp only [modifySlot, hdSd_httpdSessFreeCtx, Function.update_self]
        rfl
    · rfl
    · rintro (_ | _) distinct <;> trivial

/-- `httpd_sess_delete` releases what an open session owns. -/
theorem books_httpdSessDelete
    (isOpen : 0 ≤ (table.hdSd slot).fd) :
    (table.httpdSessDelete slot).books =
      (table.books.release (.user, slot)).release (.transport, slot) := by
  rw [httpdSessDelete, if_neg (Int.not_lt.mpr isOpen)]
  have marked :
      (((table.closeFd slot).httpdSessClearCtx slot).modifySlot slot
        fun session => { session with fd := -1 }).books =
          ((table.closeFd slot).httpdSessClearCtx slot).books :=
    books_modifySlot fun kind => by cases kind <;> rfl
  exact marked.trans (books_httpdSessClearCtx (table.closeFd slot) slot)

/-- A new item replaces the one that is there, the same one gets a new tag. -/
theorem books_exchange
    {change : Option ContextId → SockDb → SockDb}
    {tag : SockDb → SockDb}
    {old ctx : Option ContextId}
    {oldFn freeFn : FreeFn}
    (isOld : (table.hdSd slot).item kind = old.map fun ctx => (ctx, oldFn))
    (isNew :
      ∀ session, (tag (change ctx session)).item kind =
        ctx.map fun ctx => (ctx, freeFn))
    (isTag :
      ∀ session, (tag session).item kind =
        (session.item kind).map fun item => (item.1, freeFn))
    (others :
      ∀ session other, other ≠ kind →
        (change ctx session).item other = session.item other ∧
          (tag session).item other = session.item other) :
    (((if old ≠ ctx then
        (table.httpdSessFreeCtx oldFn old).modifySlot slot (change ctx)
      else
        table).modifySlot slot tag).entrust ctx freeFn).books =
      if old = ctx then
        table.books.retag (kind, slot) freeFn
      else
        (table.books.release (kind, slot)).take (kind, slot)
          (ctx.map fun ctx => (ctx, freeFn)) := by
  by_cases same : old = ctx
  · rw [if_neg (not_not.mpr same), if_pos same]
    apply Books.ext
    · funext place
      simp only [books, entrust, modifySlot, Books.retag]
      by_cases here : place = (kind, slot)
      · subst here
        simp only [Function.update_self]
        exact isTag _
      · rw [Function.update_of_ne here]
        by_cases sameSlot : place.2 = slot
        · have isOther : place.1 ≠ kind := fun isKind =>
            here (Prod.ext isKind sameSlot)
          rw [sameSlot, Function.update_self]
          exact (others _ place.1 isOther).2
        · rw [Function.update_of_ne sameSlot]
    · rfl
    · change (ctx.map fun ctx => (ctx, freeFn)).toList ++ table.entrusted =
        (((table.hdSd slot).item kind).map fun item =>
          (item.1, freeFn)).toList ++ table.entrusted
      rw [isOld, same, Option.map_map]
      rfl
  · rw [if_pos same, if_neg same, modifySlot_modifySlot]
    have replaced :=
      @books_replace table slot kind (fun session => tag (change ctx session))
        old oldFn isOld fun other distinct =>
          (others (change ctx (table.hdSd slot)) other distinct).2.trans
            (others (table.hdSd slot) other distinct).1
    rw [isNew] at replaced
    apply Books.ext
    · refine (congrArg Books.held replaced).trans ?_
      simp only [Books.take, Books.release, Function.update_idem]
    · have released := congrArg Books.released replaced
      exact released
    · change (ctx.map fun ctx => (ctx, freeFn)).toList ++
        ((table.httpdSessFreeCtx oldFn old).modifySlot slot
          fun session => tag (change ctx session)).books.entrusted = _
      rw [replaced]
      rfl

/-- Without a session nothing is set. -/
theorem perform_of_absent
    {call : ContextCall}
    (absent : table.httpdSessGet call.sockfd = none) :
    call.perform table = table := by
  obtain ⟨kind, sockfd, ctx, freeFn⟩ := call
  dsimp only at absent
  cases kind with
  | user =>
      change table.httpdSessSetCtx sockfd ctx freeFn = table
      rw [httpdSessSetCtx, absent]
  | transport =>
      change table.httpdSessSetTransportCtx sockfd ctx freeFn = table
      rw [httpdSessSetTransportCtx, absent]

/-- The keys of a session are its contexts. -/
theorem held_key
    (table : SessionTable)
    (kind : Kind)
    (slot : SlotId) :
    (table.books.held (kind, slot)).map Prod.fst =
      match kind with
      | .user => (table.hdSd slot).ctx
      | .transport => (table.hdSd slot).transportCtx := by
  cases kind with
  | user =>
      change ((table.hdSd slot).ctx.map _).map _ = _
      rw [Option.map_map]
      exact Option.map_id'
  | transport =>
      change ((table.hdSd slot).transportCtx.map _).map _ = _
      rw [Option.map_map]
      exact Option.map_id'

/-- What a call that sets a context does to the books. -/
theorem books_perform
    {call : ContextCall}
    (idle : table.hdReqAuxSd = none)
    (found : table.httpdSessGet call.sockfd = some slot) :
    (call.perform table).books =
      if (table.books.held (call.kind, slot)).map Prod.fst = call.ctx then
        table.books.retag (call.kind, slot) call.freeFn
      else
        (table.books.release (call.kind, slot)).take (call.kind, slot)
          (call.ctx.map fun ctx => (ctx, call.freeFn)) := by
  obtain ⟨kind, sockfd, ctx, freeFn⟩ := call
  dsimp only at found
  rw [held_key]
  cases kind with
  | user =>
      change (table.httpdSessSetCtx sockfd ctx freeFn).books = _
      rw [httpdSessSetCtx, found]
      dsimp only
      rw [if_neg (by simp [idle])]
      refine
        @books_exchange table slot .user
          (fun ctx session => { session with ctx := ctx })
          (fun session => { session with freeCtx := freeFn })
          _ ctx _ freeFn rfl (fun _ => rfl) ?_ ?_
      · intro session
        change session.ctx.map _ = (session.ctx.map _).map _
        rw [Option.map_map]
        rfl
      · rintro session (_ | _) distinct
        · contradiction
        · exact ⟨rfl, rfl⟩
  | transport =>
      change (table.httpdSessSetTransportCtx sockfd ctx freeFn).books = _
      rw [httpdSessSetTransportCtx, found]
      refine
        @books_exchange table slot .transport
          (fun ctx session => { session with transportCtx := ctx })
          (fun session => { session with freeTransportCtx := freeFn })
          _ ctx _ freeFn rfl (fun _ => rfl) ?_ ?_
      · intro session
        change session.transportCtx.map _ = (session.transportCtx.map _).map _
        rw [Option.map_map]
        rfl
      · rintro session (_ | _) distinct
        · exact ⟨rfl, rfl⟩
        · contradiction

/-! ## What every call keeps -/

/-- The books are sound, and free slots own nothing. -/
structure Kept (table : SessionTable) : Prop where
  idle : table.hdReqAuxSd = none
  sound : Sound table.books
  vacant :
    ∀ slot kind,
      (table.hdSd slot).fd < 0 → (table.hdSd slot).item kind = none

/-- What a session has now in the place that a call is about. -/
def ContextCall.current
    (table : SessionTable)
    (call : ContextCall) : Option ContextId :=
  match call.kind with
  | .user => table.httpdSessGetCtx call.sockfd
  | .transport => table.httpdSessGetTransportCtx call.sockfd

/--
A caller gives a context that no session was given before, or the one that the
session has; the descriptor is one.
-/
structure Offers (table : SessionTable) (call : ContextCall) : Prop where
  isFd : 0 ≤ call.sockfd
  mine :
    ∀ ctx ∈ call.ctx,
      ctx ∉ table.entrusted.map Prod.fst ∨ call.current table = some ctx

instance
    (table : SessionTable)
    (call : ContextCall) : Decidable (table.Offers call) :=
  decidable_of_iff
    (0 ≤ call.sockfd ∧
      ∀ ctx ∈ call.ctx,
        ctx ∉ table.entrusted.map Prod.fst ∨ call.current table = some ctx)
    ⟨fun ⟨isFd, mine⟩ => ⟨isFd, mine⟩,
      fun offers => ⟨offers.isFd, offers.mine⟩⟩

/-- The current context is what the books say. -/
theorem current_eq
    {call : ContextCall}
    (idle : table.hdReqAuxSd = none)
    (found : table.httpdSessGet call.sockfd = some slot) :
    call.current table =
      (table.books.held (call.kind, slot)).map Prod.fst := by
  obtain ⟨kind, sockfd, ctx, freeFn⟩ := call
  dsimp only at found
  rw [held_key]
  cases kind with
  | user =>
      change table.httpdSessGetCtx sockfd = _
      rw [httpdSessGetCtx, found]
      dsimp only
      rw [if_neg (by simp [idle])]
  | transport =>
      change table.httpdSessGetTransportCtx sockfd = _
      rw [httpdSessGetTransportCtx, found]

namespace Kept

/-- Changes that are not about contexts, and open no slot. -/
theorem of_same
    (kept : Kept table)
    (idle : after.hdReqAuxSd = table.hdReqAuxSd)
    (books : after.books = table.books)
    (shut : ∀ slot, (after.hdSd slot).fd < 0 → (table.hdSd slot).fd < 0) :
    Kept after where
  idle := idle.trans kept.idle
  sound := books ▸ kept.sound
  vacant slot kind free := by
    have sameItem := congrFun (congrArg Books.held books) (kind, slot)
    exact sameItem.trans (kept.vacant slot kind (shut slot free))

/-- A slot changes in something else than its descriptor and its contexts. -/
theorem modifySlot
    {change : SockDb → SockDb}
    (kept : Kept table)
    (slot : SlotId)
    (sameFd : ∀ session, (change session).fd = session.fd)
    (sameItems :
      ∀ session kind, (change session).item kind = session.item kind) :
    Kept (table.modifySlot slot change) := by
  refine kept.of_same rfl (books_modifySlot (sameItems _)) ?_
  intro other
  by_cases same : other = slot
  · subst same
    simp only [SessionTable.modifySlot, Function.update_self, sameFd]
    exact id
  · simp only [SessionTable.modifySlot, Function.update_of_ne same]
    exact id

/-- Setting a context that the caller may give. -/
theorem perform
    {call : ContextCall}
    (kept : Kept table)
    (offers : table.Offers call) :
    Kept (call.perform table) := by
  cases found : table.httpdSessGet call.sockfd with
  | none =>
      rw [perform_of_absent found]
      exact kept
  | some slot =>
      have alike := (Alike.refl table).perform kept.idle call
      have books := books_perform kept.idle found
      have isFd : (table.hdSd slot).fd = call.sockfd :=
        (found_httpdSessGet kept.idle found).2
      have mine := current_eq kept.idle found
      have sound : Sound (call.perform table).books := by
        rw [books]
        split
        · exact kept.sound.retag _ _
        · rename_i other
          have emptied := kept.sound.release (call.kind, slot)
          refine emptied.take (by simp [Books.release]) ?_
          intro key isKey
          have isCtx : call.ctx = some key := by
            simpa [Option.map_map, Function.comp_def] using isKey
          rcases offers.mine key isCtx with isNew | isCurrent
          · exact isNew
          · rw [mine, ← isCtx] at isCurrent
            exact absurd isCurrent other
      have others
          (place : Kind × SlotId)
          (distinct : place ≠ (call.kind, slot)) :
          (call.perform table).books.held place = table.books.held place := by
        rw [books]
        split
        · simp only [Books.retag, Function.update_of_ne distinct]
        · simp only [Books.take, Books.release,
            Function.update_of_ne distinct]
      refine ⟨alike.request.trans kept.idle, sound, ?_⟩
      intro other kind free
      rw [alike.fd other] at free
      have distinct : (kind, other) ≠ (call.kind, slot) := by
        intro isPlace
        have isSlot : other = slot := congrArg Prod.snd isPlace
        rw [isSlot, isFd] at free
        exact absurd offers.isFd (Int.not_le.mpr free)
      exact (others _ distinct).trans (kept.vacant other kind free)

/-- A free slot is entered. -/
theorem enter
    (kept : Kept table)
    (free : (table.hdSd slot).fd < 0)
    (newfd : Int) :
    Kept (table.enter slot newfd) := by
  refine kept.of_same rfl (books_modifySlot ?_) ?_
  · intro kind
    rw [kept.vacant slot kind free]
    cases kind <;> rfl
  · intro other shut
    by_cases same : other = slot
    · subst same
      exact free
    · simpa only [SessionTable.enter, SessionTable.modifySlot,
        Function.update_of_ne same] using shut

/-- A deleted session leaves a slot that owns nothing. -/
theorem httpdSessDelete
    (kept : Kept table)
    (slot : SlotId) :
    Kept (table.httpdSessDelete slot) := by
  by_cases free : (table.hdSd slot).fd < 0
  · rw [SessionTable.httpdSessDelete, if_pos free]
    exact kept
  · have books := books_httpdSessDelete (Int.not_lt.mp free)
    have closing : Alike table (table.closeFd slot) :=
      ⟨rfl, fun _ => rfl, rfl, rfl, rfl⟩
    have cleared := closing.httpdSessClearCtx slot
    refine ⟨?_, ?_, ?_⟩
    · rw [SessionTable.httpdSessDelete, if_neg free]
      exact cleared.request.trans kept.idle
    · rw [books]
      exact (kept.sound.release _).release _
    · intro other kind shut
      change (table.httpdSessDelete slot).books.held (kind, other) = none
      rw [books]
      by_cases same : other = slot
      · subst same
        cases kind <;> simp [Books.release]
      · have wasFree : (table.hdSd other).fd < 0 := by
          rw [SessionTable.httpdSessDelete, if_neg free] at shut
          simp only [uncount, SessionTable.modifySlot,
            Function.update_of_ne same] at shut
          rwa [cleared.fd other] at shut
        have isNone : table.books.held (kind, other) = none :=
          kept.vacant other kind wasFree
        simp [Books.release, same, isNone]

/-- A loop that deletes some sessions. -/
theorem foldl
    {change : SessionTable → SlotId → SessionTable}
    (kept : Kept table)
    (slots : List SlotId)
    (keeps : ∀ table slot, Kept table → Kept (change table slot)) :
    Kept (slots.foldl change table) := by
  induction slots generalizing table with
  | nil => exact kept
  | cons slot rest inductionHypothesis =>
      exact inductionHypothesis (keeps table slot kept)

end Kept

/-! ## Runs -/

/-- The calls that change the table. -/
inductive SessionCall where
  /-- `httpd_sess_new`; `open_fn` sets contexts, and succeeds or not. -/
  | new (newfd : Int) (sets : List ContextCall) (opened : Bool)
  | set (call : ContextCall)
  | delete (slot : SlotId)
  /-- `httpd_sess_close`, had it been queued. -/
  | close (slot : SlotId)
  | closeAll
  | deleteInvalid (valid : Int → Bool)
  | closeLru
  | triggerClose (sockfd : Int)
  | updateLruCounter (sockfd : Int)

namespace SessionCall

/-- Make the call. -/
def perform (table : SessionTable) : SessionCall → SessionTable
  | .new newfd sets opened =>
      (table.httpdSessNew newfd fun table =>
        (opened, sets.foldl ContextCall.perform table)).2
  | .set call => call.perform table
  | .delete slot => table.httpdSessDelete slot
  | .close slot => table.httpdSessClose slot
  | .closeAll => table.httpdSessCloseAll
  | .deleteInvalid valid => table.httpdSessDeleteInvalid valid
  | .closeLru => table.httpdSessCloseLru.2
  | .triggerClose sockfd => (table.httpdSessTriggerClose sockfd).2
  | .updateLruCounter sockfd => (table.httpdSessUpdateLruCounter sockfd).2

/-- The number that stands for a session can be a descriptor. -/
def Proper : SessionCall → Prop
  | .new newfd _ _ => 0 ≤ newfd
  | .updateLruCounter sockfd => 0 ≤ sockfd
  | _ => True

instance (call : SessionCall) : Decidable call.Proper :=
  match call with
  | .new _ _ _ => inferInstanceAs (Decidable (_ ≤ _))
  | .updateLruCounter _ => inferInstanceAs (Decidable (_ ≤ _))
  | .set _ | .delete _ | .close _ | .closeAll | .deleteInvalid _ | .closeLru
  | .triggerClose _ => .isTrue trivial

end SessionCall

/-- Each of these calls may be made when its turn comes. -/
def OffersAll : SessionTable → List ContextCall → Prop
  | _, [] => True
  | table, call :: rest =>
      table.Offers call ∧ OffersAll (call.perform table) rest

/-- May a call be made? -/
def Allows (table : SessionTable) : SessionCall → Prop
  | .new newfd sets _ =>
      0 ≤ newfd ∧
        ∀ slot ∈ table.httpdSessGetFree,
          (table.enter slot newfd).OffersAll sets
  | .set call => table.Offers call
  | .updateLruCounter sockfd => 0 ≤ sockfd
  | _ => True

/-- May these calls be made, one after the other? -/
def AllowsAll : SessionTable → List SessionCall → Prop
  | _, [] => True
  | table, call :: rest =>
      table.Allows call ∧ AllowsAll (call.perform table) rest

/-- Such calls are about descriptors. -/
theorem AllowsAll.proper
    {calls : List SessionCall}
    (allows : table.AllowsAll calls) :
    ∀ call ∈ calls, call.Proper := by
  induction calls generalizing table with
  | nil => simp
  | cons first rest inductionHypothesis =>
      obtain ⟨allowsFirst, allowsRest⟩ := allows
      intro call member
      rcases List.mem_cons.mp member with rfl | inRest
      · cases call with
        | new newfd sets opened => exact allowsFirst.1
        | updateLruCounter sockfd => exact allowsFirst
        | _ => trivial
      · exact inductionHypothesis allowsRest call inRest

instance decidableOffersAll :
    (table : SessionTable) → (calls : List ContextCall) →
      Decidable (table.OffersAll calls)
  | _, [] => .isTrue trivial
  | table, call :: rest =>
      let _ := decidableOffersAll (call.perform table) rest
      inferInstanceAs (Decidable (_ ∧ _))

instance
    (table : SessionTable)
    (call : SessionCall) : Decidable (table.Allows call) :=
  match call with
  | .new _ _ _ => inferInstanceAs (Decidable (_ ∧ ∀ slot ∈ _, _))
  | .set _ => inferInstanceAs (Decidable (table.Offers _))
  | .updateLruCounter _ => inferInstanceAs (Decidable (_ ≤ _))
  | .delete _ | .close _ | .closeAll | .deleteInvalid _ | .closeLru
  | .triggerClose _ => .isTrue trivial

instance decidableAllowsAll :
    (table : SessionTable) → (calls : List SessionCall) →
      Decidable (table.AllowsAll calls)
  | _, [] => .isTrue trivial
  | table, call :: rest =>
      let _ := decidableAllowsAll (call.perform table) rest
      inferInstanceAs (Decidable (_ ∧ _))

namespace Kept

/-- Setting several contexts that the caller may give. -/
theorem performAll
    {calls : List ContextCall}
    (kept : Kept table)
    (offers : table.OffersAll calls) :
    Kept (calls.foldl ContextCall.perform table) := by
  induction calls generalizing table with
  | nil => exact kept
  | cons call rest inductionHypothesis =>
      obtain ⟨first, later⟩ := offers
      exact inductionHypothesis (kept.perform first) later

/-- A new table owns nothing. -/
theorem start (maxOpenSockets : Nat) :
    Kept (SessionTable.start maxOpenSockets) where
  idle := rfl
  sound := by
    have empty : (SessionTable.start maxOpenSockets).books = Books.empty := by
      apply Books.ext
      · funext place
        obtain ⟨kind, slot⟩ := place
        cases kind <;> rfl
      · rfl
      · rfl
    rw [empty]
    exact sound_empty
  vacant _ kind _ := by cases kind <;> rfl

/-- The free slot that is found is free. -/
theorem free_of_httpdSessGetFree
    (found : table.httpdSessGetFree = some slot) :
    (table.hdSd slot).fd < 0 := by
  rw [httpdSessGetFree_eq] at found
  split at found
  · contradiction
  · exact of_decide_eq_true (List.find?_some found :)

/-- Every call keeps the books. -/
theorem call
    {call : SessionCall}
    (kept : Kept table)
    (allows : table.Allows call) :
    Kept (call.perform table) := by
  cases call with
  | new newfd sets opened =>
      change Kept (table.httpdSessNew newfd _).2
      rw [httpdSessNew]
      split
      · exact kept
      · cases found : table.httpdSessGetFree with
        | none => exact kept
        | some slot =>
            have entered :=
              kept.enter (free_of_httpdSessGetFree found) newfd
            have prepared := entered.performAll (allows.2 slot found)
            cases opened with
            | true => exact prepared.of_same rfl rfl fun _ => id
            | false => exact prepared.httpdSessDelete slot
  | set call => exact kept.perform allows
  | delete slot => exact kept.httpdSessDelete slot
  | close slot =>
      change Kept (table.httpdSessClose slot)
      rw [httpdSessClose]
      split
      · exact kept
      · apply httpdSessDelete
        refine kept.modifySlot slot (fun _ => rfl) ?_
        exact fun _ kind => by cases kind <;> rfl
  | closeAll =>
      change Kept table.httpdSessCloseAll
      rw [httpdSessCloseAll_eq]
      exact kept.foldl _ fun _ slot kept => kept.httpdSessDelete slot
  | deleteInvalid valid =>
      change Kept (table.httpdSessDeleteInvalid valid)
      rw [httpdSessDeleteInvalid_eq]
      refine kept.foldl _ fun table slot kept => ?_
      split
      · exact kept
      · exact kept.httpdSessDelete slot
  | closeLru =>
      change Kept table.httpdSessCloseLru.2
      rw [httpdSessCloseLru]
      cases table.lruSession? with
      | none => exact kept
      | some slot =>
          exact
            @modifySlot table
              (fun session => { session with lruSocket := true }) kept slot
              (fun _ => rfl) fun _ kind => by cases kind <;> rfl
  | triggerClose sockfd =>
      change Kept (table.httpdSessTriggerClose sockfd).2
      rw [httpdSessTriggerClose]
      cases table.httpdSessGet sockfd <;> exact kept
  | updateLruCounter sockfd =>
      change Kept (table.httpdSessUpdateLruCounter sockfd).2
      rw [httpdSessUpdateLruCounter, session_findFd]
      cases table.slots.find? fun slot => (table.hdSd slot).fd = sockfd with
      | none => exact kept
      | some slot =>
          exact
            (@modifySlot table
              (fun session =>
                { session with
                  lruCounter := (table.lruCounter + 1) % 2 ^ 64 })
              kept slot (fun _ => rfl) fun _ kind => by cases kind <;> rfl
              ).of_same rfl rfl fun _ => id

/-- So does every run. -/
theorem run
    {calls : List SessionCall}
    (kept : Kept table)
    (allows : table.AllowsAll calls) :
    Kept (calls.foldl SessionCall.perform table) := by
  induction calls generalizing table with
  | nil => exact kept
  | cons call rest inductionHypothesis =>
      obtain ⟨first, later⟩ := allows
      exact inductionHypothesis (kept.call first) later

end Kept

/-- What was freed is what no session has any more. -/
theorem Kept.released_iff
    (kept : Kept table)
    (ctx : ContextId) :
    ctx ∈ table.released.map Prod.fst ↔
      ctx ∈ table.entrusted.map Prod.fst ∧
        ∀ slot,
          (table.hdSd slot).ctx ≠ some ctx ∧
            (table.hdSd slot).transportCtx ≠ some ctx := by
  refine (kept.sound.released_iff ctx).trans (and_congr_right fun _ => ?_)
  constructor
  · intro nowhere slot
    constructor
    · intro isCtx
      exact nowhere (.user, slot) (table.hdSd slot).freeCtx
        (by simp [books, SockDb.item, isCtx])
    · intro isCtx
      exact nowhere (.transport, slot) (table.hdSd slot).freeTransportCtx
        (by simp [books, SockDb.item, isCtx])
  · rintro nowhere ⟨kind, slot⟩ freeFn held
    have key := congrArg (Option.map Prod.fst) held
    rw [held_key] at key
    cases kind with
    | user => exact (nowhere slot).1 key
    | transport => exact (nowhere slot).2 key

/-- A slot without a descriptor owns nothing. -/
theorem Kept.owns_nothing
    (kept : Kept table)
    (free : (table.hdSd slot).fd < 0) :
    (table.hdSd slot).ctx = none ∧
      (table.hdSd slot).transportCtx = none := by
  have user := kept.vacant slot .user free
  have transport := kept.vacant slot .transport free
  exact ⟨Option.map_eq_none_iff.mp user, Option.map_eq_none_iff.mp transport⟩

/--
Whatever sessions come and go, no context is freed twice, and exactly those are
freed that no session has any more.  Each is freed by the function that was
given with it last, and what is not open owns nothing.
-/
theorem contexts_in_custody
    {maxOpenSockets : Nat}
    {calls : List SessionCall}
    (allows : (start maxOpenSockets).AllowsAll calls) :
    let table := calls.foldl SessionCall.perform (start maxOpenSockets)
    (table.released.map Prod.fst).Nodup ∧
      (∀ ctx,
        ctx ∈ table.released.map Prod.fst ↔
          ctx ∈ table.entrusted.map Prod.fst ∧
            ∀ slot,
              (table.hdSd slot).ctx ≠ some ctx ∧
                (table.hdSd slot).transportCtx ≠ some ctx) ∧
      (∀ ctx freeFn,
        (ctx, freeFn) ∈ table.released →
          table.entrusted.lookup ctx = some freeFn) ∧
      ∀ slot,
        (table.hdSd slot).fd < 0 →
          (table.hdSd slot).ctx = none ∧
            (table.hdSd slot).transportCtx = none := by
  have kept := (Kept.start maxOpenSockets).run allows
  exact ⟨kept.sound.once, kept.released_iff, kept.sound.known,
    fun _ => kept.owns_nothing⟩

/--
Two TLS sessions, of which the second is refused after its handshake has set a
context; the first gets another context and is closed.
-/
def handshakes : List SessionCall :=
  [.new 5 [⟨.transport, 5, some 1, some 0⟩] true,
    .new 6 [⟨.transport, 6, some 2, some 0⟩] false,
    .set ⟨.transport, 5, some 3, some 1⟩, .set ⟨.user, 5, some 4, none⟩,
    .triggerClose 5, .delete 0, .delete 0]

/-- The refused session has let go of its context. -/
theorem contexts_in_custody_handshakes :
    (2, some 0) ∈
        (handshakes.foldl SessionCall.perform (start 4)).released ∧
      ∀ slot,
        ((handshakes.foldl SessionCall.perform
          (start 4)).hdSd slot).transportCtx ≠ some 2 := by
  obtain ⟨_, isReleased, _⟩ :=
    @contexts_in_custody 4 handshakes (by decide)
  exact ⟨by decide, fun slot => (((isReleased 2).mp (by decide)).2 slot).2⟩

end SessionTable

end SimpleTlsBroker
