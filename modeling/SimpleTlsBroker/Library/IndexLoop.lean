import Mathlib.Data.List.Nodup

namespace IndexLoop

/-!
# Loops over a list by index

The body of such a loop works on the item at the index and may change the
list.  When it removes its own item, the next item moves to the place that the
index has just left, and is passed over.
-/

variable {State Item : Type}

/-- The items that a loop visits, in order, and the state at its end. -/
def loop
    (items : State → List Item)
    (visit : State → Item → Option State) :
    (rounds index : Nat) → State → Option (List Item × State)
  | 0, _, _ => none
  | rounds + 1, index, state =>
      match (items state)[index]? with
      | none => some ([], state)
      | some item =>
          match visit state item with
          | none => none
          | some next =>
              (loop items visit rounds (index + 1) next).map
                fun (visited, final) => (item :: visited, final)

/-- Visited one after the other, every item but the last stays on the list. -/
def Steady
    (items : State → List Item)
    (visit : State → Item → Option State) :
    List Item → State → Prop
  | [], _ => True
  | item :: rest, state =>
      rest = [] ∨
        ∀ next, visit state item = some next →
          item ∈ items next ∧ Steady items visit rest next

/-- A visit keeps the list, or removes its own item from it. -/
structure SelfRemoving
    [DecidableEq Item]
    (items : State → List Item)
    (visit : State → Item → Option State)
    (holds : State → Prop) : Prop where
  nodup : ∀ state, holds state → (items state).Nodup
  keeps :
    ∀ state item next, holds state → item ∈ items state →
      visit state item = some next → holds next
  removes :
    ∀ state item next, holds state → item ∈ items state →
      visit state item = some next →
        items next = items state ∨ items next = (items state).erase item

variable {items : State → List Item}
variable {visit : State → Item → Option State}
variable {holds : State → Prop}
variable {rounds index : Nat}
variable {state final : State}
variable {visited : List Item}

/-- A loop that is not at the end of the list visits the item at the index. -/
theorem loop_of_found
    {item : Item}
    (found : (items state)[index]? = some item)
    (returned : loop items visit rounds index state = some (visited, final)) :
    ∃ earlier next later,
      rounds = earlier + 1 ∧
        visit state item = some next ∧
        loop items visit earlier (index + 1) next = some (later, final) ∧
        visited = item :: later := by
  cases rounds with
  | zero => simp [loop] at returned
  | succ rounds =>
      rw [loop, found] at returned
      cases visits : visit state item with
      | none => simp [visits] at returned
      | some next =>
          simp only [visits, Option.map_eq_some_iff, Prod.exists,
            Prod.mk.injEq] at returned
          obtain ⟨later, _, continued, rfl, rfl⟩ := returned
          exact ⟨rounds, next, later, rfl, rfl, continued, rfl⟩

/-- At the end of the list the loop is over. -/
theorem loop_of_end
    (atEnd : (items state)[index]? = none)
    (returned : loop items visit rounds index state = some (visited, final)) :
    visited = [] ∧ final = state := by
  cases rounds with
  | zero => simp [loop] at returned
  | succ rounds =>
      rw [loop, atEnd] at returned
      obtain ⟨rfl, rfl⟩ := Prod.mk.inj (Option.some.inj returned)
      exact ⟨rfl, rfl⟩

/-- Staying on the list, in terms of the state after a visit. -/
theorem steady_cons_of_visit
    {item : Item}
    {rest : List Item}
    {next : State}
    (visits : visit state item = some next) :
    Steady items visit (item :: rest) state ↔
      rest = [] ∨ item ∈ items next ∧ Steady items visit rest next := by
  refine or_congr_right ⟨fun steady => steady next visits, ?_⟩
  intro steady other visitsOther
  obtain rfl : next = other :=
    Option.some.inj (visits.symm.trans visitsOther)
  exact steady

/-- A visit that is not repeated counts once. -/
theorem count_once_iff
    [DecidableEq Item]
    {item : Item}
    {rest later : List Item}
    (notRest : item ∉ rest)
    (notLater : item ∉ later) :
    (∀ other ∈ item :: rest, (item :: later).count other = 1) ↔
      ∀ other ∈ rest, later.count other = 1 := by
  have others (other : Item) (isOther : other ∈ rest) :
      (item :: later).count other = later.count other := by
    refine List.count_cons_of_ne ?_
    rintro rfl
    exact notRest isOther
  rw [List.forall_mem_cons, List.count_cons_self,
    List.count_eq_zero.mpr notLater]
  simp only [Nat.zero_add, true_and]
  exact forall₂_congr fun other isOther => by rw [others other isOther]

variable [DecidableEq Item]

/-- The list after the visit of the item behind some others. -/
theorem SelfRemoving.items_next
    (removing : SelfRemoving items visit holds)
    (start : holds state)
    {before rest : List Item}
    {item : Item}
    {next : State}
    (split : items state = before ++ item :: rest)
    (visits : visit state item = some next) :
    items next = before ++ item :: rest ∨ items next = before ++ rest := by
  have member : item ∈ items state := by
    rw [split]
    simp
  have notBefore : item ∉ before := by
    have nodup := removing.nodup state start
    rw [split, List.nodup_append] at nodup
    exact fun early => nodup.2.2 item early item List.mem_cons_self rfl
  rcases removing.removes state item next start member visits with
    kept | removed
  · exact .inl (kept.trans split)
  · right
    rw [removed, split, List.erase_append_right _ notBefore,
      List.erase_cons_head]

/-- A loop visits items from its index on only, and in their order. -/
theorem SelfRemoving.visited_sublist
    (removing : SelfRemoving items visit holds)
    (start : holds state)
    (returned :
      loop items visit rounds index state = some (visited, final)) :
    List.Sublist visited ((items state).drop index) := by
  induction rounds generalizing index state visited with
  | zero => simp [loop] at returned
  | succ rounds inductionHypothesis =>
      cases found : (items state)[index]? with
      | none =>
          rw [(loop_of_end found returned).1]
          exact List.nil_sublist _
      | some item =>
          obtain ⟨earlier, next, later, sameRounds, visits, continued, rfl⟩ :=
            loop_of_found found returned
          obtain rfl := Nat.succ.inj sameRounds
          have member : item ∈ items state := List.mem_of_getElem? found
          have after := removing.keeps state item next start member visits
          have laterSublist := inductionHypothesis after continued
          have fromIndex :
              (items state).drop index =
                item :: (items state).drop (index + 1) := by
            rw [List.drop_eq_getElem?_toList_append, found]
            rfl
          have split :
              items state =
                (items state).take index ++
                  item :: (items state).drop (index + 1) := by
            rw [← fromIndex, List.take_append_drop]
          rw [fromIndex]
          refine List.Sublist.cons_cons item ?_
          rcases removing.items_next start split visits with kept | removed
          · rw [kept, ← split] at laterSublist
            exact laterSublist
          · -- The item behind has moved to the index that was left.
            obtain ⟨inside, _⟩ := List.getElem?_eq_some_iff.mp found
            have length : ((items state).take index).length = index :=
              List.length_take_of_le (Nat.le_of_lt inside)
            rw [removed, List.drop_append, length,
              List.drop_eq_nil_of_le (by omega), Nat.add_sub_cancel_left,
              List.nil_append] at laterSublist
            exact laterSublist.trans (List.drop_sublist 1 _)

/--
Of the items behind the index, with others behind them, each is visited
exactly once, if and only if none but the last removes itself.
-/
theorem SelfRemoving.visits_once_iff
    (removing : SelfRemoving items visit holds)
    (start : holds state)
    {before rest others : List Item}
    (split : items state = before ++ (rest ++ others))
    (returned :
      loop items visit rounds before.length state = some (visited, final)) :
    (∀ item ∈ rest, visited.count item = 1) ↔
      Steady items visit rest state := by
  induction rest generalizing before rounds state visited with
  | nil => simp [Steady]
  | cons item rest inductionHypothesis =>
      have found : (items state)[before.length]? = some item := by
        simp [split]
      obtain ⟨earlier, next, later, rfl, visits, continued, rfl⟩ :=
        loop_of_found found returned
      have member : item ∈ items state := List.mem_of_getElem? found
      have after := removing.keeps state item next start member visits
      have nodup := removing.nodup state start
      rw [split, List.nodup_append] at nodup
      have notBehind : item ∉ rest ++ others :=
        (List.nodup_cons.mp nodup.2.1).1
      have notRest : item ∉ rest := fun inRest =>
        notBehind (List.mem_append_left others inRest)
      rw [steady_cons_of_visit visits]
      rcases removing.items_next start split visits with kept | removed
      · have nextSplit : items next = (before ++ [item]) ++ (rest ++ others) := by
          simpa using kept
        have nextLoop :
            loop items visit earlier (before ++ [item]).length next =
              some (later, final) := by
          simpa using continued
        have notLater : item ∉ later := by
          have sublist := removing.visited_sublist after nextLoop
          rw [nextSplit, List.drop_left] at sublist
          exact fun again => notBehind (sublist.subset again)
        have stays : item ∈ items next := by
          simp [kept]
        rw [count_once_iff notRest notLater,
          inductionHypothesis after nextSplit nextLoop]
        constructor
        · exact fun steady => .inr ⟨stays, steady⟩
        · rintro (rfl | ⟨_, steady⟩)
          · exact trivial
          · exact steady
      · have gone : item ∉ items next := by
          rw [removed, List.mem_append, not_or]
          refine ⟨fun early => ?_, notBehind⟩
          exact nodup.2.2 item early item List.mem_cons_self rfl
        have laterSublist := removing.visited_sublist after continued
        rw [removed, List.drop_append,
          List.drop_eq_nil_of_le (Nat.le_succ _), Nat.add_sub_cancel_left,
          List.nil_append] at laterSublist
        have notLater : item ∉ later := fun again =>
          notBehind (List.mem_of_mem_drop (laterSublist.subset again))
        rw [count_once_iff notRest notLater]
        cases rest with
        | nil => simp
        | cons skipped more =>
            -- The loop goes on behind the item that took the place.
            refine iff_of_false (fun once => ?_) ?_
            · have isBehind : skipped ∈ more ++ others := by
                refine laterSublist.subset (List.count_pos_iff.mp ?_)
                rw [once skipped List.mem_cons_self]
                exact Nat.one_pos
              exact (List.nodup_cons.mp (List.nodup_cons.mp nodup.2.1).2).1
                isBehind
            · rintro (noRest | ⟨stays, _⟩)
              · exact List.cons_ne_nil _ _ noRest
              · exact gone stays

end IndexLoop
