import SimpleTlsBroker.IndexedStrings

namespace SimpleTlsBroker

/-!
# From a name to its index and back

`strToIndex` takes the first entry whose string begins with the name, so what
an index means depends on the other strings of the table.  The round trip
succeeds if and only if that entry, where there is one, is the name itself.
-/

open History

namespace StringIndexer

variable {indexer : StringIndexer}
variable {name : List Byte}

/-- Without NUL in the name, the comparison of `strToIndex` tests a beginning. -/
theorem strncmpEqual_iff
    {stored : List Byte}
    (noNul : 0 ∉ name) :
    strncmpEqual stored name = true ↔ name <+: stored := by
  induction name generalizing stored with
  | nil =>
      constructor
      · exact fun _ => List.nil_prefix
      · exact fun _ => rfl
  | cons byte rest inductionHypothesis =>
      have notNul : byte ≠ 0 := by
        rintro rfl
        exact noNul List.mem_cons_self
      have noNulRest : 0 ∉ rest := fun member =>
        noNul (List.mem_cons_of_mem byte member)
      cases stored with
      | nil =>
          have differ : (0 : Byte) ≠ byte := notNul.symm
          simp [strncmpEqual, differ]
      | cons first stored =>
          by_cases same : first = byte
          · subst same
            have later := @inductionHypothesis stored noNulRest
            simp [strncmpEqual, notNul, later]
          · have differ : ¬ byte = first := fun equal => same equal.symm
            simp [strncmpEqual, same, differ, List.cons_prefix_cons]

/-- Does the string of an entry begin with a name? -/
def Begins
    (indexer : StringIndexer)
    (name : List Byte)
    (index : Nat) : Prop :=
  ∃ counter, indexer.entry ⟨index⟩ = some counter ∧ name <+: counter.str

/-- What `strToIndex` asks of each index. -/
theorem accepts_iff
    (noNul : 0 ∉ name)
    (index : Nat) :
    (match indexer.strings index with
      | some counter => strncmpEqual counter.str name
      | none => false) = true ↔
      indexer.Begins name index := by
  unfold Begins entry
  cases stored : indexer.strings index with
  | none => simp
  | some counter => simp [strncmpEqual_iff noNul]

/-- The search finds the first entry that begins with the name. -/
theorem lookup?_eq_some_iff
    (noNul : 0 ∉ name)
    {index : Nat} :
    indexer.lookup? name = some index ↔
      index < 256 ∧ indexer.Begins name index ∧
        ∀ earlier < index, ¬ indexer.Begins name earlier := by
  unfold lookup?
  rw [List.find?_range_eq_some]
  simp only [List.mem_range, Bool.not_eq_true', ← Bool.not_eq_true]
  constructor
  · rintro ⟨accepted, inTable, rejected⟩
    exact ⟨inTable, (accepts_iff noNul index).mp accepted,
      fun earlier before begins =>
        rejected earlier before ((accepts_iff noNul earlier).mpr begins)⟩
  · rintro ⟨inTable, begins, first⟩
    exact ⟨(accepts_iff noNul index).mpr begins, inTable,
      fun earlier before accepted =>
        first earlier before ((accepts_iff noNul earlier).mp accepted)⟩

/--
The first entry that begins with a name, if there is one, is the entry of
this very name.
-/
def FirstExact
    (indexer : StringIndexer)
    (name : List Byte) : Prop :=
  ∀ index < 256, ∀ counter,
    indexer.entry ⟨index⟩ = some counter →
      name <+: counter.str →
        (∀ earlier < index, ¬ indexer.Begins name earlier) →
          counter.str = name

/-- `str` gives back what `strToIndex` was given, unless the table is full. -/
def RoundTrips
    (indexer : StringIndexer)
    (name : List Byte) : Prop :=
  (indexer.strToIndex name).1.index ≠ 0 →
    (indexer.strToIndex name).2.str (indexer.strToIndex name).1 = name

/-- An index in use keeps its string. -/
theorem str_use
    {topic : Topic}
    {counter : StringCounter}
    (found : indexer.entry topic = some counter) :
    (indexer.use topic).str topic = counter.str := by
  rw [str_of_use, str_of_entry found]

/-- What `strToIndex` returns for a name that an entry begins with. -/
theorem str_strToIndex_of_lookup?
    {index : Nat}
    {counter : StringCounter}
    (short : name.length ≤ 255)
    (looked : indexer.lookup? name = some index)
    (found : indexer.entry ⟨index⟩ = some counter) :
    (indexer.strToIndex name).1 = ⟨index⟩ ∧
      (indexer.strToIndex name).2.str ⟨index⟩ = counter.str := by
  rw [← Topic.cut_eq_self short] at looked
  rw [strToIndex_of_lookup? looked]
  exact ⟨rfl, str_use found⟩

/-- A name that no entry begins with gets an entry of its own, or none. -/
theorem str_strToIndex_of_new
    (short : name.length ≤ 255)
    (looked : indexer.lookup? name = none) :
    RoundTrips indexer name := by
  rw [← Topic.cut_eq_self short] at looked
  unfold RoundTrips
  cases free : indexer.free? with
  | none =>
      rw [strToIndex_of_full looked free]
      intro isIndex
      exact absurd rfl isIndex
  | some index =>
      rw [strToIndex_of_free? looked free, Topic.cut_eq_self short]
      intro _
      exact str_of_entry (entry_set indexer ⟨index⟩ (some ⟨name, 1⟩))

/-- The round trip succeeds if and only if the first match is exact. -/
theorem roundTrips_iff
    (unindexed : indexer.strings 0 = none)
    (noNul : 0 ∉ name)
    (short : name.length ≤ 255) :
    indexer.RoundTrips name ↔ indexer.FirstExact name := by
  constructor
  · intro roundTrips index inTable counter found begins first
    have looked : indexer.lookup? name = some index :=
      (lookup?_eq_some_iff noNul).mpr
        ⟨inTable, ⟨counter, found, begins⟩, first⟩
    obtain ⟨isTopic, isStr⟩ := str_strToIndex_of_lookup? short looked found
    have isIndex : index ≠ 0 := by
      rintro rfl
      unfold entry at found
      rw [unindexed] at found
      contradiction
    unfold RoundTrips at roundTrips
    rw [isTopic, isStr] at roundTrips
    exact roundTrips isIndex
  · intro exactly
    cases looked : indexer.lookup? name with
    | none => exact str_strToIndex_of_new short looked
    | some index =>
        obtain ⟨inTable, ⟨counter, found, begins⟩, first⟩ :=
          (lookup?_eq_some_iff noNul).mp looked
        obtain ⟨isTopic, isStr⟩ :=
          str_strToIndex_of_lookup? short looked found
        intro _
        rw [isTopic, isStr]
        exact exactly index inTable counter found begins first

end StringIndexer

namespace IndexedStrings

variable {before after : IndexedStrings}
variable {operation : StringOperation}

/-- Strings are constructed, copied and destroyed, but not assigned. -/
def NeverAssigns
    (_state : IndexedStrings) : StringOperation → Prop
  | .construct _ _ => True
  | .copy _ _ => True
  | .assign _ _ => False
  | .destroy _ => True

instance (state : IndexedStrings) (operation : StringOperation) :
    Decidable (state.NeverAssigns operation) :=
  match operation with
  | .construct _ _ => inferInstanceAs (Decidable True)
  | .copy _ _ => inferInstanceAs (Decidable True)
  | .assign _ _ => inferInstanceAs (Decidable False)
  | .destroy _ => inferInstanceAs (Decidable True)

/--
A name denotes itself: its index gives it back, and so does every string that
is constructed from it.
-/
structure Denotes
    (state : IndexedStrings)
    (name : List Byte) : Prop where
  index : state.indexer.RoundTrips name
  object :
    ∀ object ∉ state.live,
      ((state.perform (.construct object name)).topic object).index ≠ 0 →
        (state.perform (.construct object name)).str object = name

/-- A constructed string has the index that `strToIndex` returns. -/
theorem topic_construct
    (state : IndexedStrings)
    (object : StringId)
    (name : List Byte) :
    (state.perform (.construct object name)).topic object =
      (state.indexer.strToIndex name).1 :=
  Function.update_self object _ state.topic

/-- The table gives a constructed string back as it gives back the index. -/
theorem denotes_iff_roundTrips
    {state : IndexedStrings}
    {name : List Byte} :
    state.Denotes name ↔ state.indexer.RoundTrips name := by
  constructor
  · exact Denotes.index
  · intro roundTrips
    refine ⟨roundTrips, ?_⟩
    intro object _ isIndex
    unfold str
    rw [topic_construct] at isIndex ⊢
    exact roundTrips isIndex

/-- No operation gives index 0 an entry. -/
theorem unindexed_perform
    (unindexed : before.indexer.strings 0 = none) :
    (before.perform operation).indexer.strings 0 = none := by
  have used (topic : Topic) :
      (before.indexer.use topic).strings 0 = none := by
    by_cases missing : before.indexer.strings topic.index = none
    · rw [StringIndexer.use_of_none missing]
      exact unindexed
    · have taken :
          StringIndexer.Taken before.indexer topic
            (before.indexer.use topic) :=
        StringIndexer.taken_use
          (fun _ => Option.ne_none_iff_exists'.mp missing) unindexed
      exact taken.unindexed unindexed
  cases operation with
  | construct object name =>
      exact (StringIndexer.taken_strToIndex _ name unindexed).unindexed
        unindexed
  | copy object source => exact used (before.topic source)
  | assign object source => exact used (before.topic source)
  | destroy object => exact StringIndexer.release_unindexed unindexed

/-- So index 0 has none in any history. -/
theorem unindexed_run
    {condition : IndexedStrings → StringOperation → Prop}
    (history : Run condition before after)
    (unindexed : before.indexer.strings 0 = none) :
    after.indexer.strings 0 = none := by
  apply run_preserves ?_ history unindexed
  rintro before after ⟨operation, _, _, rfl⟩ unindexed
  exact unindexed_perform unindexed

/--
In every state that constructing, copying and destroying strings leads to, a
name of up to 255 characters without NUL denotes itself if and only if the
first entry that begins with it, if there is one, is its own.
-/
theorem denotes_iff_firstExact
    {state : IndexedStrings}
    (history : Run NeverAssigns empty state)
    {name : List Byte}
    (noNul : 0 ∉ name)
    (short : name.length ≤ 255) :
    state.Denotes name ↔ state.indexer.FirstExact name := by
  have unindexed := unindexed_run history rfl
  exact denotes_iff_roundTrips.trans
    (StringIndexer.roundTrips_iff unindexed noNul short)

/-- Beside `"a"`, the longer name `"ab"` denotes itself. -/
theorem denotes_longer_name :
    (empty.performAll [.construct 0 [0x61]]).Denotes [0x61, 0x62] := by
  have history :
      Run NeverAssigns empty (empty.performAll [.construct 0 [0x61]]) :=
    run_performAll (by decide)
  refine (denotes_iff_firstExact history (by decide) (by decide)).mpr ?_
  intro index _ counter found begins _
  have onlyOne : index = 1 ∧ counter = ⟨[0x61], 1⟩ := by
    by_cases isOne : index = 1
    · subst isOne
      exact ⟨rfl, (Option.some.inj found).symm⟩
    · have missing :
          (empty.performAll [.construct 0 [0x61]]).indexer.entry ⟨index⟩ =
            none :=
        Function.update_of_ne isOne _ _
      rw [missing] at found
      contradiction
  obtain ⟨_, rfl⟩ := onlyOne
  exact absurd begins (by decide)

/-- Beside `"ab"`, the name `"a"` gets the index of `"ab"`. -/
theorem not_denotes_beginning :
    Run NeverAssigns empty (empty.performAll [.construct 0 [0x61, 0x62]]) ∧
      ¬ (empty.performAll [.construct 0 [0x61, 0x62]]).Denotes [0x61] := by
  refine ⟨run_performAll (by decide), ?_⟩
  intro denotes
  exact absurd (denotes.index (by decide)) (by decide)

end IndexedStrings

end SimpleTlsBroker
