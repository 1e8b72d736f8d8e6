import Chaincode.Settings.Load

namespace Chaincode.Settings

/-! Tables of settings and their layers.

The keys of a table are strictly increasing, so a key has one value at most.  Putting
an entry into a table and merging a layer over others are described here by what is
found under each key afterwards.
-/

def Sorted (entries : List (String × α)) : Prop :=
  entries.Pairwise fun first second => first.1 < second.1

variable {entries : List (String × α)} {key other : String} {value : α}

theorem lookup_putEntry_eq (key other : String) (value : α) (entries : List (String × α)) :
    (putEntry key value entries).lookup other =
      if other = key then some value else entries.lookup other := by
  split
  next same => rw [same, lookup_putEntry]
  next different =>
      have missed : (other == key) = false := beq_false_of_ne different
      induction entries with
      | nil => rw [putEntry, List.lookup_cons, missed]
      | cons entry rest ih =>
          obtain ⟨name, old⟩ := entry
          rw [putEntry]
          split
          next same =>
              subst same
              rw [List.lookup_cons, List.lookup_cons, missed]
          split
          · rw [List.lookup_cons, missed]
          · rw [List.lookup_cons, List.lookup_cons, ih]

theorem mem_putEntry {entry : String × α} (member : entry ∈ putEntry key value entries) :
    entry.1 = key ∨ entry ∈ entries := by
  induction entries with
  | nil =>
      rw [putEntry, List.mem_singleton] at member
      exact .inl (congrArg Prod.fst member)
  | cons first rest ih =>
      rw [putEntry] at member
      split at member
      · rcases List.mem_cons.mp member with rfl | later
        · exact .inl rfl
        · exact .inr (List.mem_cons_of_mem first later)
      split at member
      · rcases List.mem_cons.mp member with rfl | later
        · exact .inl rfl
        · exact .inr later
      · rcases List.mem_cons.mp member with rfl | later
        · exact .inr List.mem_cons_self
        · rcases ih later with named | old
          · exact .inl named
          · exact .inr (List.mem_cons_of_mem first old)

theorem Sorted.putEntry (sorted : Sorted entries) (key : String) (value : α) :
    Sorted (putEntry key value entries) := by
  induction entries with
  | nil => exact List.pairwise_singleton _ _
  | cons first rest ih =>
      obtain ⟨below, restSorted⟩ := List.pairwise_cons.mp sorted
      rw [Settings.putEntry]
      split
      next same =>
          have least : ∀ entry ∈ rest, key < entry.1 :=
            fun entry member => same ▸ below entry member
          exact List.pairwise_cons.mpr ⟨least, restSorted⟩
      next different =>
      split
      next less =>
          refine List.pairwise_cons.mpr ⟨fun entry member => ?_, sorted⟩
          rcases List.mem_cons.mp member with rfl | later
          · exact less
          · exact String.lt_trans less (below entry later)
      next notLess =>
          refine List.pairwise_cons.mpr ⟨fun entry member => ?_, ih restSorted⟩
          rcases mem_putEntry member with named | old
          · rw [named]
            exact String.not_le.mp fun notGreater =>
              different (String.le_antisymm notGreater (String.not_lt.mp notLess))
          · exact below entry old

def Distinct (entries : List (String × α)) : Prop :=
  entries.Pairwise fun first second => first.1 ≠ second.1

theorem Sorted.distinct (sorted : Sorted entries) : Distinct entries := by
  refine List.Pairwise.imp ?_ sorted
  intro first second less same
  exact String.lt_irrefl _ (same ▸ less)

/-- Behind an entry its key does not occur again. -/
theorem Distinct.lookup_tail {entry : String × α} (distinct : Distinct (entry :: entries)) :
    entries.lookup entry.1 = none := by
  refine List.lookup_eq_none_iff.mpr fun later member => ?_
  rw [bne_iff_ne]
  exact (List.pairwise_cons.mp distinct).1 later member

theorem Toml.sorted_entryValues (entries : Toml.Entries) : Sorted (Toml.entryValues entries) := by
  induction entries with
  | nil =>
      rw [Toml.entryValues]
      exact .nil
  | cons entry rest ih =>
      obtain ⟨key, node⟩ := entry
      rw [Toml.entryValues]
      exact ih.putEntry key node.toValue

theorem Value.text?_merge (earlier later : Value) : (earlier.merge later).text? = later.text? := by
  cases earlier with
  | table entries =>
      cases later with
      | table => rw [merge]; rfl
      | text | character | boolean | natural | integer | float | moment | list => rw [merge]; simp
  | text | character | boolean | natural | integer | float | moment | list => rw [merge]; simp

/-- The text under a key: nothing without the key, and no text if the value is none. -/
def textAt (entries : List (String × Sourced)) (key : String) : Option (Option String) :=
  (entries.lookup key).map fun sourced => sourced.value.text?

section Overlay

variable {layer : Layer} {below : List (String × Sourced)} {table : List (String × Value)}

theorem sorted_overlay (sorted : Sorted below) : Sorted (overlay layer below table) := by
  induction table generalizing below with
  | nil => exact sorted
  | cons entry rest ih => exact ih (sorted.putEntry _ _)

/-- Merging keeps the texts of a layer where it has the key, and else those below it. -/
theorem textAt_overlay (distinct : Distinct table) (key : String) :
    textAt (overlay layer below table) key =
      ((table.lookup key).map Value.text?).or (textAt below key) := by
  induction table generalizing below with
  | nil => rfl
  | cons entry rest ih =>
      obtain ⟨name, value⟩ := entry
      change textAt (overlay layer (putEntry name ⟨layer, _⟩ below) rest) key = _
      rw [ih (List.Pairwise.of_cons distinct), textAt, lookup_putEntry_eq, List.lookup_cons]
      split
      next same =>
          subst same
          rw [distinct.lookup_tail, beq_self_eq_true]
          -- Whether the key is already there or not, the new value gives the text.
          cases below.lookup key with
          | none => rfl
          | some earlier =>
              simp only [Option.map_some, Option.map_none, Option.none_or, Option.some_or,
                Value.text?_merge]
      next different =>
          rw [beq_false_of_ne different, textAt]

end Overlay

/-! Settings out of merged entries. -/

theorem ofText?_eq_some {name : String} {key : Key} :
    Key.ofText? name = some key ↔ name = key.text := by
  constructor
  · intro found
    have same := List.find?_some found
    exact (eq_of_beq same).symm
  · rintro rfl
    exact ofText?_text key

theorem text_inj {first second : Key} (same : first.text = second.text) : first = second := by
  have found := ofText?_text first
  rw [same, ofText?_text] at found
  exact (Option.some.inj found).symm

theorem accept_eq_ok {start next : Settings} {name : String} {sourced : Sourced} :
    accept start (name, sourced) = .ok next ↔
      ∃ key text, name = Key.text key ∧ sourced.value.text? = some text ∧
        next = start.set key text := by
  constructor
  · intro accepted
    unfold accept at accepted
    split at accepted
    · cases accepted
    next key known =>
    split at accepted
    · cases accepted
    next text isText =>
    cases accepted
    exact ⟨key, text, ofText?_eq_some.mp known, isText, rfl⟩
  · rintro ⟨key, text, rfl, isText, rfl⟩
    simp only [accept, ofText?_text, isText]

theorem eq_of_get {first second : Settings} (same : ∀ key, first.get key = second.get key) :
    first = second := by
  obtain ⟨_, _, _, _⟩ := first
  obtain ⟨_, _, _, _⟩ := second
  cases same .name
  cases same .address
  cases same .logLevel
  cases same .logFormat
  rfl

theorem foldlM_cons_eq_ok {start settings : Settings} {entry : String × Sourced}
    {rest : List (String × Sourced)} :
    (entry :: rest).foldlM accept start = .ok settings ↔
      ∃ next, accept start entry = .ok next ∧ rest.foldlM accept next = .ok settings := by
  rw [List.foldlM_cons]
  cases accepted : accept start entry with
  | error fault =>
      constructor
      · intro failed
        cases failed
      · rintro ⟨_, impossible, _⟩
        cases impossible
  | ok next =>
      constructor
      · intro folded
        exact ⟨next, rfl, folded⟩
      · rintro ⟨_, same, folded⟩
        cases same
        exact folded

/-- Settings come out of entries just if all keys are known and all values are texts, and then they
hold these texts, and else what they held before. -/
theorem foldlM_accept {entries : List (String × Sourced)} (distinct : Distinct entries)
    (start settings : Settings) :
    entries.foldlM accept start = .ok settings ↔
      (∀ name sourced, entries.lookup name = some sourced →
        ∃ key, name = Key.text key ∧ sourced.value.text? = some (settings.get key)) ∧
      ∀ key, entries.lookup (Key.text key) = none → settings.get key = start.get key := by
  induction entries generalizing start with
  | nil =>
      constructor
      · intro kept
        cases kept
        exact ⟨fun _ _ absent => (Option.some_ne_none _ absent.symm).elim, fun _ _ => rfl⟩
      · rintro ⟨_, kept⟩
        rw [eq_of_get fun key => kept key rfl]
        rfl
  | cons entry rest ih =>
      obtain ⟨name, sourced⟩ := entry
      have alone : rest.lookup name = none := distinct.lookup_tail
      have restDistinct : Distinct rest := List.Pairwise.of_cons distinct
      rw [foldlM_cons_eq_ok]
      constructor
      · rintro ⟨next, accepted, folded⟩
        obtain ⟨key, text, rfl, isText, rfl⟩ := accept_eq_ok.mp accepted
        obtain ⟨texts, kept⟩ := (ih restDistinct _).mp folded
        have held : settings.get key = text := by rw [kept key alone, get_set, if_pos rfl]
        constructor
        · intro other found present
          rw [List.lookup_cons] at present
          split at present
          next same =>
              cases present
              exact ⟨key, eq_of_beq same, held ▸ isText⟩
          next => exact texts other found present
        · intro other absent
          rw [List.lookup_cons] at absent
          split at absent
          · cases absent
          next missed =>
              have different : other ≠ key := by
                rintro rfl
                rw [beq_self_eq_true] at missed
                cases missed
              rw [kept other absent, get_set, if_neg different]
      · rintro ⟨texts, kept⟩
        obtain ⟨key, rfl, isText⟩ := texts name sourced List.lookup_cons_self
        refine ⟨_, accept_eq_ok.mpr ⟨key, _, rfl, isText, rfl⟩, (ih restDistinct _).mpr ⟨?_, ?_⟩⟩
        · intro other found present
          refine texts other found ?_
          rw [List.lookup_cons]
          split
          next same =>
              rw [eq_of_beq same, alone] at present
              cases present
          next => exact present
        · intro other absent
          rw [get_set]
          split
          next same => rw [same]
          next different =>
              refine kept other ?_
              rw [List.lookup_cons, beq_false_of_ne fun same => different (text_inj same)]
              exact absent

/-- What merged layers hold under each key when these settings come out of them. -/
def textUnder (settings : Settings) (name : String) : Option (Option String) :=
  (Key.ofText? name).map fun key => some (settings.get key)

theorem textUnder_text (settings : Settings) (key : Key) :
    settings.textUnder key.text = some (some (settings.get key)) := by
  rw [textUnder, ofText?_text, Option.map_some]

theorem textUnder_set (settings : Settings) (key : Key) (content name : String) :
    (settings.set key content).textUnder name =
      if name = key.text then some (some content) else settings.textUnder name := by
  split
  next same => rw [same, textUnder_text, get_set, if_pos rfl]
  next different =>
      rw [textUnder, textUnder]
      refine Option.map_congr fun other found => ?_
      have other_ne : other ≠ key := by
        rintro rfl
        exact different (ofText?_eq_some.mp found)
      rw [get_set, if_neg other_ne]

theorem eq_of_textUnder {first second : Settings}
    (same : ∀ name, first.textUnder name = second.textUnder name) : first = second := by
  refine eq_of_get fun key => ?_
  have both := same key.text
  rw [textUnder_text, textUnder_text] at both
  exact Option.some.inj (Option.some.inj both)

theorem extract_eq_ok {entries : List (String × Sourced)} (distinct : Distinct entries)
    (complete : ∀ key : Key, textAt entries key.text ≠ none) (settings : Settings) :
    extract entries = .ok settings ↔ ∀ name, textAt entries name = settings.textUnder name := by
  rw [extract, foldlM_accept distinct]
  constructor
  · rintro ⟨texts, _⟩ name
    cases present : entries.lookup name with
    | none =>
        cases known : Key.ofText? name with
        | none => rw [textAt, textUnder, present, known, Option.map_none, Option.map_none]
        | some key =>
            refine absurd ?_ (complete key)
            rw [← ofText?_eq_some.mp known, textAt, present, Option.map_none]
    | some sourced =>
        obtain ⟨key, rfl, isText⟩ := texts name sourced present
        rw [textAt, textUnder_text, present, Option.map_some, isText]
  · intro agree
    refine ⟨fun name sourced present => ?_, fun key absent => ?_⟩
    · have same := agree name
      rw [textAt, present, Option.map_some, textUnder] at same
      obtain ⟨key, known, held⟩ := Option.map_eq_some_iff.mp same.symm
      exact ⟨key, ofText?_eq_some.mp known, held.symm⟩
    · refine absurd ?_ (complete key)
      rw [textAt, absent, Option.map_none]

end Chaincode.Settings
