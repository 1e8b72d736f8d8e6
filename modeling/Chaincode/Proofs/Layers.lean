import Chaincode.Proofs.Table
import Chaincode.Proofs.Utf8
import Mathlib.Data.List.Induction

namespace Chaincode

/-! Which layer each setting comes from.

For each key on its own: the last variable of the environment with that key wins, then
the file, then the default.  Keys are checked in all layers, types only where a value
wins.  Main statement: `load_takes_winners`.
-/

theorem Text.length_trim_le (chars : List Char) :
    (trim chars).length ≤ (chars.dropWhile isBlank).length := by
  have kept := (List.dropWhile_suffix isBlank (l := (chars.dropWhile isBlank).reverse)).length_le
  rw [List.length_reverse] at kept
  rw [trim, List.length_reverse]
  exact kept

theorem Text.dropWhile_isBlank_eq_self_iff {chars : List Char} :
    chars.dropWhile isBlank = chars ↔ ∀ char ∈ chars.head?, isBlank char = false := by
  constructor
  · intro same char first
    have solid := List.head?_dropWhile_not isBlank chars
    rw [same, Option.mem_def.mp first] at solid
    simpa using solid
  · intro solid
    cases chars with
    | nil => rfl
    | cons char rest => exact List.dropWhile_cons_of_neg (by simp [solid char rfl])

theorem Text.trim_eq_self_iff {chars : List Char} :
    trim chars = chars ↔
      ∀ char, char ∈ chars.head? ∨ char ∈ chars.getLast? → isBlank char = false := by
  constructor
  · intro same
    -- Nothing is dropped at the front, since what is left behind it is as long as the whole.
    have front : chars.dropWhile isBlank = chars := by
      refine (List.dropWhile_suffix isBlank).eq_of_length_le ?_
      have kept := length_trim_le chars
      rwa [same] at kept
    rw [trim, front, List.reverse_eq_iff] at same
    rintro char (first | last)
    · exact dropWhile_isBlank_eq_self_iff.mp front char first
    · exact dropWhile_isBlank_eq_self_iff.mp same char (by rwa [List.head?_reverse])
  · intro solid
    have front := dropWhile_isBlank_eq_self_iff.mpr fun char first => solid char (.inl first)
    have back : chars.reverse.dropWhile isBlank = chars.reverse :=
      dropWhile_isBlank_eq_self_iff.mpr fun char last =>
        solid char (.inr (by rwa [← List.head?_reverse]))
    rw [trim, front, back, List.reverse_reverse]

theorem Text.trim_eq_self {chars : List Char} (free : ∀ char ∈ chars, isBlank char = false) :
    trim chars = chars :=
  trim_eq_self_iff.mpr fun char atEnd =>
    free char (atEnd.elim List.mem_of_mem_head? List.mem_of_getLast?)

theorem Text.toLower_ne_point {char : Char} (other : char ≠ '.') : char.toLower ≠ '.' := by
  unfold Char.toLower
  split
  next capital =>
      intro same
      have code := congrArg (fun letter : Char => letter.val.toNat) same
      have low := UInt32.le_iff_toNat_le.mp capital.1
      have high := UInt32.le_iff_toNat_le.mp capital.2
      simp at code low high
      omega
  next => exact other

namespace Settings

namespace Environment

/-- What follows the prefix, in any case, at the beginning of a name. -/
def remainder? (name : List Char) : Option (List Char) :=
  if (name.take marker.length).map Char.toLower = marker then some (name.drop marker.length)
  else none

/-- The key that a variable sets: the remainder of its name in lower case. -/
def keyOf? (spelled : String → List Char) (name : String) : Option String :=
  (remainder? (spelled name)).map fun rest => .ofList (rest.map Char.toLower)

/-- The remainders of names are not empty, and hold no points and no blanks. -/
def Plain (spelled : String → List Char) (environment : Environment) : Prop :=
  ∀ setting ∈ environment, ∀ rest, remainder? (spelled setting.1) = some rest →
    rest ≠ [] ∧ ∀ char ∈ rest, char ≠ '.' ∧ Text.isBlank char = false

/-- The value of the last variable with this key. -/
def last? (spelled : String → List Char) (environment : Environment) (key : String) :
    Option Value :=
  (environment.filter fun setting => keyOf? spelled setting.1 = some key).getLast?.map
    fun setting => Inline.parse setting.2

/-- A name without the blanks around it. -/
def trimmed (name : String) : List Char := Text.trim name.toList

theorem key?_of_remainder? {name : String} {rest : List Char}
    (remains : remainder? (trimmed name) = some rest) (nonempty : rest ≠ [])
    (plain : ∀ char ∈ rest, char ≠ '.' ∧ Text.isBlank char = false) :
    key? name = some [.ofList (rest.map Char.toLower)] := by
  unfold remainder? at remains
  split at remains
  next marked =>
      cases remains
      have solid := Text.trim_eq_self fun char member => (plain char member).2
      have pointless : '.' ∉ ((trimmed name).drop marker.length).map Char.toLower := by
        intro member
        obtain ⟨char, present, same⟩ := List.mem_map.mp member
        exact Text.toLower_ne_point (plain char present).1 same
      rw [trimmed] at nonempty marked solid pointless ⊢
      unfold key?
      dsimp only
      rw [if_pos marked, solid, List.splitOn_eq_singleton pointless]
      refine if_neg fun empty => nonempty ?_
      have same := List.mem_singleton.mp (List.contains_iff_mem.mp empty)
      exact List.map_eq_nil_iff.mp (String.ofList_injective same.symm)
  next => cases remains

theorem key?_of_no_remainder {name : String} (foreign : remainder? (trimmed name) = none) :
    key? name = none := by
  unfold remainder? at foreign
  split at foreign
  · cases foreign
  next unmarked => exact if_neg unmarked

theorem table_append (environment : Environment) (setting : String × String) :
    table (environment ++ [setting]) =
      match key? setting.1 with
      | some (part :: parts) =>
          Value.mergeEntries (table environment) [(part, nest (Inline.parse setting.2) parts)]
      | _ => table environment := by
  rw [table, List.foldl_append]
  rfl

theorem mergeEntries_single (entries : List (String × Value)) (key : String) (value : Value) :
    Value.mergeEntries entries [(key, value)] =
      putEntry key (((entries.lookup key).map (·.merge value)).getD value) entries := by
  rw [Value.mergeEntries, Value.mergeEntries]
  cases entries.lookup key with
  | none => rfl
  | some earlier => rfl

/-- The key of the entry that a variable of this name puts into the table. -/
def root? (name : String) : Option String := (key? name).bind List.head?

/-- The value of that entry. -/
def entryValue (setting : String × String) : Value :=
  nest (Inline.parse setting.2) ((key? setting.1).getD []).tail

/-- The text that the environment has under a key: nothing without the key, and no text if the
value is none. -/
def textUnder (environment : Environment) (name : String) : Option (Option String) :=
  (environment.table.lookup name).map Value.text?

theorem textUnder_append (environment : Environment) (setting : String × String) (name : String) :
    textUnder (environment ++ [setting]) name =
      if root? setting.1 = some name then some (entryValue setting).text?
      else textUnder environment name := by
  rw [textUnder, textUnder, table_append, root?, entryValue]
  cases named : key? setting.1 with
  | none => rfl
  | some key =>
  cases key with
  | nil => rfl
  | cons part parts =>
      rw [Option.bind_some, List.head?_cons, Option.getD_some, List.tail_cons]
      dsimp only
      rw [mergeEntries_single, lookup_putEntry_eq]
      by_cases same : name = part
      · rw [if_pos same, if_pos (congrArg some same.symm)]
        -- The new value gives the text, whatever it is merged with.
        cases environment.table.lookup part with
        | none => rfl
        | some earlier => exact congrArg some (Value.text?_merge earlier _)
      · rw [if_neg same, if_neg fun equal => same (Option.some.inj equal).symm]

theorem sorted_table (environment : Environment) : Sorted environment.table := by
  induction environment using List.reverseRecOn with
  | nil => exact .nil
  | append_singleton environment setting ih =>
      rw [table_append]
      split
      · rw [mergeEntries_single]
        exact ih.putEntry _ _
      · exact ih

theorem last?_append (spelled : String → List Char) (environment : Environment)
    (setting : String × String) (key : String) :
    last? spelled (environment ++ [setting]) key =
      if keyOf? spelled setting.1 = some key then some (Inline.parse setting.2)
      else last? spelled environment key := by
  rw [last?, List.filter_append]
  split
  next sets =>
      have kept : [setting].filter (fun other => keyOf? spelled other.1 = some key) = [setting] :=
        List.filter_cons_of_pos (decide_eq_true sets)
      rw [kept, List.getLast?_concat, Option.map_some]
  next other =>
      have dropped : [setting].filter (fun other => keyOf? spelled other.1 = some key) = [] :=
        List.filter_cons_of_neg (by rw [decide_eq_false other]; exact Bool.false_ne_true)
      rw [dropped, List.append_nil, last?]

/-- The table of a plain environment holds under each key what its last variable says. -/
theorem textUnder_eq_last? {environment : Environment} (plain : Plain trimmed environment)
    (key : String) :
    textUnder environment key = (last? trimmed environment key).map Value.text? := by
  induction environment using List.reverseRecOn with
  | nil => rfl
  | append_singleton environment setting ih =>
      have earlier := ih fun other member => plain other (List.mem_append_left [setting] member)
      rw [textUnder_append, last?_append, root?, entryValue]
      cases remains : remainder? (trimmed setting.1) with
      | none =>
          have foreign : keyOf? trimmed setting.1 = none := by rw [keyOf?, remains, Option.map_none]
          rw [key?_of_no_remainder remains, foreign, if_neg (Option.some_ne_none key).symm]
          exact earlier
      | some rest =>
          obtain ⟨nonempty, free⟩ :=
            plain setting (List.mem_append_right _ (List.mem_singleton_self _)) rest remains
          have sets : keyOf? trimmed setting.1 = some (.ofList (rest.map Char.toLower)) := by
            rw [keyOf?, remains, Option.map_some]
          rw [key?_of_remainder? remains nonempty free, sets, earlier,
            apply_ite (Option.map Value.text?)]
          rfl

/-- Variables without the prefix do not matter. -/
theorem table_filter (environment : Environment) :
    table (environment.filter fun setting => (keyOf? trimmed setting.1).isSome) =
      environment.table := by
  induction environment using List.reverseRecOn with
  | nil => rfl
  | append_singleton environment setting ih =>
      rw [List.filter_append, table_append]
      cases named : keyOf? trimmed setting.1 with
      | some key =>
          rw [List.filter_cons_of_pos (by rw [named]; rfl), List.filter_nil, table_append, ih]
      | none =>
          rw [List.filter_cons_of_neg (by rw [named]; exact Bool.false_ne_true), List.filter_nil,
            List.append_nil, ih, key?_of_no_remainder (Option.map_eq_none_iff.mp named)]

theorem isSome_last? (spelled : String → List Char) (environment : Environment) (key : String) :
    (last? spelled environment key).isSome ↔
      ∃ setting ∈ environment, keyOf? spelled setting.1 = some key := by
  rw [last?, Option.isSome_map, List.getLast?_isSome]
  constructor
  · intro nonempty
    obtain ⟨setting, member⟩ := List.exists_mem_of_ne_nil _ nonempty
    obtain ⟨present, sets⟩ := List.mem_filter.mp member
    exact ⟨setting, present, of_decide_eq_true sets⟩
  · rintro ⟨setting, present, sets⟩
    exact List.ne_nil_of_mem (List.mem_filter.mpr ⟨present, decide_eq_true sets⟩)

end Environment

/-- The entries of the settings file that is found; none without a file. -/
def fileTable (tree : FileTree) (current : Path) (path : Option String) :
    Except LoadError (List (String × Value)) :=
  match path.bind (tree.search current) with
  | none => .ok []
  | some found => fileEntries (Path.text (found.path.relativeTo current)) found.content

theorem distinct_fileTable {tree : FileTree} {current : Path} {path : Option String}
    {entries : List (String × Value)} (read : fileTable tree current path = .ok entries) :
    Distinct entries := by
  unfold fileTable at read
  split at read
  · cases read
    exact .nil
  unfold fileEntries at read
  split at read
  · cases read
  next text _ =>
  split at read
  · cases read
  next parsed =>
  cases read
  rw [Toml.parse?] at parsed
  obtain ⟨statements, _, assembled⟩ := Option.bind_eq_some_iff.mp parsed
  obtain ⟨table, _, rfl⟩ := Option.map_eq_some_iff.mp assembled
  exact (Toml.sorted_entryValues table).distinct

/-- All layers merged. -/
def merged (path : String) (entries : List (String × Value)) (environment : Environment) :
    List (String × Sourced) :=
  overlay .environment (overlay (.file path) (overlay .defaults [] defaultEntries) entries)
    environment.table

/-- Without a file nothing is merged between the defaults and the environment. -/
theorem load_eq_extract {tree : FileTree} {current : Path} {path : Option String}
    {entries : List (String × Value)} (read : fileTable tree current path = .ok entries)
    (environment : Environment) :
    ∃ found, load tree current path environment = extract (merged found entries environment) := by
  unfold fileTable at read
  unfold load
  cases searched : path.bind (tree.search current) with
  | none =>
      rw [searched] at read
      cases read
      exact ⟨"", rfl⟩
  | some found =>
      rw [searched] at read
      dsimp only at read ⊢
      rw [read]
      exact ⟨Path.text (found.path.relativeTo current), rfl⟩

theorem distinct_defaultEntries : Distinct defaultEntries := by
  unfold Distinct
  decide

theorem lookup_defaultEntries (key : Key) :
    defaultEntries.lookup key.text = some (.text (({} : Settings).get key)) := by
  cases key <;> rfl

/-- The text under a key in the layers below the environment. -/
def textBelow (entries : List (String × Value)) (name : String) : Option (Option String) :=
  ((entries.lookup name).map Value.text?).or ((defaultEntries.lookup name).map Value.text?)

/-- The value that wins for a key. -/
def winning (spelled : String → List Char) (entries : List (String × Value))
    (environment : Environment) (key : Key) : Value :=
  match environment.last? spelled key.text with
  | some value => value
  | none => (entries.lookup key.text).getD (.text (({} : Settings).get key))

/-- All keys of the file and of the environment are keys of settings. -/
structure Known (spelled : String → List Char) (entries : List (String × Value))
    (environment : Environment) : Prop where
  inFile : ∀ entry ∈ entries, ∃ key, entry.1 = Key.text key
  inEnvironment : ∀ setting ∈ environment, ∀ name,
    Environment.keyOf? spelled setting.1 = some name → ∃ key, name = Key.text key

section Merged

variable {path : String} {entries : List (String × Value)} {environment : Environment}

theorem distinct_merged : Distinct (merged path entries environment) := by
  unfold merged
  exact (sorted_overlay (sorted_overlay (sorted_overlay .nil))).distinct

theorem textAt_merged (distinct : Distinct entries) (name : String) :
    textAt (merged path entries environment) name =
      (environment.textUnder name).or (textBelow entries name) := by
  have bottom : textAt (overlay .defaults [] defaultEntries) name =
      (defaultEntries.lookup name).map Value.text? := by
    rw [textAt_overlay distinct_defaultEntries, textAt, List.lookup_nil, Option.map_none,
      Option.or_none]
  rw [merged, textAt_overlay environment.sorted_table.distinct, textAt_overlay distinct, bottom,
    Environment.textUnder, textBelow]

theorem textAt_merged_plain (distinct : Distinct entries)
    (plain : environment.Plain Environment.trimmed) (name : String) :
    textAt (merged path entries environment) name =
      ((environment.last? Environment.trimmed name).map Value.text?).or (textBelow entries name) := by
  rw [textAt_merged distinct, Environment.textUnder_eq_last? plain]

theorem textAt_merged_text (distinct : Distinct entries)
    (plain : environment.Plain Environment.trimmed) (key : Key) :
    textAt (merged path entries environment) key.text =
      some (winning Environment.trimmed entries environment key).text? := by
  rw [textAt_merged_plain distinct plain, textBelow, lookup_defaultEntries, winning]
  cases environment.last? Environment.trimmed key.text with
  | some value => rfl
  | none =>
      cases entries.lookup key.text with
      | some value => rfl
      | none => rfl

theorem known_iff (distinct : Distinct entries) (plain : environment.Plain Environment.trimmed) :
    Known Environment.trimmed entries environment ↔
      ∀ name, (textAt (merged path entries environment) name).isSome →
        ∃ key, name = Key.text key := by
  simp only [textAt_merged_plain distinct plain, textBelow, Option.isSome_or, Option.isSome_map,
    Bool.or_eq_true, Environment.isSome_last?, List.lookup_isSome_iff]
  constructor
  · rintro ⟨inFile, inEnvironment⟩ name (⟨setting, present, sets⟩ | entry | default)
    · exact inEnvironment setting present name sets
    · obtain ⟨entry, present, same⟩ := entry
      rw [eq_of_beq same]
      exact inFile entry present
    · obtain ⟨entry, present, same⟩ := default
      obtain ⟨key, _, rfl⟩ := List.mem_map.mp present
      exact ⟨key, eq_of_beq same⟩
  · intro known
    constructor
    · exact fun entry present => known entry.1 (.inr (.inl ⟨entry, present, beq_self_eq_true _⟩))
    · exact fun setting present name sets => known name (.inl ⟨setting, present, sets⟩)

/-- There is a default under each key. -/
theorem textAt_merged_ne_none (distinct : Distinct entries) (key : Key) :
    textAt (merged path entries environment) key.text ≠ none := by
  rw [textAt_merged distinct, textBelow, lookup_defaultEntries]
  simp

/-- The priority rule for all settings together. -/
theorem extract_merged (distinct : Distinct entries)
    (plain : environment.Plain Environment.trimmed) (settings : Settings) :
    extract (merged path entries environment) = .ok settings ↔
      Known Environment.trimmed entries environment ∧
        ∀ key, (winning Environment.trimmed entries environment key).text? =
          some (settings.get key) := by
  rw [extract_eq_ok distinct_merged (textAt_merged_ne_none distinct), known_iff distinct plain]
  constructor
  · intro agree
    refine ⟨fun name present => ?_, fun key => ?_⟩
    · rw [agree, textUnder, Option.isSome_map] at present
      obtain ⟨key, known⟩ := Option.isSome_iff_exists.mp present
      exact ⟨key, ofText?_eq_some.mp known⟩
    · have same := agree key.text
      rwa [textAt_merged_text distinct plain, textUnder_text, Option.some_inj] at same
  · rintro ⟨known, held⟩ name
    cases named : Key.ofText? name with
    | some key =>
        rw [ofText?_eq_some.mp named, textAt_merged_text distinct plain, held, textUnder_text]
    | none =>
        rw [textUnder, named, Option.map_none]
        refine Option.not_isSome_iff_eq_none.mp fun present => ?_
        obtain ⟨key, rfl⟩ := known name present
        rw [ofText?_text] at named
        cases named

end Merged

/-- Settings are loaded just if all keys are known and all winning values are texts, and then they
hold these texts. -/
structure Layered (spelled : String → List Char) (entries : List (String × Value))
    (environment : Environment) (loaded : Except LoadError Settings) : Prop where
  loads : (∃ settings, loaded = .ok settings) ↔
    Known spelled entries environment ∧
      ∀ key, (winning spelled entries environment key).text?.isSome
  holds : ∀ settings, loaded = .ok settings → ∀ key,
    (winning spelled entries environment key).text? = some (settings.get key)

/-- Each setting on its own comes from the highest layer that has it, and other variables do not
matter. -/
theorem load_takes_winners {tree : FileTree} {current : Path} {path : Option String}
    {entries : List (String × Value)} {environment : Environment}
    (read : fileTable tree current path = .ok entries)
    (plain : environment.Plain Environment.trimmed) :
    Layered Environment.trimmed entries environment (load tree current path environment) ∧
      load tree current path (environment.filter fun setting =>
        (Environment.keyOf? Environment.trimmed setting.1).isSome) =
        load tree current path environment := by
  have distinct := distinct_fileTable read
  obtain ⟨found, same⟩ := load_eq_extract read environment
  refine ⟨⟨⟨?_, ?_⟩, ?_⟩, ?_⟩
  · rintro ⟨settings, loaded⟩
    obtain ⟨known, held⟩ := (extract_merged distinct plain settings).mp (same ▸ loaded)
    exact ⟨known, fun key => Option.isSome_iff_exists.mpr ⟨_, held key⟩⟩
  · rintro ⟨known, texts⟩
    choose text isText using fun key => Option.isSome_iff_exists.mp (texts key)
    refine ⟨⟨text .name, text .address, text .logLevel, text .logFormat⟩, ?_⟩
    rw [same, extract_merged distinct plain]
    refine ⟨known, fun key => ?_⟩
    rw [isText]
    cases key <;> rfl
  · intro settings loaded
    exact ((extract_merged distinct plain settings).mp (same ▸ loaded)).2
  · simp only [load, Environment.table_filter]

/-- A table in the file does no harm where a variable sets a text. -/
theorem variable_over_table :
    let tree : FileTree := ⟨[(["chaincode.toml"], .file (Text.Utf8.encode "[name]"))]⟩
    let environment : Environment := [("HOME", "/root"), ("Chaincode_Name", "fabric")]
    let loaded := load tree [] (some "chaincode.toml") environment
    Layered Environment.trimmed [("name", .table [])] environment loaded ∧
      loaded = .ok { name := "fabric" } := by
  intro tree environment loaded
  have entries : fileEntries "chaincode.toml" (Text.Utf8.encode "[name]") =
      .ok [("name", .table [])] := by
    rw [fileEntries, Text.Utf8.decode_encode]
    rfl
  have read : fileTable tree [] (some "chaincode.toml") = .ok [("name", .table [])] := entries
  have plain : environment.Plain Environment.trimmed := by
    intro setting member rest remains
    rcases List.mem_cons.mp member with rfl | later
    · cases (show none = some rest from remains)
    rcases List.mem_singleton.mp later with rfl
    cases (show some "Name".toList = some rest from remains)
    have free : ("Name".toList.all fun char => char ≠ '.' ∧ Text.isBlank char = false) = true := rfl
    exact ⟨List.cons_ne_nil _ _, fun char present =>
      of_decide_eq_true (List.all_eq_true.mp free char present)⟩
  have table : environment.table = [("name", .text "fabric")] := rfl
  obtain ⟨found, same⟩ := load_eq_extract read environment
  refine ⟨(load_takes_winners read plain).1, same.trans ?_⟩
  rw [merged, table]
  rfl

/-- A blank before the prefix does not take a variable out of the environment. -/
theorem blank_before_prefix_counts :
    ¬ ∀ (tree : FileTree) (current : Path) (path : Option String)
        (entries : List (String × Value)) (environment : Environment),
      fileTable tree current path = .ok entries → environment.Plain String.toList →
        Layered String.toList entries environment (load tree current path environment) := by
  intro layered
  let environment : Environment := [(" CHAINCODE_NAME", "sp")]
  have plain : environment.Plain String.toList := by
    intro setting member rest remains
    rcases List.mem_singleton.mp member with rfl
    cases (show none = some rest from remains)
  have table : environment.table = [("name", .text "sp")] := rfl
  have loaded : load {} [] none environment = .ok { name := "sp" } := by
    rw [load, Option.bind_none, table]
    rfl
  have wins := (layered {} [] none [] environment rfl plain).holds _ loaded .name
  have unset : environment.last? String.toList Key.name.text = none := rfl
  rw [winning, unset] at wins
  exact absurd (show some "very-simple" = some "sp" from wins) (by decide)

end Settings

end Chaincode
