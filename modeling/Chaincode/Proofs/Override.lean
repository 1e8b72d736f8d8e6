import Chaincode.Proofs.Layers
import Chaincode.Proofs.Reading

namespace Chaincode.Settings

/-! One variable more.

What is loaded with the variable of a setting, told from what is loaded without it: the
setting takes the text that its variable spells, and nothing else changes.  Main
statement: `override_taken`.
-/

namespace Inline

/-- A bare text that stands for a number. -/
def Numeric (chars : List Char) : Prop :=
  ('.' ∈ chars ∧ (Numeral.float? chars).isSome) ∨
    (∃ number, Numeral.natural? chars = some number ∧ number < UInt64.size) ∨
    ∃ number, Numeral.integer? chars = some number ∧
      -0x8000000000000000 ≤ number ∧ number < 0x8000000000000000

/-- The text that a setting takes from a variable. -/
inductive Reads (text : String) : String → Prop
  | spelled : ValueForm text.toList value → value.text? = some content → Reads text content
  | unspelled : (∀ value, ¬ ValueForm text.toList value) → Reads text text

/-- Texts that are taken as they stand. -/
inductive Literal (text : String) : Prop
  | unspelled : (∀ value, ¬ ValueForm text.toList value) → Literal text
  | bare : Bare text.toList → ¬ Numeric text.toList →
      (∀ char, char ∈ text.toList.head? ∨ char ∈ text.toList.getLast? →
        Text.isBlank char = false) → Literal text

/-- A quoted text, behind its opening quote, in front of whose first escape stand as many characters
as no slice of it has bytes. -/
def Unsliced (body : List Char) : Prop :=
  body[(unescaped body).length]? = some '\\' ∧ firstBytes (unescaped body).length body = none

/-- Texts at which the program may stop for good: a quoted text, a list or a table begins there, and
no slice reaches up to an escape in it. -/
def Halting (chars : List Char) : Prop :=
  ∃ body, Unsliced body ∧ (skipBlanks chars = '"' :: body ∨ ∃ opening ∈ ['[', '{'], ∃ inside,
    skipBlanks chars = opening :: (inside ++ '"' :: body))

variable {text content : String} {chars : List Char}

theorem firstBytes_of_ascii {limit : Nat} (ascii : ∀ char ∈ chars, char.utf8Size = 1)
    (enough : limit ≤ chars.length) : firstBytes limit chars = some (chars.take limit) := by
  induction chars generalizing limit with
  | nil =>
      cases Nat.le_zero.mp enough
      rfl
  | cons char rest ih =>
      cases limit with
      | zero => rfl
      | succ limit =>
          obtain ⟨single, later⟩ := List.forall_mem_cons.mp ascii
          have behind := ih later (Nat.le_of_succ_le_succ enough)
          rw [firstBytes, single, if_pos (Nat.le_add_left 1 limit), Nat.add_sub_cancel, behind]
          rfl

/-- Where characters are bytes, nothing stops. -/
theorem not_halting_of_ascii (ascii : ∀ char ∈ chars, char.utf8Size = 1) : ¬ Halting chars := by
  rintro ⟨body, ⟨_, unsliced⟩, begins⟩
  have inside : ∀ char ∈ body, char ∈ chars := by
    intro char member
    refine (List.dropWhile_suffix isBlank).subset ?_
    rw [skipBlanks] at begins
    rcases begins with same | ⟨opening, _, between, same⟩
    · simp [same, member]
    · simp [same, member]
  have sliced := firstBytes_of_ascii (fun char member => ascii char (inside char member))
    (List.takeWhile_prefix fun char => char ≠ '"' && char ≠ '\\').length_le
  rw [unescaped, sliced] at unsliced
  cases unsliced

theorem text?_bare : (bare chars).text? = some content ↔
    ¬ Numeric chars ∧ content = .ofList chars := by
  have pointed : (if chars.contains '.' then Numeral.float? chars else none).isSome ↔
      '.' ∈ chars ∧ (Numeral.float? chars).isSome := by
    rw [← List.contains_iff_mem]
    split
    next point => rw [and_iff_right point]
    next point => exact iff_of_false Bool.false_ne_true fun both => point both.1
  rw [bare, Numeric, ← pointed]
  split
  next number found =>
      rw [found]
      exact iff_of_false nofun fun both => both.1 (.inl rfl)
  next unpointed =>
  rw [unpointed]
  split
  next number found =>
      obtain ⟨read, small⟩ := Option.filter_eq_some_iff.mp found
      exact iff_of_false nofun fun both =>
        both.1 (.inr (.inl ⟨number, read, of_decide_eq_true small⟩))
  next unnatural =>
  split
  next number found =>
      obtain ⟨read, small⟩ := Option.filter_eq_some_iff.mp found
      exact iff_of_false nofun fun both =>
        both.1 (.inr (.inr ⟨number, read, by simpa using small⟩))
  next uninteger =>
      refine (Option.some_inj.trans eq_comm).trans (and_iff_right ?_).symm
      rintro (pointed | ⟨number, read, small⟩ | ⟨number, read, small⟩)
      · cases pointed
      · exact Option.filter_eq_none_iff.mp unnatural number read (decide_eq_true small)
      · exact Option.filter_eq_none_iff.mp uninteger number read (by simpa using small)

theorem reads_iff : Reads text content ↔ (parse text).text? = some content := by
  constructor
  · rintro (⟨form, isText⟩ | unspelled)
    · rw [parse_of_form form, isText]
    · rw [parse_of_no_form unspelled]
      rfl
  · intro isText
    rcases parse_cases text with form | ⟨unspelled, same⟩
    · exact .spelled form isText
    · rw [same] at isText
      cases isText
      exact .unspelled unspelled

theorem exists_reads_iff : (∃ content, Reads text content) ↔
    ∀ value, ValueForm text.toList value → ∃ content, value.text? = some content := by
  simp only [reads_iff]
  constructor
  · rintro ⟨content, isText⟩ value form
    exact ⟨content, parse_of_form form ▸ isText⟩
  · intro texts
    rcases parse_cases text with form | ⟨_, same⟩
    · exact texts _ form
    · exact ⟨text, congrArg Value.text? same⟩

/-- A quoted text or character is longer than what it spells. -/
theorem length_lt_of_closedForm {value : Value} (form : ClosedForm chars value)
    (isText : value.text? = some content) : content.toList.length < chars.length := by
  cases form with
  | yes | no | noEntries | entries | noItems | items => cases isText
  | quoted form found =>
      cases isText
      have shorter := length_kept?_le found
      have longer := length_lt_of_quotedForm form
      rw [String.toList_ofList, List.length_cons]
      omega
  | @character char =>
      cases isText
      rw [String.toList_singleton]
      exact Nat.lt_of_sub_pos Nat.two_pos

theorem reads_self_iff : Reads text text ↔ Literal text := by
  constructor
  · intro reads
    rcases reads with ⟨form, isText⟩ | unspelled
    · generalize whole : text.toList = chars at form
      cases form with
      | closed _ closed _ =>
          have shorter := length_lt_of_closedForm closed isText
          rw [whole] at shorter
          simp only [List.length_append] at shorter
          omega
      | @bare front chars _ bare =>
          obtain ⟨notNumber, same⟩ := text?_bare.mp isText
          have trimmed : Text.trim chars = front ++ chars := by
            rw [← whole, same, String.toList_ofList]
          have shorter := Nat.le_trans (Text.length_trim_le chars)
            (List.dropWhile_suffix Text.isBlank).length_le
          rw [trimmed, List.length_append] at shorter
          cases List.eq_nil_of_length_eq_zero (by omega : front.length = 0)
          rw [List.nil_append] at whole trimmed
          rw [trimmed] at notNumber
          subst whole
          exact .bare bare notNumber (Text.trim_eq_self_iff.mp trimmed)
    · exact .unspelled unspelled
  · intro literal
    cases literal with
    | unspelled unspelled => exact .unspelled unspelled
    | bare bare notNumber solid =>
        have isText : (Inline.bare (Text.trim text.toList)).text? = some text := by
          rw [Text.trim_eq_self_iff.mpr solid, text?_bare]
          exact ⟨notNumber, String.ofList_toList.symm⟩
        exact .spelled (.bare blanks_nil bare) isText

end Inline

namespace Environment

/-- A further variable gives its text under its own key, unless a later one has that key too. -/
theorem textUnder_insert (before after : Environment) (setting : String × String) (name : String) :
    textUnder (before ++ setting :: after) name =
      if root? setting.1 = some name ∧ ∀ other ∈ after, root? other.1 ≠ some name then
        some (entryValue setting).text?
      else textUnder (before ++ after) name := by
  induction after using List.reverseRecOn with
  | nil =>
      rw [textUnder_append, List.append_nil]
      simp only [List.not_mem_nil, false_implies, implies_true, and_true]
  | append_singleton after last ih =>
      rw [← List.cons_append, ← List.append_assoc, ← List.append_assoc, textUnder_append,
        textUnder_append, ih]
      by_cases sets : root? last.1 = some name
      · have hidden : ¬ ∀ other ∈ after ++ [last], root? other.1 ≠ some name :=
          fun free => free last List.mem_concat_self sets
        rw [if_pos sets, if_pos sets, if_neg fun both => hidden both.2]
      · have same : (∀ other ∈ after ++ [last], root? other.1 ≠ some name) ↔
            ∀ other ∈ after, root? other.1 ≠ some name := by
          rw [List.forall_mem_append, List.forall_mem_singleton, and_iff_left sets]
        rw [if_neg sets, if_neg sets]
        simp only [same]

end Environment

namespace Key

/-- The name of the variable that sets this. -/
def variableName (key : Key) : String := "CHAINCODE_" ++ Text.asciiUpper key.text

theorem key?_variableName (key : Key) : Environment.key? key.variableName = some [key.text] := by
  have chars : key.variableName.toList =
      "CHAINCODE_".toList ++ key.text.toList.map Char.toUpper := by
    rw [variableName, Text.asciiUpper, String.toList_append, String.toList_map]
  rw [Environment.key?, chars]
  cases key <;> rfl

end Key

theorem Environment.root?_variableName (key : Key) :
    root? key.variableName = some key.text := by
  rw [root?, key.key?_variableName]
  rfl

theorem Environment.entryValue_variableName (key : Key) (text : String) :
    entryValue (key.variableName, text) = Inline.parse text := by
  rw [entryValue, key.key?_variableName]
  rfl

/-- With another text or none under one key, other settings come out or none. -/
theorem textUnder_replaced {settings changed : Settings} {key : Key} {found : Option String} :
    (∀ name, (if name = key.text then some found else settings.textUnder name) =
      changed.textUnder name) ↔
      ∃ content, found = some content ∧ changed = settings.set key content := by
  constructor
  · intro agree
    have held := agree key.text
    rw [if_pos rfl, textUnder_text, Option.some_inj] at held
    refine ⟨changed.get key, held, eq_of_textUnder fun name => ?_⟩
    rw [textUnder_set, ← agree name, held]
  · rintro ⟨content, rfl, rfl⟩ name
    rw [textUnder_set]

/-- Settings are loaded just if a readable file, the environment and the defaults hold their texts
and no others. -/
theorem load_eq_ok {tree : FileTree} {current : Path} {path : Option String}
    {environment : Environment} {settings : Settings} :
    load tree current path environment = .ok settings ↔
      ∃ entries, fileTable tree current path = .ok entries ∧ ∀ name,
        (environment.textUnder name).or (textBelow entries name) = settings.textUnder name := by
  cases read : fileTable tree current path with
  | error fault =>
      refine iff_of_false (fun loaded => ?_) nofun
      unfold fileTable at read
      unfold load at loaded
      split at loaded
      next found =>
          rw [found] at read
          cases read
      next found =>
          rw [found] at read
          dsimp only at read loaded
          rw [read] at loaded
          cases loaded
  | ok entries =>
      obtain ⟨found, same⟩ := load_eq_extract read environment
      have distinct := distinct_fileTable read
      rw [same, extract_eq_ok distinct_merged (textAt_merged_ne_none distinct)]
      simp only [textAt_merged distinct, Except.ok.injEq, exists_eq_left']

/-- What is loaded with a further variable for a setting, where no other one hides it. -/
structure Taken (key : Key) (text : String) (settings : Settings)
    (loaded : Except LoadError Settings) : Prop where
  loads : (∃ changed, loaded = .ok changed) ↔
    ∀ value, Inline.ValueForm text.toList value → ∃ content, value.text? = some content
  holds : ∀ changed, loaded = .ok changed ↔
    ∃ content, Inline.Reads text content ∧ changed = settings.set key content
  literal : loaded = .ok (settings.set key text) ↔ Inline.Literal text

theorem taken_of_holds {key : Key} {text : String} {settings : Settings}
    {loaded : Except LoadError Settings}
    (holds : ∀ changed, loaded = .ok changed ↔
      ∃ content, Inline.Reads text content ∧ changed = settings.set key content) :
    Taken key text settings loaded := by
  refine ⟨?_, holds, ?_⟩
  · rw [← Inline.exists_reads_iff]
    constructor
    · rintro ⟨changed, ok⟩
      obtain ⟨content, reads, _⟩ := (holds changed).mp ok
      exact ⟨content, reads⟩
    · rintro ⟨content, reads⟩
      exact ⟨_, (holds _).mpr ⟨content, reads, rfl⟩⟩
  · rw [holds, ← Inline.reads_self_iff]
    constructor
    · rintro ⟨content, reads, same⟩
      have held : text = content := by
        have both := congrArg (Settings.get · key) same
        simpa only [get_set, if_true] using both
      exact held ▸ reads
    · intro reads
      exact ⟨text, reads, rfl⟩

/-- A setting takes the text that its variable spells, unless a later variable has the same key or
the program stops at that text, and the other settings stay. -/
theorem override_taken {tree : FileTree} {current : Path} {path : Option String}
    {before after : Environment} {settings : Settings} (key : Key) (text : String)
    (otherwise : load tree current path (before ++ after) = .ok settings) :
    let loaded := load tree current path (before ++ (key.variableName, text) :: after)
    ((∃ other ∈ after, Environment.root? other.1 = some key.text) → loaded = .ok settings) ∧
      ((∀ other ∈ after, Environment.root? other.1 ≠ some key.text) →
        ¬ Inline.Halting text.toList → Taken key text settings loaded) := by
  intro loaded
  obtain ⟨entries, read, agree⟩ := load_eq_ok.mp otherwise
  have inserted := Environment.textUnder_insert before after (key.variableName, text)
  simp only [Environment.root?_variableName, Environment.entryValue_variableName, Option.some_inj]
    at inserted
  constructor
  · rintro ⟨other, later, same⟩
    refine load_eq_ok.mpr ⟨entries, read, fun name => ?_⟩
    rw [inserted, if_neg, agree]
    rintro ⟨rfl, free⟩
    exact free other later same
  intro free _
  -- The new text stands under the key, and elsewhere what was there.
  have layers (name : String) :
      (Environment.textUnder (before ++ (key.variableName, text) :: after) name).or
          (textBelow entries name) =
        if name = key.text then some (Inline.parse text).text? else settings.textUnder name := by
    rw [inserted]
    by_cases same : name = key.text
    · subst same
      rw [if_pos ⟨rfl, free⟩, if_pos rfl, Option.some_or]
    · rw [if_neg fun both => same both.1.symm, if_neg same, agree]
  refine taken_of_holds fun changed => ?_
  rw [load_eq_ok]
  simp only [read, Except.ok.injEq, exists_eq_left', layers, textUnder_replaced, Inline.reads_iff]

/-- A name with blanks around it, once in front of a level and once in front of another name. -/
theorem trial_override :
    let name := (Key.name.variableName, " a b ")
    let before : Environment := [("HOME", "/root")]
    let level : Environment := [("Chaincode_Log_Level", "debug")]
    let other : Environment := [("chaincode_name", "c")]
    let loaded := load {} [] none (before ++ name :: level)
    load {} [] none (before ++ level) = .ok { logLevel := "debug" } ∧
      Taken .name " a b " { logLevel := "debug" } loaded ∧
      loaded = .ok { name := "a b", logLevel := "debug" } ∧
      load {} [] none (before ++ name :: other) = .ok { name := "c" } := by
  intro name before level other loaded
  have otherwise : load {} [] none (before ++ level) = .ok { logLevel := "debug" } := by
    have table : Environment.table (before ++ level) = [("log_level", .text "debug")] := rfl
    rw [load, Option.bind_none, table]
    rfl
  have hidden : load {} [] none (before ++ other) = .ok { name := "c" } := by
    have table : Environment.table (before ++ other) = [("name", .text "c")] := rfl
    rw [load, Option.bind_none, table]
    rfl
  have free : ∀ setting ∈ level, Environment.root? setting.1 ≠ some Key.name.text := by
    intro setting member
    rcases List.mem_singleton.mp member with rfl
    decide
  have ascii : " a b ".toList.all (·.utf8Size = 1) = true := rfl
  have running : ¬ Inline.Halting " a b ".toList :=
    Inline.not_halting_of_ascii fun char member =>
      of_decide_eq_true (List.all_eq_true.mp ascii char member)
  have taken := (override_taken .name " a b " otherwise).2 free running
  have reads : Inline.Reads " a b " "a b" := Inline.reads_iff.mpr rfl
  exact ⟨otherwise, taken, (taken.holds _).mpr ⟨"a b", reads, rfl⟩,
    (override_taken .name " a b " hidden).1 ⟨_, List.mem_singleton_self _, rfl⟩⟩

/-- A number is no text. -/
theorem number_refused :
    ¬ ∀ (tree : FileTree) (current : Path) (path : Option String) (before after : Environment)
        (settings : Settings) (key : Key) (text : String), '\x00' ∉ text.toList →
      load tree current path (before ++ after) = .ok settings →
        load tree current path (before ++ (key.variableName, text) :: after) =
          .ok (settings.set key text) := by
  intro literal
  have loaded := literal {} [] none [] [] {} .name "42" (by decide) rfl
  have table : Environment.table [(Key.name.variableName, "42")] = [("name", .natural 42)] := by
    rw [Environment.table, List.foldl_cons, Key.key?_variableName]
    rfl
  rw [List.nil_append, load, Option.bind_none, table] at loaded
  cases loaded

end Chaincode.Settings
