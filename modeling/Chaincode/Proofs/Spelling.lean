import Chaincode.Settings.Inline
import Mathlib.Data.List.TakeWhile

namespace Chaincode.Settings.Inline

/-! How values are spelled in a variable.

A grammar of the texts that spell a value, in which no reader occurs: relations between
characters and what they spell.  Readers find nothing else.  Main statement: `finds`.
-/

/-- What stands behind an opening quote, with the closing one, and the text that it spells. -/
inductive QuotedForm : List Char → List Char → Prop
  | close : QuotedForm ['"'] []
  | short : Text.hexChar? [a, b, c, d] = some char → QuotedForm rest text →
      QuotedForm ('\\' :: 'u' :: a :: b :: c :: d :: rest) (char :: text)
  | long : Text.hexChar? [a, b, c, d, e, f, g, h] = some char → QuotedForm rest text →
      QuotedForm ('\\' :: 'U' :: a :: b :: c :: d :: e :: f :: g :: h :: rest) (char :: text)
  | escape : Text.escape? mark = some char → QuotedForm rest text →
      QuotedForm ('\\' :: mark :: rest) (char :: text)
  | plain : char ≠ '"' → char ≠ '\\' → Text.isPlain char = true → QuotedForm rest text →
      QuotedForm (char :: rest) (char :: text)

def unescaped (body : List Char) : List Char :=
  body.takeWhile fun char => char ≠ '"' && char ≠ '\\'

/-- What is kept of a quoted text: in front of the first escape, only as many bytes as there are
characters. -/
def kept? (body text : List Char) : Option (List Char) :=
  if body[(unescaped body).length]? = some '\\' then
    (firstBytes (unescaped body).length text).map (· ++ text.drop (unescaped body).length)
  else some text

inductive KeyForm : List Char → List Char → Prop
  | quoted : QuotedForm body text → kept? body text = some key → KeyForm ('"' :: body) key
  | plain : key ≠ [] → (∀ char ∈ key, isKeyChar char = true) → KeyForm key key

def Blanks (chars : List Char) : Prop := ∀ char ∈ chars, isBlank char = true

/-- Characters that neither divide values nor begin like the other spellings. -/
structure Bare (chars : List Char) : Prop where
  undivided : ∀ char ∈ chars, isSeparator char = false
  solid : ∀ char ∈ chars.head?, isBlank char = false
  unlike : ∀ start ∈ ["true".toList, "false".toList, ['"'], ['\x27']], ¬ start <+: chars

mutual

/-- Spellings with an end of their own. -/
inductive ClosedForm : List Char → Value → Prop
  | yes : ClosedForm "true".toList (.boolean true)
  | no : ClosedForm "false".toList (.boolean false)
  | noEntries : ClosedForm ['{', '}'] (.table [])
  | entries : EntriesForm content entries → ClosedForm ('{' :: (content ++ ['}'])) (.table entries)
  | noItems : ClosedForm ['[', ']'] (.list [])
  | items : content ≠ [] → ItemsForm content items →
      ClosedForm ('[' :: (content ++ [']'])) (.list items)
  | quoted : QuotedForm body text → kept? body text = some content →
      ClosedForm ('"' :: body) (.text (.ofList content))
  | character : ClosedForm ['\x27', char, '\x27'] (.character char)

/-- A value with the blanks around it. -/
inductive ValueForm : List Char → Value → Prop
  | closed : Blanks front → ClosedForm chars value → Blanks back →
      ValueForm (front ++ (chars ++ back)) value
  | bare : Blanks front → Bare chars → ValueForm (front ++ chars) (bare (Text.trim chars))

/-- Values with commas between them.  A comma behind the last one adds nothing, so behind any other
comma there is something. -/
inductive ItemsForm : List Char → List Value → Prop
  | last : ValueForm front value → ItemsForm front [value]
  | trailing : ValueForm front value → ItemsForm (front ++ [',']) [value]
  | more : ValueForm front value → back ≠ [] → ItemsForm back values →
      ItemsForm (front ++ ',' :: back) (value :: values)

inductive EntryForm : List Char → String × Value → Prop
  | entry : Blanks front → KeyForm key name → Blanks middle → ValueForm content value →
      EntryForm (front ++ (key ++ (middle ++ '=' :: content))) (.ofList name, value)

/-- Entries with commas between them.  Of those with one key the last one counts. -/
inductive EntriesForm : List Char → List (String × Value) → Prop
  | last : EntryForm front entry → EntriesForm front [entry]
  | trailing : EntryForm front entry → EntriesForm (front ++ [',']) [entry]
  | more : EntryForm front entry → EntriesForm back entries →
      EntriesForm (front ++ ',' :: back)
        (if (entries.lookup entry.1).isSome then entries else putEntry entry.1 entry.2 entries)

end

/-! Quoted texts are read as they are spelled. -/

section Quoted

variable {body text chars rest : List Char}

theorem before_eq_some {char : Char} {read : Option (List Char × List Char)} :
    Text.before char read = some (text, rest) ↔
      ∃ behind, read = some (behind, rest) ∧ text = char :: behind := by
  rw [Text.before, Option.map_eq_some_iff]
  constructor
  · rintro ⟨⟨behind, left⟩, found, same⟩
    cases same
    exact ⟨behind, found, rfl⟩
  · rintro ⟨behind, found, rfl⟩
    exact ⟨_, found, rfl⟩

theorem exists_quotedForm (read : Text.quotedLine chars = some (text, rest)) :
    ∃ body, chars = body ++ rest ∧ QuotedForm body text := by
  fun_induction Text.quotedLine chars generalizing text with
  | case1 => cases read
  | case2 behind =>
      cases read
      exact ⟨['"'], rfl, .close⟩
  | case3 a b c d behind ih =>
      obtain ⟨char, coded, read⟩ := Option.bind_eq_some_iff.mp read
      obtain ⟨later, readLater, rfl⟩ := before_eq_some.mp read
      obtain ⟨body, rfl, form⟩ := ih readLater
      exact ⟨_, rfl, .short coded form⟩
  | case4 a b c d e f g h behind ih =>
      obtain ⟨char, coded, read⟩ := Option.bind_eq_some_iff.mp read
      obtain ⟨later, readLater, rfl⟩ := before_eq_some.mp read
      obtain ⟨body, rfl, form⟩ := ih readLater
      exact ⟨_, rfl, .long coded form⟩
  | case5 mark behind _ _ ih =>
      obtain ⟨char, escaped, read⟩ := Option.bind_eq_some_iff.mp read
      obtain ⟨later, readLater, rfl⟩ := before_eq_some.mp read
      obtain ⟨body, rfl, form⟩ := ih readLater
      exact ⟨_, rfl, .escape escaped form⟩
  | case6 char behind unquoted _ _ _ plain ih =>
      obtain ⟨later, readLater, rfl⟩ := before_eq_some.mp read
      obtain ⟨body, rfl, form⟩ := ih readLater
      obtain ⟨bare, plain⟩ := Bool.and_eq_true_iff.mp plain
      exact ⟨_, rfl, .plain unquoted (of_decide_eq_true bare) plain form⟩
  | case7 => cases read

theorem quotedLine_of_form (form : QuotedForm body text) (rest : List Char) :
    Text.quotedLine (body ++ rest) = some (text, rest) := by
  induction form with
  | close => rfl
  | short coded form ih =>
      simp only [List.cons_append, Text.quotedLine, coded, ih]
      rfl
  | long coded form ih =>
      simp only [List.cons_append, Text.quotedLine, coded, ih]
      rfl
  | escape escaped form ih =>
      rw [List.cons_append, List.cons_append, Text.quotedLine, escaped, ih]
      · rfl
      · rintro a b c d others rfl
        cases escaped
      · rintro a b c d e f g h others rfl
        cases escaped
  | plain unquoted bare plain form ih =>
      rw [List.cons_append, Text.quotedLine, ih, plain, decide_eq_true bare]
      · rfl
      · exact unquoted
      · exact fun _ _ _ _ _ same => absurd same bare
      · exact fun _ _ _ _ _ _ _ _ _ same => absurd same bare
      · exact fun _ _ same => absurd same bare

theorem quote_mem (form : QuotedForm body text) : '"' ∈ body := by
  induction form with
  | close => exact List.mem_singleton_self _
  | short | long | escape | plain => simp_all

theorem length_lt_of_quotedForm (form : QuotedForm body text) : text.length < body.length := by
  induction form with
  | close => decide
  | short | long | escape | plain =>
      simp only [List.length_cons]
      omega

theorem length_firstBytes_le {limit : Nat} {front : List Char}
    (sliced : firstBytes limit chars = some front) :
    front.length ≤ limit ∧ front.length ≤ chars.length := by
  induction chars generalizing limit front with
  | nil =>
      cases limit with
      | zero =>
          cases sliced
          exact ⟨Nat.le_refl 0, Nat.le_refl 0⟩
      | succ => cases sliced
  | cons char rest ih =>
      cases limit with
      | zero =>
          cases sliced
          exact ⟨Nat.le_refl 0, Nat.zero_le _⟩
      | succ limit =>
          rw [firstBytes] at sliced
          split at sliced
          next fits =>
              obtain ⟨later, behind, rfl⟩ := Option.map_eq_some_iff.mp sliced
              have size := char.utf8Size_pos
              have shorter := ih behind
              simp only [List.length_cons]
              omega
          next => cases sliced

theorem length_kept?_le {content : List Char} (found : kept? body text = some content) :
    content.length ≤ text.length := by
  rw [kept?] at found
  split at found
  · obtain ⟨front, sliced, rfl⟩ := Option.map_eq_some_iff.mp found
    have shorter := length_firstBytes_le sliced
    rw [List.length_append, List.length_drop]
    omega
  · cases found
    exact Nat.le_refl _

theorem quoted?_of_form (form : QuotedForm body text) (rest : List Char) :
    quoted? (body ++ rest) = (kept? body text).map fun content => (content, rest) := by
  have inside : (unescaped body).length < body.length := by
    have begins : unescaped body <+: body := List.takeWhile_prefix _
    refine Nat.lt_of_le_of_ne begins.length_le fun whole => ?_
    have all := List.takeWhile_eq_self_iff.mp (begins.eq_of_length whole)
    simpa using all '"' (quote_mem form)
  have same : unescaped (body ++ rest) = unescaped body :=
    List.takeWhile_append.trans (if_neg (Nat.ne_of_lt inside))
  have next : (body ++ rest)[(unescaped body).length]? = body[(unescaped body).length]? :=
    List.getElem?_append_left inside
  rw [unescaped] at same
  rw [quoted?, quotedLine_of_form form rest, Option.bind_some]
  dsimp only
  rw [same, next, kept?]
  split
  next escaped =>
      rw [if_pos escaped, Option.map_map]
      rfl
  next other =>
      rw [if_neg other]
      rfl

theorem exists_quotedForm_of_quoted? {content : List Char}
    (read : quoted? chars = some (content, rest)) :
    ∃ body text, chars = body ++ rest ∧ QuotedForm body text ∧ kept? body text = some content := by
  obtain ⟨⟨text, left⟩, line, _⟩ := Option.bind_eq_some_iff.mp read
  obtain ⟨body, rfl, form⟩ := exists_quotedForm line
  rw [quoted?_of_form form] at read
  obtain ⟨_, found, same⟩ := Option.map_eq_some_iff.mp read
  cases same
  exact ⟨body, text, rfl, form, found⟩

end Quoted

/-! What is read is spelled so. -/

section Read

variable {fuel : Nat} {chars rest : List Char}

theorem blanks_nil : Blanks [] := fun _ absent => (List.not_mem_nil absent).elim

theorem exists_blanks (chars : List Char) :
    ∃ blanks, chars = blanks ++ skipBlanks chars ∧ Blanks blanks :=
  ⟨chars.takeWhile isBlank, List.takeWhile_append_dropWhile.symm,
    fun _ member => List.mem_takeWhile_imp member⟩

theorem solid_skipBlanks (chars : List Char) :
    ∀ char ∈ (skipBlanks chars).head?, isBlank char = false := by
  intro char first
  have solid := List.head?_dropWhile_not isBlank chars
  rw [skipBlanks] at first
  rw [Option.mem_def.mp first] at solid
  simpa using solid

theorem exists_keyForm {name : String} (read : key? chars = some (name, rest)) :
    ∃ key spelled, chars = key ++ rest ∧ KeyForm key spelled ∧ name = .ofList spelled := by
  obtain ⟨⟨spelled, left⟩, found, same⟩ := Option.map_eq_some_iff.mp read
  cases same
  split at found
  next behind =>
      obtain ⟨body, text, rfl, form, content⟩ := exists_quotedForm_of_quoted? found
      exact ⟨'"' :: body, _, rfl, .quoted form content, rfl⟩
  next =>
      split at found
      next => cases found
      next nonempty =>
          cases found
          exact ⟨_, _, List.takeWhile_append_dropWhile.symm, .plain (fun empty => nonempty empty)
            fun _ member => List.mem_takeWhile_imp member, rfl⟩

/-- What a reader finds is spelled so, in front of what it leaves. -/
structure Finds (fuel : Nat) : Prop where
  value : ∀ chars value rest, value? fuel chars = some (value, rest) →
    ∃ front, chars = front ++ rest ∧ ValueForm front value
  items : ∀ chars items rest, items? fuel chars = some (items, rest) →
    ∃ front, chars = front ++ ']' :: rest ∧ ItemsForm front items
  entries : ∀ chars entries rest, pairs? fuel chars = some (entries, rest) →
    ∃ front, chars = front ++ '}' :: rest ∧ EntriesForm front entries

theorem exists_closed {spelled left : List Char} {value : Value}
    (begins : skipBlanks chars = spelled ++ left) (form : ClosedForm spelled value) :
    ∃ front, chars = front ++ skipBlanks left ∧ ValueForm front value := by
  obtain ⟨before, whole, blankBefore⟩ := exists_blanks chars
  obtain ⟨behind, same, blankBehind⟩ := exists_blanks left
  refine ⟨before ++ (spelled ++ behind), ?_, .closed blankBefore form blankBehind⟩
  rw [List.append_assoc, List.append_assoc, ← same, ← begins]
  exact whole

theorem head?_of_begins {whole : List Char} {char : Char} (begins : chars <+: whole)
    (first : char ∈ chars.head?) : char ∈ whole.head? := by
  obtain ⟨behind, rfl⟩ := begins
  cases chars with
  | nil => cases first
  | cons => exact first

theorem exists_bare
    (unlike : ∀ start ∈ ["true".toList, "false".toList, ['"'], ['\x27']],
      ¬ start <+: skipBlanks chars) :
    ∃ front, chars = front ++ (skipBlanks chars).dropWhile (!isSeparator ·) ∧
      ValueForm front (bare (Text.trim ((skipBlanks chars).takeWhile (!isSeparator ·)))) := by
  obtain ⟨before, whole, blankBefore⟩ := exists_blanks chars
  refine ⟨before ++ (skipBlanks chars).takeWhile (!isSeparator ·), ?_, .bare blankBefore ?_⟩
  · rw [List.append_assoc, List.takeWhile_append_dropWhile]
    exact whole
  have begins : (skipBlanks chars).takeWhile (!isSeparator ·) <+: skipBlanks chars :=
    List.takeWhile_prefix _
  refine ⟨fun char member => ?_, fun char first => ?_, fun start listed other => ?_⟩
  · simpa using List.mem_takeWhile_imp member
  · exact solid_skipBlanks chars char (head?_of_begins begins first)
  · exact unlike start listed (other.trans begins)

/-- Separators are no blanks. -/
theorem skipBlanks_dropWhile (chars : List Char) :
    skipBlanks (chars.dropWhile (!isSeparator ·)) = chars.dropWhile (!isSeparator ·) := by
  have ends := List.head?_dropWhile_not (!isSeparator ·) chars
  cases left : chars.dropWhile (!isSeparator ·) with
  | nil => rfl
  | cons char behind =>
      rw [left] at ends
      refine List.dropWhile_cons_of_neg fun blank => ?_
      simp [isBlank] at blank
      rcases blank with (((rfl | rfl) | rfl) | rfl) | rfl <;> simp [isSeparator] at ends

theorem Finds.value_succ (finds : Finds fuel) {value : Value}
    (read : value? (fuel + 1) chars = some (value, rest)) :
    ∃ front, chars = front ++ rest ∧ ValueForm front value := by
  rw [value?] at read
  obtain ⟨⟨found, left⟩, first, same⟩ := Option.map_eq_some_iff.mp read
  cases same
  -- By how the text begins, in the order in which the reader looks at it.
  split at first
  next begins =>
      cases first
      exact exists_closed begins .yes
  next begins =>
      cases first
      exact exists_closed begins .no
  next begins =>
      cases first
      exact exists_closed begins .noEntries
  next behind _ begins =>
      obtain ⟨⟨entries, later⟩, inside, same⟩ := Option.map_eq_some_iff.mp first
      cases same
      obtain ⟨content, rfl, form⟩ := finds.entries _ _ _ inside
      refine exists_closed ?_ (.entries form)
      rw [begins, List.cons_append, List.append_assoc]
      rfl
  next begins =>
      cases first
      exact exists_closed begins .noItems
  next behind open' begins =>
      obtain ⟨⟨items, later⟩, inside, same⟩ := Option.map_eq_some_iff.mp first
      cases same
      obtain ⟨content, rfl, form⟩ := finds.items _ _ _ inside
      refine exists_closed ?_ (.items (fun empty => ?_) form)
      · rw [begins, List.cons_append, List.append_assoc]
        rfl
      · exact open' _ (by rw [empty]; rfl)
  next behind begins =>
      obtain ⟨⟨content, later⟩, inside, same⟩ := Option.map_eq_some_iff.mp first
      cases same
      obtain ⟨body, text, rfl, form, found⟩ := exists_quotedForm_of_quoted? inside
      exact exists_closed begins (.quoted form found)
  next begins =>
      cases first
      exact exists_closed begins .character
  next => cases first
  next untrue unfalse _ _ _ _ unquoted _ unmarked =>
      cases first
      rw [skipBlanks_dropWhile]
      refine exists_bare fun start listed other => ?_
      obtain ⟨behind, same⟩ := other
      simp only [List.mem_cons, List.not_mem_nil, or_false] at listed
      rcases listed with rfl | rfl | rfl | rfl
      · exact untrue behind same.symm
      · exact unfalse behind same.symm
      · exact unquoted behind same.symm
      · exact unmarked behind same.symm

theorem Finds.items_succ (finds : Finds fuel) {items : List Value}
    (read : items? (fuel + 1) chars = some (items, rest)) :
    ∃ front, chars = front ++ ']' :: rest ∧ ItemsForm front items := by
  rw [items?] at read
  obtain ⟨⟨value, left⟩, first, later⟩ := Option.bind_eq_some_iff.mp read
  obtain ⟨front, rfl, form⟩ := finds.value _ _ _ first
  dsimp only at later
  split at later
  next =>
      cases later
      exact ⟨front ++ [','], by simp, .trailing form⟩
  next behind closed =>
      obtain ⟨⟨values, others⟩, more, same⟩ := Option.map_eq_some_iff.mp later
      cases same
      obtain ⟨back, rfl, forms⟩ := finds.items _ _ _ more
      refine ⟨front ++ ',' :: back, by simp, .more form (fun empty => ?_) forms⟩
      exact closed _ (by rw [empty]; rfl)
  next =>
      cases later
      exact ⟨front, rfl, .last form⟩
  next => cases later

theorem Finds.entries_succ (finds : Finds fuel) {entries : List (String × Value)}
    (read : pairs? (fuel + 1) chars = some (entries, rest)) :
    ∃ front, chars = front ++ '}' :: rest ∧ EntriesForm front entries := by
  rw [pairs?] at read
  obtain ⟨⟨name, left⟩, named, given⟩ := Option.bind_eq_some_iff.mp read
  obtain ⟨before, whole, blankBefore⟩ := exists_blanks chars
  obtain ⟨key, spelled, keyed, keyForm, rfl⟩ := exists_keyForm named
  obtain ⟨middle, same, blankMiddle⟩ := exists_blanks left
  dsimp only at given
  split at given
  next behind equals =>
      obtain ⟨⟨value, later⟩, first, taken⟩ := Option.bind_eq_some_iff.mp given
      obtain ⟨content, rfl, form⟩ := finds.value _ _ _ first
      have entry := EntryForm.entry blankBefore keyForm blankMiddle form
      have chars_eq : chars = before ++ (key ++ (middle ++ '=' :: content)) ++ later := by
        rw [whole, keyed, same, equals]
        simp
      rw [chars_eq]
      dsimp only at taken
      split at taken
      next =>
          cases taken
          exact ⟨_, by simp, .trailing entry⟩
      next =>
          obtain ⟨⟨others, last⟩, more, same⟩ := Option.map_eq_some_iff.mp taken
          cases same
          obtain ⟨back, rfl, forms⟩ := finds.entries _ _ _ more
          exact ⟨_, by simp, .more entry forms⟩
      next =>
          cases taken
          exact ⟨_, rfl, .last entry⟩
      next => cases taken
  next => cases given

theorem finds (fuel : Nat) : Finds fuel := by
  -- Each of the three readers calls the others with less fuel.
  induction fuel with
  | zero =>
      refine ⟨fun _ _ _ read => ?_, fun _ _ _ read => ?_, fun _ _ _ read => ?_⟩
      · rw [value?] at read
        cases read
      · rw [items?] at read
        cases read
      · rw [pairs?] at read
        cases read
  | succ fuel ih =>
      exact ⟨fun _ _ _ => ih.value_succ, fun _ _ _ => ih.items_succ, fun _ _ _ => ih.entries_succ⟩

end Read

end Chaincode.Settings.Inline
