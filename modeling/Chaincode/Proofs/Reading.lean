import Chaincode.Proofs.Spelling

namespace Chaincode.Settings.Inline

/-! What is spelled is read so.

Readers find what the grammar says, whatever they stop at stands behind it.  So a text
stands for the value that it spells, and a text that spells none for itself.  Main
statements: `parse_of_form`, `parse_of_no_form`.
-/

section Spelled

variable {fuel : Nat} {front key spelled rest : List Char} {value : Value}

/-- A text with nothing of a value at its front. -/
def Stops (rest : List Char) : Prop := ∀ char ∈ rest.head?, char ∈ [',', ']', '}']

theorem takeWhile_append_of_stop {taken : Char → Bool} (all : ∀ char ∈ front, taken char = true)
    (stop : ∀ char ∈ rest.head?, taken char = false) : (front ++ rest).takeWhile taken = front := by
  rw [List.takeWhile_append_of_pos all]
  cases rest with
  | nil => exact List.append_nil front
  | cons char behind =>
      rw [List.takeWhile_cons_of_neg (ne_true_of_eq_false (stop char rfl)), List.append_nil]

theorem dropWhile_append_of_stop {taken : Char → Bool} (all : ∀ char ∈ front, taken char = true)
    (stop : ∀ char ∈ rest.head?, taken char = false) : (front ++ rest).dropWhile taken = rest := by
  rw [List.dropWhile_append_of_pos all]
  cases rest with
  | nil => rfl
  | cons char behind => exact List.dropWhile_cons_of_neg (ne_true_of_eq_false (stop char rfl))

theorem not_stop_of_blank {char : Char} (blank : isBlank char = true) :
    char ∉ [',', ']', '}'] := by
  intro stop
  simp only [List.mem_cons, List.not_mem_nil, or_false] at stop
  rcases stop with rfl | rfl | rfl <;> cases blank

theorem isSeparator_of_stop {char : Char} (stop : char ∈ [',', ']', '}']) :
    isSeparator char = true := by
  simp only [List.mem_cons, List.not_mem_nil, or_false] at stop
  rcases stop with rfl | rfl | rfl <;> rfl

theorem Stops.solid (stops : Stops rest) : ∀ char ∈ rest.head?, isBlank char = false :=
  fun char first => Bool.eq_false_iff.mpr fun blank => not_stop_of_blank blank (stops char first)

theorem Stops.separates (stops : Stops rest) :
    ∀ char ∈ rest.head?, (!isSeparator char) = false :=
  fun char first => by rw [isSeparator_of_stop (stops char first)]; rfl

theorem not_blank_of_isKeyChar {char : Char} (plain : isKeyChar char = true) :
    isBlank char = false := by
  refine Bool.eq_false_iff.mpr fun blank => ?_
  simp [isBlank] at blank
  rcases blank with (((rfl | rfl) | rfl) | rfl) | rfl <;> cases plain

theorem not_isKeyChar_of_blank {char : Char} (blank : isBlank char = true) :
    isKeyChar char = false := by
  refine Bool.eq_false_iff.mpr fun plain => ?_
  rw [not_blank_of_isKeyChar plain] at blank
  cases blank

/-- A key begins with a quote or with a character for keys. -/
theorem exists_head_of_keyForm (form : KeyForm key spelled) :
    ∃ char behind, key = char :: behind ∧ (char = '"' ∨ isKeyChar char = true) := by
  cases form with
  | quoted => exact ⟨_, _, rfl, .inl rfl⟩
  | plain nonempty plain =>
      obtain ⟨char, behind, rfl⟩ := List.exists_cons_of_ne_nil nonempty
      exact ⟨char, behind, rfl, .inr (plain char List.mem_cons_self)⟩

theorem key?_of_form (form : KeyForm key spelled)
    (ends : ∀ char ∈ rest.head?, isKeyChar char = false) :
    key? (key ++ rest) = some (.ofList spelled, rest) := by
  cases form with
  | quoted form found =>
      rw [List.cons_append, key?]
      dsimp only
      rw [quoted?_of_form form, found, Option.map_some, Option.map_some]
  | plain nonempty plain =>
      have taken := takeWhile_append_of_stop plain ends
      have left := dropWhile_append_of_stop plain ends
      obtain ⟨char, behind, rfl⟩ := List.exists_cons_of_ne_nil nonempty
      rw [List.cons_append] at taken left ⊢
      rw [key?, taken, left]
      · rfl
      intro others same
      obtain ⟨rfl, -⟩ := List.cons.inj same
      cases plain '"' List.mem_cons_self

theorem skipBlanks_append (blank : Blanks front)
    (solid : ∀ char ∈ rest.head?, isBlank char = false) : skipBlanks (front ++ rest) = rest :=
  dropWhile_append_of_stop blank solid

theorem blank_or_head {chars : List Char} {char : Char} (blank : Blanks front)
    (first : char ∈ (front ++ chars).head?) : isBlank char = true ∨ char ∈ chars.head? := by
  cases front with
  | nil => exact .inr first
  | cons _ _ =>
      cases first
      exact .inl (blank char List.mem_cons_self)

theorem exists_head_of_closedForm {chars : List Char} (form : ClosedForm chars value) :
    ∃ char behind, chars = char :: behind ∧ isBlank char = false ∧ char ∉ [',', ']', '}'] := by
  cases form with
  | yes | no | noEntries | entries | noItems | items | quoted | character =>
      exact ⟨_, _, rfl, by decide, by decide⟩

/-- What a reader stops at begins no value. -/
theorem head_of_valueForm (form : ValueForm front value) :
    ∀ char ∈ front.head?, char ∉ [',', ']', '}'] := by
  intro char first
  cases form with
  | closed blank closed _ =>
      obtain ⟨start, _, rfl, _, other⟩ := exists_head_of_closedForm closed
      rcases blank_or_head blank first with blank | same
      · exact not_stop_of_blank blank
      · cases same
        exact other
  | bare blank chars =>
      rcases blank_or_head blank first with blank | same
      · exact not_stop_of_blank blank
      · intro stop
        have undivided := chars.undivided char (List.mem_of_mem_head? same)
        rw [isSeparator_of_stop stop] at undivided
        cases undivided

theorem head_of_itemsForm {items : List Value} (form : ItemsForm front items)
    (nonempty : front ≠ []) : ∀ char ∈ front.head?, char ≠ ']' := by
  rintro char first rfl
  cases form with
  | last form => exact head_of_valueForm form _ first (by decide)
  | @trailing content _ form =>
      cases content with
      | nil => cases first
      | cons _ _ => exact head_of_valueForm form _ first (by decide)
  | @more content _ _ _ form =>
      cases content with
      | nil => cases first
      | cons _ _ => exact head_of_valueForm form _ first (by decide)

theorem head_of_entryForm {entry : String × Value} (form : EntryForm front entry) :
    ∃ char behind, front = char :: behind ∧ char ≠ '}' := by
  cases form with
  | @entry before _ _ _ _ _ blank keyForm _ form =>
    obtain ⟨start, behind, rfl, begins⟩ := exists_head_of_keyForm keyForm
    cases before with
    | nil =>
        refine ⟨start, _, rfl, ?_⟩
        rintro rfl
        rcases begins with same | plain
        · cases same
        · cases plain
    | cons char _ =>
        refine ⟨char, _, rfl, ?_⟩
        rintro rfl
        cases blank '}' List.mem_cons_self

theorem head_of_entriesForm {entries : List (String × Value)} (form : EntriesForm front entries) :
    ∃ char behind, front = char :: behind ∧ char ≠ '}' := by
  cases form with
  | last form => exact head_of_entryForm form
  | trailing form =>
      obtain ⟨char, behind, rfl, other⟩ := head_of_entryForm form
      exact ⟨char, _, rfl, other⟩
  | more form =>
      obtain ⟨char, behind, rfl, other⟩ := head_of_entryForm form
      exact ⟨char, _, rfl, other⟩

theorem value?_of_brace (begins : skipBlanks front = '{' :: rest) (inside : '}' ∉ rest.head?) :
    value? (fuel + 1) front =
      (pairs? fuel rest).map fun found => (.table found.1, skipBlanks found.2) := by
  rw [value?, begins]
  split <;> simp_all
  rfl

theorem value?_of_bracket (begins : skipBlanks front = '[' :: rest) (inside : ']' ∉ rest.head?) :
    value? (fuel + 1) front =
      (items? fuel rest).map fun found => (.list found.1, skipBlanks found.2) := by
  rw [value?, begins]
  split <;> simp_all
  rfl

/-- What is spelled is read so, in front of anything that a reader stops at. -/
structure Takes (fuel : Nat) : Prop where
  value : ∀ front value rest, ValueForm front value → 2 * front.length < fuel → Stops rest →
    value? fuel (front ++ rest) = some (value, rest)
  items : ∀ front items rest, ItemsForm front items → 2 * front.length + 1 < fuel →
    items? fuel (front ++ ']' :: rest) = some (items, rest)
  entries : ∀ front entries rest, EntriesForm front entries → 2 * front.length + 1 < fuel →
    pairs? fuel (front ++ '}' :: rest) = some (entries, rest)

theorem Takes.closed (takes : Takes fuel) {chars : List Char} (form : ClosedForm chars value)
    (begins : skipBlanks front = chars ++ rest) (enough : 2 * chars.length < fuel + 1) :
    value? (fuel + 1) front = some (value, skipBlanks rest) := by
  cases form with
  | yes | no | noEntries | noItems | character =>
      rw [value?, begins]
      rfl
  | entries form =>
      have read := takes.entries _ _ rest form (by simp at enough; omega)
      obtain ⟨char, behind, rfl, open'⟩ := head_of_entriesForm form
      rw [List.cons_append, List.append_assoc] at begins
      rw [value?_of_brace begins fun closes => open' (Option.some.inj closes)]
      rw [List.singleton_append, read]
      rfl
  | items nonempty form =>
      have read := takes.items _ _ rest form (by simp at enough; omega)
      have inside := head_of_itemsForm form nonempty
      obtain ⟨char, behind, rfl⟩ := List.exists_cons_of_ne_nil nonempty
      rw [List.cons_append, List.append_assoc] at begins
      rw [value?_of_bracket begins fun closes => inside char rfl (Option.some.inj closes)]
      rw [List.singleton_append, read]
      rfl
  | quoted form found =>
      rw [value?, begins]
      change ((quoted? (_ ++ rest)).map _).map _ = _
      rw [quoted?_of_form form, found]
      rfl

theorem Bare.taken {chars : List Char} (bare : Bare chars) :
    ∀ char ∈ chars, (!isSeparator char) = true :=
  fun char member => by rw [bare.undivided char member]; rfl

/-- What stands behind a bare value does not make it like another one. -/
theorem Bare.unlike_append {chars : List Char} (bare : Bare chars) (stops : Stops rest) :
    ∀ start ∈ ["true".toList, "false".toList, ['"'], ['\x27']], ¬ start <+: chars ++ rest := by
  intro start listed begins
  have united : ∀ char ∈ start, (!isSeparator char) = true := by
    simp only [List.mem_cons, List.not_mem_nil, or_false] at listed
    rcases listed with rfl | rfl | rfl | rfl <;> exact List.all_eq_true.mp rfl
  obtain ⟨behind, same⟩ := begins
  replace same := congrArg (List.takeWhile (!isSeparator ·)) same
  rw [List.takeWhile_append_of_pos united,
    takeWhile_append_of_stop bare.taken stops.separates] at same
  exact bare.unlike start listed ⟨_, same⟩

theorem value?_of_bare {chars : List Char} (bare : Bare chars)
    (begins : skipBlanks front = chars ++ rest) (stops : Stops rest) :
    value? (fuel + 1) front = some (Inline.bare (Text.trim chars), rest) := by
  have unlike : ∀ start ∈ ["true".toList, "false".toList, ['"'], ['\x27']], ∀ behind,
      chars ++ rest ≠ start ++ behind :=
    fun start listed behind same => bare.unlike_append stops start listed ⟨behind, same.symm⟩
  have closed : ∀ char ∈ (chars ++ rest).head?, char ∉ ['{', '['] := by
    intro char first opens
    have solid : isSeparator char = true ∧ char ∉ [',', ']', '}'] := by
      simp only [List.mem_cons, List.not_mem_nil, or_false] at opens
      rcases opens with rfl | rfl <;> exact ⟨rfl, by decide⟩
    cases chars with
    | nil => exact solid.2 (stops char first)
    | cons => exact absurd solid.1 (by simp [bare.undivided char (by simp_all)])
  rw [value?, begins]
  split
  next same => exact absurd same (unlike "true".toList (by simp) _)
  next same => exact absurd same (unlike "false".toList (by simp) _)
  next same => exact absurd (by simp) (closed '{' (by rw [same]; rfl))
  next same => exact absurd (by simp) (closed '{' (by rw [same]; rfl))
  next same => exact absurd (by simp) (closed '[' (by rw [same]; rfl))
  next same => exact absurd (by simp) (closed '[' (by rw [same]; rfl))
  next same => exact absurd same (unlike ['"'] (by simp) _)
  next same => exact absurd same (unlike ['\x27'] (by simp) _)
  next same => exact absurd same (unlike ['\x27'] (by simp) _)
  next =>
      have behind := takeWhile_append_of_stop bare.taken stops.separates
      have left := dropWhile_append_of_stop bare.taken stops.separates
      rw [behind, left, Option.map_some]
      dsimp only
      rw [show skipBlanks rest = rest from skipBlanks_append blanks_nil stops.solid]

theorem Takes.value_succ (takes : Takes fuel) (form : ValueForm front value)
    (enough : 2 * front.length < fuel + 1) (stops : Stops rest) :
    value? (fuel + 1) (front ++ rest) = some (value, rest) := by
  cases form with
  | @closed before chars _ behind blankBefore form blankBehind =>
      obtain ⟨start, others, rfl, solid, _⟩ := exists_head_of_closedForm form
      have begins : skipBlanks (before ++ (start :: others ++ (behind ++ rest))) =
          start :: others ++ (behind ++ rest) :=
        skipBlanks_append blankBefore fun char first => Option.some.inj first ▸ solid
      rw [List.append_assoc, List.append_assoc]
      rw [takes.closed form begins (by simp at enough ⊢; omega)]
      rw [skipBlanks_append blankBehind stops.solid]
  | @bare before chars blankBefore bare =>
      have solid : ∀ char ∈ (chars ++ rest).head?, isBlank char = false := by
        cases chars with
        | nil => exact stops.solid
        | cons => exact bare.solid
      rw [List.append_assoc]
      exact value?_of_bare bare (skipBlanks_append blankBefore solid) stops

theorem Takes.items_succ (takes : Takes fuel) {items : List Value} (form : ItemsForm front items)
    (enough : 2 * front.length + 1 < fuel + 1) :
    items? (fuel + 1) (front ++ ']' :: rest) = some (items, rest) := by
  rw [items?]
  cases form with
  | last form =>
      rw [takes.value _ _ (']' :: rest) form (by omega) (by simp [Stops])]
      rfl
  | trailing form =>
      rw [List.append_assoc, List.singleton_append]
      rw [takes.value _ _ (',' :: ']' :: rest) form (by simp at enough; omega) (by simp [Stops])]
      rfl
  | more form nonempty forms =>
      have inside := head_of_itemsForm forms nonempty
      have read := takes.items _ _ rest forms (by simp at enough; omega)
      obtain ⟨char, behind, rfl⟩ := List.exists_cons_of_ne_nil nonempty
      rw [List.append_assoc, List.cons_append]
      rw [takes.value _ _ _ form (by simp at enough; omega) (by simp [Stops]), Option.bind_some]
      dsimp only
      split
      next same =>
          obtain ⟨rfl, -⟩ := List.cons.inj (List.cons.inj same).2
          exact absurd rfl (inside _ rfl)
      next same =>
          obtain ⟨-, rfl⟩ := List.cons.inj same
          rw [read]
          rfl
      next same => cases same
      next other _ => exact absurd rfl (other _)

/-- One entry is read, and then what may stand behind it. -/
theorem Takes.entry (takes : Takes fuel) {entry : String × Value} (form : EntryForm front entry)
    (enough : 2 * front.length < fuel + 1) :
    Stops rest → pairs? (fuel + 1) (front ++ rest) =
      match rest with
      | ',' :: '}' :: rest => some ([entry], rest)
      | ',' :: rest => (pairs? fuel rest).map fun (entries, rest) =>
          (if (entries.lookup entry.1).isSome then entries else putEntry entry.1 entry.2 entries,
            rest)
      | '}' :: rest => some ([entry], rest)
      | _ => none := by
  cases form with
  | @entry before key _ middle content value blankBefore keyForm blankMiddle form =>
      intro stops
      have begins : ∀ char ∈ (key ++ (middle ++ '=' :: (content ++ rest))).head?,
          isBlank char = false := by
        obtain ⟨char, behind, rfl, starts⟩ := exists_head_of_keyForm keyForm
        rintro _ ⟨⟩
        rcases starts with rfl | plain
        · rfl
        · exact not_blank_of_isKeyChar plain
      have ends : ∀ char ∈ (middle ++ '=' :: (content ++ rest)).head?,
          isKeyChar char = false := by
        intro char first
        rcases blank_or_head blankMiddle first with blank | same
        · exact not_isKeyChar_of_blank blank
        · cases same
          rfl
      have equals : ∀ char ∈ ('=' :: (content ++ rest)).head?, isBlank char = false := by
        rintro _ ⟨⟩
        rfl
      simp only [List.append_assoc, List.cons_append]
      rw [pairs?, skipBlanks_append blankBefore begins, key?_of_form keyForm ends, Option.bind_some]
      dsimp only
      rw [skipBlanks_append blankMiddle equals]
      change (value? fuel (content ++ rest)).bind _ = _
      rw [takes.value _ _ rest form (by simp at enough; omega) stops]
      rfl

theorem Takes.entries_succ (takes : Takes fuel) {entries : List (String × Value)}
    (form : EntriesForm front entries) (enough : 2 * front.length + 1 < fuel + 1) :
    pairs? (fuel + 1) (front ++ '}' :: rest) = some (entries, rest) := by
  cases form with
  | last form => exact takes.entry form (by omega) (by simp [Stops])
  | trailing form =>
      rw [List.append_assoc, List.singleton_append]
      exact takes.entry form (by simp at enough; omega) (by simp [Stops])
  | more form forms =>
      have read := takes.entries _ _ rest forms (by simp at enough; omega)
      obtain ⟨char, behind, rfl, open'⟩ := head_of_entriesForm forms
      rw [List.append_assoc, List.cons_append]
      rw [takes.entry form (by simp at enough; omega) (by simp [Stops])]
      split
      next same =>
          obtain ⟨rfl, -⟩ := List.cons.inj (List.cons.inj same).2
          exact absurd rfl open'
      next same =>
          obtain ⟨-, rfl⟩ := List.cons.inj same
          rw [read]
          rfl
      next same => cases same
      next other _ => exact absurd rfl (other _)

theorem takes (fuel : Nat) : Takes fuel := by
  induction fuel with
  | zero => exact ⟨by omega, by omega, by omega⟩
  | succ fuel ih =>
      exact ⟨fun _ _ _ => ih.value_succ, fun _ _ _ => ih.items_succ, fun _ _ _ => ih.entries_succ⟩

end Spelled

/-- A text that spells a value stands for it. -/
theorem parse_of_form {text : String} {value : Value} (form : ValueForm text.toList value) :
    parse text = value := by
  have read := (takes (2 * text.toList.length + 2)).value _ _ [] form (by omega) (by simp [Stops])
  rw [List.append_nil] at read
  rw [parse, read]

/-- A text that spells none stands for itself. -/
theorem parse_of_no_form {text : String} (none : ∀ value, ¬ ValueForm text.toList value) :
    parse text = .text text := by
  rw [parse]
  split
  next value read =>
      obtain ⟨front, same, form⟩ := (finds _).value _ _ _ read
      rw [List.append_nil] at same
      exact absurd (same ▸ form) (none value)
  next => rfl

theorem parse_cases (text : String) : ValueForm text.toList (parse text) ∨
    (∀ value, ¬ ValueForm text.toList value) ∧ parse text = .text text := by
  by_cases spelled : ∃ value, ValueForm text.toList value
  · obtain ⟨value, form⟩ := spelled
    exact .inl (parse_of_form form ▸ form)
  · have unspelled := not_exists.mp spelled
    exact .inr ⟨unspelled, parse_of_no_form unspelled⟩

end Chaincode.Settings.Inline
