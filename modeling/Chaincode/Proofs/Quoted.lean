import Chaincode.Text.Quoted

namespace Chaincode.Text

/-! Quoted texts and lists of them, told apart.

What stands for one character is never the beginning of what stands for another, so
a quoted text can be read off from its front.  A list of quoted texts can also be
found from its end: nothing shorter at the end of it is a list.
-/

theorem hexDigits_eq (number : Nat) :
    hexDigits number = if number < 16 then [number.digitChar]
      else hexDigits (number / 16) ++ [(number % 16).digitChar] :=
  Nat.toDigits_eq_if (by decide)

theorem hexDigits_ne_nil (number : Nat) : hexDigits number ≠ [] := by
  rw [hexDigits_eq]
  split <;> simp

theorem hexDigits_append_ne_singleton (number : Nat) (last single : Char) :
    hexDigits number ++ [last] ≠ [single] := by
  intro same
  have longer := congrArg List.length same
  have some := List.length_pos_iff.mpr (hexDigits_ne_nil number)
  simp only [List.length_append, List.length_cons, List.length_nil] at longer
  omega

theorem digitChar_inj : ∀ first < 16, ∀ second < 16,
    Nat.digitChar first = Nat.digitChar second → first = second := by
  decide

theorem hexDigits_inj {first second : Nat} (same : hexDigits first = hexDigits second) :
    first = second := by
  induction first using Nat.strongRecOn generalizing second with
  | ind first ih =>
      rw [hexDigits_eq first, hexDigits_eq second] at same
      split at same
      next small =>
          split at same
          next below => exact digitChar_inj first small second below (List.singleton_inj.mp same)
          next => exact absurd same.symm (hexDigits_append_ne_singleton _ _ _)
      next large =>
          split at same
          next => exact absurd same (hexDigits_append_ne_singleton _ _ _)
          next =>
              obtain ⟨front, last⟩ := List.append_inj' same rfl
              have quotient := ih (first / 16) (by omega) front
              have remainder := digitChar_inj _ (Nat.mod_lt _ (by decide)) _
                (Nat.mod_lt _ (by decide)) (List.singleton_inj.mp last)
              omega

theorem mem_hexDigits {number : Nat} {char : Char} (member : char ∈ hexDigits number) :
    ∃ digit < 16, char = Nat.digitChar digit := by
  induction number using Nat.strongRecOn with
  | ind number ih =>
      rw [hexDigits_eq] at member
      split at member
      next small => exact ⟨number, small, List.mem_singleton.mp member⟩
      next large =>
          rcases List.mem_append.mp member with earlier | last
          · exact ih (number / 16) (by omega) earlier
          · exact ⟨number % 16, Nat.mod_lt _ (by decide), List.mem_singleton.mp last⟩

theorem digitChar_ne_mark :
    ∀ digit < 16, Nat.digitChar digit ≠ '}' ∧ Nat.digitChar digit ≠ '[' := by
  decide

theorem brace_not_mem_hexDigits (number : Nat) : '}' ∉ hexDigits number := by
  intro member
  obtain ⟨digit, small, equal⟩ := mem_hexDigits member
  exact (digitChar_ne_mark digit small).1 equal.symm

theorem bracket_not_mem_hexDigits (number : Nat) : '[' ∉ hexDigits number := by
  intro member
  obtain ⟨digit, small, equal⟩ := mem_hexDigits member
  exact (digitChar_ne_mark digit small).2 equal.symm

/-- The characters with an escape of their own, and the character behind its backslash. -/
def namedEscapes : List (Char × Char) :=
  [('"', '"'), ('\\', '\\'), ('\n', 'n'), ('\r', 'r'), ('\t', 't'), ('\x00', '0')]

/-- The ways in which a character stands between quotes. -/
inductive QuotedForm : Char → List Char → Prop
  | named : (char, letter) ∈ namedEscapes → QuotedForm char ['\\', letter]
  | plain : char ≠ '"' → char ≠ '\\' → QuotedForm char [char]
  | codePoint : QuotedForm char (codePointEscape char)

theorem quotedChar_form (char : Char) : QuotedForm char (quotedChar char) := by
  unfold quotedChar
  split
  next same => exact .named (by simp [same, namedEscapes])
  next noQuote =>
  split
  next same => exact .named (by simp [same, namedEscapes])
  next noBackslash =>
  split
  next same => exact .named (by simp [same, namedEscapes])
  split
  next same => exact .named (by simp [same, namedEscapes])
  split
  next same => exact .named (by simp [same, namedEscapes])
  split
  next same => exact .named (by simp [same, namedEscapes])
  split
  · exact .plain noQuote noBackslash
  · exact .codePoint

theorem namedEscapes_inj : ∀ first ∈ namedEscapes, ∀ second ∈ namedEscapes,
    first.2 = second.2 → first = second := by
  decide

theorem namedEscapes_ne_u : ∀ escape ∈ namedEscapes, escape.2 ≠ 'u' := by
  decide

theorem cut_inj {mark : α} {front back left right : List α}
    (same : front ++ mark :: left = back ++ mark :: right) (first : mark ∉ front)
    (second : mark ∉ back) : front = back ∧ left = right := by
  induction front generalizing back with
  | nil =>
      cases back with
      | nil => exact ⟨rfl, (List.cons.inj same).2⟩
      | cons other back => exact absurd (List.cons.inj same).1 (List.ne_of_not_mem_cons second)
  | cons other front ih =>
      cases back with
      | nil => exact absurd (List.cons.inj same).1.symm (List.ne_of_not_mem_cons first)
      | cons another back =>
          obtain ⟨rfl, later⟩ := List.cons.inj same
          obtain ⟨rfl, rest⟩ :=
            ih later (List.not_mem_of_not_mem_cons first) (List.not_mem_of_not_mem_cons second)
          exact ⟨rfl, rest⟩

/-- What stands for a character can be cut off from what follows it in one way only. -/
theorem quotedChar_cancel {first second : Char} {left right : List Char}
    (same : quotedChar first ++ left = quotedChar second ++ right) :
    first = second ∧ left = right := by
  have firstForm := quotedChar_form first
  have secondForm := quotedChar_form second
  generalize quotedChar first = front at *
  generalize quotedChar second = other at *
  cases firstForm with
  | named escape =>
      cases secondForm with
      | named escape' =>
          simp only [List.cons_append, List.nil_append, List.cons.injEq, true_and] at same
          have equal := namedEscapes_inj _ escape _ escape' same.1
          exact ⟨congrArg Prod.fst equal, same.2⟩
      | plain _ noBackslash =>
          exact absurd (List.cons.inj same).1.symm noBackslash
      | codePoint =>
          simp only [codePointEscape, List.cons_append, List.nil_append, List.cons.injEq,
            true_and] at same
          exact absurd same.1 (namedEscapes_ne_u _ escape)
  | plain _ noBackslash =>
      cases secondForm with
      | named => exact absurd (List.cons.inj same).1 noBackslash
      | plain => exact List.cons.inj same
      | codePoint => exact absurd (List.cons.inj same).1 noBackslash
  | codePoint =>
      cases secondForm with
      | named escape =>
          simp only [codePointEscape, List.cons_append, List.nil_append, List.cons.injEq,
            true_and] at same
          exact absurd same.1.symm (namedEscapes_ne_u _ escape)
      | plain _ noBackslash => exact absurd (List.cons.inj same).1.symm noBackslash
      | codePoint =>
          simp only [codePointEscape, List.cons_append, List.append_assoc, List.nil_append,
            List.cons.injEq, true_and] at same
          obtain ⟨digits, rest⟩ :=
            cut_inj same (brace_not_mem_hexDigits _) (brace_not_mem_hexDigits _)
          exact ⟨Char.toNat_inj.mp (hexDigits_inj digits), rest⟩

/-- A mark that is no backslash stands for itself, and a quote does not even do that. -/
theorem quotedChar_eq_cons {char mark : Char} {left right : List Char}
    (same : quotedChar char ++ left = mark :: right) (noBackslash : mark ≠ '\\') :
    char = mark ∧ left = right ∧ mark ≠ '"' := by
  have form := quotedChar_form char
  generalize quotedChar char = front at *
  cases form with
  | named => exact absurd (List.cons.inj same).1.symm noBackslash
  | plain noQuote =>
      obtain ⟨rfl, rest⟩ := List.cons.inj same
      exact ⟨rfl, rest, noQuote⟩
  | codePoint => exact absurd (List.cons.inj same).1.symm noBackslash

/-! A list behind its opening bracket. -/

/-- What follows the closing quote of a text when `rest` is still to come. -/
def behindText : List (List Char) → List Char
  | [] => [']']
  | text :: rest => ',' :: ' ' :: quotedChars text ++ behindText rest

/-- What follows the opening quote of `text` when `rest` is to come behind it. -/
def insideText (text : List Char) (rest : List (List Char)) : List Char :=
  text.flatMap quotedChar ++ '"' :: behindText rest

theorem insideText_cons (char : Char) (text : List Char) (rest : List (List Char)) :
    insideText (char :: text) rest = quotedChar char ++ insideText text rest := by
  rw [insideText, List.flatMap_cons, List.append_assoc, insideText]

theorem quotedChars_append (text : List Char) (rest : List (List Char)) :
    quotedChars text ++ behindText rest = '"' :: insideText text rest := by
  rw [quotedChars, insideText, List.cons_append, List.cons_append, List.append_assoc]
  rfl

theorem behindText_cons (text : List Char) (rest : List (List Char)) :
    behindText (text :: rest) = ',' :: ' ' :: '"' :: insideText text rest := by
  rw [behindText, List.cons_append, List.cons_append, quotedChars_append]

/-- The first character between quotes either closes them or belongs to the text. -/
theorem insideText_eq_cons {text right : List Char} {rest : List (List Char)} {mark : Char}
    (same : insideText text rest = mark :: right) (noBackslash : mark ≠ '\\') :
    (mark = '"' ∧ behindText rest = right) ∨
      (mark ≠ '"' ∧ ∃ others, insideText others rest = right) := by
  cases text with
  | nil =>
      obtain ⟨quote, end_⟩ := List.cons.inj same
      exact .inl ⟨quote.symm, end_⟩
  | cons char text =>
      rw [insideText_cons] at same
      obtain ⟨_, rest, noQuote⟩ := quotedChar_eq_cons same noBackslash
      exact .inr ⟨noQuote, text, rest⟩

theorem insideText_ne_nil (text : List Char) (rest : List (List Char)) :
    insideText text rest ≠ [] := by
  simp [insideText]

/-- Who reads the same characters inside and outside of quotes reads a separator as a text and a
text as a separator. -/
theorem insideText_eq_behindText {text : List Char} {rest texts : List (List Char)}
    (same : insideText text rest = behindText texts) :
    ∃ first others, texts = first :: others ∧ insideText first others = behindText rest := by
  cases texts with
  | nil =>
      rcases insideText_eq_cons same (by decide) with ⟨quote, _⟩ | ⟨_, others, nothing⟩
      · exact absurd quote (by decide)
      · exact absurd nothing (insideText_ne_nil others rest)
  | cons first others =>
      rw [behindText_cons] at same
      rcases insideText_eq_cons same (by decide) with ⟨quote, _⟩ | ⟨_, afterComma, comma⟩
      · exact absurd quote (by decide)
      rcases insideText_eq_cons comma (by decide) with ⟨quote, _⟩ | ⟨_, afterBlank, blank⟩
      · exact absurd quote (by decide)
      rcases insideText_eq_cons blank (by decide) with ⟨_, closed⟩ | ⟨noQuote, _⟩
      · exact ⟨first, others, rfl, closed.symm⟩
      · exact absurd rfl noQuote

theorem insideText_ne_behindText (text : List Char) (rest texts : List (List Char)) :
    insideText text rest ≠ behindText texts := by
  intro same
  induction texts generalizing text rest with
  | nil =>
      obtain ⟨_, _, nothing, _⟩ := insideText_eq_behindText same
      cases nothing
  | cons first others ih =>
      obtain ⟨_, _, equal, swapped⟩ := insideText_eq_behindText same
      cases equal
      obtain ⟨second, more, _, again⟩ := insideText_eq_behindText swapped
      exact ih second more again

theorem quoted_inj {text other left right : List Char}
    (same : text.flatMap quotedChar ++ '"' :: left = other.flatMap quotedChar ++ '"' :: right) :
    text = other ∧ left = right := by
  induction text generalizing other with
  | nil =>
      cases other with
      | nil => exact ⟨rfl, (List.cons.inj same).2⟩
      | cons char other =>
          rw [List.flatMap_cons, List.append_assoc] at same
          exact absurd rfl (quotedChar_eq_cons same.symm (by decide)).2.2
  | cons char text ih =>
      rw [List.flatMap_cons, List.append_assoc] at same
      cases other with
      | nil => exact absurd rfl (quotedChar_eq_cons same (by decide)).2.2
      | cons another other =>
          rw [List.flatMap_cons, List.append_assoc] at same
          obtain ⟨rfl, later⟩ := quotedChar_cancel same
          obtain ⟨rfl, rest⟩ := ih later
          exact ⟨rfl, rest⟩

theorem behindText_inj {texts others : List (List Char)}
    (same : behindText texts = behindText others) : texts = others := by
  induction texts generalizing others with
  | nil =>
      cases others with
      | nil => rfl
      | cons => exact absurd (List.cons.inj same).1 (by decide)
  | cons text rest ih =>
      cases others with
      | nil => exact absurd (List.cons.inj same).1 (by decide)
      | cons other others =>
          rw [behindText_cons, behindText_cons] at same
          simp only [List.cons.injEq, true_and] at same
          obtain ⟨rfl, later⟩ := quoted_inj same
          rw [ih later]

/-! A whole list. -/

def listChars : List (List Char) → List Char
  | [] => ['[', ']']
  | text :: rest => '[' :: '"' :: insideText text rest

theorem intercalate_quoted (first : List Char) (rest : List (List Char)) :
    [',', ' '].intercalate ((first :: rest).map quotedChars) ++ [']'] =
      quotedChars first ++ behindText rest := by
  induction rest generalizing first with
  | nil => rw [List.map_singleton, List.intercalate_singleton, behindText]
  | cons second rest ih =>
      rw [List.map_cons, List.map_cons, List.intercalate_cons_cons, ← List.map_cons,
        List.append_assoc, ih, behindText]
      simp only [List.append_assoc, List.cons_append, List.nil_append]

theorem toList_quotedList (texts : List String) :
    (quotedList texts).toList = listChars (texts.map String.toList) := by
  have quotes : (texts.map quoted).map String.toList =
      (texts.map String.toList).map quotedChars := by
    simp [quoted]
  rw [quotedList, bracketed, String.toList_append, String.toList_append, String.toList_intercalate,
    quotes]
  cases texts with
  | nil => rfl
  | cons first rest =>
      change '[' :: ([',', ' '].intercalate _ ++ [']']) = _
      rw [List.map_cons, intercalate_quoted, quotedChars_append]
      rfl

theorem listChars_inj {texts others : List (List Char)}
    (same : listChars texts = listChars others) :
    texts = others := by
  cases texts with
  | nil =>
      cases others with
      | nil => rfl
      | cons => exact absurd (List.cons.inj (List.cons.inj same).2).1 (by decide)
  | cons text rest =>
      cases others with
      | nil => exact absurd (List.cons.inj (List.cons.inj same).2).1 (by decide)
      | cons other others =>
          obtain ⟨rfl, later⟩ := quoted_inj (List.cons.inj (List.cons.inj same).2).2
          rw [behindText_inj later]

theorem quotedList_injective {texts others : List String}
    (same : quotedList texts = quotedList others) : texts = others := by
  have chars := congrArg String.toList same
  rw [toList_quotedList, toList_quotedList] at chars
  exact (List.map_inj_right fun _ _ equal => String.toList_injective equal).mp (listChars_inj chars)

/-! Where else in a list another one could begin. -/

theorem namedEscapes_ne_bracket : ∀ escape ∈ namedEscapes, escape.2 ≠ '[' := by
  decide

theorem quotedChar_eq_bracket {char : Char} (member : '[' ∈ quotedChar char) :
    quotedChar char = ['['] := by
  have form := quotedChar_form char
  generalize quotedChar char = front at *
  cases form with
  | named escape =>
      simp only [List.mem_cons, List.not_mem_nil, or_false] at member
      rcases member with backslash | letter
      · exact absurd backslash (by decide)
      · exact absurd letter.symm (namedEscapes_ne_bracket _ escape)
  | plain =>
      rw [← List.mem_singleton.mp member]
  | codePoint =>
      simp [codePointEscape, bracket_not_mem_hexDigits] at member

theorem behind_bracket_char {char : Char} {front tail right : List Char}
    (same : quotedChar char ++ tail = front ++ '[' :: right) :
    right = tail ∨ ∃ before, tail = before ++ '[' :: right := by
  rcases List.append_eq_append_iff.mp same with ⟨between, _, rest⟩ | ⟨between, form, rest⟩
  · exact .inr ⟨between, rest⟩
  · cases between with
    | nil => exact .inr ⟨[], rest.symm⟩
    | cons mark between =>
        obtain ⟨rfl, later⟩ := List.cons.inj rest
        have whole := quotedChar_eq_bracket (form ▸ List.mem_append_right front List.mem_cons_self)
        have size := congrArg List.length (form.symm.trans whole)
        simp only [List.length_append, List.length_cons, List.length_nil] at size
        have nothing : between = [] := List.eq_nil_of_length_eq_zero (by omega)
        rw [nothing] at later
        exact .inl later

theorem behind_bracket_other {mark : Char} {front tail right : List Char}
    (same : mark :: tail = front ++ '[' :: right) (other : mark ≠ '[') :
    ∃ before, tail = before ++ '[' :: right := by
  cases front with
  | nil => exact absurd (List.cons.inj same).1 other
  | cons _ before => exact ⟨before, (List.cons.inj same).2⟩

/-- A bracket behind an opening quote belongs to this text or stands behind it. -/
theorem behind_bracket_text {text front right : List Char} {rest : List (List Char)}
    (same : insideText text rest = front ++ '[' :: right) :
    (∃ remaining, right = insideText remaining rest) ∨
      ∃ before, behindText rest = before ++ '[' :: right := by
  induction text generalizing front with
  | nil => exact .inr (behind_bracket_other same (by decide))
  | cons char text ih =>
      rw [insideText_cons] at same
      rcases behind_bracket_char same with rfl | ⟨before, later⟩
      · exact .inl ⟨text, rfl⟩
      · exact ih later

/-- Behind the first one, every bracket in a list stands between quotes. -/
theorem behind_bracket_list {front right : List Char} {texts : List (List Char)}
    (same : behindText texts = front ++ '[' :: right) :
    ∃ remaining rest, right = insideText remaining rest := by
  induction texts generalizing front with
  | nil =>
      obtain ⟨before, nothing⟩ := behind_bracket_other same (by decide)
      exact absurd nothing.symm (by simp)
  | cons text rest ih =>
      rw [behindText_cons] at same
      obtain ⟨_, comma⟩ := behind_bracket_other same (by decide)
      obtain ⟨_, blank⟩ := behind_bracket_other comma (by decide)
      obtain ⟨_, quote⟩ := behind_bracket_other blank (by decide)
      rcases behind_bracket_text quote with ⟨remaining, inside⟩ | ⟨_, later⟩
      · exact ⟨remaining, rest, inside⟩
      · exact ih later

/-- A list is not at the end of another one: read from its own bracket on, all that is between
quotes is outside of them in the other, and only one of the two can close at the end. -/
theorem listChars_suffix {front : List Char} {texts others : List (List Char)}
    (same : listChars texts = front ++ listChars others) : front = [] := by
  cases front with
  | nil => rfl
  | cons mark front =>
      obtain ⟨right, bracketed⟩ : ∃ right, listChars others = '[' :: right := by
        cases others <;> exact ⟨_, rfl⟩
      rw [bracketed] at same
      -- The other list begins between the quotes of a text.
      obtain ⟨remaining, rest, inside⟩ : ∃ remaining rest, right = insideText remaining rest := by
        cases texts with
        | nil =>
            obtain ⟨_, nothing⟩ := behind_bracket_other (List.cons.inj same).2 (by decide)
            exact absurd nothing.symm (by simp)
        | cons text rest =>
            obtain ⟨_, quote⟩ := behind_bracket_other (List.cons.inj same).2 (by decide)
            rcases behind_bracket_text quote with ⟨remaining, inside⟩ | ⟨_, later⟩
            · exact ⟨remaining, rest, inside⟩
            · exact behind_bracket_list later
      rw [inside] at bracketed
      cases others with
      | nil => exact absurd (List.cons.inj bracketed).2.symm (insideText_ne_behindText _ _ [])
      | cons text more =>
          rcases insideText_eq_cons (List.cons.inj bracketed).2.symm (by decide) with
            ⟨_, closed⟩ | ⟨noQuote, _⟩
          · exact absurd closed.symm (insideText_ne_behindText _ _ _)
          · exact absurd rfl noQuote

/-- Text in front of a list, and the list, are both read off from the whole. -/
theorem append_quotedList_inj {front other : String} {texts others : List String}
    (same : front ++ quotedList texts = other ++ quotedList others) :
    front = other ∧ texts = others := by
  have chars := congrArg String.toList same
  rw [String.toList_append, String.toList_append, toList_quotedList, toList_quotedList] at chars
  have fronts : front.toList = other.toList := by
    rcases List.append_eq_append_iff.mp chars with ⟨between, longer, list⟩ | ⟨between, longer, list⟩
    · rw [longer, listChars_suffix list, List.append_nil]
    · rw [longer, listChars_suffix list, List.append_nil]
  obtain rfl := String.toList_injective fronts
  exact ⟨rfl, quotedList_injective (String.append_right_inj _ |>.mp same)⟩

end Chaincode.Text
