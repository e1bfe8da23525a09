import WidgetTemplate.Text.Hex
import WidgetTemplate.Text.Quoted

/-!
# Quoted text can be read back

The characters between the quotes are read one after another up to the closing
quote.  Behind a backslash stands one character for a common escape, or the
hexadecimal digits of a code point between braces.

What may stand between the quotes is said by `Escapes`, which leaves open what
else is escaped than double quotes and backslashes.  Quoting is one way to write
a text like that, and a text that is written like that in any way is read back.
No escape breaks the line, so a quoted text is on one line whatever the text is.
-/

namespace WidgetTemplate

namespace Text

/-- The character that a backslash and one more character stand for. -/
def escapedBy? : Char → Option Char
  | '0' => some '\x00'
  | 't' => some '\t'
  | 'n' => some '\n'
  | 'r' => some '\r'
  | '"' => some '"'
  | '\\' => some '\\'
  | _ => none

/--
The characters of a text, and how they are written between quotes.  A double
quote and a backslash are always escaped; any other character may be.
-/
inductive Escapes : List Char → List Char → Prop
  | nil : Escapes [] []
  | plain {char : Char} {text written : List Char}
      (noQuote : char ≠ '"') (noSlash : char ≠ '\\')
        (behind : Escapes text written) :
      Escapes (char :: text) (char :: written)
  | common {char escape : Char} {text written : List Char}
      (stands : escapedBy? escape = some char) (behind : Escapes text written) :
      Escapes (char :: text) ('\\' :: escape :: written)
  | codePoint {char : Char} {digits text written : List Char}
      (stands : digitsValue? 16 digits = some char.toNat)
        (behind : Escapes text written) :
      Escapes (char :: text)
        ('\\' :: 'u' :: '\x7b' :: (digits ++ '\x7d' :: written))

mutual

/-- Reads up to the closing quote: the text in front of it and what is behind. -/
def readQuoted : List Char → Option (List Char × List Char)
  | [] => none
  | '"' :: rest => some ([], rest)
  | '\\' :: 'u' :: '\x7b' :: rest => readCodePoint 0 rest
  | '\\' :: escape :: rest => do
      let char ← escapedBy? escape
      let (text, behind) ← readQuoted rest
      return (char :: text, behind)
  | char :: rest => do
      let (text, behind) ← readQuoted rest
      return (char :: text, behind)

/-- Reads on behind digits that are worth `code`, up to the closing brace. -/
def readCodePoint (code : Nat) : List Char → Option (List Char × List Char)
  | [] => none
  | '\x7d' :: rest => do
      let (text, behind) ← readQuoted rest
      return (Char.ofNat code :: text, behind)
  | digit :: rest => do
      let value ← hexValue? digit
      readCodePoint (code * 16 + value) rest

end

/-! ## Hexadecimal digits -/

/--
The digits of a number are a digit, or those of a number in front of a digit.
-/
theorem toDigits_induction {motive : List Char → Nat → Prop}
    (single : ∀ value < 16, motive [Nat.digitChar value] value)
    (append : ∀ digits front, motive digits front → ∀ value < 16,
      motive (digits ++ [Nat.digitChar value]) (front * 16 + value))
    (number : Nat) :
    motive (Nat.toDigits 16 number) number := by
  induction number using Nat.strongRecOn with
  | ind number induction =>
      by_cases small : number < 16
      · rw [Nat.toDigits_of_lt_base small]
        exact single number small
      · have front := induction (number / 16) (by omega)
        have whole := append _ _ front (number % 16) (Nat.mod_lt _ (by decide))
        rwa [← Nat.toDigits_of_base_le (by decide) (by omega), Nat.div_add_mod']
          at whole

theorem forall_mem_toDigits {property : Char → Prop}
    (digit : ∀ value < 16, property (Nat.digitChar value)) (number : Nat) :
    ∀ char ∈ Nat.toDigits 16 number, property char := by
  refine toDigits_induction
    (motive := fun digits _ => ∀ char ∈ digits, property char) ?_ ?_
    number
  · intro value small
    exact List.forall_mem_singleton.mpr (digit value small)
  · intro digits _ whole value small
    exact List.forall_mem_append.mpr
      ⟨whole, List.forall_mem_singleton.mpr (digit value small)⟩

theorem digitValue?_digitChar : ∀ value < 16,
    digitValue? 16 (Nat.digitChar value) = some value := by
  decide

theorem foldlM_toDigits (number : Nat) :
    (Nat.toDigits 16 number).foldlM
      (fun total char => (digitValue? 16 char).map (total * 16 + ·)) 0 =
        some number := by
  refine toDigits_induction (motive := fun digits number =>
    digits.foldlM
      (fun total char => (digitValue? 16 char).map (total * 16 + ·)) 0 =
      some number) ?_ ?_ number
  · intro value small
    simp [digitValue?_digitChar value small]
  · intro digits front worth value small
    rw [List.foldlM_append, worth]
    simp [digitValue?_digitChar value small]

/-- The hexadecimal digits of a number stand for it. -/
theorem digitsValue?_toDigits (number : Nat) :
    digitsValue? 16 (Nat.toDigits 16 number) = some number := by
  rw [digitsValue?, foldlM_toDigits]
  exact Nat.toDigits_ne_nil

/-! ## Quoting writes escapes -/

/-- A character may be written the way it is in quotes. -/
theorem Escapes.cons_quotedChar {text written : List Char} (char : Char)
    (behind : Escapes text written) :
    Escapes (char :: text) (quotedChar char ++ written) := by
  unfold quotedChar
  split
  -- Six characters have an escape of their own.
  iterate 6 exact .common rfl behind
  next _ _ _ _ noQuote noSlash =>
    split
    · have digits := digitsValue?_toDigits char.toNat
      simpa [codePointEscape] using Escapes.codePoint digits behind
    · exact .plain noQuote noSlash behind

theorem escapes_flatMap_quotedChar (chars : List Char) :
    Escapes chars (chars.flatMap quotedChar) := by
  induction chars with
  | nil => exact .nil
  | cons char chars induction => exact induction.cons_quotedChar char

@[simp]
theorem toList_quoted (text : String) :
    (quoted text).toList = '"' :: text.toList.flatMap quotedChar ++ ['"'] := by
  rw [quoted, String.toList_ofList]

/-! ## Escapes are read back -/

/-- Digits are read one by one, up to what they are worth together. -/
theorem readCodePoint_append {digits : List Char} {code total : Nat}
    (worth : digits.foldlM
      (fun total char => (digitValue? 16 char).map (total * 16 + ·)) code =
        some total)
    (rest : List Char) :
    readCodePoint code (digits ++ rest) = readCodePoint total rest := by
  induction digits generalizing code with
  | nil => rw [Option.some.inj worth, List.nil_append]
  | cons digit digits induction =>
      rw [List.foldlM_cons] at worth
      rcases Option.bind_eq_some_iff.mp worth with ⟨next, first, later⟩
      rcases Option.map_eq_some_iff.mp first with ⟨value, found, rfl⟩
      have hex : hexValue? digit = some value :=
        (Option.filter_eq_some_iff.mp found).1
      rw [List.cons_append, readCodePoint, hex]
      · exact induction later
      · rintro rfl
        cases hex

theorem readQuoted_codePoint {char : Char} {digits : List Char}
    (stands : digitsValue? 16 digits = some char.toNat) (rest : List Char) :
    readQuoted ('\\' :: 'u' :: '\x7b' :: (digits ++ '\x7d' :: rest)) =
      (readQuoted rest).map fun (text, behind) => (char :: text, behind) := by
  have read : readCodePoint 0 (digits ++ '\x7d' :: rest) =
      readCodePoint char.toNat ('\x7d' :: rest) := by
    cases digits with
    | nil => cases stands
    | cons digit digits => exact readCodePoint_append stands _
  rw [readQuoted, read, readCodePoint, Char.ofNat_toNat]
  cases readQuoted rest <;> rfl

theorem readQuoted_escape {escape char : Char}
    (stands : escapedBy? escape = some char) (rest : List Char) :
    readQuoted ('\\' :: escape :: rest) =
      (readQuoted rest).map fun (text, behind) => (char :: text, behind) := by
  rw [readQuoted]
  · rw [stands]
    cases readQuoted rest <;> rfl
  · rintro behind rfl
    cases stands

/-- A text is read back up to the first quote that is not part of an escape. -/
theorem Escapes.readQuoted_append {text written : List Char}
    (escapes : Escapes text written) (rest : List Char) :
    readQuoted (written ++ '"' :: rest) = some (text, rest) := by
  induction escapes with
  | nil => rfl
  | plain noQuote noSlash behind induction =>
      rw [List.cons_append, readQuoted]
      · rw [induction]
        rfl
      all_goals
        intros
        contradiction
  | common stands behind induction =>
      rw [List.cons_append, List.cons_append, readQuoted_escape stands, induction]
      rfl
  | codePoint stands behind induction =>
      simp only [List.cons_append, List.append_assoc]
      rw [readQuoted_codePoint stands, induction]
      rfl

/-- A text is read back from behind its opening quote. -/
theorem readQuoted_flatMap_quotedChar (chars rest : List Char) :
    readQuoted (chars.flatMap quotedChar ++ '"' :: rest) = some (chars, rest) :=
  (escapes_flatMap_quotedChar chars).readQuoted_append rest

/--
The text that a quoted text stands for, with nothing behind the closing quote.
-/
def unquoted? (shown : String) : Option String :=
  match shown.toList with
  | '"' :: chars =>
      match readQuoted chars with
      | some (text, []) => some (String.ofList text)
      | _ => none
  | _ => none

theorem unquoted?_quoted (text : String) :
    unquoted? (quoted text) = some text := by
  rw [unquoted?, toList_quoted]
  simp only [List.cons_append, readQuoted_flatMap_quotedChar, String.ofList_toList]

theorem unquoted?_eq_none {shown : String} (absent : '"' ∉ shown.toList) :
    unquoted? shown = none := by
  unfold unquoted?
  split
  next chars starts =>
    rw [starts] at absent
    exact absurd List.mem_cons_self absent
  next => rfl

/-! ## One line -/

/-- Nothing that is hidden is left in quotes. -/
theorem isHidden_of_mem_quotedChar (char : Char) :
    ∀ written ∈ quotedChar char, isHidden written = false := by
  unfold quotedChar
  split
  iterate 6 exact List.forall_mem_cons.mpr ⟨rfl, List.forall_mem_singleton.mpr rfl⟩
  split
  · have digits : ∀ digit ∈ Nat.toDigits 16 char.toNat, isHidden digit = false :=
      forall_mem_toDigits (by decide) char.toNat
    simp only [codePointEscape, List.forall_mem_append, List.forall_mem_cons]
    exact ⟨⟨⟨rfl, rfl, rfl, List.forall_mem_nil _⟩, digits⟩, rfl,
      List.forall_mem_nil _⟩
  next shows => exact List.forall_mem_singleton.mpr (Bool.eq_false_iff.mpr shows)

theorem isHidden_of_mem_quoted (text : String) :
    ∀ written ∈ (quoted text).toList, isHidden written = false := by
  rw [toList_quoted, List.forall_mem_append, List.forall_mem_cons]
  refine ⟨⟨rfl, ?_⟩, List.forall_mem_singleton.mpr rfl⟩
  intro written member
  rcases List.mem_flatMap.mp member with ⟨char, _, inside⟩
  exact isHidden_of_mem_quotedChar char written inside

/-- The characters that may be taken for the end of a line. -/
def lineBreaks : List Char :=
  ['\n', '\x0b', '\x0c', '\r', '\u0085', '\u2028', '\u2029']

/-- Nothing in the text ends a line. -/
def IsLine (text : String) : Prop :=
  ∀ char ∈ text.toList, char ∉ lineBreaks

theorem isHidden_of_mem_lineBreaks : ∀ char ∈ lineBreaks, isHidden char = true :=
  List.all_eq_true.mp (by decide +kernel)

/-- A quoted text is on one line. -/
theorem isLine_quoted (text : String) : IsLine (quoted text) := by
  intro char member breaks
  have hidden := isHidden_of_mem_lineBreaks char breaks
  rw [isHidden_of_mem_quoted text char member] at hidden
  cases hidden

theorem newline_not_mem_quoted (text : String) : '\n' ∉ (quoted text).toList :=
  fun member => isLine_quoted text '\n' member List.mem_cons_self

end Text

end WidgetTemplate
