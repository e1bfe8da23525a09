import WidgetTemplate.Attribute
import WidgetTemplate.Json.Printer
import WidgetTemplate.Json.Skip

/-!
# Strings and numbers as they are written and read

A string is written with escapes, and reading it up to its closing quote gives
it back, whatever characters it has.  A number is written in the form that
JSON demands: a sign or none, digits with no needless zero in front, and
perhaps a fraction and an exponent.  Such a number is passed over exactly, and
it is read as the integer it is unless it has a fraction, an exponent or more
than 64 bits.

Strings end at their closing quote.  Numbers have no such end, so what is said
about them holds in front of a text that does not continue a number.
-/

namespace WidgetTemplate.Json

/-! ## Strings -/

/-- The text of a string behind its opening quote, in front of `rest`. -/
def bodyOnto (text : String) (rest : List Char) : List Char :=
  text.toList.flatMap escapedChar ++ '"' :: rest

theorem stringOnto_eq (text : String) (rest : List Char) :
    stringOnto text rest = '"' :: bodyOnto text rest := by
  simp [stringOnto, bodyOnto]

theorem hexValue4?_control {code : Nat} (low : code < 0x20) :
    hexValue4? '0' '0' (hexDigit (code / 16)) (hexDigit code) = some code := by
  revert code
  decide

/-- A character is read back from the way it is written. -/
theorem readString_escapedChar (char : Char) (done rest : List Char) :
    readString done (escapedChar char ++ rest) =
      readString (char :: done) rest := by
  unfold escapedChar
  split
  -- Seven characters have an escape of their own.
  iterate 7 rfl
  next noQuote noSlash _ _ _ _ _ =>
    split
    · rename_i low
      have notTrailing : isTrailing char.toNat = false := by
        simp [isTrailing]
        omega
      have notLeading : isLeading char.toNat = false := by
        simp [isLeading]
        omega
      simp only [List.cons_append, List.nil_append]
      rw [readString]
      simp [hexValue4?_control low, notTrailing, notLeading]
    · rename_i high
      simp only [List.cons_append, List.nil_append]
      rw [readString]
      · rw [if_neg high]
      · exact fun same => absurd same noQuote
      all_goals
        intros
        contradiction

theorem readString_escapedChars (chars done rest : List Char) :
    readString done (chars.flatMap escapedChar ++ '"' :: rest) =
      .ok (String.ofList (done.reverse ++ chars), rest) := by
  induction chars generalizing done with
  | nil => simp [readString]
  | cons char chars induction =>
      rw [List.flatMap_cons, List.append_assoc, readString_escapedChar, induction]
      simp

/-- A string is read back from the way it is written. -/
@[simp]
theorem readString_bodyOnto (text : String) (rest : List Char) :
    readString [] (bodyOnto text rest) = .ok (text, rest) := by
  rw [bodyOnto, readString_escapedChars]
  simp

theorem skipString_escapedChar (char : Char) (rest : List Char) :
    skipString (escapedChar char ++ rest) = skipString rest := by
  unfold escapedChar
  split
  iterate 7 rfl
  next noQuote noSlash _ _ _ _ _ =>
    split
    · rename_i low
      simp only [List.cons_append, List.nil_append]
      rw [skipString]
      simp [hexValue4?_control low]
    · rename_i high
      simp only [List.cons_append, List.nil_append]
      rw [skipString]
      · rw [if_neg high]
      · exact fun same => absurd same noQuote
      all_goals
        intros
        contradiction

@[simp]
theorem skipString_bodyOnto (text : String) (rest : List Char) :
    skipString (bodyOnto text rest) = .ok rest := by
  rw [bodyOnto]
  induction text.toList with
  | nil => simp [skipString]
  | cons char chars induction =>
      rw [List.flatMap_cons, List.append_assoc, skipString_escapedChar, induction]

/-! ## How numbers are written -/

/-- Digits with no needless zero in front. -/
def IsWhole (digits : List Char) : Prop :=
  digits ≠ [] ∧ (∀ char ∈ digits, char.isDigit) ∧
    (digits.head? = some '0' → digits = ['0'])

/-- A point with digits behind it. -/
def IsFraction (text : List Char) : Prop :=
  ∃ digits, text = '.' :: digits ∧ digits ≠ [] ∧ ∀ char ∈ digits, char.isDigit

/-- The letter of an exponent, perhaps a sign, and digits. -/
def IsExponent (text : List Char) : Prop :=
  ∃ letter sign digits, text = letter :: (sign ++ digits) ∧
    letter ∈ ['e', 'E'] ∧ sign ∈ [[], ['+'], ['-']] ∧
      digits ≠ [] ∧ ∀ char ∈ digits, char.isDigit

/-- Nothing, or a fraction, an exponent or both. -/
def IsEnding (text : List Char) : Prop :=
  ∃ fraction exponent, text = fraction ++ exponent ∧
    (fraction = [] ∨ IsFraction fraction) ∧ (exponent = [] ∨ IsExponent exponent)

/-- A JSON number that has a fraction or an exponent. -/
def IsDecimal (literal : List Char) : Prop :=
  ∃ sign whole ending, literal = sign ++ (whole ++ ending) ∧
    sign ∈ [[], ['-']] ∧ IsWhole whole ∧ IsEnding ending ∧ ending ≠ []

/-- The number is written as JSON demands, if it keeps how it is written. -/
def Number.Spelled : Number → Prop
  | .integer _ => True
  | .decimal literal => IsDecimal literal.toList

theorem isWhole_toDigits (value : Nat) : IsWhole (Nat.toDigits 10 value) := by
  refine ⟨Nat.toDigits_ne_nil, ?_, ?_⟩
  · intro char member
    exact Nat.isDigit_of_mem_toDigits (by decide) (by decide) member
  · induction value using Nat.strongRecOn with
    | ind value induction =>
        by_cases small : value < 10
        · rw [Nat.toDigits_of_lt_base small]
          simp
        · have large : 10 ≤ value := Nat.le_of_not_lt small
          rw [Nat.toDigits_of_base_le (by decide) large]
          intro zero
          rw [List.head?_append,
            Option.or_of_isSome (by simp [Nat.toDigits_ne_nil])] at zero
          have front := induction (value / 10) (by omega) zero
          have nothing := congrArg (Nat.ofDigitChars 10 · 0) front
          simp [Nat.ofDigitChars_ten_toDigits, Nat.ofDigitChars_cons] at nothing
          omega

/-- The sign that an integer is written with. -/
def signOf (value : Int) : List Char :=
  if value < 0 then ['-'] else []

theorem integer_onto (value : Int) (rest : List Char) :
    (Number.integer value).onto rest =
      signOf value ++ (Nat.toDigits 10 value.natAbs ++ rest) := by
  rw [Number.onto, Int.toString_eq_repr, Int.repr_eq_if, signOf]
  by_cases negative : value < 0
  · have size : (-value).toNat = value.natAbs := by omega
    simp [negative, Int.not_le.mpr negative, size]
  · have size : value.toNat = value.natAbs := by omega
    simp [negative, Int.not_lt.mp negative, size]

/-- A spelled number is a sign or none, digits, and an ending or none. -/
theorem Number.Spelled.onto_eq {number : Number} (spelled : number.Spelled)
    (rest : List Char) :
    ∃ sign whole ending, number.onto rest = sign ++ (whole ++ (ending ++ rest)) ∧
      sign ∈ [[], ['-']] ∧ IsWhole whole ∧ IsEnding ending := by
  cases number with
  | integer value =>
      refine
        ⟨signOf value, _, [], integer_onto value rest, ?_,
          isWhole_toDigits value.natAbs, [], [], rfl, .inl rfl, .inl rfl⟩
      unfold signOf
      split <;> simp
  | decimal literal =>
      rcases spelled with ⟨sign, whole, ending, same, signs, digits, ends, -⟩
      refine ⟨sign, whole, ending, ?_, signs, digits, ends⟩
      simp [onto, same]

/-! ## Where numbers end -/

def NoDigit (text : List Char) : Prop :=
  ∀ char ∈ text.head?, ¬ char.isDigit

/-- The text does not continue a number in front of it. -/
def Stops (text : List Char) : Prop :=
  NoDigit text ∧ ∀ char ∈ text.head?, char ∉ ['.', 'e', 'E']

theorem spanDigits_append {digits rest : List Char}
    (all : ∀ char ∈ digits, char.isDigit) (ends : NoDigit rest) :
    spanDigits (digits ++ rest) = (digits, rest) := by
  have stop :
      rest.takeWhile Char.isDigit = [] ∧ rest.dropWhile Char.isDigit = rest := by
    cases rest with
    | nil => exact ⟨rfl, rfl⟩
    | cons char later =>
        have other := ends char rfl
        exact ⟨List.takeWhile_cons_of_neg other, List.dropWhile_cons_of_neg other⟩
  rw [spanDigits, List.takeWhile_append_of_pos all,
    List.dropWhile_append_of_pos all, stop.1, stop.2, List.append_nil]

/-- An ending that is not empty starts in a way that tells it from digits. -/
theorem IsEnding.exists_cons {ending : List Char} (ends : IsEnding ending)
    (nonempty : ending ≠ []) :
    ∃ char later, ending = char :: later ∧ char ∈ ['.', 'e', 'E'] := by
  rcases ends with ⟨fraction, exponent, rfl, front, back⟩
  rcases front with rfl | ⟨digits, rfl, -⟩
  · rcases back with rfl | ⟨letter, sign, digits, rfl, letters, -⟩
    · exact absurd rfl nonempty
    · exact ⟨letter, sign ++ digits, rfl, List.mem_cons_of_mem _ letters⟩
  · exact ⟨'.', digits ++ exponent, rfl, List.mem_cons_self⟩

theorem IsEnding.noDigit {ending rest : List Char} (ends : IsEnding ending)
    (stops : Stops rest) : NoDigit (ending ++ rest) := by
  by_cases nothing : ending = []
  · subst nothing
    exact stops.1
  · rcases ends.exists_cons nothing with ⟨char, later, rfl, member⟩
    intro first found
    cases found
    revert member
    simp only [List.mem_cons, List.not_mem_nil, or_false]
    rintro (rfl | rfl | rfl) <;> decide

/-! ## Passing over numbers -/

theorem skipExponentOrEnd_of_stops {rest : List Char} (stops : Stops rest) :
    skipExponentOrEnd rest = .ok rest := by
  unfold skipExponentOrEnd
  split
  · exact absurd (stops.2 'e' rfl) (by simp)
  · exact absurd (stops.2 'E' rfl) (by simp)
  · rfl

/-- A digit is none of the other characters of a number. -/
theorem digit_ne {char other : Char} (digit : char.isDigit)
    (none : ¬ other.isDigit) : char ≠ other := by
  rintro rfl
  exact none digit

theorem skipExponent_append {sign digits rest : List Char}
    (signs : sign ∈ [[], ['+'], ['-']]) (nonempty : digits ≠ [])
    (all : ∀ char ∈ digits, char.isDigit) (ends : NoDigit rest) :
    skipExponent (sign ++ (digits ++ rest)) = .ok rest := by
  have spanned := spanDigits_append all ends
  simp only [List.mem_cons, List.not_mem_nil, or_false] at signs
  rcases signs with rfl | rfl | rfl
  · rcases List.exists_cons_of_ne_nil nonempty with ⟨first, others, rfl⟩
    have digit := all first List.mem_cons_self
    have plus : first ≠ '+' := digit_ne digit (by decide)
    have minus : first ≠ '-' := digit_ne digit (by decide)
    simp only [List.cons_append] at spanned
    simp [skipExponent, plus, minus, spanned]
  · simp [skipExponent, spanned, nonempty]
  · simp [skipExponent, spanned, nonempty]

/--
An exponent or nothing is passed over up to a text that does not continue it.
-/
theorem skipExponentOrEnd_append {exponent rest : List Char}
    (back : exponent = [] ∨ IsExponent exponent) (stops : Stops rest) :
    skipExponentOrEnd (exponent ++ rest) = .ok rest := by
  rcases back with rfl | ⟨letter, sign, digits, rfl, letters, signs, nonempty, all⟩
  · exact skipExponentOrEnd_of_stops stops
  · have passed := skipExponent_append signs nonempty all stops.1
    simp only [List.mem_cons, List.not_mem_nil, or_false] at letters
    rcases letters with rfl | rfl
    · simpa [skipExponentOrEnd] using passed
    · simpa [skipExponentOrEnd] using passed

/-- An ending is passed over up to a text that does not continue it. -/
theorem skipFractionOrEnd_append {ending rest : List Char}
    (ends : IsEnding ending) (stops : Stops rest) :
    skipFractionOrEnd (ending ++ rest) = .ok rest := by
  rcases ends with ⟨fraction, exponent, rfl, front, back⟩
  have passed := skipExponentOrEnd_append back stops
  rcases front with rfl | ⟨digits, rfl, nonempty, all⟩
  · have noPoint : ∀ later, exponent ++ rest ≠ '.' :: later := by
      intro later begins
      rcases back with rfl | ⟨letter, sign, digits, rfl, letters, -⟩
      · exact (stops.2 '.' (by rw [← List.nil_append rest, begins]; rfl)) (by simp)
      · cases begins
        simp at letters
    rw [List.nil_append, skipFractionOrEnd]
    · exact passed
    · exact noPoint
  · have border : NoDigit (exponent ++ rest) :=
      IsEnding.noDigit ⟨[], exponent, rfl, .inl rfl, back⟩ stops
    have spanned := spanDigits_append all border
    simp [skipFractionOrEnd, spanned, nonempty, passed]

/-- A number without its sign is passed over. -/
theorem skipUnsigned_append {whole ending rest : List Char}
    (digits : IsWhole whole) (ends : IsEnding ending) (stops : Stops rest) :
    skipUnsigned (whole ++ (ending ++ rest)) = .ok rest := by
  rcases digits with ⟨nonempty, all, single⟩
  have passed := skipFractionOrEnd_append ends stops
  have border := ends.noDigit stops
  rcases List.exists_cons_of_ne_nil nonempty with ⟨first, others, rfl⟩
  have digit := all first List.mem_cons_self
  by_cases zero : first = '0'
  · have alone : others = [] := by
      simpa [zero] using single (by simp [zero])
    subst zero alone
    have noDigit :
        ((ending ++ rest).head?.map Char.isDigit).getD false = false := by
      cases start : (ending ++ rest).head? with
      | none => rfl
      | some char => simpa using border char start
    rw [List.singleton_append, skipUnsigned, noDigit]
    exact passed
  · have spanned := spanDigits_append
      (fun char member => all char (List.mem_cons_of_mem _ member)) border
    simp [skipUnsigned, digit, spanned, passed]

/-! ## Reading numbers -/

theorem readUnsigned_append {whole rest : List Char} (negative : Bool)
    (digits : IsWhole whole) (border : NoDigit rest) :
    readUnsigned negative (whole ++ rest) =
      readAfterDigits negative whole rest := by
  rcases digits with ⟨nonempty, all, single⟩
  have spanned := spanDigits_append all border
  rcases List.exists_cons_of_ne_nil nonempty with ⟨first, others, rfl⟩
  have digit := all first List.mem_cons_self
  by_cases zero : first = '0'
  · have alone : others = [] := by
      simpa [zero] using single (by simp [zero])
    subst zero alone
    cases rest with
    | nil => rfl
    | cons char later =>
        have other := border char rfl
        simp [readUnsigned, other]
  · rw [List.cons_append] at spanned ⊢
    simp [readUnsigned, digit, spanned]

theorem readNumber_append {sign whole rest : List Char}
    (signs : sign ∈ [[], ['-']]) (digits : IsWhole whole) (border : NoDigit rest) :
    readNumber (sign ++ (whole ++ rest)) =
      readAfterDigits (sign == ['-']) whole rest := by
  simp only [List.mem_cons, List.not_mem_nil, or_false] at signs
  rcases signs with rfl | rfl
  · rcases List.exists_cons_of_ne_nil digits.1 with ⟨first, others, rfl⟩
    have minus : first ≠ '-' :=
      digit_ne (digits.2.1 first List.mem_cons_self) (by decide)
    rw [← readUnsigned_append _ digits border]
    simp [readNumber, minus]
  · rw [← readUnsigned_append _ digits border]
    rfl

/-- What is read, if anything, is a number of double precision. -/
def IsFloating (outcome : Except Failure (Numeral × List Char)) : Prop :=
  ∀ value rest, outcome ≠ .ok (.integer value, rest)

section Floating

variable (negative : Bool) (significand : Nat) (exponent : Int) (text : List Char)

theorem isFloating_finish :
    IsFloating (finish negative significand exponent text) := by
  intro value rest
  unfold finish
  split <;> simp

theorem isFloating_readExponent :
    IsFloating (readExponent negative significand exponent text) := by
  intro value rest
  fun_cases readExponent negative significand exponent text with
  | case1 => simp
  | case2 | case3 | case4 =>
      split
      · exact isFloating_finish _ _ _ _ value rest
      · split <;> simp
  | case5 => simp

theorem isFloating_readExponentOrEnd :
    IsFloating (readExponentOrEnd negative significand exponent text) := by
  unfold readExponentOrEnd
  split
  · exact isFloating_readExponent _ _ _ _
  · exact isFloating_readExponent _ _ _ _
  · exact isFloating_finish _ _ _ _

theorem isFloating_readFraction :
    IsFloating (readFraction negative significand exponent text) := by
  unfold readFraction
  dsimp only
  split
  · intro value rest
    simp
  · exact isFloating_readExponentOrEnd _ _ _ _

end Floating

/-- A number with a fraction or an exponent is not read as an integer. -/
theorem isFloating_readAfterDigits (negative : Bool) (digits : List Char)
    {char : Char} (later : List Char) (goesOn : char ∈ ['.', 'e', 'E']) :
    IsFloating (readAfterDigits negative digits (char :: later)) := by
  simp only [List.mem_cons, List.not_mem_nil, or_false] at goesOn
  rcases goesOn with rfl | rfl | rfl
  · exact isFloating_readFraction _ _ _ _
  · simpa [readAfterDigits] using isFloating_readExponentOrEnd _ _ _ _
  · simpa [readAfterDigits] using isFloating_readExponentOrEnd _ _ _ _

theorem isFloating_readNumber_decimal {literal : String}
    (spelled : IsDecimal literal.toList) {rest : List Char} (stops : Stops rest) :
    IsFloating (readNumber ((Number.decimal literal).onto rest)) := by
  rcases spelled with ⟨sign, whole, ending, same, signs, digits, ends, nonempty⟩
  have border := ends.noDigit stops
  rcases ends.exists_cons nonempty with ⟨char, later, rfl, member⟩
  rw [Number.onto, same, List.append_assoc, List.append_assoc,
    readNumber_append signs digits border]
  exact isFloating_readAfterDigits _ _ _ member

theorem le_ofDigitChars (digits : List Char) (start : Nat) :
    start ≤ Nat.ofDigitChars 10 digits start := by
  induction digits generalizing start with
  | nil => simp
  | cons digit digits induction =>
      rw [Nat.ofDigitChars_cons]
      exact Nat.le_trans (by omega) (induction _)

/-- Digits are appended one by one until they need more than 64 bits. -/
theorem appendDigits_cases (digits : List Char) (start : Nat)
    (fits : start ≤ maxUnsigned) :
    (Nat.ofDigitChars 10 digits start ≤ maxUnsigned ∧
        appendDigits start digits = (Nat.ofDigitChars 10 digits start, [])) ∨
      (maxUnsigned < Nat.ofDigitChars 10 digits start ∧
        (appendDigits start digits).2 ≠ []) := by
  induction digits generalizing start with
  | nil => simp [appendDigits, fits]
  | cons digit digits induction =>
      rw [Nat.ofDigitChars_cons, Nat.mul_comm, appendDigits]
      split
      · rename_i longer
        exact induction _ longer
      · rename_i longer
        have below :=
          le_ofDigitChars digits (start * 10 + (digit.toNat - '0'.toNat))
        exact .inr ⟨by omega, by simp⟩

/-- A number that stops behind its digits is read by its digits alone. -/
theorem readAfterDigits_of_stops (negative : Bool) (digits : List Char)
    {rest : List Char} (stops : Stops rest) :
    readAfterDigits negative digits rest =
      if (appendDigits 0 digits).2 ≠ [] then
        readExponentOrEnd negative (appendDigits 0 digits).1
          (appendDigits 0 digits).2.length rest
      else if negative then
        if (appendDigits 0 digits).1 = 0 ∨
            -((appendDigits 0 digits).1 : Int) < Int64.minValue.toInt then
          .ok (.float (-(Decimal.mk (appendDigits 0 digits).1 0).toFloat), rest)
        else
          .ok (.integer (-(appendDigits 0 digits).1), rest)
      else
        .ok (.integer (appendDigits 0 digits).1, rest) := by
  cases rest with
  | nil => simp [readAfterDigits]
  | cons char later =>
      have other := stops.2 char rfl
      simp only [List.mem_cons, List.not_mem_nil, or_false, not_or] at other
      simp [readAfterDigits, other]

/--
An integer is read as itself, unless it needs more than 64 bits; then it is
read as a number of double precision, if at all.
-/
theorem readNumber_integer (value : Int) {rest : List Char} (stops : Stops rest) :
    readNumber ((Number.integer value).onto rest) = .ok (.integer value, rest) ∨
      (AttributeValue.fitsInteger value = false ∧
        IsFloating (readNumber ((Number.integer value).onto rest))) := by
  have signs : signOf value ∈ [[], ['-']] := by
    unfold signOf
    split <;> simp
  have negative : (signOf value == ['-']) = decide (value < 0) := by
    unfold signOf
    split <;> simp [*]
  have cases := appendDigits_cases (Nat.toDigits 10 value.natAbs) 0 (Nat.zero_le _)
  rw [Nat.ofDigitChars_ten_toDigits] at cases
  rw [integer_onto, readNumber_append signs (isWhole_toDigits _) stops.1,
    readAfterDigits_of_stops _ _ stops, negative]
  have least : Int64.minValue.toInt = -2 ^ 63 := rfl
  have greatest : Int64.maxValue.toInt = 2 ^ 63 - 1 := rfl
  have widest : maxUnsigned = 2 ^ 64 - 1 := rfl
  rw [widest] at cases
  simp only [AttributeValue.fitsInteger, least, greatest]
  rcases cases with ⟨small, read⟩ | ⟨large, others⟩
  · rw [read, if_neg (by simp)]
    by_cases below : value < 0
    · rw [if_pos (by simpa using below)]
      split
      · rename_i tooLow
        refine .inr ⟨?_, by intro found later; simp⟩
        simp
        omega
      · have same : -(value.natAbs : Int) = value := by omega
        refine .inl ?_
        show Except.ok (Numeral.integer (-(value.natAbs : Int)), rest) = _
        rw [same]
    · rw [if_neg (by simpa using below)]
      have same : (value.natAbs : Int) = value := by omega
      refine .inl ?_
      show Except.ok (Numeral.integer (value.natAbs : Int), rest) = _
      rw [same]
  · rw [if_pos others]
    refine .inr ⟨?_, isFloating_readExponentOrEnd _ _ _ _⟩
    simp
    omega

end WidgetTemplate.Json
