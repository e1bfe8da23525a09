import Mathlib.Data.List.Basic

/-!
# Texts that are cut at a sign

A text that ends at a sign can be told from what is behind the sign, provided
that it does not have the sign itself, as a number has no sign but a minus.  A
text that is put together from lines, each of them ended by a line feed, can
therefore be taken apart again, provided that no line has a line feed of its own.
-/

namespace WidgetTemplate

namespace Text

/-! ## One sign -/

/-- A text is cut at the first sign that ends it. -/
theorem cut_at_end {inside : Char → Bool} {sign : Char} {text : List Char}
    (whole : ∀ char ∈ text, inside char = true) (ends : inside sign = false)
    (behind : List Char) :
    (text ++ sign :: behind).takeWhile inside = text ∧
      (text ++ sign :: behind).dropWhile inside = sign :: behind := by
  constructor
  · rw [List.takeWhile_append_of_pos whole,
      List.takeWhile_cons_of_neg (by simp [ends]), List.append_nil]
  · rw [List.dropWhile_append_of_pos whole,
      List.dropWhile_cons_of_neg (by simp [ends])]

/-- A text with a sign behind it is cut there, unless it has the sign itself. -/
theorem cut_at {sign : Char} {text : List Char} (absent : sign ∉ text)
    (behind : List Char) :
    (text ++ sign :: behind).takeWhile (· ≠ sign) = text ∧
      (text ++ sign :: behind).dropWhile (· ≠ sign) = sign :: behind := by
  apply cut_at_end
  · intro char member
    exact decide_eq_true (ne_of_mem_of_not_mem member absent)
  · exact decide_eq_false (not_not_intro rfl)

/-- Texts with a sign behind them are the same if neither has the sign itself. -/
theorem append_sign_inj {sign : Char} {text other behind later : List Char}
    (absent : sign ∉ text) (absent' : sign ∉ other)
    (same : text ++ sign :: behind = other ++ sign :: later) :
    text = other ∧ behind = later := by
  rcases cut_at absent behind with ⟨front, back⟩
  rw [same, (cut_at absent' later).1] at front
  rw [same, (cut_at absent' later).2] at back
  exact ⟨front.symm, (List.cons.inj back).2.symm⟩

/-! ## Signs that are not in a number -/

theorem notMem_repr {sign : Char} (noDigit : sign.isDigit = false) (number : Nat) :
    sign ∉ number.repr.toList := by
  rw [Nat.toList_repr]
  intro member
  have digit := Nat.isDigit_of_mem_toDigits (by decide) (by decide) member
  rw [noDigit] at digit
  cases digit

/-- An integer is written with digits, behind a minus sign or none. -/
theorem notMem_toString {sign : Char} (noDigit : sign.isDigit = false)
    (noMinus : sign ≠ '-') (value : Int) :
    sign ∉ (toString value).toList := by
  rw [Int.toString_eq_repr, Int.repr_eq_if]
  split
  · exact notMem_repr noDigit _
  · have minus : sign ∉ "-".toList := by simpa using noMinus
    rw [String.toList_append, List.mem_append, not_or]
    exact ⟨minus, notMem_repr noDigit _⟩

/-! ## Lines -/

/-- The text of lines, with a line feed behind each of them. -/
def ofLines (lines : List String) : String :=
  String.join (lines.map (· ++ "\n"))

@[simp]
theorem ofLines_cons (line : String) (rest : List String) :
    ofLines (line :: rest) = line ++ "\n" ++ ofLines rest := by
  rw [ofLines, List.map_cons, String.join_cons, ofLines]

@[simp]
theorem ofLines_append (left right : List String) :
    ofLines (left ++ right) = ofLines left ++ ofLines right := by
  rw [ofLines, List.map_append, String.join_append, ofLines, ofLines]

/-- The lines of a text, up to its last line feed. -/
def linesOf (text : String) : List String :=
  (text.toList.splitOn '\n').dropLast.map String.ofList

theorem linesOf_ofLines {lines : List String}
    (plain : ∀ line ∈ lines, '\n' ∉ line.toList) :
    linesOf (ofLines lines) = lines := by
  have split :
      (ofLines lines).toList.splitOn '\n' = lines.map String.toList ++ [[]] := by
    induction lines with
    | nil => rfl
    | cons line rest induction =>
        rw [List.forall_mem_cons] at plain
        rw [ofLines_cons, String.toList_append, String.toList_append,
          List.append_assoc, List.map_cons, List.cons_append, ← induction plain.2]
        exact List.splitOn_append_cons_self_of_not_mem plain.1
          (ofLines rest).toList
  rw [linesOf, split, List.dropLast_concat, List.map_map]
  refine (List.map_congr_left fun line _ => ?_).trans (List.map_id lines)
  exact String.ofList_toList

end Text

end WidgetTemplate
