/-!
# Hexadecimal digits
-/

namespace WidgetTemplate.Text

/-- The value of a hexadecimal digit. -/
def hexValue? (char : Char) : Option Nat :=
  if '0' ≤ char ∧ char ≤ '9' then
    some (char.toNat - '0'.toNat)
  else if 'a' ≤ char ∧ char ≤ 'f' then
    some (char.toNat - 'a'.toNat + 10)
  else if 'A' ≤ char ∧ char ≤ 'F' then
    some (char.toNat - 'A'.toNat + 10)
  else
    none

/-- The digit value of a character in a base of at most sixteen. -/
def digitValue? (base : Nat) (char : Char) : Option Nat :=
  (hexValue? char).filter (· < base)

/-- What digits stand for in a base, if they are digits and there are some. -/
def digitsValue? (base : Nat) : List Char → Option Nat
  | [] => none
  | chars =>
      chars.foldlM
        (fun total char => (digitValue? base char).map (total * base + ·))
        0

end WidgetTemplate.Text
