/-!
# Blank characters

The characters with the Unicode property `White_Space`.
-/

namespace WidgetTemplate.Text

/-- Whether a character is white space in any script. -/
def isBlank (char : Char) : Bool :=
  let code := char.toNat
  (0x9 ≤ code && code ≤ 0xd) ||
    code == 0x20 ||
    code == 0x85 ||
    code == 0xa0 ||
    code == 0x1680 ||
    (0x2000 ≤ code && code ≤ 0x200a) ||
    code == 0x2028 ||
    code == 0x2029 ||
    code == 0x202f ||
    code == 0x205f ||
    code == 0x3000

/-- The first character of a text that is not blank. -/
def firstVisible? (source : String) : Option Char :=
  source.toList.find? (!isBlank ·)

end WidgetTemplate.Text
