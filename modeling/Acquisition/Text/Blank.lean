/-
# Acquisition.Text.Blank — blanks and ends of lines

The characters that leave room or end a line (Unicode 17.0, property `White_Space`), and
`trimEnd`, which takes them off the end of a text.
-/
import Acquisition.Text.CodeRange

namespace Acquisition.Text

set_option autoImplicit false

/-- The characters that leave room or end a line. -/
def blanks : List CodeRange :=
  [⟨0x09, 0x0D⟩, ⟨0x20, 0x20⟩, ⟨0x85, 0x85⟩, ⟨0xA0, 0xA0⟩, ⟨0x1680, 0x1680⟩, ⟨0x2000, 0x200A⟩,
   ⟨0x2028, 0x2029⟩, ⟨0x202F, 0x202F⟩, ⟨0x205F, 0x205F⟩, ⟨0x3000, 0x3000⟩]

/-- Whether a character leaves room or ends a line. -/
def isBlank (char : Char) : Bool :=
  CodeRange.covers blanks char.toNat

/-- A text without the blanks at its end. -/
def trimEnd (text : String) : String :=
  String.ofList (text.toList.reverse.dropWhile isBlank).reverse

end Acquisition.Text
