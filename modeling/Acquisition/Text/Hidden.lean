/-
# Acquisition.Text.Hidden — characters that do not show

A character does not show when it is a control, a blank other than the plain one, a
separator, a format character, left to private use, not assigned, a mark that extends the
character before it, or one that is ignored where it cannot be displayed. `hiddenClasses`
lists these classes of Unicode 17.0 and `isHidden` looks a character up in them.
-/
import Acquisition.Text.CodeRange
import Acquisition.Text.Unassigned
import Acquisition.Text.Extender

namespace Acquisition.Text

set_option autoImplicit false

/-- The control characters (general category `Cc`). -/
def controls : List CodeRange :=
  [⟨0x00, 0x1F⟩, ⟨0x7F, 0x9F⟩]

/-- The blanks and the separators of lines and paragraphs (general category `Z`). -/
def separators : List CodeRange :=
  [⟨0x20, 0x20⟩, ⟨0xA0, 0xA0⟩, ⟨0x1680, 0x1680⟩, ⟨0x2000, 0x200A⟩, ⟨0x2028, 0x2029⟩,
   ⟨0x202F, 0x202F⟩, ⟨0x205F, 0x205F⟩, ⟨0x3000, 0x3000⟩]

/-- The format characters (general category `Cf`). -/
def formats : List CodeRange :=
  [⟨0xAD, 0xAD⟩, ⟨0x600, 0x605⟩, ⟨0x61C, 0x61C⟩, ⟨0x6DD, 0x6DD⟩, ⟨0x70F, 0x70F⟩, ⟨0x890, 0x891⟩,
   ⟨0x8E2, 0x8E2⟩, ⟨0x180E, 0x180E⟩, ⟨0x200B, 0x200F⟩, ⟨0x202A, 0x202E⟩, ⟨0x2060, 0x2064⟩,
   ⟨0x2066, 0x206F⟩, ⟨0xFEFF, 0xFEFF⟩, ⟨0xFFF9, 0xFFFB⟩, ⟨0x110BD, 0x110BD⟩, ⟨0x110CD, 0x110CD⟩,
   ⟨0x13430, 0x1343F⟩, ⟨0x1BCA0, 0x1BCA3⟩, ⟨0x1D173, 0x1D17A⟩, ⟨0xE0001, 0xE0001⟩,
   ⟨0xE0020, 0xE007F⟩]

/-- The codes left to private use (general category `Co`). -/
def privateUse : List CodeRange :=
  [⟨0xE000, 0xF8FF⟩, ⟨0xF0000, 0xFFFFD⟩, ⟨0x100000, 0x10FFFD⟩]

/-- The characters that are ignored where they cannot be displayed, fillers among them
(property `Default_Ignorable_Code_Point`). -/
def ignorable : List CodeRange :=
  [⟨0xAD, 0xAD⟩, ⟨0x34F, 0x34F⟩, ⟨0x61C, 0x61C⟩, ⟨0x115F, 0x1160⟩, ⟨0x17B4, 0x17B5⟩,
   ⟨0x180B, 0x180F⟩, ⟨0x200B, 0x200F⟩, ⟨0x202A, 0x202E⟩, ⟨0x2060, 0x206F⟩, ⟨0x3164, 0x3164⟩,
   ⟨0xFE00, 0xFE0F⟩, ⟨0xFEFF, 0xFEFF⟩, ⟨0xFFA0, 0xFFA0⟩, ⟨0xFFF0, 0xFFF8⟩, ⟨0x1BCA0, 0x1BCA3⟩,
   ⟨0x1D173, 0x1D17A⟩, ⟨0xE0000, 0xE0FFF⟩]

/-- The classes of characters that do not show, the plain blank apart. -/
def hiddenClasses : List (List CodeRange) :=
  [controls, separators, formats, privateUse, unassigned, extenders, ignorable]

/-- Whether a character does not show. -/
def isHidden (char : Char) : Bool :=
  char != ' ' && hiddenClasses.any fun ranges => CodeRange.covers ranges char.toNat

end Acquisition.Text
