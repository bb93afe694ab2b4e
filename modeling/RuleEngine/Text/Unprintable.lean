import RuleEngine.Text.Extending
import RuleEngine.Text.Unassigned

/-!
# Characters that a quoted string does not show

A quoted string shows a character as it is when it has a glyph of its own.  Controls, format
characters, separators other than the space, fillers, characters for private use, marks that extend
the grapheme before them and unassigned code points have none.  Everything else is shown, and so are
the two voicing marks that stand beside the letter that they extend.
-/

namespace RuleEngine
namespace Text

def controls : Ranges :=
  [(0x0, 0x1f), (0x7f, 0x9f)]

/-- The characters that only direct how the text around them is laid out. -/
def formats : Ranges :=
  [(0xad, 0xad), (0x600, 0x605), (0x61c, 0x61c), (0x6dd, 0x6dd), (0x70f, 0x70f), (0x890, 0x891),
   (0x8e2, 0x8e2), (0x180e, 0x180e), (0x200b, 0x200f), (0x202a, 0x202e), (0x2060, 0x2064),
   (0x2066, 0x206f), (0xfeff, 0xfeff), (0xfff9, 0xfffb), (0x110bd, 0x110bd), (0x110cd, 0x110cd),
   (0x13430, 0x1343f), (0x1bca0, 0x1bca3), (0x1d173, 0x1d17a), (0xe0001, 0xe0001),
   (0xe0020, 0xe007f)]

/-- The separators of words, lines and paragraphs, other than the space. -/
def separators : Ranges :=
  [(0xa0, 0xa0), (0x1680, 0x1680), (0x2000, 0x200a), (0x2028, 0x2029), (0x202f, 0x202f),
   (0x205f, 0x205f), (0x3000, 0x3000)]

/-- The letters that stand in an empty place of a syllable and are not drawn. -/
def fillers : Ranges :=
  [(0x115f, 0x1160), (0x3164, 0x3164), (0xffa0, 0xffa0)]

def privateUse : Ranges :=
  [(0xe000, 0xf8ff), (0xf0000, 0xffffd), (0x100000, 0x10fffd)]

/-- The halfwidth voicing marks.  They extend the letter before them and are drawn beside it. -/
def voicingMarks : Ranges :=
  [(0xff9e, 0xff9f)]

/-- The classes of characters that have no glyph of their own, the voicing marks apart. -/
def unprintableClasses : List Ranges :=
  [controls, formats, separators, fillers, privateUse, extending, unassigned]

def isUnprintable (c : Char) : Bool :=
  !voicingMarks.contains c.toNat && unprintableClasses.any (·.contains c.toNat)

end Text
end RuleEngine
