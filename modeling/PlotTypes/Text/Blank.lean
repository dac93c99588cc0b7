/-
  PlotTypes.Text.Blank — two character classes of Unicode: white space and control
  characters.
-/

import PlotTypes.Text.Pieces

namespace PlotTypes.Text

/-- Unicode's White_Space. U+001C to U+001F and U+200B are not in it. -/
def isBlank (c : Char) : Bool :=
  inRanges [(0x9, 0xD), (0x20, 0x20), (0x85, 0x85), (0xA0, 0xA0), (0x1680, 0x1680), (0x2000, 0x200A),
    (0x2028, 0x2029), (0x202F, 0x202F), (0x205F, 0x205F), (0x3000, 0x3000)] c

/-- Unicode's general category Cc. -/
def isControl (c : Char) : Bool := inRanges [(0x0, 0x1F), (0x7F, 0x9F)] c

def allBlank (s : List Char) : Bool := s.all isBlank

end PlotTypes.Text
