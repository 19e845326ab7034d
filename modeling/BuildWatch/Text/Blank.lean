/-!
# Blank characters and lines

The blank characters are those that Unicode counts as white space.  A line is
trimmed of them at both ends, and is blank if nothing is left.
-/

namespace BuildWatch.Blank

/-- The white space of Unicode. -/
def isBlank (character : Char) : Bool :=
  let code := character.toNat
  (9 ≤ code && code ≤ 13) || code = 0x20 || code = 0x85 || code = 0xA0
    || code = 0x1680 || (0x2000 ≤ code && code ≤ 0x200A)
    || code = 0x2028 || code = 0x2029 || code = 0x202F || code = 0x205F
    || code = 0x3000

def trimEnd (text : List Char) : List Char :=
  (text.reverse.dropWhile isBlank).reverse

def trimList (text : List Char) : List Char :=
  trimEnd (text.dropWhile isBlank)

def trim (text : String) : String :=
  String.ofList (trimList text.toList)

end BuildWatch.Blank
