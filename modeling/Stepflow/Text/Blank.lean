/-
  Stepflow.Text.Blank — white space, and trimming by it.

  A character is blank when it has the White_Space property of Unicode: the line
  and space controls, the no-break space, the spaces of general punctuation and the
  ideographic space. The zero-width space and the byte order mark are not blank.
  Trimming works on the characters of a text; `trim` is `trimEnd` after `trimStart`.
-/

namespace Stepflow.Text

def isBlank (c : Char) : Bool :=
  let n := c.toNat
  (0x9 ≤ n && n ≤ 0xD) || n == 0x20 || n == 0x85 || n == 0xA0 || n == 0x1680 ||
    (0x2000 ≤ n && n ≤ 0x200A) || n == 0x2028 || n == 0x2029 || n == 0x202F ||
    n == 0x205F || n == 0x3000

def trimStart (cs : List Char) : List Char := cs.dropWhile isBlank

def trimEnd (cs : List Char) : List Char := (cs.reverse.dropWhile isBlank).reverse

def trimChars (cs : List Char) : List Char := trimEnd (trimStart cs)

def trim (s : String) : String := String.ofList (trimChars s.toList)

def isBlankText (s : String) : Bool := s.toList.all isBlank

def trimmed? (s : String) : Option String :=
  let t := trim s
  if t.isEmpty then none else some t

end Stepflow.Text
