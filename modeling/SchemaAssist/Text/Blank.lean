/-
  Blank characters and the trimming of text.

  Text is a list of characters here, because every scan of the library runs over it from one end.
  Blank means Unicode white space in the wide sense: the ASCII layout characters and the four
  information separators, the no-break space and every space of the general punctuation block.
  The zero-width space and the byte order mark are not blank.
-/
namespace SchemaAssist.Text

/-- Unicode white space. -/
def isBlank (c : Char) : Bool :=
  let n := c.toNat
  (decide (0x09 ≤ n) && decide (n ≤ 0x0D)) || (decide (0x1C ≤ n) && decide (n ≤ 0x20)) ||
    n == 0x85 || n == 0xA0 || n == 0x1680 || (decide (0x2000 ≤ n) && decide (n ≤ 0x200A)) ||
    n == 0x2028 || n == 0x2029 || n == 0x202F || n == 0x205F || n == 0x3000

def trimStart (s : List Char) : List Char := s.dropWhile isBlank

def trimEnd (s : List Char) : List Char := (s.reverse.dropWhile isBlank).reverse

def trim (s : List Char) : List Char := trimEnd (trimStart s)

end SchemaAssist.Text
