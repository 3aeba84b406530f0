/-!
# White space

The characters with the Unicode property `White_Space`, and the text left when they are taken
off both ends.
-/

namespace ResourceKernel.Text

/-- The characters that Unicode calls white space. -/
def isBlank (c : Char) : Bool :=
  let n := c.toNat
  (9 ≤ n && n ≤ 13) || n == 0x20 || n == 0x85 || n == 0xA0 || n == 0x1680 ||
    (0x2000 ≤ n && n ≤ 0x200A) || n == 0x2028 || n == 0x2029 || n == 0x202F || n == 0x205F ||
    n == 0x3000

/-- The list without the elements satisfying `p` at its two ends. -/
def stripEnds {α : Type} (p : α → Bool) (xs : List α) : List α :=
  ((xs.dropWhile p).reverse.dropWhile p).reverse

def trim (s : String) : String := String.ofList (stripEnds isBlank s.toList)

def isBlankText (s : String) : Bool := s.toList.all isBlank

end ResourceKernel.Text
