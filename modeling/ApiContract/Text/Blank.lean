/-!
# Blank space

White space is the property of that name; a few separators among the controls
count as blank besides when the ends of a text are stripped.
-/

namespace ApiContract.Text

/-- White space of every script. -/
def isWhiteSpace (c : Char) : Bool :=
  let n := c.toNat
  (0x9 ≤ n && n ≤ 0xD) || n == 0x20 || n == 0x85 || n == 0xA0 || n == 0x1680
    || (0x2000 ≤ n && n ≤ 0x200A) || n == 0x2028 || n == 0x2029 || n == 0x202F || n == 0x205F
    || n == 0x3000

/-- White space, and the four separators among the controls. -/
def isBlank (c : Char) : Bool :=
  isWhiteSpace c || (0x1C ≤ c.toNat && c.toNat ≤ 0x1F)

/-- A text without the characters of a class at its ends. -/
def stripBy (p : Char → Bool) (cs : List Char) : List Char :=
  ((cs.dropWhile p).reverse.dropWhile p).reverse

example : stripBy isBlank [' ', 'a', ' ', 'b', '\n'] = ['a', ' ', 'b'] := by decide

end ApiContract.Text
