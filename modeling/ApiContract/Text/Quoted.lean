import ApiContract.Text.Printable
import ApiContract.Text.Units

/-!
# Quoted text

A text inside a list or a dictionary is shown in quotes: single ones, unless
the text has a single and no double quote.  The quote in use and the backslash
are written after a backslash, the three common controls by letter, and every
other character that does not show by its number.
-/

namespace ApiContract.Text

/-- The digits of a number in base sixteen, in small letters, padded with zeros
to a width. -/
def hexText (width n : Nat) : List Char :=
  let digits := Nat.toDigits 16 n
  List.replicate (width - digits.length) '0' ++ digits

/-- The quote that a text is put in. -/
def quoteFor (cs : List Char) : Char :=
  if cs.contains '\x27' && !cs.contains '\x22' then '\x22' else '\x27'

/-- How a character is written between two `quote` characters. -/
def quotedChar (quote c : Char) : List Char :=
  if c == quote || c == '\\' then ['\\', c]
  else if c == '\n' then ['\\', 'n']
  else if c == '\r' then ['\\', 'r']
  else if c == '\t' then ['\\', 't']
  else if isPrintable c then [c]
  else if c.toNat < 0x100 then '\\' :: 'x' :: hexText 2 c.toNat
  else if c.toNat < 0x10000 then '\\' :: 'u' :: hexText 4 c.toNat
  else '\\' :: 'U' :: hexText 8 c.toNat

/-- A text in quotes. -/
def quoted (s : String) : String :=
  let quote := quoteFor s.toList
  String.ofList (quote :: s.toList.flatMap (quotedChar quote) ++ [quote])

/-- Code points in quotes: halves of pairs are written by their numbers. -/
def quotedCodes (codes : List Nat) : String :=
  let quote := quoteFor (codes.map Char.ofNat)
  let write n :=
    if isHalf n then '\\' :: 'u' :: hexText 4 n else quotedChar quote (Char.ofNat n)
  String.ofList (quote :: codes.flatMap write ++ [quote])

end ApiContract.Text
