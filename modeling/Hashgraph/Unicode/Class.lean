import Hashgraph.Unicode.Bounds

/-! Classes of characters: letters, alphanumeric characters, blanks. -/

namespace Hashgraph.Unicode

def boundsUpTo (bounds : Array Nat) (code : Nat) (low high : Nat) : Nat :=
  if low < high then
    let middle := (low + high) / 2
    if bounds.getD middle 0 ≤ code then boundsUpTo bounds code (middle + 1) high
    else boundsUpTo bounds code low middle
  else low
termination_by high - low

def isWithin (bounds : Array Nat) (c : Char) : Bool := boundsUpTo bounds c.toNat 0 bounds.size % 2 = 1

def isLetter (c : Char) : Bool := if c ≤ '\x7f' then c.isAlpha else isWithin letterBounds c

def isAlphabetic (c : Char) : Bool :=
  if c ≤ '\x7f' then c.isAlpha else isWithin letterBounds c || isWithin otherAlphabeticBounds c

def isAlphanumeric (c : Char) : Bool :=
  if c ≤ '\x7f' then c.isAlphanum else isAlphabetic c || isWithin numberBounds c

def isNameMark (c : Char) : Bool := isWithin markBounds c

def isSpace (c : Char) : Bool :=
  c = ' ' || c = '\u00a0' || c = '\u1680' || ('\u2000' ≤ c && c ≤ '\u200a') || c = '\u202f' || c = '\u205f' ||
    c = '\u3000'

/-- White space: space separators, the controls from tab to carriage return, next line and both separators. -/
def isWhiteSpace (c : Char) : Bool :=
  ('\t' ≤ c && c ≤ '\x0d') || isSpace c || c = '\u0085' || c = '\u2028' || c = '\u2029'

def trim (text : List Char) : List Char :=
  ((text.dropWhile isWhiteSpace).reverse.dropWhile isWhiteSpace).reverse

end Hashgraph.Unicode
