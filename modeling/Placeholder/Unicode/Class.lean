/-
The classes of characters that patterns and the names in them are made of: word characters, decimal digits, letters
and numbers of all scripts.
-/
import Placeholder.Text
import Placeholder.Unicode.AlphanumericTable
import Placeholder.Unicode.WordTable
import Placeholder.Unicode.DigitTable

namespace Placeholder.Unicode

/-- Letters, marks, decimal digits, connectors and joiners. -/
def isWord (c : Char) : Bool := wordRanges.holds c.toNat

def isDigit (c : Char) : Bool := digitRanges.holds c.toNat

def isAlphabetic (c : Char) : Bool := alphabeticRanges.holds c.toNat

def isAlphanumeric (c : Char) : Bool := isAlphabetic c || numericRanges.holds c.toNat

/-- The word characters of ASCII. -/
def isAsciiWord (c : Char) : Bool := Text.isAsciiLetter c || Text.isAsciiDigit c || c == '_'

end Placeholder.Unicode
