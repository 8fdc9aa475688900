/-
Text as a list of characters, with the few operations that the whole library shares: blanks and
trimming, sizes in UTF-8 bytes, splitting, joining, padding, and comparison up to the case of
ASCII letters.
-/
import Placeholder.Unicode.Ranges

namespace Placeholder

/-- A text is its characters; laws about texts are laws about lists. -/
abbrev Text := List Char

namespace Text

/-- The blank characters of every script. -/
def blankRanges : Unicode.Ranges :=
  [(0x9, 0xd), (0x20, 0x20), (0x85, 0x85), (0xa0, 0xa0), (0x1680, 0x1680), (0x2000, 0x200a),
   (0x2028, 0x2029), (0x202f, 0x202f), (0x205f, 0x205f), (0x3000, 0x3000)]

def isBlank (c : Char) : Bool := blankRanges.holds c.toNat

def trimStart (t : Text) : Text := t.dropWhile isBlank

def trimEnd (t : Text) : Text := (t.reverse.dropWhile isBlank).reverse

/-- The text without the blanks at its two ends. -/
def trim (t : Text) : Text := (trimStart t).trimEnd

/-- The number of bytes of the text in UTF-8. -/
def byteSize : Text → Nat
  | [] => 0
  | c :: t => c.utf8Size + byteSize t

/-- What stands before and after the first `c`. -/
def splitAtFirst? (c : Char) : Text → Option (Text × Text)
  | [] => none
  | d :: t => if d = c then some ([], t) else (splitAtFirst? c t).map fun (a, b) => (d :: a, b)

/-- The rest of a text that starts with `head`. -/
def afterHead? : (head : Text) → Text → Option Text
  | [], t => some t
  | _ :: _, [] => none
  | c :: head, d :: t => if c = d then afterHead? head t else none

/-- The parts between the characters that `isSeparator` picks; there is always one part at least. -/
def splitOn (isSeparator : Char → Bool) : Text → List Text
  | [] => [[]]
  | c :: t =>
    if isSeparator c then [] :: splitOn isSeparator t
    else match splitOn isSeparator t with
      | [] => [[c]]
      | part :: parts => (c :: part) :: parts

def joinWith (separator : Text) : List Text → Text
  | [] => []
  | [t] => t
  | t :: ts => t ++ separator ++ joinWith separator ts

/-- Fills the text with `c` on the left up to `width` characters. -/
def padLeft (width : Nat) (c : Char) (t : Text) : Text :=
  List.replicate (width - t.length) c ++ t

/-- The decimal digits of a number, without leading zeros. -/
def ofNat (n : Nat) : Text := Nat.toDigits 10 n

/-- The decimal digits of a number behind a minus sign if it is negative. -/
def ofInt (i : Int) : Text := if i < 0 then '-' :: ofNat i.natAbs else ofNat i.natAbs

def isAsciiDigit (c : Char) : Bool := '0' ≤ c && c ≤ '9'

def isAsciiLetter (c : Char) : Bool := ('a' ≤ c && c ≤ 'z') || ('A' ≤ c && c ≤ 'Z')

def digitValue (c : Char) : Nat := c.toNat - '0'.toNat

/-- The number that a run of ASCII digits denotes. -/
def natOfDigits (t : Text) : Nat := t.foldl (fun n c => 10 * n + digitValue c) 0

/-- Takes the ASCII digits at the start of a text. -/
def takeDigits (t : Text) : Text × Text := (t.takeWhile isAsciiDigit, t.dropWhile isAsciiDigit)

/-- Replaces the ASCII capitals by their small letters and keeps every other character. -/
def asciiLower (t : Text) : Text := t.map Char.toLower

def asciiUpper (t : Text) : Text := t.map Char.toUpper

/-- Equality up to the case of ASCII letters. -/
def sameUpToAsciiCase (a b : Text) : Bool := asciiLower a == asciiLower b

/-- The order of texts by code points, which is their order by UTF-8 bytes. -/
def before : Text → Text → Bool
  | _, [] => false
  | [], _ :: _ => true
  | c :: a, d :: b => if c = d then before a b else c.toNat < d.toNat

/-- Removes the trailing occurrences of `c`. -/
def dropTrailing (c : Char) (t : Text) : Text := (t.reverse.dropWhile (· == c)).reverse

end Text

end Placeholder
