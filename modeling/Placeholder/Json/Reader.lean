/-
Reading JSON texts.

Values may be nested 127 deep. Whole numbers that fit into 64 bits are kept as they are. Every
other number is the product or quotient of its first digits, as many as fit into 64 bits, and a
power of ten, each of them rounded.
-/
import Placeholder.Json.Basic

namespace Placeholder.Json

def isSpace (c : Char) : Bool := c == ' ' || c == '\n' || c == '\t' || c == '\r'

def skipSpace (t : Text) : Text := t.dropWhile isSpace

/-! ## Strings -/

def hexDigit? (c : Char) : Option Nat :=
  if '0' ≤ c && c ≤ '9' then some (c.toNat - 48)
  else if 'a' ≤ c && c ≤ 'f' then some (c.toNat - 87)
  else if 'A' ≤ c && c ≤ 'F' then some (c.toNat - 55)
  else none

/-- Four hexadecimal digits. -/
def readFourHex : Text → Option (Nat × Text)
  | a :: b :: c :: d :: t => do
    let a ← hexDigit? a
    let b ← hexDigit? b
    let c ← hexDigit? c
    let d ← hexDigit? d
    return (((a * 16 + b) * 16 + c) * 16 + d, t)
  | _ => none

/-- The character whose number stands behind `\u`; two halves of a surrogate pair make one. -/
def readUnicode (t : Text) : Except Fault (Char × Text) :=
  match readFourHex t with
  | none => .error .badEscape
  | some (n, t) =>
    if 0xdc00 ≤ n && n ≤ 0xdfff then .error .badEscape
    else if 0xd800 ≤ n && n ≤ 0xdbff then
      match t with
      | '\\' :: 'u' :: t => match readFourHex t with
        | some (low, t) =>
          if 0xdc00 ≤ low && low ≤ 0xdfff then
            .ok (Char.ofNat (0x10000 + (n - 0xd800) * 1024 + (low - 0xdc00)), t)
          else .error .badEscape
        | none => .error .badEscape
      | _ => .error .badEscape
    else .ok (Char.ofNat n, t)

/-- The character behind a backslash. -/
def readEscape : Text → Except Fault (Char × Text)
  | [] => .error .endOfText
  | c :: t => match c with
    | '"' => .ok ('"', t)
    | '\\' => .ok ('\\', t)
    | '/' => .ok ('/', t)
    | 'b' => .ok (Char.ofNat 8, t)
    | 'f' => .ok (Char.ofNat 12, t)
    | 'n' => .ok ('\n', t)
    | 'r' => .ok ('\r', t)
    | 't' => .ok ('\t', t)
    | 'u' => readUnicode t
    | _ => .error .badEscape

/-- The rest of a string, up to its closing quote. -/
def readString : (fuel : Nat) → Text → Except Fault (Text × Text)
  | 0, _ => .error .endOfText
  | _, [] => .error .endOfText
  | fuel + 1, c :: t =>
    if c = '"' then .ok ([], t)
    else if c = '\\' then do
      let (d, t) ← readEscape t
      let (s, t) ← readString fuel t
      return (d :: s, t)
    else if c.toNat < 0x20 then .error .badString
    else do
      let (s, t) ← readString fuel t
      return (c :: s, t)

/-! ## Numbers -/

/-- The sizes of whole numbers that are kept. -/
def wordLimit : Nat := 2 ^ 64

/-- A power of ten as a floating-point number. -/
def tenPower (n : Nat) : Binary64 := Binary64.ofNat (10 ^ n)

/-- `x * 10 ^ exponent` in steps that a floating-point power of ten can take. -/
def scaleFloat : (fuel : Nat) → Binary64 → Int → Except Fault Binary64
  | 0, x, _ => .ok x
  | fuel + 1, x, exponent =>
    if exponent.natAbs ≤ 308 then
      if 0 ≤ exponent then
        match x.mul (tenPower exponent.toNat) with
        | .infinite _ => .error .numberOutOfRange
        | y => .ok y
      else .ok (x.div (tenPower exponent.natAbs))
    else if x.isZero then .ok x
    else if 0 ≤ exponent then .error .numberOutOfRange
    else scaleFloat fuel (x.div (tenPower 308)) (exponent + 308)

/-- The floating-point number of a significand and a power of ten. -/
def floatOf (negative : Bool) (significand : Nat) (exponent : Int) : Except Fault Binary64 := do
  let x ← scaleFloat 5 (Binary64.ofNat significand) exponent
  return if negative then x.neg else x

/-- Takes digits into a significand as long as it fits into 64 bits; the second result tells how
many digits were taken. -/
def takeSignificand : (significand count : Nat) → Text → Nat × Nat × Text
  | s, n, [] => (s, n, [])
  | s, n, c :: t =>
    if Text.isAsciiDigit c && 10 * s + Text.digitValue c < wordLimit then
      takeSignificand (10 * s + Text.digitValue c) (n + 1) t
    else (s, n, c :: t)

/-- The exponent behind its letter. -/
def readExponent (t : Text) : Except Fault (Int × Text) :=
  let (negative, t) := match t with
    | '+' :: t => (false, t)
    | '-' :: t => (true, t)
    | t => (false, t)
  match Text.takeDigits t with
  | ([], []) => .error .endOfText
  | ([], _) => .error .badNumber
  | (digits, t) =>
    let n : Int := Text.natOfDigits digits
    .ok (if negative then -n else n, t)

/-- The rest of a floating-point number behind the digits of its whole and broken parts. -/
def readFloatEnd (negative : Bool) (significand : Nat) (exponent : Int) (t : Text) : Except Fault (Json × Text) :=
  match t with
  | c :: after =>
    if c = 'e' || c = 'E' then do
      let (e, t) ← readExponent after
      return (float (← floatOf negative significand (exponent + e)), t)
    else do return (float (← floatOf negative significand exponent), c :: after)
  | [] => do return (float (← floatOf negative significand exponent), [])

/-- The rest of a number behind the digits before its point. -/
def readNumberEnd (negative : Bool) (significand dropped : Nat) (t : Text) : Except Fault (Json × Text) :=
  match t with
  | '.' :: after =>
    let (s, count, t) := takeSignificand significand 0 after
    if count = 0 then
      match after with
      | c :: _ =>
        if Text.isAsciiDigit c then
          readFloatEnd negative significand dropped (after.dropWhile Text.isAsciiDigit)
        else .error .badNumber
      | [] => .error .endOfText
    else readFloatEnd negative s ((dropped : Int) - count) (t.dropWhile Text.isAsciiDigit)
  | t =>
    let isExponent := match t with
      | c :: _ => c == 'e' || c == 'E'
      | [] => false
    if dropped ≠ 0 || isExponent then readFloatEnd negative significand dropped t
    else if !negative then .ok (integer significand, t)
    else if significand = 0 || 2 ^ 63 < significand then
      .ok (float (Binary64.ofNat significand).neg, t)
    else .ok (integer (-(significand : Int)), t)

/-- An unsigned number. -/
def readUnsigned (negative : Bool) (t : Text) : Except Fault (Json × Text) :=
  match t with
  | [] => .error .endOfText
  | c :: after =>
    if c = '0' then
      match after with
      | d :: _ => if Text.isAsciiDigit d then .error .badNumber else readNumberEnd negative 0 0 after
      | [] => readNumberEnd negative 0 0 []
    else if Text.isAsciiDigit c then
      let (s, _, rest) := takeSignificand 0 0 t
      let (more, rest) := Text.takeDigits rest
      readNumberEnd negative s more.length rest
    else .error .badNumber

/-! ## Values -/

/-- The depth at which values are refused. -/
def depthLimit : Nat := 128

/-- Reads a fixed word. -/
def readWord (word : String) (value : Json) (t : Text) : Except Fault (Json × Text) :=
  match Text.afterHead? word.toList t with
  | some t => .ok (value, t)
  | none => .error .unexpected

mutual

/-- Reads a value; arrays and objects may nest less than `depth` deep. -/
def readValue : (fuel depth : Nat) → Text → Except Fault (Json × Text)
  | 0, _, _ => .error .endOfText
  | fuel + 1, depth, t =>
    match skipSpace t with
    | [] => .error .endOfText
    | c :: t =>
      if c = 'n' then readWord "ull" null t
      else if c = 't' then readWord "rue" (bool true) t
      else if c = 'f' then readWord "alse" (bool false) t
      else if c = '"' then do
        let (s, t) ← readString (t.length + 1) t
        return (string s, t)
      else if c = '-' then readUnsigned true t
      else if Text.isAsciiDigit c then readUnsigned false (c :: t)
      else if c = '[' then
        if depth ≤ 1 then .error .tooDeep
        else match skipSpace t with
          | ']' :: t => .ok (array [], t)
          | t => do
            let (items, t) ← readItems fuel (depth - 1) t
            return (array items, t)
      else if c = '\x7b' then
        if depth ≤ 1 then .error .tooDeep
        else match skipSpace t with
          | '\x7d' :: t => .ok (object [], t)
          | t => do
            let (members, t) ← readMembers fuel (depth - 1) [] t
            return (object members, t)
      else .error .unexpected

/-- Reads one item or more up to the closing bracket. -/
def readItems : (fuel depth : Nat) → Text → Except Fault (List Json × Text)
  | 0, _, _ => .error .endOfText
  | fuel + 1, depth, t => do
    let (item, t) ← readValue fuel depth t
    match skipSpace t with
    | ']' :: t => .ok ([item], t)
    | ',' :: t => do
      let (items, t) ← readItems fuel depth t
      return (item :: items, t)
    | [] => .error .endOfText
    | _ => .error .unexpected

/-- Reads one member or more up to the closing brace; of two members of one name the later stays. -/
def readMembers : (fuel depth : Nat) → List (Text × Json) → Text → Except Fault (List (Text × Json) × Text)
  | 0, _, _, _ => .error .endOfText
  | fuel + 1, depth, members, t =>
    match skipSpace t with
    | '"' :: t => do
      let (name, t) ← readString (t.length + 1) t
      match skipSpace t with
      | ':' :: t => do
        let (value, t) ← readValue fuel depth t
        let members := insertMember name value members
        match skipSpace t with
        | '\x7d' :: t => .ok (members, t)
        | ',' :: t => readMembers fuel depth members t
        | [] => .error .endOfText
        | _ => .error .unexpected
      | [] => .error .endOfText
      | _ => .error .unexpected
    | [] => .error .endOfText
    | _ => .error .unexpected

end

/-- Reads a text that holds one value. -/
def read (t : Text) : Except Fault Json := do
  let (value, rest) ← readValue (2 * t.length + 2) depthLimit t
  if (skipSpace rest).isEmpty then return value else throw .trailing

end Placeholder.Json
