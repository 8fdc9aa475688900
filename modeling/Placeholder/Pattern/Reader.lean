/-
Reading the written form of a pattern.

Inside a pattern the flags `i` (case does not count), `m` (`^` and `$` look at lines), `s` (the
point takes line feeds), `R` (carriage returns end lines), `U` (greedy and lazy change places),
`u` (classes know all scripts) and `x` (blanks and comments are passed over) can be set for the
rest of a group. A written pattern that is not well formed is refused with its fault.

Where the flag `u` is off, only ASCII letters have a case, and a pattern that could take a part
of a character is refused: the point, every negated class, and a byte above 0x7f. In brackets
such a pattern can name ASCII characters alone.

All that can be written is read here. Which sets have a name behind `\p`, and how large a pattern
may become, is left to the engine.
-/
import Placeholder.Pattern.Engine
import Placeholder.Pattern.Search

namespace Placeholder.Pattern

/-- Why a written pattern is refused. -/
inductive Fault
  | unclosedGroup
  | unopenedGroup
  | badGroupName
  | repeatedGroupName
  | lookAround
  | backReference
  | badFlags
  | nothingToRepeat
  | badCount
  | unclosedClass
  | badClass
  | badEscape
  | unknownProperty
  | tooDeep
  | tooLarge
  deriving DecidableEq, Repr

namespace Fault

def message : Fault → Text
  | unclosedGroup => "a group is not closed".toList
  | unopenedGroup => "a group is closed that was not opened".toList
  | badGroupName => "a group has no proper name".toList
  | repeatedGroupName => "two groups have one name".toList
  | lookAround => "looking around is not supported".toList
  | backReference => "references to groups are not supported".toList
  | badFlags => "the flags are not proper".toList
  | nothingToRepeat => "there is nothing to repeat".toList
  | badCount => "the count of a repetition is not proper".toList
  | unclosedClass => "a character class is not closed".toList
  | badClass => "a character class is not proper".toList
  | badEscape => "an escape sequence is not proper".toList
  | unknownProperty => "the character property is not known".toList
  | tooDeep => "the pattern is nested too deep".toList
  | tooLarge => "the pattern is too large".toList

end Fault

structure Flags where
  ignoreCase : Bool := true
  multiLine : Bool := true
  dotAll : Bool := false
  returnsEndLines : Bool := false
  swapGreed : Bool := false
  allScripts : Bool := true
  verbose : Bool := false
  deriving DecidableEq, Repr

/-- Where a reader stands. -/
structure Reading where
  rest : Text
  flags : Flags
  groupCount : Nat
  names : List (Text × Nat)

/-- Reads a part of a pattern. -/
abbrev Reader := StateT Reading (Except Fault)

namespace Reader

def rest : Reader Text := return (← get).rest

def setRest (t : Text) : Reader Unit := modify fun r => { r with rest := t }

def flags : Reader Flags := return (← get).flags

/-- What follows a comment: the text behind the end of its line. -/
def afterComment (t : Text) : Text := (t.dropWhile (· != '\n')).drop 1

def skipBlanksFrom : Nat → Text → Text
  | 0, t => t
  | _, [] => []
  | n + 1, c :: t =>
    if Text.isBlank c then skipBlanksFrom n t
    else if c = '#' then skipBlanksFrom n (afterComment t)
    else c :: t

/-- Passes over blanks and comments where the flag `x` asks for it. -/
def skipBlanks : Reader Unit := do
  if (← flags).verbose then
    let t ← rest
    setRest (skipBlanksFrom t.length t)

/-- Passes over one character and the blanks behind it. -/
def bump : Reader Unit := do
  setRest ((← rest).drop 1)
  skipBlanks

def readRunFrom (p : Char → Bool) : Nat → (behind : Text) → Reader Text
  | 0, behind => return behind.reverse
  | n + 1, behind => do
    match ← rest with
    | [] => return behind.reverse
    | c :: _ => if p c then bump; readRunFrom p n (c :: behind) else return behind.reverse

/-- Reads characters as long as they have the property, with blanks between them. -/
def readRun (p : Char → Bool) : Reader Text := do readRunFrom p (← rest).length []

end Reader

open Reader

/-- Part of a pattern that was read, with its nesting depth. -/
structure Item where
  phrase : Phrase
  depth : Nat := 0
  repeatable : Bool := true

namespace Item

def depthLimit : Nat := 250

/-- The greatest depth among some. -/
def deepest (depths : List Nat) : Nat := depths.foldl max 0

def sequence : List Item → Item
  | [] => { phrase := .empty, repeatable := false }
  | [i] => i
  | is => ⟨.sequence (is.map (·.phrase)), deepest (is.map (·.depth)) + 1, true⟩

def choice : List Item → Item
  | [] => { phrase := .empty }
  | [i] => i
  | is => ⟨.choice (is.map (·.phrase)), deepest (is.map (·.depth)) + 1, true⟩

end Item

/-- The set of one written character. -/
def literalSet (flags : Flags) (c : Char) : CharSet :=
  if flags.allScripts then .literal flags.ignoreCase c
  else if flags.ignoreCase then .folded true (.chars [c])
  else .chars [c]

/-- What stands for one character or one place. -/
inductive Atom
  | literal (c : Char)
  | set (s : CharSet)
  | place (p : Place)

namespace Atom

def toItem (flags : Flags) : Atom → Item
  | literal c => { phrase := .one (literalSet flags c) }
  | set s => { phrase := .one s }
  | place p => { phrase := .look p }

end Atom

def hexValue? (c : Char) : Option Nat :=
  if '0' ≤ c && c ≤ '9' then some (c.toNat - 48)
  else if 'a' ≤ c && c ≤ 'f' then some (c.toNat - 87)
  else if 'A' ≤ c && c ≤ 'F' then some (c.toNat - 55)
  else none

/-- The character with the given number, if there is one. -/
def charOf? (n : Nat) : Option Char := if n.isValidChar then some (Char.ofNat n) else none

/-- Reads exactly `n` hexadecimal digits. -/
def readHexDigits : Nat → Nat → Reader Nat
  | 0, value => return value
  | n + 1, value => do
    match ← rest with
    | [] => throw .badEscape
    | c :: _ => match hexValue? c with
      | none => throw .badEscape
      | some d => bump; readHexDigits n (16 * value + d)

/-- Reads hexadecimal digits up to a closing brace. -/
def readBracedHex : Nat → Option Nat → Reader Nat
  | 0, _ => throw .badEscape
  | fuel + 1, value => do
    match ← rest with
    | [] => throw .badEscape
    | '}' :: _ => do
      bump
      match value with
      | some n => return n
      | none => throw .badEscape
    | c :: _ => match hexValue? c with
      | none => throw .badEscape
      | some d => bump; readBracedHex fuel (some (16 * value.getD 0 + d))

/-- Reads a character given by its number: `width` digits, or digits in braces. -/
def readHex (width : Nat) : Reader Char := do
  let n ← match ← rest with
    | '{' :: _ => do bump; readBracedHex ((← rest).length + 1) none
    | _ => readHexDigits width 0
  match charOf? n with
  | some c => return c
  | none => throw .badEscape

def asciiDigits : CharSet := .range '0' '9'

def asciiBlanks : CharSet := .chars ['\t', '\n', Char.ofNat 0xb, Char.ofNat 0xc, '\r', ' ']

def asciiWord : CharSet :=
  .union (.range '0' '9') (.union (.range 'A' 'Z') (.union (.chars ['_']) (.range 'a' 'z')))

/-- The class that `\d`, `\s`, `\w` or a negation of them names. -/
def classNamed? (allScripts : Bool) (name : Char) : Option CharSet :=
  let base := match name.toLower with
    | 'd' => some (if allScripts then CharSet.digit else asciiDigits)
    | 's' => some (if allScripts then CharSet.blank else asciiBlanks)
    | 'w' => some (if allScripts then CharSet.word else asciiWord)
    | _ => none
  if name.isUpper then (if allScripts then base.map .compl else none) else base

/-- Reads the kind of a word boundary in braces, if that is what follows. -/
def readBoundaryKind (ascii : Bool) : Reader Place := do
  let start ← get
  let isKindChar := fun c => Text.isAsciiLetter c || c == '-'
  match ← rest with
  | '{' :: _ => do
    bump
    match ← rest with
    | [] => throw .badEscape
    | c :: _ =>
      if isKindChar c then
        let name ← readRun isKindChar
        match ← rest with
        | '}' :: after =>
          setRest after
          match String.ofList name with
          | "start" => return .wordStart ascii
          | "end" => return .wordEnd ascii
          | "start-half" => return .beforeWordOrBlank ascii
          | "end-half" => return .afterWordOrBlank ascii
          | _ => throw .badEscape
        | _ => throw .badEscape
      else
        set start
        return .boundary ascii
  | _ => return .boundary ascii

def isMeta (c : Char) : Bool := "\\.+*?()|[]\x7b\x7d^$#&-~".toList.contains c

/-- Reads the name behind `\p`: one letter, or what stands in braces. -/
def readPropertyName : Reader Text := do
  skipBlanks
  match ← rest with
  | [] | '\\' :: _ => throw .badEscape
  | '\x7b' :: _ => do
    bump
    let name ← readRun (· != '}')
    match ← rest with
    | '}' :: after => setRest after; return name
    | _ => throw .badEscape
  | c :: after => setRest after; return [c]

/-- Reads the property behind `\p`, or behind `\P` if it is negated. -/
def readProperty (engine : Engine) (negated : Bool) : Reader CharSet := do
  let flags ← flags
  let name ← readPropertyName
  if !flags.allScripts then throw .badClass
  match engine.property? name with
  | none => throw .unknownProperty
  | some s =>
    let s := if flags.ignoreCase then .folded false s else s
    return if negated then .compl s else s

/-- Reads the digits behind `\x`; without braces they give a byte. -/
def readByte (ascii : Bool) : Reader Char := do
  skipBlanks
  let braced := (← rest).head? == some '\x7b'
  let c ← readHex 2
  if ascii && !braced && c.toNat > 0x7f then throw .badEscape
  return c

/-- Reads what stands behind a backslash. -/
def readEscape (engine : Engine) : Reader Atom := do
  let ascii := !(← flags).allScripts
  match ← rest with
  | [] => throw .badEscape
  | c :: after => do
    setRest after
    if '0' ≤ c && c ≤ '9' then throw .backReference
    match c with
    | 'x' => return .literal (← readByte ascii)
    | 'u' => skipBlanks; return .literal (← readHex 4)
    | 'U' => skipBlanks; return .literal (← readHex 8)
    | 'p' | 'P' => return .set (← readProperty engine (c == 'P'))
    | 'd' | 's' | 'w' | 'D' | 'S' | 'W' => match classNamed? (!ascii) c with
      | some s => return .set s
      | none => throw .badClass
    | 'a' => return .literal (Char.ofNat 7)
    | 'f' => return .literal (Char.ofNat 0xc)
    | 't' => return .literal '\t'
    | 'n' => return .literal '\n'
    | 'r' => return .literal '\r'
    | 'v' => return .literal (Char.ofNat 0xb)
    | 'A' => return .place .textStart
    | 'z' => return .place .textEnd
    | 'b' => return .place (← readBoundaryKind ascii)
    | 'B' => return .place (.inside ascii)
    | '<' => return .place (.wordStart ascii)
    | '>' => return .place (.wordEnd ascii)
    | _ =>
      if isMeta c || (c.toNat < 128 && !c.isAlphanum) then return .literal c
      else throw .badEscape

/-- The ASCII classes that a bracketed class can name, as ranges. -/
def asciiClass? (name : Text) : Option (List (Char × Char)) :=
  match String.ofList name with
  | "alnum" => some [('0', '9'), ('A', 'Z'), ('a', 'z')]
  | "alpha" => some [('A', 'Z'), ('a', 'z')]
  | "ascii" => some [(Char.ofNat 0, Char.ofNat 0x7f)]
  | "blank" => some [('\t', '\t'), (' ', ' ')]
  | "cntrl" => some [(Char.ofNat 0, Char.ofNat 0x1f), (Char.ofNat 0x7f, Char.ofNat 0x7f)]
  | "digit" => some [('0', '9')]
  | "graph" => some [('!', '~')]
  | "lower" => some [('a', 'z')]
  | "print" => some [(' ', '~')]
  | "punct" => some [('!', '/'), (':', '@'), ('[', Char.ofNat 0x60), (Char.ofNat 0x7b, '~')]
  | "space" => some [('\t', '\t'), ('\n', '\n'), (Char.ofNat 0xb, Char.ofNat 0xb),
      (Char.ofNat 0xc, Char.ofNat 0xc), ('\r', '\r'), (' ', ' ')]
  | "upper" => some [('A', 'Z')]
  | "word" => some [('0', '9'), ('A', 'Z'), ('_', '_'), ('a', 'z')]
  | "xdigit" => some [('0', '9'), ('A', 'F'), ('a', 'f')]
  | _ => none

def rangeSet (flags : Flags) (lo hi : Char) : CharSet :=
  if lo = hi then literalSet flags lo
  else if flags.ignoreCase then .folded (!flags.allScripts) (.range lo hi)
  else .range lo hi

/-- A class, or all characters but it, which must be characters of all scripts then. -/
def negateIf (negated : Bool) (flags : Flags) (s : CharSet) : Reader CharSet :=
  if !negated then return s
  else if flags.allScripts then return .compl s
  else throw .badClass

/-- Reads a class named in the form `[:name:]`, if that is what follows. -/
def readAsciiClass? : Reader (Option CharSet) := do
  let flags ← flags
  match ← rest with
  | '[' :: ':' :: t =>
    let (negated, t) := match t with
      | '^' :: t => (true, t)
      | t => (false, t)
    match t.dropWhile (· != ':') with
    | ':' :: ']' :: after => match asciiClass? (t.takeWhile (· != ':')) with
      | some ranges =>
        setRest after
        return some (← negateIf negated flags (.unionOf (ranges.map fun (lo, hi) => rangeSet flags lo hi)))
      | none => return none
    | _ => return none
  | _ => return none

/-- Reads one member of a bracketed class. -/
def readClassAtom (engine : Engine) : Reader Atom := do
  match ← rest with
  | [] => throw .unclosedClass
  | '\\' :: after => setRest after; readEscape engine
  | c :: _ => bump; return .literal c

/-- Whether a class can name the character. -/
def inClass (flags : Flags) (c : Char) : Bool := flags.allScripts || c.toNat < 128

def classAtomSet (flags : Flags) : Atom → Reader CharSet
  | .literal c => if inClass flags c then return literalSet flags c else throw .badClass
  | .set s => return s
  | .place _ => throw .badClass

/-- Whether a minus sign at the head of the text joins the ends of a range. -/
def joinsRange (verbose : Bool) : Text → Bool
  | '-' :: after =>
    let after := if verbose then skipBlanksFrom after.length after else after
    match after with
    | ']' :: _ => false
    | '-' :: _ => false
    | _ => true
  | _ => false

/-- Reads a member of a bracketed class or a range of them. -/
def readClassRange (engine : Engine) : Reader CharSet := do
  let flags ← flags
  let first ← readClassAtom engine
  skipBlanks
  match ← rest with
  | [] => throw .unclosedClass
  | t =>
    if joinsRange flags.verbose t then do
      bump
      if (← rest).isEmpty then throw .unclosedClass
      match first, ← readClassAtom engine with
      | .literal lo, .literal hi =>
        if lo.toNat ≤ hi.toNat && inClass flags hi then return rangeSet flags lo hi
        else throw .badClass
      | _, _ => throw .badClass
    else classAtomSet flags first

inductive SetOp
  | inter
  | diff
  | symm

def SetOp.apply : SetOp → CharSet → CharSet → CharSet
  | .inter => .inter
  | .diff => .diff
  | .symm => .symm

/-- Part of a bracketed class, with its nesting depth. -/
structure Member where
  set : CharSet
  depth : Nat := 0

namespace Member

/-- Members side by side. -/
def join : List Member → Member
  | [] => { set := .chars [] }
  | [m] => m
  | ms => ⟨.unionOf (ms.map (·.set)), Item.deepest (ms.map (·.depth)) + 1⟩

/-- Joins the members read since the last operator, the last one first, with what stands before it. -/
def joinPending (pending : Option (SetOp × Member)) (done : List Member) : Member :=
  let here := join done.reverse
  match pending with
  | none => here
  | some (op, left) => ⟨op.apply left.set here.set, max left.depth here.depth + 1⟩

end Member

/-- Reads the minus signs, and then the closing bracket, that stand for themselves at the start of
a bracketed class. -/
def readClassStart : Nat → List Member → Reader (List Member)
  | 0, done => return done
  | fuel + 1, done => do
    match ← rest with
    | [] => throw .unclosedClass
    | '-' :: _ => do
      bump
      readClassStart fuel ({ set := .chars ['-'] } :: done)
    | ']' :: _ =>
      if done.isEmpty then do
        bump
        if (← rest).isEmpty then throw .unclosedClass
        return [{ set := .chars [']'] }]
      else return done
    | _ => return done

mutual

/-- Reads a bracketed class from its opening bracket on. -/
def readClass (engine : Engine) : Nat → Reader Member
  | 0 => throw .tooDeep
  | fuel + 1 => do
    let flags ← flags
    bump
    let negated ← match ← rest with
      | [] => throw .unclosedClass
      | '^' :: _ => do bump; pure true
      | _ => pure false
    let start ← readClassStart fuel []
    let m ← readClassBody engine fuel none start
    return ⟨← negateIf negated flags m.set, m.depth + 1⟩

/-- Reads the members of a bracketed class up to its closing bracket. -/
def readClassBody (engine : Engine) : Nat → Option (SetOp × Member) → List Member → Reader Member
  | 0, _, _ => throw .tooDeep
  | fuel + 1, pending, done => do
    skipBlanks
    let operator := fun op => do
      bump
      bump
      readClassBody engine fuel (some (op, Member.joinPending pending done)) []
    match ← rest with
    | [] => throw .unclosedClass
    | '[' :: _ => do
      match ← readAsciiClass? with
      | some s => readClassBody engine fuel pending ({ set := s } :: done)
      | none =>
        let m ← readClass engine fuel
        readClassBody engine fuel pending (m :: done)
    | ']' :: _ => bump; return Member.joinPending pending done
    | '&' :: '&' :: _ => operator .inter
    | '-' :: '-' :: _ => operator .diff
    | '~' :: '~' :: _ => operator .symm
    | _ => do
      let s ← readClassRange engine
      readClassBody engine fuel pending ({ set := s } :: done)

end

/-- Reads a decimal number, with blanks around it. -/
def readCount? : Reader (Option Nat) := do
  setRest ((← rest).dropWhile Text.isBlank)
  let digits ← readRun Text.isAsciiDigit
  setRest ((← rest).dropWhile Text.isBlank)
  if digits.isEmpty then return none
  let n := Text.natOfDigits digits
  if n < 2 ^ 32 then return some n else throw .badCount

/-- Reads the mark of a lazy repetition and tells whether the repetition is greedy. -/
def readGreed : Reader Bool := do
  let swap := (← flags).swapGreed
  match ← rest with
  | '?' :: after => setRest after; return swap
  | _ => return !swap

/-- Reads the bounds of a counted repetition from its opening brace on. -/
def readBounds : Reader (Nat × Option Nat) := do
  bump
  if (← rest).isEmpty then throw .badCount
  let low ← readCount?
  let bounds ← match ← rest with
    | ',' :: _ => do
      bump
      match low, ← rest with
      | none, _ => throw .badCount
      | some low, '}' :: _ => pure (low, none)
      | some low, _ => match ← readCount? with
        | some high => pure (low, some high)
        | none => throw .badCount
    | _ => match low with
      | some low => pure (low, some low)
      | none => throw .badCount
  match ← rest with
  | '}' :: _ => do
    bump
    if bounds.2.any (· < bounds.1) then throw .badCount
    return bounds
  | _ => throw .badCount

/-- Reads the name of a group up to its closing angle bracket. -/
def readGroupName : Reader Text := do
  let t ← rest
  let name := t.takeWhile (· != '>')
  match t.dropWhile (· != '>') with
  | [] => throw .badGroupName
  | _ :: after =>
    match name with
    | [] => throw .badGroupName
    | c :: cs =>
      let starts := c == '_' || Unicode.isAlphabetic c
      let continues := fun c => "_.[]".toList.contains c || Unicode.isAlphanumeric c
      if starts && cs.all continues then
        if (← get).names.any (·.1 == name) then throw .repeatedGroupName
        setRest after
        return name
      else throw .badGroupName

/-- The flag that a letter names, set to `on`. -/
def setFlag? (on : Bool) (flags : Flags) : Char → Option Flags
  | 'i' => some { flags with ignoreCase := on }
  | 'm' => some { flags with multiLine := on }
  | 's' => some { flags with dotAll := on }
  | 'R' => some { flags with returnsEndLines := on }
  | 'U' => some { flags with swapGreed := on }
  | 'u' => some { flags with allScripts := on }
  | 'x' => some { flags with verbose := on }
  | _ => none

/-- Reads flags up to a colon or a closing parenthesis; no letter may come twice, and a minus
sign must turn at least one flag off. -/
def readFlags : Nat → (seen : Text) → (flags : Flags) → Reader Flags
  | 0, _, _ => throw .badFlags
  | fuel + 1, seen, flags => do
    match ← rest with
    | [] => throw .badFlags
    | ':' :: _ | ')' :: _ => if seen.head? = some '-' then throw .badFlags else return flags
    | '-' :: after =>
      if seen.contains '-' then throw .badFlags
      setRest after
      readFlags fuel ('-' :: seen) flags
    | c :: after =>
      if seen.contains c then throw .badFlags
      match setFlag? (!seen.contains '-') flags c with
      | none => throw .badFlags
      | some flags => do
        setRest after
        readFlags fuel (c :: seen) flags

/-- What stands at the start of a group. -/
inductive GroupStart
  | capture (number : Nat)
  | plain (flags : Flags)
  | flagsOnly (flags : Flags)

/-- Takes the next group number, for a group of the given name. -/
def nextGroup (name : Option Text) : Reader GroupStart := do
  let n := (← get).groupCount + 1
  modify fun r => { r with
    groupCount := n
    names := match name with
      | some name => r.names ++ [(name, n)]
      | none => r.names }
  return .capture n

/-- Reads the start of a group from its opening parenthesis on. -/
def readGroupStart : Reader GroupStart := do
  bump
  match ← rest with
  | '?' :: '=' :: _ | '?' :: '!' :: _ | '?' :: '<' :: '=' :: _ | '?' :: '<' :: '!' :: _ =>
    throw .lookAround
  | '?' :: 'P' :: '<' :: t | '?' :: '<' :: t => do
    setRest t
    let name ← readGroupName
    nextGroup (some name)
  | '?' :: t => do
    setRest t
    if t.isEmpty then throw .unclosedGroup
    let flags ← readFlags (t.length + 1) [] (← flags)
    match ← rest with
    | ':' :: after => setRest after; return .plain flags
    | ')' :: after =>
      setRest after
      if after.length + 1 = t.length then throw .nothingToRepeat
      return .flagsOnly flags
    | _ => throw .badFlags
  | _ => nextGroup none

/-- The place that `^` stands for. -/
def startPlace (flags : Flags) : Place :=
  if !flags.multiLine then .textStart
  else if flags.returnsEndLines then .anyLineStart else .lineStart

/-- The place that `$` stands for. -/
def endPlace (flags : Flags) : Place :=
  if !flags.multiLine then .textEnd
  else if flags.returnsEndLines then .anyLineEnd else .lineEnd

/-- The set that the point stands for. -/
def dotSet (flags : Flags) : CharSet :=
  if flags.dotAll then .all
  else if flags.returnsEndLines then .compl (.chars ['\r', '\n']) else .inLine

/-- Reads one character, place or point. -/
def readAtom (engine : Engine) : Reader Item := do
  let flags ← flags
  match ← rest with
  | [] => throw .badEscape
  | '\\' :: after => do
    setRest after
    return (← readEscape engine).toItem flags
  | '.' :: after => do
    setRest after
    if flags.allScripts then return (Atom.set (dotSet flags)).toItem flags else throw .badClass
  | '^' :: after => setRest after; return (Atom.place (startPlace flags)).toItem flags
  | '$' :: after => setRest after; return (Atom.place (endPlace flags)).toItem flags
  | c :: after => setRest after; return (Atom.literal c).toItem flags

/-- Reads alternatives up to the end of the group. `branches` are those read so far and `items`
the members of the current one, both from the last on. -/
def readBranches (engine : Engine) : Nat → (branches items : List Item) → Reader Item
  | 0, _, _ => throw .tooDeep
  | fuel + 1, branches, items => do
    skipBlanks
    let t ← rest
    let repeated := fun (low : Nat) (high : Option Nat) => do
      match items with
      | i :: before =>
        if !i.repeatable then throw .nothingToRepeat
        let greedy ← readGreed
        let i : Item := { phrase := .repeated greedy low high i.phrase, depth := i.depth + 1 }
        readBranches engine fuel branches (i :: before)
      | [] => throw .nothingToRepeat
    match t with
    | [] | ')' :: _ => return .choice (Item.sequence items.reverse :: branches).reverse
    | '|' :: after => setRest after; readBranches engine fuel (Item.sequence items.reverse :: branches) []
    | '(' :: _ => do
      let outer ← flags
      match ← readGroupStart with
      | .flagsOnly inner => do
        modify fun r => { r with flags := inner }
        readBranches engine fuel branches ({ phrase := .empty, repeatable := false } :: items)
      | start => do
        match start with
        | .plain inner => modify fun r => { r with flags := inner }
        | _ => pure ()
        let body ← readBranches engine fuel [] []
        match ← rest with
        | ')' :: after => do
          setRest after
          modify fun r => { r with flags := outer }
          let phrase := match start with
            | .capture n => Phrase.group n body.phrase
            | _ => body.phrase
          let i : Item := { phrase, depth := body.depth + 1 }
          if i.depth > Item.depthLimit then throw .tooDeep
          readBranches engine fuel branches (i :: items)
        | _ => throw .unclosedGroup
    | '[' :: _ => do
      let m ← readClass engine fuel
      if m.depth > Item.depthLimit then throw .tooDeep
      readBranches engine fuel branches ({ phrase := .one m.set, depth := m.depth } :: items)
    | '?' :: after => setRest after; repeated 0 (some 1)
    | '*' :: after => setRest after; repeated 0 none
    | '+' :: after => setRest after; repeated 1 none
    | '\x7b' :: _ => do
      if items.isEmpty then throw .nothingToRepeat
      let (low, high) ← readBounds
      repeated low high
    | _ => do
      let i ← readAtom engine
      readBranches engine fuel branches (i :: items)

/-- Reads a written pattern; the flags `i` and `m` are on at its start. A name goes to its group
only if the group is left in what the pattern says. -/
def read (engine : Engine) (source : Text) : Except Fault Pattern := do
  let start : Reading := ⟨source, {}, 0, []⟩
  let (i, finish) ← (readBranches engine (2 * source.length + 2) [] []).run start
  if !finish.rest.isEmpty then throw .unopenedGroup
  if i.depth > Item.depthLimit then throw .tooDeep
  if !engine.fits i.phrase then throw .tooLarge
  let kept := i.phrase.groups
  return ⟨source, i.phrase.expr, finish.names.filter fun p => kept.contains p.2⟩

end Placeholder.Pattern
