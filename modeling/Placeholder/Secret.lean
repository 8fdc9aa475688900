/-
Secrets: the markers that name them in keys, and the ciphers that transform their texts.
-/
import Placeholder.Digest
import Placeholder.Value
import Placeholder.Unicode.Case

namespace Placeholder

namespace Secret

/-- What a cipher is asked to transform: the text of a key, resolved for a tag. -/
structure Call where
  key : Text
  raw : Text
  value : Text
  deriving DecidableEq, Repr

/-- A cipher answers a call, and may look at the calls before it, the latest first. -/
abbrev Cipher := (earlier : List Call) → Call → Text

namespace Cipher

/-- A cipher whose answer depends on the call alone. -/
def ofFun (f : Call → Text) : Cipher := fun _ c => f c

def plain : Cipher := ofFun Call.value

/-- A star for each character. -/
def mask : Cipher := ofFun fun c => List.replicate c.value.length '*'

/-- The hexadecimal digest. -/
def sha256 : Cipher := ofFun fun c => Digest.hexText (Digest.sha256 (Digest.utf8Bytes c.value))

end Cipher

def secretMarker : Text := "secret".toList

def shasecMarker : Text := "shasec".toList

/-- The key whose value is always a secret. -/
def secretsKey : Text := "secrets".toList

/-- The rest of a key that starts with a marker and a colon. -/
def afterMarker? (marker key : Text) : Option Text := Text.afterHead? (marker ++ [':']) key

/-- A key without its marker, and whether the marker asks for the cipher. -/
def stripMarker (key : Text) : Text × Bool :=
  match afterMarker? secretMarker key with
  | some rest => (rest, true)
  | none => match afterMarker? shasecMarker key with
    | some rest => (rest, false)
    | none => (key, false)

/-- A truth value in small letters; every other text as it is. -/
def lowerBool (enabled : Bool) (value : Text) : Text :=
  if enabled && (readBool? value).isSome then Unicode.toLower value else value

/-- The text behind a marker. -/
def marked (marker value : Text) : Text := marker ++ ':' :: value

/-- Asks the cipher, and puts its answer behind a marker; the calls made are kept. -/
def transform (cipher : Cipher) (marker key raw : Text) (value : Text) (calls : List Call) :
    Text × List Call :=
  let call : Call := ⟨key, raw, value⟩
  (marked marker (cipher calls call), call :: calls)

/-- What a resolved value becomes in the text: truth values are lowered, and then the cipher is
asked for a marked key, and for the key of secrets. -/
def wrap (lower : Bool) (cipher : Cipher) (key raw value : Text) (isSecret : Bool)
    (calls : List Call) : Text × List Call :=
  let value := lowerBool lower value
  let (value, calls) :=
    if isSecret then transform cipher secretMarker key raw value calls else (value, calls)
  if Text.sameUpToAsciiCase key secretsKey then transform cipher shasecMarker key raw value calls
  else (value, calls)

end Secret

end Placeholder
