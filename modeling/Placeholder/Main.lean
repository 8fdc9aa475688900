/-
The command line itself: it reaches files, the clock and the names of the machine and its user.
-/
import Std.Time.DateTime.Timestamp
import Placeholder.Command.Run

namespace Placeholder.Command

/-- The result of an action, or `none` if it fails. -/
def attempt (action : IO α) : IO (Option α) := do
  try return some (← action) catch _ => return none

def decode (bytes : ByteArray) : Option Text := (String.fromUTF8? bytes).map String.toList

/-- Files, input and output as the system has them. -/
def systemAccess : Access IO where
  load file := do
    return (← attempt (IO.FS.readBinFile (String.ofList file))).bind decode
  input := do
    return (← attempt (do (← IO.getStdin).readToEnd)).map String.toList
  save file t := do
    return (← attempt (IO.FS.writeFile (String.ofList file) (String.ofList t))).isSome
  print t := do
    return (← attempt (IO.print (String.ofList t))).isSome
  flush := do
    return (← attempt (do (← IO.getStdout).flush)).isSome

/-- The text of the first line of a file, or a stand-in. -/
def firstLine (file : String) (otherwise : String) : IO String := do
  match ← attempt (IO.FS.readFile file) with
  | some t => return t.trimAscii.toString
  | none => return otherwise

/-- The moment now, in universal time. -/
def now : IO Moment := do
  let t ← Std.Time.Timestamp.now
  let nanos := t.toNanosecondsSinceUnixEpoch.toInt
  match Moment.ofUnixTime? (nanos / 1000000000) (nanos % 1000000000).toNat with
  | some m => return m
  | none => return ⟨⟨1970, 1, 1, by decide⟩, .midnight⟩

def systemEnvironment : IO Environment := do
  let host ← firstLine "/proc/sys/kernel/hostname" "localhost"
  let user := (← IO.getEnv "USER").getD "unknown"
  let domain ← IO.getEnv "USERDOMAIN"
  return ⟨← now, host.toList, user.toList, domain.map String.toList⟩

end Placeholder.Command

open Placeholder Placeholder.Command in
def main (arguments : List String) : IO UInt32 := do
  let environment ← systemEnvironment
  let seed ← IO.getRandomBytes 32
  let config := (← IO.getEnv "TAGBUILDER_CONFIG").map String.toList
  let ending ← run systemAccess environment (.ofSeed seed.toList) config (arguments.map String.toList)
  if let .failed _ complaint := ending then
    IO.eprint (String.ofList complaint.text)
  return UInt32.ofNat ending.code
