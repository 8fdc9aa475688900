/-
Tags about the time and the machine.
-/
import Placeholder.ValueMap

namespace Placeholder

/-- What the standard tags tell about: the time now, the names of the machine and of the user, and
the domain, if it has a name of its own. -/
structure Environment where
  now : Moment
  host : Text
  user : Text
  domain : Option Text

namespace Environment

/-- The version that the standard tags and the command line show. -/
def version : Text := "0.1.0".toList

def count (n : Nat) : Value := (Value.ofInt? n).getD (.string [])

/-- The standard tags. -/
def standardTags (e : Environment) : ValueMap :=
  ValueMap.ofList
    [("Version".toList, .string version),
     ("Year".toList, (Value.ofInt? e.now.date.year).getD (.string [])),
     ("Month".toList, .string (Calendar.monthName e.now.date.month)),
     ("Day".toList, count e.now.date.day),
     ("DayOfWeek".toList, .string (Calendar.dayName e.now.date.weekday)),
     ("Hour".toList, count e.now.time.hour),
     ("Minute".toList, count e.now.time.minute),
     ("Second".toList, count e.now.time.second),
     ("DayOfYear".toList, count e.now.date.ordinal),
     ("Now".toList, .moment e.now),
     ("HostName".toList, .string e.host),
     ("MachineName".toList, .string e.host),
     ("CurrentUser".toList, .string e.user),
     ("UserDomainName".toList, .string (e.domain.getD e.host))]

/-- The standard tags with the caller's values over them. -/
def standardTagsWith (e : Environment) (values : ValueMap) : ValueMap := e.standardTags.merge values

end Environment

end Placeholder
