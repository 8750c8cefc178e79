/-!
# Stamp — when a file was modified, as shown

A time is a number of seconds since the start of 1970.  It is shown as the time of day and the day of the year,
`01:46 09 Sep`.
-/
namespace LineShell
namespace Stamp

def twoDigits (n : Nat) : String := if n < 10 then "0" ++ toString n else toString n

def secondOfDay (time : Int) : Nat := (time.emod 86400).toNat

def dayNumber (time : Int) : Int := time.ediv 86400

/-- The day of the year and month of a day.  Years are counted from March, so that the leap day is their last, and
gathered by 400, after which the calendar repeats. -/
def monthAndDay (day : Int) : Nat × Nat :=
  let dayOfEra := ((day + 719468).emod 146097).toNat
  let year := (dayOfEra - dayOfEra / 1460 + dayOfEra / 36524 - dayOfEra / 146096) / 365
  let dayOfYear := dayOfEra - (365 * year + year / 4 - year / 100)
  let month := (5 * dayOfYear + 2) / 153
  (if month < 10 then month + 3 else month - 9, dayOfYear - (153 * month + 2) / 5 + 1)

def monthName : Nat → String
  | 1 => "Jan"
  | 2 => "Feb"
  | 3 => "Mar"
  | 4 => "Apr"
  | 5 => "May"
  | 6 => "Jun"
  | 7 => "Jul"
  | 8 => "Aug"
  | 9 => "Sep"
  | 10 => "Oct"
  | 11 => "Nov"
  | _ => "Dec"

def render (time : Int) : String :=
  let seconds := secondOfDay time
  let (month, day) := monthAndDay (dayNumber time)
  twoDigits (seconds / 3600) ++ ":" ++ twoDigits (seconds / 60 % 60) ++ " " ++ twoDigits day ++ " " ++ monthName month

end Stamp
end LineShell
