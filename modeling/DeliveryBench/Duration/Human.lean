import DeliveryBench.Duration

/-!
Durations written for people: spans such as `2h 30m 5s`, the printer of this form.

`TimeUnit` lists the units with the length of each. `humanFields` splits a duration into whole
numbers of years, months, days, hours, minutes, seconds, milliseconds, microseconds and
nanoseconds, each smaller than one of the unit before it, and `humanText` writes those that are
not zero. A month is a twelfth of a year of 365.25 days, so every length is a whole number of
seconds.
-/

namespace DeliveryBench

/-- The units in which a span can be given. -/
inductive TimeUnit where
  | nanosecond | microsecond | millisecond | second | minute | hour | day | week | month | year
deriving DecidableEq, Repr

namespace TimeUnit

/-- The length of a unit in nanoseconds. -/
def nanos : TimeUnit → Nat
  | .nanosecond => 1
  | .microsecond => 1000
  | .millisecond => 1000000
  | .second => 1000000000
  | .minute => 60 * 1000000000
  | .hour => 3600 * 1000000000
  | .day => 86400 * 1000000000
  | .week => 604800 * 1000000000
  | .month => 2630016 * 1000000000
  | .year => 31557600 * 1000000000

/-- The names under which a unit can be read. -/
def names : TimeUnit → List String
  | .nanosecond => ["nanos", "nsec", "ns"]
  | .microsecond => ["usec", "us", "µs"]
  | .millisecond => ["millis", "msec", "ms"]
  | .second => ["seconds", "second", "secs", "sec", "s"]
  | .minute => ["minutes", "minute", "min", "mins", "m"]
  | .hour => ["hours", "hour", "hr", "hrs", "h"]
  | .day => ["days", "day", "d"]
  | .week => ["weeks", "week", "wk", "wks", "w"]
  | .month => ["months", "month", "M"]
  | .year => ["years", "year", "yr", "yrs", "y"]

/-- Every unit, the shortest first. -/
def all : List TimeUnit :=
  [.nanosecond, .microsecond, .millisecond, .second, .minute, .hour, .day, .week, .month, .year]

/-- The unit that bears this name. -/
def ofName? (name : String) : Option TimeUnit :=
  all.find? fun unit => unit.names.contains name

end TimeUnit

namespace Duration

/-- One number with its unit, the unit in the plural if it has one and the number asks for it. -/
def humanField (n : Nat) (unit plural : String) : Option String :=
  if n = 0 then none
  else some (toString n ++ if n = 1 then unit else plural)

/-- The parts of a duration from years down to nanoseconds, those that are not zero. -/
def humanFields (d : Duration) : List String :=
  let inYear := d.secs % 31557600
  let inMonth := inYear % 2630016
  let inDay := inMonth % 86400
  [ humanField (d.secs / 31557600) "year" "years",
    humanField (inYear / 2630016) "month" "months",
    humanField (inMonth / 86400) "day" "days",
    humanField (inDay / 3600) "h" "h",
    humanField (inDay % 3600 / 60) "m" "m",
    humanField (inDay % 60) "s" "s",
    humanField (d.nanos / 1000000) "ms" "ms",
    humanField (d.nanos / 1000 % 1000) "us" "us",
    humanField (d.nanos % 1000) "ns" "ns" ].filterMap id

/-- The duration as spans with a space between them. -/
def humanText (d : Duration) : String :=
  if d.isZero then "0s" else " ".intercalate d.humanFields

end Duration

end DeliveryBench
