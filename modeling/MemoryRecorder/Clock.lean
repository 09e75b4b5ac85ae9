/-!
# Instants

An instant is a whole number of milliseconds since the Unix epoch, as a signed 64-bit word.
The calendar behind the store covers the years -262143 to 262142 of the proleptic Gregorian
calendar, so an instant is usable only between the first millisecond of the first of those
years and the last millisecond of the last.
-/

namespace MemoryRecorder

/-- Milliseconds since the Unix epoch. -/
abbrev Millis := Int64

namespace Millis

def earliest : Int := -8334601315200000

def latest : Int := 8210266876799999

/-- Whether an instant lies in the calendar's range. -/
def inRange (t : Millis) : Bool :=
  decide (earliest ≤ t.toInt ∧ t.toInt ≤ latest)

end Millis

end MemoryRecorder
