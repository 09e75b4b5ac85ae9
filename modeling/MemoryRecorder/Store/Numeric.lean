/-!
# Numbers of the storage engine

The engine computes with signed 64-bit integers until a sum or difference leaves the word;
from then on it computes with doubles. Integers and doubles compare by their exact values.
-/

namespace MemoryRecorder

namespace Store

/-- A number of the engine: an integer or a double. -/
inductive SqlNum where
  | int (v : Int64)
  | real (f : Float)

namespace SqlNum

def toFloat : SqlNum → Float
  | int v => Float.ofInt v.toInt
  | real f => f

def fits (n : Int) : Bool :=
  decide (-Int.pow 2 63 ≤ n ∧ n < Int.pow 2 63)

/-- Sum: exact while it fits, a double after. -/
def add : SqlNum → SqlNum → SqlNum
  | int a, int b => if fits (a.toInt + b.toInt) then int (a + b) else real (Float.ofInt a.toInt + Float.ofInt b.toInt)
  | a, b => real (a.toFloat + b.toFloat)

def sub : SqlNum → SqlNum → SqlNum
  | int a, int b => if fits (a.toInt - b.toInt) then int (a - b) else real (Float.ofInt a.toInt - Float.ofInt b.toInt)
  | a, b => real (a.toFloat - b.toFloat)

def compareIntReal (i : Int64) (r : Float) : Ordering :=
  if r < -9223372036854775808.0 then .gt
  else if r ≥ 9223372036854775808.0 then .lt
  else
    let y := r.toInt64
    if i < y then .lt
    else if y < i then .gt
    else
      let s := Float.ofInt i.toInt
      if s < r then .lt else if r < s then .gt else .eq

def compare : SqlNum → SqlNum → Ordering
  | int a, int b => if a < b then .lt else if b < a then .gt else .eq
  | int a, real r => compareIntReal a r
  | real r, int b => (compareIntReal b r).swap
  | real a, real b => if a < b then .lt else if b < a then .gt else .eq

end SqlNum

end Store

end MemoryRecorder
