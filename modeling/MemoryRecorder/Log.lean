/-!
# Log records

A run reports what it does as log records: a level, the part of the program that speaks (its
target), and a message. A filter names the most detailed level shown, or shows nothing at all;
a level name it does not know shows up to `info`. A record is written as one line: the level in
capitals, the target, and the message.

A filter that shows a level shows every more important one (`Filter.allows_mono`).
-/

namespace MemoryRecorder
namespace Log

inductive Level where
  | error | warn | info | debug | trace
  deriving DecidableEq, Repr

namespace Level

def rank : Level → Nat
  | error => 0
  | warn => 1
  | info => 2
  | debug => 3
  | trace => 4

def label : Level → String
  | error => "ERROR"
  | warn => "WARN"
  | info => "INFO"
  | debug => "DEBUG"
  | trace => "TRACE"

def name : Level → String
  | error => "error"
  | warn => "warn"
  | info => "info"
  | debug => "debug"
  | trace => "trace"

end Level

/-- The most detailed level shown; `none` shows nothing. -/
structure Filter where
  most : Option Level
  deriving DecidableEq, Repr

namespace Filter

/-- The filter a setting names: `off`, or a level; any other name shows up to `info`. -/
def ofName (s : String) : Filter :=
  match s with
  | "off" => ⟨none⟩
  | "error" => ⟨some .error⟩
  | "warn" => ⟨some .warn⟩
  | "debug" => ⟨some .debug⟩
  | "trace" => ⟨some .trace⟩
  | _ => ⟨some .info⟩

/-- The name of a filter, as a run announces it. -/
def name (f : Filter) : String :=
  match f.most with
  | none => "off"
  | some l => l.name

def allows (f : Filter) (l : Level) : Bool :=
  match f.most with
  | none => false
  | some m => l.rank ≤ m.rank

theorem allows_mono (f : Filter) (a b : Level) (hab : a.rank ≤ b.rank) (hb : f.allows b = true) :
    f.allows a = true := by
  unfold allows at *
  cases h : f.most with
  | none => simp [h] at hb
  | some m => simp [h] at hb ⊢; omega

end Filter

structure Record where
  level : Level
  target : String
  message : String
  deriving DecidableEq, Repr

def Record.line (r : Record) : String :=
  r.level.label ++ " " ++ r.target ++ ": " ++ r.message

end Log
end MemoryRecorder
