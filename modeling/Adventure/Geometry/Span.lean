/-!
# Spans of an axis

A span is the part of a coordinate axis between two values.  Two edges on one
line meet when their spans share more than an end point; a single shared end is
enough when one of the spans is a single point.
-/

set_option autoImplicit false

namespace Adventure

/-- The part of an axis from `low` to `high`. -/
structure Span where
  low : Int
  high : Int
  deriving DecidableEq, Repr

namespace Span

/-- The span between two values given in either order. -/
def between (a b : Int) : Span := if a ≤ b then ⟨a, b⟩ else ⟨b, a⟩

/-- Whether two spans share more than a touching end. -/
def overlaps (s t : Span) : Bool :=
  !(decide (t.high < s.low) || decide (t.low > s.high) ||
    ((t.low == s.high || t.high == s.low) && s.high != s.low && t.low != t.high))

/-- The value moved to the nearest end of the span when it lies outside. -/
def clamp (s : Span) (value : Int) : Int :=
  let raised := if value < s.low then s.low else value
  if raised > s.high then s.high else raised

end Span

end Adventure
