/-!
# Character ranges

A class of characters is given by the ranges of their code points, in increasing order.
-/

namespace DocOutline

/-- Ranges of code points, each with its first and last member, in increasing order. -/
abbrev Ranges := List (Nat × Nat)

namespace Ranges

/-- Whether a code point lies in one of the ranges. The search stops at the first range above it. -/
def holds : Ranges → Nat → Bool
  | [], _ => false
  | (lo, hi) :: rs, n => if n < lo then false else if n ≤ hi then true else holds rs n

end Ranges

end DocOutline
