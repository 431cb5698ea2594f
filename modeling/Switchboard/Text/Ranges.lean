/-!
Sets of characters given by ranges of code points, the form in which the Unicode character
properties of this library are tabulated.
-/

namespace Switchboard.Text

/-- Closed ranges of code points in ascending order. -/
abbrev Ranges := List (Nat × Nat)

def Ranges.has (rs : Ranges) (c : Char) : Bool := rs.any fun r => r.1 ≤ c.toNat && c.toNat ≤ r.2

end Switchboard.Text
