/-!
# Ranges of code points

A class of characters as the ascending list of the code points at which membership
changes, beginning with the first member. The tables of this library have this form.
-/

namespace InputStaging.Text

abbrev Ranges := List Nat

namespace Ranges

/-- Membership, given whether the code points before the next change are members. -/
def containsFrom (inside : Bool) : Ranges → Nat → Bool
  | [], _ => inside
  | b :: bs, n => if n < b then inside else containsFrom (!inside) bs n

def contains (bs : Ranges) (n : Nat) : Bool := containsFrom false bs n

end Ranges

end InputStaging.Text
