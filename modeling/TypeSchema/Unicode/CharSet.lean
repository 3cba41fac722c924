/-!
Sets of characters, given by the code points they hold. A property of the Unicode standard is
such a set, and the modules beside this one hold one property each.
-/

namespace TypeSchema.Unicode

/-- A set of characters as inclusive ranges of code points. -/
structure CharSet where
  ranges : List (Nat × Nat)

namespace CharSet

/-- Whether a character's code point lies in one of the ranges. -/
def contains (set : CharSet) (c : Char) : Bool :=
  set.ranges.any fun (first, last) => first ≤ c.toNat && c.toNat ≤ last

end CharSet

/-- A set of characters as runs `(first, last, step)`: every `step`-th code point of a range.
The two cases of a letter often alternate, so a step of two keeps such tables short. -/
structure SteppedCharSet where
  runs : List (Nat × Nat × Nat)

namespace SteppedCharSet

/-- Whether a character's code point is met by one of the runs. -/
def contains (set : SteppedCharSet) (c : Char) : Bool :=
  set.runs.any fun (first, last, step) =>
    first ≤ c.toNat && c.toNat ≤ last && (c.toNat - first) % step == 0

end SteppedCharSet

end TypeSchema.Unicode
