/-!
Contract: membership of a code point in a class given as a table of ranges.

Owns: the one lookup that every character class of the project is read with.
-/

namespace TemplateBundle.Text

/-- Membership in a table of closed ranges in rising order. The search stops at the first
range that lies above the code point. -/
def inRanges : List (Nat × Nat) → Nat → Bool
  | [], _ => false
  | (first, last) :: rest, code =>
      if code < first then false else code ≤ last || inRanges rest code

end TemplateBundle.Text
