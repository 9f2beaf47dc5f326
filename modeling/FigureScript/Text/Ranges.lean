/-!
# Ranges of characters

A property of characters is a list of closed ranges of code points, in ascending order and apart from
each other.
-/

namespace FigureScript

abbrev CodeRanges := List (Nat × Nat)

namespace CodeRanges

def contains (ranges : CodeRanges) (code : Nat) : Bool :=
  ranges.any fun range => range.1 ≤ code && code ≤ range.2

/-- True for ranges that begin at `least` or later, each behind the one before it. -/
def ascendFrom (least : Nat) : CodeRanges → Bool
  | [] => true
  | (first, last) :: rest => least ≤ first && first ≤ last && ascendFrom (last + 1) rest

/-- A character in front of all ranges is in none of them. -/
theorem not_contains_of_lt {least code : Nat} {ranges : CodeRanges}
    (ascending : ascendFrom least ranges = true) (before : code < least) :
    contains ranges code = false := by
  induction ranges generalizing least with
  | nil => rfl
  | cons range rest ih =>
      obtain ⟨first, last⟩ := range
      simp only [ascendFrom, Bool.and_eq_true, decide_eq_true_eq] at ascending
      have later : contains rest code = false := ih ascending.2 (by omega)
      have outside : ¬ first ≤ code := by omega
      simpa [contains, outside] using later

end CodeRanges

end FigureScript
