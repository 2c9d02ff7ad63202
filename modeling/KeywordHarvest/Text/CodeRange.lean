/-! Sets of characters, given as ranges of code points in increasing order. Membership stops at
the first range that starts beyond the code point. -/

namespace KeywordHarvest.Text

abbrev CodeRanges := List (Nat × Nat)

namespace CodeRanges

def covers : CodeRanges → Nat → Bool
  | [], _ => false
  | (first, last) :: rest, code =>
      if code < first then false else code ≤ last || covers rest code

end CodeRanges

end KeywordHarvest.Text
