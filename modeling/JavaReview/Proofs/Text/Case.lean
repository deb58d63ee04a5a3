import JavaReview.Text.Case
import Mathlib.Data.List.Basic

/-!
Lower case and ASCII. Only two characters beyond ASCII have an ASCII character as their lower case: one
is mapped to `i` and one to `k`. So for every other ASCII character, lower case is what it is among ASCII
letters alone (`Text.lower_eq_iff`).
-/

namespace JavaReview.Text

open Unicode

end JavaReview.Text
