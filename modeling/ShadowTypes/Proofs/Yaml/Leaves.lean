import Mathlib.Algebra.Group.Nat.Defs
import ShadowTypes.Proofs.Outcomes
import ShadowTypes.Yaml.Leaf

/-!
# Texts that have no value under their tag

The tag of a scalar can be written out, and then the text may have none of the tag's forms. Also a
text whose form gives it its tag may lack a value: a date that no calendar has, or a number with too
many digits. What is told here of each such failure is what the text has or lacks.
-/

namespace ShadowTypes.Yaml

namespace Scalar

/-! ## Numerals -/

section Unreadable

variable {s : String} {x : Failure}

end Unreadable

end Scalar

end ShadowTypes.Yaml
