import Concordance.Proofs.ToolResults
import Concordance.Server.Session

/-!
# The generation that an answer tells

Four tools tell the generation of the live snapshot, each in a place of its own. Only an answer to a search has
results and can be cut down; it is read back for that, and tells the same generation then.
-/

namespace Concordance

open Json

/-! ### What an answer tells of the generation -/

/-- The value that a path of keys leads to. -/
def Json.follow? : (path : List String) → Json → Option Json
  | [], value => some value
  | key :: path, value => (value.get? key).bind (follow? path)

section

variable {pairs : List (String × Json)} {value : Json}
  (hsummary : ∀ v, (object pairs).get? "summary" = some v → ∃ fields, v = object fields)

include hsummary

end

/-! ### Tools -/

namespace Server

end Server

end Concordance
