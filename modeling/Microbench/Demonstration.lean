import Microbench.Demonstration.Codec
import Microbench.Demonstration.Collections
import Microbench.Demonstration.Faulty
import Microbench.Demonstration.Overhead

/-!
# Demonstrations

The suites that show what one can do.
-/

namespace Microbench.Demonstration

/-- All demonstrations. -/
def definitions {κ : Type} [Arithmetic κ] : List (Definition κ) :=
  [Collections.definition, Codec.definition, Faulty.definition, Overhead.definition]

end Microbench.Demonstration
