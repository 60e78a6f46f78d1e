import Ambient.Proofs.Members
import Ambient.Proofs.Paths

/-!
How often the instance side of a class states a name. It is made of the instance fields and of the
prototype methods that are kept. Neither table of a loaded class repeats a name, but nothing
compares the two: a name that both have is stated as a field and once more as a method.
-/
namespace Ambient

namespace Emission

variable (em : Emission) (owner : Name)

end Emission

namespace Graph

end Graph

end Ambient
