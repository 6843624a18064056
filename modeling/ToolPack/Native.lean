/-!
# The instances of core

Libraries bring instances of their own for powers and for the equality of bytes.  Definitions that
run are meant to use those of core, whatever else is in sight where they are read; a module that
needs one of them opens this namespace.
-/

set_option autoImplicit false

namespace ToolPack
namespace Native

scoped instance powNat : Pow Nat Nat := instPowNat

scoped instance powInt : Pow Int Nat := instPowNat

scoped instance decidableEqByteArray : DecidableEq ByteArray := ByteArray.instDecidableEq

end Native
end ToolPack
