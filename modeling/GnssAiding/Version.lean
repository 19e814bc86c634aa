/-
The version of this library.
-/
namespace GnssAiding

def version : String := "0.1.0"

end GnssAiding
