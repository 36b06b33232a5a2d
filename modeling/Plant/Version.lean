/-!
# Version

The version of the library, which programs that generate code may report.
-/
namespace Plant

/-- The version of the library. -/
def version : String := "0.1.0"

end Plant
