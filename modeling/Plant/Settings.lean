import Plant.Json.Shape

/-!
# Settings

The settings of the generator: what indents the lines of generated code.
-/
namespace Plant

/-- The settings of the generator. -/
structure Settings where
  indent : String
deriving DecidableEq, Repr

namespace Settings

/-- Lines are indented by tabs. -/
def standard : Settings := { indent := "\t" }

/-- What a document of settings holds. -/
def shape : Json.Shape Settings :=
  .record "GeneratorSettings" (.defaulted "prefix" .text standard.indent .done)
    fun (indent, ()) => { indent }

/-- The settings that a document holds. -/
def read (document : String) : Except Json.Fault Settings := shape.readDocument document

/-- The document that holds the settings. -/
def write (s : Settings) : String :=
  "\x7b" ++ Json.writeText "prefix" ++ ":" ++ Json.writeText s.indent ++ "\x7d"

end Settings

end Plant
