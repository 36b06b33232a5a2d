import Plant.Operation

/-!
# Modes

The operations in use: which number an object's operation has, and which numbers its steps have.
-/
namespace Plant

/-- A step of a mode. A step without a name is bound to no base step and is not written. -/
structure Step where
  name : String
  luaName : String
  number : UInt32
deriving DecidableEq, Repr

/-- A step that is bound to no base step. -/
def Step.unbound (number : UInt32) : Step := { name := "", luaName := "", number }

/-- An operation in use. -/
structure Mode where
  operation : Operation
  number : UInt32
  steps : List Step
deriving Repr

end Plant
