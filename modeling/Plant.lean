import Plant.Lua.ObjectInfo
import Plant.Lua.Operations
import Plant.Source
import Plant.Values
import Plant.Version
import Plant.Workspace
import Plant.Proofs.Catalog.Definitions
import Plant.Proofs.Catalog.Validation
import Plant.Proofs.Catalog.Written
import Plant.Proofs.Group
import Plant.Proofs.RoundTrip
import Plant.Proofs.Lua.Agreement
import Plant.Proofs.Lua.Congruence
import Plant.Proofs.Lua.Dependence
import Plant.Proofs.Lua.Indentation
import Plant.Proofs.Lua.Numbers
import Plant.Proofs.Lua.Placeholder
import Plant.Proofs.Lua.Reading
import Plant.Proofs.Lua.Sections
import Plant.Proofs.Object.Congruence
import Plant.Proofs.Object.FirstMatch
import Plant.Proofs.Object.Growth
import Plant.Proofs.Registry
import Plant.Proofs.Workspace.Chronicle
import Plant.Proofs.Workspace.Copies
import Plant.Proofs.Workspace.Handles
import Plant.Proofs.Workspace.Independence
import Plant.Proofs.Workspace.Instances
import Plant.Proofs.Workspace.Numbering
import Plant.Proofs.Workspace.Operations
import Plant.Proofs.Workspace.Result
