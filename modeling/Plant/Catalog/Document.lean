import Plant.Json.Types

/-!
# Catalog documents

What the document of a catalog holds: definitions of templates, with definitions of their parts in
them. What a document leaves out is empty, zero or false.
-/
namespace Plant.Catalog

open Json (Shape Content)

/-- The level of a template, as a number or as a name. -/
inductive LevelSpec where
  | number (n : Int32)
  | name (s : String)
deriving DecidableEq, Repr

/-- What an active parameter holds. -/
inductive ActiveType where
  | active
  | bool
deriving DecidableEq, Repr

/-- The definition of an active parameter: an aggregate parameter, the main parameter or a
property. -/
structure ActiveDefinition where
  luaName : String
  name : String
  defaultValue : String
  type : ActiveType
deriving DecidableEq, Repr

/-- The definition of an operation. -/
structure OperationDefinition where
  luaName : String
  name : String
  position : Int32
  properties : List ActiveDefinition
deriving DecidableEq, Repr

/-- The definition of an equipment parameter. -/
structure EquipmentDefinition where
  luaName : String
  name : String
  value : String
deriving DecidableEq, Repr

/-- The definition of a group. -/
structure GroupDefinition where
  luaName : String
  name : String
  allowedObjects : String
deriving DecidableEq, Repr

/-- The definition of a system parameter. -/
structure SystemDefinition where
  luaName : String
  name : String
  value : Number.Binary64
  meter : String

/-- The definition of a template. -/
structure Definition where
  name : String
  eplanName : String
  level : LevelSpec
  basicName : String
  bindingName : String
  isPid : Bool
  operations : List OperationDefinition
  equipment : List EquipmentDefinition
  aggregateParameters : List ActiveDefinition
  mainParameter : Option ActiveDefinition
  groups : List GroupDefinition
  systemParameters : List SystemDefinition

/-- The document of a catalog. -/
structure Document where
  templates : List Definition

/-! ## Shapes -/

/-- The level that a value means, if it is an integer of 32 bits or a text. -/
def LevelSpec.ofContent? : Content → Option LevelSpec
  | .integer i => (Json.Shape.int32? i).map .number
  | .text s => some (.name s)
  | .other => none

/-- A level, as a number or as a name. -/
def LevelSpec.shape : Shape LevelSpec := .content "LevelSpec" ofContent?

/-- The type of an active parameter, by name. -/
def ActiveType.shape : Shape ActiveType := .variant [("active", .active), ("bool", .bool)]

/-- An active parameter has to have its two names. -/
def ActiveDefinition.shape : Shape ActiveDefinition :=
  .record "ActiveParameterDefinition"
    (.required "lua_name" .text <|
      .required "name" .text <|
      .defaulted "default_value" .text "" <|
      .defaulted "type" ActiveType.shape .active .done)
    fun (luaName, name, defaultValue, type, ()) => { luaName, name, defaultValue, type }

/-- An operation has to have its two names. -/
def OperationDefinition.shape : Shape OperationDefinition :=
  .record "OperationDefinition"
    (.required "lua_name" .text <|
      .required "name" .text <|
      .defaulted "default_position" .int32 0 <|
      .defaulted "properties" (.list ActiveDefinition.shape) [] .done)
    fun (luaName, name, position, properties, ()) => { luaName, name, position, properties }

/-- An equipment parameter has to have its two names. -/
def EquipmentDefinition.shape : Shape EquipmentDefinition :=
  .record "EquipmentDefinition"
    (.required "lua_name" .text <|
      .required "name" .text <|
      .defaulted "value" .text "" .done)
    fun (luaName, name, value, ()) => { luaName, name, value }

/-- A group has to have its two names. -/
def GroupDefinition.shape : Shape GroupDefinition :=
  .record "GroupDefinition"
    (.required "lua_name" .text <|
      .required "name" .text <|
      .defaulted "allowed_objects" .text "" .done)
    fun (luaName, name, allowedObjects, ()) => { luaName, name, allowedObjects }

/-- A system parameter has to have its two names. -/
def SystemDefinition.shape : Shape SystemDefinition :=
  .record "SystemParameterDefinition"
    (.required "lua_name" .text <|
      .required "name" .text <|
      .defaulted "value" .real ⟨0⟩ <|
      .defaulted "meter" .text "" .done)
    fun (luaName, name, value, meter, ()) => { luaName, name, value, meter }

/-- A template has to have its name. -/
def Definition.shape : Shape Definition :=
  .record "TemplateDefinition"
    (.required "name" .text <|
      .defaulted "eplan_name" .text "" <|
      .defaulted "s88_level" LevelSpec.shape (.number 0) <|
      .defaulted "basic_name" .text "" <|
      .defaulted "binding_name" .text "" <|
      .defaulted "is_pid" .flag false <|
      .defaulted "operations" (.list OperationDefinition.shape) [] <|
      .defaulted "equipment" (.list EquipmentDefinition.shape) [] <|
      .defaulted "aggregate_parameters" (.list ActiveDefinition.shape) [] <|
      .defaulted "main_aggregate_parameter" (.nullable ActiveDefinition.shape) none <|
      .defaulted "object_groups" (.list GroupDefinition.shape) [] <|
      .defaulted "system_parameters" (.list SystemDefinition.shape) [] .done)
    fun (name, eplanName, level, basicName, bindingName, isPid, operations, equipment,
        aggregateParameters, mainParameter, groups, systemParameters, ()) =>
      { name, eplanName, level, basicName, bindingName, isPid, operations, equipment,
        aggregateParameters, mainParameter, groups, systemParameters }

/-- A document may leave out its templates. -/
def Document.shape : Shape Document :=
  .record "CatalogDocument" (.defaulted "templates" (.list Definition.shape) [] .done)
    fun (templates, ()) => { templates }

/-- The document that a text holds. -/
def Document.read (text : String) : Except Json.Fault Document := shape.readDocument text

end Plant.Catalog
