import Plant.Catalog.Template

/-!
# Catalogs

A catalog holds the templates of a document, each under a name of its own. Objects are made as
copies of its templates, so nothing that happens to them reaches the catalog.
-/
namespace Plant

/-- The templates of a document, in its order. -/
structure Catalog where
  templates : List Object

namespace Catalog

/-- Why the definitions of a document make no catalog. -/
inductive Fault where
  /-- The name of the definition at an index is blank. -/
  | emptyName (index : Nat)
  /-- The name of an earlier definition is used again. -/
  | duplicateName (name : String)
  /-- The level of a template has a name that is none of a level. -/
  | unknownLevel (template level : String)
deriving DecidableEq, Repr

/-- The words for a fault. -/
def Fault.message : Fault → String
  | emptyName index => "模板名称为空 (序号 " ++ Number.decimal index ++ ")"
  | duplicateName name => "模板名称重复: " ++ name
  | unknownLevel template level => "未知的 S88 层级 (template=" ++ template ++ "): " ++ level

/-- Checks the definition at an index against the names before it, and finds its level. -/
def check (index : Nat) (seen : List String) (d : Definition) : Except Fault Int32 :=
  if (Text.trim d.name).isEmpty then .error (.emptyName index)
  else if seen.contains d.name then .error (.duplicateName d.name)
  else match d.level.resolve with
    | .ok level => .ok level
    | .error level => .error (.unknownLevel d.name level)

/-- The templates of definitions, the first of which has an index and follows definitions with the
names `seen`; they get consecutive handles. -/
def templatesFrom (index : Nat) (seen : List String) (handle : Handle) :
    List Definition → Except Fault (List Object)
  | [] => .ok []
  | d :: ds => do
    let level ← check index seen d
    let templates ← templatesFrom (index + 1) (d.name :: seen) handle.next ds
    .ok (d.build handle level :: templates)

/-- The number of the templates that definitions begin: all of them, or those before a fault. Only
when a template has been begun is its level looked at. -/
def begun (index : Nat) (seen : List String) : List Definition → Nat
  | [] => 0
  | d :: ds => match check index seen d with
    | .ok _ => begun (index + 1) (d.name :: seen) ds + 1
    | .error (.unknownLevel _ _) => 1
    | .error _ => 0

/-- The number of the templates that a document begins. -/
def Document.begun (d : Document) : Nat := Catalog.begun 0 [] d.templates

/-- The catalog without templates. -/
def empty : Catalog := { templates := [] }

/-- The catalog of a document, with consecutive handles from `handle` on. -/
def ofDocument (handle : Handle) (d : Document) : Except Fault Catalog :=
  (templatesFrom 0 [] handle d.templates).map fun templates => { templates }

/-- The number of the templates. -/
def size (c : Catalog) : Nat := c.templates.length

/-- Tells whether the catalog has no templates. -/
def isEmpty (c : Catalog) : Bool := c.templates.isEmpty

/-- The names of the templates. -/
def names (c : Catalog) : List String := c.templates.map (·.name)

/-- The template of that name. -/
def template? (name : String) (c : Catalog) : Option Object := c.templates.find? (·.name == name)

/-- The first template that is asked for by that name. -/
def templateByBasicName? (basicName : String) (c : Catalog) : Option Object :=
  c.templates.find? (·.basicName == basicName)

/-- A new object that is a copy of the template asked for by that name and belongs to an owner. -/
def instantiate? (basicName : String) (handle : Handle) (owner : Owner) (c : Catalog) :
    Option Object :=
  (c.templateByBasicName? basicName).map (·.copyFor handle owner)

/-- Copies of objects, with consecutive handles from `handle` on. -/
def copies (handle : Handle) : List Object → List Object
  | [] => []
  | o :: os => o.copy handle :: copies handle.next os

/-- A copy of the catalog, with consecutive handles from `handle` on. -/
def copy (handle : Handle) (c : Catalog) : Catalog := { templates := copies handle c.templates }

end Catalog

end Plant
