import Plant.Catalog.Basic
import Plant.Object.Edit
import Plant.Settings

/-!
# Workspaces

A workspace holds named objects, a registry, catalogs and settings, and hands out the handles. Its
commands are values, so that histories of them can be spoken of. A command that is refused changes
nothing but the next handle: a document that makes no catalog uses up the handles of the templates
that were begun before its fault.
-/
namespace Plant

/-- What a project is worked on with. -/
structure Workspace where
  objects : Std.HashMap String Object
  registry : Registry
  /-- All the catalogs that were loaded or copied, in that order. -/
  catalogs : List Catalog
  /-- The position of the catalog in use. -/
  inUse : Nat
  settings : Settings
  /-- The handle of the next object. -/
  nextHandle : Handle

namespace Workspace

/-- A change of a workspace. Objects go by the names of the slots that they are in; a new object
replaces the one that was in its slot. -/
inductive Command where
  | create (slot : String) (owner : Option Owner)
  | copy (source slot : String)
  | copyFor (source : String) (owner : Owner) (slot : String)
  | discard (slot : String)
  | edit (slot : String) (e : Object.Edit)
  /-- Adds a copy of the property of one object's operation to an operation of an object. -/
  | copyProperty (source sourceOperation property slot operation : String)
  | register (number : UInt64) (object : Registered)
  | setProcessCell (object : Option Registered)
  /-- A catalog that is loaded or copied is in use from then on. -/
  | loadCatalog (document : Catalog.Document)
  | copyCatalog
  | useCatalog (position : Nat)
  | copyTemplate (name slot : String)
  | instantiate (basicName : String) (owner : Owner) (slot : String)
  | setSettings (settings : Settings)

/-- Why a command is refused. -/
inductive Refusal where
  /-- There is no object in a slot. -/
  | noObject
  /-- There is nothing of the name that the command looks for. -/
  | noMatch
  | catalog (fault : Catalog.Fault)
deriving DecidableEq, Repr

/-- A workspace with nothing in it. -/
def empty : Workspace :=
  { objects := ∅, registry := .empty, catalogs := [], inUse := 0, settings := .standard,
    nextHandle := .first }

/-- The catalog in use; there are no templates in it before one is loaded. -/
def catalog (w : Workspace) : Catalog := (w.catalogs[w.inUse]?).getD .empty

/-- The object in a slot. -/
def object (slot : String) (w : Workspace) : Except Refusal Object :=
  match w.objects[slot]? with
  | some o => .ok o
  | none => .error .noObject

/-- Puts an object into a slot. -/
def put (slot : String) (o : Object) (w : Workspace) : Workspace :=
  { w with objects := w.objects.insert slot o }

/-- Adds a catalog, which is in use from then on. -/
def addCatalog (c : Catalog) (w : Workspace) : Workspace :=
  { w with catalogs := w.catalogs ++ [c], inUse := w.catalogs.length }

/-- Takes `n` handles out of use. -/
def useHandles (n : Nat) (w : Workspace) : Workspace :=
  { w with nextHandle := w.nextHandle.advance n }

/-- Changes the object in a slot. -/
def editObject (slot : String) (e : Object.Edit) (w : Workspace) : Except Refusal Workspace := do
  let o ← w.object slot
  match o.edit? e with
  | some o => .ok (w.put slot o)
  | none => .error .noMatch

/-- The workspace after a command. -/
def run (c : Command) (w : Workspace) : Except Refusal Workspace :=
  match c with
  | .create slot owner => .ok ((w.put slot (Object.new w.nextHandle owner)).useHandles 1)
  | .copy source slot => do
    let o ← w.object source
    .ok ((w.put slot (o.copy w.nextHandle)).useHandles 1)
  | .copyFor source owner slot => do
    let o ← w.object source
    .ok ((w.put slot (o.copyFor w.nextHandle owner)).useHandles 1)
  | .discard slot => do
    let _ ← w.object slot
    .ok { w with objects := w.objects.erase slot }
  | .edit slot e => w.editObject slot e
  | .copyProperty source sourceOperation property slot operation => do
    let o ← w.object source
    match (o.operation? sourceOperation).bind (·.property? property) with
    | some p => w.editObject slot (.editOperation (.named operation) (.addProperty p))
    | none => .error .noMatch
  | .register number object => .ok { w with registry := w.registry.insert number object }
  | .setProcessCell object => .ok { w with registry := w.registry.setProcessCell object }
  | .loadCatalog document =>
    match Catalog.ofDocument w.nextHandle document with
    | .ok catalog => .ok ((w.addCatalog catalog).useHandles catalog.size)
    | .error fault => .error (.catalog fault)
  | .copyCatalog =>
    .ok ((w.addCatalog (w.catalog.copy w.nextHandle)).useHandles w.catalog.size)
  | .useCatalog position =>
    if position < w.catalogs.length then .ok { w with inUse := position } else .error .noMatch
  | .copyTemplate name slot =>
    match w.catalog.template? name with
    | some o => .ok ((w.put slot (o.copy w.nextHandle)).useHandles 1)
    | none => .error .noMatch
  | .instantiate basicName owner slot =>
    match w.catalog.instantiate? basicName w.nextHandle owner with
    | some o => .ok ((w.put slot o).useHandles 1)
    | none => .error .noMatch
  | .setSettings settings => .ok { w with settings }

/-- The number of the objects that a command has begun to make when it is refused. -/
def Command.begun : Command → Nat
  | .loadCatalog document => document.begun
  | _ => 0

/-- The workspace after a command, or after its refusal. -/
def step (w : Workspace) (c : Command) : Workspace :=
  match w.run c with
  | .ok w => w
  | .error _ => w.useHandles c.begun

/-- The workspace after a history of commands. -/
def runAll (cs : List Command) (w : Workspace) : Workspace := cs.foldl step w

end Workspace

end Plant
