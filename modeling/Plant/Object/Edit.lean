import Plant.Object.Basic

/-!
# Edits

The changes of one object as values, so that histories of them can be spoken of. An edit that does
not find the entry that it is to change changes nothing.
-/
namespace Plant.Object

/-- A change of one object. -/
inductive Edit where
  | setName (name : String)
  | setEplanName (name : String)
  | setLevel (number : Int32)
  | setBasicName (name : String)
  | setBindingName (name : String)
  | setPid (isPid : Bool)
  | setOwner (owner : Option Owner)
  | addOperation (luaName name : String) (position : Int32)
  | editOperation (which : Entry) (e : Operation.Edit)
  | addEquipment (luaName name text : String)
  | editEquipment (which : Entry) (e : Parameter.Edit)
  | addActive (luaName name text : String)
  | addActiveBool (luaName name text : String)
  | editAggregate (which : Entry) (e : Parameter.Edit)
  | setMain (luaName name text : String)
  | editMain (e : Parameter.Edit)
  | addGroup (luaName name : String) (admission : Admission)
  | setGroup (luaName value : String)
  | addSystem (luaName name : String) (value : Number.Binary64) (meter : String)
  | setSystem (luaName : String) (value : Number.Binary64)

/-- The object after an edit; nothing if the edit does not find what it is to change. -/
def edit? : Edit → Object → Option Object
  | .setName name, o => some { o with name }
  | .setEplanName eplanName, o => some { o with eplanName }
  | .setLevel level, o => some { o with level }
  | .setBasicName basicName, o => some { o with basicName }
  | .setBindingName bindingName, o => some { o with bindingName }
  | .setPid isPid, o => some { o with isPid }
  | .setOwner owner, o => some (o.setOwner owner)
  | .addOperation luaName name position, o =>
    some (o.addOperation (Operation.new luaName name position))
  | .editOperation which e, o => o.editOperation? which e
  | .addEquipment luaName name text, o => some (o.addEquipment luaName name text)
  | .editEquipment which e, o => o.editEquipment? which e
  | .addActive luaName name text, o => some (o.addActive luaName name text)
  | .addActiveBool luaName name text, o => some (o.addActiveBool luaName name text)
  | .editAggregate which e, o => o.editAggregate? which e
  | .setMain luaName name text, o => some (o.setMain luaName name text)
  | .editMain e, o => o.editMain? e
  | .addGroup luaName name admission, o => some (o.addGroup luaName name admission)
  | .setGroup luaName value, o => o.setGroup? luaName value
  | .addSystem luaName name value meter, o => some (o.addSystem luaName name value meter).2
  | .setSystem luaName value, o => o.setSystem? luaName value

/-- The object after an edit, the same object if the edit finds nothing to change. -/
def edit (e : Edit) (o : Object) : Object := (o.edit? e).getD o

/-- The object after a sequence of edits. -/
def editAll (es : List Edit) (o : Object) : Object := es.foldl (fun o e => o.edit e) o

end Plant.Object
