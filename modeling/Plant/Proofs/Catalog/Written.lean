import Plant.Proofs.Json.Records
import Plant.Source

/-!
# Documents as texts

How a catalog document may be written. Each of its definitions is a record whose last fields have
defaults; texts may be spelled with escapes, and a level is a number or a name. Whichever way is
taken, the text means the document, and the catalog that is read from it is that of the document.

Results:
1. `Definition.reads`: a definition is read from whatever writes it.
2. `Document.read_of_writtenAs`: so is a document.
3. `read_eq_ofDocument`: the catalog of a text is the catalog of its document.
-/
namespace Plant.Catalog

open Json

/-! ## Definitions -/

/-- A level is written as an integer or as its name. -/
def LevelSpec.Written : LevelSpec → List Char → Prop
  | .number n => IntegerText n.toInt
  | .name s => Quoted s

/-- The name of a type. -/
def ActiveType.name : ActiveType → String
  | active => "active"
  | bool => "bool"

/-- The type is written by its name. -/
def ActiveType.Written (t : ActiveType) : List Char → Prop := Named t.name

/-- The active parameter is written. -/
def ActiveDefinition.Written (d : ActiveDefinition) : List Char → Prop :=
  Recorded [.required "lua_name" (Quoted d.luaName),
    .required "name" (Quoted d.name),
    .defaulted "default_value" "" d.defaultValue Quoted,
    .defaulted "type" .active d.type ActiveType.Written]

/-- The operation is written. -/
def OperationDefinition.Written (d : OperationDefinition) : List Char → Prop :=
  Recorded [.required "lua_name" (Quoted d.luaName),
    .required "name" (Quoted d.name),
    .defaulted "default_position" 0 d.position (IntegerText ·.toInt),
    .defaulted "properties" [] d.properties (Listed ActiveDefinition.Written)]

/-- The equipment parameter is written. -/
def EquipmentDefinition.Written (d : EquipmentDefinition) : List Char → Prop :=
  Recorded [.required "lua_name" (Quoted d.luaName),
    .required "name" (Quoted d.name),
    .defaulted "value" "" d.value Quoted]

/-- The group is written. -/
def GroupDefinition.Written (d : GroupDefinition) : List Char → Prop :=
  Recorded [.required "lua_name" (Quoted d.luaName),
    .required "name" (Quoted d.name),
    .defaulted "allowed_objects" "" d.allowedObjects Quoted]

/-- The system parameter is written. -/
def SystemDefinition.Written (d : SystemDefinition) : List Char → Prop :=
  Recorded [.required "lua_name" (Quoted d.luaName),
    .required "name" (Quoted d.name),
    .defaulted "value" ⟨0⟩ d.value RealText,
    .defaulted "meter" "" d.meter Quoted]

/-- The template is written. -/
def Definition.Written (d : Definition) : List Char → Prop :=
  Recorded [.required "name" (Quoted d.name),
    .defaulted "eplan_name" "" d.eplanName Quoted,
    .defaulted "s88_level" (.number 0) d.level LevelSpec.Written,
    .defaulted "basic_name" "" d.basicName Quoted,
    .defaulted "binding_name" "" d.bindingName Quoted,
    .defaulted "is_pid" false d.isPid Flag,
    .defaulted "operations" [] d.operations (Listed OperationDefinition.Written),
    .defaulted "equipment" [] d.equipment (Listed EquipmentDefinition.Written),
    .defaulted "aggregate_parameters" [] d.aggregateParameters (Listed ActiveDefinition.Written),
    .defaulted "main_aggregate_parameter" none d.mainParameter
      (Nullable ActiveDefinition.Written),
    .defaulted "object_groups" [] d.groups (Listed GroupDefinition.Written),
    .defaulted "system_parameters" [] d.systemParameters (Listed SystemDefinition.Written)]

/-- The document is written. -/
def Document.Written (d : Document) : List Char → Prop :=
  Recorded [.defaulted "templates" [] d.templates (Listed Definition.Written)]

/-- The text is the document, with white space around it. -/
def Document.WrittenAs (d : Document) (text : String) : Prop :=
  ∃ v, d.Written v ∧ Pads v text.toList

/-! ## A document and its text -/

/-- A pressure of two bar. -/
def boilerPressure : SystemDefinition :=
  { luaName := "p", name := "P", value := ⟨0x4000000000000000⟩, meter := "" }

/-- A template that has nothing but a system parameter. -/
def boiler : Definition where
  name := "T"
  eplanName := ""
  level := .number 0
  basicName := ""
  bindingName := ""
  isPid := false
  operations := []
  equipment := []
  aggregateParameters := []
  mainParameter := none
  groups := []
  systemParameters := [boilerPressure]

/-- A document of that template: there is a key that is not known, a name is spelled with an escape,
and the system parameter is a list. -/
def boilerText : String :=
  " \x7b\"v\":[null],\"templates\":[\x7b\"system_parameters\":[[\"p\",\"P\",2]]," ++
    "\"name\":\"\\u0054\"\x7d]\x7d"

theorem boiler_writtenAs : Document.WrittenAs ⟨[boiler]⟩ boilerText := by
  have plain {s : String} (h : s.toList.all (Bare ·) = true) := quoted_of_bare h
  have key (s : String) (h : s.toList.all (Bare ·) = true) (v : List Char) :=
    keyed_append (plain h) v
  have whole : Whole ['2'] := ⟨⟨by simp, by simp⟩, by simp⟩
  have blank : Spaces [' '] := List.forall_mem_singleton.mpr (by simp)
  have two : RealText boilerPressure.value ['2'] := .unsigned (.integer whole (by decide))
  have pressure : boilerPressure.Written _ :=
    .list (List.take_append_drop 3 _).symm (by simp [Field.defaulted, boilerPressure])
      ⟨_, .cons ⟨_, plain (by decide), pads_self _⟩ <| .cons ⟨_, plain (by decide), pads_self _⟩ <|
        .cons ⟨_, two, pads_self _⟩ .nil, .items _ _⟩
  have pressures : Listed SystemDefinition.Written boiler.systemParameters _ :=
    ⟨_, .cons ⟨_, pressure, pads_self _⟩ .nil, .items _ _⟩
  have unit : HexUnit 'T'.toNat ['0', '0', '5', '4'] :=
    .digits (i := 0) (j := 0) (k := 5) (l := 4) (by decide) (by decide) (by decide) (by decide)
  have name : Quoted boiler.name _ := ⟨_, .unit unit .nil, rfl⟩
  have template : boiler.Written _ := .record
    (.known (List.mem_of_getElem? (i := 11) rfl) (by simp) pressures
      (key "system_parameters" (by decide) _) <|
     .known (List.mem_of_getElem? (i := 0) rfl) (by simp) name (key "name" (by decide) _) <|
     .done (by simp [Field.defaulted, Field.required, boiler])) (.items _ _)
  have templates : Listed Definition.Written [boiler] _ :=
    ⟨_, .cons ⟨_, template, pads_self _⟩ .nil, .items _ _⟩
  have null : Frame.list.Holds ['n', 'u', 'l', 'l'] _ := pads_self _
  have any : Value _ :=
    .nested (List.forall_mem_singleton.mpr Value.null) (.cons null .nil) (.items _ _)
  have written : Document.Written ⟨[boiler]⟩ _ := .record
    (.unknown (by decide) any (key "v" (by decide) _) <|
     .known (List.mem_of_getElem? (i := 0) rfl) (by simp) templates
      (key "templates" (by decide) _) <|
     .done (by simp)) (.items _ _)
  exact ⟨_, written, [' '], [], blank, spaces_nil, by decide⟩

/-! ## Reading -/

theorem LevelSpec.reads (l : LevelSpec) {depth : Nat} : shape.Reads depth l l.Written := by
  cases l with
  | number n =>
    have known : ofContent? (.integer n.toInt) = some (.number n) := by
      rw [ofContent?, ReadingLemmas.int32?_toInt, Option.map_some]
    exact reads_content_int32 known "LevelSpec"
  | name s =>
    have known : ofContent? (.text s) = some (.name s) := rfl
    exact reads_content_text known "LevelSpec"

theorem ActiveType.reads (t : ActiveType) : shape.Reads 1 t t.Written := by
  cases t with
  | active | bool => exact reads_variant rfl

theorem ActiveDefinition.reads (d : ActiveDefinition) : shape.Reads 2 d d.Written :=
  reads_record (.required _ (reads_text d.luaName) <|
    .required _ (reads_text d.name) <|
    .defaulted _ _ (reads_text d.defaultValue) <|
    .defaulted _ _ d.type.reads Fields.describes_done) (by simp) _ _

theorem OperationDefinition.reads (d : OperationDefinition) : shape.Reads 4 d d.Written :=
  reads_record (.required _ (reads_text d.luaName) <|
    .required _ (reads_text d.name) <|
    .defaulted _ _ (reads_int32 d.position) <|
    .defaulted _ _ (reads_list fun p _ => p.reads) Fields.describes_done) (by simp) _ _

theorem EquipmentDefinition.reads (d : EquipmentDefinition) : shape.Reads 1 d d.Written :=
  reads_record (.required _ (reads_text d.luaName) <|
    .required _ (reads_text d.name) <|
    .defaulted _ _ (reads_text d.value) Fields.describes_done) (by simp) _ _

theorem GroupDefinition.reads (d : GroupDefinition) : shape.Reads 1 d d.Written :=
  reads_record (.required _ (reads_text d.luaName) <|
    .required _ (reads_text d.name) <|
    .defaulted _ _ (reads_text d.allowedObjects) Fields.describes_done) (by simp) _ _

theorem SystemDefinition.reads (d : SystemDefinition) : shape.Reads 1 d d.Written :=
  reads_record (.required _ (reads_text d.luaName) <|
    .required _ (reads_text d.name) <|
    .defaulted _ _ (reads_real d.value) <|
    .defaulted _ _ (reads_text d.meter) Fields.describes_done) (by simp) _ _

theorem ActiveDefinition.head?_ne_n (d : ActiveDefinition) (v : List Char) (hv : d.Written v) :
    v.head? ≠ some 'n' := by
  rcases head?_of_recorded hv with head | head <;> simp [head]

/-- A definition is read from whatever writes it. -/
theorem Definition.reads (d : Definition) : shape.Reads 6 d d.Written :=
  reads_record (.required _ (reads_text d.name) <|
    .defaulted _ _ (reads_text d.eplanName) <|
    .defaulted _ _ d.level.reads <|
    .defaulted _ _ (reads_text d.basicName) <|
    .defaulted _ _ (reads_text d.bindingName) <|
    .defaulted _ _ (reads_flag d.isPid) <|
    .defaulted _ _ (reads_list fun o _ => o.reads) <|
    .defaulted _ _ (reads_list fun p _ => p.reads.mono (by decide)) <|
    .defaulted _ _ (reads_list fun p _ => p.reads.mono (by decide)) <|
    .defaulted _ _ (reads_nullable (fun p => p.reads.mono (by decide))
      ActiveDefinition.head?_ne_n) <|
    .defaulted _ _ (reads_list fun p _ => p.reads.mono (by decide)) <|
    .defaulted _ _ (reads_list fun p _ => p.reads.mono (by decide)) Fields.describes_done)
    (by simp) _ _

theorem Document.reads (d : Document) : shape.Reads 8 d d.Written :=
  reads_record (.defaulted _ _ (reads_list fun p _ => p.reads) Fields.describes_done) (by simp) _ _

/-- A text is read as the document that it is. -/
theorem Document.read_of_writtenAs {d : Document} {text : String} (h : d.WrittenAs text) :
    Document.read text = .ok d := by
  obtain ⟨v, hv, pads⟩ := h
  exact d.reads.readDocument (by decide) hv pads

/-- The catalog of a text is the catalog of the document that the text is, in whichever way it is
written, and if the document is refused, the text is refused for the same fault. -/
theorem read_eq_ofDocument {d : Document} {text : String} (h : d.WrittenAs text) (handle : Handle) :
    Catalog.read handle text = (Catalog.ofDocument handle d).mapError .catalog := by
  rw [Catalog.read, Document.read_of_writtenAs h]
  rfl

/-- The text is read, and the catalog has the template. -/
theorem read_boiler : Document.WrittenAs ⟨[boiler]⟩ boilerText ∧
    (Catalog.read ⟨0⟩ boilerText).map names = .ok ["T"] := by
  rw [read_eq_ofDocument boiler_writtenAs ⟨0⟩]
  exact ⟨boiler_writtenAs, rfl⟩

end Plant.Catalog
