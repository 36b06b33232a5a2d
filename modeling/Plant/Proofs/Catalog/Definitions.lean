import Mathlib.Data.List.Induction
import Plant.Proofs.Catalog.Templates
import Plant.Proofs.Parameter
import Plant.Proofs.Related

/-!
# What definitions define

A template holds what its definition lists, in the same order and under the same names, and nothing
else. Here that is said part by part, without the builders, and the builders are shown to make such
an object: each of them appends one part to one list and leaves the others alone, so a definition
can be read off the object that is built from it.

Results:
1. `Appends.foldl_eq`: what a sequence of builders makes of a list of parts.
2. `build_eq`: the object of a definition with its parts written out.
3. `template_exact`: what is built from a definition is what it defines, also in a catalog.
-/
namespace Plant

/-! ## What is defined -/

/-- The value for a text that means true or false. -/
def truthValue (text : String) : String :=
  if Parameter.SaysTrue text then "true" else "false"

/-- The parameter is of that kind, has these names and is enabled; it has had its value from the
start. -/
structure Parameter.Starts (kind : ParameterKind) (luaName name start : String) (p : Parameter) :
    Prop where
  kind : p.kind = kind
  luaName : p.luaName = luaName
  name : p.name = name
  value : p.value = start
  defaultValue : p.defaultValue = start
  enabled : p.disabled = false

/-- The operation stands for no operation and has no properties. -/
structure Operation.Blank (op : Operation) : Prop where
  luaName : op.luaName = ""
  name : op.name = ""
  position : op.position = 0
  properties : op.properties = []

namespace Catalog

/-- The level is the number that is given, or that of the level that is named. -/
def LevelSpec.Defines : LevelSpec → Int32 → Prop
  | number n, level => level = n
  | name s, level => ∃ l, Level.ofName? s = some l ∧ level = l.number

/-- The parameter is true or false if the definition says so; otherwise it has the text that is
given. -/
def ActiveDefinition.Defines (d : ActiveDefinition) (p : Parameter) : Prop :=
  match d.type with
  | .active => p.Starts .active d.luaName d.name d.defaultValue
  | .bool => p.Starts .activeBool d.luaName d.name (truthValue d.defaultValue)

/-- A main parameter is true or false, whatever type its definition gives. -/
def ActiveDefinition.DefinesMain (d : ActiveDefinition) (p : Parameter) : Prop :=
  p.Starts .mainAggregate d.luaName d.name (truthValue d.defaultValue)

/-- The operation has these names, this position and these properties. -/
structure OperationDefinition.Defines (d : OperationDefinition) (op : Operation) : Prop where
  luaName : op.luaName = d.luaName
  name : op.name = d.name
  position : op.position = d.position
  properties : List.Forall₂ ActiveDefinition.Defines d.properties op.properties

/-- The equipment parameter has the text that is given. -/
def EquipmentDefinition.Defines (d : EquipmentDefinition) (p : Parameter) : Prop :=
  p.Starts .equipment d.luaName d.name d.value

/-- The group has these names and no members yet; it belongs to nobody and admits what is asked
for. -/
structure GroupDefinition.Defines (d : GroupDefinition) (g : Group) : Prop where
  luaName : g.luaName = d.luaName
  name : g.name = d.name
  admission : g.admission = Admission.ofSpec d.allowedObjects
  value : g.value = ""
  owner : g.owner = none

/-- The system parameter has these names, this number and this unit. -/
structure SystemDefinition.Defines (d : SystemDefinition) (s : SystemParameter) : Prop where
  luaName : s.luaName = d.luaName
  name : s.name = d.name
  value : s.value = d.value
  meter : s.meter = d.meter

/-- The operations are those that are defined, behind a placeholder; there is none if no operation
is defined. -/
inductive OperationsDefined : List OperationDefinition → List Operation → Prop
  | none : OperationsDefined [] []
  | some {d : OperationDefinition} {ds : List OperationDefinition} {blank : Operation}
      {ops : List Operation} :
      blank.Blank → List.Forall₂ OperationDefinition.Defines (d :: ds) ops →
      OperationsDefined (d :: ds) (blank :: ops)

/-- The system parameters are those that are defined, with the indices from one on. -/
structure SystemDefined (ds : List SystemDefinition) (s : SystemParameters) : Prop where
  entries : List.Forall₂ SystemDefinition.Defines ds s.entries
  indices : s.entries.map (·.index) = (List.range' 1 ds.length).map UInt32.ofNat
  nextIndex : s.nextIndex = UInt32.ofNat (ds.length + 1)

/-- The object is what the definition says, and has all parts that it lists and no others. -/
structure Definition.Defines (d : Definition) (o : Object) : Prop where
  name : o.name = d.name
  eplanName : o.eplanName = d.eplanName
  level : d.level.Defines o.level
  basicName : o.basicName = d.basicName
  bindingName : o.bindingName = d.bindingName
  isPid : o.isPid = d.isPid
  owner : o.owner = none
  operations : OperationsDefined d.operations o.operations
  equipment : List.Forall₂ EquipmentDefinition.Defines d.equipment o.equipment
  aggregateParameters :
    List.Forall₂ ActiveDefinition.Defines d.aggregateParameters o.aggregateParameters
  mainParameter : Option.Rel ActiveDefinition.DefinesMain d.mainParameter o.mainParameter
  groups : List.Forall₂ GroupDefinition.Defines d.groups o.groups
  systemParameters : SystemDefined d.systemParameters o.systemParameters

/-! ## Builders that append -/

/-- Each step appends one element to a list that is part of the state. What it appends does not
depend on that list. -/
structure Appends {σ α β : Type} (step : σ → α → σ) (list : σ → List β)
    (put : List β → σ → σ) (make : σ → α → β) : Prop where
  step_eq : ∀ s a, step s a = put (list s ++ [make s a]) s
  list_put : ∀ bs b s, list (put (bs ++ [b]) s) = bs ++ [b]
  put_put : ∀ bs cs s, put cs (put bs s) = put cs s
  make_put : ∀ bs s a, make (put bs s) a = make s a

namespace Appends

variable {σ α β : Type} {step : σ → α → σ} {list : σ → List β} {put : List β → σ → σ}
  {make : σ → α → β}

theorem foldl_cons_eq (h : Appends step list put make) (a : α) (as : List α) (s : σ) :
    (a :: as).foldl step s = put (list s ++ (a :: as).map (make s)) s := by
  induction as generalizing a s with
  | nil => exact h.step_eq s a
  | cons b bs ih =>
    have later : (make (put (list s ++ [make s a]) s)) = make s := funext (h.make_put _ s)
    rw [List.foldl_cons, ih, h.step_eq, h.list_put, h.put_put, later, List.append_assoc]
    rfl

/-- Steps that append one after the other append all of it. -/
theorem foldl_eq (h : Appends step list put make) (put_list : ∀ s, put (list s) s = s)
    (as : List α) (s : σ) : as.foldl step s = put (list s ++ as.map (make s)) s := by
  cases as with
  | nil => rw [List.map_nil, List.append_nil, put_list]; rfl
  | cons a as => exact h.foldl_cons_eq a as s

end Appends

namespace DefinitionLemmas

/-- The operations in front of the next one: at least the placeholder. -/
def preceding (o : Object) : List Operation :=
  if o.operations.isEmpty then [Operation.placeholder.hold o.handle] else o.operations

theorem appends_operation : Appends
    (fun (o : Object) (d : OperationDefinition) => o.addOperation d.operation) preceding
    (fun operations o => { o with operations }) (fun o d => d.operation.hold o.handle) where
  step_eq _ _ := rfl
  list_put bs b _ := by
    rw [preceding, if_neg]
    simp
  put_put _ _ _ := rfl
  make_put _ _ _ := rfl

theorem appends_equipment : Appends
    (fun (o : Object) (d : EquipmentDefinition) => o.addEquipment d.luaName d.name d.value)
    Object.equipment (fun equipment o => { o with equipment })
    (fun o d => o.part .equipment d.luaName d.name d.value) where
  step_eq _ _ := rfl
  list_put _ _ _ := rfl
  put_put _ _ _ := rfl
  make_put _ _ _ := rfl

theorem appends_aggregate : Appends
    (fun (o : Object) (d : ActiveDefinition) => d.addAggregate o) Object.aggregateParameters
    (fun aggregateParameters o => { o with aggregateParameters })
    (fun o d => d.property.hold o.handle) where
  step_eq o d := by
    rcases d with ⟨luaName, name, defaultValue, type⟩
    cases type <;> rfl
  list_put _ _ _ := rfl
  put_put _ _ _ := rfl
  make_put _ _ _ := rfl

theorem appends_group : Appends
    (fun (o : Object) (d : GroupDefinition) =>
      o.addGroup d.luaName d.name (Admission.ofSpec d.allowedObjects)) Object.groups
    (fun groups o => { o with groups })
    (fun o d => Group.new d.luaName d.name (Admission.ofSpec d.allowedObjects) o.owner) where
  step_eq _ _ := rfl
  list_put _ _ _ := rfl
  put_put _ _ _ := rfl
  make_put _ _ _ := rfl

theorem appends_property : Appends
    (fun (op : Operation) (d : ActiveDefinition) => op.addProperty d.property) Operation.properties
    (fun properties op => { op with properties }) (fun op d => d.property.hold op.holder) where
  step_eq _ _ := rfl
  list_put _ _ _ := rfl
  put_put _ _ _ := rfl
  make_put _ _ _ := rfl

/-- The operations that are defined, behind a placeholder. -/
def listed (handle : Handle) : List OperationDefinition → List Operation
  | [] => []
  | d :: ds => Operation.placeholder.hold handle :: (d :: ds).map (·.operation.hold handle)

theorem foldl_addOperation (ds : List OperationDefinition) (o : Object) (none : o.operations = []) :
    (ds.foldl (fun o d => o.addOperation d.operation) o) =
      { o with operations := listed o.handle ds } := by
  cases ds with
  | nil => rw [listed, ← none]; rfl
  | cons d ds =>
    rw [appends_operation.foldl_cons_eq, preceding, none]
    rfl

theorem elim_setMain (d : Option ActiveDefinition) (o : Object) (none : o.mainParameter = none) :
    (d.elim o fun p => o.setMain p.luaName p.name p.defaultValue) =
      { o with mainParameter :=
          d.map fun p => o.part .mainAggregate p.luaName p.name p.defaultValue } := by
  cases d with
  | none => rw [Option.map_none, ← none]; rfl
  | some p => rfl

/-- What the system parameters become when those that are defined are added to them. -/
theorem foldl_addSystem (ds : List SystemDefinition) (o : Object) :
    (ds.foldl (fun o d => (o.addSystem d.luaName d.name d.value d.meter).2) o) =
      { o with
        systemParameters := ds.foldl (fun s d => (s.add d.luaName d.name d.value d.meter).2)
          o.systemParameters } := by
  induction ds generalizing o with
  | nil => rfl
  | cons d ds ih => rw [List.foldl_cons, ih]; rfl

end DefinitionLemmas

open DefinitionLemmas

theorem OperationDefinition.operation_eq (d : OperationDefinition) :
    d.operation =
      { Operation.new d.luaName d.name d.position with
        properties := d.properties.map fun p => p.property.hold none } :=
  appends_property.foldl_eq (fun _ => rfl) d.properties _

/-- The object of a definition, with the lists of its parts written out. -/
theorem build_eq (handle : Handle) (level : Int32) (d : Definition) :
    d.build handle level =
      { d.bare handle level with
        operations := listed handle d.operations
        equipment := d.equipment.map fun p =>
          (Parameter.new .equipment p.luaName p.name p.value).hold handle
        aggregateParameters := d.aggregateParameters.map fun p => p.property.hold handle
        mainParameter := d.mainParameter.map fun p =>
          (Parameter.new .mainAggregate p.luaName p.name p.defaultValue).hold handle
        groups := d.groups.map fun g =>
          Group.new g.luaName g.name (Admission.ofSpec g.allowedObjects) none
        systemParameters := d.systemParameters.foldl
          (fun s p => (s.add p.luaName p.name p.value p.meter).2) .empty } := by
  unfold Definition.build
  dsimp only
  -- In the order of the builders: each finds its own list as it was in the beginning.
  rw [foldl_addOperation _ _ rfl, appends_equipment.foldl_eq fun _ => rfl,
    appends_aggregate.foldl_eq fun _ => rfl, elim_setMain _ _ rfl,
    appends_group.foldl_eq fun _ => rfl, foldl_addSystem]
  rfl

/-! ## What the parts are -/

namespace DefinitionLemmas

theorem take_of_isBool {kind : ParameterKind} (h : kind.isBool = true) (text : String) :
    kind.take text = truthValue text := by
  obtain ⟨value, means⟩ := Parameter.take_bool h text
  rw [truthValue]
  split
  case isTrue yes => exact means.mpr yes
  case isFalse no =>
    rcases List.mem_pair.mp value with value | value
    · exact absurd (means.mp value) no
    · exact value

theorem starts_new (kind : ParameterKind) (luaName name text : String) (holder : Option Handle) :
    ((Parameter.new kind luaName name text).hold holder).Starts kind luaName name
      (kind.take text) :=
  ⟨rfl, rfl, rfl, rfl, rfl, rfl⟩

theorem defines_property (d : ActiveDefinition) (holder : Option Handle) :
    d.Defines (d.property.hold holder) := by
  rcases d with ⟨luaName, name, defaultValue, type⟩
  cases type with
  | active => exact starts_new .active luaName name defaultValue holder
  | bool =>
    have starts := starts_new .activeBool luaName name defaultValue holder
    rwa [take_of_isBool rfl] at starts

theorem defines_operation (d : OperationDefinition) (handle : Handle) :
    d.Defines (d.operation.hold handle) := by
  rw [d.operation_eq]
  refine ⟨rfl, rfl, rfl, ?_⟩
  -- the properties are held twice, first by nothing and then by the object
  show List.Forall₂ _ d.properties ((d.properties.map _).map _)
  rw [List.map_map]
  exact forall₂_map (fun p => defines_property p handle) d.properties

theorem operationsDefined_listed (handle : Handle) (ds : List OperationDefinition) :
    OperationsDefined ds (listed handle ds) := by
  cases ds with
  | nil => exact .none
  | cons d ds =>
    exact .some ⟨rfl, rfl, rfl, rfl⟩ (forall₂_map (fun d => defines_operation d handle) (d :: ds))

theorem definesMain_new (handle : Handle) (d : Option ActiveDefinition) :
    Option.Rel ActiveDefinition.DefinesMain d (d.map fun p =>
      (Parameter.new .mainAggregate p.luaName p.name p.defaultValue).hold handle) := by
  cases d with
  | none => exact .none
  | some d =>
    have starts := starts_new .mainAggregate d.luaName d.name d.defaultValue handle
    rw [take_of_isBool rfl] at starts
    exact .some starts

/-- Each system parameter that is added gets the next index. -/
theorem systemDefined_foldl (ds : List SystemDefinition) :
    SystemDefined ds
      (ds.foldl (fun s d => (s.add d.luaName d.name d.value d.meter).2) SystemParameters.empty) := by
  induction ds using List.reverseRecOn with
  | nil => exact ⟨.nil, rfl, rfl⟩
  | append_singleton ds d ih =>
    rw [List.foldl_append]
    refine ⟨List.rel_append ih.entries (.cons ⟨rfl, rfl, rfl, rfl⟩ .nil), ?_, ?_⟩
    · show (_ ++ [_]).map _ = _
      rw [List.map_append, ih.indices, List.length_append, List.length_singleton,
        List.range'_1_concat, List.map_append, Nat.add_comm 1]
      exact congrArg (_ ++ [·]) ih.nextIndex
    · show _ + 1 = _
      rw [ih.nextIndex, List.length_append, List.length_singleton]
      exact (UInt32.ofNat_add _ 1).symm

theorem defines_level {spec : LevelSpec} {level : Int32} (h : spec.resolve = .ok level) :
    spec.Defines level := by
  cases spec with
  | number n =>
    cases h
    rfl
  | name s =>
    unfold LevelSpec.resolve at h
    dsimp only at h
    split at h
    case h_1 l hl =>
      cases h
      exact ⟨l, hl, rfl⟩
    case h_2 => cases h

end DefinitionLemmas

theorem defines_build {d : Definition} {level : Int32} (h : d.level.resolve = .ok level)
    (handle : Handle) : d.Defines (d.build handle level) := by
  rw [build_eq]
  constructor
  case level => exact defines_level h
  case operations => exact operationsDefined_listed handle d.operations
  case equipment => exact forall₂_map (fun p => starts_new .equipment _ _ _ handle) d.equipment
  case aggregateParameters =>
    exact forall₂_map (fun p => defines_property p handle) d.aggregateParameters
  case mainParameter => exact definesMain_new handle d.mainParameter
  case groups => exact forall₂_map (fun g => ⟨rfl, rfl, rfl, rfl, rfl⟩) d.groups
  case systemParameters => exact systemDefined_foldl d.systemParameters
  all_goals rfl

/-- If the level of a definition is known, then what is built from it is what it defines, and so is
its template in every catalog that is made of a document with this definition. -/
theorem template_exact {d : Definition} {level : Int32} (h : d.level.resolve = .ok level) :
    (∀ handle, d.Defines (d.build handle level)) ∧
      ∀ handle document (c : Catalog), ofDocument handle document = .ok c →
        ∀ i : Nat, document.templates[i]? = some d →
          ∃ o, c.templates[i]? = some o ∧ d.Defines o := by
  refine ⟨defines_build h, fun handle document c hc i hd => ?_⟩
  have built := getElem?_templatesFrom (ofDocument_eq_ok_iff.mp hc) i
  rw [hd, Option.bind_some, h] at built
  exact ⟨_, built, defines_build h _⟩

/-- A unit with parts of every kind. Its main parameter is given as a number, its group asks for
nothing known, and two of its operations have the same names. -/
def mixer : Definition where
  name := "Mixer"
  eplanName := "MIXER"
  level := .name " Unit"
  basicName := "mixer"
  bindingName := ""
  isPid := true
  operations :=
    [⟨"MIX", "Mixing", 2, [⟨"speed", "Speed", " 50 ", .active⟩, ⟨"heat", "Heating", " ДА", .bool⟩]⟩,
      ⟨"MIX", "Mixing", -1, []⟩]
  equipment := [⟨"lid", "Lid", ""⟩]
  aggregateParameters := [⟨"on", "On", "TRUE!", .bool⟩, ⟨"delay", "Delay", "V1 V2", .active⟩]
  mainParameter := some ⟨"used", "Used", "Yes", .active⟩
  groups := [⟨"tanks", "Tanks", "Units"⟩]
  systemParameters := [⟨"p", "Pressure", ⟨0x7FF8000000000000⟩, "bar"⟩, ⟨"p", "Pressure", ⟨0⟩, ""⟩]

/-- Two units that differ in their names and levels only. -/
def mixers : Document := ⟨[{ mixer with name := "Stirrer", level := .number 9 }, mixer]⟩

theorem template_exact_mixer :
    mixer.level.resolve = .ok 1 ∧ mixer.Defines (mixer.build ⟨7⟩ 1) ∧
      ∃ c o, ofDocument .first mixers = .ok c ∧ c.templates[1]? = some o ∧ mixer.Defines o := by
  have level : mixer.level.resolve = .ok 1 := by decide +kernel
  have made : (ofDocument .first mixers).toOption.isSome := by decide +kernel
  refine ⟨level, (template_exact level).1 ⟨7⟩, ?_⟩
  cases hc : ofDocument .first mixers with
  | error f =>
    rw [hc] at made
    cases made
  | ok c =>
    obtain ⟨o, ho, defines⟩ := (template_exact level).2 .first _ c hc 1 rfl
    exact ⟨c, o, rfl, ho, defines⟩

end Catalog

end Plant
