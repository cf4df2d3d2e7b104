import Aep.Library.Json

/-- What a validator leaves to its environment: regular expressions and the named formats. -/
structure JsonSchema.Dialect where
  pattern : String → String → Bool
  format : String → Json → Bool

namespace JsonSchema

variable (dialect : Dialect)

def number? : Json → Option Rat
  | .int value => some value
  | .float value => some value
  | _ => none

def integer? : Json → Option Int
  | .int value => some value
  | .float value => if value.den = 1 then some value.num else none
  | _ => none

def hasType (value : Json) (name : String) : Bool :=
  match name, value with
  | "null", .null | "boolean", .bool _ | "string", .str _ | "array", .arr _ | "object", .obj _ => true
  | "number", value => (number? value).isSome
  | "integer", value => (integer? value).isSome
  | _, _ => false

section Keywords

variable (schema : Record) (keyword : String)

def textOf : Option String := (schema.get? keyword).bind Json.asString?

def itemsOf : Option (List Json) := (schema.get? keyword).bind Json.asItems?

def namesOf : Option (List String) := (itemsOf schema keyword).map fun items => items.filterMap Json.asString?

def numberOf : Option Rat := (schema.get? keyword).bind number?

def mappingOf : Option Record := (schema.get? keyword).bind Json.asRecord?

theorem mappingOf_cons (key : String) (value : Json) (rest : Record) :
    mappingOf ((key, value) :: rest) keyword = if key = keyword then value.asRecord? else mappingOf rest keyword := by
  unfold mappingOf
  rw [Dict.get?_cons]
  split <;> rfl

theorem itemsOf_cons (key : String) (value : Json) (rest : Record) :
    itemsOf ((key, value) :: rest) keyword = if key = keyword then value.asItems? else itemsOf rest keyword := by
  unfold itemsOf
  rw [Dict.get?_cons]
  split <;> rfl

end Keywords

section Assertions

variable (schema : Record) (value : Json)

def checkType : Bool :=
  (textOf schema "type").all (hasType value) && (namesOf schema "type").all fun names => names.any (hasType value)

def checkEnum : Bool := (itemsOf schema "enum").all fun items => items.any fun item => item.sameValue value

def checkRequired : Bool :=
  (namesOf schema "required").all fun names => value.asRecord?.all fun fields => names.all (· ∈ fields.keys)

def checkBound (keyword : String) (measure : Option Rat) (within : Rat → Rat → Bool) : Bool :=
  (numberOf schema keyword).all fun bound => measure.all fun measured => within measured bound

def atLeast (measured bound : Rat) : Bool := bound ≤ measured

def atMost (measured bound : Rat) : Bool := measured ≤ bound

def textLength : Option Rat := value.asString?.map fun text => (text.length : Rat)

def itemCount : Option Rat := value.asItems?.map fun items => (items.length : Rat)

def checkPattern : Bool := (textOf schema "pattern").all fun regex => value.asString?.all (dialect.pattern regex)

def checkFormat : Bool := (textOf schema "format").all fun name => dialect.format name value

def distinct : List Json → Bool
  | [] => true
  | item :: rest => rest.all (fun other => !item.sameValue other) && distinct rest

def checkUnique : Bool :=
  if schema.get? "uniqueItems" = some (.bool true) then value.asItems?.all distinct else true

def checkStructure : Bool :=
  checkType schema value && checkEnum schema value && checkRequired schema value &&
    checkBound schema "minimum" (number? value) atLeast && checkBound schema "maximum" (number? value) atMost &&
    checkBound schema "minItems" (itemCount value) atLeast && checkBound schema "maxItems" (itemCount value) atMost &&
    checkPattern dialect schema value && checkFormat dialect schema value

def checkHints : Bool :=
  checkBound schema "minLength" (textLength value) atLeast && checkBound schema "maxLength" (textLength value) atMost &&
    checkUnique schema value

end Assertions

section Applicators

variable (recur : Json → Json → Bool) (schema : Record) (value : Json)

def applyProperties : Bool :=
  (mappingOf schema "properties").all fun properties => value.asRecord?.all fun fields =>
    properties.all fun entry => (fields.get? entry.1).all (recur entry.2)

def declaredNames : List String := ((mappingOf schema "properties").map Dict.keys).getD []

def applyAdditional : Bool :=
  (schema.get? "additionalProperties").all fun additional => value.asRecord?.all fun fields =>
    fields.all fun entry => entry.1 ∈ declaredNames schema || recur additional entry.2

def applyItems : Bool :=
  (schema.get? "items").all fun items => value.asItems?.all fun members => members.all (recur items)

def applyAnyOf : Bool := (itemsOf schema "anyOf").all fun branches => branches.any fun branch => recur branch value

def applyReference (resolve : String → Option Json) : Bool :=
  (textOf schema "$ref").all fun reference => (resolve reference).any fun target => recur target value

def applyAll (resolve : String → Option Json) : Bool :=
  applyProperties recur schema value && applyAdditional recur schema value && applyItems recur schema value &&
    applyAnyOf recur schema value && applyReference recur schema value resolve

end Applicators

/-- Validation to a bounded depth of subschemas and references. The keywords are those without a negation,
    so a larger bound accepts more. -/
def validates (resolve : String → Option Json) : Nat → Json → Json → Bool
  | 0, _, _ => false
  | depth + 1, schema, value =>
    match schema with
    | .bool accepted => accepted
    | .obj fields =>
      checkStructure dialect fields value && checkHints fields value &&
        applyAll (validates resolve depth) fields value resolve
    | _ => false

def Valid (resolve : String → Option Json) (schema value : Json) : Prop :=
  ∃ depth, validates dialect resolve depth schema value = true

/-- The subschemas that a schema applies directly, and its definitions. -/
inductive Child (schema : Record) : Json → Prop where
  | property {properties : Record} {name : String} {child : Json}
      (found : mappingOf schema "properties" = some properties) (member : (name, child) ∈ properties) :
      Child schema child
  | definition {definitions : Record} {name : String} {child : Json}
      (found : mappingOf schema "$defs" = some definitions) (member : (name, child) ∈ definitions) :
      Child schema child
  | items {child : Json} (found : schema.get? "items" = some child) : Child schema child
  | branch {branches : List Json} {child : Json} (found : itemsOf schema "anyOf" = some branches)
      (member : child ∈ branches) : Child schema child
  | additional {child : Json} (found : schema.get? "additionalProperties" = some child) : Child schema child

/-- The schemas inside a schema, itself included. -/
inductive Position : Json → Json → Prop where
  | here (schema : Json) : Position schema schema
  | inside {fields : Record} {child sub : Json} (first : Child fields child) (rest : Position child sub) :
      Position (.obj fields) sub

theorem Position.trans {outer middle inner : Json} (first : Position outer middle) (second : Position middle inner) :
    Position outer inner := by
  induction first with
  | here => exact second
  | inside child _ ih => exact .inside child (ih second)

theorem Position.child {outer child : Json} {fields : Record} (position : Position outer (.obj fields))
    (below : Child fields child) : Position outer child :=
  position.trans (.inside below (.here child))

/-- A schema whose subschemas are changed, whose structural keywords are kept and whose hints are dropped. -/
structure Weakens (change : Json → Json) (schema schema' : Record) : Prop where
  texts : ∀ keyword ∈ ["type", "pattern", "format", "$ref"], textOf schema' keyword = textOf schema keyword
  names : ∀ keyword ∈ ["type", "required"], namesOf schema' keyword = namesOf schema keyword
  numbers : ∀ keyword ∈ ["minimum", "maximum", "minItems", "maxItems"],
    numberOf schema' keyword = numberOf schema keyword
  literals : itemsOf schema' "enum" = itemsOf schema "enum"
  dropped : ∀ keyword ∈ ["minLength", "maxLength", "uniqueItems"], schema'.get? keyword = none
  properties : mappingOf schema' "properties" =
    (mappingOf schema "properties").map fun properties => properties.map fun entry => (entry.1, change entry.2)
  subschemas : ∀ keyword ∈ ["items", "additionalProperties"],
    schema'.get? keyword = (schema.get? keyword).map change
  branches : itemsOf schema' "anyOf" = (itemsOf schema "anyOf").map fun branches => branches.map change

section Weakening

variable {dialect} {change : Json → Json} {schema schema' : Record} {value : Json} {recur recur' : Json → Json → Bool}

theorem Weakens.checkStructure (weakens : Weakens change schema schema') :
    JsonSchema.checkStructure dialect schema' value = JsonSchema.checkStructure dialect schema value := by
  simp only [JsonSchema.checkStructure, checkType, checkEnum, checkRequired, checkBound, checkPattern, checkFormat,
    weakens.literals, weakens.texts "type" (by decide), weakens.texts "pattern" (by decide),
    weakens.texts "format" (by decide), weakens.names "type" (by decide), weakens.names "required" (by decide),
    weakens.numbers "minimum" (by decide), weakens.numbers "maximum" (by decide),
    weakens.numbers "minItems" (by decide), weakens.numbers "maxItems" (by decide)]

theorem Weakens.checkHints (weakens : Weakens change schema schema') :
    JsonSchema.checkHints schema' value = true := by
  simp [JsonSchema.checkHints, checkBound, checkUnique, numberOf, weakens.dropped "minLength" (by decide),
    weakens.dropped "maxLength" (by decide), weakens.dropped "uniqueItems" (by decide)]

theorem Weakens.declaredNames (weakens : Weakens change schema schema') :
    JsonSchema.declaredNames schema' = JsonSchema.declaredNames schema := by
  simp only [JsonSchema.declaredNames, weakens.properties, Option.map_map]
  cases mappingOf schema "properties" with
  | none => rfl
  | some properties => simp [Dict.keys, Function.comp_def]

theorem Weakens.applyProperties (weakens : Weakens change schema schema')
    (weaker : ∀ child, Child schema child → ∀ value, recur child value = true → recur' (change child) value = true)
    (applied : JsonSchema.applyProperties recur schema value = true) :
    JsonSchema.applyProperties recur' schema' value = true := by
  unfold JsonSchema.applyProperties at applied ⊢
  rw [weakens.properties]
  cases found : mappingOf schema "properties" with
  | none => rfl
  | some properties =>
    simp only [found, Option.all_some, Option.map_some, Option.all_eq_true, List.all_eq_true, List.mem_map,
      forall_exists_index, and_imp] at applied ⊢
    rintro fields isObject _ entry member rfl inner present
    exact weaker _ (.property found member) inner (applied fields isObject entry member inner present)

theorem Weakens.applyAdditional (weakens : Weakens change schema schema')
    (weaker : ∀ child, Child schema child → ∀ value, recur child value = true → recur' (change child) value = true)
    (applied : JsonSchema.applyAdditional recur schema value = true) :
    JsonSchema.applyAdditional recur' schema' value = true := by
  unfold JsonSchema.applyAdditional at applied ⊢
  rw [weakens.subschemas "additionalProperties" (by decide), weakens.declaredNames]
  cases found : schema.get? "additionalProperties" with
  | none => rfl
  | some additional =>
    simp only [found, Option.all_some, Option.map_some, Option.all_eq_true, List.all_eq_true, Bool.or_eq_true,
      decide_eq_true_eq] at applied ⊢
    intro fields isObject entry member
    exact (applied fields isObject entry member).imp_right (weaker _ (.additional found) _)

theorem Weakens.applyItems (weakens : Weakens change schema schema')
    (weaker : ∀ child, Child schema child → ∀ value, recur child value = true → recur' (change child) value = true)
    (applied : JsonSchema.applyItems recur schema value = true) :
    JsonSchema.applyItems recur' schema' value = true := by
  unfold JsonSchema.applyItems at applied ⊢
  rw [weakens.subschemas "items" (by decide)]
  cases found : schema.get? "items" with
  | none => rfl
  | some items =>
    simp only [found, Option.all_some, Option.map_some, Option.all_eq_true, List.all_eq_true] at applied ⊢
    exact fun members isArray member inside => weaker _ (.items found) _ (applied members isArray member inside)

theorem Weakens.applyAnyOf (weakens : Weakens change schema schema')
    (weaker : ∀ child, Child schema child → ∀ value, recur child value = true → recur' (change child) value = true)
    (applied : JsonSchema.applyAnyOf recur schema value = true) :
    JsonSchema.applyAnyOf recur' schema' value = true := by
  unfold JsonSchema.applyAnyOf at applied ⊢
  rw [weakens.branches]
  cases found : itemsOf schema "anyOf" with
  | none => rfl
  | some branches =>
    simp only [found, Option.all_some, Option.map_some, List.any_eq_true, List.mem_map] at applied ⊢
    obtain ⟨branch, member, accepted⟩ := applied
    exact ⟨change branch, ⟨branch, member, rfl⟩, weaker _ (.branch found member) value accepted⟩

theorem validates_of_weakens (family : Json → Prop) {resolve resolve' : String → Option Json}
    (closed : ∀ {fields child}, family (.obj fields) → Child fields child → family child)
    (booleans : ∀ accepted, change (.bool accepted) = .bool accepted)
    (mappings : ∀ {fields}, family (.obj fields) → ∃ fields', change (.obj fields) = .obj fields' ∧
      Weakens change fields fields')
    (references : ∀ {fields reference target}, family (.obj fields) → textOf fields "$ref" = some reference →
      resolve reference = some target → family target ∧ resolve' reference = some (change target))
    {depth : Nat} {schema value : Json} (member : family schema)
    (valid : validates dialect resolve depth schema value = true) :
    validates dialect resolve' depth (change schema) value = true := by
  induction depth generalizing schema value with
  | zero => cases valid
  | succ depth ih =>
    cases schema with
    | bool accepted =>
      rw [booleans]
      exact valid
    | obj fields =>
      obtain ⟨fields', changed, weakens⟩ := mappings member
      have weaker (child : Json) (below : Child fields child) (value : Json)
          (accepted : validates dialect resolve depth child value = true) :
          validates dialect resolve' depth (change child) value = true := ih (closed member below) accepted
      rw [changed]
      simp only [validates, applyAll, Bool.and_eq_true] at valid ⊢
      obtain ⟨⟨structure_, -⟩, ⟨⟨⟨properties, additional⟩, items⟩, branches⟩, reference⟩ := valid
      refine ⟨⟨?_, weakens.checkHints⟩, ⟨⟨⟨weakens.applyProperties weaker properties,
        weakens.applyAdditional weaker additional⟩, weakens.applyItems weaker items⟩,
        weakens.applyAnyOf weaker branches⟩, ?_⟩
      · rw [weakens.checkStructure]
        exact structure_
      · unfold applyReference at reference ⊢
        rw [weakens.texts "$ref" (by decide)]
        cases found : textOf fields "$ref" with
        | none => rfl
        | some name =>
          simp only [found, Option.all_some, Option.any_eq_true] at reference ⊢
          obtain ⟨target, resolved, accepted⟩ := reference
          obtain ⟨inside, resolved'⟩ := references member found resolved
          exact ⟨change target, resolved', ih inside accepted⟩
    | null => cases valid
    | int number => cases valid
    | float number => cases valid
    | str text => cases valid
    | arr items => cases valid

end Weakening

end JsonSchema
