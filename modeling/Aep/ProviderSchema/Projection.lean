import Aep.Library.JsonSchema
import Aep.Library.Result
import Mathlib.Data.List.Dedup
import Mathlib.Data.List.Sort

namespace Aep.ProviderSchema

open JsonSchema

inductive Support where
  | provider
  | aepOnly
  | unsupported
  deriving DecidableEq

def OPENAI_RESPONSES_GPT5_SCHEMA_COMPATIBILITY : Dict String Support := [
  ("$defs", .provider), ("$ref", .provider), ("type", .provider), ("enum", .provider), ("properties", .provider),
  ("required", .provider), ("additionalProperties", .provider), ("items", .provider), ("anyOf", .provider),
  ("title", .provider), ("description", .provider), ("$comment", .provider), ("default", .provider),
  ("examples", .provider), ("minItems", .provider), ("maxItems", .provider), ("minimum", .provider),
  ("maximum", .provider), ("pattern", .provider), ("format", .provider), ("minLength", .aepOnly),
  ("maxLength", .aepOnly), ("uniqueItems", .aepOnly), ("const", .unsupported), ("allOf", .unsupported),
  ("oneOf", .unsupported), ("not", .unsupported)]

def keywordsWith (support : Support) : List String :=
  (OPENAI_RESPONSES_GPT5_SCHEMA_COMPATIBILITY.filter fun entry => entry.2 = support).map Prod.fst

def PROVIDER_KEYWORDS : List String := keywordsWith .provider
def AEP_ONLY_KEYWORDS : List String := keywordsWith .aepOnly
def ACCEPTED_KEYWORDS : List String := PROVIDER_KEYWORDS ++ AEP_ONLY_KEYWORDS

structure StrictProviderSchemaError where
  path : String
  reason : String
  names : List String := []
  evidencePath : Option String := none
  deriving DecidableEq

/-- A JSON pointer part without its escapes. A tilde must be followed by a zero or a one. -/
def decodePointer : List Char → Option (List Char)
  | [] => some []
  | '~' :: '1' :: rest => (decodePointer rest).map ('/' :: ·)
  | '~' :: '0' :: rest => (decodePointer rest).map ('~' :: ·)
  | '~' :: _ => none
  | other :: rest => (decodePointer rest).map (other :: ·)

def definitionPrefix : List Char := "#/$defs/".toList

def localDefinitionTarget (reference : String) : Option String :=
  if definitionPrefix.isPrefixOf reference.toList then
    let encoded := reference.toList.drop definitionPrefix.length
    if encoded = [] ∨ '/' ∈ encoded then none else (decodePointer encoded).map String.ofList
  else none

def resolvesIn (rootDefinitions reference : Json) : Bool :=
  match reference.asString?.bind localDefinitionTarget, rootDefinitions.asRecord? with
  | some target, some definitions => target ∈ definitions.keys
  | _, _ => false

def sorted (names : List String) : List String := names.insertionSort (· ≤ ·)

def require (holds : Bool) (error : StrictProviderSchemaError) : Except StrictProviderSchemaError Unit :=
  if holds then .ok () else .error error

section Checks

variable (fields : Record) (path safePath : String)

def unsupportedKeywords : List String := sorted (fields.keys.filter (· ∉ ACCEPTED_KEYWORDS))

def isObjectSchema : Bool := fields.field "type" = .str "object" || (mappingOf fields "properties").isSome

def stringList (value : Json) : Option (List String) := value.asItems?.bind fun items => items.mapM Json.asString?

def checkRequiredNames (properties : Record) (required : List String) : Except StrictProviderSchemaError Unit := do
  let missing := sorted (properties.keys.filter (· ∉ required))
  let extra := sorted (required.dedup.filter (· ∉ properties.keys))
  require (missing = []) ⟨path ++ ".required", "declared properties are not required", missing, safePath ++ ".required"⟩
  require (extra = []) ⟨path ++ ".required", "required names are not declared", extra, safePath ++ ".required"⟩

def checkObject : Except StrictProviderSchemaError Unit :=
  match mappingOf fields "properties" with
  | none => .error ⟨path ++ ".properties", "object properties must be declared", [], safePath ++ ".properties"⟩
  | some properties => do
    require (fields.field "additionalProperties" = .bool false)
      ⟨path ++ ".additionalProperties", "additionalProperties must be false", [], safePath ++ ".additionalProperties"⟩
    match stringList (fields.field "required") with
    | none => .error ⟨path ++ ".required", "required must list every property", [], safePath ++ ".required"⟩
    | some required => checkRequiredNames path safePath properties required

def checkSchemaObject (rootDefinitions : Json) : Except StrictProviderSchemaError Unit := do
  let unsupported := unsupportedKeywords fields
  require (unsupported = []) ⟨path, "unsupported keyword", unsupported, safePath⟩
  require (fields.field "type").asItems?.isNone
    ⟨path ++ ".type", "type unions are unsupported; use nested anyOf", [], safePath ++ ".type"⟩
  require (fields.field "$ref" = .null || resolvesIn rootDefinitions (fields.field "$ref"))
    ⟨path ++ ".$ref", "reference must resolve to a root-local definition", [], safePath ++ ".$ref"⟩
  if isObjectSchema fields then checkObject fields path safePath

end Checks

def noBranches (path safePath : String) : StrictProviderSchemaError :=
  ⟨path ++ ".anyOf", "anyOf must contain schema branches", [], safePath ++ ".anyOf"⟩

section Validation

variable (rootDefinitions : Json)

mutual

def validate (path safePath : String) : Json → Except StrictProviderSchemaError Unit
  | .obj fields => do
    checkSchemaObject fields path safePath rootDefinitions
    validateProperties path safePath fields
    validateItems path safePath fields
    validateDefinitions path safePath fields
    validateAnyOf path safePath fields
  | _ => .error ⟨path, "schema must be an object", [], safePath⟩

def validateProperties (path safePath : String) : List (String × Json) → Except StrictProviderSchemaError Unit
  | [] => .ok ()
  | (key, value) :: rest =>
    if key = "properties" then
      match value with
      | .obj entries => validateNamed (path ++ ".properties.") (safePath ++ ".properties.<redacted>") entries
      | _ => .ok ()
    else validateProperties path safePath rest

def validateItems (path safePath : String) : List (String × Json) → Except StrictProviderSchemaError Unit
  | [] => .ok ()
  | (key, value) :: rest =>
    if key = "items" then
      if value = .null then .ok () else validate (path ++ ".items") (safePath ++ ".items") value
    else validateItems path safePath rest

def validateDefinitions (path safePath : String) : List (String × Json) → Except StrictProviderSchemaError Unit
  | [] => .ok ()
  | (key, value) :: rest =>
    if key = "$defs" then
      match value with
      | .null => .ok ()
      | .obj entries => validateNamed (path ++ ".$defs.") (safePath ++ ".$defs.<redacted>") entries
      | _ => .error ⟨path ++ ".$defs", "$defs must be an object", [], safePath ++ ".$defs"⟩
    else validateDefinitions path safePath rest

def validateAnyOf (path safePath : String) : List (String × Json) → Except StrictProviderSchemaError Unit
  | [] => .ok ()
  | (key, value) :: rest =>
    if key = "anyOf" then
      match value with
      | .null => .ok ()
      | .arr branches => do
        require (!branches.isEmpty) (noBranches path safePath)
        validateBranches (path ++ ".anyOf[") (safePath ++ ".anyOf[") 0 branches
      | _ => .error (noBranches path safePath)
    else validateAnyOf path safePath rest

def validateNamed (path safePath : String) : List (String × Json) → Except StrictProviderSchemaError Unit
  | [] => .ok ()
  | (name, child) :: rest => do
    validate (path ++ name) safePath child
    validateNamed path safePath rest

def validateBranches (path safePath : String) (index : Nat) : List Json → Except StrictProviderSchemaError Unit
  | [] => .ok ()
  | child :: rest => do
    validate (path ++ toString index ++ "]") (safePath ++ toString index ++ "]") child
    validateBranches path safePath (index + 1) rest

end

end Validation

/-- A step of the path to a value that violates the metaschema. -/
inductive PathPart where
  | index (value : Nat)
  | name (value : String)

def structuralKeywords : List String :=
  ["$defs", "additionalProperties", "allOf", "anyOf", "enum", "items", "oneOf", "properties", "required", "type"]

def safeSchemaErrorPath (rendered : String) (redactNext : Bool) : List PathPart → String
  | [] => rendered
  | .index value :: rest => safeSchemaErrorPath (rendered ++ "[" ++ toString value ++ "]") redactNext rest
  | .name value :: rest =>
    if redactNext then safeSchemaErrorPath (rendered ++ ".<redacted>") false rest
    else if value ∈ structuralKeywords then
      safeSchemaErrorPath (rendered ++ "." ++ value) (value = "$defs" || value = "properties") rest
    else safeSchemaErrorPath (rendered ++ ".<redacted>") redactNext rest

def validateOpenaiStrictSchema (checkSchema : Json → Option (List PathPart)) (schema : Json) :
    Except StrictProviderSchemaError Unit :=
  match schema.asRecord? with
  | none => .error { path := "$", reason := "root schema type must be object" }
  | some fields =>
    if fields.field "type" ≠ .str "object" then .error { path := "$", reason := "root schema type must be object" }
    else match checkSchema schema with
      | some parts => .error {
          path := safeSchemaErrorPath "$" false parts
          reason := "invalid JSON Schema keyword value" }
      | none =>
        if "anyOf" ∈ fields.keys then .error { path := "$.anyOf", reason := "anyOf is not supported at the root" }
        else validate ((fields.get? "$defs").getD (.obj [])) "$" "$" schema

def SCHEMA_MAP_KEYWORDS : List String :=
  ["$defs", "definitions", "dependentSchemas", "patternProperties", "properties"]

mutual

def providerSchema : Json → Json
  | .obj fields => .obj (projectFields fields)
  | .arr items => .arr (projectItems items)
  | value => value

def projectFields : List (String × Json) → List (String × Json)
  | [] => []
  | (key, item) :: rest =>
    if key ∈ AEP_ONLY_KEYWORDS then projectFields rest
    else if key ∈ SCHEMA_MAP_KEYWORDS then (key, projectMap item) :: projectFields rest
    else (key, providerSchema item) :: projectFields rest

def projectMap : Json → Json
  | .obj entries => .obj (projectEntries entries)
  | .arr items => .arr (projectItems items)
  | value => value

def projectEntries : List (String × Json) → List (String × Json)
  | [] => []
  | (name, schema) :: rest => (name, providerSchema schema) :: projectEntries rest

def projectItems : List Json → List Json
  | [] => []
  | item :: rest => providerSchema item :: projectItems rest

end

end Aep.ProviderSchema

namespace Aep.ProviderSchema

open JsonSchema Result

section Clean

mutual

def clean : Json → Bool
  | .obj fields => cleanFields fields
  | .arr items => cleanItems items
  | _ => true

def cleanFields : List (String × Json) → Bool
  | [] => true
  | (key, item) :: rest =>
    key ∉ AEP_ONLY_KEYWORDS && (if key ∈ SCHEMA_MAP_KEYWORDS then cleanMap item else clean item) && cleanFields rest

def cleanMap : Json → Bool
  | .obj entries => cleanEntries entries
  | .arr items => cleanItems items
  | _ => true

def cleanEntries : List (String × Json) → Bool
  | [] => true
  | (_, schema) :: rest => clean schema && cleanEntries rest

def cleanItems : List Json → Bool
  | [] => true
  | item :: rest => clean item && cleanItems rest

end

theorem length_projectFields (fields : List (String × Json)) : (projectFields fields).length ≤ fields.length := by
  induction fields with
  | nil => exact le_rfl
  | cons head rest ih =>
    obtain ⟨key, item⟩ := head
    simp only [projectFields, List.length_cons]
    split
    · omega
    · split <;> simp only [List.length_cons] <;> omega

mutual

theorem providerSchema_eq_self : (value : Json) → (providerSchema value = value ↔ clean value = true)
  | .obj fields => by simpa [providerSchema, clean] using projectFields_eq_self fields
  | .arr items => by simpa [providerSchema, clean] using projectItems_eq_self items
  | .null | .bool _ | .int _ | .float _ | .str _ => by simp [providerSchema, clean]

theorem projectFields_eq_self : (fields : List (String × Json)) →
    (projectFields fields = fields ↔ cleanFields fields = true)
  | [] => by simp [projectFields, cleanFields]
  | (key, item) :: rest => by
    have shorter := length_projectFields rest
    have here := providerSchema_eq_self item
    have map := projectMap_eq_self item
    have later := projectFields_eq_self rest
    simp only [projectFields, cleanFields]
    by_cases dropped : key ∈ AEP_ONLY_KEYWORDS
    · simp only [dropped, ↓reduceIte, not_true_eq_false, decide_false, Bool.false_and, Bool.false_eq_true, iff_false]
      intro same
      have length := congrArg List.length same
      simp only [List.length_cons] at length
      omega
    · by_cases named : key ∈ SCHEMA_MAP_KEYWORDS
      · simp [dropped, named, map, later]
      · simp [dropped, named, here, later]

theorem projectMap_eq_self : (value : Json) → (projectMap value = value ↔ cleanMap value = true)
  | .obj entries => by simpa [projectMap, cleanMap] using projectEntries_eq_self entries
  | .arr items => by simpa [projectMap, cleanMap] using projectItems_eq_self items
  | .null | .bool _ | .int _ | .float _ | .str _ => by simp [projectMap, cleanMap]

theorem projectEntries_eq_self : (entries : List (String × Json)) →
    (projectEntries entries = entries ↔ cleanEntries entries = true)
  | [] => by simp [projectEntries, cleanEntries]
  | (name, schema) :: rest => by
    simp [projectEntries, cleanEntries, providerSchema_eq_self schema, projectEntries_eq_self rest]

theorem projectItems_eq_self : (items : List Json) → (projectItems items = items ↔ cleanItems items = true)
  | [] => by simp [projectItems, cleanItems]
  | item :: rest => by simp [projectItems, cleanItems, providerSchema_eq_self item, projectItems_eq_self rest]

end

end Clean

section Lookup

theorem projectEntries_eq_map (entries : List (String × Json)) :
    projectEntries entries = entries.map fun entry => (entry.1, providerSchema entry.2) := by
  induction entries with
  | nil => rfl
  | cons head rest ih => simp [projectEntries, ih]

theorem projectItems_eq_map (items : List Json) : projectItems items = items.map providerSchema := by
  induction items with
  | nil => rfl
  | cons head rest ih => simp [projectItems, ih]

def projectAt (key : String) : Json → Json := if key ∈ SCHEMA_MAP_KEYWORDS then projectMap else providerSchema

theorem get?_projectFields (fields : Record) (key : String) :
    Dict.get? (projectFields fields) key =
      if key ∈ AEP_ONLY_KEYWORDS then none else (Dict.get? fields key).map (projectAt key) := by
  induction fields with
  | nil => simp [projectFields]
  | cons head rest ih =>
    obtain ⟨name, item⟩ := head
    have projected : projectFields ((name, item) :: rest) =
        if name ∈ AEP_ONLY_KEYWORDS then projectFields rest
        else (name, projectAt name item) :: projectFields rest := by
      simp only [projectFields, projectAt]
      split
      · rfl
      · split <;> rfl
    rw [projected]
    by_cases dropped : name ∈ AEP_ONLY_KEYWORDS
    · rw [if_pos dropped, ih]
      by_cases same : name = key
      · subst same
        simp [dropped]
      · simp [Dict.get?_cons, same]
    · rw [if_neg dropped]
      by_cases same : name = key
      · subst same
        simp [Dict.get?_cons, dropped]
      · simp [Dict.get?_cons, same, ih]

theorem keys_projectFields (fields : Record) :
    Dict.keys (projectFields fields) = fields.keys.filter (· ∉ AEP_ONLY_KEYWORDS) := by
  induction fields with
  | nil => rfl
  | cons head rest ih =>
    obtain ⟨name, item⟩ := head
    simp only [Dict.keys] at ih
    by_cases dropped : name ∈ AEP_ONLY_KEYWORDS
    · simp [projectFields, Dict.keys, dropped, ih]
    · by_cases named : name ∈ SCHEMA_MAP_KEYWORDS <;> simp [projectFields, Dict.keys, dropped, named, ih]

@[simp] theorem asString?_providerSchema (value : Json) : (providerSchema value).asString? = value.asString? := by
  cases value <;> simp [providerSchema, Json.asString?]

@[simp] theorem asItems?_providerSchema (value : Json) :
    (providerSchema value).asItems? = value.asItems?.map fun items => items.map providerSchema := by
  cases value <;> simp [providerSchema, Json.asItems?, projectItems_eq_map]

@[simp] theorem asRecord?_projectMap (value : Json) :
    (projectMap value).asRecord? =
      value.asRecord?.map fun entries => entries.map fun entry => (entry.1, providerSchema entry.2) := by
  cases value <;> simp [projectMap, Json.asRecord?, projectEntries_eq_map]

@[simp] theorem number?_providerSchema (value : Json) : number? (providerSchema value) = number? value := by
  cases value <;> simp [providerSchema, number?]

theorem providerSchema_eq_bool {value : Json} {accepted : Bool} :
    providerSchema value = .bool accepted ↔ value = .bool accepted := by
  cases value <;> simp [providerSchema]

theorem providerSchema_eq_obj {value : Json} {fields' : Record} :
    providerSchema value = .obj fields' ↔ ∃ fields, value = .obj fields ∧ projectFields fields = fields' := by
  cases value <;> simp [providerSchema]

variable (fields : Record) {key : String}

theorem get?_structural (kept : key ∉ AEP_ONLY_KEYWORDS) (plain : key ∉ SCHEMA_MAP_KEYWORDS) :
    Dict.get? (projectFields fields) key = (Dict.get? fields key).map providerSchema := by
  simp [get?_projectFields, kept, projectAt, plain]

theorem textOf_projectFields (kept : key ∉ AEP_ONLY_KEYWORDS) (plain : key ∉ SCHEMA_MAP_KEYWORDS) :
    textOf (projectFields fields) key = textOf fields key := by
  unfold textOf
  rw [get?_structural fields kept plain]
  cases Dict.get? fields key <;> simp

theorem itemsOf_projectFields (kept : key ∉ AEP_ONLY_KEYWORDS) (plain : key ∉ SCHEMA_MAP_KEYWORDS) :
    itemsOf (projectFields fields) key = (itemsOf fields key).map fun items => items.map providerSchema := by
  unfold itemsOf
  rw [get?_structural fields kept plain]
  cases Dict.get? fields key <;> simp

theorem namesOf_projectFields (kept : key ∉ AEP_ONLY_KEYWORDS) (plain : key ∉ SCHEMA_MAP_KEYWORDS) :
    namesOf (projectFields fields) key = namesOf fields key := by
  unfold namesOf
  rw [itemsOf_projectFields fields kept plain]
  cases itemsOf fields key <;> simp [List.filterMap_map]

theorem numberOf_projectFields (kept : key ∉ AEP_ONLY_KEYWORDS) (plain : key ∉ SCHEMA_MAP_KEYWORDS) :
    numberOf (projectFields fields) key = numberOf fields key := by
  unfold numberOf
  rw [get?_structural fields kept plain]
  cases Dict.get? fields key <;> simp

theorem mappingOf_projectFields (named : key ∈ SCHEMA_MAP_KEYWORDS) :
    mappingOf (projectFields fields) key =
      (mappingOf fields key).map fun entries => entries.map fun entry => (entry.1, providerSchema entry.2) := by
  have kept : key ∉ AEP_ONLY_KEYWORDS := by
    revert named
    revert key
    decide
  unfold mappingOf
  simp only [get?_projectFields, kept, ↓reduceIte, projectAt, named]
  cases Dict.get? fields key <;> simp

end Lookup

end Aep.ProviderSchema
