import Aep.Library.Dict
import Mathlib.Algebra.Order.BigOperators.Group.List
import Mathlib.Algebra.Order.Ring.Nat
import Mathlib.Data.List.Perm.Subperm
import Mathlib.Data.Rat.Defs

/-- The values that a JSON document holds, as Python reads them. -/
inductive Json where
  | null
  | bool (value : Bool)
  | int (value : Int)
  | float (value : Rat)
  | str (value : String)
  | arr (items : List Json)
  | obj (fields : List (String × Json))
  deriving Inhabited

abbrev Record := Dict String Json

namespace Json

mutual

protected def decEq : (left right : Json) → Decidable (left = right)
  | .null, .null => isTrue rfl
  | .bool a, .bool b => if h : a = b then isTrue (by rw [h]) else isFalse (by simpa using h)
  | .int a, .int b => if h : a = b then isTrue (by rw [h]) else isFalse (by simpa using h)
  | .float a, .float b => if h : a = b then isTrue (by rw [h]) else isFalse (by simpa using h)
  | .str a, .str b => if h : a = b then isTrue (by rw [h]) else isFalse (by simpa using h)
  | .arr a, .arr b =>
    match Json.decEqItems a b with
    | isTrue h => isTrue (by rw [h])
    | isFalse h => isFalse (by simpa using h)
  | .obj a, .obj b =>
    match Json.decEqFields a b with
    | isTrue h => isTrue (by rw [h])
    | isFalse h => isFalse (by simpa using h)
  | .null, .bool _ | .null, .int _ | .null, .float _ | .null, .str _ | .null, .arr _ | .null, .obj _
  | .bool _, .null | .bool _, .int _ | .bool _, .float _ | .bool _, .str _ | .bool _, .arr _
  | .bool _, .obj _ | .int _, .null | .int _, .bool _ | .int _, .float _ | .int _, .str _
  | .int _, .arr _ | .int _, .obj _ | .float _, .null | .float _, .bool _ | .float _, .int _
  | .float _, .str _ | .float _, .arr _ | .float _, .obj _ | .str _, .null | .str _, .bool _
  | .str _, .int _ | .str _, .float _ | .str _, .arr _ | .str _, .obj _ | .arr _, .null
  | .arr _, .bool _ | .arr _, .int _ | .arr _, .float _ | .arr _, .str _ | .arr _, .obj _
  | .obj _, .null | .obj _, .bool _ | .obj _, .int _ | .obj _, .float _ | .obj _, .str _
  | .obj _, .arr _ => isFalse (by simp)

protected def decEqItems : (left right : List Json) → Decidable (left = right)
  | [], [] => isTrue rfl
  | [], _ :: _ | _ :: _, [] => isFalse (by simp)
  | a :: as, b :: bs =>
    match Json.decEq a b, Json.decEqItems as bs with
    | isTrue h, isTrue hs => isTrue (by rw [h, hs])
    | isFalse h, _ => isFalse (by simp [h])
    | _, isFalse hs => isFalse (by simp [hs])

protected def decEqFields : (left right : List (String × Json)) → Decidable (left = right)
  | [], [] => isTrue rfl
  | [], _ :: _ | _ :: _, [] => isFalse (by simp)
  | (k, a) :: as, (l, b) :: bs =>
    if h : k = l then
      match Json.decEq a b, Json.decEqFields as bs with
      | isTrue e, isTrue es => isTrue (by rw [h, e, es])
      | isFalse e, _ => isFalse (by simp [e])
      | _, isFalse es => isFalse (by simp [es])
    else isFalse (by simp [h])

end

instance : DecidableEq Json := Json.decEq

def insertField (key : String) (value : Json) : List (String × Json) → List (String × Json)
  | [] => [(key, value)]
  | (other, old) :: rest =>
    if key = other then (key, value) :: rest
    else if key < other then (key, value) :: (other, old) :: rest
    else (other, old) :: insertField key value rest

section Normalization

variable (ofBool : Bool → Json)

mutual

/-- A representative of a value up to the order of an object's keys and the type of a number. -/
def normalizeWith : Json → Json
  | .null => .null
  | .bool value => ofBool value
  | .int value => .int value
  | .float value => if value.den = 1 then .int value.num else .float value
  | .str value => .str value
  | .arr items => .arr (normalizeItems items)
  | .obj fields => .obj (normalizeFields fields)

def normalizeItems : List Json → List Json
  | [] => []
  | item :: rest => normalizeWith item :: normalizeItems rest

def normalizeFields : List (String × Json) → List (String × Json)
  | [] => []
  | (key, value) :: rest => insertField key (normalizeWith value) (normalizeFields rest)

end

end Normalization

/-- Python's `==`, for which a Boolean equals a number. -/
def pyEq (left right : Json) : Bool :=
  let normalize := normalizeWith fun value => .int (if value then 1 else 0)
  normalize left = normalize right

def sameValue (left right : Json) : Bool := normalizeWith .bool left = normalizeWith .bool right

@[simp] theorem pyEq_refl (value : Json) : value.pyEq value = true := by simp [pyEq]

theorem pyEq_comm (left right : Json) : left.pyEq right = right.pyEq left := by
  simp only [pyEq, eq_comm]

theorem pyEq_str {value : Json} {text : String} : value.pyEq (.str text) = true ↔ value = .str text := by
  cases value with
  | float number => by_cases whole : number.den = 1 <;> simp [pyEq, normalizeWith, whole]
  | _ => simp [pyEq, normalizeWith]

theorem get?_insertField (key wanted : String) (value : Json) (fields : Record) :
    Dict.get? (insertField key value fields) wanted = if key = wanted then some value else fields.get? wanted := by
  induction fields with
  | nil => rfl
  | cons entry rest ih =>
    obtain ⟨other, old⟩ := entry
    unfold insertField
    by_cases same : key = other
    · subst same
      simp only [↓reduceIte, Dict.get?_cons]
      split <;> rfl
    · by_cases before : key < other
      · simp only [same, before, ↓reduceIte, Dict.get?_cons]
      · simp only [same, before, ↓reduceIte, Dict.get?_cons, ih]
        by_cases found : other = wanted
        · have different : key ≠ wanted := fun wantedIsKey => same (wantedIsKey.trans found.symm)
          simp [found, different]
        · simp [found]

theorem get?_normalizeFields (ofBool : Bool → Json) (fields : Record) (key : String) :
    Dict.get? (normalizeFields ofBool fields) key = (fields.get? key).map (normalizeWith ofBool) := by
  induction fields with
  | nil => rfl
  | cons entry rest ih =>
    obtain ⟨other, old⟩ := entry
    rw [normalizeFields, get?_insertField, ih, Dict.get?_cons]
    split <;> rfl

theorem pyEq_field {left right : Record} (same : (Json.obj left).pyEq (.obj right) = true) (key : String) :
    Json.pyEq ((left.get? key).getD .null) ((right.get? key).getD .null) = true := by
  simp only [pyEq, normalizeWith, obj.injEq, decide_eq_true_eq] at same ⊢
  have lookups := congrArg (fun fields => Dict.get? fields key) same
  simp only [get?_normalizeFields] at lookups
  cases first : left.get? key <;> cases second : right.get? key <;>
    simp only [first, second, Option.map_none, Option.map_some, Option.some.injEq, reduceCtorEq] at lookups
  · rfl
  · exact lookups

def isString : Json → Bool
  | .str _ => true
  | _ => false

def isMapping : Json → Bool
  | .obj _ => true
  | _ => false

def isHashable : Json → Bool
  | .arr _ | .obj _ => false
  | _ => true

/-- The truth value that Python's `if` reads. -/
def truthy : Json → Bool
  | .null => false
  | .bool value => value
  | .int value => value ≠ 0
  | .float value => value ≠ 0
  | .str value => value ≠ ""
  | .arr items => !items.isEmpty
  | .obj fields => !fields.isEmpty

def asString? : Json → Option String
  | .str value => some value
  | _ => none

def asRecord? : Json → Option Record
  | .obj fields => some fields
  | _ => none

theorem asRecord?_obj (fields : Record) : asRecord? (.obj fields) = some fields := rfl

@[simp] theorem asRecord?_eq_some {value : Json} {fields : Record} :
    value.asRecord? = some fields ↔ value = .obj fields := by
  cases value <;> simp [asRecord?]

@[simp] theorem asString?_eq_some {value : Json} {name : String} :
    value.asString? = some name ↔ value = .str name := by
  cases value <;> simp [asString?]

def asItems? : Json → Option (List Json)
  | .arr items => some items
  | _ => none

@[simp] theorem asItems?_eq_some {value : Json} {items : List Json} :
    value.asItems? = some items ↔ value = .arr items := by
  cases value <;> simp [asItems?]

mutual

def repr : Json → String
  | .null => "None"
  | .bool value => if value then "True" else "False"
  | .int value => toString value
  | .float value => toString value.num ++ "/" ++ toString value.den
  | .str value => "'" ++ value ++ "'"
  | .arr items => "[" ++ ", ".intercalate (reprItems items) ++ "]"
  | .obj fields => "\x7b" ++ ", ".intercalate (reprFields fields) ++ "\x7d"

def reprItems : List Json → List String
  | [] => []
  | item :: rest => repr item :: reprItems rest

def reprFields : List (String × Json) → List String
  | [] => []
  | (key, value) :: rest => ("'" ++ key ++ "': " ++ repr value) :: reprFields rest

end

/-- Python's `str`: a string is its own text. -/
def text : Json → String
  | .str value => value
  | value => repr value

@[simp] theorem text_str (value : String) : text (.str value) = value := rfl

end Json

namespace Dict

/-- `record.get(key)`: an absent key reads as `None`. -/
def field (fields : Record) (key : String) : Json := (fields.get? key).getD .null

theorem field_of_get? {fields : Record} {key : String} {value : Json}
    (found : fields.get? key = some value) : fields.field key = value := by
  simp [field, found]

theorem get?_of_field {fields : Record} {key : String} {value : Json}
    (found : fields.field key = value) (present : value ≠ .null) : fields.get? key = some value := by
  unfold field at found
  cases lookup : fields.get? key with
  | none => exact absurd (by simpa [lookup] using found.symm) present
  | some old => simpa [lookup] using found

theorem field_congr {left right : Record} {key : String} (same : left.get? key = right.get? key) :
    left.field key = right.field key := by
  simp [field, same]

end Dict

namespace Json

/-- The bytes of a character in a JSON string that escapes no more than it has to. -/
def charSize (character : Char) : Nat :=
  if character = '"' ∨ character = '\\' ∨ character ∈ ['\n', '\r', '\t', '\x08', '\x0c'] then 2
  else if character.val < 32 then 6
  else character.utf8Size

def textSize (text : String) : Nat := 2 + (text.toList.map charSize).sum

variable (floatSize : Rat → Nat)

mutual

/-- The bytes of the compact JSON text of a value. Each item of a list or an object is followed by a comma or by the
    closing bracket. -/
def size : Json → Nat
  | .null => 4
  | .bool value => if value then 4 else 5
  | .int value => (toString value).length
  | .float value => floatSize value
  | .str value => textSize value
  | .arr items => 1 + max 1 (sizeItems items)
  | .obj fields => 1 + max 1 (sizeFields fields)

def sizeItems : List Json → Nat
  | [] => 0
  | item :: rest => size item + 1 + sizeItems rest

def sizeFields : List (String × Json) → Nat
  | [] => 0
  | (key, value) :: rest => textSize key + 1 + size value + 1 + sizeFields rest

end

example : size (fun _ => 0) (.obj [("a", .arr [.int 1, .null]), ("b\n", .str "é")]) = 25 := by decide

variable {floatSize}

theorem sizeItems_eq_sum (items : List Json) :
    sizeItems floatSize items = (items.map fun item => size floatSize item + 1).sum := by
  induction items with
  | nil => rfl
  | cons item rest ih => rw [sizeItems, List.map_cons, List.sum_cons, ih]

theorem size_arr_mono {items others : List Json} (sub : items.Subperm others) :
    size floatSize (.arr items) ≤ size floatSize (.arr others) := by
  obtain ⟨kept, perm, within⟩ := sub
  have fewer : sizeItems floatSize items ≤ sizeItems floatSize others := by
    rw [sizeItems_eq_sum, sizeItems_eq_sum, ← (perm.map _).sum_eq]
    exact (within.map _).sum_le_sum fun _ _ => Nat.zero_le _
  rw [size, size]
  omega

theorem size_obj_mono {fields others : Record} (fewer : sizeFields floatSize fields ≤ sizeFields floatSize others) :
    size floatSize (.obj fields) ≤ size floatSize (.obj others) := by
  rw [size, size]
  omega

theorem sizeFields_cons_mono {key : String} {value other : Json} {rest others : Record}
    (longer : size floatSize value ≤ size floatSize other)
    (fewer : sizeFields floatSize rest ≤ sizeFields floatSize others) :
    sizeFields floatSize ((key, value) :: rest) ≤ sizeFields floatSize ((key, other) :: others) := by
  rw [sizeFields, sizeFields]
  omega

end Json
