import Aep.Library.Json

abbrev Shape := Json → Bool

namespace Shape

def text (minLength : Nat) : Shape
  | .str value => minLength ≤ value.length
  | _ => false

def integer (minimum : Int) : Shape
  | .int value => minimum ≤ value
  | .float value => value.den = 1 ∧ minimum ≤ value.num
  | _ => false

def boolean : Shape
  | .bool _ => true
  | _ => false

def orNull (shape : Shape) : Shape
  | .null => true
  | value => shape value

def const (expected : String) : Shape := fun value => value = .str expected

def enum (names : List String) : Shape := fun value => names.any fun name => value = .str name

def list (minItems : Nat) (items : Shape) : Shape
  | .arr members => minItems ≤ members.length ∧ members.all items
  | _ => false

def distinct : List Json → Bool
  | [] => true
  | item :: rest => rest.all (fun other => !item.sameValue other) && distinct rest

def uniqueList (minItems : Nat) (items : Shape) : Shape
  | .arr members => minItems ≤ members.length ∧ members.all items ∧ distinct members
  | _ => false

/-- The required fields are there, those described have their shapes, and there is no other. -/
def fields (required : List String) (properties : List (String × Shape)) (record : Record) : Bool :=
  (required.all fun name => name ∈ record.keys) && (properties.all fun entry => (record.get? entry.1).all entry.2) &&
    record.all fun field => field.1 ∈ properties.map Prod.fst

def object (required : List String) (properties : List (String × Shape)) : Shape
  | .obj record => fields required properties record
  | _ => false

def anyOf (branches : List Shape) : Shape := fun value => branches.any fun branch => branch value

def atMost (maxItems : Nat) (shape : Shape) : Shape
  | .arr items => items.length ≤ maxItems && shape (.arr items)
  | value => shape value

def upTo (maximum : Int) (shape : Shape) : Shape
  | .int number => number ≤ maximum && shape (.int number)
  | .float number => number ≤ maximum && shape (.float number)
  | value => shape value

def oneOf (branches : List Shape) : Shape := fun value => (branches.filter fun branch => branch value).length = 1

theorem object_property {required : List String} {properties : List (String × Shape)} {record : Record}
    (valid : object required properties (.obj record) = true) {name : String} {shape : Shape}
    (described : (name, shape) ∈ properties) {value : Json} (found : record.get? name = some value) :
    shape value = true := by
  simp only [object, fields, Bool.and_eq_true, List.all_eq_true] at valid
  simpa [found] using valid.1.2 (name, shape) described

theorem object_required {required : List String} {properties : List (String × Shape)} {record : Record}
    (valid : object required properties (.obj record) = true) {name : String} (needed : name ∈ required) :
    ∃ value, record.get? name = some value := by
  simp only [object, fields, Bool.and_eq_true, List.all_eq_true] at valid
  have present := valid.1.1 name needed
  cases found : record.get? name with
  | some value => exact ⟨value, rfl⟩
  | none => exact absurd (of_decide_eq_true present) (Dict.get?_eq_none.mp found)

abbrev Entry := String × Shape × Json

theorem get?_entries {entries : List Entry} (distinct : (entries.map Prod.fst).Nodup) {entry : Entry}
    (member : entry ∈ entries) :
    Dict.get? (entries.map fun entry => (entry.1, entry.2.2)) entry.1 = some entry.2.2 := by
  induction entries with
  | nil => cases member
  | cons head rest ih =>
    obtain ⟨fresh, distinct⟩ := List.nodup_cons.mp distinct
    rcases List.mem_cons.mp member with rfl | later
    · exact if_pos rfl
    · have other : ¬head.1 = entry.1 := fun same => fresh (same ▸ List.mem_map_of_mem later)
      exact (if_neg other).trans (ih distinct later)

theorem object_entries (required : List String) (entries : List Entry) (distinct : (entries.map Prod.fst).Nodup)
    (needed : required ⊆ entries.map Prod.fst) :
    object required (entries.map fun entry => (entry.1, entry.2.1))
      (.obj (entries.map fun entry => (entry.1, entry.2.2))) = entries.all fun entry => entry.2.1 entry.2.2 := by
  have keys : Dict.keys (entries.map fun entry => (entry.1, entry.2.2)) = entries.map Prod.fst := by
    simp [Dict.keys]
  have present : (required.all fun name => name ∈ Dict.keys (entries.map fun entry => (entry.1, entry.2.2))) = true := by
    rw [keys, List.all_eq_true]
    exact fun name listed => decide_eq_true (needed listed)
  have shaped : (entries.map fun entry => (entry.1, entry.2.1)).all (fun property =>
      (Dict.get? (entries.map fun entry => (entry.1, entry.2.2)) property.1).all property.2) =
        entries.all fun entry => entry.2.1 entry.2.2 := by
    rw [List.all_map, Bool.eq_iff_iff, List.all_eq_true, List.all_eq_true]
    refine forall₂_congr fun entry member => ?_
    simp [get?_entries distinct member]
  have closed : (entries.map fun entry => (entry.1, entry.2.2)).all (fun field =>
      field.1 ∈ (entries.map fun entry => (entry.1, entry.2.1)).map Prod.fst) = true := by
    simp only [List.all_eq_true, List.map_map, decide_eq_true_eq]
    intro field member
    obtain ⟨entry, there, rfl⟩ := List.mem_map.mp member
    exact List.mem_map_of_mem there
  change fields required _ _ = _
  unfold fields
  rw [present, shaped, closed, Bool.true_and, Bool.and_true]

theorem text_of_str {minLength : Nat} {value : String} : text minLength (.str value) = true ↔ minLength ≤ value.length := by
  simp [text]

theorem oneOf_two_right {first second : Shape} {value : Json} (other : first value = false) :
    oneOf [first, second] value = second value := by
  cases accepted : second value <;> simp [oneOf, other, accepted]

end Shape
