import RequestRouting.Json.Basic

/-!
# Configuration documents

The values of a configuration document, whether it is written in TOML or in JSON, and how records
are read from them.

## Main definitions

* `Node` — a value of a document.
* `Node.ofJson`, `Node.toJson?` — the passage to and from JSON values.
* `Format` — the language of a document, where it makes a difference.
* `Node.fields?` — the fields of a record, which may also be given by position.
-/

set_option autoImplicit false

namespace RequestRouting

/-- A value of a configuration document. -/
inductive Node where
  | null
  | bool (value : Bool)
  | integer (value : Int)
  | float (value : Binary64)
  /-- An infinity, or not a number. -/
  | nonFinite
  | text (value : String)
  /-- A date, a time, or both, in normal form. -/
  | datetime (moment : String)
  | array (items : List Node)
  | table (fields : List (String × Node))

/-- The language of a document. -/
inductive Format where
  | json
  | toml
  deriving DecidableEq

namespace Node

instance : Inhabited Node := ⟨.null⟩

/-- The name of the field that holds a date or a time where a table is expected. -/
def datetimeField : String := "$__toml_private_datetime"

/-- The least integer of a field. -/
def integerMin : Int := -9223372036854775808

/-- The greatest integer of a field that has to be signed. -/
def integerMax : Int := 9223372036854775807

/-- The greatest integer of a field that may be unsigned. -/
def unsignedMax : Int := 18446744073709551615

mutual

/-- The node of a JSON value. -/
def ofJson : Json → Node
  | .null => .null
  | .bool value => .bool value
  | .number (.int value) => .integer value
  | .number (.float value) => .float value
  | .string value => .text value
  | .array items => .array (ofJsonItems items)
  | .object fields => .table (ofJsonFields fields)

/-- The nodes of a list of items. -/
def ofJsonItems : List Json → List Node
  | [] => []
  | item :: rest => ofJson item :: ofJsonItems rest

/-- The nodes of a list of fields. -/
def ofJsonFields : List (String × Json) → List (String × Node)
  | [] => []
  | (name, value) :: rest => (name, ofJson value) :: ofJsonFields rest

end

mutual

/-- The JSON value of a node.  What JSON cannot express becomes null, a date becomes an object, and
an integer has to be in range. -/
def toJson? : Node → Option Json
  | .null | .nonFinite => some .null
  | .bool value => some (.bool value)
  | .integer value => if integerMin ≤ value && value ≤ unsignedMax then some (.int value) else none
  | .float value => some (.number (.float value))
  | .text value => some (.string value)
  | .datetime moment => some (.object [(datetimeField, .string moment)])
  | .array items => (toJsonItems? items).map .array
  | .table fields => (toJsonFields? fields).map .object

/-- The JSON values of a list of items. -/
def toJsonItems? : List Node → Option (List Json)
  | [] => some []
  | item :: rest => do some ((← toJson? item) :: (← toJsonItems? rest))

/-- The sorted fields of JSON values. -/
def toJsonFields? : List (String × Node) → Option (List (String × Json))
  | [] => some []
  | (name, value) :: rest => do
    let value ← toJson? value
    some (Fields.insert name value (← toJsonFields? rest))

end

/-! ## Reading fields -/

/-- The text of a node. -/
def text? : Node → Option String
  | .text value => some value
  | _ => none

/-- The truth value of a node. -/
def bool? : Node → Option Bool
  | .bool value => some value
  | _ => none

/-- The signed integer of a node. -/
def integer? : Node → Option Int
  | .integer value => if integerMin ≤ value && value ≤ integerMax then some value else none
  | _ => none

/-- The items of an array, each read in the same way. -/
def list? {α : Type} (read : Node → Option α) : Node → Option (List α)
  | .array items => items.mapM read
  | _ => none

/-- The entries of a table as JSON values. -/
def dict? : Node → Option (Dict Json)
  | .table fields => (toJsonFields? fields).map Dict.ofList
  | .datetime moment => some (.ofList [(datetimeField, .string moment)])
  | _ => none

/-- The fields of a record with the given field names.  An array gives them by position; in JSON it
may not have more items than the record has fields. -/
def fields? (format : Format) (names : List String) : Node → Option (List (String × Node))
  | .table fields => some fields
  | .datetime moment => some [(datetimeField, .text moment)]
  | .array items =>
    if format = .json && names.length < items.length then none else some (names.zip items)
  | _ => none

/-- Whether an array or a table is empty. -/
def isEmptyContainer : Node → Bool
  | .array items => items.isEmpty
  | .table fields => fields.isEmpty
  | _ => false

/-- The name of a variant without data.  It may also be the only field of a table, whose value is
then empty. -/
def variant? (format : Format) : Node → Option String
  | .text name => some name
  | .table [(name, value)] =>
    match format, value with
    | .json, .null => some name
    | .toml, value => if value.isEmptyContainer then some name else none
    | _, _ => none
  | _ => none

end Node

/-- Reads a field that may be absent or null. -/
def optionalField {α : Type} (fields : List (String × Node)) (name : String)
    (read : Node → Option α) : Option (Option α) :=
  match Fields.get? name fields with
  | none | some .null => some none
  | some node => (read node).map some

/-- Reads a field that stands for a default where it is absent. -/
def fieldOr {α : Type} (fields : List (String × Node)) (name : String) (byDefault : α)
    (read : Node → Option α) : Option α :=
  match Fields.get? name fields with
  | none => some byDefault
  | some node => read node

/-- Reads a field that has to be there. -/
def requiredField {α : Type} (fields : List (String × Node)) (name : String)
    (read : Node → Option α) : Option α :=
  (Fields.get? name fields).bind read

end RequestRouting
