import Rehearsal.Data.Value
import Rehearsal.Decimal.Text
import Rehearsal.Text.Quoted

/-!
# Mistakes in documents

Why a document is no value of a domain type, as causes; `Mistake.message` is their wording. The
formats differ in how they name an absent value and write a floating-point number (`Naming`).
-/

namespace Rehearsal.Data

/-- What stands where something else was expected. -/
inductive Found where
  | null
  | flag (b : Bool)
  | int (n : Int)
  | float (bits : UInt64)
  | text (s : String)
  | list
  | map
  | tagged
  /-- An integer of 128 bits, with the name of its type. -/
  | wide (n : Int) (type : String)

/-- What a value is. -/
def Value.found : Value → Found
  | .null => .null
  | .flag b => .flag b
  | .int n => .int n
  | .float bits => .float bits
  | .text s => .text s
  | .list _ => .list
  | .map _ => .map
  | .tagged _ _ => .tagged

/-- How a format names what was found. -/
structure Naming where
  /-- The name of an absent value. -/
  null : String
  /-- The text of a floating-point number. -/
  float : UInt64 → List Char

/-- The names of JSON: null, and numbers in general notation. -/
def Naming.json : Naming := ⟨"null", Decimal.general true⟩

/-- The names of YAML: unit values, and numbers with all their places. -/
def Naming.yaml : Naming := ⟨"unit value", Decimal.positional⟩

/-- What was found, in words. -/
def Found.describe (names : Naming) : Found → String
  | .null => names.null
  | .flag b => s!"boolean `{b}`"
  | .int n => s!"integer `{String.ofList (Text.decimalInt n)}`"
  | .float bits => s!"floating point `{String.ofList (names.float bits)}`"
  | .text s => s!"string {Text.quote s}"
  | .list => "sequence"
  | .map => "map"
  | .tagged => "enum"
  | .wide n type => s!"integer `{String.ofList (Text.decimalInt n)}` as {type}"

/-- Why a document is no value of a type. -/
inductive Mistake where
  | wrongType (found : Found) (expected : String)
  | wrongValue (found : Found) (expected : String)
  | wrongLength (length : Nat) (expected : String)
  | unknownVariant (name : String) (known : List String)
  | missingField (name : String)
  | duplicateField (name : String)
  | other (text : String)

/-- The names that may stand somewhere, in words. -/
def oneOf : List String → String
  | [] => "there are no variants"
  | [a] => s!"expected `{a}`"
  | [a, b] => s!"expected `{a}` or `{b}`"
  | names => "expected one of " ++ ", ".intercalate (names.map fun n => s!"`{n}`")

/-- The wording of a mistake. -/
def Mistake.message (names : Naming) : Mistake → String
  | .wrongType found expected => s!"invalid type: {found.describe names}, expected {expected}"
  | .wrongValue found expected => s!"invalid value: {found.describe names}, expected {expected}"
  | .wrongLength n expected => s!"invalid length {n}, expected {expected}"
  | .unknownVariant name known => s!"unknown variant `{name}`, {oneOf known}"
  | .missingField name => s!"missing field `{name}`"
  | .duplicateField name => s!"duplicate field `{name}`"
  | .other text => text

/-- A count of elements, in words. -/
def elements (n : Nat) : String := if n = 1 then "1 element" else s!"{n} elements"

end Rehearsal.Data
