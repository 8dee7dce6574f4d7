/-!
# Dynamic values

What a document denotes before it is read as a domain type: the values that JSON and YAML texts
share. Integers are kept apart from floating-point numbers, which are given by their bits.
-/

namespace Rehearsal.Data

/-- A value of a document. Entries of a map keep their order; only YAML has keys that are not texts
and values with tags. -/
inductive Value where
  | null
  | flag (b : Bool)
  | int (n : Int)
  | float (bits : UInt64)
  | text (s : String)
  | list (items : List Value)
  | map (entries : List (Value × Value))
  | tagged (tag : String) (body : Value)
  deriving Inhabited

namespace Value

mutual

/-- Structural equality. -/
def same : Value → Value → Bool
  | .null, .null => true
  | .flag a, .flag b => a == b
  | .int a, .int b => a == b
  | .float a, .float b => a == b
  | .text a, .text b => a == b
  | .list a, .list b => sameItems a b
  | .map a, .map b => sameEntries a b
  | .tagged s a, .tagged t b => s == t && same a b
  | _, _ => false

/-- Structural equality of items. -/
def sameItems : List Value → List Value → Bool
  | [], [] => true
  | a :: as, b :: bs => same a b && sameItems as bs
  | _, _ => false

/-- Structural equality of entries. -/
def sameEntries : List (Value × Value) → List (Value × Value) → Bool
  | [], [] => true
  | (k, a) :: as, (l, b) :: bs => same k l && same a b && sameEntries as bs
  | _, _ => false

end

instance : BEq Value := ⟨same⟩

/-- Whether two floating-point numbers are one key: as numbers, and all that are none are one. -/
def sameFloat (a b : UInt64) : Bool :=
  let magnitude (x : UInt64) : Nat := x.toNat % Nat.pow 2 63
  let noNumber (x : UInt64) : Bool := Nat.pow 2 52 * 2047 < magnitude x
  a == b || (magnitude a = 0 && magnitude b = 0) || (noNumber a && noNumber b)

/-- A tag without its exclamation mark, if anything follows it. -/
def bareTag (tag : String) : List Char :=
  match tag.toList with
  | '!' :: c :: r => c :: r
  | s => s

mutual

/-- Whether two values are one key of a map: numbers are compared as such, and maps without regard
to the order of their entries. -/
def sameKey : Value → Value → Bool
  | .null, .null => true
  | .flag a, .flag b => a == b
  | .int a, .int b => a == b
  | .float a, .float b => sameFloat a b
  | .text a, .text b => a == b
  | .list a, .list b => sameKeys a b
  | .map a, .map b => a.length == b.length && entriesWithin a b
  | .tagged s a, .tagged t b => bareTag s == bareTag t && sameKey a b
  | _, _ => false

/-- Whether items are the same keys, in order. -/
def sameKeys : List Value → List Value → Bool
  | [], [] => true
  | a :: as, b :: bs => sameKey a b && sameKeys as bs
  | _, _ => false

/-- Whether all entries stand among others. -/
def entriesWithin : List (Value × Value) → List (Value × Value) → Bool
  | [], _ => true
  | (k, a) :: as, bs => bs.any (fun e => sameKey k e.1 && sameKey a e.2) && entriesWithin as bs

end

/-- The value of a text key in a map. -/
def get? (key : String) : Value → Option Value
  | .map es => (es.find? fun e => match e.1 with | .text k => k == key | _ => false).map (·.2)
  | _ => none

/-- The text, if the value is one. -/
def text? : Value → Option String
  | .text s => some s
  | _ => none

/-- The value below all tags. -/
def untagged : Value → Value
  | .tagged _ v => untagged v
  | v => v

/-- A map with text keys. -/
def record (fields : List (String × Value)) : Value := .map (fields.map fun (k, v) => (.text k, v))

/-- A natural number. -/
def nat (n : Nat) : Value := .int n

/-- A value or null. -/
def orNull : Option Value → Value
  | some v => v
  | none => .null

end Value
end Rehearsal.Data
