import ShapeCompiler.Json.Numeral

/-! JSON texts as they are written: members in their order, repeated names kept, and numbers digit for
digit; and the values that they stand for. -/

namespace ShapeCompiler

inductive Json.Written where
  | null
  | bool (value : Bool)
  | number (numeral : Json.Numeral)
  | string (value : String)
  | array (items : List Json.Written)
  | object (members : List (String × Json.Written))

namespace Json

instance : Inhabited Written := ⟨.null⟩

namespace Written

def string? : Written → Option String
  | string value => some value
  | _ => none

def bool? : Written → Option Bool
  | bool value => some value
  | _ => none

def isScalar : Written → Bool
  | array _ | object _ => false
  | _ => true

def itemsOrSelf : Written → List Written
  | array items => items
  | value => [value]

def member? (name : String) (members : List (String × Written)) : Option Written :=
  members.reverse.lookup name

mutual

def size : Written → Nat
  | null | bool _ | number _ | string _ => 1
  | array items => 1 + itemsSize items
  | object members => 1 + membersSize members

def itemsSize : List Written → Nat
  | [] => 0
  | item :: items => size item + itemsSize items

def membersSize : List (String × Written) → Nat
  | [] => 0
  | (_, value) :: members => size value + membersSize members

end

mutual

/-- The value that a text stands for, the last of equal names kept; none if a number in it is too
large. -/
def value? : Written → Option Json
  | null => some .null
  | bool value => some (.bool value)
  | number numeral => numeral.number?.map .number
  | string value => some (.string value)
  | array items => (itemValues? items).map .array
  | object members => (memberValues? members).map sorted

def itemValues? : List Written → Option (List Json)
  | [] => some []
  | item :: items => do
      let value ← value? item
      let values ← itemValues? items
      return value :: values

def memberValues? : List (String × Written) → Option (List (String × Json))
  | [] => some []
  | (name, value) :: members => do
      let value ← value? value
      let values ← memberValues? members
      return (name, value) :: values

end

end Written

end Json

end ShapeCompiler
