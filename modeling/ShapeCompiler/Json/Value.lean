import ShapeCompiler.Decimal.Binary64
import ShapeCompiler.Keyed

/-! JSON values. Whole numbers of 64 bits are kept exactly, all other numbers as binary
floating-point numbers. An object is the list of its members in the order in which they are
written. -/

namespace ShapeCompiler

inductive Json.Number where
  | whole (value : Int)
  | binary (value : Binary64)
deriving DecidableEq

inductive Json where
  | null
  | bool (value : Bool)
  | number (value : Json.Number)
  | string (value : String)
  | array (items : List Json)
  | object (members : List (String × Json))

namespace Json

instance : Inhabited Json := ⟨null⟩

def ofNat (value : Nat) : Json :=
  number (.whole value)

def ofStrings (values : List String) : Json :=
  array (values.map string)

def ofOption : Option String → Json
  | some value => string value
  | none => null

/-- An object whose members are in the order of their names, the last of equal names kept. -/
def sorted (members : List (String × Json)) : Json :=
  object (Keyed.ofList members)

def member? (name : String) : Json → Option Json
  | object members => Keyed.find? name members
  | _ => none

end Json

end ShapeCompiler
