set_option autoImplicit false

namespace HtmlTemplate

/-- An integer of 64 bits, signed or unsigned, is exact; every other number is a double. -/
inductive Number where
  | integer (n : Int)
  | real (x : Float)

inductive Json where
  | null
  | bool (b : Bool)
  | number (n : Number)
  | string (s : String)
  | array (items : List Json)
  | object (fields : List (String × Json))
deriving Inhabited

namespace Json

inductive Kind where
  | null
  | boolean
  | number
  | string
  | array
  | object
deriving DecidableEq, Repr

def kind : Json → Kind
  | .null => .null
  | .bool _ => .boolean
  | .number _ => .number
  | .string _ => .string
  | .array _ => .array
  | .object _ => .object

def Kind.phrase : Kind → String
  | .null => "null"
  | .boolean => "a boolean"
  | .number => "a number"
  | .string => "a string"
  | .array => "an array"
  | .object => "an object"

end Json

end HtmlTemplate
