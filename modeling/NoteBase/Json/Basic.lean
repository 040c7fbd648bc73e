/-!
# JSON values

Integers and other numbers are kept apart, and the members of an object are kept in order.
-/

namespace NoteBase

inductive Scalar where
  | null
  | bool (value : Bool)
  | integer (value : Int)
  | float (value : Float)
  | text (value : String)
deriving DecidableEq

inductive Json where
  | scalar (value : Scalar)
  | array (items : List Json)
  | object (members : List (String × Json))
deriving Inhabited

namespace Json

def null : Json := .scalar .null

def bool (value : Bool) : Json := .scalar (.bool value)

def integer (value : Int) : Json := .scalar (.integer value)

def float (value : Float) : Json := .scalar (.float value)

def text (value : String) : Json := .scalar (.text value)

def texts (values : List String) : Json := .array (values.map text)

end Json

end NoteBase
