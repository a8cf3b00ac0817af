import SealedToken.OrderedMap
import SealedToken.Text.Basic

/-!
JSON values. An object keeps its members in order, each name once.
-/

set_option autoImplicit false

namespace SealedToken

inductive Json where
  | null
  | bool (value : Bool)
  | int (value : Int)
  | float (value : Float)
  | str (value : Text)
  | arr (items : List Json)
  | obj (members : List (Text × Json))
  deriving Inhabited

namespace Json

def member? (name : Text) (members : List (Text × Json)) : Option Json := members.lookup name

end Json

end SealedToken
