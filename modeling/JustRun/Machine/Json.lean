import JustRun.Machine.Text

/-!
# JSON values

What the programs read of a parsed document: members by name, texts, numbers. The
parser itself is a parameter where it is used.
-/
namespace JustRun.Machine

/-- An object has each member once. -/
inductive Json where
  | null
  | bool (value : Bool)
  | number (value : ℚ)
  | string (value : String)
  | array (items : List Json)
  | object (members : List (String × Json))

namespace Json

/-- `Value::get` with a name. -/
def get? : Json → String → Option Json
  | object members, name => members.lookup name
  | _, _ => none

def isNull : Json → Bool
  | null => true
  | _ => false

def asStr : Json → Option String
  | string value => some value
  | _ => none

end Json
end JustRun.Machine
