import ServiceBinding.Bytes
import ServiceBinding.Json.Basic

/-!
The compact text of a JSON value: no spaces, members in their order, and escapes only for
quotes, backslashes and the control characters below the space.
-/
namespace ServiceBinding.Json

/-- A character as it is written inside a JSON string. -/
def writeChar (c : Char) : List Char :=
  match c with
  | '"' => ['\\', '"']
  | '\\' => ['\\', '\\']
  | '\x08' => ['\\', 'b']
  | '\x0c' => ['\\', 'f']
  | '\n' => ['\\', 'n']
  | '\r' => ['\\', 'r']
  | '\t' => ['\\', 't']
  | c =>
    if c.toNat < 0x20 then
      ['\\', 'u', '0', '0', Bytes.hexDigit (c.toNat / 16), Bytes.hexDigit (c.toNat % 16)]
    else [c]

def writeText (s : String) : List Char := '"' :: s.toList.flatMap writeChar ++ ['"']

def Number.toText : Number → String
  | .int n => toString n
  | .double d => Double.toText d

mutual
/-- The characters of a value. -/
def write : Json → List Char
  | .null => ['n', 'u', 'l', 'l']
  | .bool true => ['t', 'r', 'u', 'e']
  | .bool false => ['f', 'a', 'l', 's', 'e']
  | .num n => n.toText.toList
  | .str s => writeText s
  | .arr items => '[' :: writeItems items ++ [']']
  | .obj members => '{' :: writeMembers members ++ ['}']

/-- The items of an array, separated by commas. -/
def writeItems : List Json → List Char
  | [] => []
  | [item] => write item
  | item :: rest => write item ++ ',' :: writeItems rest

/-- The members of an object, separated by commas. -/
def writeMembers : List (String × Json) → List Char
  | [] => []
  | [(key, value)] => writeText key ++ ':' :: write value
  | (key, value) :: rest => writeText key ++ ':' :: write value ++ ',' :: writeMembers rest
end

/-- The compact text of a value. -/
def render (j : Json) : String := String.ofList (write j)

end ServiceBinding.Json
