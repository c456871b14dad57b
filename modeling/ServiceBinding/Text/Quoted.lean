import ServiceBinding.Text.Printable

/-!
Quoted texts for messages: double quotes around the text, a backslash before quotes and
backslashes, short escapes for the common controls, and the code point in braces for whatever
would not show.
-/
namespace ServiceBinding.Text

/-- The lower-case hexadecimal numeral of a number. -/
def hexNumeral (n : Nat) : List Char := Nat.toDigits 16 n

/-- A character as it is written between quotes. -/
def quoteChar (c : Char) : List Char :=
  match c with
  | '\x00' => ['\\', '0']
  | '\t' => ['\\', 't']
  | '\r' => ['\\', 'r']
  | '\n' => ['\\', 'n']
  | '"' => ['\\', '"']
  | '\\' => ['\\', '\\']
  | c =>
    if isPrintable c then [c]
    else ['\\', 'u', '{'] ++ hexNumeral c.toNat ++ ['}']

/-- A text between quotes. -/
def quoted (s : String) : String :=
  String.ofList (['"'] ++ s.toList.flatMap quoteChar ++ ['"'])

/-- An optional text, as its quoted form or the word for its absence. -/
def quotedOption : Option String → String
  | none => "None"
  | some s => "Some(" ++ quoted s ++ ")"

end ServiceBinding.Text
