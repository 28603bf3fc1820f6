import HttpFetch.Text.Ascii
/-!
# JSON over several lines

A value is printed at a depth, and every level below it is two blanks further in. The fields of an
object are printed in the order in which they are given.
-/

namespace HttpFetch.Text

/-- A value as it is printed at a depth. -/
abbrev Json := (depth : Nat) → String

namespace Json

/-- Two blanks for every level. -/
def indent (depth : Nat) : String := String.ofList (List.replicate (2 * depth) ' ')

/-- A character as it stands in a string. -/
def escapeChar (c : Char) : List Char :=
  match c with
  | '"' => ['\\', '"']
  | '\\' => ['\\', '\\']
  | '\n' => ['\\', 'n']
  | '\r' => ['\\', 'r']
  | '\t' => ['\\', 't']
  | '\x08' => ['\\', 'b']
  | '\x0c' => ['\\', 'f']
  | c =>
    if c.toNat < 0x20 then
      ['\\', 'u', '0', '0'] ++ Nat.toDigits 16 (c.toNat / 16) ++ Nat.toDigits 16 (c.toNat % 16)
    else [c]

/-- A string in quotation marks. -/
def quote (text : String) : String := "\"" ++ String.ofList (text.toList.flatMap escapeChar) ++ "\""

/-- A string. -/
def string (text : String) : Json := fun _ => quote text

/-- A number. -/
def number (n : Nat) : Json := fun _ => toString n

/-- A truth value. -/
def bool (b : Bool) : Json := fun _ => if b then "true" else "false"

/-- A value that may be missing. -/
def optional (print : α → Json) : Option α → Json
  | none => fun _ => "null"
  | some a => print a

/-- An object. -/
def object (fields : List (String × Json)) : Json := fun depth =>
  if fields.isEmpty then "\x7b\x7d"
  else
    "\x7b\n" ++
      ",\n".intercalate (fields.map fun (name, value) =>
        indent (depth + 1) ++ quote name ++ ": " ++ value (depth + 1)) ++
      "\n" ++ indent depth ++ "\x7d"

/-- A value on lines of its own. -/
def render (value : Json) : String := value 0

end Json
end HttpFetch.Text
