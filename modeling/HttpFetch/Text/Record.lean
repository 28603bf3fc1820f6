import HttpFetch.Text.Quoted
/-!
# Diagnostic texts

How a value is shown to someone who looks for a fault: a record by its name and its fields, a list in
brackets, an optional value as `Some(..)` or `None`.
-/

namespace HttpFetch.Record

/-- The fields of a record, each with its value. -/
def fields (parts : List (String × String)) : String :=
  ", ".intercalate (parts.map fun (name, value) => name ++ ": " ++ value)

/-- A record of which all fields are shown. -/
def closed (name : String) (parts : List (String × String)) : String :=
  name ++ " \x7b " ++ fields parts ++ " \x7d"

/-- A record that has more fields than are shown. -/
def opened (name : String) (parts : List (String × String)) : String :=
  name ++ " \x7b " ++ fields parts ++ ", .. \x7d"

/-- An alternative with one value. -/
def tagged (name value : String) : String := name ++ "(" ++ value ++ ")"

/-- An optional value. -/
def optional (shown : α → String) : Option α → String
  | none => "None"
  | some a => tagged "Some" (shown a)

/-- A list of values. -/
def list (items : List String) : String := "[" ++ ", ".intercalate items ++ "]"

/-- A table of texts by their names. -/
def table (entries : List (String × String)) : String :=
  "\x7b" ++ ", ".intercalate (entries.map fun (name, value) =>
    Text.quoted name ++ ": " ++ Text.quoted value) ++ "\x7d"

/-- A truth value. -/
def bool (b : Bool) : String := if b then "true" else "false"

/-- A number. -/
def nat (n : Nat) : String := toString n

end HttpFetch.Record
