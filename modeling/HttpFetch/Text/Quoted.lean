import HttpFetch.Unicode.Printable
/-!
# Quoted text

The form in which diagnostic texts show a text: in quotation marks, on one line, and with everything
that cannot be seen written out.
-/

namespace HttpFetch.Text

/-- A character as it stands between quotation marks. -/
def quotedChar (c : Char) : List Char :=
  match c with
  | '\t' => ['\\', 't']
  | '\n' => ['\\', 'n']
  | '\r' => ['\\', 'r']
  | '\x00' => ['\\', '0']
  | '"' => ['\\', '"']
  | '\\' => ['\\', '\\']
  | c =>
    if Unicode.unprintable.has c || Unicode.extending.has c then
      ['\\', 'u', '\x7b'] ++ (Ascii.hexText c.toNat).toList ++ ['\x7d']
    else [c]

/-- A text in quotation marks. -/
def quoted (text : String) : String :=
  "\"" ++ String.ofList (text.toList.flatMap quotedChar) ++ "\""

end HttpFetch.Text
