import ClusterVolumes.Text.Cut
import ClusterVolumes.Text.Extending

/-!
# Quoted texts in messages

A message shows a text that a caller gave between double quotes: `\"`, `\\`, `\n`, `\r`, `\t` and
`\0` stand for their characters, and a character that would not be seen stands as its code point, as
in `\u{301}`.
-/

namespace ClusterVolumes.Text

/-- A number in lower-case hexadecimal digits. -/
def hex (n : Nat) : String :=
  String.ofList (Nat.toDigits 16 n)

/-- A number in decimal digits. -/
def decimal (n : Nat) : String :=
  String.ofList (Nat.toDigits 10 n)

/-- One character between the quotes. -/
def quoteChar (c : Char) : String :=
  if c = '"' then "\\\""
  else if c = '\\' then "\\\\"
  else if c = '\n' then "\\n"
  else if c = '\r' then "\\r"
  else if c = '\t' then "\\t"
  else if c = '\x00' then "\\0"
  else if extendsGrapheme c || !isPrinted c then "\\u\x7b" ++ hex c.toNat ++ "\x7d"
  else String.singleton c

/-- A text between double quotes, with what would not be seen escaped. -/
def quoted (s : String) : String :=
  "\"" ++ String.ofList (s.toList.flatMap fun c => (quoteChar c).toList) ++ "\""

/-- A list of quoted texts in brackets. -/
def quotedList (l : List String) : String :=
  "[" ++ joinWith ", " (l.map quoted) ++ "]"

end ClusterVolumes.Text
