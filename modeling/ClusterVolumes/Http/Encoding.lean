import ClusterVolumes.Text.Cut

/-!
# Escaped texts

Texts in targets and forms are written byte by byte: a byte is kept if it is a character that has no
meaning of its own there, and is written as `%` and two digits otherwise. In a form a blank is
written as `+`.
-/

namespace ClusterVolumes.Http

/-- A byte as `%` and two upper-case hexadecimal digits. -/
def escapeByte (b : UInt8) : List Char :=
  let digit (n : Nat) : Char := (Nat.digitChar n).toUpper
  ['%', digit (b.toNat / 16), digit (b.toNat % 16)]

/-- A text with the characters escaped that are not to be kept. -/
def escape (keep : Char → Bool) (s : String) : String :=
  String.ofList (s.toList.flatMap fun c =>
    if keep c then [c] else (String.singleton c).toUTF8.toList.flatMap escapeByte)

/-- The characters that have no meaning of their own in a target. -/
def isUnreserved (c : Char) : Bool :=
  c.isAlphanum || c = '-' || c = '_' || c = '.' || c = '~'

/-- A text as one part of a path. -/
def pathPart (s : String) : String :=
  escape isUnreserved s

/-- The characters that have no meaning of their own in a form. -/
def isFormChar (c : Char) : Bool :=
  c.isAlphanum || c = '*' || c = '-' || c = '.' || c = '_'

/-- A name or value in a form. -/
def formPart (s : String) : String :=
  String.ofList ((escape (fun c => c = ' ' || isFormChar c) s).toList.map fun c =>
    if c = ' ' then '+' else c)

/-- A form: names with their values. -/
def form (fields : List (String × String)) : String :=
  Text.joinWith "&" (fields.map fun (name, value) => formPart name ++ "=" ++ formPart value)

/-- The characters that a path may hold as they are. -/
def isPlainPathChar (c : Char) : Bool :=
  0x20 < c.toNat && c.toNat < 0x7F && !"\"#<>?\x60\x7b\x7d".toList.contains c

/-- The characters that a query may hold as they are. -/
def isPlainQueryChar (c : Char) : Bool :=
  0x20 < c.toNat && c.toNat < 0x7F && !"\"#<>'".toList.contains c

/-- A path with its query as it is sent: what may not stand there is escaped, and what stands behind
a `#` is left out. -/
def sentTarget (s : String) : String :=
  let sent := s.toList.takeWhile (· ≠ '#')
  match Text.cutFirst '?' sent with
  | none => escape isPlainPathChar (String.ofList sent)
  | some (path, query) =>
    escape isPlainPathChar (String.ofList path) ++ "?" ++
      escape isPlainQueryChar (String.ofList query)

/-- The path of an address on the web, none if it is no such address. -/
def pathOfAddress? (address : String) : Option String := do
  let rest ← Text.dropStart? "http://".toList address.toList <|>
    Text.dropStart? "https://".toList address.toList
  let host := rest.takeWhile fun c => c ≠ '/' && c ≠ '?' && c ≠ '#'
  if host.isEmpty || host.any fun c => c.toNat ≤ 0x20 then none
  else pure (String.ofList (rest.drop host.length))

/-- May a text be the value of a header? -/
def isHeaderValue (s : String) : Bool :=
  s.toList.all fun c => c = '\t' || (0x20 ≤ c.toNat && c.toNat ≠ 0x7F)

end ClusterVolumes.Http
