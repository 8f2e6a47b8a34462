import ClusterVolumes.Text.Cut

/-!
# Media types

The header of a request says of what type its body is, as in `application/json; charset=utf-8`: two
names with a slash between them, and parameters. `MediaType.isJson` holds of `application/json` and
of the types that are JSON by their suffix, such as `application/cloudevents+json`, in any case of
letters.
-/

namespace ClusterVolumes.MediaType

/-- The characters of names. -/
def isTokenChar (c : Char) : Bool :=
  c.isAlphanum || "!#$%&'*+-.^_\x60|~".toList.contains c

/-- The characters that may stand between quotes. -/
def isQuotedChar (c : Char) : Bool :=
  31 < c.toNat && c.toNat < 127

/-- What may stand behind a quoted value: blanks, and then the end or the mark of another
parameter. -/
def afterQuoted : List Char → Option (List Char)
  | [] => some []
  | ' ' :: cs => afterQuoted cs
  | ';' :: cs => some cs
  | _ :: _ => none

/-- The text behind one parameter, blanks before it aside. -/
def afterParameter (cs : List Char) : Option (List Char) :=
  match (cs.dropWhile isTokenChar) with
  | '=' :: value =>
    if cs.head? = some '=' then none
    else match value with
      | '"' :: quoted =>
        match quoted.dropWhile fun c => c ≠ '"' && isQuotedChar c with
        | '"' :: rest => if quoted.head? = some '"' then none else afterQuoted rest
        | _ => none
      | _ =>
        match value.dropWhile isTokenChar with
        | [] => some []
        | ';' :: rest => if value.head? = some ';' then none else some rest
        | _ => none
  | _ => none

/-- Are these the parameters of a type? -/
def areParameters : (fuel : Nat) → List Char → Bool
  | 0, _ => true
  | fuel + 1, cs =>
    match cs.dropWhile (· = ' ') with
    | [] => true
    | cs =>
      match afterParameter cs with
      | some rest => areParameters fuel rest
      | none => false

/-- Is a type, without its parameters, one of JSON? -/
def isJsonType (type : List Char) : Bool :=
  match Text.cutFirst '/' type with
  | none => false
  | some (first, second) =>
    first.map Char.toLower = "application".toList && !second.isEmpty && second.all isTokenChar &&
      let json := "json".toList
      let lower := second.map Char.toLower
      match Text.cutLast '+' lower with
      | some (before, suffix) =>
        if before.isEmpty then lower = json else before = json || suffix = json
      | none => lower = json

/-- Does a header say that a body is JSON? -/
def isJson (header : String) : Bool :=
  match Text.cutFirst ';' header.toList with
  | none => isJsonType header.toList
  | some (type, parameters) => isJsonType type && areParameters header.length parameters

end ClusterVolumes.MediaType
