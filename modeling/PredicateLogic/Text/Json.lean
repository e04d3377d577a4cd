/-!
# JSON

A value is written over several lines: every element of an array and every
member of an object on a line of its own, indented by two spaces for each level.
Members keep the order in which they are given.
-/

namespace PredicateLogic

/-- A JSON value. -/
inductive Json where
  | text (s : String)
  | number (n : Nat)
  | truth (b : Bool)
  | array (elements : List Json)
  | object (members : List (String × Json))

namespace Json

/-- The digit with the given value below sixteen. -/
def hexDigit (n : Nat) : Char :=
  if n < 10 then Char.ofNat (0x30 + n) else Char.ofNat (0x57 + n)

/-- The text of a character inside a quoted text. Quotes, backslashes and
control characters are escaped. -/
def escape (c : Char) : List Char :=
  match c with
  | '\x22' => ['\x5c', '\x22']
  | '\x5c' => ['\x5c', '\x5c']
  | '\x08' => ['\x5c', 'b']
  | '\x09' => ['\x5c', 't']
  | '\x0a' => ['\x5c', 'n']
  | '\x0c' => ['\x5c', 'f']
  | '\x0d' => ['\x5c', 'r']
  | c =>
    if c.toNat < 0x20 then
      ['\x5c', 'u', '0', '0', hexDigit (c.toNat / 16), hexDigit (c.toNat % 16)]
    else [c]

/-- A text in quotes. -/
def quote (s : String) : String :=
  String.ofList ('\x22' :: s.toList.flatMap escape ++ ['\x22'])

/-- The start of a line at the given depth. -/
def margin (depth : Nat) : String :=
  String.ofList (List.replicate (2 * depth) ' ')

mutual

/-- Writes a value at the given depth behind the text `out`. -/
def write (depth : Nat) (out : String) : Json → String
  | .text s => out ++ quote s
  | .number n => out ++ toString n
  | .truth b => out ++ (if b then "true" else "false")
  | .array [] => out ++ "[]"
  | .array (j :: js) =>
    writeElements (depth + 1)
      (write (depth + 1) (out ++ "[\n" ++ margin (depth + 1)) j) js ++
      "\n" ++ margin depth ++ "]"
  | .object [] => out ++ "\x7b\x7d"
  | .object ((key, j) :: members) =>
    writeMembers (depth + 1)
      (write (depth + 1)
        (out ++ "\x7b\n" ++ margin (depth + 1) ++ quote key ++ ": ") j)
      members ++
      "\n" ++ margin depth ++ "\x7d"

/-- Writes the elements of an array behind its first one. -/
def writeElements (depth : Nat) (out : String) : List Json → String
  | [] => out
  | j :: js =>
    writeElements depth (write depth (out ++ ",\n" ++ margin depth) j) js

/-- Writes the members of an object behind its first one. -/
def writeMembers (depth : Nat) (out : String) : List (String × Json) → String
  | [] => out
  | (key, j) :: members =>
    writeMembers depth (write depth (out ++ ",\n" ++ margin depth ++
      quote key ++ ": ") j) members

end

/-- The text of a value, with a line feed at the end. -/
def pretty (j : Json) : String :=
  j.write 0 "" ++ "\n"

end Json

end PredicateLogic
