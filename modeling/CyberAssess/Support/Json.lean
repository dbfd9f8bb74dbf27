import Mathlib.Tactic.Common

/-!
# Support — canonical JSON

JSON trees and the one text `json.dumps(…, sort_keys=True, separators=(",", ":"),
ensure_ascii=True)` writes for each.

* `Json.text` is that text; members are written in the order of their keys.
* `Json.dumps` is the text with the default separators.
* `Json.Same` is equality of the texts, which is how the source compares stored material.

`[about ours]`: a number is kept as its text.
-/

namespace Python

/-- A JSON value, its members in insertion order. -/
inductive Json where
  | null
  | bool (b : Bool)
  | num (text : String)
  | str (s : String)
  | arr (items : List Json)
  | obj (members : List (String × Json))

/-- A lower-case hexadecimal digit. -/
def hexDigit (n : Nat) : Char := if n < 10 then Char.ofNat (48 + n) else Char.ofNat (87 + n)

/-- `\uXXXX`. -/
def unicodeEscape (n : Nat) : List Char :=
  ['\\', 'u', hexDigit (n / 4096 % 16), hexDigit (n / 256 % 16), hexDigit (n / 16 % 16),
    hexDigit (n % 16)]

/-- One character of an ASCII-only JSON string; above the basic plane a surrogate pair. -/
def jsonChar (c : Char) : List Char :=
  let n := c.val.toNat
  if c = '"' then ['\\', '"']
  else if c = '\\' then ['\\', '\\']
  else if n = 8 then ['\\', 'b']
  else if n = 9 then ['\\', 't']
  else if n = 10 then ['\\', 'n']
  else if n = 12 then ['\\', 'f']
  else if n = 13 then ['\\', 'r']
  else if 32 ≤ n && n ≤ 126 then [c]
  else if n ≤ 0xFFFF then unicodeEscape n
  else unicodeEscape (0xD800 + (n - 0x10000) / 1024) ++ unicodeEscape (0xDC00 + (n - 0x10000) % 1024)

/-- A JSON string, quotes included. -/
def jsonString (s : String) : String :=
  String.ofList ('"' :: s.toList.flatMap jsonChar ++ ['"'])

/-- Members by key, in the order of their code points. -/
def sortKeys {α : Type} (members : List (String × α)) : List (String × α) :=
  members.mergeSort fun p q => decide (p.1 ≤ q.1)

mutual

/-- The canonical text. -/
def Json.text : Json → String
  | .null => "null"
  | .bool b => if b then "true" else "false"
  | .num t => t
  | .str s => jsonString s
  | .arr items => "[" ++ ",".intercalate (textItems items) ++ "]"
  | .obj members =>
      "\x7b" ++ ",".intercalate ((sortKeys (textMembers members)).map fun p =>
        jsonString p.1 ++ ":" ++ p.2) ++ "\x7d"

/-- The texts of the items. -/
def textItems : List Json → List String
  | [] => []
  | j :: js => j.text :: textItems js

/-- The texts of the members, under their keys. -/
def textMembers : List (String × Json) → List (String × String)
  | [] => []
  | (k, j) :: ms => (k, j.text) :: textMembers ms

end

mutual

/-- `json.dumps(value, sort_keys=True)`, with the separators it has by default. -/
def Json.dumps : Json → String
  | .null => "null"
  | .bool b => if b then "true" else "false"
  | .num t => t
  | .str s => jsonString s
  | .arr items => "[" ++ ", ".intercalate (dumpItems items) ++ "]"
  | .obj members =>
      "\x7b" ++ ", ".intercalate ((sortKeys (dumpMembers members)).map fun p =>
        jsonString p.1 ++ ": " ++ p.2) ++ "\x7d"

/-- The texts of the items. -/
def dumpItems : List Json → List String
  | [] => []
  | j :: js => j.dumps :: dumpItems js

/-- The texts of the members, under their keys. -/
def dumpMembers : List (String × Json) → List (String × String)
  | [] => []
  | (k, j) :: ms => (k, j.dumps) :: dumpMembers ms

end

/-- A string, or `null`. -/
def Json.optStr : Option String → Json
  | none => .null
  | some s => .str s

/-- An integer. -/
def Json.int (n : Int) : Json := .num (toString n)

/-- `value not in (None, "", {}, [], ())`. -/
def Json.hasMaterial : Json → Bool
  | .null => false
  | .str s => !s.isEmpty
  | .arr items => !items.isEmpty
  | .obj members => !members.isEmpty
  | .bool _ | .num _ => true

/-- `bool(value)` of a dumped value. -/
def Json.truth : Json → Bool
  | .bool b => b
  | .num t => t ≠ "0" && t ≠ "0.0"
  | v => v.hasMaterial

/-- `mapping.get(key)`. -/
def Json.get? (key : String) : List (String × Json) → Option Json
  | [] => none
  | (k, j) :: ms => if k = key then some j else Json.get? key ms

end Python
