import PlayableCards.Json.Basic

/-!
# JSON text

The compact text of a value: no spaces, members in their order. In strings only quotes,
backslashes and controls are escaped.
-/

namespace PlayableCards
namespace Json

def hexDigit (n : Nat) : Char := if n < 10 then Char.ofNat (0x30 + n) else Char.ofNat (0x57 + n)

def escapedChar (c : Char) : String :=
  if c == '"' then "\\\""
  else if c == '\\' then "\\\\"
  else if c == '\x08' then "\\b"
  else if c == '\t' then "\\t"
  else if c == '\n' then "\\n"
  else if c == '\x0c' then "\\f"
  else if c == '\r' then "\\r"
  else if c.toNat < 0x20 then
    String.ofList ['\\', 'u', '0', '0', hexDigit (c.toNat / 16), hexDigit (c.toNat % 16)]
  else String.singleton c

def addString (out s : String) : String :=
  (s.toList.foldl (fun text c => text ++ escapedChar c) (out.push '"')).push '"'

mutual

def addText (out : String) : Json → String
  | null => out ++ "null"
  | bool b => out ++ if b then "true" else "false"
  | number n => out ++ n.text
  | string s => addString out s
  | array items => (addItems (out.push '[') true items).push ']'
  | object members => (addMembers (out.push '\x7b') true members).push '\x7d'

/-- Adds items, each after a comma but the `first`. -/
def addItems (out : String) (first : Bool) : List Json → String
  | [] => out
  | item :: items => addItems (addText (if first then out else out.push ',') item) false items

def addMembers (out : String) (first : Bool) : List (String × Json) → String
  | [] => out
  | (key, value) :: members =>
    addMembers (addText ((addString (if first then out else out.push ',') key).push ':') value)
      false members

end

def text (j : Json) : String := addText "" j

end Json
end PlayableCards
