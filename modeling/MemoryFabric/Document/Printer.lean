import MemoryFabric.Document.Basic
import MemoryFabric.Text.Numeral

/-! Documents as text: one item or member to a line, indented by two spaces for
each level. -/

namespace MemoryFabric.Document

def escapeCharacter (character : Char) : String :=
  match character with
  | '"' => "\\\""
  | '\\' => "\\\\"
  | '\x08' => "\\b"
  | '\t' => "\\t"
  | '\n' => "\\n"
  | '\x0c' => "\\f"
  | '\r' => "\\r"
  | _ =>
      if character.toNat < 0x10 then "\\u000" ++ Text.hexDigits character.toNat
      else if character.toNat < 0x20 then "\\u00" ++ Text.hexDigits character.toNat
      else character.toString

def stringText (value : String) : String :=
  "\"" ++ String.join (value.toList.map escapeCharacter) ++ "\""

def numberText : Number → String
  | .natural value => s!"{value}"
  | .negative magnitude => "-" ++ s!"{magnitude}"
  | .real isNegative magnitude => (if isNegative then "-" else "") ++ magnitude.decimalText

def indentation (level : Nat) : String :=
  String.ofList (List.replicate (2 * level) ' ')

/-- Lines between two brackets; the brackets stand together if there are none. -/
def block (opening closing : String) (level : Nat) (lines : List String) : String :=
  if lines.isEmpty then opening ++ closing
  else
    opening ++ "\n" ++
      ",\n".intercalate (lines.map fun line => indentation (level + 1) ++ line) ++
      "\n" ++ indentation level ++ closing

mutual

/-- The text of a document at a level of indentation. Where a document breaks,
its text does. -/
def pretty (level : Nat) : Document → String
  | .null => "null"
  | .boolean value => if value then "true" else "false"
  | .number value => numberText value
  | .text value => stringText value
  | .list items => block "[" "]" level (prettyItems (level + 1) items)
  | .record members _ => block "\x7b" "\x7d" level (prettyMembers (level + 1) members)
  | .broken => ""

def prettyItems (level : Nat) : List Document → List String
  | [] => []
  | item :: rest => item.pretty level :: prettyItems level rest

def prettyMembers (level : Nat) : List (String × Document) → List String
  | [] => []
  | (name, value) :: rest =>
      (stringText name ++ ": " ++ value.pretty level) :: prettyMembers level rest

end

end MemoryFabric.Document
