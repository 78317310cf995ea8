import MemoryFabric.Text.CharacterClass
import MemoryFabric.Text.Numeral

/-! Quoted text, the form in which refused input is shown: characters that
would not be visible on their own are written as escapes. -/

namespace MemoryFabric.Text

/-- A mark that is shown on the character before it, and not alone. -/
def joinsOthers (character : Char) : Bool :=
  extendingRuns.contains character && !soundMarkRuns.contains character

def isVisible (character : Char) : Bool :=
  !(unprintableRuns.contains character || ignorableRuns.contains character ||
    joinsOthers character)

def escape (character : Char) : String :=
  match character with
  | '"' => "\\\""
  | '\\' => "\\\\"
  | '\n' => "\\n"
  | '\r' => "\\r"
  | '\t' => "\\t"
  | '\x00' => "\\0"
  | _ =>
      if isVisible character then character.toString
      else "\\u\x7b" ++ hexDigits character.toNat ++ "\x7d"

def quote (text : String) : String :=
  "\"" ++ String.join (text.toList.map escape) ++ "\""

example : quote "8 \"parsecs\"\n" = "\"8 \\\"parsecs\\\"\\n\"" := by decide +kernel
example : quote "e\u0301\u200b" = "\"e\\u\x7b301\x7d\\u\x7b200b\x7d\"" := by decide +kernel
example : quote "\u3164\uff9f" = "\"\\u\x7b3164\x7d\uff9f\"" := by decide +kernel

end MemoryFabric.Text
