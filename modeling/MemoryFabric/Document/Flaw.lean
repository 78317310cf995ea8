import MemoryFabric.Quantity.Size

/-! The first fault of a document: the text breaks, or a value has the wrong
shape. -/

namespace MemoryFabric

inductive Flaw where
  | malformed
  | unknownField (name : String) (known : List String)
  | duplicateField (name : String)
  | missingField (name : String)
  | wrongType (found expected : String)
  | wrongNumber (found expected : String)
  | wrongLength (length : Nat) (expected : String)
  | unknownVariant (name : String) (known : List String)
  | unreadableQuantity (text : String)
  /-- Sizes and delays are whole numbers or texts. -/
  | noQuantity
deriving DecidableEq, Repr

namespace Flaw

def mark (name : String) : String :=
  "\x60" ++ name ++ "\x60"

def expectation : List String → String
  | [] => "there are no fields"
  | [only] => "expected " ++ mark only
  | [first, second] => "expected " ++ mark first ++ " or " ++ mark second
  | names => "expected one of " ++ ", ".intercalate (names.map mark)

def message : Flaw → String
  | .malformed => "malformed JSON"
  | .unknownField name known => "unknown field " ++ mark name ++ ", " ++ expectation known
  | .duplicateField name => "duplicate field " ++ mark name
  | .missingField name => "missing field " ++ mark name
  | .wrongType found expected => "invalid type: " ++ found ++ ", expected " ++ expected
  | .wrongNumber found expected => "invalid value: " ++ found ++ ", expected " ++ expected
  | .wrongLength length expected => s!"invalid length {length}, expected " ++ expected
  | .unknownVariant name known => "unknown variant " ++ mark name ++ ", " ++ expectation known
  | .unreadableQuantity text => MemoryFabric.unreadableQuantity text
  | .noQuantity => "data did not match any variant of untagged enum SizeRepr"

example : (Flaw.unknownField "x" ["a", "b"]).message =
    "unknown field \x60x\x60, expected \x60a\x60 or \x60b\x60" := by decide +kernel

end Flaw

end MemoryFabric
