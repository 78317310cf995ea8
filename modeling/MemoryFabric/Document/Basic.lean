import MemoryFabric.Number.Shortest
import MemoryFabric.Text.Quoted

/-! JSON documents, as far as their text can be read. A document keeps what
stands before the first break in its text, so that whoever looks for the first
fault, in the order of the text, finds a value of the wrong shape that stands
before the break. -/

namespace MemoryFabric

/-- A number is whole if it is written without fraction and exponent and fits 64
bits, signed where it is negative; a negative zero is not whole. -/
inductive Number where
  | natural (value : Nat)
  | negative (magnitude : Nat)
  | real (isNegative : Bool) (magnitude : Binary64)
deriving DecidableEq, Repr

inductive Document where
  | null
  | boolean (value : Bool)
  | number (value : Number)
  | text (value : String)
  /-- The items up to the first broken one. -/
  | list (items : List Document)
  /-- The members up to the first broken one; `complete` if none is broken. -/
  | record (members : List (String × Document)) (complete : Bool)
  /-- The text breaks here. -/
  | broken

namespace Number

def description : Number → String
  | .natural value => "integer \x60" ++ s!"{value}" ++ "\x60"
  | .negative magnitude => "integer \x60-" ++ s!"{magnitude}" ++ "\x60"
  | .real isNegative magnitude =>
      "floating point \x60" ++ (if isNegative then "-" else "") ++ magnitude.decimalText ++ "\x60"

end Number

namespace Document

/-- A document as it is named where another one should stand. -/
def description : Document → String
  | .null => "null"
  | .boolean value => "boolean \x60" ++ (if value then "true" else "false") ++ "\x60"
  | .number value => value.description
  | .text value => "string " ++ Text.quote value
  | .list _ => "sequence"
  | .record _ _ => "map"
  | .broken => "nothing"

mutual

def isWhole : Document → Bool
  | .null | .boolean _ | .number _ | .text _ => true
  | .list items => areWhole items
  | .record members complete => complete && haveWholeValues members
  | .broken => false

def areWhole : List Document → Bool
  | [] => true
  | item :: rest => item.isWhole && areWhole rest

def haveWholeValues : List (String × Document) → Bool
  | [] => true
  | (_, value) :: rest => value.isWhole && haveWholeValues rest

end

end Document

end MemoryFabric
