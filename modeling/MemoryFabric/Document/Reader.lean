import MemoryFabric.Document.Basic
import MemoryFabric.Text.Numeral

/-! Reading a document from text, from the front to its end or its first break. -/

namespace MemoryFabric.Document

def isBlank (character : Char) : Bool :=
  character == ' ' || character == '\t' || character == '\n' || character == '\r'

def skipBlanks (input : List Char) : List Char :=
  input.dropWhile isBlank

/-- What was read, and the text after it unless a break was met. -/
abbrev Reading (α : Type) := α × Option (List Char)

/-! Strings. -/

def simpleEscape? : Char → Option Char
  | '"' => some '"'
  | '\\' => some '\\'
  | '/' => some '/'
  | 'b' => some '\x08'
  | 'f' => some '\x0c'
  | 'n' => some '\n'
  | 'r' => some '\r'
  | 't' => some '\t'
  | _ => none

def unit? (first second third fourth : Char) : Option Nat :=
  Text.readDigits 16 0 [first, second, third, fourth]

def isLeadingSurrogate (unit : Nat) : Bool := 0xD800 ≤ unit && unit ≤ 0xDBFF
def isTrailingSurrogate (unit : Nat) : Bool := 0xDC00 ≤ unit && unit ≤ 0xDFFF

def pairedCharacter (leading trailing : Nat) : Char :=
  Char.ofNat (0x10000 + (leading - 0xD800) * 0x400 + (trailing - 0xDC00))

/-- The text up to the closing quote, and what follows it. `read` holds the
characters before, last one first. Control characters and surrogates without a
partner break the text. -/
def readString? (read : List Char) : List Char → Option (String × List Char)
  | [] => none
  | '"' :: rest => some (String.ofList read.reverse, rest)
  | '\\' :: 'u' :: first :: second :: third :: fourth :: rest => do
      let unit ← unit? first second third fourth
      if isTrailingSurrogate unit then none
      else if isLeadingSurrogate unit then
        match rest with
        | '\\' :: 'u' :: first :: second :: third :: fourth :: rest => do
            let trailing ← unit? first second third fourth
            if isTrailingSurrogate trailing then
              readString? (pairedCharacter unit trailing :: read) rest
            else none
        | _ => none
      else readString? (Char.ofNat unit :: read) rest
  | '\\' :: character :: rest => do
      readString? ((← simpleEscape? character) :: read) rest
  | character :: rest =>
      if character.toNat < 0x20 || character == '\\' then none
      else readString? (character :: read) rest

/-! Numbers. -/

/-- Digits are taken into the significand while it stays below `2 ^ 64`; the
digits from the first that would not fit are left over. -/
def takeSignificand (significand : Nat) : List Char → Nat × List Char
  | [] => (significand, [])
  | character :: rest =>
      let next := significand * 10 + (character.toNat - 48)
      if next < UInt64.size then takeSignificand next rest else (significand, character :: rest)

def exponentLimit : Nat := 2147483647

def splitDigits (input : List Char) : List Char × List Char :=
  (input.takeWhile Text.isDecimalDigit, input.dropWhile Text.isDecimalDigit)

/-- The magnitude of a number with the given significand and the exponent that
its digits leave to it, from the place where a power of ten may be written. -/
def readExponent? (significand : Nat) (exponent : Int) (input : List Char) :
    Option (Binary64 × List Char) := do
  match input with
  | 'e' :: rest | 'E' :: rest =>
      let (isNegative, rest) := match rest with
        | '-' :: rest => (true, rest)
        | '+' :: rest => (false, rest)
        | _ => (false, rest)
      let (digits, rest) := splitDigits rest
      let written ← Text.readNatural 10 digits
      if written > exponentLimit then
        if isNegative || significand = 0 then some (.zero, rest) else none
      else
        let exponent := if isNegative then exponent - written else exponent + written
        return (← Binary64.ofDecimal? significand exponent, rest)
  | _ => return (← Binary64.ofDecimal? significand exponent, input)

def readFraction? (significand : Nat) (exponent : Int) (input : List Char) :
    Option (Binary64 × List Char) := do
  match input with
  | '.' :: rest =>
      let (digits, rest) := splitDigits rest
      if digits.isEmpty then none
      else
        let (significand, unused) := takeSignificand significand digits
        let exponent := exponent - (digits.length - unused.length : Nat)
        readExponent? significand exponent rest
  | _ => readExponent? significand exponent input

def continuesNumber : List Char → Bool
  | '.' :: _ | 'e' :: _ | 'E' :: _ => true
  | _ => false

/-- A whole number of the given sign, a real one where the sign does not let it
be whole. -/
def wholeNumber (isNegative : Bool) (magnitude : Nat) : Option Number :=
  if isNegative then
    if magnitude = 0 || magnitude > UInt64.size / 2 then
      (Binary64.ofDecimal? magnitude 0).map (.real true)
    else some (.negative magnitude)
  else some (.natural magnitude)

/-- A number from its first digit on. Leading zeros break the text. -/
def readNumber? (isNegative : Bool) (input : List Char) : Option (Number × List Char) := do
  let (digits, rest) := splitDigits input
  if digits.isEmpty || (digits.head? == some '0' && digits.length > 1) then none
  else
    let (significand, unused) := takeSignificand 0 digits
    if unused.isEmpty && !continuesNumber rest then
      return (← wholeNumber isNegative significand, rest)
    else
      let (magnitude, rest) ← readFraction? significand unused.length rest
      return (.real isNegative magnitude, rest)

/-! Values. -/

def intact {α : Type} (construct : α → Document) : Option (α × List Char) → Reading Document
  | some (value, rest) => (construct value, some rest)
  | none => (.broken, none)

def readWord (word : List Char) (value : Document) (input : List Char) : Reading Document :=
  if word.isPrefixOf input then (value, some (input.drop word.length)) else (.broken, none)

/-- The items of a list from the first on; `fuel` bounds their number. -/
def readItems (item : List Char → Reading Document) :
    (fuel : Nat) → List Char → Reading (List Document)
  | 0, _ => ([.broken], none)
  | fuel + 1, input =>
      match item input with
      | (value, none) => ([value], none)
      | (value, some rest) =>
          match skipBlanks rest with
          | ']' :: rest => ([value], some rest)
          | ',' :: rest =>
              let (values, rest) := readItems item fuel rest
              (value :: values, rest)
          | _ => ([value, .broken], none)

def readMembers (item : List Char → Reading Document) :
    (fuel : Nat) → List Char → Reading (List (String × Document))
  | 0, _ => ([], none)
  | fuel + 1, input =>
      match skipBlanks input with
      | '"' :: rest =>
          match readString? [] rest with
          | none => ([], none)
          | some (key, rest) =>
              match skipBlanks rest with
              | ':' :: rest =>
                  match item rest with
                  | (value, none) => ([(key, value)], none)
                  | (value, some rest) =>
                      match skipBlanks rest with
                      | '\x7d' :: rest => ([(key, value)], some rest)
                      | ',' :: rest =>
                          let (members, rest) := readMembers item fuel rest
                          ((key, value) :: members, rest)
                      | _ => ([(key, value)], none)
              | _ => ([(key, .broken)], none)
      | _ => ([], none)

def readList (item : List Char → Reading Document) (fuel : Nat) (input : List Char) :
    Reading Document :=
  match skipBlanks input with
  | ']' :: rest => (.list [], some rest)
  | _ =>
      let (items, rest) := readItems item fuel input
      (.list items, rest)

def readRecord (item : List Char → Reading Document) (fuel : Nat) (input : List Char) :
    Reading Document :=
  match skipBlanks input with
  | '\x7d' :: rest => (.record [] true, some rest)
  | _ =>
      let (members, rest) := readMembers item fuel input
      (.record members rest.isSome, rest)

/-- A value after any blanks, with the reader for the values inside it, if values
may stand inside it at all; `fuel` bounds their number. -/
def readValue (inside : Option (List Char → Reading Document)) (fuel : Nat)
    (input : List Char) : Reading Document :=
  match skipBlanks input with
  | 'n' :: rest => readWord ['u', 'l', 'l'] .null rest
  | 't' :: rest => readWord ['r', 'u', 'e'] (.boolean true) rest
  | 'f' :: rest => readWord ['a', 'l', 's', 'e'] (.boolean false) rest
  | '"' :: rest => intact .text (readString? [] rest)
  | '-' :: rest => intact .number (readNumber? true rest)
  | '[' :: rest =>
      match inside with
      | some item => readList item fuel rest
      | none => (.broken, none)
  | '\x7b' :: rest =>
      match inside with
      | some item => readRecord item fuel rest
      | none => (.broken, none)
  | rest => intact .number (readNumber? false rest)

def readNested (fuel : Nat) : (depth : Nat) → List Char → Reading Document
  | 0 => readValue none fuel
  | depth + 1 => readValue (some (readNested fuel depth)) fuel

/-- Deeper nesting breaks the text. -/
def depthLimit : Nat := 127

/-- The document that a text begins with, and whether nothing but blanks follows.
A value has no more values inside it than characters. -/
def ofText (text : String) : Document × Bool :=
  let input := text.toList
  match readNested input.length depthLimit input with
  | (document, none) => (document, false)
  | (document, some rest) => (document, (skipBlanks rest).isEmpty)

end MemoryFabric.Document
