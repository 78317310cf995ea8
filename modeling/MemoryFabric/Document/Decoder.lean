import MemoryFabric.Document.Flaw
import MemoryFabric.Document.Reader
import MemoryFabric.Quantity.Latency

/-! Values from documents. A decoder looks at a document in the order of its text
and names the first fault it meets there. -/

namespace MemoryFabric

abbrev Decoder (α : Type) := Document → Except Flaw α

namespace Decoder

open Document

def refuse {α : Type} (expected : String) : Decoder α
  | .broken => .error .malformed
  | document => .error (.wrongType document.description expected)

def natural (expected : String) (greatest : Nat) : Decoder Nat
  | .number (.natural value) =>
      if value ≤ greatest then .ok value
      else .error (.wrongNumber (Number.natural value).description expected)
  | .number (.negative magnitude) =>
      .error (.wrongNumber (Number.negative magnitude).description expected)
  | document => refuse expected document

def count : Decoder Nat := natural "usize" (UInt64.size - 1)

def word : Decoder UInt64 := fun document =>
  (natural "u64" (UInt64.size - 1) document).map UInt64.ofNat

def halfWord : Decoder Nat := natural "u32" (UInt32.size - 1)

def boolean : Decoder Bool
  | .boolean value => .ok value
  | document => refuse "a boolean" document

def textOf (expected : String) : Decoder String
  | .text value => .ok value
  | document => refuse expected document

def text : Decoder String := textOf "a string"

def path : Decoder String := textOf "path string"

def list {α : Type} (item : Decoder α) : Decoder (List α)
  | .list items => items.mapM item
  | document => refuse "a sequence" document

/-- Every member of a record, in order; a name may occur again. -/
def members {α : Type} (value : Decoder α) : Decoder (List (String × α))
  | .record members complete => do
      let decoded ← members.mapM fun member => do return (member.1, ← value member.2)
      if complete then .ok decoded else .error .malformed
  | document => refuse "a map" document

def optional {α : Type} (value : Decoder α) : Decoder (Option α)
  | .null => .ok none
  | document => (value document).map some

def nothing : Decoder Unit
  | .null => .ok ()
  | document => refuse "unit" document

/-- One of several named values: its name, or a record with its name as the only
key and nothing as the value. -/
def choice {α : Type} (options : List (String × α)) : Decoder α :=
  let select : String → Except Flaw α := fun name =>
    match options.find? (·.1 == name) with
    | some option => .ok option.2
    | none => .error (.unknownVariant name (options.map (·.1)))
  fun document =>
    match document with
    | .text name => select name
    | .record ((name, value) :: rest) complete => do
        let selected ← select name
        nothing value
        if rest.isEmpty && complete then .ok selected else .error .malformed
    | _ => .error .malformed

/-- A quantity is a whole number or a text. Its document is looked at as a whole,
so a break in it comes before anything else. -/
def quantity {α : Type} (ofWord : UInt64 → α) (ofText? : String → Option α) : Decoder α
  | .number (.natural value) =>
      if value < UInt64.size then .ok (ofWord (UInt64.ofNat value)) else .error .noQuantity
  | .text value =>
      match ofText? value with
      | some quantity => .ok quantity
      | none => .error (.unreadableQuantity value)
  | document => .error (if document.isWhole then .noQuantity else .malformed)

def size : Decoder ByteSize := quantity ByteSize.mk ByteSize.ofText?

def latency : Decoder Latency := quantity Latency.ofNanoseconds Latency.ofText?

/-- The value of a whole text: the document in front is decoded first, and only
blanks may follow it. -/
def run {α : Type} (decoder : Decoder α) (text : String) : Except Flaw α := do
  let (document, isAlone) := Document.ofText text
  let value ← decoder document
  if isAlone then .ok value else .error .malformed

end Decoder

/-! Records with declared fields. Decoding one starts from a value that has
everything a document may leave out, and puts the fields that the document has
in their places. -/

structure Field (σ : Type) where
  name : String
  put : Document → σ → Except Flaw σ

def Field.ofDecoder {σ α : Type} (name : String) (decoder : Decoder α) (store : α → σ → σ) :
    Field σ :=
  ⟨name, fun document state => (decoder document).map fun value => store value state⟩

structure Layout (σ : Type) where
  title : String
  /-- The fields in the order in which a list gives their values. -/
  fields : List (Field σ)
  required : List String
  /-- How many values a list must have. -/
  leading : Nat
  distinct : (fields.map Field.name).Nodup := by decide

namespace Layout

variable {σ : Type}

def fieldNames (layout : Layout σ) : List String :=
  layout.fields.map Field.name

/-- The members put in their places one after another, and their names, last
first. A name is looked at before its value. -/
def putMembers (layout : Layout σ) (seen : List String) :
    List (String × Document) → σ → Except Flaw (List String × σ)
  | [], state => .ok (seen, state)
  | (name, value) :: rest, state =>
      match layout.fields.find? (·.name == name) with
      | none => .error (.unknownField name layout.fieldNames)
      | some field =>
          if seen.contains name then .error (.duplicateField name)
          else do
            let state ← field.put value state
            layout.putMembers (name :: seen) rest state

def putItems (layout : Layout σ) (done : Nat) :
    List (Field σ) → List Document → σ → Except Flaw σ
  | [], [], state => .ok state
  | [], _ :: _, _ => .error .malformed
  | _ :: _, [], state =>
      if done < layout.leading then
        .error (.wrongLength done (layout.title ++ s!" with {layout.fields.length} elements"))
      else .ok state
  | field :: fields, value :: values, state => do
      let state ← field.put value state
      layout.putItems (done + 1) fields values state

/-- The end of a record with the names `seen`: its text must not break before, and no
required name may be missing. -/
def finish (layout : Layout σ) (complete : Bool) (seen : List String) (state : σ) :
    Except Flaw σ :=
  if !complete then .error .malformed
  else
    match layout.required.find? (!seen.contains ·) with
    | some name => .error (.missingField name)
    | none => .ok state

def overlay (layout : Layout σ) (start : σ) : Decoder σ
  | .record members complete => do
      let (seen, state) ← layout.putMembers [] members start
      layout.finish complete seen state
  | .list items => layout.putItems 0 layout.fields items start
  | document => Decoder.refuse layout.title document

end Layout

end MemoryFabric
