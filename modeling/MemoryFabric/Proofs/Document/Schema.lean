import Mathlib.Data.List.Nodup
import MemoryFabric.Document.Basic

/-! Records by their members. A schema has the names that a record may have and what may stand
under each of them. What the members tell of a setting is what stands under its name, wherever
among them that is. -/

namespace MemoryFabric

abbrev Members := List (String × Document)

variable {α : Type}

namespace Document

def members : Document → Members
  | .record members _ => members
  | _ => []

def Misnames (names : List String) : Document → Prop
  | .record members _ => ∃ member ∈ members, member.1 ∉ names
  | _ => False

/-- The document has `value` under the name, or in a list at the place that is the name's. -/
inductive Holds (names : List String) (name : String) : Document → Document → Prop where
  | member {members : Members} {complete : Bool} {value : Document}
      (written : (name, value) ∈ members) : Holds names name (.record members complete) value
  | item {items : List Document} {value : Document} (written : (name, value) ∈ names.zip items) :
      Holds names name (.list items) value

end Document

theorem find?_key_eq_some_iff {items : List α} {key : α → String}
    (distinct : (items.map key).Nodup) (name : String) (item : α) :
    items.find? (key · == name) = some item ↔ item ∈ items ∧ key item = name := by
  constructor
  · intro found
    exact ⟨List.mem_of_find?_eq_some found, by simpa using List.find?_some found⟩
  · intro both
    rcases both with ⟨listed, rfl⟩
    cases found : items.find? (key · == key item) with
    | none =>
        rw [List.find?_eq_none] at found
        exact absurd (beq_self_eq_true _) (found item listed)
    | some other =>
        have same : key other = key item := by simpa using List.find?_some found
        rw [List.inj_on_of_nodup_map distinct (List.mem_of_find?_eq_some found) listed same]

/-! ## Schemas -/

abbrev Schema := List (String × (Document → Prop))

def Valued (means : Document → α → Prop) (document : Document) : Prop :=
  ∃ value, means document value

def OrNull (allowed : Document → Prop) (document : Document) : Prop :=
  document = .null ∨ allowed document

namespace Schema

def names (schema : Schema) : List String :=
  schema.map Prod.fst

structure Allows (schema : Schema) (members : Members) : Prop where
  declared : ∀ member ∈ members, member.1 ∈ schema.names
  once : (members.map Prod.fst).Nodup
  accepted : ∀ entry ∈ schema, ∀ document, (entry.1, document) ∈ members → entry.2 document

def AllowsRecord (schema : Schema) (document : Document) : Prop :=
  ∃ members, document = .record members true ∧ schema.Allows members

end Schema

/-! ## What members tell -/

/-- The value is what the member with the name means, or the reference value without one. -/
def Told (members : Members) (name : String) (means : Document → α → Prop)
    (reference value : α) : Prop :=
  match members.lookup name with
  | some document => means document value
  | none => value = reference

/-- Null under the name is as good as no member. -/
def ToldUnlessNull (members : Members) (name : String) (means : Document → α → Prop)
    (reference value : α) : Prop :=
  match members.lookup name with
  | none | some .null => value = reference
  | some document => means document value

def sectionMembers (members : Members) (name : String) : Members :=
  ((members.lookup name).map Document.members).getD []

section

variable {members rest : Members} {name key : String} {document : Document}
  {means : Document → α → Prop} {reference value : α}

theorem mem_of_lookup (found : members.lookup name = some document) :
    (name, document) ∈ members := by
  rcases List.lookup_eq_some_iff.mp found with ⟨before, after, rfl, -⟩
  exact List.mem_append_right before List.mem_cons_self

theorem told_cons_of_ne (different : name ≠ key) :
    Told ((key, document) :: rest) name means reference value ↔
      Told rest name means reference value := by
  have other : (name == key) = false := by simpa using different
  simp only [Told, List.lookup_cons, other]

theorem Told.exists_document (told : Told members name means reference value)
    (named : name ∈ members.map Prod.fst) :
    ∃ document, members.lookup name = some document ∧ means document value := by
  rw [Told] at told
  cases found : members.lookup name with
  | none =>
      rcases List.mem_map.mp named with ⟨member, written, rfl⟩
      have absent := List.lookup_eq_none_iff.mp found member written
      simp at absent
  | some document =>
      simp only [found] at told
      exact ⟨document, rfl, told⟩

theorem Schema.allows_sectionMembers {schema : Schema}
    (allowed : ∀ document, (name, document) ∈ members → schema.AllowsRecord document) :
    schema.Allows (sectionMembers members name) := by
  rw [sectionMembers]
  cases found : members.lookup name with
  | none => exact ⟨by simp, List.nodup_nil, by simp⟩
  | some document =>
      rcases allowed document (mem_of_lookup found) with ⟨inner, rfl, allows⟩
      exact allows

end

end MemoryFabric
