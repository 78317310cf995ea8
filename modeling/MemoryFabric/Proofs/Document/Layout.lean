import MemoryFabric.Proofs.Document.Values

/-! Records with declared fields: which members such a record takes, and what its
settings are then. The order of the members is immaterial, since each field has a
place of its own. -/

namespace MemoryFabric

variable {σ α β : Type}

/-! ## Fields -/

namespace Field

variable {name : String} {decoder : Decoder α} {store : α → σ → σ} {document : Document}
  {before after : σ}

def Accepts (field : Field σ) (document : Document) : Prop :=
  ∀ before, ∃ after, field.put document before = .ok after

/-- Whatever the field takes, the setting is what the decoder gives. -/
def Fills (field : Field σ) (decoder : Decoder α) (part : σ → α) : Prop :=
  ∀ document before after, field.put document before = .ok after →
    decoder document = .ok (part after)

def Keeps (field : Field σ) (part : σ → α) : Prop :=
  ∀ document before after, field.put document before = .ok after → part after = part before

@[simp] theorem name_ofDecoder : (ofDecoder name decoder store).name = name := rfl

theorem put_ofDecoder_eq_ok_iff :
    (ofDecoder name decoder store).put document before = .ok after ↔
      ∃ value, decoder document = .ok value ∧ store value before = after :=
  map_eq_ok_iff

@[simp] theorem fills_ofDecoder {part : σ → α}
    (stored : ∀ value state, part (store value state) = value) :
    (ofDecoder name decoder store).Fills decoder part := by
  intro document before after put
  rcases put_ofDecoder_eq_ok_iff.mp put with ⟨value, decoded, rfl⟩
  rw [stored, decoded]

@[simp] theorem keeps_ofDecoder {part : σ → β}
    (kept : ∀ value state, part (store value state) = part state) :
    (ofDecoder name decoder store).Keeps part := by
  intro document before after put
  rcases put_ofDecoder_eq_ok_iff.mp put with ⟨value, -, rfl⟩
  exact kept value before

theorem accepts_ofDecoder {value : α} (decoded : decoder document = .ok value) :
    (ofDecoder name decoder store).Accepts document :=
  fun before => ⟨store value before, put_ofDecoder_eq_ok_iff.mpr ⟨value, decoded, rfl⟩⟩

theorem accepts_of_valued {means : Document → α → Prop} (exact : decoder.Exact means) :
    ∀ document, Valued means document → (ofDecoder name decoder store).Accepts document := by
  intro document valued
  rcases valued with ⟨value, meant⟩
  exact accepts_ofDecoder ((exact document value).mpr meant)

theorem accepts_of_orNull {means : Document → α → Prop} {store : Option α → σ → σ}
    (exact : decoder.Exact means) :
    ∀ document, OrNull (Valued means) document →
      (ofDecoder name decoder.optional store).Accepts document :=
  fun document allowed =>
    accepts_of_valued (Decoder.optional_exact exact) document (Document.valued_isOptional allowed)

end Field

namespace Layout

variable {layout : Layout σ} {name : String} {document : Document} {members rest : Members}
  {start before after state : σ} {seen names : List String}

/-! ## Members put in their places -/

inductive Puts (layout : Layout σ) : Members → σ → σ → Prop where
  | nil {state : σ} : Puts layout [] state state
  | cons {field : Field σ} {document : Document} {rest : Members} {before between after : σ}
      (declared : field ∈ layout.fields) (put : field.put document before = .ok between)
      (others : Puts layout rest between after) :
      Puts layout ((field.name, document) :: rest) before after

theorem find?_name_eq_some_iff (field : Field σ) :
    layout.fields.find? (·.name == name) = some field ↔
      field ∈ layout.fields ∧ field.name = name :=
  find?_key_eq_some_iff layout.distinct name field

theorem putMembers_cons_eq_ok_iff {result : List String × σ} :
    layout.putMembers seen ((name, document) :: rest) before = .ok result ↔
      ∃ field, layout.fields.find? (·.name == name) = some field ∧ name ∉ seen ∧
        ∃ between, field.put document before = .ok between ∧
          layout.putMembers (name :: seen) rest between = .ok result := by
  rw [putMembers]
  cases layout.fields.find? (·.name == name) with
  | none => simp
  | some field =>
      by_cases again : name ∈ seen
      · simp [again]
      · simp [again, bind_eq_ok_iff]

theorem puts_cons_iff :
    layout.Puts ((name, document) :: rest) before after ↔
      ∃ field ∈ layout.fields, field.name = name ∧
        ∃ between, field.put document before = .ok between ∧ layout.Puts rest between after := by
  constructor
  · intro puts
    cases puts with
    | cons declared put others => exact ⟨_, declared, rfl, _, put, others⟩
  · intro puts
    rcases puts with ⟨field, declared, rfl, between, put, others⟩
    exact .cons declared put others

theorem putMembers_eq_ok_iff (fresh : seen.Nodup) :
    layout.putMembers seen members start = .ok (names, state) ↔
      names = (members.map Prod.fst).reverse ++ seen ∧ names.Nodup ∧
        layout.Puts members start state := by
  induction members generalizing seen start with
  | nil =>
      rw [putMembers]
      constructor
      · intro put
        cases put
        exact ⟨rfl, fresh, .nil⟩
      · intro put
        rcases put with ⟨rfl, -, puts⟩
        cases puts
        rfl
  | cons first rest induction =>
      rcases first with ⟨name, document⟩
      -- Names are gathered last first, in front of those that were seen before.
      have order : (((name, document) :: rest).map Prod.fst).reverse ++ seen =
          (rest.map Prod.fst).reverse ++ (name :: seen) := by
        simp
      rw [putMembers_cons_eq_ok_iff, puts_cons_iff, order]
      simp only [find?_name_eq_some_iff]
      constructor
      · intro put
        rcases put with ⟨field, declared, new, between, here, others⟩
        rw [induction (List.nodup_cons.mpr ⟨new, fresh⟩)] at others
        exact ⟨others.1, others.2.1, field, declared.1, declared.2, between, here, others.2.2⟩
      · intro put
        rcases put with ⟨rfl, once, field, declared, named, between, here, others⟩
        have new : (name :: seen).Nodup := once.of_append_right
        refine ⟨field, ⟨declared, named⟩, (List.nodup_cons.mp new).1, between, here, ?_⟩
        rw [induction new]
        exact ⟨rfl, once, others⟩

theorem finish_eq_ok_iff {complete : Bool} :
    layout.finish complete seen before = .ok after ↔
      complete = true ∧ (∀ name ∈ layout.required, name ∈ seen) ∧ before = after := by
  rw [finish]
  cases complete with
  | false => simp
  | true =>
      cases missing : layout.required.find? (!seen.contains ·) with
      | none =>
          rw [List.find?_eq_none] at missing
          simpa using fun _ => missing
      | some name =>
          have absent := List.find?_some missing
          have required := List.mem_of_find?_eq_some missing
          simp only [Bool.not_true, Bool.false_eq_true, if_false, reduceCtorEq, false_iff]
          intro finished
          simp [finished.2.1 name required] at absent

/-- A record is decoded if it is whole, no member comes twice, none that is required
is missing, and each can be put in its place. -/
theorem overlay_record_eq_ok_iff {complete : Bool} :
    layout.overlay start (.record members complete) = .ok state ↔
      complete = true ∧ (members.map Prod.fst).Nodup ∧
        (∀ name ∈ layout.required, name ∈ members.map Prod.fst) ∧
        layout.Puts members start state := by
  rw [overlay, bind_eq_ok_iff]
  simp only [Prod.exists, putMembers_eq_ok_iff List.nodup_nil, List.append_nil]
  constructor
  · intro made
    rcases made with ⟨seen, other, ⟨rfl, once, puts⟩, finished⟩
    rcases finish_eq_ok_iff.mp finished with ⟨whole, present, rfl⟩
    exact ⟨whole, by simpa using once, by simpa using present, puts⟩
  · intro made
    rcases made with ⟨whole, once, present, puts⟩
    exact ⟨_, state, ⟨rfl, by simpa using once, puts⟩,
      finish_eq_ok_iff.mpr ⟨whole, by simpa using present, rfl⟩⟩

theorem Puts.exists_put (puts : layout.Puts members before after)
    (member : (name, document) ∈ members) :
    ∃ field ∈ layout.fields, field.name = name ∧
      ∃ state next, field.put document state = .ok next := by
  induction puts with
  | nil => cases member
  | cons declared put others induction =>
      rcases List.mem_cons.mp member with same | later
      · cases same
        exact ⟨_, declared, rfl, _, _, put⟩
      · exact induction later

/-! ## Settings -/

/-- `part` is the setting that the field with the name decides; no other field touches it. -/
def Slot (layout : Layout σ) (name : String) (decoder : Decoder α) (part : σ → α) : Prop :=
  ∀ field ∈ layout.fields,
    if field.name = name then field.Fills decoder part else field.Keeps part

section

variable {decoder : Decoder α} {part : σ → α}

theorem Slot.kept (slot : layout.Slot name decoder part) (puts : layout.Puts members before after)
    (absent : name ∉ members.map Prod.fst) : part after = part before := by
  induction puts with
  | nil => rfl
  | cons declared put others induction =>
      rw [List.map_cons, List.mem_cons, not_or] at absent
      have keeps := slot _ declared
      rw [if_neg (Ne.symm absent.1)] at keeps
      rw [induction absent.2, keeps _ _ _ put]

/-- A setting is what the members tell of it, wherever among them its own one stands. -/
theorem Slot.told {means : Document → α → Prop} (slot : layout.Slot name decoder part)
    (exact : decoder.Exact means) (puts : layout.Puts members before after)
    (once : (members.map Prod.fst).Nodup) :
    Told members name means (part before) (part after) := by
  induction puts with
  | nil => rfl
  | @cons field document rest before between after declared put others induction =>
      rw [List.map_cons, List.nodup_cons] at once
      have own := slot field declared
      by_cases same : name = field.name
      · subst same
        rw [if_pos rfl] at own
        have meant := (exact document _).mp (own _ _ _ put)
        rw [slot.kept others once.1]
        simpa [Told] using meant
      · rw [if_neg (Ne.symm same)] at own
        rw [told_cons_of_ne same, ← own _ _ _ put]
        exact induction once.2

/-- A section is made of what is put in its places from its own members alone. It may be left
out if nothing but what it falls back to is what was there before. -/
theorem Slot.section {τ : Type} {parts : Layout τ} {schema : Schema} {fallback : τ}
    {complete : τ → α} (slot : layout.Slot name decoder part)
    (decodes : ∀ document value, decoder document = .ok value →
      ∃ written, parts.overlay fallback document = .ok written ∧ complete written = value)
    (agree : complete fallback = part before) (puts : layout.Puts members before after)
    (once : (members.map Prod.fst).Nodup)
    (allowed : ∀ document, (name, document) ∈ members → schema.AllowsRecord document) :
    ∃ written, parts.Puts (sectionMembers members name) fallback written ∧
      complete written = part after := by
  have told := slot.told decoder.exact_self puts once
  rw [Told] at told
  rw [sectionMembers]
  cases found : members.lookup name with
  | none =>
      simp only [found] at told
      exact ⟨fallback, .nil, agree.trans told.symm⟩
  | some document =>
      rcases allowed document (mem_of_lookup found) with ⟨inner, rfl, -⟩
      simp only [found] at told
      rcases decodes _ _ told with ⟨written, made, completed⟩
      exact ⟨written, (overlay_record_eq_ok_iff.mp made).2.2.2, completed⟩

end

/-! ## Records that are taken -/

/-- The fields have the names of the schema, in its order, and take what it allows. -/
def Follows (layout : Layout σ) (schema : Schema) : Prop :=
  List.Forall₂ (fun field entry => field.name = entry.1 ∧
    ∀ document, entry.2 document → field.Accepts document) layout.fields schema

variable {schema : Schema}

theorem Follows.fieldNames_eq (follows : layout.Follows schema) :
    layout.fieldNames = schema.names := by
  rw [fieldNames, Schema.names, ← List.forall₂_eq_eq_eq, List.forall₂_map_left_iff,
    List.forall₂_map_right_iff]
  exact follows.imp fun _ _ both => both.1

theorem Follows.exists_field (follows : layout.Follows schema) {entry : String × (Document → Prop)}
    (listed : entry ∈ schema) :
    ∃ field ∈ layout.fields, field.name = entry.1 ∧
      ∀ document, entry.2 document → field.Accepts document := by
  rw [Follows, List.forall₂_iff_get] at follows
  rcases List.getElem_of_mem listed with ⟨index, inside, rfl⟩
  have inFields : index < layout.fields.length := follows.1 ▸ inside
  exact ⟨_, List.getElem_mem inFields, follows.2 index inFields inside⟩

theorem exists_puts (declared : ∀ member ∈ members, ∃ field ∈ layout.fields,
    field.name = member.1 ∧ field.Accepts member.2) (start : σ) :
    ∃ state, layout.Puts members start state := by
  induction members generalizing start with
  | nil => exact ⟨start, .nil⟩
  | cons first rest induction =>
      rw [List.forall_mem_cons] at declared
      rcases declared with ⟨⟨field, mem, named, accepts⟩, others⟩
      rcases accepts start with ⟨between, put⟩
      rcases induction others between with ⟨state, puts⟩
      exact ⟨state, puts_cons_iff.mpr ⟨field, mem, named, between, put, puts⟩⟩

theorem Follows.exists_overlay (follows : layout.Follows schema) (allows : schema.Allows members)
    (required : ∀ name ∈ layout.required, name ∈ members.map Prod.fst) (start : σ) :
    ∃ state, layout.overlay start (.record members true) = .ok state := by
  have declared : ∀ member ∈ members, ∃ field ∈ layout.fields,
      field.name = member.1 ∧ field.Accepts member.2 := by
    intro member written
    rcases member with ⟨name, document⟩
    rcases List.mem_map.mp (allows.declared _ written) with ⟨entry, listed, rfl⟩
    rcases follows.exists_field listed with ⟨field, mem, named, accepts⟩
    exact ⟨field, mem, named, accepts document (allows.accepted entry listed document written)⟩
  rcases exists_puts declared start with ⟨state, puts⟩
  exact ⟨state, overlay_record_eq_ok_iff.mpr ⟨rfl, allows.once, required, puts⟩⟩

theorem Follows.exists_overlay_record (follows : layout.Follows schema)
    (free : layout.required = []) (start : σ) (allows : schema.AllowsRecord document) :
    ∃ state, layout.overlay start document = .ok state := by
  rcases allows with ⟨members, rfl, allows⟩
  exact follows.exists_overlay allows (by simp [free]) start

/-! ## Records that are refused -/

theorem exists_put_of_putItems {fields : List (Field σ)} {items : List Document} {done : Nat}
    {value : Document} (made : layout.putItems done fields items start = .ok state)
    (written : (name, value) ∈ (fields.map Field.name).zip items) :
    ∃ field ∈ fields, field.name = name ∧ ∃ before after, field.put value before = .ok after := by
  induction fields generalizing items done start with
  | nil => simp at written
  | cons field fields induction =>
      cases items with
      | nil => simp at written
      | cons item items =>
          rw [putItems, bind_eq_ok_iff] at made
          rcases made with ⟨between, put, others⟩
          rw [List.map_cons, List.zip_cons_cons, List.mem_cons] at written
          rcases written with same | later
          · cases same
            exact ⟨field, List.mem_cons_self, rfl, start, between, put⟩
          · rcases induction others later with ⟨other, declared, found⟩
            exact ⟨other, List.mem_cons_of_mem field declared, found⟩

/-- Where a document is decoded, so is every value in it, by the field in whose place it stands. -/
theorem Follows.exists_put (follows : layout.Follows schema) {value : Document}
    (holds : Document.Holds schema.names name document value)
    (made : layout.overlay start document = .ok state) :
    ∃ field ∈ layout.fields, field.name = name ∧
      ∃ before after, field.put value before = .ok after := by
  rw [← follows.fieldNames_eq] at holds
  cases holds with
  | member written => exact (overlay_record_eq_ok_iff.mp made).2.2.2.exists_put written
  | item written => exact exists_put_of_putItems made written

theorem Follows.exists_decoded (follows : layout.Follows schema) {decoder : Decoder α}
    {part : σ → α} {value : Document} (slot : layout.Slot name decoder part)
    (holds : Document.Holds schema.names name document value)
    (made : layout.overlay start document = .ok state) :
    ∃ result, decoder value = .ok result := by
  rcases follows.exists_put holds made with ⟨field, declared, named, before, after, put⟩
  have fills := slot field declared
  rw [if_pos named] at fills
  exact ⟨_, fills _ _ _ put⟩

theorem Follows.not_misnames (follows : layout.Follows schema)
    (made : layout.overlay start document = .ok state) :
    ¬ Document.Misnames schema.names document := by
  rw [← follows.fieldNames_eq]
  cases document with
  | record members complete =>
      intro misnames
      rcases misnames with ⟨⟨name, value⟩, member, undeclared⟩
      have puts := (overlay_record_eq_ok_iff.mp made).2.2.2
      rcases puts.exists_put member with ⟨field, declared, named, -⟩
      exact undeclared (named ▸ List.mem_map_of_mem declared)
  | _ => exact id

theorem Follows.not_misnames_inside {τ : Type} {parts : Layout τ} {inner : Schema}
    {fallback : τ} {part : σ → τ} {value : Document} (follows : layout.Follows schema)
    (partsFollow : parts.Follows inner) (slot : layout.Slot name (parts.overlay fallback) part)
    (holds : Document.Holds schema.names name document value)
    (made : layout.overlay start document = .ok state) :
    ¬ Document.Misnames inner.names value := by
  rcases follows.exists_decoded slot holds made with ⟨_, decoded⟩
  exact partsFollow.not_misnames decoded

end Layout

end MemoryFabric
