import MemoryFabric.Document.Decoder
import MemoryFabric.Proofs.Document.Schema
import MemoryFabric.Proofs.FirstFault
import MemoryFabric.Proofs.Quantity.LatencyText
import MemoryFabric.Proofs.Quantity.SizeText

/-! What documents say. For each kind of value a relation tells which documents stand for which
values; the decoder of the kind gives exactly these. -/

namespace MemoryFabric

variable {α : Type}

namespace Document

inductive IsNatural (greatest : Nat) : Document → Nat → Prop where
  | number {value : Nat} (bounded : value ≤ greatest) :
      IsNatural greatest (.number (.natural value)) value

inductive IsWord : Document → UInt64 → Prop where
  | number (value : UInt64) : IsWord (.number (.natural value.toNat)) value

inductive IsBoolean : Document → Bool → Prop where
  | boolean (value : Bool) : IsBoolean (.boolean value) value

inductive IsText : Document → String → Prop where
  | text (value : String) : IsText (.text value) value

/-- A size is written as a number of bytes or as a text that states one. -/
inductive IsSize : Document → ByteSize → Prop where
  | number (size : ByteSize) : IsSize (.number (.natural size.bytes.toNat)) size
  | text {text : String} {size : ByteSize} (states : ByteSize.States text size.bytes.toNat) :
      IsSize (.text text) size

/-- A delay is written as a number of nanoseconds or as a text that states one. -/
inductive IsLatency : Document → Latency → Prop where
  | number {latency : Latency} (fits : latency.toNanoseconds < 2 ^ 64) :
      IsLatency (.number (.natural latency.toNanoseconds)) latency
  | text {text : String} {latency : Latency}
      (states : Latency.States text latency.toNanoseconds) : IsLatency (.text text) latency

inductive IsList (means : Document → α → Prop) : Document → List α → Prop where
  | list {items : List Document} {values : List α} (each : List.Forall₂ means items values) :
      IsList means (.list items) values

inductive IsMap (means : Document → α → Prop) : Document → List (String × α) → Prop where
  | record {members : Members} {entries : List (String × α)}
      (each : List.Forall₂ (fun member entry => member.1 = entry.1 ∧ means member.2 entry.2)
        members entries) : IsMap means (.record members true) entries

/-- One of several values by its name, or by a record with the name over null. -/
inductive IsChoice (options : List (String × α)) : Document → α → Prop where
  | name {name : String} {value : α} (listed : (name, value) ∈ options) :
      IsChoice options (.text name) value
  | key {name : String} {value : α} (listed : (name, value) ∈ options) :
      IsChoice options (.record [(name, .null)] true) value

inductive IsOptional (means : Document → α → Prop) : Document → Option α → Prop where
  | null : IsOptional means .null none
  | written {document : Document} {value : α} (present : document ≠ .null)
      (meant : means document value) : IsOptional means document (some value)

theorem valued_isOptional {means : Document → α → Prop} {document : Document}
    (allowed : OrNull (Valued means) document) : Valued (IsOptional means) document := by
  by_cases absent : document = .null
  · subst absent
    exact ⟨none, .null⟩
  · rcases allowed.resolve_left absent with ⟨value, meant⟩
    exact ⟨some value, .written absent meant⟩

section Optional

variable {β : Type} {means : Document → α → Prop} {members : Members} {name : String}
  {written : Option α}

theorem toldUnlessNull_of_optional {other : Document → β → Prop} {reference value : β}
    (told : Told members name (IsOptional means) none written)
    (absent : written = none → value = reference)
    (present : ∀ document result, (name, document) ∈ members → written = some result →
      means document result → other document value) :
    ToldUnlessNull members name other reference value := by
  rw [Told] at told
  rw [ToldUnlessNull]
  cases found : members.lookup name with
  | none =>
      simp only [found] at told
      exact absent told
  | some document =>
      simp only [found] at told
      cases told with
      | null => exact absent rfl
      | written notNull meant =>
          have result := present document _ (mem_of_lookup found) rfl meant
          cases document with
          | null => exact absurd rfl notNull
          | _ => exact result

theorem toldUnlessNull_getD (told : Told members name (IsOptional means) none written)
    (reference : α) : ToldUnlessNull members name means reference (written.getD reference) := by
  apply toldUnlessNull_of_optional told
  · intro absent
    rw [absent]
    rfl
  · intro document result _ same meant
    rw [same]
    exact meant

theorem toldUnlessNull_some (told : Told members name (IsOptional means) none written) :
    ToldUnlessNull members name (fun document value => ∃ result, means document result ∧
      value = some result) none written :=
  toldUnlessNull_of_optional told id fun _ result _ same meant => ⟨result, meant, same⟩

end Optional

end Document

/-! ## Decoders -/

namespace Decoder

open Document

def Exact (decoder : Decoder α) (means : Document → α → Prop) : Prop :=
  ∀ document value, decoder document = .ok value ↔ means document value

variable {document : Document} {expected : String} {decoder : Decoder α}
  {means : Document → α → Prop}

theorem exact_self (decoder : Decoder α) :
    decoder.Exact fun document value => decoder document = .ok value :=
  fun _ _ => Iff.rfl

theorem refuse_ne_ok (value : α) : refuse expected document ≠ .ok value := by
  cases document <;> exact nofun

theorem natural_exact (greatest : Nat) :
    (natural expected greatest).Exact (IsNatural greatest) := by
  intro document value
  constructor
  · intro decoded
    rw [natural.eq_def] at decoded
    split at decoded
    case h_1 =>
      split at decoded
      case isTrue bounded =>
        cases decoded
        exact .number bounded
      case isFalse => cases decoded
    case h_2 => cases decoded
    case h_3 => exact absurd decoded (refuse_ne_ok value)
  · intro written
    cases written with
    | number bounded => exact if_pos bounded

theorem word_exact : word.Exact IsWord := by
  intro document value
  rw [word, map_eq_ok_iff]
  constructor
  · intro decoded
    rcases decoded with ⟨number, read, rfl⟩
    cases (natural_exact _ _ _).mp read with
    | number bounded =>
        have fits : number < UInt64.size := Nat.lt_of_le_pred (by decide) bounded
        have written := IsWord.number (UInt64.ofNat number)
        rwa [UInt64.toNat_ofNat_of_lt' fits] at written
  · intro written
    cases written
    have bounded : value.toNat ≤ UInt64.size - 1 := Nat.le_pred_of_lt value.toNat_lt
    exact ⟨value.toNat, (natural_exact _ _ _).mpr (.number bounded), UInt64.ofNat_toNat⟩

theorem boolean_exact : boolean.Exact IsBoolean := by
  intro document value
  constructor
  · intro decoded
    rw [boolean.eq_def] at decoded
    split at decoded
    case h_1 =>
      cases decoded
      exact .boolean value
    case h_2 => exact absurd decoded (refuse_ne_ok value)
  · intro written
    cases written
    rfl

theorem textOf_exact : (textOf expected).Exact IsText := by
  intro document value
  constructor
  · intro decoded
    rw [textOf.eq_def] at decoded
    split at decoded
    case h_1 =>
      cases decoded
      exact .text value
    case h_2 => exact absurd decoded (refuse_ne_ok value)
  · intro written
    cases written
    rfl

theorem list_exact (exact : decoder.Exact means) : (list decoder).Exact (IsList means) := by
  intro document values
  constructor
  · intro decoded
    rw [list.eq_def] at decoded
    split at decoded
    case h_1 items =>
      rw [mapM_eq_ok_iff] at decoded
      exact .list (decoded.imp fun item value => (exact item value).mp)
    case h_2 => exact absurd decoded (refuse_ne_ok values)
  · intro written
    cases written with
    | list each =>
        exact mapM_eq_ok_iff.mpr (each.imp fun item value => (exact item value).mpr)

theorem members_exact (exact : decoder.Exact means) : (members decoder).Exact (IsMap means) := by
  have member_exact (member : String × Document) (entry : String × α) :
      (do return (member.1, ← decoder member.2) : Except Flaw _) = .ok entry ↔
        member.1 = entry.1 ∧ means member.2 entry.2 := by
    rw [bind_eq_ok_iff, ← exact]
    constructor
    · intro made
      rcases made with ⟨value, decoded, made⟩
      cases made
      exact ⟨rfl, decoded⟩
    · intro both
      refine ⟨entry.2, both.2, ?_⟩
      rw [both.1]
      rfl
  intro document entries
  constructor
  · intro decoded
    rw [members.eq_def] at decoded
    split at decoded
    case h_1 written complete =>
      rw [bind_eq_ok_iff] at decoded
      rcases decoded with ⟨others, each, whole⟩
      split at whole
      case isTrue finished =>
        cases whole
        rw [finished]
        rw [mapM_eq_ok_iff] at each
        exact .record (each.imp fun member entry => (member_exact member entry).mp)
      case isFalse => cases whole
    case h_2 => exact absurd decoded (refuse_ne_ok entries)
  · intro written
    cases written with
    | record each =>
        have decoded := each.imp fun member entry => (member_exact member entry).mpr
        rw [members, mapM_eq_ok_iff.mpr decoded]
        rfl

theorem optional_exact (exact : decoder.Exact means) :
    decoder.optional.Exact (IsOptional means) := by
  intro document value
  by_cases absent : document = .null
  · subst absent
    constructor
    · intro decoded
      cases decoded
      exact .null
    · intro written
      cases written with
      | null => rfl
      | written present => exact absurd rfl present
  · have unfolded : decoder.optional document = (decoder document).map some := by
      cases document with
      | null => exact absurd rfl absent
      | _ => rfl
    rw [unfolded, map_eq_ok_iff]
    constructor
    · intro made
      rcases made with ⟨result, decoded, rfl⟩
      exact .written absent ((exact document result).mp decoded)
    · intro written
      cases written with
      | null => exact absurd rfl absent
      | written _ meant => exact ⟨_, (exact document _).mpr meant, rfl⟩

theorem select_eq_ok_iff {options : List (String × α)} (distinct : (options.map Prod.fst).Nodup)
    (name : String) (value : α) :
    (match options.find? (·.1 == name) with
      | some option => .ok option.2
      | none => .error (.unknownVariant name (options.map (·.1))) : Except Flaw α) = .ok value ↔
        (name, value) ∈ options := by
  have found_iff := find?_key_eq_some_iff distinct name (name, value)
  rw [and_iff_left rfl] at found_iff
  rw [← found_iff]
  cases found : options.find? (·.1 == name) with
  | none => simp
  | some option =>
      have named : option.1 = name := by simpa using List.find?_some found
      simp [Prod.ext_iff, named]

theorem nothing_eq_ok_iff : nothing document = .ok () ↔ document = .null := by
  constructor
  · intro decoded
    rw [nothing.eq_def] at decoded
    split at decoded
    case h_1 => rfl
    case h_2 => exact absurd decoded (refuse_ne_ok ())
  · intro empty
    rw [empty]
    rfl

theorem choice_exact {options : List (String × α)} (distinct : (options.map Prod.fst).Nodup) :
    (choice options).Exact (IsChoice options) := by
  intro document value
  constructor
  · intro decoded
    dsimp only [choice] at decoded
    split at decoded
    case h_1 name => exact .name ((select_eq_ok_iff distinct name value).mp decoded)
    case h_2 name under rest complete =>
      rw [bind_eq_ok_iff] at decoded
      rcases decoded with ⟨selected, listed, decoded⟩
      rw [bind_eq_ok_iff] at decoded
      rcases decoded with ⟨_, empty, alone⟩
      split at alone
      case isTrue only =>
        cases alone
        rw [Bool.and_eq_true, List.isEmpty_iff] at only
        rw [nothing_eq_ok_iff.mp empty, only.1, only.2]
        exact .key ((select_eq_ok_iff distinct name value).mp listed)
      case isFalse => cases alone
    case h_3 => cases decoded
  · intro chosen
    cases chosen with
    | name listed => exact (select_eq_ok_iff distinct _ _).mpr listed
    | key listed =>
        have selected := (select_eq_ok_iff distinct _ _).mpr listed
        rw [choice]
        exact bind_eq_ok_iff.mpr ⟨value, selected, rfl⟩

theorem quantity_eq_ok_iff {ofWord : UInt64 → α} {ofText? : String → Option α} {value : α} :
    quantity ofWord ofText? document = .ok value ↔
      (∃ word : UInt64, document = .number (.natural word.toNat) ∧ ofWord word = value) ∨
        ∃ text, document = .text text ∧ ofText? text = some value := by
  constructor
  · intro decoded
    rw [quantity.eq_def] at decoded
    split at decoded
    case h_1 number =>
      split at decoded
      case isTrue fits =>
        refine Or.inl ⟨UInt64.ofNat number, ?_, Except.ok.inj decoded⟩
        rw [UInt64.toNat_ofNat_of_lt' fits]
      case isFalse => cases decoded
    case h_2 text =>
      split at decoded
      case h_1 read =>
        cases decoded
        exact Or.inr ⟨text, rfl, read⟩
      case h_2 => cases decoded
    case h_3 => cases decoded
  · intro written
    rcases written with ⟨word, rfl, rfl⟩ | ⟨text, rfl, read⟩
    · rw [quantity, if_pos word.toNat_lt, UInt64.ofNat_toNat]
    · rw [quantity, read]

theorem size_exact : size.Exact IsSize := by
  intro document value
  rw [size, quantity_eq_ok_iff]
  constructor
  · intro decoded
    rcases decoded with ⟨word, rfl, rfl⟩ | ⟨text, rfl, read⟩
    · exact .number ⟨word⟩
    · exact .text ((ByteSize.ofText?_eq_some_iff text value).mp read)
  · intro written
    cases written with
    | number => exact Or.inl ⟨value.bytes, rfl, rfl⟩
    | text states => exact Or.inr ⟨_, rfl, (ByteSize.ofText?_eq_some_iff _ value).mpr states⟩

theorem latency_exact : latency.Exact IsLatency := by
  have exact_nanoseconds (word : UInt64) :
      (Latency.ofNanoseconds word).toNanoseconds = word.toNat := by
    rw [Latency.ofNanoseconds, Latency.toNanoseconds_ofUnits]
    exact Nat.mul_one _
  intro document value
  rw [latency, quantity_eq_ok_iff]
  constructor
  · intro decoded
    rcases decoded with ⟨word, rfl, rfl⟩ | ⟨text, rfl, read⟩
    · rw [← exact_nanoseconds word]
      refine .number ?_
      rw [exact_nanoseconds]
      exact word.toNat_lt
    · exact .text ((Latency.ofText?_eq_some_iff text value).mp read)
  · intro written
    cases written with
    | number fits =>
        have word : (UInt64.ofNat value.toNanoseconds).toNat = value.toNanoseconds :=
          UInt64.toNat_ofNat_of_lt' fits
        refine Or.inl ⟨UInt64.ofNat value.toNanoseconds, by rw [word], ?_⟩
        rw [← Latency.toNanoseconds_inj, exact_nanoseconds, word]
    | text states => exact Or.inr ⟨_, rfl, (Latency.ofText?_eq_some_iff _ value).mpr states⟩

end Decoder

end MemoryFabric
