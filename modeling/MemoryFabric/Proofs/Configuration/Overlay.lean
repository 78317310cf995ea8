import MemoryFabric.Configuration.Layout
import MemoryFabric.Proofs.Configuration.Description
import MemoryFabric.Proofs.Document.Layout

/-! A description overlays the reference machine: the machine that it describes has
every setting that is written, and those of the reference machine for the rest,
whether a setting is left out, a section, or the level of a cache. -/

namespace MemoryFabric

open Document

/-! ## What is left out

A setting that is left out alone is what it is in a section that is left out as a whole. -/

theorem SystemSettings.fallback_eq : SystemSettings.fallback = .reference := rfl

theorem MemorySettings.fallback_eq : MemorySettings.fallback = .reference := rfl

theorem BridgeSettings.fallback_eq : BridgeSettings.fallback = .reference := rfl

theorem CacheSettings.fallback_eq : CacheSettings.fallback = .reference := rfl

theorem Configuration.fallback_eq : Configuration.fallback = .reference := rfl

theorem CacheSection.empty_completedBy (level : CacheParameters) :
    CacheSection.empty.completedBy level = level := rfl

/-! ## Decoders of single settings -/

theorem Decoder.count_exact : Decoder.count.Exact (IsNatural (2 ^ 64 - 1)) :=
  natural_exact _

theorem Decoder.halfWord_exact : Decoder.halfWord.Exact (IsNatural (2 ^ 32 - 1)) :=
  natural_exact _

theorem Decoder.text_exact : Decoder.text.Exact IsText :=
  textOf_exact

theorem Decoder.path_exact : Decoder.path.Exact IsText :=
  textOf_exact

theorem interleaveMode_exact : interleaveMode.Exact (IsChoice modeNames) :=
  Decoder.choice_exact (by decide)

theorem capability_exact : capability.Exact (IsChoice capabilityNames) :=
  Decoder.choice_exact (by decide)

theorem Layout.environment_exact : Layout.environment.Exact IsEnvironment := by
  intro document environment
  have ascending (entries : List (String × String)) :
      (Environment.insertAll entries []).Ascending :=
    Environment.Ascending.insertAll .nil entries
  have mem_iff (entries : List (String × String)) (name value : String) :
      (name, value) ∈ Environment.insertAll entries [] ↔
        Environment.SetsLast entries name value := by
    simp [Environment.mem_insertAll_iff entries .nil]
  rw [Layout.environment, map_eq_ok_iff]
  constructor
  · intro made
    rcases made with ⟨entries, decoded, rfl⟩
    exact ⟨entries, (Decoder.members_exact Decoder.text_exact _ _).mp decoded, ascending entries,
      mem_iff entries⟩
  · intro isEnvironment
    rcases isEnvironment with ⟨entries, written, ascends, last⟩
    refine ⟨entries, (Decoder.members_exact Decoder.text_exact _ _).mpr written, ?_⟩
    apply (ascending entries).ext ascends
    intro entry
    rw [mem_iff entries entry.1 entry.2, last]

/-! ## Sections -/

section Sections

open Layout

variable {members : Members}

theorem Layout.follows_system : Layout.system.Follows systemSchema :=
  .cons ⟨rfl, Field.accepts_of_valued Decoder.count_exact⟩ <|
  .cons ⟨rfl, Field.accepts_of_valued Decoder.count_exact⟩ <|
  .cons ⟨rfl, Field.accepts_of_valued Decoder.word_exact⟩ <|
  .cons ⟨rfl, Field.accepts_of_valued Decoder.text_exact⟩ <|
  .cons ⟨rfl, Field.accepts_of_valued Decoder.text_exact⟩ <|
  .cons ⟨rfl, Field.accepts_of_valued (Decoder.list_exact capability_exact)⟩ .nil

theorem SystemSettings.toldBy_of_puts {settings : SystemSettings}
    (puts : Layout.system.Puts members .fallback settings) (allows : systemSchema.Allows members) :
    settings.ToldBy members := by
  have once := allows.once
  rw [SystemSettings.fallback_eq] at puts
  exact {
    coreCount := Slot.told (by simp [Slot, Layout.system]) Decoder.count_exact puts once
    threadsPerCore := Slot.told (by simp [Slot, Layout.system]) Decoder.count_exact puts once
    busWidth := Slot.told (by simp [Slot, Layout.system]) Decoder.word_exact puts once
    clock := Slot.told (by simp [Slot, Layout.system]) Decoder.text_exact puts once
    coreModel := Slot.told (by simp [Slot, Layout.system]) Decoder.text_exact puts once
    capabilities :=
      Slot.told (by simp [Slot, Layout.system]) (Decoder.list_exact capability_exact) puts once }

theorem Layout.follows_memory : Layout.memory.Follows memorySchema :=
  .cons ⟨rfl, Field.accepts_of_valued Decoder.size_exact⟩ <|
  .cons ⟨rfl, Field.accepts_of_valued Decoder.size_exact⟩ <|
  .cons ⟨rfl, Field.accepts_of_valued Decoder.size_exact⟩ <|
  .cons ⟨rfl, Field.accepts_of_valued Decoder.size_exact⟩ <|
  .cons ⟨rfl, Field.accepts_of_valued Decoder.halfWord_exact⟩ <|
  .cons ⟨rfl, Field.accepts_of_valued interleaveMode_exact⟩ <|
  .cons ⟨rfl, Field.accepts_of_valued Decoder.size_exact⟩ <|
  .cons ⟨rfl, Field.accepts_of_valued Decoder.boolean_exact⟩ <|
  .cons ⟨rfl, Field.accepts_of_valued Decoder.text_exact⟩ <|
  .cons ⟨rfl, Field.accepts_of_valued Decoder.text_exact⟩ <|
  .cons ⟨rfl, Field.accepts_of_valued Decoder.text_exact⟩ <|
  .cons ⟨rfl, Field.accepts_of_valued Decoder.text_exact⟩ .nil

theorem MemorySettings.toldBy_of_puts {settings : MemorySettings}
    (puts : Layout.memory.Puts members .fallback settings) (allows : memorySchema.Allows members) :
    settings.ToldBy members := by
  have once := allows.once
  rw [MemorySettings.fallback_eq] at puts
  exact {
    mainBase := Slot.told (by simp [Slot, Layout.memory]) Decoder.size_exact puts once
    mainSize := Slot.told (by simp [Slot, Layout.memory]) Decoder.size_exact puts once
    mmioBase := Slot.told (by simp [Slot, Layout.memory]) Decoder.size_exact puts once
    mmioSize := Slot.told (by simp [Slot, Layout.memory]) Decoder.size_exact puts once
    mmioChannelCount :=
      Slot.told (by simp [Slot, Layout.memory]) Decoder.halfWord_exact puts once
    mmioMode := Slot.told (by simp [Slot, Layout.memory]) interleaveMode_exact puts once
    lineSize := Slot.told (by simp [Slot, Layout.memory]) Decoder.size_exact puts once
    mmioBacked := Slot.told (by simp [Slot, Layout.memory]) Decoder.boolean_exact puts once
    mainConfigPath := Slot.told (by simp [Slot, Layout.memory]) Decoder.text_exact puts once
    mmioConfigPath := Slot.told (by simp [Slot, Layout.memory]) Decoder.text_exact puts once
    mainOutputStem := Slot.told (by simp [Slot, Layout.memory]) Decoder.text_exact puts once
    mmioOutputStem := Slot.told (by simp [Slot, Layout.memory]) Decoder.text_exact puts once }

theorem Layout.follows_bridge : Layout.bridge.Follows bridgeSchema :=
  .cons ⟨rfl, Field.accepts_of_valued Decoder.latency_exact⟩ <|
  .cons ⟨rfl, Field.accepts_of_orNull Decoder.latency_exact⟩ .nil

theorem BridgeSettings.toldBy_of_puts {settings : BridgeSettings}
    (puts : Layout.bridge.Puts members .fallback settings) (allows : bridgeSchema.Allows members) :
    settings.ToldBy members := by
  have once := allows.once
  rw [BridgeSettings.fallback_eq] at puts
  have bypass : Told members "bypass_latency" (IsOptional IsLatency) none
      settings.bypassLatency :=
    Slot.told (by simp [Slot, Layout.bridge]) (Decoder.optional_exact Decoder.latency_exact)
      puts once
  exact {
    latency := Slot.told (by simp [Slot, Layout.bridge]) Decoder.latency_exact puts once
    bypassLatency := toldUnlessNull_some bypass }

theorem Layout.follows_cacheSection : Layout.cacheSection.Follows levelSchema :=
  .cons ⟨rfl, Field.accepts_of_orNull Decoder.size_exact⟩ <|
  .cons ⟨rfl, Field.accepts_of_orNull Decoder.halfWord_exact⟩ <|
  .cons ⟨rfl, Field.accepts_of_orNull Decoder.word_exact⟩ <|
  .cons ⟨rfl, Field.accepts_of_orNull Decoder.word_exact⟩ <|
  .cons ⟨rfl, Field.accepts_of_orNull Decoder.word_exact⟩ <|
  .cons ⟨rfl, Field.accepts_of_orNull Decoder.halfWord_exact⟩ <|
  .cons ⟨rfl, Field.accepts_of_orNull Decoder.halfWord_exact⟩ .nil

theorem CacheSection.toldBy_of_puts {written : CacheSection}
    (puts : Layout.cacheSection.Puts members .empty written)
    (once : (members.map Prod.fst).Nodup) (level : CacheParameters) :
    (written.completedBy level).ToldBy level members := by
  have told {α : Type} {name : String} {decoder : Decoder α} {means : Document → α → Prop}
      {part : CacheSection → Option α} (slot : cacheSection.Slot name decoder.optional part)
      (exact : decoder.Exact means) (empty : part .empty = none) (reference : α) :
      ToldUnlessNull members name means reference ((part written).getD reference) := by
    have told := slot.told (Decoder.optional_exact exact) puts once
    rw [empty] at told
    exact toldUnlessNull_getD told reference
  exact {
    size := told (by simp [Slot, cacheSection]) Decoder.size_exact rfl level.size
    associativity :=
      told (by simp [Slot, cacheSection]) Decoder.halfWord_exact rfl level.associativity
    tagLatency := told (by simp [Slot, cacheSection]) Decoder.word_exact rfl level.tagLatency
    dataLatency := told (by simp [Slot, cacheSection]) Decoder.word_exact rfl level.dataLatency
    responseLatency :=
      told (by simp [Slot, cacheSection]) Decoder.word_exact rfl level.responseLatency
    missRegisters :=
      told (by simp [Slot, cacheSection]) Decoder.halfWord_exact rfl level.missRegisters
    targetsPerMiss :=
      told (by simp [Slot, cacheSection]) Decoder.halfWord_exact rfl level.targetsPerMiss }

theorem Layout.exists_overlay_of_put {field : Field CacheSettings} {document : Document}
    {before after : CacheSettings} (declared : field ∈ Layout.cache.fields)
    (put : field.put document before = .ok after) :
    ∃ written, cacheSection.overlay .empty document = .ok written := by
  simp only [Layout.cache, List.mem_cons, List.not_mem_nil, or_false] at declared
  rcases declared with rfl | rfl | rfl
  all_goals
    rcases Field.put_ofDecoder_eq_ok_iff.mp put with ⟨_, decoded, -⟩
    rcases map_eq_ok_iff.mp decoded with ⟨written, made, -⟩
    exact ⟨written, made⟩

theorem Layout.accepts_cacheLevel {name : String} {level : CacheParameters}
    {store : CacheParameters → CacheSettings → CacheSettings} :
    ∀ document, levelSchema.AllowsRecord document →
      (Field.ofDecoder name (cacheLevel level) store).Accepts document := by
  intro document allows
  rcases follows_cacheSection.exists_overlay_record rfl .empty allows with ⟨written, made⟩
  exact Field.accepts_ofDecoder (map_eq_ok_iff.mpr ⟨written, made, rfl⟩)

theorem Layout.follows_cache : Layout.cache.Follows cacheSchema :=
  .cons ⟨rfl, accepts_cacheLevel⟩ <|
  .cons ⟨rfl, accepts_cacheLevel⟩ <|
  .cons ⟨rfl, accepts_cacheLevel⟩ .nil

theorem CacheParameters.toldBy_of_puts {settings : CacheSettings} {name : String}
    {level : CacheParameters} {part : CacheSettings → CacheParameters}
    (slot : Layout.cache.Slot name (cacheLevel level) part) (agree : level = part .reference)
    (puts : Layout.cache.Puts members .reference settings) (once : (members.map Prod.fst).Nodup)
    (allowed : ∀ document, (name, document) ∈ members → levelSchema.AllowsRecord document) :
    (part settings).ToldBy level (sectionMembers members name) := by
  have empty := (CacheSection.empty_completedBy level).trans agree
  rcases slot.section (fun _ _ => map_eq_ok_iff.mp) empty puts once allowed with
    ⟨written, inner, completed⟩
  rw [← completed]
  exact CacheSection.toldBy_of_puts inner (Schema.allows_sectionMembers allowed).once level

theorem CacheSettings.toldBy_of_puts {settings : CacheSettings}
    (puts : Layout.cache.Puts members .fallback settings) (allows : cacheSchema.Allows members) :
    settings.ToldBy members := by
  rw [CacheSettings.fallback_eq] at puts
  have once := allows.once
  have accepted := allows.accepted
  simp only [cacheSchema, List.forall_mem_cons] at accepted
  rcases accepted with ⟨l1Instruction, l1Data, l2, -⟩
  exact {
    l1Instruction := CacheParameters.toldBy_of_puts (by simp [Slot, Layout.cache]) rfl puts once
      l1Instruction
    l1Data := CacheParameters.toldBy_of_puts (by simp [Slot, Layout.cache]) rfl puts once l1Data
    l2 := CacheParameters.toldBy_of_puts (by simp [Slot, Layout.cache]) rfl puts once l2 }

theorem Layout.follows_workload : Layout.workload.Follows workloadSchema :=
  .cons ⟨rfl, Field.accepts_of_valued Decoder.path_exact⟩ <|
  .cons ⟨rfl, Field.accepts_of_valued (Decoder.list_exact Decoder.text_exact)⟩ <|
  .cons ⟨rfl, Field.accepts_of_valued environment_exact⟩ <|
  .cons ⟨rfl, Field.accepts_of_valued Decoder.boolean_exact⟩ .nil

theorem WorkloadSettings.toldBy_of_puts {settings : WorkloadSettings}
    (puts : Layout.workload.Puts members (.fallback "") settings)
    (once : (members.map Prod.fst).Nodup) (named : "binary" ∈ members.map Prod.fst) :
    settings.ToldBy members where
  binary := by
    have told : Told members "binary" IsText "" settings.binary :=
      Slot.told (by simp [Slot, Layout.workload]) Decoder.path_exact puts once
    exact told.exists_document named
  arguments := Slot.told (by simp [Slot, Layout.workload])
    (Decoder.list_exact Decoder.text_exact) puts once
  environment := Slot.told (by simp [Slot, Layout.workload]) environment_exact puts once
  openMp := Slot.told (by simp [Slot, Layout.workload]) Decoder.boolean_exact puts once

theorem IsWorkload.exists_overlay {document : Document} (workload : IsWorkload document) :
    ∃ settings, Layout.newWorkload document = .ok settings := by
  rcases workload with ⟨⟨members, rfl, allows⟩, named⟩
  have required : ∀ name ∈ Layout.workload.required, name ∈ members.map Prod.fst := by
    intro name listed
    rw [List.mem_singleton.mp listed]
    exact named
  exact follows_workload.exists_overlay allows required _

theorem IsWorkload.toldBy {document : Document} {settings : WorkloadSettings}
    (workload : IsWorkload document) (made : Layout.newWorkload document = .ok settings) :
    settings.ToldBy document.members := by
  rcases workload with ⟨⟨members, rfl, allows⟩, named⟩
  exact WorkloadSettings.toldBy_of_puts (overlay_record_eq_ok_iff.mp made).2.2.2 allows.once named

end Sections

/-! ## Machines -/

section Machine

open Layout

variable {members : Members} {document : Document}

theorem slot_system : Layout.configuration.Slot "system" (Layout.system.overlay .fallback)
    Configuration.system := by
  simp [Slot, Layout.configuration]

theorem slot_memory : Layout.configuration.Slot "memory" (Layout.memory.overlay .fallback)
    Configuration.memory := by
  simp [Slot, Layout.configuration]

theorem slot_bridge : Layout.configuration.Slot "bridge" (Layout.bridge.overlay .fallback)
    Configuration.bridge := by
  simp [Slot, Layout.configuration]

theorem slot_cache : Layout.configuration.Slot "cache" (Layout.cache.overlay .fallback)
    Configuration.cache := by
  simp [Slot, Layout.configuration]

theorem slot_workload : Layout.configuration.Slot "workload" newWorkload.optional
    Configuration.workload := by
  simp [Slot, Layout.configuration]

theorem Layout.accepts_overlay {σ τ : Type} {layout : Layout τ} {schema : Schema} {name : String}
    {start : τ} {store : τ → σ → σ} (follows : layout.Follows schema)
    (free : layout.required = []) :
    ∀ document, schema.AllowsRecord document →
      (Field.ofDecoder name (layout.overlay start) store).Accepts document := by
  intro document allows
  rcases follows.exists_overlay_record free start allows with ⟨_, made⟩
  exact Field.accepts_ofDecoder made

theorem Layout.accepts_workload {name : String}
    {store : Option WorkloadSettings → Configuration → Configuration} :
    ∀ document, OrNull IsWorkload document →
      (Field.ofDecoder name newWorkload.optional store).Accepts document := by
  intro document allowed
  rcases allowed with rfl | workload
  · exact Field.accepts_ofDecoder rfl
  · rcases workload.exists_overlay with ⟨settings, made⟩
    rcases workload with ⟨⟨parts, rfl, -⟩, -⟩
    have decoded := (Decoder.optional_exact newWorkload.exact_self _ _).mpr
      (.written (by simp) made)
    exact Field.accepts_ofDecoder decoded

theorem Layout.follows_configuration : Layout.configuration.Follows machineSchema :=
  .cons ⟨rfl, accepts_overlay follows_system rfl⟩ <|
  .cons ⟨rfl, accepts_overlay follows_memory rfl⟩ <|
  .cons ⟨rfl, accepts_overlay follows_bridge rfl⟩ <|
  .cons ⟨rfl, accepts_overlay follows_cache rfl⟩ <|
  .cons ⟨rfl, accepts_workload⟩ .nil

theorem Layout.puts_of_allows {τ : Type} {layout : Layout τ} {fallback : τ} {schema : Schema}
    {name : String} {part : Configuration → τ} {configuration : Configuration}
    (slot : Layout.configuration.Slot name (layout.overlay fallback) part)
    (agree : fallback = part .reference)
    (puts : Layout.configuration.Puts members .reference configuration)
    (once : (members.map Prod.fst).Nodup)
    (allowed : ∀ document, (name, document) ∈ members → schema.AllowsRecord document) :
    layout.Puts (sectionMembers members name) fallback (part configuration) := by
  have written : ∃ written, layout.Puts (sectionMembers members name) fallback written ∧
      id written = part configuration :=
    slot.section (fun _ value decoded => ⟨value, decoded, rfl⟩) agree puts once allowed
  rcases written with ⟨_, inner, rfl⟩
  exact inner

theorem Configuration.toldBy_of_puts {configuration : Configuration}
    (puts : Layout.configuration.Puts members .fallback configuration)
    (allows : machineSchema.Allows members) : configuration.ToldBy members := by
  rw [Configuration.fallback_eq] at puts
  have once := allows.once
  have accepted := allows.accepted
  simp only [machineSchema, List.forall_mem_cons] at accepted
  rcases accepted with ⟨system, memory, bridge, cache, workload, -⟩
  exact {
    system := SystemSettings.toldBy_of_puts
      (puts_of_allows slot_system SystemSettings.fallback_eq puts once system)
      (Schema.allows_sectionMembers system)
    memory := MemorySettings.toldBy_of_puts
      (puts_of_allows slot_memory MemorySettings.fallback_eq puts once memory)
      (Schema.allows_sectionMembers memory)
    bridge := BridgeSettings.toldBy_of_puts
      (puts_of_allows slot_bridge BridgeSettings.fallback_eq puts once bridge)
      (Schema.allows_sectionMembers bridge)
    cache := CacheSettings.toldBy_of_puts
      (puts_of_allows slot_cache CacheSettings.fallback_eq puts once cache)
      (Schema.allows_sectionMembers cache)
    workload := by
      have told := slot_workload.told (Decoder.optional_exact newWorkload.exact_self) puts once
      apply toldUnlessNull_of_optional told id
      intro document settings written same made
      rcases workload document written with rfl | isWorkload
      · cases made
      · exact ⟨settings, isWorkload.toldBy made, same⟩ }

theorem not_misnamed_of_overlay {configuration : Configuration}
    (made : Layout.configuration.overlay .fallback document = .ok configuration) :
    ¬ Misnamed document := by
  intro misnamed
  cases misnamed with
  | machine misnames => exact follows_configuration.not_misnames made misnames
  | system holds misnames =>
      exact follows_configuration.not_misnames_inside follows_system slot_system holds made misnames
  | memory holds misnames =>
      exact follows_configuration.not_misnames_inside follows_memory slot_memory holds made misnames
  | bridge holds misnames =>
      exact follows_configuration.not_misnames_inside follows_bridge slot_bridge holds made misnames
  | cache holds misnames =>
      exact follows_configuration.not_misnames_inside follows_cache slot_cache holds made misnames
  | level holds inside misnames =>
      rcases follows_configuration.exists_decoded slot_cache holds made with ⟨_, decoded⟩
      -- The document may name any level, so all that is known is that some level took it.
      rcases follows_cache.exists_put inside decoded with ⟨field, declared, -, before, after, put⟩
      rcases exists_overlay_of_put declared put with ⟨written, decodedLevel⟩
      exact follows_cacheSection.not_misnames decodedLevel misnames
  | workload holds misnames =>
      rcases follows_configuration.exists_decoded slot_workload holds made with ⟨result, decoded⟩
      cases (Decoder.optional_exact newWorkload.exact_self _ _).mp decoded with
      | null => exact misnames
      | written _ made => exact follows_workload.not_misnames made misnames

end Machine

namespace Configuration

theorem ofText_eq_ok_iff {text : String} {configuration : Configuration} :
    ofText text = .ok configuration ↔
      (Document.ofText text).2 = true ∧
        Layout.configuration.overlay fallback (Document.ofText text).1 = .ok configuration := by
  rw [ofText, Decoder.run]
  cases decoded : Layout.configuration.overlay fallback (Document.ofText text).1 with
  | error flaw => simp [decoded, bind, Except.bind, misconfigured]
  | ok value =>
      cases alone : (Document.ofText text).2 with
      | false => simp [decoded, alone, bind, Except.bind, misconfigured]
      | true => simp [decoded, alone, bind, Except.bind]

theorem exists_flaw_of_ne_ok {text : String}
    (refused : ∀ configuration, ofText text ≠ .ok configuration) :
    ∃ flaw, ofText text = misconfigured (.flawedDocument flaw) := by
  rw [ofText]
  cases outcome : Decoder.run (Layout.configuration.overlay fallback) text with
  | error flaw => exact ⟨flaw, rfl⟩
  | ok configuration =>
      refine absurd ?_ (refused configuration)
      rw [ofText, outcome]

/-- A text whose document names declared settings, in a record of each level, and gives each a
value of its kind is the text of a machine: each setting is what the description tells of it,
where what is left out has its reference value, one by one. A text whose document has a name that
is not declared, in a record of any level, is refused. -/
theorem ofText_overlays_reference (text : String) :
    (∀ members, Document.ofText text = (.record members true, true) →
      machineSchema.Allows members →
        ∃ configuration, ofText text = .ok configuration ∧ configuration.ToldBy members) ∧
    (Misnamed (Document.ofText text).1 →
      ∃ flaw, ofText text = misconfigured (.flawedDocument flaw)) ∧
    reference.cache = ⟨.l1, .l1, .l2⟩ := by
  refine ⟨?_, ?_, rfl⟩
  · intro members read allows
    have required : ∀ name ∈ Layout.configuration.required, name ∈ members.map Prod.fst := by
      simp [Layout.configuration]
    rcases Layout.follows_configuration.exists_overlay allows required fallback with
      ⟨configuration, made⟩
    refine ⟨configuration, ofText_eq_ok_iff.mpr ?_, ?_⟩
    · rw [read]
      exact ⟨rfl, made⟩
    · exact toldBy_of_puts (Layout.overlay_record_eq_ok_iff.mp made).2.2.2 allows
  · intro misnamed
    apply exists_flaw_of_ne_ok
    intro configuration described
    exact not_misnamed_of_overlay (ofText_eq_ok_iff.mp described).2 misnamed

/-- A machine with three cores, another cache of the second level and a program. -/
def partialText : String :=
  "\x7b\"cache\": \x7b\"l2\": \x7b\"assoc\": 4, \"size\": null\x7d\x7d,
    \"workload\": \x7b\"binary\": \"a\"\x7d, \"system\": \x7b\"core_count\": 3\x7d\x7d"

def partialMembers : Members :=
  [("cache",
      .record [("l2", .record [("assoc", .number (.natural 4)), ("size", .null)] true)] true),
    ("workload", .record [("binary", .text "a")] true),
    ("system", .record [("core_count", .number (.natural 3))] true)]

theorem ofText_partialText : Document.ofText partialText = (.record partialMembers true, true) := by
  rw [partialText, partialMembers]
  cbv

def misnamedText : String :=
  "\x7b\"cache\": \x7b\"l2\": \x7b\"ways\": 4\x7d\x7d\x7d"

theorem misnamed_misnamedText : Misnamed (Document.ofText misnamedText).1 := by
  have read : (Document.ofText misnamedText).1 =
      .record [("cache", .record [("l2", .record [("ways", .number (.natural 4))] true)] true)]
        true := by
    rw [misnamedText]
    cbv
  rw [read]
  apply Misnamed.level (.member List.mem_cons_self) (.member List.mem_cons_self)
  exact ⟨_, List.mem_cons_self, by decide⟩

theorem allows_partialMembers : machineSchema.Allows partialMembers where
  declared := by decide
  once := by decide
  accepted := by
    simp only [machineSchema, List.forall_mem_cons]
    refine ⟨?system, by simp [partialMembers], by simp [partialMembers], ?cache, ?workload,
      by simp⟩
    case system =>
      intro document written
      obtain rfl : document = .record [("core_count", .number (.natural 3))] true := by
        simpa [partialMembers] using written
      have cores : Valued (IsNatural (2 ^ 64 - 1)) (.number (.natural 3)) :=
        ⟨3, .number (by decide)⟩
      exact ⟨_, rfl, by decide, by decide, by simpa [systemSchema] using cores⟩
    case cache =>
      intro document written
      obtain rfl : document = .record
          [("l2", .record [("assoc", .number (.natural 4)), ("size", .null)] true)] true := by
        simpa [partialMembers] using written
      have ways : Valued (IsNatural (2 ^ 32 - 1)) (.number (.natural 4)) :=
        ⟨4, .number (by decide)⟩
      have level : levelSchema.AllowsRecord
          (.record [("assoc", .number (.natural 4)), ("size", .null)] true) :=
        ⟨_, rfl, by decide, by decide, by simpa [levelSchema, OrNull] using ways⟩
      exact ⟨_, rfl, by decide, by decide, by simpa [cacheSchema] using level⟩
    case workload =>
      intro document written
      obtain rfl : document = .record [("binary", .text "a")] true := by
        simpa [partialMembers] using written
      have binary : Valued IsText (.text "a") := ⟨"a", .text "a"⟩
      refine Or.inr ⟨⟨_, rfl, by decide, by decide, ?_⟩, List.mem_cons_self⟩
      simpa [workloadSchema] using binary

theorem ofText_overlays_reference_partial :
    (machineSchema.Allows partialMembers ∧
      ∃ configuration, ofText partialText = .ok configuration ∧
        configuration.ToldBy partialMembers ∧
        configuration.system.coreCount = 3 ∧
        configuration.system.clock = reference.system.clock ∧
        configuration.cache.l2.associativity = 4 ∧
        configuration.cache.l2.size = CacheParameters.l2.size ∧
        configuration.cache.l1Data.size = CacheParameters.l1.size ∧
        configuration.memory.mainSize = reference.memory.mainSize ∧
        ∃ workload, configuration.workload = some workload ∧
          workload.binary = "a" ∧ workload.arguments = []) ∧
    Misnamed (Document.ofText misnamedText).1 ∧
      ∃ flaw, ofText misnamedText = misconfigured (.flawedDocument flaw) := by
  rcases (ofText_overlays_reference partialText).1
      partialMembers ofText_partialText allows_partialMembers with ⟨configuration, made, told⟩
  refine ⟨⟨allows_partialMembers, configuration, made, told, ?_⟩, misnamed_misnamedText,
    (ofText_overlays_reference misnamedText).2.1 misnamed_misnamedText⟩
  have cores : Decoder.count (.number (.natural 3)) = .ok configuration.system.coreCount :=
    (Decoder.count_exact _ _).mpr told.system.coreCount
  have ways : Decoder.halfWord (.number (.natural 4)) =
      .ok configuration.cache.l2.associativity :=
    (Decoder.halfWord_exact _ _).mpr told.cache.l2.associativity
  rcases told.workload with ⟨settings, workload, present⟩
  rcases workload.binary with ⟨binary, written, meant⟩
  have named : Decoder.path (.text "a") = .ok settings.binary := by
    cases written
    exact (Decoder.path_exact _ _).mpr meant
  exact ⟨(Except.ok.inj cores).symm, told.system.clock, (Except.ok.inj ways).symm,
    told.cache.l2.size, told.cache.l1Data.size, told.memory.mainSize, settings, present,
    (Except.ok.inj named).symm, workload.arguments⟩

end Configuration

end MemoryFabric
