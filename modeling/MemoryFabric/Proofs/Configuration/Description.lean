import MemoryFabric.Configuration.Basic
import MemoryFabric.Proofs.Document.Values
import MemoryFabric.Proofs.Workload

/-! What a description in JSON says of a machine, however it is decoded: which names the record
of each level may have, what may stand under each of them, and what the members tell of each
setting. A setting that nothing is told of has the value of the reference machine. -/

namespace MemoryFabric

open Document

/-! ## Values -/

def modeNames : List (String × InterleaveMode) :=
  [("flat", .flat), ("bit_interleaved", .bitInterleaved), ("interleaved", .bitInterleaved)]

def capabilityNames : List (String × Capability) :=
  [("instruction_walker", .instructionWalker), ("data_walker", .dataWalker),
    ("interrupt_controller", .interruptController)]

/-- An environment is a record of texts. Of texts under one name the last counts. -/
def Document.IsEnvironment (document : Document) (environment : Environment) : Prop :=
  ∃ entries, IsMap IsText document entries ∧ environment.Ascending ∧
    ∀ name value, (name, value) ∈ environment ↔ Environment.SetsLast entries name value

/-! ## Names of each level -/

def systemSchema : Schema :=
  [("core_count", Valued (IsNatural (2 ^ 64 - 1))),
    ("threads_per_core", Valued (IsNatural (2 ^ 64 - 1))),
    ("bus_width", Valued IsWord),
    ("clock", Valued IsText),
    ("core_model", Valued IsText),
    ("capabilities", Valued (IsList (IsChoice capabilityNames)))]

def memorySchema : Schema :=
  [("main_base", Valued IsSize),
    ("main_size", Valued IsSize),
    ("mmio_base", Valued IsSize),
    ("mmio_size", Valued IsSize),
    ("mmio_channel_count", Valued (IsNatural (2 ^ 32 - 1))),
    ("mmio_mode", Valued (IsChoice modeNames)),
    ("line_size", Valued IsSize),
    ("mmio_backed", Valued IsBoolean),
    ("main_config_path", Valued IsText),
    ("mmio_config_path", Valued IsText),
    ("main_output_prefix", Valued IsText),
    ("mmio_output_prefix", Valued IsText)]

def bridgeSchema : Schema :=
  [("latency", Valued IsLatency),
    ("bypass_latency", OrNull (Valued IsLatency))]

def levelSchema : Schema :=
  [("size", OrNull (Valued IsSize)),
    ("assoc", OrNull (Valued (IsNatural (2 ^ 32 - 1)))),
    ("tag_latency", OrNull (Valued IsWord)),
    ("data_latency", OrNull (Valued IsWord)),
    ("response_latency", OrNull (Valued IsWord)),
    ("mshrs", OrNull (Valued (IsNatural (2 ^ 32 - 1)))),
    ("tgts_per_mshr", OrNull (Valued (IsNatural (2 ^ 32 - 1))))]

def cacheSchema : Schema :=
  [("l1_i", levelSchema.AllowsRecord),
    ("l1_d", levelSchema.AllowsRecord),
    ("l2", levelSchema.AllowsRecord)]

def workloadSchema : Schema :=
  [("binary", Valued IsText),
    ("args", Valued (IsList IsText)),
    ("env", Valued IsEnvironment),
    ("openmp", Valued IsBoolean)]

/-- A workload must say which program it is. -/
def IsWorkload (document : Document) : Prop :=
  workloadSchema.AllowsRecord document ∧ "binary" ∈ document.members.map Prod.fst

def machineSchema : Schema :=
  [("system", systemSchema.AllowsRecord),
    ("memory", memorySchema.AllowsRecord),
    ("bridge", bridgeSchema.AllowsRecord),
    ("cache", cacheSchema.AllowsRecord),
    ("workload", OrNull IsWorkload)]

/-- Somewhere in a description there is a record with a name that is not declared. -/
inductive Misnamed : Document → Prop where
  | machine {document : Document} (misnames : Misnames machineSchema.names document) :
      Misnamed document
  | system {document part : Document} (holds : Holds machineSchema.names "system" document part)
      (misnames : Misnames systemSchema.names part) : Misnamed document
  | memory {document part : Document} (holds : Holds machineSchema.names "memory" document part)
      (misnames : Misnames memorySchema.names part) : Misnamed document
  | bridge {document part : Document} (holds : Holds machineSchema.names "bridge" document part)
      (misnames : Misnames bridgeSchema.names part) : Misnamed document
  | cache {document part : Document} (holds : Holds machineSchema.names "cache" document part)
      (misnames : Misnames cacheSchema.names part) : Misnamed document
  | level {document part level : Document} {name : String}
      (holds : Holds machineSchema.names "cache" document part)
      (inside : Holds cacheSchema.names name part level)
      (misnames : Misnames levelSchema.names level) : Misnamed document
  | workload {document part : Document}
      (holds : Holds machineSchema.names "workload" document part)
      (misnames : Misnames workloadSchema.names part) : Misnamed document

/-! ## What the members tell -/

structure SystemSettings.ToldBy (settings : SystemSettings) (members : Members) : Prop where
  coreCount : Told members "core_count" (IsNatural (2 ^ 64 - 1))
    Configuration.reference.system.coreCount settings.coreCount
  threadsPerCore : Told members "threads_per_core" (IsNatural (2 ^ 64 - 1))
    Configuration.reference.system.threadsPerCore settings.threadsPerCore
  busWidth : Told members "bus_width" IsWord
    Configuration.reference.system.busWidth settings.busWidth
  clock : Told members "clock" IsText Configuration.reference.system.clock settings.clock
  coreModel : Told members "core_model" IsText
    Configuration.reference.system.coreModel settings.coreModel
  capabilities : Told members "capabilities" (IsList (IsChoice capabilityNames))
    Configuration.reference.system.capabilities settings.capabilities

structure MemorySettings.ToldBy (settings : MemorySettings) (members : Members) : Prop where
  mainBase : Told members "main_base" IsSize
    Configuration.reference.memory.mainBase settings.mainBase
  mainSize : Told members "main_size" IsSize
    Configuration.reference.memory.mainSize settings.mainSize
  mmioBase : Told members "mmio_base" IsSize
    Configuration.reference.memory.mmioBase settings.mmioBase
  mmioSize : Told members "mmio_size" IsSize
    Configuration.reference.memory.mmioSize settings.mmioSize
  mmioChannelCount : Told members "mmio_channel_count" (IsNatural (2 ^ 32 - 1))
    Configuration.reference.memory.mmioChannelCount settings.mmioChannelCount
  mmioMode : Told members "mmio_mode" (IsChoice modeNames)
    Configuration.reference.memory.mmioMode settings.mmioMode
  lineSize : Told members "line_size" IsSize
    Configuration.reference.memory.lineSize settings.lineSize
  mmioBacked : Told members "mmio_backed" IsBoolean
    Configuration.reference.memory.mmioBacked settings.mmioBacked
  mainConfigPath : Told members "main_config_path" IsText
    Configuration.reference.memory.mainConfigPath settings.mainConfigPath
  mmioConfigPath : Told members "mmio_config_path" IsText
    Configuration.reference.memory.mmioConfigPath settings.mmioConfigPath
  mainOutputStem : Told members "main_output_prefix" IsText
    Configuration.reference.memory.mainOutputStem settings.mainOutputStem
  mmioOutputStem : Told members "mmio_output_prefix" IsText
    Configuration.reference.memory.mmioOutputStem settings.mmioOutputStem

structure BridgeSettings.ToldBy (settings : BridgeSettings) (members : Members) : Prop where
  latency : Told members "latency" IsLatency Configuration.reference.bridge.latency settings.latency
  bypassLatency : ToldUnlessNull members "bypass_latency"
    (fun document value => ∃ latency, IsLatency document latency ∧ value = some latency)
    Configuration.reference.bridge.bypassLatency settings.bypassLatency

/-- The parameters of a cache. Nothing is told of those that its level has. -/
structure CacheParameters.ToldBy (settings level : CacheParameters) (members : Members) :
    Prop where
  size : ToldUnlessNull members "size" IsSize level.size settings.size
  associativity : ToldUnlessNull members "assoc" (IsNatural (2 ^ 32 - 1))
    level.associativity settings.associativity
  tagLatency : ToldUnlessNull members "tag_latency" IsWord level.tagLatency settings.tagLatency
  dataLatency : ToldUnlessNull members "data_latency" IsWord
    level.dataLatency settings.dataLatency
  responseLatency : ToldUnlessNull members "response_latency" IsWord
    level.responseLatency settings.responseLatency
  missRegisters : ToldUnlessNull members "mshrs" (IsNatural (2 ^ 32 - 1))
    level.missRegisters settings.missRegisters
  targetsPerMiss : ToldUnlessNull members "tgts_per_mshr" (IsNatural (2 ^ 32 - 1))
    level.targetsPerMiss settings.targetsPerMiss

structure CacheSettings.ToldBy (settings : CacheSettings) (members : Members) : Prop where
  l1Instruction : settings.l1Instruction.ToldBy .l1 (sectionMembers members "l1_i")
  l1Data : settings.l1Data.ToldBy .l1 (sectionMembers members "l1_d")
  l2 : settings.l2.ToldBy .l2 (sectionMembers members "l2")

structure WorkloadSettings.ToldBy (settings : WorkloadSettings) (members : Members) : Prop where
  binary : ∃ document, members.lookup "binary" = some document ∧ IsText document settings.binary
  arguments : Told members "args" (IsList IsText) [] settings.arguments
  environment : Told members "env" IsEnvironment [] settings.environment
  openMp : Told members "openmp" IsBoolean false settings.openMp

structure Configuration.ToldBy (configuration : Configuration) (members : Members) : Prop where
  system : configuration.system.ToldBy (sectionMembers members "system")
  memory : configuration.memory.ToldBy (sectionMembers members "memory")
  bridge : configuration.bridge.ToldBy (sectionMembers members "bridge")
  cache : configuration.cache.ToldBy (sectionMembers members "cache")
  workload : ToldUnlessNull members "workload"
    (fun document value => ∃ settings : WorkloadSettings,
      settings.ToldBy document.members ∧ value = some settings)
    Configuration.reference.workload configuration.workload

end MemoryFabric
