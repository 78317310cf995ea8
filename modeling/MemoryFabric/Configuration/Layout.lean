import MemoryFabric.Configuration.Basic
import MemoryFabric.Document.Decoder

/-! Machine descriptions in JSON. A description overlays the reference machine:
it names the sections and settings in which its machine differs. A section that is
left out keeps its reference value as a whole; in one that is there, each setting
that is left out has its own reference value, which for a cache is that of its level. -/

namespace MemoryFabric

def interleaveMode : Decoder InterleaveMode :=
  .choice [("flat", .flat), ("bit_interleaved", .bitInterleaved), ("interleaved", .bitInterleaved)]

def capability : Decoder Capability :=
  .choice [("instruction_walker", .instructionWalker), ("data_walker", .dataWalker),
    ("interrupt_controller", .interruptController)]

namespace Layout

def system : Layout SystemSettings where
  title := "struct SystemConfig"
  required := []
  leading := 0
  fields := [
    .ofDecoder "core_count" Decoder.count fun value s => { s with coreCount := value },
    .ofDecoder "threads_per_core" Decoder.count fun value s => { s with threadsPerCore := value },
    .ofDecoder "bus_width" Decoder.word fun value s => { s with busWidth := value },
    .ofDecoder "clock" Decoder.text fun value s => { s with clock := value },
    .ofDecoder "core_model" Decoder.text fun value s => { s with coreModel := value },
    .ofDecoder "capabilities" (Decoder.list capability) fun value s =>
      { s with capabilities := value }]

def memory : Layout MemorySettings where
  title := "struct MemoryConfig"
  required := []
  leading := 0
  fields := [
    .ofDecoder "main_base" Decoder.size fun value s => { s with mainBase := value },
    .ofDecoder "main_size" Decoder.size fun value s => { s with mainSize := value },
    .ofDecoder "mmio_base" Decoder.size fun value s => { s with mmioBase := value },
    .ofDecoder "mmio_size" Decoder.size fun value s => { s with mmioSize := value },
    .ofDecoder "mmio_channel_count" Decoder.halfWord fun value s =>
      { s with mmioChannelCount := value },
    .ofDecoder "mmio_mode" interleaveMode fun value s => { s with mmioMode := value },
    .ofDecoder "line_size" Decoder.size fun value s => { s with lineSize := value },
    .ofDecoder "mmio_backed" Decoder.boolean fun value s => { s with mmioBacked := value },
    .ofDecoder "main_config_path" Decoder.text fun value s => { s with mainConfigPath := value },
    .ofDecoder "mmio_config_path" Decoder.text fun value s => { s with mmioConfigPath := value },
    .ofDecoder "main_output_prefix" Decoder.text fun value s => { s with mainOutputStem := value },
    .ofDecoder "mmio_output_prefix" Decoder.text fun value s => { s with mmioOutputStem := value }]

def bridge : Layout BridgeSettings where
  title := "struct BridgeConfig"
  required := []
  leading := 0
  fields := [
    .ofDecoder "latency" Decoder.latency fun value s => { s with latency := value },
    .ofDecoder "bypass_latency" Decoder.latency.optional fun value s =>
      { s with bypassLatency := value }]

def cacheSection : Layout CacheSection where
  title := "struct CacheSection"
  required := []
  leading := 7
  fields := [
    .ofDecoder "size" Decoder.size.optional fun value s => { s with size := value },
    .ofDecoder "assoc" Decoder.halfWord.optional fun value s => { s with associativity := value },
    .ofDecoder "tag_latency" Decoder.word.optional fun value s => { s with tagLatency := value },
    .ofDecoder "data_latency" Decoder.word.optional fun value s => { s with dataLatency := value },
    .ofDecoder "response_latency" Decoder.word.optional fun value s =>
      { s with responseLatency := value },
    .ofDecoder "mshrs" Decoder.halfWord.optional fun value s => { s with missRegisters := value },
    .ofDecoder "tgts_per_mshr" Decoder.halfWord.optional fun value s =>
      { s with targetsPerMiss := value }]

def cacheLevel (level : CacheParameters) : Decoder CacheParameters := fun document =>
  (cacheSection.overlay .empty document).map (·.completedBy level)

def cache : Layout CacheSettings where
  title := "struct CacheHierarchyConfig"
  required := []
  leading := 0
  fields := [
    .ofDecoder "l1_i" (cacheLevel .l1) fun value s => { s with l1Instruction := value },
    .ofDecoder "l1_d" (cacheLevel .l1) fun value s => { s with l1Data := value },
    .ofDecoder "l2" (cacheLevel .l2) fun value s => { s with l2 := value }]

/-- Of a variable that is set more than once, the last value counts. -/
def environment : Decoder Environment := fun document =>
  (Decoder.members Decoder.text document).map fun entries =>
    Environment.insertAll entries []

def workload : Layout WorkloadSettings where
  title := "struct WorkloadConfig"
  required := ["binary"]
  leading := 1
  fields := [
    .ofDecoder "binary" Decoder.path fun value s => { s with binary := value },
    .ofDecoder "args" (Decoder.list Decoder.text) fun value s => { s with arguments := value },
    .ofDecoder "env" environment fun value s => { s with environment := value },
    .ofDecoder "openmp" Decoder.boolean fun value s => { s with openMp := value }]

/-- The program is required, so that the empty name is not what is left. -/
def newWorkload : Decoder WorkloadSettings :=
  workload.overlay (.fallback "")

def configuration : Layout Configuration where
  title := "struct Config"
  required := []
  leading := 0
  fields := [
    .ofDecoder "system" (system.overlay .fallback) fun value s => { s with system := value },
    .ofDecoder "memory" (memory.overlay .fallback) fun value s => { s with memory := value },
    .ofDecoder "bridge" (bridge.overlay .fallback) fun value s => { s with bridge := value },
    .ofDecoder "cache" (cache.overlay .fallback) fun value s => { s with cache := value },
    .ofDecoder "workload" newWorkload.optional fun value s => { s with workload := value }]

end Layout

namespace Configuration

def ofText (text : String) : Except Fault Configuration :=
  match Decoder.run (Layout.configuration.overlay fallback) text with
  | .ok configuration => .ok configuration
  | .error flaw => misconfigured (.flawedDocument flaw)

/-- The configuration in a file with the given name, whose bytes were read or
could not be read for the stated reason. -/
def ofFile (name : String) (content : Except String ByteArray) : Except Fault Configuration :=
  match content with
  | .error problem => misconfigured (.unreadableFile name problem)
  | .ok bytes =>
      match String.fromUTF8? bytes with
      | some text => ofText text
      | none => misconfigured (.unreadableFile name "stream did not contain valid UTF-8")

end Configuration

end MemoryFabric
