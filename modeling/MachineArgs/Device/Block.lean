import MachineArgs.Device.Reference
import MachineArgs.Handle
import MachineArgs.Property

/-!
# Block nodes

A disk is a chain of block nodes, each an option of the group `blockdev`: a protocol node that
reads an inherited file, and format nodes above it that refer to the node below. All nodes share
their first slots, the driver, the node's name and how it is cached, as an embedded record.
-/

namespace MachineArgs

/-- What becomes of discard requests of the guest. -/
inductive DiscardMode where
  /-- They are ignored. -/
  | ignore
  /-- They free space on the host. -/
  | unmap
deriving DecidableEq

/-- How a mode is written. -/
def DiscardMode.text : DiscardMode → String
  | ignore => "ignore"
  | unmap => "unmap"

instance : ToValue DiscardMode := ⟨fun mode ↦ .text mode.text⟩

/-- Whether writes of zeros are detected. -/
inductive ZeroDetection where
  /-- They are not. -/
  | off
  /-- They become efficient writes of zeros. -/
  | on
  /-- They free space on the host. -/
  | unmap
deriving DecidableEq

/-- How a setting is written. -/
def ZeroDetection.text : ZeroDetection → String
  | off => "off"
  | on => "on"
  | unmap => "unmap"

instance : ToValue ZeroDetection := ⟨fun detection ↦ .text detection.text⟩

/-- The engine for asynchronous access to a file. -/
inductive AsyncEngine where
  /-- A pool of threads. -/
  | threads
  /-- The host's native interface. -/
  | native
  /-- Rings shared with the host. -/
  | rings
deriving DecidableEq

/-- How an engine is written. -/
def AsyncEngine.text : AsyncEngine → String
  | threads => "threads"
  | native => "native"
  | rings => "io_uring"

instance : ToValue AsyncEngine := ⟨fun engine ↦ .text engine.text⟩

/-- Options that every block node has. -/
structure NodeOptions where
  /-- The name by which other nodes and frontends refer to the node. -/
  name : String := ""
  /-- The guest cannot write. -/
  readOnly : Bool := false
  /-- The node becomes read-only if it cannot be opened for writing. -/
  autoReadOnly : Bool := false
  /-- Others may use the image at the same time. -/
  forceShare : Bool := false
  /-- The host's cache is bypassed. -/
  cacheDirect : Option Bool := none
  /-- Flush requests are ignored. -/
  cacheNoFlush : Option Bool := none
  /-- What becomes of discard requests. -/
  discard : Option DiscardMode := none
  /-- Whether writes of zeros are detected. -/
  detectZeroes : Option ZeroDetection := none

namespace NodeOptions

/-- The fields that every block node starts with. -/
def schema : Schema :=
  ⟨"BlockDev",
    [.group "blockdev",
     .field (.plain "driver"),
     .field (.named "name" "node-name"),
     .field (.kebab "read_only"),
     .field (.kebab "auto_read_only"),
     .field (.kebab "force_share"),
     .field (.named "cache_direct" "cache.direct"),
     .field (.named "cache_no_flush" "cache.no-flush"),
     .field (.plain "discard"),
     .field (.kebab "detect_zeroes")]⟩

/-- The slots that a node of the given driver starts with. -/
def valueFor (driver : String) (o : NodeOptions) : Value :=
  .record schema
    [toValue driver, toValue o.name, toValue o.readOnly, toValue o.autoReadOnly,
     toValue o.forceShare, toValue o.cacheDirect, toValue o.cacheNoFlush, toValue o.discard,
     toValue o.detectZeroes]

end NodeOptions

/-- A protocol node that reads an inherited file. -/
structure FileNode where
  /-- Options of the node. -/
  options : NodeOptions := {}
  /-- The file. -/
  file : Handle
  /-- The engine for asynchronous access. -/
  engine : Option AsyncEngine := none
  /-- Whether the file is locked. -/
  locking : Option Bool := none

namespace FileNode

/-- The fields of a file node. -/
def schema : Schema :=
  ⟨"FileBlockDev",
    [.field (.embedded "options"),
     .field (.named "file" "filename"),
     .field (.plain "aio"),
     .field (.plain "locking")]⟩

instance : ToValue FileNode where
  toValue n := .record schema
    [n.options.valueFor "file", toValue n.file, toValue n.engine, toValue n.locking]

end FileNode

/-- A format node that shows the node below it, or a part of it, as it is. -/
structure RawNode where
  /-- Options of the node. -/
  options : NodeOptions := {}
  /-- The node below. -/
  file : Reference := {}
  /-- Where the visible part starts. -/
  offset : Nat := 0
  /-- The size of the visible part. -/
  size : Nat := 0

namespace RawNode

/-- The fields of a raw node. -/
def schema : Schema :=
  ⟨"RawBlockDev",
    [.field (.embedded "options"),
     .field (.plain "file"),
     .field (.plain "offset"),
     .field (.plain "size")]⟩

instance : ToValue RawNode where
  toValue n := .record schema
    [n.options.valueFor "raw", toValue n.file, toValue n.offset, toValue n.size]

end RawNode

/-- A format node over an image that grows with its contents. -/
structure Qcow2Node where
  /-- Options of the node. -/
  options : NodeOptions := {}
  /-- The node below. -/
  file : Reference := {}
  /-- The node that holds what the image itself does not. -/
  backing : Option Reference := none
  /-- Reference counts are written late. -/
  lazyRefcounts : Option Bool := none
  /-- The size of all caches. -/
  cacheSize : Nat := 0
  /-- The size of the cache of the second level table. -/
  l2CacheSize : Nat := 0
  /-- The size of an entry of that cache. -/
  l2CacheEntrySize : Nat := 0
  /-- The size of the cache of reference counts. -/
  refcountCacheSize : Nat := 0
  /-- Seconds after which unused cache entries are dropped. -/
  cacheCleanInterval : Option Nat := none
  /-- Discard requests of the guest reach the node below. -/
  passDiscardRequest : Option Bool := none
  /-- Discards by snapshots reach the node below. -/
  passDiscardSnapshot : Option Bool := none
  /-- Other discards reach the node below. -/
  passDiscardOther : Option Bool := none
  /-- How much is checked for overlaps. -/
  overlapCheck : String := ""

namespace Qcow2Node

/-- The fields of a qcow2 node. -/
def schema : Schema :=
  ⟨"Qcow2BlockDev",
    [.field (.embedded "options"),
     .field (.plain "file"),
     .field (.plain "backing"),
     .field (.kebab "lazy_refcounts"),
     .field (.kebab "cache_size"),
     .field (.kebab "l2_cache_size"),
     .field (.kebab "l2_cache_entry_size"),
     .field (.kebab "refcount_cache_size"),
     .field (.kebab "cache_clean_interval"),
     .field (.kebab "pass_discard_request"),
     .field (.kebab "pass_discard_snapshot"),
     .field (.kebab "pass_discard_other"),
     .field (.kebab "overlap_check")]⟩

instance : ToValue Qcow2Node where
  toValue n := .record schema
    [n.options.valueFor "qcow2", toValue n.file, toValue n.backing, toValue n.lazyRefcounts,
     toValue n.cacheSize, toValue n.l2CacheSize, toValue n.l2CacheEntrySize,
     toValue n.refcountCacheSize, toValue n.cacheCleanInterval, toValue n.passDiscardRequest,
     toValue n.passDiscardSnapshot, toValue n.passDiscardOther, toValue n.overlapCheck]

end Qcow2Node

/-- A node of any other driver, with properties by ascending key. -/
structure GenericNode where
  /-- The driver. -/
  driver : String := ""
  /-- Options of the node. -/
  options : NodeOptions := {}
  /-- Properties by key. -/
  properties : List (String × Property) := []

namespace GenericNode

/-- The fields of a generic node. -/
def schema : Schema :=
  ⟨"GenericBlockDev", [.field (.embedded "options"), .field (.plain "properties")]⟩

instance : ToValue GenericNode where
  toValue n := .record schema
    [n.options.valueFor n.driver, toValue (Property.object n.properties)]

end GenericNode

end MachineArgs
