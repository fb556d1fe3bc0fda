import Memkind.Library.Run
import Memkind.Library.Ledger
import Memkind.Library.IndexPool
import Memkind.Library.ExactFloat
import Memkind.Library.Extents
import Memkind.Library.BlockHeap
import Memkind.Library.Descriptors
import Memkind.Library.Parsed
import Memkind.Library.Settings
import Memkind.Library.Tokens
import Memkind.Library.Fields
import Memkind.Library.Numerals
import Memkind.Library.Scan
import Memkind.Library.Routing
import Memkind.Library.Minimizers
import Memkind.Library.FirstBest
import Memkind.Library.Allocations
import Memkind.Library.Strides
import Memkind.Library.PowerMasks
import Memkind.Library.AddressSpace
import Memkind.Library.BreakLoop
import Memkind.Library.Threads
import Memkind.Library.NearestFraction
import Memkind.Library.Tiling
import Memkind.Construction.Types
import Memkind.Construction.AllocSize
import Memkind.Construction.Registry
import Memkind.Construction.Arena
import Memkind.Construction.Statistics
import Memkind.Construction.Tiering
import Memkind.Construction.Memtier
import Memkind.Construction.LibMemtier
import Memkind.Construction.KindCalls
import Memkind.Construction.BackEnd
import Memkind.Construction.Fixed
import Memkind.Construction.Pmem
import Memkind.Construction.PmemCreate
import Memkind.Construction.Builder
import Memkind.Construction.Ctl
import Memkind.Construction.CtlSet
import Memkind.Construction.MemtierTool
import Memkind.Construction.Bitmask
import Memkind.Construction.AutoHbw
import Memkind.Construction.MemAttributes
import Memkind.Construction.HiCap
import Memkind.Construction.HbwVerify
import Memkind.Construction.ExtentAlloc
import Memkind.Construction.Hugetlb
import Memkind.Construction.HeapManager
import Memkind.Construction.HbwPolicy
import Memkind.Construction.ExtentHooks
import Memkind.Construction.Finalize
import Memkind.Construction.HbwNodes
import Memkind.Construction.ThreadCache
import Memkind.Proof.Accounting.Conservation
import Memkind.Proof.Accounting.AllocatedSize
import Memkind.Proof.Accounting.Batched
import Memkind.Proof.Accounting.Lag
import Memkind.Proof.Accounting.GlobalCounter
import Memkind.Proof.Accounting.Flushes
import Memkind.Proof.Registry.Steps
import Memkind.Proof.Registry.Search
import Memkind.Proof.Registry.Invariant
import Memkind.Proof.Registry.Names
import Memkind.Proof.Registry.Slots
import Memkind.Proof.Registry.Partition
import Memkind.Proof.Registry.Finalize
import Memkind.Proof.Arena.Steps
import Memkind.Proof.Arena.Invariant
import Memkind.Proof.Arena.Blocks
import Memkind.Proof.Arena.Ownership
import Memkind.Proof.Arena.IndexBound
import Memkind.Proof.Arena.FailedCreation
import Memkind.Proof.Arena.Statistics
import Memkind.Proof.Arena.ThreadArena
import Memkind.Proof.Arena.ExtentAlloc
import Memkind.Proof.Tiering.ThresholdClamp
import Memkind.Proof.Tiering.RatioPolicy
import Memkind.Proof.Tiering.StaticRatio
import Memkind.Proof.Tiering.Builder
import Memkind.Proof.Tiering.RoutingWindow
import Memkind.Proof.Tiering.TotalSize
import Memkind.Proof.Tiering.Validation
import Memkind.Proof.Tiering.CheckCount
import Memkind.Proof.Tiering.BuilderRun
import Memkind.Proof.LibMemtier.Accounting
import Memkind.Proof.LibMemtier.Free
import Memkind.Proof.LibMemtier.FailedCalls
import Memkind.Proof.BackEnd.Calloc
import Memkind.Proof.BackEnd.Memalign
import Memkind.Proof.Fixed.Placement
import Memkind.Proof.Fixed.Region
import Memkind.Proof.Pmem.Steps
import Memkind.Proof.Pmem.Atomic
import Memkind.Proof.Pmem.SizeLimit
import Memkind.Proof.Pmem.FailedCalls
import Memkind.Proof.Pmem.FileRanges
import Memkind.Proof.Ctl.Params
import Memkind.Proof.Ctl.TierQuery
import Memkind.Proof.Ctl.ControlName
import Memkind.Proof.Ctl.ParamOrder
import Memkind.Proof.Ctl.Create
import Memkind.Proof.Ctl.NullSafety
import Memkind.Proof.Ctl.TierTable
import Memkind.Proof.Ctl.FsDaxRegistry
import Memkind.Proof.Ctl.Acceptance
import Memkind.Proof.Ctl.Language
import Memkind.Proof.Ctl.MemtierTool
import Memkind.Proof.Ctl.FriendlyRatio
import Memkind.Proof.Ctl.NameLanguage
import Memkind.Proof.Ctl.SizeLanguage
import Memkind.Proof.Bitmask.Closest
import Memkind.Proof.Bitmask.LocalNodes
import Memkind.Proof.Bitmask.HiCapMasks
import Memkind.Proof.Bitmask.HbwNodes
import Memkind.Proof.Hbw.VerifyRegion
import Memkind.Proof.Hbw.Policy
import Memkind.Proof.Hugetlb.Discovery
import Memkind.Proof.HeapManager.DetectKind
import Memkind.Proof.AutoHbw.Promotion
import Memkind.Proof.Extents.Arena
import Memkind.Proof.Extents.ArenaKinds
import Memkind.Proof.Extents.PmemKinds
import Memkind.Proof.ThreadCache.Caches
import Memkind.Proof.ThreadCache.FirstCache
