/-
This file embeds the kind of `memkind_fixed.c`, which hands out the memory of its user in one
direction and never takes it back.
-/

import Memkind.Construction.Registry

namespace Memkind

/-- `struct memkind_fixed` without its lock. -/
structure FixedPriv where
  addr : Address
  size : SizeT
  current : SizeT
  deriving DecidableEq

/-- `memkind_create_fixed` -/
def memkindCreateFixed (addr : Address) (size : SizeT) (outcome : CreateOutcome)
    (registry : Registry) : Option (Status × Option KindPtr × Option FixedPriv × Registry) :=
  (memkindCreate .fixed (fixedName addr) outcome registry).map fun (err, kind, registry) =>
    if err ≠ .success then (err, kind, none, registry)
    else (.success, kind, some ⟨addr, size, 0⟩, registry)

/-- The distance from the bump pointer to the next aligned address. -/
def fixedAlignOffset (alignment : SizeT) (priv : FixedPriv) : SizeT :=
  if priv.addr % alignment ≠ 0 then alignment - priv.addr % alignment else 0

/-- `memkind_fixed_mmap_aligned`, which does not accept an empty request. Without an alignment
the remainder has no meaning. -/
def memkindFixedMmapAligned (alignment size : SizeT) (priv : FixedPriv) :
    Option (Address × FixedPriv) :=
  if size = 0 ∨ alignment = 0 then none
  else
    let alignOffset := fixedAlignOffset alignment priv
    if priv.size < priv.current + size + alignOffset then some (mapFailed, priv)
    else
      let result := priv.addr + alignOffset
      some (result,
        { priv with
          addr := result + size
          current := priv.current + (size + alignOffset) })

/-- `fixed_extent_alloc` for an arena of the kind. A fixed kind is always available. -/
def fixedExtentAlloc (newAddr : Address) (size alignment : SizeT) (priv : FixedPriv) :
    Option (Address × FixedPriv) :=
  if newAddr ≠ 0 then some (0, priv)
  else
    (memkindFixedMmapAligned alignment size priv).map fun (addr, priv) =>
      (if addr ≠ mapFailed then addr else 0, priv)

/-- `fixed_extent_dalloc` keeps the memory and reports a failure. -/
def fixedExtentDalloc (_addr : Address) (_size : SizeT) (priv : FixedPriv) : Bool × FixedPriv :=
  (true, priv)

end Memkind
