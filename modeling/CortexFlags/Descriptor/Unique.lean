import CortexFlags.Descriptor.Basic

/-! Descriptors without repetition: of each group that agree, the first is kept. -/

namespace CortexFlags.Descriptor

/-- Keep a descriptor that agrees with none of those kept so far. -/
def keepNew (kept : List Descriptor) (d : Descriptor) : List Descriptor :=
  if kept.any fun k => decide (k.key = d.key) && k.agrees d then kept else kept ++ [d]

/-- The first of each group of agreeing descriptors, in order. -/
def firstOfEach (ds : List Descriptor) : List Descriptor := ds.foldl keepNew []

end CortexFlags.Descriptor
