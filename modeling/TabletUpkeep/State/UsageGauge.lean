/-! The usage ratio last reported, kept as its bits. One pattern, all ones, means that nothing has
been reported; it is the pattern of no ratio. -/
namespace TabletUpkeep

structure UsageGauge where
  bits : UInt64 := 0xffffffffffffffff
  deriving DecidableEq, Repr

namespace UsageGauge

def read (g : UsageGauge) : Option Float :=
  if g.bits = 0xffffffffffffffff then none else some (Float.ofBits g.bits)

def set (_ : UsageGauge) (usage : Float) : UsageGauge := ⟨usage.toBits⟩

/-- Stores a bit pattern as it is. -/
def setBits (_ : UsageGauge) (bits : UInt64) : UsageGauge := ⟨bits⟩

end UsageGauge

end TabletUpkeep
