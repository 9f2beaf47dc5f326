import FigureScript.Number.Binary64

/-!
# Values that can be drawn

Numbers of several widths, and truth values, as doubles. Every one of them is a double, so nothing is
rounded.
-/

namespace FigureScript

class SeriesValue (α : Type) where
  toFloat : α → Float

namespace SeriesValue

instance : SeriesValue Float := ⟨id⟩

instance : SeriesValue Float32 := ⟨fun value => Binary64.ofSingleBits value.toBits⟩

instance : SeriesValue Bool := ⟨fun value => Binary64.ofNat value.toNat⟩

instance : SeriesValue Int8 := ⟨fun value => Binary64.ofInt value.toInt⟩

instance : SeriesValue Int16 := ⟨fun value => Binary64.ofInt value.toInt⟩

instance : SeriesValue Int32 := ⟨fun value => Binary64.ofInt value.toInt⟩

instance : SeriesValue UInt8 := ⟨fun value => Binary64.ofNat value.toNat⟩

instance : SeriesValue UInt16 := ⟨fun value => Binary64.ofNat value.toNat⟩

instance : SeriesValue UInt32 := ⟨fun value => Binary64.ofNat value.toNat⟩

def toFloats {α : Type} [SeriesValue α] (values : List α) : List Float := values.map toFloat

end SeriesValue

end FigureScript
