import SqlCatalog.Value.Basic
/-!
# Making values

What callers may pass for a value. Integers of up to 32 bits, signed or not, and
of 64 bits signed are integers; a single is widened; a missing value is null.
-/
namespace SqlCatalog

/-- Types whose elements stand for values. -/
class ToValue (α : Type) where
  toValue : α → Value

export ToValue (toValue)

namespace Value

instance : ToValue Value := ⟨id⟩

instance : ToValue Bool := ⟨bool⟩

instance : ToValue Int64 := ⟨int⟩

instance : ToValue Int32 := ⟨fun n => int n.toInt64⟩

instance : ToValue Int16 := ⟨fun n => int n.toInt64⟩

instance : ToValue Int8 := ⟨fun n => int n.toInt64⟩

instance : ToValue UInt32 := ⟨fun n => int (Int64.ofNat n.toNat)⟩

instance : ToValue UInt16 := ⟨fun n => int (Int64.ofNat n.toNat)⟩

instance : ToValue UInt8 := ⟨fun n => int (Int64.ofNat n.toNat)⟩

instance : ToValue Binary64 := ⟨float⟩

instance : ToValue Binary32 := ⟨fun x => float (.ofSingle x)⟩

instance : ToValue String := ⟨text⟩

instance : ToValue (List UInt8) := ⟨bytes⟩

instance : ToValue Json := ⟨json⟩

instance {α : Type} [ToValue α] : ToValue (Option α) :=
  ⟨fun x => match x with
    | some a => toValue a
    | none => null⟩

end Value

end SqlCatalog
