import PictureIndex.Text.Utf8
/-!
# Texts in the order of their bytes

Everything that the index lists is listed in ascending order of UTF-8 bytes, which is also the
order of the keys in its tables.  `Before` is that order; it is strict, transitive and total.
-/

namespace PictureIndex.Text

/-- The UTF-8 bytes of a text. -/
def bytes (s : String) : List UInt8 := Utf8.encode s.toList

/-- The text of arbitrary bytes, with U+FFFD for what is not UTF-8. -/
def ofBytesLossy (bs : List UInt8) : String := String.ofList (Utf8.decodeLossy bs)

/-- The text of bytes that are UTF-8. -/
def ofBytes? (bs : List UInt8) : Option String := (Utf8.decode? bs).map String.ofList

@[simp] theorem ofBytesLossy_bytes (s : String) : ofBytesLossy (bytes s) = s := by
  simp [ofBytesLossy, bytes]

@[simp] theorem ofBytes?_bytes (s : String) : ofBytes? (bytes s) = some s := by
  simp [ofBytes?, bytes]

theorem bytes_injective {s t : String} (h : bytes s = bytes t) : s = t := by
  rw [← ofBytesLossy_bytes s, h, ofBytesLossy_bytes]

/-- `s` comes before `t`. -/
def Before (s t : String) : Prop := bytes s < bytes t

instance (s t : String) : Decidable (Before s t) :=
  inferInstanceAs (Decidable (bytes s < bytes t))

theorem Before.irrefl (s : String) : ¬ Before s s := List.lt_irrefl _

theorem Before.trans {s t u : String} (h₁ : Before s t) (h₂ : Before t u) : Before s u :=
  List.lt_trans h₁ h₂

theorem Before.ne {s t : String} (h : Before s t) : s ≠ t := by
  rintro rfl
  exact Before.irrefl s h

/-- Two different texts are ordered one way or the other. -/
theorem before_of_not_before {s t : String} (h : ¬ Before s t) (hne : s ≠ t) : Before t s := by
  have hle : bytes t ≤ bytes s := List.not_lt.1 h
  rcases List.le_iff_lt_or_eq.1 hle with hlt | heq
  · exact hlt
  · exact absurd (bytes_injective heq).symm hne

end PictureIndex.Text
