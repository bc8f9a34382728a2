import PictureIndex.Config
import PictureIndex.Proofs.ExtractedWords
import PictureIndex.Proofs.MergedWords
/-!
# Confident labels

A label counts unless its confidence is less than the threshold.  What "at or above" means is a
matter of the values that the bits stand for (`Single.value`): these are whole multiples of the
least positive number, and the two infinities.  The order of the bits is the order of the values
(`Single.value_le_value_iff`), since a greater exponent outweighs every fraction
(`Single.units_lt_units`).

So a label with a name counts in two cases: its confidence is at or above the threshold, or it is
not a number at all, which is neither less than the threshold nor at or above it
(`Label.counts_iff`).  A threshold of a configuration that a worker can be started with is always a
number.

* `confident_labels_contribute`: which words a classifier's answer adds, and that a higher threshold
  adds no word.
* `vague_label_contributes`: a label whose confidence is not a number adds its words.
-/

namespace PictureIndex

namespace Single

variable {x y : Single}

/-! ## Values in units -/

/-- The exponent, as it stands in the bits. -/
def exponent (x : Single) : Nat := x.magnitude / 0x800000

lemma units_eq (x : Single) : x.units = if x.exponent = 0 then x.magnitude % 0x800000
    else (0x800000 + x.magnitude % 0x800000) * 2 ^ (x.exponent - 1) := by
  rw [← Nat.shiftLeft_eq]
  rfl

/-- With this exponent, there are fewer units than any greater one has. -/
lemma units_lt (x : Single) : x.units < 0x800000 * 2 ^ x.exponent := by
  have hfraction : x.magnitude % 0x800000 < 0x800000 := Nat.mod_lt _ (by decide)
  rw [units_eq]
  split
  · rename_i hzero
    rwa [hzero]
  · rename_i hne
    calc (0x800000 + x.magnitude % 0x800000) * 2 ^ (x.exponent - 1)
        < (0x800000 * 2) * 2 ^ (x.exponent - 1) :=
          Nat.mul_lt_mul_of_pos_right (by omega) (Nat.two_pow_pos _)
      _ = 0x800000 * 2 ^ x.exponent := by
          rw [Nat.mul_assoc, ← Nat.pow_succ', Nat.succ_eq_add_one, Nat.sub_add_cancel (by omega)]

lemma le_units (h : x.exponent ≠ 0) : 0x800000 * 2 ^ (x.exponent - 1) ≤ x.units := by
  rw [units_eq, if_neg h]
  exact Nat.mul_le_mul_right _ (Nat.le_add_right _ _)

/-- Greater bits, more units. -/
lemma units_lt_units (h : x.magnitude < y.magnitude) : x.units < y.units := by
  have hle : x.exponent ≤ y.exponent := Nat.div_le_div_right h.le
  rcases hle.lt_or_eq with hlt | heq
  · calc x.units < 0x800000 * 2 ^ x.exponent := units_lt x
      _ ≤ 0x800000 * 2 ^ (y.exponent - 1) :=
          Nat.mul_le_mul_left _ (Nat.pow_le_pow_right (by decide) (by omega))
      _ ≤ y.units := le_units (by omega)
  · have hfraction : x.magnitude % 0x800000 < y.magnitude % 0x800000 := by
      rw [exponent, exponent] at heq
      omega
    rw [units_eq, units_eq, heq]
    split
    · exact hfraction
    · exact Nat.mul_lt_mul_of_pos_right (by omega) (Nat.two_pow_pos _)

lemma units_le_units_iff : x.units ≤ y.units ↔ x.magnitude ≤ y.magnitude := by
  rcases Nat.lt_trichotomy x.magnitude y.magnitude with hlt | heq | hlt
  · exact iff_of_true (units_lt_units hlt).le hlt.le
  · have hunits : x.units = y.units := by rw [units, units, heq]
    exact iff_of_true hunits.le heq.le
  · exact iff_of_false (units_lt_units hlt).not_ge hlt.not_ge

lemma units_eq_zero_iff : x.units = 0 ↔ x.magnitude = 0 := by
  have hzero : x.units ≤ 0 ↔ x.magnitude ≤ 0 := units_le_units_iff (y := zero)
  rwa [Nat.le_zero, Nat.le_zero] at hzero

/-! ## The order of values -/

/-- The value of a finite number in units. -/
def signedUnits (x : Single) : ℤ := if x.isNegative then -(x.units : ℤ) else x.units

/-- The value of a number in units, or one of the infinities. -/
def value (x : Single) : WithBot (WithTop ℤ) :=
  if x.isInfinite then if x.isNegative then ⊥ else ((⊤ : WithTop ℤ) : WithBot (WithTop ℤ))
  else ((x.signedUnits : WithTop ℤ) : WithBot (WithTop ℤ))

/-- Whether both are numbers and the first is greater or the same. -/
def AtLeast (x y : Single) : Prop := x.isNaN = false ∧ y.isNaN = false ∧ y.value ≤ x.value

lemma signedUnits_le_signedUnits_iff : x.signedUnits ≤ y.signedUnits ↔ x.order ≤ y.order := by
  have hxy := units_le_units_iff (x := x) (y := y)
  have hyx := units_le_units_iff (x := y) (y := x)
  have hx := units_eq_zero_iff (x := x)
  have hy := units_eq_zero_iff (x := y)
  rw [signedUnits, signedUnits, order, order]
  split <;> split <;> omega

/-- A number is an infinity at one end of the order, or finite. -/
lemma value_cases (h : x.isNaN = false) :
    (x.value = ⊥ ∧ x.order = -(infiniteBits : ℤ)) ∨
    (x.value = ((x.signedUnits : WithTop ℤ) : WithBot (WithTop ℤ)) ∧
      -(infiniteBits : ℤ) < x.order ∧ x.order < infiniteBits) ∨
    (x.value = ⊤ ∧ x.order = infiniteBits) := by
  simp only [isNaN, decide_eq_false_iff_not, not_lt] at h
  rcases h.lt_or_eq with hfinite | hinfinite
  · refine .inr (.inl ⟨?_, ?_⟩)
    · rw [value, isInfinite, if_neg (by simpa using hfinite.ne)]
    · rw [order]
      split <;> omega
  · rw [value, isInfinite, if_pos (by simpa using hinfinite), order, hinfinite]
    split
    · exact .inl ⟨rfl, rfl⟩
    · exact .inr (.inr ⟨rfl, rfl⟩)

/-- Numbers are ordered by their values. -/
lemma value_le_value_iff (hx : x.isNaN = false) (hy : y.isNaN = false) :
    x.value ≤ y.value ↔ x.order ≤ y.order := by
  have hpositive : 0 < infiniteBits := by decide
  rcases value_cases hx with ⟨hxv, hxo⟩ | ⟨hxv, hxo⟩ | ⟨hxv, hxo⟩ <;>
    rcases value_cases hy with ⟨hyv, hyo⟩ | ⟨hyv, hyo⟩ | ⟨hyv, hyo⟩ <;> rw [hxv, hyv]
  · exact iff_of_true le_rfl (by omega)
  · exact iff_of_true bot_le (by omega)
  · exact iff_of_true bot_le (by omega)
  · exact iff_of_false (by simp) (by omega)
  · simpa using signedUnits_le_signedUnits_iff
  · exact iff_of_true le_top (by omega)
  · exact iff_of_false (by simp) (by omega)
  · exact iff_of_false (WithBot.coe_lt_coe.mpr (WithTop.coe_lt_top _)).not_ge (by omega)
  · exact iff_of_true le_rfl (by omega)

lemma le_iff : x.le y = true ↔ y.AtLeast x := by
  simp only [le, Bool.and_eq_true, Bool.not_eq_true', decide_eq_true_eq, AtLeast]
  constructor
  · rintro ⟨⟨hx, hy⟩, hle⟩
    exact ⟨hy, hx, (value_le_value_iff hx hy).mpr hle⟩
  · rintro ⟨hy, hx, hle⟩
    exact ⟨⟨hx, hy⟩, (value_le_value_iff hx hy).mp hle⟩

/-- What is not less than a number is at or above it, or no number. -/
lemma not_lt_iff (hy : y.isNaN = false) :
    x.lt y = false ↔ x.AtLeast y ∨ x.isNaN = true := by
  cases hx : x.isNaN with
  | true => simp [lt, hx]
  | false => simp [lt, AtLeast, hx, hy, value_le_value_iff hy hx]

lemma AtLeast.trans {z : Single} (hxy : x.AtLeast y) (hyz : y.AtLeast z) : x.AtLeast z :=
  ⟨hxy.1, hyz.2.1, hyz.2.2.trans hxy.2.2⟩

end Single

/-- The threshold of a configuration that a worker can be started with is a number from zero to
one. -/
lemma Config.threshold_of_validate {c : Config} (h : c.validate = .ok ()) :
    c.confidenceThreshold.AtLeast .zero ∧ Single.one.AtLeast c.confidenceThreshold := by
  rw [validate] at h
  split at h
  · cases h
  split at h
  · cases h
  rename_i hrange
  rwa [Bool.not_eq_true, Bool.not_eq_false', Bool.and_eq_true, Single.le_iff,
    Single.le_iff] at hrange

/-- A label counts if it has a name and its confidence is at or above the threshold, or not a
number. -/
lemma Label.counts_iff {threshold : Single} (h : threshold.isNaN = false) {l : Label} :
    l.counts threshold = true ↔
      l.name ≠ "" ∧ (l.confidence.AtLeast threshold ∨ l.confidence.isNaN = true) := by
  rw [counts, Bool.and_eq_true, Bool.not_eq_true', Bool.not_eq_true', Single.not_lt_iff h,
    ← Bool.not_eq_true, String.isEmpty_iff]

namespace LabelAnswer

variable {a : LabelAnswer} {threshold : Single} {f : WordFilter} {ws : WordSet} {v : String}

lemma mem_addWords_iff (hok : a.status = .ok) :
    v ∈ (a.addWords threshold f ws).keys ↔
      v ∈ ws.keys ∨ ∃ l ∈ a.labels, l.counts threshold = true ∧ v ∈ f.extract l.name := by
  rw [addWords, hok]
  exact Pipeline.mem_foldl_extend.trans (or_comm.trans (or_congr_right a.exists_names))

/-- **Confident labels contribute words, and those whose confidence is no number.**  Take any
configuration that a worker can be started with, any answer, any filter and any set of words.

* An answer with an error leaves the set alone.
* Otherwise it is the set with the small forms of all words added that pass the filter and stand in
  the name of a label whose confidence is at or above the threshold, or not a number.
* A higher threshold, in a configuration that a worker can be started with as well, adds no word. -/
theorem confident_labels_contribute (c : Config) (hc : c.validate = .ok ()) (a : LabelAnswer)
    (f : WordFilter) (ws : WordSet) :
    (a.status ≠ .ok → a.addWords c.confidenceThreshold f ws = ws) ∧
    (a.status = .ok → ∀ v, v ∈ (a.addWords c.confidenceThreshold f ws).keys ↔ v ∈ ws.keys ∨
      ∃ l ∈ a.labels, l.name ≠ "" ∧
        (l.confidence.AtLeast c.confidenceThreshold ∨ l.confidence.isNaN = true) ∧
        ∃ w, Text.Stands w l.name ∧ f.accepts w = true ∧ v = Text.lower w) ∧
    ∀ c' : Config, c'.validate = .ok () → c'.confidenceThreshold.AtLeast c.confidenceThreshold →
      ∀ v ∈ (a.addWords c'.confidenceThreshold f ws).keys,
        v ∈ (a.addWords c.confidenceThreshold f ws).keys := by
  obtain ⟨⟨hnumber, -⟩, -⟩ := Config.threshold_of_validate hc
  refine ⟨fun hstatus => ?_, fun hok v => ?_, fun c' hc' hle v hv => ?_⟩
  · cases h : a.status with
    | ok => exact absurd h hstatus
    | error => rw [addWords, h]
  · simp only [mem_addWords_iff hok, Label.counts_iff hnumber, WordFilter.mem_extract_iff,
      and_assoc]
  · cases h : a.status with
    | error =>
      rw [addWords, h] at hv ⊢
      exact hv
    | ok =>
      rw [mem_addWords_iff h] at hv ⊢
      refine hv.imp_right ?_
      rintro ⟨l, hl, hcounts, hfound⟩
      refine ⟨l, hl, ?_, hfound⟩
      rw [Label.counts_iff hle.1] at hcounts
      rw [Label.counts_iff hnumber]
      exact ⟨hcounts.1, hcounts.2.imp_left (·.trans hle)⟩

/-- A label at the threshold adds its words, one below it does not, and an answer with an error adds
none. -/
theorem confident_labels_contribute_at_threshold :
    let c := Config.forRoot (Path.ofText "/pics")
    let c' := { c with confidenceThreshold := .one }
    let label (name : String) (confidence : Single) : Label :=
      { name := name, confidence := confidence, id := 0, mid := "" }
    let a : LabelAnswer :=
      ⟨.ok, [label "Golden retriever" c.confidenceThreshold, label "Cat" .zero]⟩
    let f := WordFilter.ofStopWords ["the"]
    c.validate = .ok () ∧ "golden" ∈ (a.addWords c.confidenceThreshold f Table.empty).keys ∧
      "cat" ∉ (a.addWords c.confidenceThreshold f Table.empty).keys ∧
      LabelAnswer.addWords ⟨.error, a.labels⟩ c.confidenceThreshold f Table.empty = Table.empty ∧
      c'.validate = .ok () ∧ c'.confidenceThreshold.AtLeast c.confidenceThreshold ∧
      ∀ v ∈ (a.addWords c'.confidenceThreshold f Table.empty).keys,
        v ∈ (a.addWords c.confidenceThreshold f Table.empty).keys := by
  intro c c' label a f
  have hc : c.validate = .ok () := by decide +kernel
  have hc' : c'.validate = .ok () := by decide +kernel
  obtain ⟨-, hwords, hraised⟩ := confident_labels_contribute c hc a f Table.empty
  obtain ⟨herror, -⟩ := confident_labels_contribute c hc ⟨.error, a.labels⟩ f Table.empty
  have hsame : c.confidenceThreshold.AtLeast c.confidenceThreshold :=
    Single.le_iff.mp (by decide +kernel)
  have hle : c'.confidenceThreshold.AtLeast c.confidenceThreshold :=
    (Config.threshold_of_validate hc).2
  have hgolden : Text.Stands "Golden" "Golden retriever" :=
    Text.mem_words_iff.mp (by decide +kernel)
  refine ⟨hc, (hwords rfl "golden").mpr (.inr ?_), by decide +kernel, herror (by decide), hc', hle,
    hraised c' hc' hle⟩
  exact ⟨_, List.mem_cons_self, by decide, .inl hsame, "Golden", hgolden, by decide +kernel,
    by decide +kernel⟩

/-- The label of a dog that comes with a confidence that is no number is neither at the threshold
nor above it, and adds its word. -/
theorem vague_label_contributes :
    let c := Config.forRoot (Path.ofText "/pics")
    let a : LabelAnswer := ⟨.ok, [{ name := "Dog", confidence := .nan, id := 0, mid := "" }]⟩
    let f := WordFilter.ofStopWords ["the"]
    c.validate = .ok () ∧ a.status = .ok ∧
      (∀ l ∈ a.labels, ¬ l.confidence.AtLeast c.confidenceThreshold) ∧
      (a.addWords c.confidenceThreshold f Table.empty).keys = ["dog"] := by
  refine ⟨by decide +kernel, rfl, ?_, by decide +kernel⟩
  rintro l hl ⟨hnumber, -⟩
  obtain rfl := List.mem_singleton.mp hl
  exact absurd hnumber (by decide)

end LabelAnswer

end PictureIndex
