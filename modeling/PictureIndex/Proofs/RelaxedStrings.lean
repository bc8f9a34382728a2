import Mathlib.Data.List.TakeWhile
import PictureIndex.Json.Relaxed
import PictureIndex.Proofs.JsonStrings
/-!
# Written words as a search sees them

A search looks at the words of a row by a reader of its own, whose notation is wider than plain
JSON.  What is written in plain JSON it reads as it is meant: in an array of strings a search finds
the strings of the array and no others (`find?_writeStrings`), whatever characters they have.

The proof follows that for the plain reader, character by character and item by item.  This reader
stops at a zero character, so it matters that none is ever written (`zero_not_mem_writeStrings`).
-/

namespace PictureIndex

namespace Relaxed

/-! ## Characters -/

/-- Tokens are not skipped. -/
lemma skipSpace_cons {c : Char} (hslash : c ≠ '/') (hspace : isSpace c = false) (cs : List Char) :
    skipSpace (c :: cs) = c :: cs := by
  rw [skipSpace, List.length_cons, skipSpace.go.eq_def]
  simp [hslash, hspace]

lemma text?_escape {plain : List Char} {n : Nat} (hn : n < 0xD800) (ps : List Piece) :
    text? (.escape plain n :: ps) = (text? ps).map (Char.ofNat n :: ·) := by
  have hhigh : ¬ 0xD800 ≤ n := by omega
  have hlow : ¬ 0xDC00 ≤ n := by omega
  rw [text?.eq_def]
  simp [hhigh, hlow]

/-- A backslash and a character with a meaning of its own make one piece. -/
lemma readString_short {e : Char} {p : Piece} (hshort : shortEscape? e = some p)
    (hother : e ≠ 'u' ∧ e ≠ 'x' ∧ endsLine e = false) (rest : List Char) :
    readString '"' ('\\' :: e :: rest) =
      (readString '"' rest).map fun (ps, rest) => (p :: ps, rest) := by
  obtain ⟨hu, hx, hline⟩ := hother
  have hreturn : e ≠ '\r' := by
    rintro rfl
    exact absurd hline (by decide)
  rw [readString.eq_def]
  cases hrest : readString '"' rest <;> simp [hu, hx, hreturn, hline, hshort, hrest]

/-- What is written for a character is read as one piece, which means this character. -/
lemma readString_escapeChar (c : Char) (rest : List Char) :
    ∃ p, (∀ ps, text? (p :: ps) = (text? ps).map (c :: ·)) ∧
      readString '"' (Json.escapeChar c ++ rest) =
        (readString '"' rest).map fun (ps, rest) => (p :: ps, rest) := by
  unfold Json.escapeChar
  -- the two-character escapes, one by one
  iterate 7
    split
    · subst_vars
      refine ⟨_, ?_, readString_short rfl (by decide) rest⟩
      exact fun ps => text?_escape (by decide) ps
  split
  · rename_i hcontrol
    have hunit := Json.hex4?_hexDigits hcontrol
    generalize Json.hexDigit (c.toNat / 16) = high, Json.hexDigit (c.toNat % 16) = low at hunit ⊢
    refine ⟨.escape ['\\', 'u', '0', '0', high, low] c.toNat, fun ps => ?_, ?_⟩
    · rw [text?_escape (by omega), Char.ofNat_toNat]
    · cases hrest : readString '"' rest <;> simp [readString, unitEscape?, hunit, hrest]
  · rename_i hquote hbackslash _ _ _ _ _ hcontrol
    refine ⟨.raw c, fun ps => rfl, ?_⟩
    have hzero : c ≠ '\x00' := by
      rintro rfl
      exact absurd (by decide) hcontrol
    rw [List.singleton_append, readString.eq_def]
    cases hrest : readString '"' rest <;> simp [hquote, hbackslash, hzero, hrest]

/-! ## Strings -/

/-- A string is read up to its closing quote. -/
lemma readString_flatMap (cs rest : List Char) :
    ∃ ps, text? ps = some cs ∧
      readString '"' (cs.flatMap Json.escapeChar ++ '"' :: rest) = some (ps, rest) := by
  induction cs with
  | nil => exact ⟨[], rfl, rfl⟩
  | cons c cs ih =>
    obtain ⟨ps, htext, hread⟩ := ih
    obtain ⟨p, hp, hpiece⟩ :=
      readString_escapeChar c (cs.flatMap Json.escapeChar ++ '"' :: rest)
    refine ⟨p :: ps, ?_, ?_⟩
    · rw [hp, htext]
      rfl
    · rw [List.flatMap_cons, List.append_assoc, hpiece, hread]
      rfl

/-- Whether a value is a string that stands for a text. -/
def Means (v : Relaxed) (s : String) : Prop := ∃ ps, v = .string ps ∧ text? ps = some s.toList

/-- A string in quotes is read as a value that stands for it. -/
lemma readValue_quote (fuel depth : Nat) (s : String) (rest : List Char) :
    ∃ v, Means v s ∧
      readValue (fuel + 1) depth ((Json.quote s).toList ++ rest) = some (v, rest) := by
  obtain ⟨ps, htext, hread⟩ := readString_flatMap s.toList rest
  refine ⟨.string ps, ⟨ps, rfl, htext⟩, ?_⟩
  have hquote : (Json.quote s).toList ++ rest =
      '"' :: (s.toList.flatMap Json.escapeChar ++ '"' :: rest) := by
    simp [Json.quote]
  rw [hquote, readValue, skipSpace_cons (by decide) (by decide)]
  simp only [hread, Option.map_some]

/-! ## Arrays -/

/-- The strings of an array are read up to the closing bracket. -/
lemma readItems_written (s : String) (ss : List String) (rest : List Char) (depth : Nat) :
    ∀ fuel, ss.length + 1 < fuel → ∃ vs, List.Forall₂ Means vs (s :: ss) ∧
      readItems fuel depth ((Json.quote s).toList ++
        (ss.flatMap (fun s => ',' :: (Json.quote s).toList) ++ ']' :: rest)) =
        some (vs, rest) := by
  have hstart (s : String) (rest : List Char) : ∃ cs, (Json.quote s).toList ++ rest = '"' :: cs :=
    ⟨s.toList.flatMap Json.escapeChar ++ '"' :: rest, by simp [Json.quote]⟩
  have hskip {c : Char} (hc : c = '"' ∨ c = ']' ∨ c = ',') (cs : List Char) :
      skipSpace (c :: cs) = c :: cs := by
    rcases hc with rfl | rfl | rfl <;> exact skipSpace_cons (by decide) (by decide) cs
  induction ss generalizing s with
  | nil =>
    rintro (_ | _ | fuel) hfuel
    · exact absurd hfuel (Nat.not_lt_zero _)
    · exact absurd hfuel (Nat.lt_irrefl _)
    obtain ⟨v, hv, hvalue⟩ := readValue_quote fuel depth s (']' :: rest)
    refine ⟨[v], .cons hv .nil, ?_⟩
    obtain ⟨cs, hcs⟩ := hstart s (']' :: rest)
    rw [List.flatMap_nil, List.nil_append]
    rw [hcs] at hvalue ⊢
    rw [readItems, hskip (.inl rfl)]
    simp [hvalue, hskip (.inr (.inl rfl))]
  | cons s' ss ih =>
    rintro (_ | _ | fuel) hfuel
    · exact absurd hfuel (Nat.not_lt_zero _)
    · exact absurd hfuel (by simp)
    obtain ⟨vs, hvs, hitems⟩ := ih s' (fuel + 1) (by simpa using hfuel)
    set later := (Json.quote s').toList ++
      (ss.flatMap (fun s => ',' :: (Json.quote s).toList) ++ ']' :: rest)
    obtain ⟨v, hv, hvalue⟩ := readValue_quote fuel depth s (',' :: later)
    refine ⟨v :: vs, .cons hv hvs, ?_⟩
    have hlater : (s' :: ss).flatMap (fun s => ',' :: (Json.quote s).toList) ++ ']' :: rest =
        ',' :: later := by
      simp [later]
    obtain ⟨cs, hcs⟩ := hstart s (',' :: later)
    rw [hlater]
    rw [hcs] at hvalue ⊢
    rw [readItems, hskip (.inl rfl)]
    simp [hvalue, hskip (.inr (.inr rfl)), hitems]

/-! ## Zero characters -/

lemma zero_not_mem_escapeChar (c : Char) : '\x00' ∉ Json.escapeChar c := by
  have hdigit : ∀ n < 16, Json.hexDigit n ≠ '\x00' := by decide
  unfold Json.escapeChar
  iterate 7
    split
    · simp
  split
  · rename_i hcontrol
    have hhigh := hdigit (c.toNat / 16) (by omega)
    have hlow := hdigit (c.toNat % 16) (by omega)
    simp [hhigh.symm, hlow.symm]
  · rename_i hcontrol
    rw [List.mem_singleton]
    rintro rfl
    exact hcontrol (by decide)

/-- No zero character is ever written. -/
lemma zero_not_mem_writeStrings (ss : List String) :
    '\x00' ∉ (Json.writeStrings ss).toList := by
  have hquote (s : String) : '\x00' ∉ (Json.quote s).toList := by
    simp [Json.quote, zero_not_mem_escapeChar]
  cases ss with
  | nil => decide
  | cons s ss =>
    rw [Json.toList_writeStrings_cons]
    simp [hquote]

/-- **Written strings are read as they are meant.** -/
lemma parse?_writeStrings (ss : List String) :
    ∃ vs, parse? (Json.writeStrings ss) = some (.array vs) ∧ List.Forall₂ Means vs ss := by
  have hwhole : (Json.writeStrings ss).toList.takeWhile (· ≠ '\x00') =
      (Json.writeStrings ss).toList := by
    rw [List.takeWhile_eq_self_iff]
    intro c hc
    rw [decide_eq_true_eq]
    rintro rfl
    exact zero_not_mem_writeStrings ss hc
  rw [parse?, hwhole]
  cases ss with
  | nil => exact ⟨[], rfl, .nil⟩
  | cons s ss =>
    rw [Json.toList_writeStrings_cons, List.length_cons]
    have hlength := Json.length_le_flatMap ss
    obtain ⟨vs, hvs, hitems⟩ := readItems_written s ss [] 999 (((Json.quote s).toList ++
      (ss.flatMap (fun s => ',' :: (Json.quote s).toList) ++ [']'])).length + 1)
      (by simp only [List.length_append, List.length_singleton]; omega)
    refine ⟨vs, ?_, hvs⟩
    rw [readValue, skipSpace_cons (by decide) (by decide), mostDepth]
    simp only [hitems, Option.map_some]
    rfl

/-! ## Searching -/

/-- Among values that stand for texts, a search finds these texts. -/
lemma among?_means {vs : List Relaxed} {ss : List String} (h : List.Forall₂ Means vs ss)
    (word : String) : among? word.toList vs = some (decide (word ∈ ss)) := by
  induction h with
  | nil => simp [among?]
  | @cons v s vs ss hv _ ih =>
    obtain ⟨ps, rfl, htext⟩ := hv
    have hsame : s = word ↔ s.toList = word.toList := String.toList_inj.symm
    rw [among?, shown?, htext, ih]
    · by_cases hword : s = word
      · simp [hword]
      · simp [Ne.symm hword, mt hsame.mpr hword]
    · rintro _ ⟨⟩

/-- **A search finds what was written.** -/
theorem find?_writeStrings (ss : List String) (word : String) :
    (parse? (Json.writeStrings ss)).bind (·.find? word) = some (decide (word ∈ ss)) := by
  obtain ⟨vs, hparse, hvs⟩ := parse?_writeStrings ss
  rw [hparse]
  exact among?_means hvs word

end Relaxed

end PictureIndex
