import Mathlib.Data.List.Basic
import PictureIndex.Proofs.StoreTables
/-!
# Words come back from their JSON text

A row keeps the words of a picture as a JSON array of strings.  Reading undoes writing: whatever
characters the words have, the array that was written has the same words
(`readWords?_writeStrings`).

A string is read character by character.  What is written for one character is read as one unit,
be it the character itself or an escape of its number, and the unit means that character
(`readString_escapeChar`).  For an array only its length matters beside this, since the reader may
not look at more tokens than the text has characters (`readItems_written`).
-/

namespace PictureIndex

namespace Json

/-! ## Characters -/

lemma hexValue?_hexDigit : ∀ n, n < 16 → hexValue? (hexDigit n) = some n := by
  decide

/-- The escape of a control character has its number. -/
lemma hex4?_hexDigits {n : Nat} (hn : n < 0x20) :
    hex4? '0' '0' (hexDigit (n / 16)) (hexDigit (n % 16)) = some n := by
  have hzero : hexValue? '0' = some 0 := by decide
  have hhigh := hexValue?_hexDigit (n / 16) (by omega)
  have hlow := hexValue?_hexDigit (n % 16) (by omega)
  have hsum : n / 16 * 16 + n % 16 = n := by omega
  simp [hex4?, hzero, hhigh, hlow, hsum]

lemma text?_escape {n : Nat} (hn : n < 0x20) (us : List Unit) :
    text? (.escape n :: us) = (text? us).map (Char.ofNat n :: ·) := by
  have hhigh : ¬ 0xD800 ≤ n := by omega
  have hlow : ¬ 0xDC00 ≤ n := by omega
  rw [text?.eq_def]
  simp [hhigh, hlow]

/-- What is written for a character is read as one unit, which means this character. -/
lemma readString_escapeChar (c : Char) (rest : List Char) :
    ∃ u, (∀ us, text? (u :: us) = (text? us).map (c :: ·)) ∧
      readString (escapeChar c ++ rest) =
        (readString rest).map fun (us, rest) => (u :: us, rest) := by
  unfold escapeChar
  -- the two-character escapes, one by one
  iterate 7
    split
    · subst_vars
      refine ⟨.char _, fun us => rfl, ?_⟩
      cases hrest : readString rest <;> simp [readString, shortEscape?, hrest]
  split
  · rename_i hcontrol
    refine ⟨.escape c.toNat, fun us => ?_, ?_⟩
    · rw [text?_escape hcontrol, Char.ofNat_toNat]
    · cases hrest : readString rest <;> simp [readString, hex4?_hexDigits hcontrol, hrest]
  · rename_i hbackslash _ _ _ _ _ hcontrol
    refine ⟨.char c, fun us => rfl, ?_⟩
    rw [List.singleton_append, readString.eq_def]
    cases hrest : readString rest <;> simp [hbackslash, hcontrol, hrest]

/-! ## Strings -/

/-- A string is read up to its closing quote. -/
lemma readString_flatMap (cs rest : List Char) :
    ∃ us, text? us = some cs ∧
      readString (cs.flatMap escapeChar ++ '"' :: rest) = some (us, rest) := by
  induction cs with
  | nil => exact ⟨[], rfl, rfl⟩
  | cons c cs ih =>
    obtain ⟨us, htext, hread⟩ := ih
    obtain ⟨u, hu, hunit⟩ := readString_escapeChar c (cs.flatMap escapeChar ++ '"' :: rest)
    refine ⟨u :: us, ?_, ?_⟩
    · rw [hu, htext]
      rfl
    · rw [List.flatMap_cons, List.append_assoc, hunit, hread]
      rfl

/-- A string in quotes is read as a value that stands for it. -/
lemma readValue_quote (fuel : Nat) (s : String) (rest : List Char) :
    ∃ v, asString? v = some s ∧
      readValue (fuel + 1) ((quote s).toList ++ rest) = some (v, rest) := by
  obtain ⟨us, htext, hread⟩ := readString_flatMap s.toList rest
  refine ⟨.string us, ?_, ?_⟩
  · rw [asString?, htext, Option.map_some, String.ofList_toList]
  · have hquote : (quote s).toList ++ rest =
        '"' :: (s.toList.flatMap escapeChar ++ '"' :: rest) := by
      simp [quote]
    have hspace (cs : List Char) : skipSpace ('"' :: cs) = '"' :: cs := rfl
    rw [hquote, readValue, hspace]
    simp only [hread, Option.map_some]

/-! ## Arrays -/

/-- Further strings of an array are read up to the closing bracket. -/
lemma readItems_written (ss : List String) (rest : List Char) :
    ∀ fuel, ss.length < fuel → ∃ vs, vs.mapM asString? = some ss ∧
      readItems fuel (ss.flatMap (fun s => ',' :: (quote s).toList) ++ ']' :: rest) =
        some (vs, rest) := by
  induction ss with
  | nil =>
    rintro (_ | fuel) hfuel
    · exact absurd hfuel (Nat.not_lt_zero _)
    · exact ⟨[], rfl, rfl⟩
  | cons s ss ih =>
    rintro (_ | _ | fuel) hfuel
    · exact absurd hfuel (Nat.not_lt_zero _)
    · exact absurd hfuel (by simp)
    obtain ⟨vs, htexts, hitems⟩ := ih (fuel + 1) (by simpa using hfuel)
    obtain ⟨v, htext, hvalue⟩ := readValue_quote fuel s
      (ss.flatMap (fun s => ',' :: (quote s).toList) ++ ']' :: rest)
    refine ⟨v :: vs, by simp [htext, htexts], ?_⟩
    have hspace (cs : List Char) : skipSpace (',' :: cs) = ',' :: cs := rfl
    rw [List.flatMap_cons, List.cons_append, List.cons_append, List.append_assoc, readItems, hspace]
    simp only [hvalue, hitems, Option.map_some]

lemma intercalate_cons (comma first : List Char) (rest : List (List Char)) :
    comma.intercalate (first :: rest) = first ++ rest.flatMap (comma ++ ·) := by
  induction rest generalizing first with
  | nil => simp
  | cons second rest ih => rw [List.intercalate_cons_cons, ih, List.flatMap_cons]; simp

lemma length_le_flatMap (ss : List String) :
    ss.length ≤ (ss.flatMap fun s => ',' :: (quote s).toList).length := by
  induction ss with
  | nil => exact Nat.le_refl 0
  | cons s ss ih =>
    rw [List.flatMap_cons, List.length_append, List.length_cons, List.length_cons]
    omega

/-- What stands between the brackets: the first string, and the others behind commas. -/
lemma toList_writeStrings_cons (s : String) (ss : List String) :
    (writeStrings (s :: ss)).toList = '[' :: ((quote s).toList ++
      (ss.flatMap (fun s => ',' :: (quote s).toList) ++ [']'])) := by
  simp [writeStrings, bracket, intercalate_cons, List.flatMap_map]

/-- **An array of strings is read as it was written.** -/
theorem parse?_writeStrings (ss : List String) :
    ∃ v, parse? (writeStrings ss) = some v ∧ asList? asString? v = some ss := by
  cases ss with
  | nil => exact ⟨.array [], rfl, rfl⟩
  | cons s ss =>
    have htext := toList_writeStrings_cons s ss
    -- the reader may look at as many tokens as the text has characters
    have hlength : ss.length < (writeStrings (s :: ss)).length := by
      have hcommas := length_le_flatMap ss
      rw [← String.length_toList, htext]
      simp only [List.length_cons, List.length_append]
      omega
    obtain ⟨fuel, hfuel⟩ := Nat.exists_eq_add_one_of_ne_zero (Nat.ne_zero_of_lt hlength)
    obtain ⟨vs, hwords, hitems⟩ := readItems_written ss [] (fuel + 1) (hfuel ▸ hlength)
    obtain ⟨v, hword, hvalue⟩ := readValue_quote fuel s
      (ss.flatMap (fun s => ',' :: (quote s).toList) ++ [']'])
    refine ⟨.array (v :: vs), ?_, by simp [asList?, hword, hwords]⟩
    have hopen (cs : List Char) : skipSpace ('[' :: cs) = '[' :: cs := rfl
    have hquote : ∃ cs, (quote s).toList = '"' :: cs := ⟨_, by simp [quote]; rfl⟩
    obtain ⟨cs, hquote⟩ := hquote
    have hspace (cs : List Char) : skipSpace ('"' :: cs) = '"' :: cs := rfl
    rw [parse?, htext, hfuel, readValue, hopen]
    rw [hquote, List.cons_append] at hvalue ⊢
    simp only [hspace, hvalue, hitems, Option.map_some]
    rfl

end Json

/-! ## Sets of words -/

/-- Listing a set of words and collecting them again makes no difference. -/
lemma WordSet.ofList_keys (words : WordSet) : WordSet.ofList words.keys = words :=
  WordSet.ext_keys fun _ => WordSet.mem_ofList

/-- **The words of a row are those that were written.** -/
theorem Store.readWords?_writeStrings (words : WordSet) :
    readWords? (Json.writeStrings words.keys) = some words := by
  obtain ⟨v, hparse, hlist⟩ := Json.parse?_writeStrings words.keys
  rw [readWords?, hparse, Option.bind_some, hlist, Option.map_some, WordSet.ofList_keys]

end PictureIndex
