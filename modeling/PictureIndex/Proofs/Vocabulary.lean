import PictureIndex.WordFilter
import Mathlib.Data.List.Basic
/-!
# The words of the index

A word that is extracted from a text has at least three characters, starts with a small ASCII
letter, has no blanks and is the small form of no stop word (`WordFilter.Keeps`,
`WordFilter.keeps_extract`).  The filter looks at the words before they are put in lower case; so
lower case must not shorten a word, must not turn a letter into anything but its small form, and
must not make a blank.
-/

namespace PictureIndex

namespace Text

/-! ## Lower case -/

/-- The code points of the blanks. -/
def blanks : List Nat :=
  [0x09, 0x0A, 0x0B, 0x0C, 0x0D, 0x20, 0x85, 0xA0, 0x1680, 0x2000, 0x2001, 0x2002, 0x2003, 0x2004,
    0x2005, 0x2006, 0x2007, 0x2008, 0x2009, 0x200A, 0x2028, 0x2029, 0x202F, 0x205F, 0x3000]

lemma mem_blanks {c : Char} (h : isBlank c = true) : c.toNat ∈ blanks := by
  simp only [isBlank, Bool.or_eq_true, Bool.and_eq_true, decide_eq_true_eq, beq_iff_eq] at h
  simp only [blanks, List.mem_cons, List.not_mem_nil, or_false]
  omega

/-- No small form of a capital is a blank. -/
lemma lowerRuns_avoid_blanks : ∀ r ∈ lowerRuns, ∀ b ∈ blanks,
    ¬ ((r.first : Int) + r.distance ≤ b ∧ (b : Int) ≤ r.last + r.distance) := by
  decide +kernel

lemma toNat_ofNat_eq {n : Nat} (h : (Char.ofNat n).toNat ≠ 0) : (Char.ofNat n).toNat = n := by
  by_cases hvalid : n.isValidChar
  · exact congrArg Char.toNat (dif_pos hvalid)
  · exact absurd (congrArg Char.toNat (dif_neg hvalid)) h

/-- A run changes the characters at its steps, by its distance. -/
lemma lower?_eq_some {r : LowerRun} {n m : Nat} (h : r.lower? n = some m) :
    r.first ≤ n ∧ n ≤ r.last ∧ (n - r.first) % r.stride = 0 ∧
      m = ((n : Int) + r.distance).toNat := by
  rw [LowerRun.lower?] at h
  split at h
  · rename_i hrun
    simp only [Bool.and_eq_true, decide_eq_true_eq] at hrun
    exact ⟨hrun.1.1, hrun.1.2, hrun.2, (Option.some.inj h).symm⟩
  · cases h

/-- Where the characters of a small form come from: the capital I with a dot, a run, or the
character itself. -/
lemma mem_lowerChar_cases {c d : Char} (hd : d ∈ lowerChar c) :
    (d = 'i' ∨ d = '\u0307') ∨
    (∃ r ∈ lowerRuns, ∃ n, r.lower? c.toNat = some n ∧ d = Char.ofNat n) ∨
    (d = c ∧ c ≠ '\u0130' ∧ ∀ r ∈ lowerRuns, r.lower? c.toNat = none) := by
  rw [lowerChar] at hd
  split at hd
  · exact .inl (by simpa using hd)
  rename_i hdotted
  split at hd
  · rename_i n hsmall
    obtain ⟨r, hr, hlower⟩ := List.exists_of_findSome?_eq_some hsmall
    exact .inr (.inl ⟨r, hr, n, hlower, List.mem_singleton.mp hd⟩)
  · rename_i hnone
    exact .inr (.inr ⟨List.mem_singleton.mp hd, hdotted, List.findSome?_eq_none_iff.mp hnone⟩)

/-- What holds of the two small sigmas and of the small forms of all characters holds of a text in
lower case. -/
lemma forall_mem_lowerAfter {P : Char → Prop} (hfinal : P 'ς') (hsigma : P 'σ')
    {before cs : List Char} (h : ∀ c ∈ cs, ∀ d ∈ lowerChar c, P d) :
    ∀ d ∈ lowerAfter before cs, P d := by
  induction cs generalizing before with
  | nil => simp [lowerAfter]
  | cons c cs ih =>
    obtain ⟨hc, hcs⟩ := List.forall_mem_cons.mp h
    intro d hd
    rw [lowerAfter] at hd
    rcases List.mem_append.mp hd with hd | hd
    · split at hd
      · rw [List.mem_singleton.mp hd]
        split
        · exact hfinal
        · exact hsigma
      · exact hc d hd
    · exact ih hcs d hd

/-- Lower case makes no blanks. -/
lemma isBlank_of_mem_lowerChar {c d : Char} (hc : isBlank c = false) (hd : d ∈ lowerChar c) :
    isBlank d = false := by
  obtain (rfl | rfl) | ⟨r, hr, n, hlower, rfl⟩ | ⟨rfl, -⟩ := mem_lowerChar_cases hd
  · decide
  · decide
  · rw [← Bool.not_eq_true]
    intro hblank
    have hmem := mem_blanks hblank
    have hpositive : (Char.ofNat n).toNat ≠ 0 := by
      intro hzero
      rw [hzero] at hmem
      exact absurd hmem (by decide)
    rw [toNat_ofNat_eq hpositive] at hmem hpositive
    obtain ⟨hfirst, hlast, -, hn⟩ := lower?_eq_some hlower
    exact lowerRuns_avoid_blanks r hr n hmem (by omega)
  · exact hc

lemma isBlank_of_mem_lowerAfter {before cs : List Char} (hcs : ∀ c ∈ cs, isBlank c = false) :
    ∀ d ∈ lowerAfter before cs, isBlank d = false :=
  forall_mem_lowerAfter (by decide) (by decide) fun c hc _ => isBlank_of_mem_lowerChar (hcs c hc)

lemma lowerChar_ne_nil (c : Char) : lowerChar c ≠ [] := by
  rw [lowerChar]
  split
  · simp
  · split <;> simp

/-- Lower case does not shorten a text. -/
lemma length_le_lowerAfter (before cs : List Char) :
    cs.length ≤ (lowerAfter before cs).length := by
  induction cs generalizing before with
  | nil => simp
  | cons c cs ih =>
    rw [lowerAfter, List.length_append, List.length_cons]
    have hrest := ih (c :: before)
    have hfirst : 1 ≤ (if c = 'Σ' then [if startsCased before && !startsCased cs then 'ς' else 'σ']
        else lowerChar c).length := by
      split
      · simp
      · exact List.length_pos_iff.mpr (lowerChar_ne_nil c)
    omega

/-- A property of all ASCII letters, checked one by one. -/
lemma letter_forall {P : Char → Prop} (h : ∀ n < 128, (Char.ofNat n).isAlpha = true →
    P (Char.ofNat n)) {c : Char} (hc : c.isAlpha = true) : P c := by
  have hascii : c.toNat < 128 := by
    have hbelow {top : UInt32} (hle : c.val ≤ top) (htop : top.toNat < 128) : c.toNat < 128 :=
      Nat.lt_of_le_of_lt (UInt32.le_iff_toNat_le.mp hle) htop
    rcases (Bool.or_eq_true _ _).mp hc with hupper | hlower
    · exact hbelow (of_decide_eq_true hupper).2 (by decide)
    · exact hbelow (of_decide_eq_true ((Bool.and_eq_true _ _).mp hlower).2) (by decide)
  have hall := h c.toNat hascii
  rw [Char.ofNat_toNat] at hall
  exact hall hc

/-- The lower case of an ASCII letter is a small ASCII letter. -/
lemma lowerChar_letter {c : Char} (hc : c.isAlpha = true) :
    c ≠ 'Σ' ∧ ∃ d, d.isLower = true ∧ lowerChar c = [d] := by
  obtain ⟨hsigma, hlength, hlower⟩ := letter_forall
    (P := fun c => c ≠ 'Σ' ∧ (lowerChar c).length = 1 ∧ (lowerChar c).all Char.isLower = true)
    (by decide +kernel) hc
  obtain ⟨d, hd⟩ := List.length_eq_one_iff.mp hlength
  rw [hd] at hlower ⊢
  exact ⟨hsigma, d, by simpa using hlower, rfl⟩

/-! ## Words of a text -/

lemma pieces_not_blank {cs : List Char} : ∀ w ∈ pieces cs, ∀ c ∈ w, isBlank c = false := by
  induction cs with
  | nil => simp [pieces]
  | cons c cs ih =>
    rw [pieces]
    split
    · exact List.forall_mem_cons.mpr ⟨by simp, ih⟩
    · rename_i hc
      rw [Bool.not_eq_true] at hc
      split
      · simpa using hc
      · rename_i w ws hws
        rw [hws] at ih
        obtain ⟨hw, hrest⟩ := List.forall_mem_cons.mp ih
        exact List.forall_mem_cons.mpr ⟨List.forall_mem_cons.mpr ⟨hc, hw⟩, hrest⟩

lemma pieces_ne_nil (cs : List Char) : pieces cs ≠ [] := by
  cases cs with
  | nil => simp [pieces]
  | cons c cs =>
    rw [pieces]
    split
    · simp
    · split <;> simp

/-- Pieces end at a blank. -/
lemma pieces_append {c : Char} (hc : isBlank c = true) (cs ds : List Char) :
    pieces (cs ++ c :: ds) = pieces cs ++ pieces ds := by
  induction cs with
  | nil => simp [pieces, hc]
  | cons d cs ih =>
    rw [List.cons_append, pieces, pieces, ih]
    split
    · rfl
    · obtain ⟨w, ws, hws⟩ := List.exists_cons_of_ne_nil (pieces_ne_nil cs)
      rw [hws]
      rfl

/-- Whether a text is made of blanks, and has at least one. -/
def IsSpace (space : String) : Prop := space ≠ "" ∧ ∀ c ∈ space.toList, isBlank c = true

lemma isSpace_singleton {c : Char} (hc : isBlank c = true) : IsSpace (String.singleton c) :=
  ⟨by simp, by simpa using hc⟩

lemma filter_pieces_blanks {bs : List Char} (hbs : ∀ b ∈ bs, isBlank b = true) (cs : List Char) :
    (pieces (bs ++ cs)).filter (!·.isEmpty) = (pieces cs).filter (!·.isEmpty) := by
  induction bs with
  | nil => rfl
  | cons b bs ih =>
    obtain ⟨hb, hbs⟩ := List.forall_mem_cons.mp hbs
    rw [List.cons_append, pieces, if_pos hb, List.filter_cons_of_neg (by simp), ih hbs]

/-- The words of two texts with space between them. -/
lemma words_spaced {space : String} (hspace : IsSpace space) (u v : String) :
    words (u ++ space ++ v) = words u ++ words v := by
  obtain ⟨hne, hblank⟩ := hspace
  obtain ⟨b, bs, hbs⟩ : ∃ b bs, space.toList = b :: bs :=
    List.exists_cons_of_ne_nil (by simpa using hne)
  rw [hbs] at hblank
  obtain ⟨hb, hblank⟩ := List.forall_mem_cons.mp hblank
  have hchars : (u ++ space ++ v).toList = u.toList ++ b :: (bs ++ v.toList) := by simp [hbs]
  rw [words, hchars, pieces_append hb, List.filter_append, List.map_append,
    filter_pieces_blanks hblank]
  rfl

lemma words_not_blank {s w : String} (h : w ∈ words s) : ∀ c ∈ w.toList, isBlank c = false := by
  obtain ⟨cs, hcs, rfl⟩ := List.mem_map.mp h
  rw [String.toList_ofList]
  exact pieces_not_blank cs (List.mem_filter.mp hcs).1

end Text

namespace WordFilter

/-- A text can be broken wherever there is space in it. -/
lemma extract_spaced (f : WordFilter) {space : String} (hspace : Text.IsSpace space)
    (u v : String) : f.extract (u ++ space ++ v) = f.extract u ++ f.extract v := by
  rw [extract, Text.words_spaced hspace, List.filter_append, List.map_append]
  rfl

/-- What is promised of the words in the index. -/
structure Keeps (f : WordFilter) (w : String) : Prop where
  /-- The word is not short. -/
  length : leastLength ≤ w.toList.length
  /-- It starts with a small ASCII letter. -/
  head : ∃ c ∈ w.toList.head?, c.isLower = true
  /-- It has no blanks. -/
  solid : ∀ c ∈ w.toList, Text.isBlank c = false
  /-- It is no stop word in lower case. -/
  stops : w ∉ f.stops

/-- **What is extracted from a text are words as promised.** -/
theorem keeps_extract {f : WordFilter} {text w : String} (h : w ∈ f.extract text) : f.Keeps w := by
  obtain ⟨v, hv, rfl⟩ := List.mem_map.mp h
  obtain ⟨hword, haccepts⟩ := List.mem_filter.mp hv
  have hsolid := Text.words_not_blank hword
  rw [accepts] at haccepts
  split at haccepts
  · cases haccepts
  rename_i c cs hcs
  simp only [Bool.and_eq_true, decide_eq_true_eq, Bool.not_eq_true', List.contains_eq_mem,
    decide_eq_false_iff_not] at haccepts
  obtain ⟨⟨hlength, hletter⟩, hstop⟩ := haccepts
  obtain ⟨hsigma, d, hd, hlower⟩ := Text.lowerChar_letter hletter
  refine ⟨?_, ⟨d, ?_, hd⟩, ?_, hstop⟩
  · rw [Text.lower, String.toList_ofList, hcs]
    exact Nat.le_trans hlength (Text.length_le_lowerAfter [] (c :: cs))
  · rw [Text.lower, String.toList_ofList, hcs, Text.lowerAfter, if_neg hsigma, hlower]
    rfl
  · rw [Text.lower, String.toList_ofList]
    exact Text.isBlank_of_mem_lowerAfter hsolid

end WordFilter

end PictureIndex
