import PictureIndex.Proofs.StoreTables
import PictureIndex.Proofs.Vocabulary
/-!
# Extraction as a normal form

A word stands in a text where blanks or the ends of the text are on both sides of it and no blank is
in it (`Text.Stands`); cutting the text at its blanks finds just these words (`Text.mem_words_iff`).

What the filter looks at is the word as it stands there, and what is added is its small form.  That
one passes the filter again and does not change any more (`WordFilter.accepts_of_mem_extract`): no
small form of a capital is a capital itself, which is read off the table
(`capitals_have_small_forms`), and the sigma at the end of a word, the only letter that looks at its
neighbours, is a small one as much as the other (`Text.lower_lower`).  So words that were extracted
are extracted again as they are, whatever text they are put into.

* `extraction_is_normal_form`: which words are added, that they add nothing when they come again,
  that a text may be cut at its blanks, and what more stop words do.
-/

namespace PictureIndex

namespace Text

/-! ## Small forms stay -/

/-- The capital I with a dot above, as a run of its own; its small form starts with an i. -/
def dottedCapital : LowerRun := ⟨0x0130, 0x0130, 1, -199⟩

/-- The code point of the small form of a run's first capital. -/
def LowerRun.smallFirst (r : LowerRun) : Nat := ((r.first : Int) + r.distance).toNat

/-- The code point of the small form of a run's last capital. -/
def LowerRun.smallLast (r : LowerRun) : Nat := ((r.last : Int) + r.distance).toNat

/-- Whether a small form of a run may be a capital of another run: where these two are mixed, one
has the even code points and the other the odd ones. -/
def LowerRun.meets (r r' : LowerRun) : Bool :=
  Nat.ble r.smallFirst r'.last && Nat.ble r'.first r.smallLast &&
    !(r'.stride == 2 && (r.stride == 2 || r.first == r.last) && (r.smallFirst + r'.first) % 2 == 1)

/-- Whether a character has another small form. -/
def isCapital (c : Char) : Bool :=
  (dottedCapital :: lowerRuns).any fun r => (r.lower? c.toNat).isSome

lemma capitals_have_small_forms :
    (lowerRuns.all fun r => (dottedCapital :: lowerRuns).all fun r' => !r.meets r') = true := by
  decide +kernel

/-- No small form comes before the first code point. -/
lemma lowerRuns_distance : ∀ r ∈ lowerRuns, 0 ≤ (r.first : Int) + r.distance := by
  decide +kernel

/-- No small form of a run is a capital. -/
lemma lower?_of_lower? {r r' : LowerRun} {n m : Nat} (hr : r ∈ lowerRuns)
    (hr' : r' ∈ dottedCapital :: lowerRuns) (h : r.lower? n = some m) : r'.lower? m = none := by
  have hpositive := lowerRuns_distance r hr
  obtain ⟨hfirst, hlast, hstride, rfl⟩ := lower?_eq_some h
  rw [← Option.not_isSome_iff_eq_none]
  intro hsome
  obtain ⟨k, hk⟩ := Option.isSome_iff_exists.mp hsome
  obtain ⟨hfirst', hlast', hstride', -⟩ := lower?_eq_some hk
  have hmeets : ¬ r.meets r' = true := by
    have hall := List.all_eq_true.mp capitals_have_small_forms r hr
    simpa using List.all_eq_true.mp hall r' hr'
  apply hmeets
  simp only [LowerRun.meets, LowerRun.smallFirst, LowerRun.smallLast, Bool.and_eq_true,
    Nat.ble_eq, Bool.not_eq_true', ← Bool.not_eq_true, Bool.or_eq_true, beq_iff_eq]
  refine ⟨⟨by omega, by omega⟩, ?_⟩
  rintro ⟨⟨htwo, hone⟩, hodd⟩
  rw [htwo] at hstride'
  rcases hone with htwo | hsame
  · rw [htwo] at hstride
    omega
  · omega

/-- What is no capital is left alone. -/
lemma lowerChar_of_not_isCapital {c : Char} (h : isCapital c = false) :
    c ≠ 'Σ' ∧ lowerChar c = [c] := by
  have hnone : ∀ r ∈ dottedCapital :: lowerRuns, r.lower? c.toNat = none := by
    simpa only [isCapital, List.any_eq_false, Option.not_isSome_iff_eq_none] using h
  obtain ⟨hdotted, hruns⟩ := List.forall_mem_cons.mp hnone
  constructor
  · rintro rfl
    exact absurd h (by decide)
  · have hne : c ≠ '\u0130' := by
      rintro rfl
      exact absurd hdotted (by decide)
    rw [lowerChar, if_neg hne, List.findSome?_eq_none_iff.mpr hruns]

/-- The small form of a character has no capitals. -/
lemma isCapital_of_mem_lowerChar {c d : Char} (hd : d ∈ lowerChar c) : isCapital d = false := by
  obtain (rfl | rfl) | ⟨r, hr, n, hlower, rfl⟩ | ⟨rfl, hdotted, hnone⟩ := mem_lowerChar_cases hd
  · decide +kernel
  · decide +kernel
  · by_cases hzero : (Char.ofNat n).toNat = 0
    · -- no such character
      simp only [isCapital, hzero]
      decide +kernel
    · simp only [isCapital, toNat_ofNat_eq hzero, List.any_eq_false, Option.not_isSome_iff_eq_none]
      exact fun r' hr' => lower?_of_lower? hr hr' hlower
  · simp only [isCapital, List.any_eq_false, Option.not_isSome_iff_eq_none]
    refine List.forall_mem_cons.mpr ⟨?_, hnone⟩
    rw [← Option.not_isSome_iff_eq_none]
    intro hsome
    obtain ⟨k, hk⟩ := Option.isSome_iff_exists.mp hsome
    obtain ⟨hfirst, hlast, -, -⟩ := lower?_eq_some hk
    have hcode : d.toNat = 0x130 := Nat.le_antisymm hlast hfirst
    exact hdotted (Char.toNat_inj.mp hcode)

/-- There are no capitals in lower case. -/
lemma isCapital_of_mem_lowerAfter {before cs : List Char} :
    ∀ d ∈ lowerAfter before cs, isCapital d = false :=
  forall_mem_lowerAfter (by decide +kernel) (by decide +kernel)
    fun _ _ _ => isCapital_of_mem_lowerChar

/-- A text without capitals is left alone. -/
lemma lowerAfter_of_small {before cs : List Char} (h : ∀ c ∈ cs, isCapital c = false) :
    lowerAfter before cs = cs := by
  induction cs generalizing before with
  | nil => rfl
  | cons c cs ih =>
    obtain ⟨hc, hcs⟩ := List.forall_mem_cons.mp h
    obtain ⟨hsigma, hsame⟩ := lowerChar_of_not_isCapital hc
    rw [lowerAfter, if_neg hsigma, hsame, ih hcs]
    rfl

/-- **What is in lower case is left alone.** -/
theorem lower_lower (s : String) : lower (lower s) = lower s := by
  rw [lower, lower, String.toList_ofList, lowerAfter_of_small isCapital_of_mem_lowerAfter]

/-! ## Words that stand in a text -/

variable {w v text : String} {cs ds : List Char}

/-- Whether characters stand among others between blanks or ends, and have no blank among them. -/
def StandsAmong (ds cs : List Char) : Prop :=
  (∀ c ∈ ds, isBlank c = false) ∧ ∃ before after, cs = before ++ ds ++ after ∧
    (∀ c ∈ before.getLast?, isBlank c = true) ∧ ∀ c ∈ after.head?, isBlank c = true

/-- Whether a word stands in a text: it has blanks or the ends of the text on both sides, and no
blank in it. -/
def Stands (w text : String) : Prop := w ≠ "" ∧ StandsAmong w.toList text.toList

lemma pieces_of_solid (h : ∀ c ∈ ds, isBlank c = false) : pieces ds = [ds] := by
  induction ds with
  | nil => rfl
  | cons d ds ih =>
    obtain ⟨hd, hds⟩ := List.forall_mem_cons.mp h
    rw [pieces, hd, ih hds]
    rfl

lemma StandsAmong.mem_pieces (h : StandsAmong ds cs) : ds ∈ pieces cs := by
  obtain ⟨hsolid, before, after, rfl, hbefore, hafter⟩ := h
  have hfirst : ds ∈ pieces (ds ++ after) := by
    cases after with
    | nil => simp [pieces_of_solid hsolid]
    | cons c after => simp [pieces_append (hafter c rfl), pieces_of_solid hsolid]
  rw [List.append_assoc]
  rcases List.eq_nil_or_concat before with rfl | ⟨before, c, rfl⟩
  · exact hfirst
  · have hc : isBlank c = true := hbefore c (by simp)
    rw [List.concat_eq_append, List.append_assoc, List.singleton_append, pieces_append hc]
    exact List.mem_append_right _ hfirst

/-- What stands on one side of a blank stands in the whole. -/
lemma StandsAmong.of_append {c : Char} (hc : isBlank c = true) {xs ys : List Char}
    (h : StandsAmong ds xs ∨ StandsAmong ds ys) : StandsAmong ds (xs ++ c :: ys) := by
  rcases h with ⟨hsolid, before, after, rfl, hbefore, hafter⟩ |
    ⟨hsolid, before, after, rfl, hbefore, hafter⟩
  · refine ⟨hsolid, before, after ++ c :: ys, by simp, hbefore, fun d hd => ?_⟩
    cases after with
    | nil =>
      obtain rfl : c = d := by simpa using hd
      exact hc
    | cons a after => exact hafter d hd
  · refine ⟨hsolid, xs ++ c :: before, after, by simp, fun d hd => ?_, hafter⟩
    rcases List.eq_nil_or_concat before with rfl | ⟨before, b, rfl⟩
    · obtain rfl : c = d := by simpa using hd
      exact hc
    · rw [List.concat_eq_append] at hd hbefore
      rw [← List.cons_append, ← List.append_assoc, List.getLast?_concat] at hd
      exact hbefore d (by rwa [List.getLast?_concat])

/-- The pieces of a text are all that stands between its blanks. -/
lemma mem_pieces_iff : ds ∈ pieces cs ↔ StandsAmong ds cs := by
  refine ⟨fun h => ?_, StandsAmong.mem_pieces⟩
  induction hn : cs.length using Nat.strongRecOn generalizing cs with
  | _ n ih =>
    subst hn
    by_cases hblank : ∃ c ∈ cs, isBlank c = true
    · -- both sides of a blank are shorter
      obtain ⟨c, hmem, hc⟩ := hblank
      obtain ⟨xs, ys, rfl⟩ := List.append_of_mem hmem
      have hxs : xs.length < (xs ++ c :: ys).length := by simp
      have hys : ys.length < (xs ++ c :: ys).length := by
        simp only [List.length_append, List.length_cons]
        omega
      rw [pieces_append hc] at h
      exact .of_append hc ((List.mem_append.mp h).imp (ih _ hxs · rfl) (ih _ hys · rfl))
    · have hsolid : ∀ c ∈ cs, isBlank c = false := by simpa using hblank
      rw [pieces_of_solid hsolid, List.mem_singleton] at h
      subst h
      exact ⟨hsolid, [], [], by simp, by simp, by simp⟩

/-- **A text is cut into the words that stand in it.** -/
theorem mem_words_iff : w ∈ words text ↔ Stands w text := by
  rw [Stands, ← mem_pieces_iff, words, List.mem_map]
  constructor
  · rintro ⟨ds, hds, rfl⟩
    obtain ⟨hmem, hne⟩ := List.mem_filter.mp hds
    rw [String.toList_ofList]
    refine ⟨fun hnil => ?_, hmem⟩
    have hds := congrArg String.toList hnil
    simp only [String.toList_ofList, String.toList_empty] at hds
    simp [hds] at hne
  · rintro ⟨hne, hmem⟩
    refine ⟨w.toList, List.mem_filter.mpr ⟨hmem, ?_⟩, String.ofList_toList⟩
    simpa using hne

/-! ## Texts put together -/

lemma words_of_solid (hne : w ≠ "") (hsolid : ∀ c ∈ w.toList, isBlank c = false) :
    words w = [w] := by
  rw [words, pieces_of_solid hsolid, List.filter_cons_of_pos (by simpa using hne)]
  simp

/-- Words that are written with space between them are read again. -/
lemma words_intercalate {space : String} (hspace : IsSpace space) {group : List String}
    (hgroup : ∀ w ∈ group, w ≠ "" ∧ ∀ c ∈ w.toList, isBlank c = false) :
    words (space.intercalate group) = group := by
  induction group with
  | nil => rfl
  | cons w rest ih =>
    obtain ⟨⟨hne, hsolid⟩, hrest⟩ := List.forall_mem_cons.mp hgroup
    cases rest with
    | nil => rw [String.intercalate_singleton, words_of_solid hne hsolid]
    | cons v rest =>
      rw [String.intercalate_cons_cons, words_spaced hspace, words_of_solid hne hsolid, ih hrest]
      rfl

end Text

/-- Words that are there already add nothing. -/
lemma WordSet.addAll_of_mem {ws : WordSet} {vs : List String} (h : ∀ v ∈ vs, v ∈ ws.keys) :
    ws.addAll vs = ws := by
  refine ext_keys fun v => ?_
  rw [mem_addAll]
  exact ⟨fun hv => hv.elim (h v) id, .inr⟩

namespace WordFilter

variable {f : WordFilter} {text v w : String} {ws : WordSet}

/-! ## Extracted words -/

lemma accepts_iff : f.accepts w = true ↔ leastLength ≤ w.toList.length ∧
    (∃ c ∈ w.toList.head?, c.isAlpha = true) ∧ Text.lower w ∉ f.stops := by
  rw [accepts]
  cases w.toList with
  | nil => simp [leastLength]
  | cons c cs => simp [and_assoc]

/-- The words that are extracted are the small forms of those that stand in the text and pass. -/
lemma mem_extract_iff :
    v ∈ f.extract text ↔ ∃ w, Text.Stands w text ∧ f.accepts w = true ∧ v = Text.lower w := by
  simp only [extract, List.mem_map, List.mem_filter, Text.mem_words_iff, and_assoc, eq_comm]

lemma mem_extend_iff : v ∈ (f.extend ws text).keys ↔ v ∈ ws.keys ∨ v ∈ f.extract text := by
  rw [extend, WordSet.mem_addAll, or_comm]

/-- An extracted word is in lower case. -/
lemma lower_of_mem_extract (h : v ∈ f.extract text) : Text.lower v = v := by
  obtain ⟨w, -, -, rfl⟩ := mem_extract_iff.mp h
  exact Text.lower_lower w

/-- **An extracted word passes the filter.** -/
theorem accepts_of_mem_extract (h : v ∈ f.extract text) : f.accepts v = true := by
  obtain ⟨hlength, ⟨c, hc, hlower⟩, -, hstops⟩ := keeps_extract h
  have halpha : c.isAlpha = true := (Bool.or_eq_true _ _).mpr (.inr hlower)
  exact accepts_iff.mpr ⟨hlength, ⟨c, hc, halpha⟩, by rwa [lower_of_mem_extract h]⟩

lemma ne_empty_of_mem_extract (h : v ∈ f.extract text) : v ≠ "" := by
  rintro rfl
  exact absurd (keeps_extract h).length (by decide)

/-- Extracted words are extracted as they are from every text that is made of them. -/
lemma extract_of_words (h : ∀ w ∈ Text.words v, w ∈ f.extract text) :
    f.extract v = Text.words v := by
  rw [extract, List.filter_eq_self.mpr fun w hw => accepts_of_mem_extract (h w hw)]
  exact (List.map_congr_left fun w hw => lower_of_mem_extract (h w hw)).trans (List.map_id _)

/-- A text may be cut wherever there is space in it. -/
lemma extend_extend {space : String} (hspace : Text.IsSpace space) (u v : String) :
    f.extend (f.extend ws u) v = f.extend ws (u ++ space ++ v) := by
  rw [extend, extend, extend, f.extract_spaced hspace]
  exact List.foldl_append.symm

/-- Texts that are made of extracted words add nothing to a set that has these. -/
lemma foldl_extend_of_words {us : List String} (hws : ∀ w ∈ f.extract text, w ∈ ws.keys)
    (hus : ∀ u ∈ us, ∀ w ∈ Text.words u, w ∈ f.extract text) : us.foldl f.extend ws = ws := by
  induction us with
  | nil => rfl
  | cons u us ih =>
    obtain ⟨hu, hus⟩ := List.forall_mem_cons.mp hus
    have hsame : f.extend ws u = ws := by
      refine WordSet.addAll_of_mem fun w hw => hws w ?_
      rw [extract_of_words hu] at hw
      exact hu w hw
    rw [List.foldl_cons, hsame, ih hus]

/-- With more stop words, words are left out and nothing else happens. -/
lemma mem_extract_append {stops more : List String} :
    v ∈ (ofStopWords (stops ++ more)).extract text ↔
      v ∈ (ofStopWords stops).extract text ∧ ∀ stop ∈ more, v ≠ Text.lower stop := by
  have haccepts (w : String) : (ofStopWords (stops ++ more)).accepts w = true ↔
      (ofStopWords stops).accepts w = true ∧ ∀ stop ∈ more, Text.lower w ≠ Text.lower stop := by
    simp only [accepts_iff, ofStopWords, List.map_append, List.mem_append, not_or, List.mem_map,
      not_exists, not_and, and_assoc, ne_comm, ne_eq]
  simp only [mem_extract_iff, haccepts]
  constructor
  · rintro ⟨w, hw, ⟨hpasses, hmore⟩, rfl⟩
    exact ⟨⟨w, hw, hpasses, rfl⟩, hmore⟩
  · rintro ⟨⟨w, hw, hpasses, rfl⟩, hmore⟩
    exact ⟨w, hw, ⟨hpasses, hmore⟩, rfl⟩

/-- **Extraction gives words in a normal form, and may be done piece by piece.**  Take any stop
words, any text and any set of words.

* The set with the text's words added has just the words of the set and the extracted ones.  These
  are the small forms of the words that stand in the text, have at least three characters, start
  with an ASCII letter, and have not the small form of a stop word.
* An extracted word passes the filter itself, is its own small form, and has no blank in it.
* So texts add nothing more if only extracted words stand in them, in any order and however they are
  grouped; and there is nothing to that but space between the words, from which they are extracted
  just as they are.
* Adding the words of two texts one after the other is adding those of one text with both in it and
  any space in between.
* With more stop words, those words are left out that are the small form of one, and no word is
  added. -/
theorem extraction_is_normal_form (stops : List String) (text : String) (ws : WordSet) :
    let f := ofStopWords stops
    (∀ v, v ∈ (f.extend ws text).keys ↔ v ∈ ws.keys ∨ v ∈ f.extract text) ∧
    (∀ v, v ∈ f.extract text ↔ ∃ w, Text.Stands w text ∧ 3 ≤ w.toList.length ∧
      (∃ c ∈ w.toList.head?, c.isAlpha = true) ∧
      (∀ stop ∈ stops, Text.lower w ≠ Text.lower stop) ∧ v = Text.lower w) ∧
    (∀ v ∈ f.extract text, f.accepts v = true ∧ Text.lower v = v ∧
      ∀ c ∈ v.toList, Text.isBlank c = false) ∧
    (∀ us : List String, (∀ u ∈ us, ∀ w, Text.Stands w u → w ∈ f.extract text) →
      us.foldl f.extend (f.extend ws text) = f.extend ws text) ∧
    (∀ group : List String, (∀ w ∈ group, w ∈ f.extract text) → ∀ space, Text.IsSpace space →
      f.extract (space.intercalate group) = group) ∧
    (∀ space, Text.IsSpace space → ∀ more,
      f.extend (f.extend ws text) more = f.extend ws (text ++ space ++ more)) ∧
    ∀ more : List String, ∀ v, v ∈ ((ofStopWords (stops ++ more)).extend ws text).keys ↔
      v ∈ ws.keys ∨ v ∈ f.extract text ∧ ∀ stop ∈ more, v ≠ Text.lower stop := by
  intro f
  have haccepts (w : String) : f.accepts w = true ↔ 3 ≤ w.toList.length ∧
      (∃ c ∈ w.toList.head?, c.isAlpha = true) ∧
      ∀ stop ∈ stops, Text.lower w ≠ Text.lower stop := by
    simp only [f, accepts_iff, leastLength, ofStopWords, List.mem_map, not_exists, not_and, ne_comm,
      ne_eq]
  refine ⟨fun v => mem_extend_iff, fun v => ?_, fun v hv => ?_, fun us hus => ?_,
    fun group hgroup space hspace => ?_, fun space hspace more => extend_extend hspace text more,
    fun more v => ?_⟩
  · simp only [mem_extract_iff, haccepts, and_assoc]
  · exact ⟨accepts_of_mem_extract hv, lower_of_mem_extract hv, (keeps_extract hv).solid⟩
  · refine foldl_extend_of_words (fun w hw => mem_extend_iff.mpr (.inr hw)) fun u hu w hw => ?_
    exact hus u hu w (Text.mem_words_iff.mp hw)
  · have hwords : Text.words (space.intercalate group) = group :=
      Text.words_intercalate hspace fun w hw =>
        ⟨ne_empty_of_mem_extract (hgroup w hw), (keeps_extract (hgroup w hw)).solid⟩
    have hall : ∀ w ∈ Text.words (space.intercalate group), w ∈ f.extract text := by rwa [hwords]
    rw [extract_of_words hall, hwords]
  · rw [mem_extend_iff, mem_extract_append]

/-- A capital I with a dot becomes two characters, and a sigma at the end of a word a final one;
neither changes when it comes again. -/
theorem extraction_is_normal_form_of_greek :
    let f := ofStopWords ["THE"]
    let text := "The K\u0130t\nLOGO\u03A3"
    let found := ["logo\u03C2", "ki\u0307t"]
    Text.IsSpace "\t " ∧ (∀ w ∈ found, w ∈ f.extract text) ∧
      f.extract ("\t ".intercalate found) = found ∧
      (∀ w, Text.Stands w "ki\u0307t" → w ∈ f.extract text) ∧
      ["ki\u0307t"].foldl f.extend (f.extend Table.empty text) = f.extend Table.empty text ∧
      f.extend (f.extend Table.empty text) "Snow" =
        f.extend Table.empty (text ++ "\t " ++ "Snow") := by
  intro f text found
  obtain ⟨-, -, -, hagain, hgroup, hcut, -⟩ :=
    extraction_is_normal_form ["THE"] text Table.empty
  have hspace : Text.IsSpace "\t " := by
    refine ⟨by decide, fun c hc => ?_⟩
    obtain rfl | rfl : c = '\t' ∨ c = ' ' := by simpa using hc
    · decide
    · decide
  have hfound : ∀ w ∈ found, w ∈ f.extract text := by decide +kernel
  have hstands : ∀ w, Text.Stands w "ki\u0307t" → w ∈ f.extract text := by
    intro w hw
    have hall : ∀ w ∈ Text.words "ki\u0307t", w ∈ f.extract text := by decide +kernel
    exact hall w (Text.mem_words_iff.mpr hw)
  exact ⟨hspace, hfound, hgroup found hfound _ hspace, hstands,
    hagain _ (List.forall_mem_singleton.mpr hstands), hcut _ hspace "Snow"⟩

end WordFilter

end PictureIndex
