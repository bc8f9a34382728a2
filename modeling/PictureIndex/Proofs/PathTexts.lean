import Mathlib.Data.List.Basic
import Mathlib.Data.List.TakeWhile
import PictureIndex.Path
/-!
# What the text of a path tells

The index knows a path by its text, in which U+FFFD stands for what is not UTF-8.  A record is
looked for and removed at the path which that text spells, and this need not be the path at which
the picture was.  How much do the two have in common?

Slashes, dots and all other ASCII characters are where they were: an ASCII byte never belongs to the
bytes of another character (`scan_append_ascii`), and a broken beginning never becomes an ASCII
character (`scan_high`).  So the two paths have the same number of names, and one has an extension
if the other has (`hasExtension_respelled`).
-/

namespace PictureIndex

namespace Utf8

/-! ## ASCII stays where it is -/

lemma scan_ascii {a : UInt8} (ha : a < 0x80) (rest : List UInt8) :
    scan (a :: rest) = some (Char.ofNat a.toNat) :: scan rest := by
  rw [scan.eq_def]
  simp [ha]

lemma opens_ascii {a b : UInt8} (hb : b < 0x80) : opens a b = false := by
  have h : b.toNat < 0x80 := UInt8.lt_iff_toNat_lt.mp hb
  rw [← Bool.not_eq_true, opens_iff]
  omega

lemma isTrail_ascii {b : UInt8} (hb : b < 0x80) : isTrail b = false := by
  have h : b.toNat < 0x80 := UInt8.lt_iff_toNat_lt.mp hb
  simp only [isTrail, UInt8.le_iff_toNat_le, Bool.and_eq_false_iff, decide_eq_false_iff_not]
  exact .inl (Nat.not_le.mpr h)

/-- What stands before an ASCII byte is read as if it stood alone. -/
theorem scan_append_ascii {a : UInt8} (ha : a < 0x80) (bs rest : List UInt8) :
    scan (bs ++ a :: rest) = scan bs ++ scan (a :: rest) := by
  have hopens (b : UInt8) := opens_ascii (a := b) ha
  have htrail := isTrail_ascii ha
  fun_induction scan bs with
  | case1 => rfl
  | case2 b r1 hb ih => rw [List.cons_append, scan_ascii hb, ih, List.cons_append]
  -- the bytes before the ASCII one are a broken beginning
  | case3 | case6 | case9 =>
    simp only [List.cons_append, List.nil_append]
    rw [scan.eq_def]
    simp only [*, if_true, if_false, Bool.not_false, Bool.false_eq_true]
  | case4 | case5 | case7 | case8 | case10 | case11 =>
    simp only [List.cons_append] at *
    rw [scan.eq_def]
    simp only [*, if_true, if_false, Bool.false_eq_true]

lemma le_toNat_ofNat {n : Nat} (hn : 0x80 ≤ n) (hv : n < 0xD800 ∨ 0xDFFF < n ∧ n < 0x110000) :
    0x80 ≤ (Char.ofNat n).toNat := by
  have hchar : (Char.ofNat n).toNat = n := by
    rw [Char.ofNat, dif_pos hv]
    rfl
  omega

/-- A byte that is not ASCII is read, with some of those after it, as a character that is not ASCII
or as none. -/
lemma scan_high {b : UInt8} (hb : ¬ b < 0x80) (bs : List UInt8) :
    ∃ o taken rest, bs = taken ++ rest ∧ scan (b :: bs) = o :: scan rest ∧
      ∀ c ∈ o, 0x80 ≤ c.toNat := by
  have hpayload (x : UInt8) : payload x = x.toNat % 64 := rfl
  rw [scan.eq_def]
  simp only [if_neg hb]
  rcases bs with _ | ⟨c, bs⟩
  · exact ⟨none, [], [], rfl, rfl, nofun⟩
  by_cases hopens : opens b c = true
  swap
  · exact ⟨none, [], _, rfl, by simp [hopens], nofun⟩
  obtain ⟨hlow, hhigh, hfirst, hlast, hE0, hED, hF0, hF4⟩ := (opens_iff b c).mp hopens
  simp only [hopens, Bool.not_true, Bool.false_eq_true, if_false]
  by_cases htwo : b < 0xE0
  · refine ⟨_, [c], bs, rfl, if_pos htwo, ?_⟩
    rintro _ ⟨⟩
    have htwo : b.toNat < 0xE0 := UInt8.lt_iff_toNat_lt.mp htwo
    apply le_toNat_ofNat <;> rw [hpayload] <;> omega
  simp only [if_neg htwo]
  rcases bs with _ | ⟨d, bs⟩
  · exact ⟨none, [c], [], rfl, rfl, nofun⟩
  by_cases htrail : isTrail d = true
  swap
  · exact ⟨none, [c], _, rfl, by simp [htrail], nofun⟩
  simp only [htrail, Bool.not_true, Bool.false_eq_true, if_false]
  have htwo : ¬ b.toNat < 0xE0 := fun h => htwo (UInt8.lt_iff_toNat_lt.mpr h)
  by_cases hthree : b < 0xF0
  · refine ⟨_, [c, d], bs, rfl, if_pos hthree, ?_⟩
    rintro _ ⟨⟩
    have hthree : b.toNat < 0xF0 := UInt8.lt_iff_toNat_lt.mp hthree
    apply le_toNat_ofNat <;> rw [hpayload, hpayload] <;> omega
  simp only [if_neg hthree]
  rcases bs with _ | ⟨e, bs⟩
  · exact ⟨none, [c, d], [], rfl, rfl, nofun⟩
  by_cases htrail' : isTrail e = true
  swap
  · exact ⟨none, [c, d], _, rfl, by simp [htrail'], nofun⟩
  simp only [htrail', Bool.not_true, Bool.false_eq_true, if_false]
  have hthree : ¬ b.toNat < 0xF0 := fun h => hthree (UInt8.lt_iff_toNat_lt.mpr h)
  refine ⟨_, [c, d, e], bs, rfl, rfl, ?_⟩
  rintro _ ⟨⟩
  apply le_toNat_ofNat <;> rw [hpayload, hpayload, hpayload] <;> omega

@[simp] lemma decodeLossy_nil : decodeLossy [] = [] := rfl

lemma decodeLossy_ascii {a : UInt8} (ha : a < 0x80) (bs : List UInt8) :
    decodeLossy (a :: bs) = Char.ofNat a.toNat :: decodeLossy bs := by
  rw [decodeLossy, scan_ascii ha]
  rfl

lemma decodeLossy_append_ascii {a : UInt8} (ha : a < 0x80) (bs rest : List UInt8) :
    decodeLossy (bs ++ a :: rest) = decodeLossy bs ++ Char.ofNat a.toNat :: decodeLossy rest := by
  rw [← decodeLossy_ascii ha, decodeLossy, scan_append_ascii ha, List.map_append]
  rfl

lemma decodeLossy_high {b : UInt8} (hb : ¬ b < 0x80) (bs : List UInt8) :
    ∃ c taken rest, bs = taken ++ rest ∧ decodeLossy (b :: bs) = c :: decodeLossy rest ∧
      0x80 ≤ c.toNat := by
  obtain ⟨o, taken, rest, hbs, hscan, ho⟩ := scan_high hb bs
  refine ⟨o.getD '\uFFFD', taken, rest, hbs, ?_, ?_⟩
  · rw [decodeLossy, hscan]
    rfl
  · cases o with
    | none => decide
    | some c => exact ho c rfl

/-- Bytes are read character by character. -/
theorem read_induction {motive : List UInt8 → Prop} (nil : motive [])
    (ascii : ∀ a bs, a < 0x80 → motive bs → motive (a :: bs))
    (high : ∀ b taken rest c, ¬ b < 0x80 → 0x80 ≤ c.toNat →
      decodeLossy (b :: (taken ++ rest)) = c :: decodeLossy rest → motive rest →
      motive (b :: (taken ++ rest)))
    (bs : List UInt8) : motive bs := by
  induction hn : bs.length using Nat.strongRecOn generalizing bs with
  | _ n ih =>
    subst hn
    cases bs with
    | nil => exact nil
    | cons b bs =>
      by_cases hb : b < 0x80
      · exact ascii b bs hb (ih bs.length (by simp) bs rfl)
      · obtain ⟨c, taken, rest, rfl, hread, hc⟩ := decodeLossy_high hb bs
        have hshorter : rest.length < (b :: (taken ++ rest)).length := by
          simp only [List.length_cons, List.length_append]
          omega
        exact high b taken rest c hb hc hread (ih rest.length hshorter rest rfl)

lemma toNat_ofNat_ascii {a : UInt8} (ha : a < 0x80) : (Char.ofNat a.toNat).toNat = a.toNat := by
  have h : a.toNat < 0x80 := UInt8.lt_iff_toNat_lt.mp ha
  rw [Char.ofNat, dif_pos (.inl (by omega))]
  rfl

/-- An ASCII character is read from its own byte. -/
lemma mem_of_mem_decodeLossy {bs : List UInt8} {c : Char} (hc : c ∈ decodeLossy bs)
    (hascii : c.toNat < 0x80) : UInt8.ofNat c.toNat ∈ bs := by
  induction bs using read_induction with
  | nil => simp at hc
  | ascii a bs ha ih =>
    rw [decodeLossy_ascii ha, List.mem_cons] at hc
    rcases hc with rfl | hc
    · rw [toNat_ofNat_ascii ha, UInt8.ofNat_toNat]
      exact List.mem_cons_self
    · exact List.mem_cons_of_mem a (ih hc)
  | high b taken rest d _ hd hread ih =>
    rw [hread, List.mem_cons] at hc
    rcases hc with rfl | hc
    · omega
    · exact List.mem_cons_of_mem b (List.mem_append_right taken (ih hc))

lemma encodeChar_ascii {a : UInt8} (ha : a < 0x80) : encodeChar (Char.ofNat a.toNat) = [a] := by
  have h : a.toNat < 0x80 := UInt8.lt_iff_toNat_lt.mp ha
  simp only [encodeChar, toNat_ofNat_ascii ha, if_pos h, UInt8.ofNat_toNat]

/-- An ASCII byte is written for its own character. -/
lemma toNat_of_mem_encodeChar {a : UInt8} {c : Char} (ha : a ∈ encodeChar c) (hascii : a < 0x80) :
    c.toNat = a.toNat := by
  have h : a.toNat < 0x80 := UInt8.lt_iff_toNat_lt.mp hascii
  have hc : c.toNat < 0x110000 := by
    rcases c.valid with hv | hv
    · exact Nat.lt_trans hv (by decide)
    · exact hv.2
  unfold encodeChar at ha
  simp only at ha
  split at ha
  · rw [List.mem_singleton.mp ha, UInt8.toNat_ofNat']
    omega
  -- the other bytes are above ASCII
  · have htrail (n : Nat) : a ≠ trail n := by
      rintro rfl
      rw [toNat_trail] at h
      omega
    exfalso
    split at ha
    · simp only [List.mem_cons, List.not_mem_nil, or_false, htrail] at ha
      rw [ha, UInt8.toNat_ofNat'] at h
      omega
    · split at ha
      · simp only [List.mem_cons, List.not_mem_nil, or_false, htrail] at ha
        rw [ha, UInt8.toNat_ofNat'] at h
        omega
      · simp only [List.mem_cons, List.not_mem_nil, or_false, htrail] at ha
        rw [ha, UInt8.toNat_ofNat'] at h
        omega

lemma encodeChar_ne_nil (c : Char) : encodeChar c ≠ [] := by
  unfold encodeChar
  simp only
  split
  · nofun
  · split
    · nofun
    · split <;> nofun

end Utf8

namespace Path

open Utf8

/-! ## Paths spelled by texts -/

/-- The bytes that spell the text of some bytes. -/
def respell (bs : List UInt8) : List UInt8 := encode (decodeLossy bs)

/-- The path that the text of a path spells. -/
def respelled (p : Path) : Path := ofText p.text

lemma respelled_bytes (p : Path) : p.respelled.bytes = respell p.bytes := by
  simp [respelled, ofText, text, Text.bytes, Text.ofBytesLossy, respell]

/-- Whether a path is UTF-8, so that its text spells it. -/
def IsText (p : Path) : Prop := p.respelled = p

instance (p : Path) : Decidable p.IsText := inferInstanceAs (Decidable (_ = _))

lemma isText_ofText (s : String) : (ofText s).IsText := by
  rw [IsText, respelled, text_ofText]

/-- Paths that are UTF-8 differ in their texts. -/
lemma IsText.eq_of_text {p q : Path} (hp : p.IsText) (hq : q.IsText) (h : p.text = q.text) :
    p = q := by
  rw [← hp, ← hq, respelled, respelled, h]

@[simp] lemma respell_nil : respell [] = [] := rfl

lemma respell_ascii {a : UInt8} (ha : a < 0x80) (bs : List UInt8) :
    respell (a :: bs) = a :: respell bs := by
  rw [respell, decodeLossy_ascii ha, encode_cons, encodeChar_ascii ha]
  rfl

/-- ASCII bytes stay, and what stands on either side of them is spelled anew on its own. -/
lemma respell_append_ascii {a : UInt8} (ha : a < 0x80) (bs rest : List UInt8) :
    respell (bs ++ a :: rest) = respell bs ++ a :: respell rest := by
  rw [respell, decodeLossy_append_ascii ha, encode_append, encode_cons, encodeChar_ascii ha]
  rfl

/-- No ASCII bytes are added. -/
lemma mem_of_mem_respell {bs : List UInt8} {a : UInt8} (h : a ∈ respell bs) (ha : a < 0x80) :
    a ∈ bs := by
  obtain ⟨c, hc, hmem⟩ := List.mem_flatMap.mp h
  have hsame := toNat_of_mem_encodeChar hmem ha
  have hascii : c.toNat < 0x80 := by
    rw [hsame]
    exact UInt8.lt_iff_toNat_lt.mp ha
  have hread := mem_of_mem_decodeLossy hc hascii
  rwa [hsame, UInt8.ofNat_toNat] at hread

/-- Bytes that are spelled anew as ASCII were the same before. -/
lemma respell_eq_ascii {x : List UInt8} (hx : ∀ a ∈ x, a < 0x80) (bs : List UInt8) :
    respell bs = x ↔ bs = x := by
  induction bs using read_induction generalizing x with
  | nil => exact Iff.rfl
  | ascii a bs ha ih =>
    rw [respell_ascii ha]
    cases x with
    | nil => exact iff_of_false nofun nofun
    | cons b x =>
      rw [List.cons.injEq, List.cons.injEq, ih fun c hc => hx c (List.mem_cons_of_mem b hc)]
  | high b taken rest c hb hc hread _ =>
    -- both start with a byte that is not ASCII
    refine iff_of_false (fun h => ?_) (fun h => hb (hx b (h ▸ List.mem_cons_self)))
    rw [respell, hread, encode_cons] at h
    obtain ⟨a, ha⟩ := List.exists_mem_of_ne_nil _ (encodeChar_ne_nil c)
    have hascii := hx a (h ▸ List.mem_append_left _ ha)
    have hsame := toNat_of_mem_encodeChar ha hascii
    have hlow : a.toNat < 0x80 := UInt8.lt_iff_toNat_lt.mp hascii
    omega

lemma respell_eq_nil (bs : List UInt8) : respell bs = [] ↔ bs = [] :=
  respell_eq_ascii (by simp) bs

/-! ## Names -/

lemma slash_ascii : slash < 0x80 := by decide

lemma dot_ascii : dot < 0x80 := by decide

lemma splitSlash_of_not_mem {bs : List UInt8} (h : slash ∉ bs) : splitSlash bs = [bs] := by
  induction bs with
  | nil => rfl
  | cons b bs ih =>
    obtain ⟨hb, hbs⟩ := not_or.mp (List.mem_cons.not.mp h)
    rw [splitSlash, if_neg (fun heq => hb heq.symm), ih hbs]

lemma splitSlash_slash (bs : List UInt8) : splitSlash (slash :: bs) = [] :: splitSlash bs := by
  rw [splitSlash, if_pos rfl]

lemma splitSlash_ne_nil (bs : List UInt8) : splitSlash bs ≠ [] := by
  cases bs with
  | nil => nofun
  | cons b bs =>
    rw [splitSlash]
    split
    · nofun
    · split <;> nofun

lemma splitSlash_append (bs rest : List UInt8) :
    splitSlash (bs ++ slash :: rest) = splitSlash bs ++ splitSlash rest := by
  induction bs with
  | nil => exact splitSlash_slash rest
  | cons b bs ih =>
    rw [List.cons_append, splitSlash, splitSlash, ih]
    split
    · rfl
    · obtain ⟨n, ns, hsplit⟩ := List.exists_cons_of_ne_nil (splitSlash_ne_nil bs)
      rw [hsplit]
      rfl

/-- Names are spelled anew one by one. -/
lemma splitSlash_respell (bs : List UInt8) :
    splitSlash (respell bs) = (splitSlash bs).map respell := by
  induction hn : bs.length using Nat.strongRecOn generalizing bs with
  | _ n ih =>
    subst hn
    by_cases hslash : slash ∈ bs
    · obtain ⟨x, y, rfl⟩ := List.append_of_mem hslash
      have hx : x.length < (x ++ slash :: y).length := by simp
      have hy : y.length < (x ++ slash :: y).length := by
        simp only [List.length_append, List.length_cons]
        omega
      rw [respell_append_ascii slash_ascii, splitSlash_append, splitSlash_append,
        ih _ hx x rfl, ih _ hy y rfl, List.map_append]
    · have hnone : slash ∉ respell bs := fun h => hslash (mem_of_mem_respell h slash_ascii)
      rw [splitSlash_of_not_mem hslash, splitSlash_of_not_mem hnone]
      rfl

lemma respell_eq_dot (bs : List UInt8) : respell bs = [dot] ↔ bs = [dot] :=
  respell_eq_ascii (by simpa using dot_ascii) bs

lemma respell_eq_dots (bs : List UInt8) : respell bs = [dot, dot] ↔ bs = [dot, dot] :=
  respell_eq_ascii (by simpa using dot_ascii) bs

lemma pieces_respelled (p : Path) : p.respelled.pieces = p.pieces.map respell := by
  rw [pieces, pieces, respelled_bytes, splitSlash_respell, List.filter_map]
  congr 1
  refine List.filter_congr fun n _ => ?_
  have hempty : (respell n).isEmpty = n.isEmpty := by
    rw [Bool.eq_iff_iff, List.isEmpty_iff, List.isEmpty_iff, respell_eq_nil]
  have hdot : (respell n != [dot]) = (n != [dot]) := by
    rw [Bool.eq_iff_iff, bne_iff_ne, bne_iff_ne, ne_eq, ne_eq, respell_eq_dot]
  rw [Function.comp_apply, hempty, hdot]

lemma name?_respelled (p : Path) : p.respelled.name? = p.name?.map respell := by
  rw [name?, name?, pieces_respelled, List.getLast?_map]
  cases p.pieces.getLast? with
  | none => rfl
  | some n =>
    have hdots : (respell n != [dot, dot]) = (n != [dot, dot]) := by
      rw [Bool.eq_iff_iff, bne_iff_ne, bne_iff_ne, ne_eq, ne_eq, respell_eq_dots]
    simp only [Option.map_some, Option.filter, hdots]
    split <;> rfl

/-! ## Extensions -/

lemma cutExtension_of_not_mem {name : List UInt8} (h : dot ∉ name) :
    cutExtension name = none := by
  have htail : name.reverse.takeWhile (· != dot) = name.reverse := by
    refine List.takeWhile_eq_self_iff.mpr fun b hb => ?_
    rw [bne_iff_ne]
    rintro rfl
    exact h (List.mem_reverse.mp hb)
  simp [cutExtension, htail]

/-- A name is cut at its last dot. -/
lemma cutExtension_append {tail : List UInt8} (htail : dot ∉ tail) (front : List UInt8) :
    cutExtension (front ++ dot :: tail) = if front = [] then none else some (front, tail) := by
  have hcut : (front ++ dot :: tail).reverse.takeWhile (· != dot) = tail.reverse := by
    rw [List.reverse_append, List.reverse_cons, List.append_assoc, List.singleton_append,
      List.takeWhile_append_of_pos]
    · simp
    · intro b hb
      rw [bne_iff_ne]
      rintro rfl
      exact htail (List.mem_reverse.mp hb)
  have hlength : (front ++ dot :: tail).length - tail.reverse.length - 1 = front.length := by
    simp only [List.length_append, List.length_cons, List.length_reverse]
    omega
  have hshorter : tail.reverse.length < (front ++ dot :: tail).length := by
    simp only [List.length_append, List.length_cons, List.length_reverse]
    omega
  simp only [cutExtension, hcut, hlength, List.take_left', List.reverse_reverse, hshorter]
  cases front <;> simp

lemma exists_last_dot {name : List UInt8} (h : dot ∈ name) :
    ∃ front tail, name = front ++ dot :: tail ∧ dot ∉ tail := by
  obtain ⟨x, y, hxy, hx⟩ := List.eq_append_cons_of_mem (List.mem_reverse.mpr h)
  refine ⟨y.reverse, x.reverse, ?_, fun hmem => hx (List.mem_reverse.mp hmem)⟩
  have hname := congrArg List.reverse hxy
  rw [List.reverse_reverse] at hname
  rw [hname]
  simp

lemma cutExtension_respell (name : List UInt8) :
    cutExtension (respell name) =
      (cutExtension name).map fun cut => (respell cut.1, respell cut.2) := by
  have hkeep {x : List UInt8} (h : dot ∉ x) : dot ∉ respell x :=
    fun hmem => h (mem_of_mem_respell hmem dot_ascii)
  by_cases hdot : dot ∈ name
  · obtain ⟨front, tail, rfl, htail⟩ := exists_last_dot hdot
    rw [respell_append_ascii dot_ascii, cutExtension_append (hkeep htail),
      cutExtension_append htail]
    simp only [respell_eq_nil]
    split <;> rfl
  · rw [cutExtension_of_not_mem hdot, cutExtension_of_not_mem (hkeep hdot)]
    rfl

lemma extension?_respelled (p : Path) : p.respelled.extension? = p.extension?.map respell := by
  rw [extension?, extension?, name?_respelled]
  cases p.name? with
  | none => rfl
  | some n =>
    simp only [Option.map_some, Option.bind_some, cutExtension_respell, Option.map_map]
    rfl

/-- **A path has an extension if the path spelled by its text has one.** -/
theorem hasExtension_respelled (p : Path) : p.respelled.hasExtension = p.hasExtension := by
  rw [hasExtension, hasExtension, extension?_respelled]
  cases p.extension? with
  | none => rfl
  | some e =>
    have hempty : (respell e).isEmpty = e.isEmpty := by
      rw [Bool.eq_iff_iff, List.isEmpty_iff, List.isEmpty_iff, respell_eq_nil]
    simp [hempty]

/-- The path of a picture has an extension. -/
lemma hasExtension_of_isCandidate {p : Path} (h : p.isCandidate = true) :
    p.hasExtension = true := by
  rw [isCandidate, lowerExtension?] at h
  rw [hasExtension]
  cases hextension : p.extension? with
  | none => simp [hextension] at h
  | some e =>
    cases e with
    | nil =>
      exfalso
      rw [hextension] at h
      exact absurd h (by decide)
    | cons b e => rfl

/-- Bytes that are UTF-8 are read alike in both ways. -/
lemma decodeLossy_of_decode? {bs : List UInt8} {cs : List Char} (h : Utf8.decode? bs = some cs) :
    Utf8.decodeLossy bs = cs := by
  rw [Utf8.decode?] at h
  rw [Utf8.decodeLossy]
  generalize Utf8.scan bs = read at h
  induction read generalizing cs with
  | nil =>
    obtain rfl := Option.some.inj h
    rfl
  | cons o read ih =>
    cases o with
    | none => simp at h
    | some c =>
      simp only [List.mapM_cons, id_eq, Option.pure_def, Option.bind_eq_bind,
        Option.bind_some, Option.bind_eq_some_iff, Option.some.injEq] at h
      obtain ⟨rest, hrest, rfl⟩ := h
      rw [List.map_cons, ih hrest]
      rfl

lemma encode_ascii {cs : List Char} (h : ∀ c ∈ cs, c.toNat < 0x80) :
    ∀ a ∈ Utf8.encode cs, a < 0x80 := by
  intro a ha
  obtain ⟨c, hc, hmem⟩ := List.mem_flatMap.mp ha
  have hascii := h c hc
  simp only [Utf8.encodeChar, if_pos hascii, List.mem_singleton] at hmem
  rw [hmem, UInt8.lt_iff_toNat_lt, UInt8.toNat_ofNat']
  exact Nat.lt_of_le_of_lt (Nat.mod_le _ _) hascii

/-- A character whose small ASCII form is ASCII is ASCII. -/
lemma ascii_of_toLower {c : Char} (h : c.toLower.toNat < 0x80) : c.toNat < 0x80 := by
  by_contra hc
  have hsame : c.toLower = c := dif_neg fun hupper => by
    have hle : c.toNat ≤ 90 := UInt32.le_iff_toNat_le.mp hupper.2
    omega
  rw [hsame] at h
  exact hc h

/-- **A path leads to a picture by its extension if the path spelled by its text does.** -/
theorem isCandidate_respelled {p : Path} (h : p.isCandidate = true) :
    p.respelled.isCandidate = true := by
  have hsame : p.respelled.extension? = p.extension? := by
    rw [extension?_respelled]
    rw [isCandidate, lowerExtension?] at h
    cases hextension : p.extension? with
    | none => rfl
    | some e =>
      rw [hextension, Option.bind_some, Text.ofBytes?] at h
      cases hread : Utf8.decode? e with
      | none => simp [hread] at h
      | some cs =>
        simp only [hread, Option.map_some, Option.any_some, Text.lowerAscii,
          String.toList_ofList] at h
        -- the known extensions are ASCII, and so are their other spellings
        have hascii : ∀ c ∈ cs, c.toNat < 0x80 := by
          intro c hc
          have hlower : ∀ name ∈ pictureExtensions, ∀ d ∈ name.toList, d.toNat < 0x80 := by
            simp [pictureExtensions]
          refine ascii_of_toLower (hlower _ (List.contains_iff_mem.mp h) c.toLower ?_)
          rw [String.toList_ofList]
          exact List.mem_map_of_mem hc
        have hspelled : respell e = Utf8.encode cs := by
          rw [respell, decodeLossy_of_decode? hread]
        rw [Option.map_some, hspelled, ← (respell_eq_ascii (encode_ascii hascii) e).mp hspelled]
  rw [isCandidate, lowerExtension?, hsame]
  exact h

end Path

end PictureIndex
