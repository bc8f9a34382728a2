import Mathlib.Data.List.Basic
import Mathlib.Data.Nat.Bitwise
import PictureIndex.Inspection
/-!
# What the first bytes tell

A picture is told by a few bytes at its start.  `PictureType.Opening` spells out the shortest
beginning that tells each type: four bytes for JPEG, eight for PNG, twelve for WebP, and nine more
for WebP with an animation.  Bytes begin like a type (`Begins`) if they go on behind such a
beginning, and a type is shown (`Shows`) if no other reading is left.

What bytes begin like they still begin like when more is appended, and once they are as many as the
longest beginning nothing else can be made of them.  So the thirty bytes that are read of a file
are enough, whatever its length.

* `ofHeader_eq_iff`: the type that is told is the one that is shown.
* `thirty_bytes_decide_type`: it is told of the whole file from the bytes that are read, and no
  test looks at bytes that are not there.
-/

namespace PictureIndex

namespace PictureType

variable {bs more start tag : List UInt8} {type type' : PictureType}

/-! ## Beginnings -/

/-- The shortest beginnings that tell a type. -/
inductive Opening : PictureType → List UInt8 → Prop
  /-- `FF D8 FF` and the marker of the first segment. -/
  | jpeg {marker : UInt8} (hmarker : marker = 0xE0 ∨ marker = 0xE1) :
      Opening .jpeg [0xFF, 0xD8, 0xFF, marker]
  /-- The signature. -/
  | png : Opening .png pngSignature
  /-- `RIFF`, a size in four bytes, and `WEBP`. -/
  | staticWebp {size : List UInt8} (hsize : size.length = 4) :
      Opening .staticWebp (riffTag ++ size ++ webpTag)
  /-- The same, then `VP8X`, the chunk's length in four bytes, and flags of which the one of value
  two is set. -/
  | animatedWebp {size length : List UInt8} {flags : UInt8} (hsize : size.length = 4)
      (hlength : length.length = 4) (hflags : flags.toNat.testBit 1 = true) :
      Opening .animatedWebp (riffTag ++ size ++ webpTag ++ (extendedTag ++ length ++ [flags]))

/-- Number of bytes that it takes to tell a type. -/
def openingLength : PictureType → Nat
  | notImage => 0
  | jpeg => 4
  | png => 8
  | staticWebp => 12
  | animatedWebp => 21

/-- The first byte of a type. -/
def firstByte? : PictureType → Option UInt8
  | notImage => none
  | jpeg => some 0xFF
  | png => some 0x89
  | staticWebp | animatedWebp => some 0x52

lemma Opening.length_eq (h : Opening type start) : start.length = type.openingLength := by
  cases h <;> simp [openingLength, pngSignature, riffTag, webpTag, extendedTag, *]

lemma Opening.head?_eq (h : Opening type start) : start.head? = type.firstByte? := by
  cases h <;> rfl

/-- Whether bytes begin as a type does. -/
def Begins (bs : List UInt8) (type : PictureType) : Prop :=
  ∃ start, Opening type start ∧ start <+: bs

lemma not_begins_notImage : ¬ Begins bs .notImage := by
  rintro ⟨start, hstart, -⟩
  cases hstart

/-- What bytes begin like, they begin like with more behind them. -/
lemma Begins.append (h : Begins bs type) (more : List UInt8) : Begins (bs ++ more) type := by
  obtain ⟨start, hstart, hbegins⟩ := h
  exact ⟨start, hstart, hbegins.trans (List.prefix_append bs more)⟩

/-- What is appended has no part in a beginning that fits without it. -/
lemma Begins.of_append (h : Begins (bs ++ more) type) (hlength : type.openingLength ≤ bs.length) :
    Begins bs type := by
  obtain ⟨start, hstart, hbegins⟩ := h
  exact ⟨start, hstart, List.prefix_of_prefix_length_le hbegins (List.prefix_append bs more)
    (hstart.length_eq ▸ hlength)⟩

lemma Begins.head?_eq (h : Begins bs type) : bs.head? = type.firstByte? := by
  obtain ⟨start, hstart, rest, rfl⟩ := h
  rw [← hstart.head?_eq, List.head?_append_of_ne_nil]
  cases hstart <;> simp [pngSignature, riffTag]

/-- An animated WebP picture begins as a still one does. -/
lemma Begins.staticWebp (h : Begins bs .animatedWebp) : Begins bs .staticWebp := by
  obtain ⟨start, hstart, hbegins⟩ := h
  cases hstart with
  | animatedWebp hsize => exact ⟨_, .staticWebp hsize, (List.prefix_append _ _).trans hbegins⟩

/-- Only WebP pictures begin like two types. -/
lemma Begins.unique (h : Begins bs type) (h' : Begins bs type') : type = type' ∨
    type = .staticWebp ∧ type' = .animatedWebp ∨ type = .animatedWebp ∧ type' = .staticWebp := by
  have hbyte : type.firstByte? = type'.firstByte? := h.head?_eq.symm.trans h'.head?_eq
  cases type <;> cases type' <;> simp_all [firstByte?, not_begins_notImage]

/-! ## The tests for a beginning -/

lemma hasAt_iff {i : Nat} : hasAt bs i tag = true ↔ tag <+: bs.drop i := by
  rw [hasAt, decide_eq_true_iff, List.prefix_iff_eq_take, eq_comm]

lemma hasAt_zero_iff : hasAt bs 0 tag = true ↔ ∃ rest, bs = tag ++ rest := by
  rw [hasAt_iff, List.drop_zero]
  exact exists_congr fun rest => eq_comm

/-- A flag of value two is the bit in the second place. -/
lemma and_two_ne_zero_iff (flags : UInt8) : flags &&& 2 ≠ 0 ↔ flags.toNat.testBit 1 = true := by
  rw [ne_eq, ← UInt8.toNat_inj, UInt8.toNat_and]
  show ¬ flags.toNat &&& 2 ^ 1 = 0 ↔ _
  rw [Nat.and_two_pow]
  cases flags.toNat.testBit 1 <;> simp

lemma begins_jpeg_iff : Begins bs .jpeg ↔
    (hasAt bs 0 [0xFF, 0xD8, 0xFF] && (bs[3]?).any (fun b => b = 0xE0 ∨ b = 0xE1)) = true := by
  rw [Bool.and_eq_true, hasAt_zero_iff]
  constructor
  · rintro ⟨start, hstart, rest, rfl⟩
    cases hstart with
    | @jpeg marker hmarker => exact ⟨⟨marker :: rest, rfl⟩, by simpa using hmarker⟩
  · rintro ⟨⟨rest, rfl⟩, hmarker⟩
    cases rest with
    | nil => simp at hmarker
    | cons marker rest => exact ⟨_, .jpeg (by simpa using hmarker), rest, rfl⟩

lemma begins_png_iff : Begins bs .png ↔ hasAt bs 0 pngSignature = true := by
  rw [hasAt_zero_iff]
  constructor
  · rintro ⟨start, hstart, rest, rfl⟩
    cases hstart
    exact ⟨rest, rfl⟩
  · rintro ⟨rest, rfl⟩
    exact ⟨_, .png, rest, rfl⟩

/-- Four bytes in front of others. -/
lemma exists_four {rest : List UInt8} (h : tag <+: rest.drop 4) (hne : tag ≠ []) :
    ∃ four rest', four.length = 4 ∧ rest = four ++ tag ++ rest' := by
  obtain ⟨rest', hrest⟩ := h
  refine ⟨rest.take 4, rest', ?_, ?_⟩
  · have hlong := congrArg List.length hrest
    have hpos : 0 < tag.length := List.length_pos_iff.mpr hne
    rw [List.length_append, List.length_drop] at hlong
    rw [List.length_take]
    omega
  · rw [List.append_assoc, hrest, List.take_append_drop]

lemma begins_staticWebp_iff : Begins bs .staticWebp ↔
    (hasAt bs 0 riffTag && hasAt bs 8 webpTag) = true := by
  rw [Bool.and_eq_true, hasAt_zero_iff, hasAt_iff]
  constructor
  · rintro ⟨start, hstart, rest, rfl⟩
    cases hstart with
    | @staticWebp size hsize =>
      refine ⟨⟨size ++ webpTag ++ rest, by simp⟩, rest, ?_⟩
      rw [List.append_assoc, List.drop_left' (by simp [riffTag, hsize])]
  · rintro ⟨⟨rest, rfl⟩, htag⟩
    have hfour : webpTag <+: rest.drop 4 := htag
    obtain ⟨size, rest', hsize, rfl⟩ := exists_four hfour (by simp [webpTag])
    exact ⟨_, .staticWebp hsize, rest', by simp⟩

lemma getElem?_eq_some_iff {i : Nat} {b : UInt8} : bs[i]? = some b ↔ [b] <+: bs.drop i := by
  rw [← List.head?_drop]
  cases bs.drop i <;> simp [List.cons_prefix_cons, eq_comm]

lemma isAnimated_iff : isAnimated bs = true ↔ extendedTag <+: bs.drop 12 ∧
    ∃ flags : UInt8, flags.toNat.testBit 1 = true ∧ [flags] <+: bs.drop 20 := by
  simp only [isAnimated, Bool.and_eq_true, hasAt_iff, Option.any_eq_true, decide_eq_true_iff,
    and_two_ne_zero_iff, getElem?_eq_some_iff, and_comm]

lemma begins_animatedWebp_iff :
    Begins bs .animatedWebp ↔ Begins bs .staticWebp ∧ isAnimated bs = true := by
  rw [isAnimated_iff]
  constructor
  · intro h
    refine ⟨h.staticWebp, ?_⟩
    obtain ⟨start, hstart, rest, rfl⟩ := h
    cases hstart with
    | @animatedWebp size length flags hsize hlength hflags =>
      have hfront : (riffTag ++ size ++ webpTag).length = 12 := by simp [riffTag, webpTag, hsize]
      have hchunk : (riffTag ++ size ++ webpTag ++ (extendedTag ++ length)).length = 20 := by
        simp [riffTag, webpTag, extendedTag, hsize, hlength]
      refine ⟨⟨length ++ [flags] ++ rest, ?_⟩, flags, hflags, rest, ?_⟩
      · rw [List.append_assoc (riffTag ++ size ++ webpTag), List.drop_left' hfront]
        simp
      · rw [← List.append_assoc, List.append_assoc _ [flags], List.drop_left' hchunk]
  · rintro ⟨⟨start, hstart, rest, rfl⟩, htag, flags, hflags, hset⟩
    cases hstart with
    | @staticWebp size hsize =>
      have hfront : (riffTag ++ size ++ webpTag).length = 12 := by simp [riffTag, webpTag, hsize]
      rw [List.drop_left' hfront] at htag
      obtain ⟨rest, rfl⟩ := htag
      have hfour : [flags] <+: rest.drop 4 := by
        rwa [← List.drop_drop (i := 8) (j := 12), List.drop_left' hfront] at hset
      obtain ⟨length, rest', hlength, rfl⟩ := exists_four hfour (by simp)
      exact ⟨_, .animatedWebp hsize hlength hflags, rest', by simp⟩

/-! ## What is shown -/

/-- Whether bytes show a type: a WebP picture that does not begin like an animated one is still, and
what begins like no picture is none. -/
def Shows (bs : List UInt8) : PictureType → Prop
  | notImage => ∀ type, ¬ Begins bs type
  | jpeg => Begins bs .jpeg
  | png => Begins bs .png
  | staticWebp => Begins bs .staticWebp ∧ ¬ Begins bs .animatedWebp
  | animatedWebp => Begins bs .animatedWebp

lemma Shows.begins (h : Shows bs type) (hpicture : type ≠ .notImage) : Begins bs type := by
  cases type with
  | notImage => exact absurd rfl hpicture
  | staticWebp => exact h.1
  | jpeg | png | animatedWebp => exact h

/-- Bytes show one type only. -/
lemma Shows.unique (h : Shows bs type) (h' : Shows bs type') : type = type' := by
  by_cases hnone : type = .notImage ∨ type' = .notImage
  · by_contra hne
    rcases hnone with rfl | rfl
    · exact h _ (h'.begins (Ne.symm hne))
    · exact h' _ (h.begins hne)
  · rw [not_or] at hnone
    rcases (h.begins hnone.1).unique (h'.begins hnone.2) with rfl | ⟨rfl, rfl⟩ | ⟨rfl, rfl⟩
    · rfl
    · exact absurd h' h.2
    · exact absurd h h'.2

lemma shows_ofHeader (bs : List UInt8) : Shows bs (ofHeader bs) := by
  rw [ofHeader]
  split
  · exact begins_jpeg_iff.mpr ‹_›
  split
  · exact begins_png_iff.mpr ‹_›
  rename_i hjpeg hpng
  split
  · rename_i hwebp
    have hstatic := begins_staticWebp_iff.mpr hwebp
    split
    · exact begins_animatedWebp_iff.mpr ⟨hstatic, ‹_›⟩
    · exact ⟨hstatic, fun h => absurd (begins_animatedWebp_iff.mp h).2 ‹_›⟩
  · rename_i hwebp
    intro type h
    cases type with
    | notImage => exact not_begins_notImage h
    | jpeg => exact hjpeg (begins_jpeg_iff.mp h)
    | png => exact hpng (begins_png_iff.mp h)
    | staticWebp => exact hwebp (begins_staticWebp_iff.mp h)
    | animatedWebp => exact hwebp (begins_staticWebp_iff.mp h.staticWebp)

/-- **The type that is told is the one that is shown.** -/
theorem ofHeader_eq_iff : ofHeader bs = type ↔ Shows bs type :=
  ⟨fun h => h ▸ shows_ofHeader bs, fun h => (shows_ofHeader bs).unique h⟩

/-! ## More bytes -/

/-- Bytes behind others that begin nothing new leave the type as it is. -/
lemma Shows.append (h : Shows bs type)
    (hnew : ∀ type', Begins (bs ++ more) type' → Begins bs type') : Shows (bs ++ more) type := by
  cases type with
  | notImage => exact fun type' hmore => h type' (hnew type' hmore)
  | staticWebp => exact ⟨h.1.append more, fun hmore => h.2 (hnew _ hmore)⟩
  | jpeg | png | animatedWebp => exact Begins.append h more

/-- **Behind the longest beginning no byte counts.** -/
theorem ofHeader_append (h : 21 ≤ bs.length) (more : List UInt8) :
    ofHeader (bs ++ more) = ofHeader bs := by
  refine ofHeader_eq_iff.mpr ((shows_ofHeader bs).append fun type hmore => hmore.of_append ?_)
  cases type <;> simp only [openingLength] <;> omega

lemma ofHeader_take {n : Nat} (h : 21 ≤ n) (bs : List UInt8) :
    ofHeader (bs.take n) = ofHeader bs := by
  by_cases hshort : bs.length ≤ n
  · rw [List.take_of_length_le hshort]
  · have hlength : 21 ≤ (bs.take n).length := by
      rw [List.length_take]
      omega
    conv_rhs => rw [← List.take_append_drop n bs]
    rw [ofHeader_append hlength]

/-- Twelve bytes that begin no picture never become one. -/
lemma ofHeader_append_notImage (h : ofHeader bs = .notImage) (hlength : 12 ≤ bs.length)
    (more : List UInt8) : ofHeader (bs ++ more) = .notImage := by
  have hnone : ∀ type, ¬ Begins bs type := ofHeader_eq_iff.mp h
  refine ofHeader_eq_iff.mpr fun type hmore => ?_
  cases type with
  | notImage => exact not_begins_notImage hmore
  | animatedWebp => exact hnone _ (hmore.staticWebp.of_append hlength)
  | jpeg | png | staticWebp =>
    refine hnone _ (hmore.of_append ?_)
    simp only [openingLength]
    omega

/-- What more bytes can make of a type: short bytes may become a picture, and a still WebP picture
an animated one. -/
theorem ofHeader_append_cases (bs more : List UInt8) :
    ofHeader (bs ++ more) = ofHeader bs ∨
      ofHeader bs = .notImage ∧ bs.length < 12 ∨
      ofHeader bs = .staticWebp ∧ ofHeader (bs ++ more) = .animatedWebp := by
  have hshows := shows_ofHeader bs
  cases htype : ofHeader bs with
  | notImage =>
    by_cases hlength : bs.length < 12
    · exact .inr (.inl ⟨rfl, hlength⟩)
    · exact .inl (ofHeader_append_notImage htype (Nat.not_lt.mp hlength) more)
  | staticWebp =>
    rw [htype] at hshows
    by_cases hmore : Begins (bs ++ more) .animatedWebp
    · exact .inr (.inr ⟨rfl, ofHeader_eq_iff.mpr hmore⟩)
    · exact .inl (ofHeader_eq_iff.mpr ⟨hshows.1.append more, hmore⟩)
  | jpeg | png | animatedWebp =>
    rw [htype] at hshows
    exact .inl (ofHeader_eq_iff.mpr (Begins.append hshows more))

/-! ## Bytes that are there -/

/-- The bytes from one place up to another, if they are all there. -/
def slice? (bs : List UInt8) (i j : Nat) : Option (List UInt8) :=
  if i ≤ j ∧ j ≤ bs.length then some ((bs.drop i).take (j - i)) else none

/-- What comes of a test that is made only of so many bytes or more, and else fails. -/
def testFrom (length : Nat) (bs : List UInt8) (test? : Option Bool) : Option Bool :=
  if length ≤ bs.length then test? else some false

/-- The test for a JPEG picture, with the bytes taken from their places. -/
def jpegTest? (bs : List UInt8) : Option Bool :=
  testFrom 4 bs do
    let start ← slice? bs 0 3
    let marker ← bs[3]?
    some (start = [0xFF, 0xD8, 0xFF] && (marker = 0xE0 || marker = 0xE1 : Bool))

/-- The test for a WebP picture. -/
def webpTest? (bs : List UInt8) : Option Bool :=
  testFrom 12 bs do
    let start ← slice? bs 0 4
    let kind ← slice? bs 8 12
    some (start = riffTag && kind = webpTag : Bool)

/-- The test for an extended WebP picture. -/
def extendedTest? (bs : List UInt8) : Option Bool :=
  testFrom 16 bs do
    let chunk ← slice? bs 12 16
    some (chunk = extendedTag : Bool)

/-- The type that the first bytes of a file show, told by tests that take bytes from their places;
nothing, if one of them takes bytes that are not there. -/
def ofHeaderInBounds? (bs : List UInt8) : Option PictureType := do
  if ← jpegTest? bs then return .jpeg
  if pngSignature.isPrefixOf bs then return .png
  if ← webpTest? bs then
    if (← extendedTest? bs) && (bs[20]?).any (fun flags => flags &&& 2 ≠ 0) then
      return .animatedWebp
    return .staticWebp
  return .notImage

lemma slice?_eq {i j : Nat} (hij : i ≤ j) (hj : j ≤ bs.length) :
    slice? bs i j = some ((bs.drop i).take (j - i)) := if_pos ⟨hij, hj⟩

/-- Nothing stands where there are not enough bytes. -/
lemma hasAt_of_short {i : Nat} (hne : tag ≠ []) (h : bs.length < i + tag.length) :
    hasAt bs i tag = false := by
  rw [Bool.eq_false_iff, ne_eq, hasAt_iff]
  intro htag
  have hlength := htag.length_le
  have hpos := List.length_pos_iff.mpr hne
  rw [List.length_drop] at hlength
  omega

lemma jpegTest?_eq (bs : List UInt8) : jpegTest? bs =
    some (hasAt bs 0 [0xFF, 0xD8, 0xFF] && (bs[3]?).any fun b => b = 0xE0 ∨ b = 0xE1) := by
  rw [jpegTest?, testFrom]
  split
  · have hmarker : bs[3]? = some bs[3] := List.getElem?_eq_getElem (by omega)
    rw [slice?_eq (by omega) (by omega), hmarker]
    simp [hasAt]
  · rw [List.getElem?_eq_none (by omega)]
    simp

lemma webpTest?_eq (bs : List UInt8) :
    webpTest? bs = some (hasAt bs 0 riffTag && hasAt bs 8 webpTag) := by
  rw [webpTest?, testFrom]
  split
  · rw [slice?_eq (by omega) (by omega), slice?_eq (by omega) (by omega)]
    rfl
  · rename_i hshort
    have hkind : hasAt bs 8 webpTag = false :=
      hasAt_of_short (by simp [webpTag]) (Nat.not_le.mp hshort)
    rw [hkind, Bool.and_false]

lemma extendedTest?_eq (bs : List UInt8) : extendedTest? bs = some (hasAt bs 12 extendedTag) := by
  rw [extendedTest?, testFrom]
  split
  · rw [slice?_eq (by omega) (by omega)]
    rfl
  · rename_i hshort
    rw [hasAt_of_short (by simp [extendedTag]) (Nat.not_le.mp hshort)]

/-- Bytes are taken from their places only where they are. -/
theorem ofHeaderInBounds?_eq (bs : List UInt8) : ofHeaderInBounds? bs = some (ofHeader bs) := by
  have hpng : pngSignature.isPrefixOf bs = hasAt bs 0 pngSignature := by
    rw [Bool.eq_iff_iff, List.isPrefixOf_iff_prefix, hasAt_iff, List.drop_zero]
  rw [ofHeaderInBounds?, jpegTest?_eq, hpng, webpTest?_eq, extendedTest?_eq, ofHeader, isAnimated]
  simp only [Option.bind_eq_bind, Option.bind_some, Option.pure_def, apply_ite some]

end PictureType

namespace FileContent

/-- The first bytes of a file are the first of all its bytes. -/
lemma take_toList (c : FileContent) (n : Nat) : c.toList.take n = c.take n := by
  simp only [toList, take, List.take_append, List.take_take, List.take_replicate, List.length_take,
    Nat.min_self]
  have hzeros : min (n - min c.size c.head.length) (c.size - min c.size c.head.length) =
      min n c.size - min (min n c.size) c.head.length := by omega
  rw [hzeros]

end FileContent

namespace PictureType

/-- **Thirty bytes decide the type.**  Of any file that can be read, however long it is,

* the type that is told is the one that all its bytes show, if its path has the extension of a
  picture, and else it is no picture.

Of any bytes,

* the type that is told is the one that they show, and they show exactly one: JPEG if they start
  with `FF D8 FF` and `E0` or `E1`; PNG if they start with the signature; animated WebP if they have
  `RIFF`, `WEBP` and `VP8X` in the places 0, 8 and 12 and the flag of value two in the byte at
  place 20; still WebP if they have `RIFF` and `WEBP` there without being animated; and no picture
  otherwise;
* no test takes a byte from where there is none;
* twenty-one of them are enough: what is appended to so many changes nothing;
* what is appended to fewer may make a picture of what is none, if it is shorter than twelve bytes,
  or an animated WebP picture of a still one, and changes nothing else. -/
theorem thirty_bytes_decide_type :
    (∀ (t : FileTree) (p : Path) (content : FileContent), t.read? p = some content →
      t.pictureType p = if p.isCandidate then ofHeader content.toList else .notImage) ∧
    (∀ bs type, ofHeader bs = type ↔ Shows bs type) ∧ (∀ bs, ∃! type, Shows bs type) ∧
    (∀ bs, ofHeaderInBounds? bs = some (ofHeader bs)) ∧
    (∀ bs more, 21 ≤ bs.length → ofHeader (bs ++ more) = ofHeader bs) ∧
    ∀ bs more, bs.length < 21 → ofHeader (bs ++ more) ≠ ofHeader bs →
      ofHeader bs = .notImage ∧ bs.length < 12 ∨
        ofHeader bs = .staticWebp ∧ ofHeader (bs ++ more) = .animatedWebp := by
  refine ⟨fun t p content hread => ?_, fun bs type => ofHeader_eq_iff, fun bs => ?_,
    ofHeaderInBounds?_eq, fun bs more h => ofHeader_append h more, fun bs more _ hne => ?_⟩
  · have htake : ofHeader (content.take headerLength) = ofHeader content.toList := by
      rw [← content.take_toList]
      exact ofHeader_take (by decide) content.toList
    rw [FileTree.pictureType, hread]
    cases p.isCandidate with
    | false => rfl
    | true => exact htake
  · exact ⟨ofHeader bs, shows_ofHeader bs, fun type h => h.unique (shows_ofHeader bs)⟩
  · exact (ofHeader_append_cases bs more).resolve_left hne

/-- The first bytes of an animated WebP picture, up to the flags. -/
def animatedStart : List UInt8 :=
  [0x52, 0x49, 0x46, 0x46, 0, 0, 0, 0, 0x57, 0x45, 0x42, 0x50] ++
    [0x56, 0x50, 0x38, 0x58, 10, 0, 0, 0, 2]

/-- A file with an animation, under the names `a.WebP` and `a.gif`. -/
def animations : FileTree :=
  ⟨[([[0x61, 0x2E, 0x57, 0x65, 0x62, 0x50]], .file ⟨animatedStart, 1000⟩ 0),
    ([[0x61, 0x2E, 0x67, 0x69, 0x66]], .file ⟨animatedStart, 1000⟩ 0)]⟩

/-- The animation is told of all its thousand bytes, but not of a file named `a.gif`.  Its first
twelve bytes show a still picture, of which the next nine make an animated one, and then it stays
that. -/
theorem thirty_bytes_decide_type_of_animation :
    let webp : Path := ⟨[0x2F, 0x61, 0x2E, 0x57, 0x65, 0x62, 0x50]⟩
    let gif : Path := ⟨[0x2F, 0x61, 0x2E, 0x67, 0x69, 0x66]⟩
    let content : FileContent := ⟨animatedStart, 1000⟩
    (animations.read? webp = some content ∧ webp.isCandidate = true ∧
      animations.pictureType webp = ofHeader content.toList ∧
      ofHeader content.toList = .animatedWebp) ∧
    (animations.read? gif = some content ∧ gif.isCandidate = false ∧
      animations.pictureType gif = .notImage) ∧
    (ofHeader (animatedStart.take 12) = .staticWebp ∧
      ofHeader (animatedStart.take 12 ++ animatedStart.drop 12) = .animatedWebp) ∧
    ∀ more, ofHeader (animatedStart ++ more) = ofHeader animatedStart := by
  intro webp gif content
  obtain ⟨hfile, -, -, -, henough, hshort⟩ := thirty_bytes_decide_type
  have hwebp : animations.read? webp = some content := by decide +kernel
  have hgif : animations.read? gif = some content := by decide +kernel
  have hcandidate : webp.isCandidate = true := by decide +kernel
  have hother : gif.isCandidate = false := by decide +kernel
  have hstill : ofHeader (animatedStart.take 12) = .staticWebp := by decide +kernel
  have hturns : ofHeader (animatedStart.take 12 ++ animatedStart.drop 12) ≠
      ofHeader (animatedStart.take 12) := by decide +kernel
  refine ⟨⟨hwebp, hcandidate, ?_, by decide +kernel⟩, ⟨hgif, hother, ?_⟩, ⟨hstill, ?_⟩,
    fun more => henough animatedStart more (by decide)⟩
  · rw [hfile animations webp content hwebp, if_pos hcandidate]
  · rw [hfile animations gif content hgif, hother]
    rfl
  · rcases hshort _ _ (by decide) hturns with ⟨hnone, -⟩ | ⟨-, hanimated⟩
    · simp [hstill] at hnone
    · exact hanimated

end PictureType

end PictureIndex
