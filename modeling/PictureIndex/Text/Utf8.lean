/-!
# Characters as bytes

UTF-8 in both directions.  `encode` writes a list of characters.  `scan` reads any list of
bytes: it yields `some c` for each well-formed character and `none` for each longest broken
beginning of one, so that reading strictly (`decode?`) and reading with replacement
characters (`decodeLossy`) are two views of one pass.

A broken beginning ends at the first byte that no character starting with the bytes before
it could have: the byte `E0` may be followed by `A0`–`BF` only, `ED` by `80`–`9F` (no
surrogates), `F0` by `90`–`BF` and `F4` by `80`–`8F` (nothing above U+10FFFF).
-/

namespace PictureIndex.Utf8

/-! ## Writing -/

/-- A continuation byte carrying the lowest six bits of `n`. -/
def trail (n : Nat) : UInt8 := UInt8.ofNat (0x80 + n % 0x40)

/-- The one to four bytes of a character. -/
def encodeChar (c : Char) : List UInt8 :=
  let n := c.toNat
  if n < 0x80 then [UInt8.ofNat n]
  else if n < 0x800 then [UInt8.ofNat (0xC0 + n / 0x40), trail n]
  else if n < 0x10000 then [UInt8.ofNat (0xE0 + n / 0x1000), trail (n / 0x40), trail n]
  else [UInt8.ofNat (0xF0 + n / 0x40000), trail (n / 0x1000), trail (n / 0x40), trail n]

/-- The bytes of a text. -/
def encode (cs : List Char) : List UInt8 := cs.flatMap encodeChar

@[simp] theorem encode_nil : encode [] = [] := rfl

@[simp] theorem encode_cons (c : Char) (cs : List Char) :
    encode (c :: cs) = encodeChar c ++ encode cs := rfl

@[simp] theorem encode_append (cs ds : List Char) : encode (cs ++ ds) = encode cs ++ encode ds := by
  simp [encode]

/-! ## Reading -/

/-- A byte of the form `10xxxxxx`. -/
def isTrail (b : UInt8) : Bool := 0x80 ≤ b && b ≤ 0xBF

/-- Whether some character starts with the bytes `a`, `b`, where `a` is not ASCII. -/
def opens (a b : UInt8) : Bool :=
  if 0xC2 ≤ a && a ≤ 0xDF then isTrail b
  else if a = 0xE0 then 0xA0 ≤ b && b ≤ 0xBF
  else if a = 0xED then 0x80 ≤ b && b ≤ 0x9F
  else if 0xE1 ≤ a && a ≤ 0xEF then isTrail b
  else if a = 0xF0 then 0x90 ≤ b && b ≤ 0xBF
  else if a = 0xF4 then 0x80 ≤ b && b ≤ 0x8F
  else if 0xF1 ≤ a && a ≤ 0xF3 then isTrail b
  else false

/-- The lowest six bits of a byte. -/
def payload (b : UInt8) : Nat := b.toNat % 0x40

/-- The characters of a byte list, with `none` for each broken beginning of one. -/
def scan : List UInt8 → List (Option Char)
  | [] => []
  | a :: r1 =>
    if a < 0x80 then some (Char.ofNat a.toNat) :: scan r1
    else match r1 with
      | [] => [none]
      | b :: r2 =>
        if !opens a b then none :: scan (b :: r2)
        else if a < 0xE0 then some (Char.ofNat (a.toNat % 0x20 * 0x40 + payload b)) :: scan r2
        else match r2 with
          | [] => [none]
          | c :: r3 =>
            if !isTrail c then none :: scan (c :: r3)
            else if a < 0xF0 then
              some (Char.ofNat (a.toNat % 0x10 * 0x1000 + payload b * 0x40 + payload c)) :: scan r3
            else match r3 with
              | [] => [none]
              | d :: r4 =>
                if !isTrail d then none :: scan (d :: r4)
                else
                  some (Char.ofNat (a.toNat % 0x08 * 0x40000 + payload b * 0x1000
                    + payload c * 0x40 + payload d)) :: scan r4

/-- The text of well-formed bytes. -/
def decode? (bs : List UInt8) : Option (List Char) := (scan bs).mapM id

/-- The text of any bytes, with U+FFFD for each broken beginning of a character. -/
def decodeLossy (bs : List UInt8) : List Char := (scan bs).map (·.getD '\uFFFD')

/-! ## Reading what was written -/

theorem toNat_trail (n : Nat) : (trail n).toNat = 0x80 + n % 0x40 := by
  have h : n % 0x40 < 0x40 := Nat.mod_lt _ (by decide)
  simp only [trail, UInt8.toNat_ofNat']
  omega

theorem isTrail_trail (n : Nat) : isTrail (trail n) = true := by
  have h : n % 0x40 < 0x40 := Nat.mod_lt _ (by decide)
  simp only [isTrail, UInt8.le_iff_toNat_le, toNat_trail, Bool.and_eq_true, decide_eq_true_eq]
  constructor
  · simp
  · simp
    omega

theorem payload_trail (n : Nat) : payload (trail n) = n % 0x40 := by
  have h : n % 0x40 < 0x40 := Nat.mod_lt _ (by decide)
  simp only [payload, toNat_trail]
  omega

/-- The lead byte and the first continuation byte of a character open it. -/
theorem opens_iff (a b : UInt8) : opens a b = true ↔
    0x80 ≤ b.toNat ∧ b.toNat ≤ 0xBF ∧ 0xC2 ≤ a.toNat ∧ a.toNat ≤ 0xF4 ∧
      (a.toNat = 0xE0 → 0xA0 ≤ b.toNat) ∧ (a.toNat = 0xED → b.toNat ≤ 0x9F) ∧
      (a.toNat = 0xF0 → 0x90 ≤ b.toNat) ∧ (a.toNat = 0xF4 → b.toNat ≤ 0x8F) := by
  have ha : a.toNat < 256 := a.toNat_lt
  have hb : b.toNat < 256 := b.toNat_lt
  simp only [opens, isTrail, UInt8.le_iff_toNat_le, ← UInt8.toNat_inj, UInt8.reduceToNat]
  repeat' split
  all_goals simp only [Bool.and_eq_true, decide_eq_true_eq, Bool.false_eq_true, false_iff] at *
  all_goals omega

theorem scan_encodeChar (c : Char) (rest : List UInt8) :
    scan (encodeChar c ++ rest) = some c :: scan rest := by
  have hv : c.toNat < 0xD800 ∨ 0xDFFF < c.toNat ∧ c.toNat < 0x110000 := c.valid
  unfold encodeChar
  simp only
  split
  · next h =>
    have h1 : (UInt8.ofNat c.toNat).toNat = c.toNat := by simp only [UInt8.toNat_ofNat']; omega
    have h2 : UInt8.ofNat c.toNat < 0x80 := by
      rw [UInt8.lt_iff_toNat_lt, h1]; simpa using h
    rw [List.cons_append, scan.eq_def]
    simp [h2, h1]
  · next h =>
    split
    · next h2 =>
      generalize ha : UInt8.ofNat (0xC0 + c.toNat / 0x40) = a
      have h1 : a.toNat = 0xC0 + c.toNat / 0x40 := by
        rw [← ha, UInt8.toNat_ofNat']; omega
      have e1 : ¬ a < 0x80 := by simp only [UInt8.lt_iff_toNat_lt, h1, UInt8.reduceToNat]; omega
      have e2 : opens a (trail c.toNat) = true := by
        rw [opens_iff, toNat_trail, h1]; omega
      have e3 : a < 0xE0 := by simp only [UInt8.lt_iff_toNat_lt, h1, UInt8.reduceToNat]; omega
      rw [List.cons_append, scan.eq_def]
      simp only [e1, e2, e3, List.cons_append, List.nil_append, if_false, if_true, payload_trail, h1,
        Bool.not_true, Bool.false_eq_true]
      congr 2
      rw [show (192 + c.toNat / 64) % 32 * 64 + c.toNat % 64 = c.toNat by omega, Char.ofNat_toNat]
    · next h2 =>
      split
      · next h3 =>
        generalize ha : UInt8.ofNat (0xE0 + c.toNat / 0x1000) = a
        have h1 : a.toNat = 0xE0 + c.toNat / 0x1000 := by
          rw [← ha, UInt8.toNat_ofNat']; omega
        have e1 : ¬ a < 0x80 := by simp only [UInt8.lt_iff_toNat_lt, h1, UInt8.reduceToNat]; omega
        have e2 : opens a (trail (c.toNat / 0x40)) = true := by
          rw [opens_iff, toNat_trail, h1]; omega
        have e3 : ¬ a < 0xE0 := by simp only [UInt8.lt_iff_toNat_lt, h1, UInt8.reduceToNat]; omega
        have e4 : a < 0xF0 := by simp only [UInt8.lt_iff_toNat_lt, h1, UInt8.reduceToNat]; omega
        rw [List.cons_append, scan.eq_def]
        simp only [e1, e2, e3, e4, List.cons_append, List.nil_append, if_false, if_true,
          payload_trail, h1, isTrail_trail, Bool.not_true, Bool.false_eq_true]
        congr 2
        rw [show (224 + c.toNat / 4096) % 16 * 4096 + c.toNat / 64 % 64 * 64 + c.toNat % 64
          = c.toNat by omega, Char.ofNat_toNat]
      · next h3 =>
        generalize ha : UInt8.ofNat (0xF0 + c.toNat / 0x40000) = a
        have h1 : a.toNat = 0xF0 + c.toNat / 0x40000 := by
          rw [← ha, UInt8.toNat_ofNat']; omega
        have e1 : ¬ a < 0x80 := by simp only [UInt8.lt_iff_toNat_lt, h1, UInt8.reduceToNat]; omega
        have e2 : opens a (trail (c.toNat / 0x1000)) = true := by
          rw [opens_iff, toNat_trail, h1]; omega
        have e3 : ¬ a < 0xE0 := by simp only [UInt8.lt_iff_toNat_lt, h1, UInt8.reduceToNat]; omega
        have e4 : ¬ a < 0xF0 := by simp only [UInt8.lt_iff_toNat_lt, h1, UInt8.reduceToNat]; omega
        rw [List.cons_append, scan.eq_def]
        simp only [e1, e2, e3, e4, List.cons_append, List.nil_append, if_false,
          payload_trail, h1, isTrail_trail, Bool.not_true, Bool.false_eq_true]
        congr 2
        rw [show (240 + c.toNat / 262144) % 8 * 262144 + c.toNat / 4096 % 64 * 4096
          + c.toNat / 64 % 64 * 64 + c.toNat % 64 = c.toNat by omega, Char.ofNat_toNat]

/-- Reading what was written. -/
theorem scan_encode_append (cs : List Char) (rest : List UInt8) :
    scan (encode cs ++ rest) = cs.map some ++ scan rest := by
  induction cs with
  | nil => rfl
  | cons c cs ih => rw [encode_cons, List.append_assoc, scan_encodeChar, ih]; rfl

theorem scan_encode (cs : List Char) : scan (encode cs) = cs.map some := by
  have h := scan_encode_append cs []
  rw [List.append_nil] at h
  rw [h, show scan [] = [] from rfl, List.append_nil]

@[simp] theorem decodeLossy_encode (cs : List Char) : decodeLossy (encode cs) = cs := by
  simp [decodeLossy, scan_encode, Function.comp_def]

@[simp] theorem decode?_encode (cs : List Char) : decode? (encode cs) = some cs := by
  rw [decode?, scan_encode]
  induction cs with
  | nil => rfl
  | cons c cs ih => simp [ih]

theorem encode_injective {cs ds : List Char} (h : encode cs = encode ds) : cs = ds := by
  rw [← decodeLossy_encode cs, h, decodeLossy_encode]

end PictureIndex.Utf8
