import ReflectCalc.Proofs.Text.Lines
import ReflectCalc.Text.Utf8

/-!
# Encoding in UTF-8 and reading it again

The reader goes byte by byte with a sequence that has been begun, and the writer goes character by
character. They meet at the end of each character: `scan_encodeChar` says that a reader who begins
at the encoding of a character comes out behind it with just this character. Both readers of a whole
text follow from it by induction on the text.

* `decode?_encode`, `decodeLossy_encode` — an encoded text reads back;
* `mem_encode_iff` — a byte below 0x80 stands for itself wherever it occurs, so cutting the bytes at
  such a byte cuts the text at that character (`split_encode`), and a text that begins with such a
  byte is found just where it stands (`encode_infix_iff`);
* `decode?_eq_some_iff` — the bytes that can be read are the encodings and no others, since the
  bounds on the second byte of a sequence leave one form for each character;
* `encode_lt_of_precedes` — texts in ascending order have encodings in ascending order.
-/

namespace ReflectCalc.Utf8

variable {c : Char} {s t : Text} {bs : Bytes}

/-! ### One byte read -/

theorem lead_of_lt_80 {b : Nat} (h : b < 0x80) : lead b = .char (Char.ofNat b) := by
  rw [lead, if_pos h]

theorem lead_of_lt_E0 {b : Nat} (hlow : 0xC2 ≤ b) (hhigh : b < 0xE0) :
    lead b = .begins ⟨1, 0x80, 0xBF, b - 0xC0⟩ := by
  rw [lead, if_neg (by omega), if_neg (by omega), if_pos hhigh]

theorem lead_of_lt_F0 {b : Nat} (hlow : 0xE0 ≤ b) (hhigh : b < 0xF0) :
    lead b = .begins
      ⟨2, if b = 0xE0 then 0xA0 else 0x80, if b = 0xED then 0x9F else 0xBF, b - 0xE0⟩ := by
  rw [lead, if_neg (by omega), if_neg (by omega), if_neg (by omega), if_pos hhigh]

theorem lead_of_lt_F5 {b : Nat} (hlow : 0xF0 ≤ b) (hhigh : b < 0xF5) :
    lead b = .begins
      ⟨3, if b = 0xF0 then 0x90 else 0x80, if b = 0xF4 then 0x8F else 0xBF, b - 0xF0⟩ := by
  rw [lead, if_neg (by omega), if_neg (by omega), if_neg (by omega), if_neg (by omega),
    if_pos hhigh]

/-- The first byte of a sequence. -/
theorem scan_begins {n : Nat} {s : Begun} (hn : n < 256) (h : lead n = .begins s) :
    scan none (UInt8.ofNat n :: bs) = scan (some s) bs := by
  have hb : (UInt8.ofNat n).toNat = n := UInt8.toNat_ofNat_of_lt' hn
  rw [scan, scan.start, hb, h]

/-- A byte inside a sequence. -/
theorem scan_next {owed low high bits n : Nat} (hn : n < 256) (howed : 1 ≤ owed) (hlow : low ≤ n)
    (hhigh : n ≤ high) :
    scan (some ⟨owed + 1, low, high, bits⟩) (UInt8.ofNat n :: bs)
      = scan (some ⟨owed, 0x80, 0xBF, bits * 64 + (n - 0x80)⟩) bs := by
  have hb : (UInt8.ofNat n).toNat = n := UInt8.toNat_ofNat_of_lt' hn
  rw [scan, hb, if_pos ⟨hlow, hhigh⟩]
  exact if_neg (by simp only; omega)

/-- The byte that ends a sequence. -/
theorem scan_last {low high bits n : Nat} (hn : n < 256) (hlow : low ≤ n) (hhigh : n ≤ high) :
    scan (some ⟨1, low, high, bits⟩) (UInt8.ofNat n :: bs)
      = some (Char.ofNat (bits * 64 + (n - 0x80))) :: scan none bs := by
  have hb : (UInt8.ofNat n).toNat = n := UInt8.toNat_ofNat_of_lt' hn
  rw [scan, hb, if_pos ⟨hlow, hhigh⟩]
  rfl

/-! ### One character -/

/-- No character is a surrogate, and none is above U+10FFFF. -/
theorem toNat_bounds (c : Char) : c.toNat < 0xD800 ∨ 0xDFFF < c.toNat ∧ c.toNat < 0x110000 :=
  c.valid

/-- **A reader comes out behind a character with just this character.** The second byte keeps to the
bounds that the first one sets, since the character is no surrogate, not above U+10FFFF, and written
with as few bytes as it needs. -/
theorem scan_encodeChar (c : Char) (bs : Bytes) :
    scan none (encodeChar c ++ bs) = some c :: scan none bs := by
  have hc : Char.ofNat c.toNat = c := Char.ofNat_toNat c
  have hbounds := toNat_bounds c
  unfold encodeChar
  generalize c.toNat = n at hc hbounds ⊢
  simp only
  split
  · next h =>
    -- a byte that is the character
    have hb : (UInt8.ofNat n).toNat = n := UInt8.toNat_ofNat_of_lt' (Nat.lt_trans h (by decide))
    rw [List.singleton_append, scan, scan.start, hb, lead_of_lt_80 h, hc]
  split
  · next h =>
    -- two bytes
    have hbits : (0xC0 + n / 64 - 0xC0) * 64 + (0x80 + n % 64 - 0x80) = n := by omega
    rw [List.cons_append, List.singleton_append,
      scan_begins (by omega) (lead_of_lt_E0 (by omega) (by omega)),
      scan_last (by omega) (by omega) (by omega), hbits, hc]
  split
  · next h =>
    -- three bytes, the second of which keeps out the surrogates and what needs only two
    have hbits : ((0xE0 + n / 4096 - 0xE0) * 64 + (0x80 + n / 64 % 64 - 0x80)) * 64
        + (0x80 + n % 64 - 0x80) = n := by omega
    rw [List.cons_append, List.cons_append, List.singleton_append,
      scan_begins (by omega) (lead_of_lt_F0 (by omega) (by omega)),
      scan_next (by omega) (by omega) (by split <;> omega) (by split <;> omega),
      scan_last (by omega) (by omega) (by omega), hbits, hc]
  · next h =>
    -- four bytes, the second of which keeps out what needs only three and what is above U+10FFFF
    have hbits : (((0xF0 + n / 262144 - 0xF0) * 64 + (0x80 + n / 4096 % 64 - 0x80)) * 64
        + (0x80 + n / 64 % 64 - 0x80)) * 64 + (0x80 + n % 64 - 0x80) = n := by omega
    rw [List.cons_append, List.cons_append, List.cons_append, List.singleton_append,
      scan_begins (by omega) (lead_of_lt_F5 (by omega) (by omega)),
      scan_next (by omega) (by omega) (by split <;> omega) (by split <;> omega),
      scan_next (by omega) (by omega) (by omega) (by omega),
      scan_last (by omega) (by omega) (by omega), hbits, hc]

/-! ### A text -/

@[simp] theorem encode_nil : encode [] = [] := rfl

theorem encode_cons (c : Char) (t : Text) : encode (c :: t) = encodeChar c ++ encode t := rfl

theorem encode_append (s t : Text) : encode (s ++ t) = encode s ++ encode t := List.flatMap_append

theorem scan_encode (t : Text) : scan none (encode t) = t.map some := by
  induction t with
  | nil => rw [encode_nil, scan, List.map_nil]
  | cons c t ih => rw [encode_cons, scan_encodeChar, ih, List.map_cons]

theorem decode?_encode (t : Text) : decode? (encode t) = some t := by
  unfold decode?
  rw [scan_encode]
  induction t with
  | nil => rfl
  | cons c t ih => rw [List.map_cons, List.mapM_cons, ih]; rfl

theorem encode_injective (h : encode s = encode t) : s = t := by
  rw [← Option.some_inj, ← decode?_encode s, ← decode?_encode t, h]

theorem encode_flatten (ls : List Text) : encode ls.flatten = (ls.map encode).flatten := by
  induction ls with
  | nil => rfl
  | cons l ls ih => rw [List.flatten_cons, encode_append, ih, List.map_cons, List.flatten_cons]

theorem decodeLossy_encode (t : Text) : decodeLossy (encode t) = t := by
  unfold decodeLossy
  rw [scan_encode, List.map_map]
  exact List.map_id t

/-! ### Bytes that stand for themselves -/

theorem toNat_ofNat {n : Nat} (h : n < 0xD800 ∨ 0xDFFF < n ∧ n < 0x110000) :
    (Char.ofNat n).toNat = n := by
  rw [Char.ofNat, dif_pos h]
  rfl

theorem toNat_ofNat_of_lt_80 {b : UInt8} (hb : b.toNat < 0x80) :
    (Char.ofNat b.toNat).toNat = b.toNat :=
  toNat_ofNat (.inl (by omega))

/-- A character below U+0080 is its own byte. -/
theorem encodeChar_of_lt_80 (h : c.toNat < 0x80) : encodeChar c = [UInt8.ofNat c.toNat] := by
  unfold encodeChar
  exact if_pos h

/-- Only the character itself has its byte in its encoding. -/
theorem mem_encodeChar_iff {b : UInt8} (hb : b.toNat < 0x80) :
    b ∈ encodeChar c ↔ c = Char.ofNat b.toNat := by
  constructor
  · intro h
    have hc : c.toNat < 0x80 := by
      refine Decidable.byContradiction fun hge => ?_
      -- every byte of a longer sequence is at least 0x80
      unfold encodeChar at h
      simp only [if_neg hge] at h
      have hbounds := toNat_bounds c
      have hsize : ∀ n, n < 256 → b = UInt8.ofNat n → b.toNat = n := by
        rintro n hn rfl
        exact UInt8.toNat_ofNat_of_lt' hn
      split at h
      · simp only [List.mem_cons, List.not_mem_nil, or_false] at h
        rcases h with h | h <;> have := hsize _ (by omega) h <;> omega
      split at h
      · simp only [List.mem_cons, List.not_mem_nil, or_false] at h
        rcases h with h | h | h <;> have := hsize _ (by omega) h <;> omega
      · simp only [List.mem_cons, List.not_mem_nil, or_false] at h
        rcases h with h | h | h | h <;> have := hsize _ (by omega) h <;> omega
    rw [encodeChar_of_lt_80 hc, List.mem_singleton] at h
    subst h
    rw [UInt8.toNat_ofNat_of_lt' (Nat.lt_trans hc (by decide)), Char.ofNat_toNat]
  · rintro rfl
    have hnat := toNat_ofNat_of_lt_80 hb
    rw [encodeChar_of_lt_80 (by omega), hnat, UInt8.ofNat_toNat, List.mem_singleton]

/-- A byte below 0x80 occurs exactly where its character does. -/
theorem mem_encode_iff {b : UInt8} (hb : b.toNat < 0x80) : b ∈ encode t ↔ Char.ofNat b.toNat ∈ t := by
  unfold encode
  rw [List.mem_flatMap]
  constructor
  · rintro ⟨c, hc, hmem⟩
    exact (mem_encodeChar_iff hb).1 hmem ▸ hc
  · intro h
    exact ⟨_, h, (mem_encodeChar_iff hb).2 rfl⟩

theorem encodeChar_ne_nil (c : Char) : encodeChar c ≠ [] := by
  unfold encodeChar
  simp only
  split
  · simp
  split
  · simp
  split <;> simp

theorem encode_ne_nil (h : t ≠ []) : encode t ≠ [] := by
  cases t with
  | nil => exact absurd rfl h
  | cons c t => simp [encode_cons, encodeChar_ne_nil]

/-- **Cutting the bytes at a byte below 0x80 cuts the text at its character.** -/
theorem exists_append_of_encode_eq {b : UInt8} {rest : Bytes} (hb : b.toNat < 0x80)
    (h : encode t = bs ++ b :: rest) :
    ∃ l r, t = l ++ Char.ofNat b.toNat :: r ∧ encode l = bs ∧ encode r = rest := by
  induction t generalizing bs with
  | nil => exact absurd h.symm (by simp)
  | cons c t ih =>
    rw [encode_cons, List.append_eq_append_iff] at h
    -- the byte stands behind the first character or belongs to it
    have hbehind (bs') (hbs : bs = encodeChar c ++ bs') (ht : encode t = bs' ++ b :: rest) :
        ∃ l r, c :: t = l ++ Char.ofNat b.toNat :: r ∧ encode l = bs ∧ encode r = rest := by
      obtain ⟨l, r, rfl, hl, hr⟩ := ih ht
      exact ⟨c :: l, r, rfl, by rw [encode_cons, hl, hbs], hr⟩
    rcases h with ⟨bs', hbs, ht⟩ | ⟨bs', hchar, hrest⟩
    · exact hbehind bs' hbs ht
    · cases bs' with
      | nil => exact hbehind [] (by simpa using hchar.symm) (by simpa using hrest.symm)
      | cons b' bs' =>
        obtain ⟨rfl, hback⟩ := List.cons.inj hrest
        have hc : c = Char.ofNat b.toNat :=
          (mem_encodeChar_iff hb).1 (hchar ▸ List.mem_append_right bs List.mem_cons_self)
        have hone : encodeChar c = [b] := by
          have hnat := toNat_ofNat_of_lt_80 hb
          rw [hc, encodeChar_of_lt_80 (by omega), hnat, UInt8.ofNat_toNat]
        rw [hone] at hchar
        obtain ⟨rfl, rfl⟩ : bs = [] ∧ bs' = [] := by
          cases bs with
          | nil => exact ⟨rfl, (List.cons.inj hchar).2.symm⟩
          | cons a bs => exact absurd (List.cons.inj hchar).2 (by simp)
        exact ⟨[], t, by rw [hc]; rfl, rfl, hback.symm⟩

/-- The encoding of a beginning of a text can only be read as this beginning. -/
theorem exists_append_of_encode_eq_append {rest : Bytes} (h : encode t = encode s ++ rest) :
    ∃ r, t = s ++ r ∧ encode r = rest := by
  induction s generalizing t with
  | nil => exact ⟨t, rfl, h⟩
  | cons c s ih =>
    rw [encode_cons, List.append_assoc] at h
    cases t with
    | nil => exact absurd (List.append_eq_nil_iff.1 h.symm).1 (encodeChar_ne_nil c)
    | cons d t =>
      -- a reader comes to the same character in both
      have hscan := congrArg (scan none) h
      rw [encode_cons, scan_encodeChar, scan_encodeChar] at hscan
      obtain rfl : d = c := Option.some.inj (List.cons.inj hscan).1
      obtain ⟨r, rfl, hr⟩ := ih (List.append_cancel_left h)
      exact ⟨r, rfl, hr⟩

/-- **A text that begins below U+0080 stands in a text just where its bytes stand in the bytes.** -/
theorem encode_infix_iff (hc : c.toNat < 0x80) : encode (c :: s) <:+: encode t ↔ c :: s <:+: t := by
  constructor
  · rintro ⟨bs, rest, h⟩
    have hb : (UInt8.ofNat c.toNat).toNat = c.toNat :=
      UInt8.toNat_ofNat_of_lt' (Nat.lt_trans hc (by decide))
    rw [encode_cons, encodeChar_of_lt_80 hc, List.append_assoc, List.append_assoc,
      List.singleton_append] at h
    obtain ⟨l, r, rfl, -, hr⟩ := exists_append_of_encode_eq (by omega) h.symm
    obtain ⟨r', rfl, -⟩ := exists_append_of_encode_eq_append hr
    rw [hb, Char.ofNat_toNat]
    exact ⟨l, r', by simp⟩
  · rintro ⟨l, r, rfl⟩
    rw [encode_append, encode_append]
    exact List.infix_append _ _ _

/-- A byte below 0x80 that ends an encoded text is the last character of this text. -/
theorem getLast?_of_getLast?_encode {b : UInt8} (hb : b.toNat < 0x80)
    (h : (encode t).getLast? = some b) : t.getLast? = some (Char.ofNat b.toNat) := by
  rcases List.eq_nil_or_concat t with rfl | ⟨s, c, rfl⟩
  · cases h
  · have hc : encode [c] = encodeChar c := List.append_nil _
    rw [List.concat_eq_append, encode_append, hc, List.getLast?_append] at h
    cases hlast : (encodeChar c).getLast? with
    | none => exact absurd (List.getLast?_eq_none_iff.1 hlast) (encodeChar_ne_nil c)
    | some b' =>
      rw [hlast, Option.some_or] at h
      cases h
      rw [List.concat_eq_append, List.getLast?_concat,
        (mem_encodeChar_iff hb).1 (List.mem_of_getLast? hlast)]

/-- **The lines of the bytes are the bytes of the lines.** -/
theorem split_encode (t : Text) :
    Lines.split 0x0A (encode t) = (Lines.split '\n' t).map encode := by
  induction t with
  | nil => rfl
  | cons c t ih =>
    rw [encode_cons, Lines.split]
    split
    · next hc =>
      rw [hc, encodeChar_of_lt_80 (by decide)]
      change Lines.split 0x0A (0x0A :: encode t) = _
      rw [Lines.split, if_pos rfl, ih]
      rfl
    · next hc =>
      -- no byte of another character cuts, so all of them go before the first piece
      have hmem : (0x0A : UInt8) ∉ encodeChar c := fun h =>
        hc ((mem_encodeChar_iff (by decide)).1 h)
      rw [Lines.split_append_of_not_mem hmem (encodeChar_ne_nil c), ih]
      cases Lines.split '\n' t <;> simp [encode_cons]

/-! ### What can be read -/

theorem scan_some_ne_nil (s : Begun) (bs : Bytes) : scan (some s) bs ≠ [] := by
  induction bs generalizing s with
  | nil => simp [scan]
  | cons b bs ih =>
    rw [scan]
    split
    · split
      · simp
      · exact ih _
    · simp

theorem eq_nil_of_scan_eq_nil (h : scan none bs = []) : bs = [] := by
  cases bs with
  | nil => rfl
  | cons b bs =>
    rw [scan, scan.start] at h
    split at h
    · cases h
    · exact absurd h (scan_some_ne_nil _ _)
    · cases h

/-- A sequence that comes to a character goes on with a byte inside its bounds, and ends there or is
owed one byte less. -/
theorem scan_some_eq_cons {s : Begun} {l : List (Option Char)}
    (h : scan (some s) bs = some c :: l) :
    ∃ b bs', bs = b :: bs' ∧ s.low ≤ b.toNat ∧ b.toNat ≤ s.high ∧
      (if s.owed ≤ 1 then c = Char.ofNat (s.bits * 64 + (b.toNat - 0x80)) ∧ scan none bs' = l
        else scan (some ⟨s.owed - 1, 0x80, 0xBF, s.bits * 64 + (b.toNat - 0x80)⟩) bs'
          = some c :: l) := by
  cases bs with
  | nil => simp [scan] at h
  | cons b bs =>
    rw [scan] at h
    split at h
    · next hb =>
      refine ⟨b, bs, rfl, hb.1, hb.2, ?_⟩
      split at h
      · next howed =>
        rw [if_pos howed]
        obtain ⟨hc, hl⟩ := List.cons.inj h
        exact ⟨(Option.some.inj hc).symm, hl⟩
      · next howed => rwa [if_neg howed]
    · cases h

/-- A byte of a sequence, by its number. -/
theorem ofNat_eq_of_toNat {n : Nat} {b : UInt8} (h : n = b.toNat) : UInt8.ofNat n = b := by
  rw [h, UInt8.ofNat_toNat]

/-- The encoding of a character of two bytes. -/
theorem encodeChar_two {a b : UInt8} (ha : 0xC2 ≤ a.toNat) (ha' : a.toNat < 0xE0)
    (hb : 0x80 ≤ b.toNat) (hb' : b.toNat ≤ 0xBF) :
    encodeChar (Char.ofNat ((a.toNat - 0xC0) * 64 + (b.toNat - 0x80))) = [a, b] := by
  unfold encodeChar
  rw [toNat_ofNat (by omega)]
  simp only
  rw [if_neg (by omega), if_pos (by omega), ofNat_eq_of_toNat (b := a) (by omega),
    ofNat_eq_of_toNat (b := b) (by omega)]

/-- The encoding of a character of three bytes. -/
theorem encodeChar_three {a b c : UInt8} (ha : 0xE0 ≤ a.toNat) (ha' : a.toNat < 0xF0)
    (hb : (if a.toNat = 0xE0 then 0xA0 else 0x80) ≤ b.toNat)
    (hb' : b.toNat ≤ if a.toNat = 0xED then 0x9F else 0xBF)
    (hc : 0x80 ≤ c.toNat) (hc' : c.toNat ≤ 0xBF) :
    encodeChar (Char.ofNat
      (((a.toNat - 0xE0) * 64 + (b.toNat - 0x80)) * 64 + (c.toNat - 0x80))) = [a, b, c] := by
  have hlow : 0x80 ≤ b.toNat ∧ (a.toNat = 0xE0 → 0xA0 ≤ b.toNat) := by split at hb <;> omega
  have hhigh : b.toNat ≤ 0xBF ∧ (a.toNat = 0xED → b.toNat ≤ 0x9F) := by split at hb' <;> omega
  clear hb hb'
  unfold encodeChar
  rw [toNat_ofNat (by omega)]
  simp only
  rw [if_neg (by omega), if_neg (by omega), if_pos (by omega), ofNat_eq_of_toNat (b := a) (by omega),
    ofNat_eq_of_toNat (b := b) (by omega), ofNat_eq_of_toNat (b := c) (by omega)]

/-- The encoding of a character of four bytes. -/
theorem encodeChar_four {a b c d : UInt8} (ha : 0xF0 ≤ a.toNat) (ha' : a.toNat < 0xF5)
    (hb : (if a.toNat = 0xF0 then 0x90 else 0x80) ≤ b.toNat)
    (hb' : b.toNat ≤ if a.toNat = 0xF4 then 0x8F else 0xBF)
    (hc : 0x80 ≤ c.toNat) (hc' : c.toNat ≤ 0xBF) (hd : 0x80 ≤ d.toNat) (hd' : d.toNat ≤ 0xBF) :
    encodeChar (Char.ofNat ((((a.toNat - 0xF0) * 64 + (b.toNat - 0x80)) * 64 + (c.toNat - 0x80)) * 64
      + (d.toNat - 0x80))) = [a, b, c, d] := by
  have hlow : 0x80 ≤ b.toNat ∧ (a.toNat = 0xF0 → 0x90 ≤ b.toNat) := by split at hb <;> omega
  have hhigh : b.toNat ≤ 0xBF ∧ (a.toNat = 0xF4 → b.toNat ≤ 0x8F) := by split at hb' <;> omega
  clear hb hb'
  unfold encodeChar
  rw [toNat_ofNat (by omega)]
  simp only
  rw [if_neg (by omega), if_neg (by omega), if_neg (by omega), ofNat_eq_of_toNat (b := a) (by omega),
    ofNat_eq_of_toNat (b := b) (by omega), ofNat_eq_of_toNat (b := c) (by omega),
    ofNat_eq_of_toNat (b := d) (by omega)]

/-- **A character that is read was written just so.** The bounds on the second byte shut out every
longer form, the surrogates and what is above U+10FFFF. -/
theorem eq_encodeChar_of_scan {l : List (Option Char)} (h : scan none bs = some c :: l) :
    ∃ rest, bs = encodeChar c ++ rest ∧ scan none rest = l := by
  cases bs with
  | nil => simp [scan] at h
  | cons a bs =>
    rw [scan, scan.start] at h
    by_cases h80 : a.toNat < 0x80
    · -- a byte that is a character
      rw [lead_of_lt_80 h80] at h
      obtain ⟨hc, hl⟩ := List.cons.inj h
      rw [← Option.some.inj hc, encodeChar_of_lt_80 (by rw [toNat_ofNat_of_lt_80 h80]; exact h80),
        toNat_ofNat_of_lt_80 h80, UInt8.ofNat_toNat]
      exact ⟨bs, rfl, hl⟩
    by_cases hC2 : a.toNat < 0xC2
    · rw [lead, if_neg h80, if_pos hC2] at h
      cases h
    by_cases hE0 : a.toNat < 0xE0
    · -- two bytes
      rw [lead_of_lt_E0 (by omega) hE0] at h
      obtain ⟨b, rest, rfl, hb, hb', hc, hl⟩ := scan_some_eq_cons h
      rw [hc, encodeChar_two (by omega) hE0 hb hb']
      exact ⟨rest, rfl, hl⟩
    by_cases hF0 : a.toNat < 0xF0
    · -- three bytes
      rw [lead_of_lt_F0 (by omega) hF0] at h
      obtain ⟨b, bs, rfl, hb, hb', h⟩ := scan_some_eq_cons h
      obtain ⟨b', rest, rfl, hc, hc', hchar, hl⟩ := scan_some_eq_cons h
      rw [hchar, encodeChar_three (by omega) hF0 hb hb' hc hc']
      exact ⟨rest, rfl, hl⟩
    by_cases hF5 : a.toNat < 0xF5
    · -- four bytes
      rw [lead_of_lt_F5 (by omega) hF5] at h
      obtain ⟨b, bs, rfl, hb, hb', h⟩ := scan_some_eq_cons h
      obtain ⟨b', bs, rfl, hc, hc', h⟩ := scan_some_eq_cons h
      obtain ⟨b'', rest, rfl, hd, hd', hchar, hl⟩ := scan_some_eq_cons h
      rw [hchar, encodeChar_four (by omega) hF5 hb hb' hc hc' hd hd']
      exact ⟨rest, rfl, hl⟩
    · rw [lead, if_neg h80, if_neg hC2, if_neg hE0, if_neg hF0, if_neg hF5] at h
      cases h

theorem eq_encode_of_scan (h : scan none bs = t.map some) : bs = encode t := by
  induction t generalizing bs with
  | nil => exact eq_nil_of_scan_eq_nil h
  | cons c t ih =>
    obtain ⟨rest, rfl, hrest⟩ := eq_encodeChar_of_scan h
    rw [ih hrest, encode_cons]

theorem mapM_id_eq_some {l : List (Option Char)} (h : l.mapM id = some t) : l = t.map some := by
  induction l generalizing t with
  | nil =>
    cases h
    rfl
  | cons o l ih =>
    rw [List.mapM_cons] at h
    obtain ⟨c, ho, hrest⟩ := Option.bind_eq_some_iff.1 h
    obtain ⟨t', ht', heq⟩ := Option.bind_eq_some_iff.1 hrest
    obtain rfl : o = some c := ho
    cases heq
    rw [ih ht', List.map_cons]

/-- **The bytes that can be read are just those that are written.** -/
theorem decode?_eq_some_iff : decode? bs = some t ↔ bs = encode t := by
  constructor
  · intro h
    exact eq_encode_of_scan (mapM_id_eq_some h)
  · rintro rfl
    exact decode?_encode t

/-! ### Order -/

theorem cons_ofNat_lt {m n : Nat} (h : m < n) (hn : n < 256) {l r : Bytes} :
    UInt8.ofNat m :: l < UInt8.ofNat n :: r := by
  have hm' : (UInt8.ofNat m).toNat = m := UInt8.toNat_ofNat_of_lt' (Nat.lt_trans h hn)
  have hn' : (UInt8.ofNat n).toNat = n := UInt8.toNat_ofNat_of_lt' hn
  rw [List.cons_lt_cons_iff, UInt8.lt_iff_toNat_lt, hm', hn']
  exact .inl h

/-- Where the first bytes are the same, the others decide. -/
theorem cons_ofNat_lt_of_eq {m n : Nat} (h : m = n) {l r : Bytes} (hrest : l < r) :
    UInt8.ofNat m :: l < UInt8.ofNat n :: r := by
  rw [List.cons_lt_cons_iff]
  exact .inr ⟨by rw [h], hrest⟩

/-- The last two bytes of a sequence hold twelve bits. -/
theorem twoBytes_lt {m n : Nat} (h : m % 4096 < n % 4096) {l r : Bytes} :
    UInt8.ofNat (0x80 + m / 64 % 64) :: UInt8.ofNat (0x80 + m % 64) :: l
      < UInt8.ofNat (0x80 + n / 64 % 64) :: UInt8.ofNat (0x80 + n % 64) :: r := by
  by_cases hfirst : m / 64 % 64 < n / 64 % 64
  · exact cons_ofNat_lt (by omega) (by omega)
  · exact cons_ofNat_lt_of_eq (by omega) (cons_ofNat_lt (by omega) (by omega))

/-- **A smaller character has the smaller encoding**, whatever follows. A character of fewer bytes
has a smaller first byte. Among those of as many bytes the first byte that differs decides, since
each holds six bits of the code point in their order. -/
theorem encodeChar_append_lt {d : Char} (h : c.toNat < d.toNat) (l r : Bytes) :
    encodeChar c ++ l < encodeChar d ++ r := by
  have hd := toNat_bounds d
  unfold encodeChar
  generalize c.toNat = m at h
  generalize d.toNat = n at h hd
  simp only
  split
  · -- one byte, in front of one to four
    split
    · exact cons_ofNat_lt h (by omega)
    split
    · exact cons_ofNat_lt (by omega) (by omega)
    split
    · exact cons_ofNat_lt (by omega) (by omega)
    · exact cons_ofNat_lt (by omega) (by omega)
  rw [if_neg (by omega : ¬ n < 0x80)]
  split
  · -- two bytes, in front of two to four
    split
    · by_cases hfirst : m / 64 < n / 64
      · exact cons_ofNat_lt (by omega) (by omega)
      · exact cons_ofNat_lt_of_eq (by omega) (cons_ofNat_lt (by omega) (by omega))
    split
    · exact cons_ofNat_lt (by omega) (by omega)
    · exact cons_ofNat_lt (by omega) (by omega)
  rw [if_neg (by omega : ¬ n < 0x800)]
  split
  · -- three bytes, in front of three or four
    split
    · by_cases hfirst : m / 4096 < n / 4096
      · exact cons_ofNat_lt (by omega) (by omega)
      · exact cons_ofNat_lt_of_eq (by omega) (twoBytes_lt (by omega))
    · exact cons_ofNat_lt (by omega) (by omega)
  rw [if_neg (by omega : ¬ n < 0x10000)]
  -- four bytes, in front of four
  by_cases hfirst : m / 262144 < n / 262144
  · exact cons_ofNat_lt (by omega) (by omega)
  refine cons_ofNat_lt_of_eq (by omega) ?_
  by_cases hsecond : m / 4096 % 64 < n / 4096 % 64
  · exact cons_ofNat_lt (by omega) (by omega)
  · exact cons_ofNat_lt_of_eq (by omega) (twoBytes_lt (by omega))

/-- **The order of texts is the order of their bytes.** -/
theorem encode_lt_of_precedes (h : Text.precedes s t = true) : encode s < encode t := by
  induction s generalizing t with
  | nil =>
    cases t with
    | nil => cases h
    | cons c t =>
      rw [encode_nil]
      cases hbytes : encode (c :: t) with
      | nil => exact absurd hbytes (encode_ne_nil (List.cons_ne_nil c t))
      | cons b bs => exact List.nil_lt_cons b bs
  | cons a s ih =>
    cases t with
    | nil => cases h
    | cons c t =>
      rw [encode_cons, encode_cons]
      simp only [Text.precedes, Bool.or_eq_true, Bool.and_eq_true, decide_eq_true_eq,
        beq_iff_eq] at h
      rcases h with hlt | ⟨rfl, hrest⟩
      · exact encodeChar_append_lt hlt _ _
      · exact List.append_left_lt (ih hrest)

end ReflectCalc.Utf8
