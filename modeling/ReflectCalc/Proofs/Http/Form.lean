import ReflectCalc.Http.Form
import ReflectCalc.Proofs.Text.Pieces
import ReflectCalc.Proofs.Text.Utf8

/-!
# Form encoding and reading it again

A form-encoded text is read in three steps, from the inside of the definition: plus signs become
spaces, escapes become bytes, and the bytes become characters. `percentDecode_encodeByte` is the
first two steps for one byte, wherever it stands. From it come

* `decode_encode` — every text reads back from its encoding;
* `pairs_text` — every list of pairs reads back from the query that they are written as.

The second one needs that an encoded text holds neither `&` nor `=`; `isCodeChar` are the characters
that it can hold at all.
-/

namespace ReflectCalc

namespace Percent

/-- A byte other than the percent sign is read as itself. -/
theorem decode_cons_of_ne {b : UInt8} (hb : b ≠ 0x25) (bs : Bytes) :
    decode (b :: bs) = b :: decode bs := by
  -- the patterns of the definition overlap, so its three cases are taken from the whole of it
  rw [decode.eq_def]
  split
  · next h => exact absurd (List.cons.inj h).1 hb
  · next h => obtain ⟨rfl, rfl⟩ := List.cons.inj h; rfl
  · next h => cases h

/-- A digit of an escape is an ASCII character, is no plus sign and has its value. -/
theorem hexDigit_spec : ∀ n < 16, (hexDigit n).toNat < 0x80 ∧ hexDigit n ≠ '+' ∧
    hexValue? (UInt8.ofNat (hexDigit n).toNat) = some n := by
  decide

/-- The two digits of an escape name its byte. -/
theorem escaped?_hexDigit (b : UInt8) :
    escaped? (UInt8.ofNat (hexDigit (b.toNat / 16)).toNat)
      (UInt8.ofNat (hexDigit (b.toNat % 16)).toNat) = some b := by
  have hb : b.toNat < 256 := b.toNat_lt
  have hhigh := (hexDigit_spec (b.toNat / 16) (by omega)).2.2
  have hlow := (hexDigit_spec (b.toNat % 16) (by omega)).2.2
  have hvalue : b.toNat / 16 * 16 + b.toNat % 16 = b.toNat := by omega
  unfold escaped?
  rw [hhigh, hlow]
  change some (UInt8.ofNat (b.toNat / 16 * 16 + b.toNat % 16)) = some b
  rw [hvalue, UInt8.ofNat_toNat]

end Percent

namespace Form

variable {c : Char} {s t : Text}

/-! ### One byte -/

/-- The characters that an encoded text can hold. -/
def isCodeChar (c : Char) : Bool :=
  c.isAlphanum || c = '*' || c = '-' || c = '.' || c = '_' || c = '+' || c = '%'

/-- What holds of every number of a byte holds of every byte. -/
theorem of_byte {p : UInt8 → Prop} (h : ∀ n < 256, p (UInt8.ofNat n)) (b : UInt8) : p b := by
  have hb := h b.toNat b.toNat_lt
  rwa [UInt8.ofNat_toNat] at hb

/-- A byte that stands for itself is an ASCII character, and neither of the two signs that stand for
something else. -/
theorem isPlain_spec (b : UInt8) : isPlain b = true →
    b.toNat < 0x80 ∧ b ≠ 0x25 ∧ Char.ofNat b.toNat ≠ '+' :=
  of_byte (p := fun b => isPlain b = true → b.toNat < 0x80 ∧ b ≠ 0x25 ∧ Char.ofNat b.toNat ≠ '+')
    (by decide +kernel) b

theorem isCodeChar_encodeByte (b : UInt8) : (encodeByte b).all isCodeChar = true :=
  of_byte (p := fun b => (encodeByte b).all isCodeChar = true) (by decide +kernel) b

/-- **One byte is read again.** Plus signs become spaces first, so an escaped plus sign stays. -/
theorem percentDecode_encodeByte (b : UInt8) (bs : Bytes) :
    Percent.decode (Utf8.encode (Text.replaceChar '+' ' ' (encodeByte b)) ++ bs)
      = b :: Percent.decode bs := by
  unfold encodeByte
  split
  · next hplain =>
    -- a byte that stands for itself
    obtain ⟨hascii, hpercent, hplus⟩ := isPlain_spec b hplain
    have hnat := Utf8.toNat_ofNat_of_lt_80 hascii
    have hbytes : Utf8.encode (Text.replaceChar '+' ' ' [Char.ofNat b.toNat]) = [b] := by
      rw [Text.replaceChar, List.map_singleton, if_neg hplus, Utf8.encode_cons,
        Utf8.encodeChar_of_lt_80 (by omega), hnat, UInt8.ofNat_toNat]
      rfl
    rw [hbytes, List.singleton_append, Percent.decode_cons_of_ne hpercent]
  · split
    · next hspace =>
      -- a space, which is written as a plus sign
      subst hspace
      exact Percent.decode_cons_of_ne (by decide) bs
    · -- an escape
      have hb : b.toNat < 256 := b.toNat_lt
      obtain ⟨hascii, hplus, -⟩ := Percent.hexDigit_spec (b.toNat / 16) (by omega)
      obtain ⟨hascii', hplus', -⟩ := Percent.hexDigit_spec (b.toNat % 16) (by omega)
      have hbytes : Utf8.encode (Text.replaceChar '+' ' ' (Percent.escape b))
          = [0x25, UInt8.ofNat (Percent.hexDigit (b.toNat / 16)).toNat,
              UInt8.ofNat (Percent.hexDigit (b.toNat % 16)).toNat] := by
        simp only [Percent.escape, Text.replaceChar, List.map_cons, List.map_nil, if_neg hplus,
          if_neg hplus', Utf8.encode_cons, Utf8.encodeChar_of_lt_80 hascii,
          Utf8.encodeChar_of_lt_80 hascii']
        rfl
      rw [hbytes]
      change Percent.decode (0x25 :: _ :: _ :: bs) = _
      rw [Percent.decode, Percent.escaped?_hexDigit]

/-! ### A text -/

/-- All bytes are read again, one after the other. -/
theorem percentDecode_flatMap (bs : Bytes) :
    Percent.decode (Utf8.encode (Text.replaceChar '+' ' ' (bs.flatMap encodeByte))) = bs := by
  induction bs with
  | nil => rfl
  | cons b bs ih =>
    rw [List.flatMap_cons, Text.replaceChar, List.map_append, Utf8.encode_append]
    exact (percentDecode_encodeByte b _).trans (congrArg (b :: ·) ih)

/-- **Every text reads back from its encoding.** -/
theorem decode_encode (t : Text) : decode (encode t) = t := by
  unfold decode encode
  rw [percentDecode_flatMap, Utf8.decodeLossy_encode]

theorem isCodeChar_of_mem_encode (h : c ∈ encode t) : isCodeChar c = true := by
  unfold encode at h
  obtain ⟨b, -, hc⟩ := List.mem_flatMap.1 h
  exact List.all_eq_true.1 (isCodeChar_encodeByte b) c hc

theorem not_mem_encode (hc : isCodeChar c = false) : c ∉ encode t := by
  intro h
  rw [isCodeChar_of_mem_encode h] at hc
  cases hc

/-! ### A query -/

theorem readPair_pairText (p : Text × Text) : readPair (pairText p) = p := by
  have heq : '=' ∉ encode p.1 := not_mem_encode (by decide)
  unfold readPair pairText
  rw [Text.splitOnce_append heq]
  simp only [decode_encode]

theorem not_mem_pairText (p : Text × Text) : '&' ∉ pairText p := by
  intro h
  rcases List.mem_append.1 h with h | h
  · exact not_mem_encode (by decide) h
  · rcases List.mem_cons.1 h with h | h
    · exact absurd h (by decide)
    · exact not_mem_encode (by decide) h

theorem pairText_ne_nil (p : Text × Text) : pairText p ≠ [] := by
  unfold pairText
  simp

/-- **Every list of pairs reads back from its query.** -/
theorem pairs_text (ps : List (Text × Text)) : pairs (text ps) = ps := by
  unfold pairs text
  induction ps with
  | nil => rfl
  | cons p ps ih =>
    cases ps with
    | nil =>
      -- a single pair is the one piece of its query
      have hsplit : Text.splitAll '&' (pairText p) = [pairText p] :=
        Text.splitAll_of_not_mem (not_mem_pairText p)
      simp [Text.join, hsplit, pairText_ne_nil, readPair_pairText]
    | cons p' ps =>
      -- the first `&` is the one behind the first pair
      have hjoin : Text.join "&" ((p :: p' :: ps).map pairText)
          = pairText p ++ '&' :: Text.join "&" ((p' :: ps).map pairText) := by
        simp [Text.join]
      rw [hjoin, Text.splitAll_append (not_mem_pairText p),
        List.filter_cons_of_pos (by simp [pairText_ne_nil]), List.map_cons, readPair_pairText, ih]

end Form

end ReflectCalc
