/-!
# Texts

A text is the list of its characters. Every reader of this library walks that list from the front,
and every writer builds it, so both sides of a round trip speak of the same type.

* `Text.splitOnce`, `Text.splitAll` and `Text.join` cut at a character and put pieces together;
* `Text.stripStart?` and `Text.stripEnd?` remove a fixed piece from one end;
* `Text.lowerAscii` and `Text.sameIgnoringCase` fold the ASCII letters only;
* `Text.replaceChar` exchanges one character for another;
* `Text.precedes` is the order in which names are listed.
-/

namespace ReflectCalc

/-- A text: the list of its characters. -/
abbrev Text := List Char

namespace Text

instance : Coe String Text := ⟨String.toList⟩

/-- The two parts around the first occurrence of `c`, which belongs to neither. -/
def splitOnce (c : Char) : Text → Option (Text × Text)
  | [] => none
  | a :: t => if a = c then some ([], t) else (splitOnce c t).map fun (l, r) => (a :: l, r)

/-- The two parts around the last occurrence of `c`, which belongs to neither. -/
def splitLast (c : Char) : Text → Option (Text × Text)
  | [] => none
  | a :: t =>
    match splitLast c t with
    | some (l, r) => some (a :: l, r)
    | none => if a = c then some ([], t) else none

/-- The pieces between the occurrences of `c`: one more than there are occurrences. -/
def splitAll (c : Char) : Text → List Text
  | [] => [[]]
  | a :: t =>
    if a = c then [] :: splitAll c t
    else match splitAll c t with
      | [] => [[a]]
      | piece :: pieces => (a :: piece) :: pieces

/-- The pieces written one after the other with `separator` between neighbours. -/
def join (separator : Text) : List Text → Text
  | [] => []
  | [piece] => piece
  | piece :: pieces => piece ++ separator ++ join separator pieces

/-- What follows `lead` in a text that starts with it. -/
def stripStart? : (lead : Text) → Text → Option Text
  | [], t => some t
  | _ :: _, [] => none
  | a :: lead, b :: t => if a = b then stripStart? lead t else none

/-- What stands before the last character of a text that ends with `c`. -/
def stripEnd? (c : Char) : Text → Option Text
  | [] => none
  | [a] => if a = c then some [] else none
  | a :: b :: t => (stripEnd? c (b :: t)).map (a :: ·)

/-- Whether the text starts with `lead`. -/
def startsWith (t lead : Text) : Bool := (stripStart? lead t).isSome

/-- Lower case for the ASCII letters; every other character stays. -/
def lowerAscii (t : Text) : Text := t.map Char.toLower

/-- Equality up to the case of ASCII letters. -/
def sameIgnoringCase (s t : Text) : Bool := lowerAscii s == lowerAscii t

/-- The text with every `old` replaced by `new`. -/
def replaceChar (old new : Char) (t : Text) : Text := t.map fun c => if c = old then new else c

/-- Removes every `c` from the front. -/
def dropLeading (c : Char) (t : Text) : Text := t.dropWhile (· == c)

/-- Removes every `c` from the back. -/
def dropTrailing (c : Char) (t : Text) : Text := (t.reverse.dropWhile (· == c)).reverse

/-! ### Order -/

/-- Order by code point, which is the order of the UTF-8 encodings as well. -/
def precedes : Text → Text → Bool
  | [], t => !t.isEmpty
  | _ :: _, [] => false
  | a :: s, b :: t => decide (a.toNat < b.toNat) || (a == b && precedes s t)

theorem not_precedes_self (t : Text) : precedes t t = false := by
  induction t with
  | nil => rfl
  | cons a t ih => simp [precedes, ih]

theorem precedes_trans {s t u : Text} (hst : precedes s t) (htu : precedes t u) :
    precedes s u := by
  induction s generalizing t u with
  | nil => cases t <;> cases u <;> simp_all [precedes]
  | cons a s ih =>
    cases t with
    | nil => simp [precedes] at hst
    | cons b t =>
      cases u with
      | nil => simp [precedes] at htu
      | cons c u =>
        simp only [precedes, Bool.or_eq_true, Bool.and_eq_true, decide_eq_true_eq,
          beq_iff_eq] at hst htu ⊢
        rcases hst with hst | ⟨rfl, hst⟩
        · rcases htu with htu | ⟨rfl, _⟩
          · exact .inl (Nat.lt_trans hst htu)
          · exact .inl hst
        · exact htu.imp_right fun h => ⟨h.1, ih hst h.2⟩

theorem precedes_of_not_precedes {s t : Text} (h : precedes t s = false) (hne : s ≠ t) :
    precedes s t := by
  induction s generalizing t with
  | nil => cases t <;> simp_all [precedes]
  | cons a s ih =>
    cases t with
    | nil => simp [precedes] at h
    | cons b t =>
      simp only [precedes, Bool.or_eq_false_iff, Bool.and_eq_false_iff, decide_eq_false_iff_not,
        Nat.not_lt, beq_eq_false_iff_ne] at h
      by_cases hab : a = b
      · subst hab
        have hst : s ≠ t := fun h => hne (h ▸ rfl)
        have hts : precedes t s = false := h.2.resolve_left fun hn => hn rfl
        simp [precedes, ih hts hst]
      · have hn : a.toNat ≠ b.toNat := fun h => hab (Char.toNat_inj.1 h)
        simp [precedes, Nat.lt_of_le_of_ne h.1 hn]

end Text

end ReflectCalc
