import ReflectCalc.Proofs.Json.Number

/-!
# A written document reads back

The reader undoes the compact text of a document. It is followed part by part, each with any text
behind it, so that the parts can be put together:

* `readQuoted_escape` — what one character is written as is read as that character, from which a
  quoted text is read up to its closing mark;
* `readValue_toText` — a document is read up to its end, by induction on the document together with
  the items of lists and the members of objects;
* `readWith?_toText` — the text of a whole document is read as `reread` says.

A document comes back as it was but for two things that the text does not tell: a double is what the
reader takes its digits for, and null if it is not finite, and an object has its keys in order, each
once. `Readable` are the documents that stay within the bounds of the reader.
-/

namespace ReflectCalc.Json

variable {c : Char} {s t rest : Text}

/-! ### Quoted texts -/

/-- A character that stands for itself. -/
theorem readQuoted_plain (hquote : c ≠ '"') (hbackslash : c ≠ '\\') (hcontrol : 0x20 ≤ c.toNat)
    (t : Text) : readQuoted none (c :: t) = (readQuoted none t).map (pushChar c) := by
  rw [readQuoted, if_neg (Nat.not_lt.2 hcontrol)]
  · intro _ _ _ _ _ h
    exact absurd h hbackslash
  · exact hquote
  · intro _ _ h
    exact absurd h hbackslash

/-- A backslash with a letter that is not the one for a number. -/
theorem readQuoted_letter {letter : Char} (hletter : letter ≠ 'u') (h : unescape? letter = some c)
    (t : Text) :
    readQuoted none ('\\' :: letter :: t) = (readQuoted none t).map (pushChar c) := by
  rw [readQuoted, h]
  · rfl
  · intro _ _ _ _ _ hu
    exact absurd hu hletter

/-- The letter of a short escape stands for its character. -/
theorem unescape?_of_mem_shortEscapes : ∀ e ∈ shortEscapes,
    e.2 ≠ 'u' ∧ unescape? e.2 = some e.1 := by
  decide

/-- Four digits stand for a control character. -/
theorem hexUnit?_control : ∀ n < 0x20,
    hexUnit? '0' '0' (Nat.digitChar (n / 16)) (Nat.digitChar (n % 16)) = some n := by
  decide

/-- A control character by its number. -/
theorem readQuoted_control (h : c.toNat < 0x20) (t : Text) :
    readQuoted none ('\\' :: 'u' :: '0' :: '0' :: Nat.digitChar (c.toNat / 16) ::
      Nat.digitChar (c.toNat % 16) :: t) = (readQuoted none t).map (pushChar c) := by
  have hhigh : (decide (0xD800 ≤ c.toNat) && decide (c.toNat ≤ 0xDBFF)) = false := by
    simp only [Bool.and_eq_false_iff, decide_eq_false_iff_not]
    omega
  have hlow : (decide (0xDC00 ≤ c.toNat) && decide (c.toNat ≤ 0xDFFF)) = false := by
    simp only [Bool.and_eq_false_iff, decide_eq_false_iff_not]
    omega
  rw [readQuoted, hexUnit?_control _ h]
  simp only [Option.bind_eq_bind, Option.bind_some, hhigh, hlow, Bool.false_eq_true, if_false,
    Char.ofNat_toNat]

/-- What a character is written as is read as that character. -/
theorem readQuoted_escape (c : Char) (t : Text) :
    readQuoted none (escape c ++ t) = (readQuoted none t).map (pushChar c) := by
  unfold escape
  split
  · next h =>
    -- the quote mark and the backslash are their own letters
    rcases h with rfl | rfl
    · exact readQuoted_letter (by decide) rfl t
    · exact readQuoted_letter (by decide) rfl t
  · next h =>
    obtain ⟨hquote, hbackslash⟩ := not_or.1 h
    split
    · next hn => exact readQuoted_plain hquote hbackslash hn t
    · next hn =>
      split
      · next letter hl =>
        obtain ⟨front, back, hsplit, -⟩ := List.lookup_eq_some_iff.1 hl
        have hmem : (c, letter) ∈ shortEscapes := hsplit ▸ List.mem_append_cons_self
        obtain ⟨hu, hc⟩ := unescape?_of_mem_shortEscapes _ hmem
        exact readQuoted_letter hu hc t
      · exact readQuoted_control (Nat.not_le.1 hn) t

/-- A quoted text is read up to its closing mark. -/
theorem readQuoted_flatMap_escape (s t : Text) :
    readQuoted none (s.flatMap escape ++ '"' :: t) = some (s, t) := by
  induction s with
  | nil => rw [List.flatMap_nil, List.nil_append, readQuoted]
  | cons c s ih =>
    rw [List.flatMap_cons, List.append_assoc, readQuoted_escape, ih]
    rfl

/-! ### What a document is read as -/

variable (real : NumberParts → Option Double)

mutual

/-- The document that is read where this one was written. A double comes back through its text, and
an object with its keys in order. -/
def reread : Json → Option Json
  | null => some null
  | bool b => some (bool b)
  | int n => some (int n)
  | double d =>
    if d.isFinite then (NumberParts.read? d.toJson).bind fun (p, _) => p.toJson? real else some null
  | text t => some (text t)
  | list items => (rereadItems items).map list
  | object members => (rereadMembers members).map objectOf

/-- The items that are read where these were written. -/
def rereadItems : List Json → Option (List Json)
  | [] => some []
  | item :: items =>
    (reread item).bind fun item => (rereadItems items).map fun items => item :: items

/-- The members that are read where these were written. -/
def rereadMembers : List (Text × Json) → Option (List (Text × Json))
  | [] => some []
  | (key, value) :: members =>
    (reread value).bind fun value => (rereadMembers members).map fun members =>
      (key, value) :: members

end

theorem rereadItems_cons (item : Json) (items : List Json) :
    rereadItems real (item :: items) = (reread real item).bind fun item =>
      (rereadItems real items).map fun items => item :: items := rfl

theorem rereadMembers_cons (key : Text) (value : Json) (members : List (Text × Json)) :
    rereadMembers real ((key, value) :: members) = (reread real value).bind fun value =>
      (rereadMembers real members).map fun members => (key, value) :: members := rfl

mutual

/-- What the reader has bounds for: integers of 64 bits, and lists and objects that nest no deeper
than this. -/
def Readable : (depth : Nat) → Json → Prop
  | _, int n => -(twoTo 63 : Int) ≤ n ∧ n < twoTo 64
  | depth + 1, list items => ReadableItems depth items
  | 0, list _ => False
  | depth + 1, object members => ReadableMembers depth members
  | 0, object _ => False
  | _, _ => True

/-- Whether all items are readable. -/
def ReadableItems (depth : Nat) : List Json → Prop
  | [] => True
  | item :: items => Readable depth item ∧ ReadableItems depth items

/-- Whether all values are readable. -/
def ReadableMembers (depth : Nat) : List (Text × Json) → Prop
  | [] => True
  | (_, value) :: members => Readable depth value ∧ ReadableMembers depth members

end

/-! ### Where a document begins -/

/-- The text begins with what is neither blank nor a closing bracket. -/
def Opens (t : Text) : Prop :=
  ∃ c s, t = c :: s ∧ (c ≠ ' ' ∧ c ≠ '\n' ∧ c ≠ '\t' ∧ c ≠ '\r') ∧ c ≠ ']' ∧ c ≠ '\x7d'

theorem Opens.append (h : Opens t) (rest : Text) : Opens (t ++ rest) := by
  obtain ⟨c, s, rfl, hc⟩ := h
  exact ⟨c, s ++ rest, rfl, hc⟩

theorem Opens.skipBlank_eq (h : Opens t) : skipBlank t = t := by
  obtain ⟨c, s, rfl, hblank, -⟩ := h
  exact List.dropWhile_cons_of_neg (by simp [hblank])

theorem opens_of_read? {r : NumberParts × Text} (h : NumberParts.read? t = some r) : Opens t := by
  obtain ⟨c, s, rfl, hc⟩ := NumberParts.exists_cons_of_read? h
  refine ⟨c, s, rfl, ?_⟩
  rcases hc with rfl | hc
  · decide
  · -- none of the characters is a digit
    refine ⟨⟨?_, ?_, ?_, ?_⟩, ?_, ?_⟩ <;>
    · rintro rfl
      cases hc

/-- Every document begins so. -/
theorem opens_toText (j : Json) : Opens (toText j) := by
  cases j with
  | null => exact ⟨'n', _, rfl, by decide⟩
  | bool b =>
    cases b with
    | false => exact ⟨'f', _, rfl, by decide⟩
    | true => exact ⟨'t', _, rfl, by decide⟩
  | int n => exact opens_of_read? (NumberParts.reads_ofInt n).alone
  | double d =>
    by_cases hd : d.isFinite = true
    · obtain ⟨p, hp, -⟩ := NumberParts.exists_reads_toJson hd
      exact opens_of_read? hp.alone
    · have hnull : toText (double d) = ("null" : Text) := if_neg hd
      rw [hnull]
      exact ⟨'n', _, rfl, by decide⟩
  | text t => exact ⟨'"', _, rfl, by decide⟩
  | list items => exact ⟨'[', _, rfl, by decide⟩
  | object members => exact ⟨'\x7b', _, rfl, by decide⟩

theorem opens_itemsText (item : Json) (items : List Json) : Opens (itemsText (item :: items)) := by
  cases items with
  | nil => exact opens_toText item
  | cons next items => exact (opens_toText item).append _

theorem opens_membersText (member : Text × Json) (members : List (Text × Json)) :
    Opens (membersText (member :: members)) := by
  cases members with
  | nil => exact ⟨'"', _, rfl, by decide⟩
  | cons next members => exact ⟨'"', _, rfl, by decide⟩

/-! ### Steps of the reader -/

variable {real} {fuel depth : Nat} {key : Text} {v : Option Json}

theorem readValue_number {p : NumberParts} (h : NumberParts.read? t = some (p, rest)) :
    readValue real (fuel + 1) depth t = (p.toJson? real).map (·, rest) := by
  have hblank := (opens_of_read? h).skipBlank_eq
  obtain ⟨c, s, rfl, hc⟩ := NumberParts.exists_cons_of_read? h
  have hother {x : Char} (hx : (x = '-' ∨ Decimal.isDigit x = true) → False) : c ≠ x :=
    fun heq => hx (heq ▸ hc)
  unfold readValue
  rw [hblank]
  -- neither a minus sign nor a digit begins any of the other forms
  split
  · next heq => exact absurd (List.cons.inj heq).1 (hother (by decide))
  · next heq => exact absurd (List.cons.inj heq).1 (hother (by decide))
  · next heq => exact absurd (List.cons.inj heq).1 (hother (by decide))
  · next heq => exact absurd (List.cons.inj heq).1 (hother (by decide))
  · next heq => exact absurd (List.cons.inj heq).1 (hother (by decide))
  · next heq => exact absurd (List.cons.inj heq).1 (hother (by decide))
  · simp only [h, Option.bind_eq_bind, Option.bind_some]
    cases p.toJson? real <;> rfl

theorem readValue_text (s t : Text) :
    readValue real (fuel + 1) depth (quote s ++ t) = some (text s, t) := by
  have hquoted := readQuoted_flatMap_escape s t
  have hquote : quote s ++ t = '"' :: (s.flatMap escape ++ '"' :: t) := by simp [quote]
  rw [hquote]
  change (readQuoted none _).map _ = _
  rw [hquoted]
  rfl

theorem readValue_list (h : Opens t) :
    readValue real (fuel + 1) (depth + 1) ('[' :: t) =
      (readItems real fuel depth t).map fun (items, rest) => (list items, rest) := by
  rw [readValue.eq_6 real ('[' :: t) fuel t depth rfl, h.skipBlank_eq]
  obtain ⟨c, s, rfl, -, hclose, -⟩ := h
  split
  · next heq => exact absurd (List.cons.inj heq).1 hclose
  · rfl

theorem readValue_object (h : Opens t) :
    readValue real (fuel + 1) (depth + 1) ('\x7b' :: t) =
      (readMembers real fuel depth t).map fun (members, rest) => (objectOf members, rest) := by
  rw [readValue.eq_7 real ('\x7b' :: t) fuel t depth rfl, h.skipBlank_eq]
  obtain ⟨c, s, rfl, -, -, hclose⟩ := h
  split
  · next heq => exact absurd (List.cons.inj heq).1 hclose
  · rfl

/-- The last item of a list. -/
theorem readItems_last
    (h : readValue real fuel depth (t ++ ']' :: rest) = v.map (·, ']' :: rest)) :
    readItems real (fuel + 1) depth (t ++ ']' :: rest) = v.map fun item => ([item], rest) := by
  rw [readItems, h]
  cases v <;> rfl

/-- An item of a list with another one after it. -/
theorem readItems_comma (h : readValue real fuel depth (t ++ ',' :: s) = v.map (·, ',' :: s)) :
    readItems real (fuel + 1) depth (t ++ ',' :: s) = v.bind fun item =>
      (readItems real fuel depth s).map fun (items, rest) => (item :: items, rest) := by
  rw [readItems, h]
  cases v <;> rfl

/-- The key of a member is read up to the colon. -/
theorem readMembers_key (key t : Text) :
    readMembers real (fuel + 1) depth (quote key ++ ':' :: t) =
      (readValue real fuel depth t).bind fun (value, rest) =>
        match skipBlank rest with
        | ',' :: rest => (readMembers real fuel depth rest).map fun (members, rest) =>
          ((key, value) :: members, rest)
        | '\x7d' :: rest => some ([(key, value)], rest)
        | _ => none := by
  have hquoted := readQuoted_flatMap_escape key (':' :: t)
  have hquote : quote key ++ ':' :: t = '"' :: (key.flatMap escape ++ '"' :: ':' :: t) := by
    simp [quote]
  rw [hquote]
  change (readQuoted none _).bind _ = _
  rw [hquoted]
  rfl

/-- The last member of an object. -/
theorem readMembers_last
    (h : readValue real fuel depth (t ++ '\x7d' :: rest) = v.map (·, '\x7d' :: rest)) :
    readMembers real (fuel + 1) depth (quote key ++ ':' :: (t ++ '\x7d' :: rest)) =
      v.map fun value => ([(key, value)], rest) := by
  rw [readMembers_key, h]
  cases v <;> rfl

/-- A member of an object with another one after it. -/
theorem readMembers_comma (h : readValue real fuel depth (t ++ ',' :: s) = v.map (·, ',' :: s)) :
    readMembers real (fuel + 1) depth (quote key ++ ':' :: (t ++ ',' :: s)) =
      v.bind fun value => (readMembers real fuel depth s).map fun (members, rest) =>
        ((key, value) :: members, rest) := by
  rw [readMembers_key, h]
  cases v <;> rfl

/-! ### Reading back -/

theorem numberEnds_comma (t : Text) : NumberEnds (',' :: t) := numberEnds_cons (by decide) t

theorem numberEnds_bracket (t : Text) : NumberEnds (']' :: t) := numberEnds_cons (by decide) t

theorem numberEnds_brace (t : Text) : NumberEnds ('\x7d' :: t) := numberEnds_cons (by decide) t

theorem exists_eq_add_one_of_length_toText_le (j : Json) (h : (toText j).length ≤ fuel) :
    ∃ n, fuel = n + 1 := by
  obtain ⟨c, s, hcs, -⟩ := opens_toText j
  rw [hcs, List.length_cons] at h
  exact ⟨fuel - 1, by omega⟩

mutual

/-- A document that is written is read up to its end, whatever follows that could be no part of a
number. -/
theorem readValue_toText (j : Json) {depth fuel : Nat} {rest : Text} (hj : Readable depth j)
    (hfuel : (toText j).length ≤ fuel) (hrest : NumberEnds rest) :
    readValue real fuel depth (toText j ++ rest) = (reread real j).map (·, rest) := by
  -- every step of the reader is paid for by a character, and a document has at least one
  obtain ⟨fuel, rfl⟩ := exists_eq_add_one_of_length_toText_le j hfuel
  match j with
  | null => rfl
  | bool true => rfl
  | bool false => rfl
  | int n =>
    rw [toText, readValue_number (NumberParts.reads_ofInt n rest hrest),
      NumberParts.toJson?_ofInt hj.1 hj.2]
    rfl
  | double d =>
    by_cases hd : d.isFinite = true
    · -- the same parts are read with `rest` behind the number as without it
      obtain ⟨p, hp, -⟩ := NumberParts.exists_reads_toJson hd
      rw [toText, readValue_number (hp rest hrest), reread, if_pos hd, hp.alone]
      rfl
    · rw [toText, Double.toJson, reread, if_neg hd, if_neg hd]
      rfl
  | text t => exact readValue_text t rest
  | list [] =>
    cases depth with
    | zero => exact hj.elim
    | succ depth => rfl
  | list (item :: items) =>
    cases depth with
    | zero => exact hj.elim
    | succ depth =>
      have htext : toText (list (item :: items)) ++ rest =
          '[' :: (itemsText (item :: items) ++ ']' :: rest) := by simp [toText]
      have hlength : (toText (list (item :: items))).length =
          (itemsText (item :: items)).length + 2 := by simp [toText]
      rw [htext, readValue_list ((opens_itemsText item items).append _),
        readItems_itemsText (item :: items) (List.cons_ne_nil _ _) hj (by omega), reread,
        Option.map_map, Option.map_map]
      rfl
  | object [] =>
    cases depth with
    | zero => exact hj.elim
    | succ depth => rfl
  | object (member :: members) =>
    cases depth with
    | zero => exact hj.elim
    | succ depth =>
      have htext : toText (object (member :: members)) ++ rest =
          '\x7b' :: (membersText (member :: members) ++ '\x7d' :: rest) := by simp [toText]
      have hlength : (toText (object (member :: members))).length =
          (membersText (member :: members)).length + 2 := by simp [toText]
      rw [htext, readValue_object ((opens_membersText member members).append _),
        readMembers_membersText (member :: members) (List.cons_ne_nil _ _) hj (by omega), reread,
        Option.map_map, Option.map_map]
      rfl

/-- The items of a list are read with its closing bracket. -/
theorem readItems_itemsText (items : List Json) {depth fuel : Nat} {rest : Text}
    (hne : items ≠ []) (hitems : ReadableItems depth items)
    (hfuel : (itemsText items).length < fuel) :
    readItems real fuel depth (itemsText items ++ ']' :: rest) =
      (rereadItems real items).map (·, rest) := by
  obtain ⟨fuel, rfl⟩ : ∃ n, fuel = n + 1 := ⟨fuel - 1, by omega⟩
  match items with
  | [] => exact absurd rfl hne
  | [item] =>
    have hitem := readValue_toText item hitems.1 (Nat.le_of_lt_succ hfuel) (numberEnds_bracket rest)
    rw [itemsText, readItems_last hitem, rereadItems_cons]
    cases reread real item <;> rfl
  | item :: next :: items =>
    have hlength : (itemsText (item :: next :: items)).length =
        (toText item).length + (itemsText (next :: items)).length + 1 := by
      simp [itemsText]
      omega
    have hfuel' : (toText item).length ≤ fuel := by omega
    have hitem := readValue_toText item hitems.1 hfuel'
      (numberEnds_comma (itemsText (next :: items) ++ ']' :: rest))
    have hnext : (itemsText (next :: items)).length < fuel := by omega
    rw [itemsText, List.append_assoc, List.cons_append, readItems_comma hitem,
      readItems_itemsText (next :: items) (List.cons_ne_nil _ _) hitems.2 hnext,
      rereadItems_cons real item (next :: items)]
    cases reread real item <;> cases rereadItems real (next :: items) <;> rfl

/-- The members of an object are read with its closing brace. -/
theorem readMembers_membersText (members : List (Text × Json)) {depth fuel : Nat} {rest : Text}
    (hne : members ≠ []) (hmembers : ReadableMembers depth members)
    (hfuel : (membersText members).length < fuel) :
    readMembers real fuel depth (membersText members ++ '\x7d' :: rest) =
      (rereadMembers real members).map (·, rest) := by
  obtain ⟨fuel, rfl⟩ : ∃ n, fuel = n + 1 := ⟨fuel - 1, by omega⟩
  match members with
  | [] => exact absurd rfl hne
  | [(key, value)] =>
    have hlength : (membersText [(key, value)]).length =
        (quote key).length + (toText value).length + 1 := by
      simp [membersText]
      omega
    have hfuel' : (toText value).length ≤ fuel := by omega
    have hvalue := readValue_toText value hmembers.1 hfuel' (numberEnds_brace rest)
    rw [membersText, List.append_assoc, List.cons_append, readMembers_last hvalue,
      rereadMembers_cons]
    cases reread real value <;> rfl
  | (key, value) :: next :: members =>
    have hlength : (membersText ((key, value) :: next :: members)).length = (quote key).length +
        (toText value).length + (membersText (next :: members)).length + 2 := by
      simp [membersText]
      omega
    have hfuel' : (toText value).length ≤ fuel := by omega
    have hvalue := readValue_toText value hmembers.1 hfuel'
      (numberEnds_comma (membersText (next :: members) ++ '\x7d' :: rest))
    have hnext : (membersText (next :: members)).length < fuel := by omega
    rw [membersText]
    simp only [List.append_assoc, List.cons_append]
    rw [readMembers_comma hvalue,
      readMembers_membersText (next :: members) (List.cons_ne_nil _ _) hmembers.2 hnext,
      rereadMembers_cons real key value (next :: members)]
    cases reread real value <;> cases rereadMembers real (next :: members) <;> rfl

end

/-- **A written document reads back.** -/
theorem readWith?_toText {j : Json} (hj : Readable maxDepth j) :
    readWith? real (toText j) = reread real j := by
  have hfuel : (toText j).length ≤ 2 * (toText j).length + 2 := by omega
  have hread : readValue real (2 * (toText j).length + 2) maxDepth (toText j ++ []) = _ :=
    readValue_toText j hj hfuel numberEnds_nil
  rw [List.append_nil] at hread
  unfold readWith?
  rw [hread]
  cases reread real j <;> rfl

end ReflectCalc.Json
