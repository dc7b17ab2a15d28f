import ReflectCalc.Engine.Basic
import ReflectCalc.Http.Response
import ReflectCalc.Proofs.Json.Reading

/-!
# What an answer says

Every answer that is sent is a document that reads back, and what is read means what the command
came to.

* `Value.Means` and `Answer.Says` tell which documents mean a value, and what a command comes to.
  The number that a finite double is written as is taken by a given function `real`, since readers
  differ there in the last place;
* `Json.texts` are all texts of a document, its keys included;
* `Catalog.execute_says` is the main result, for any catalog and any text as a command. What is
  written has one member, and no text that is read holds a double quote.

`Json.readWith?_toText` gives the document that is read. What is left is to follow it through the
three forms of answers.
-/

namespace ReflectCalc

open Json (NumberParts Readable ReadableItems ReadableMembers reread rereadItems)

namespace Json

mutual

/-- The texts of a document: its keys, and the texts among its values. -/
def texts : Json → List Text
  | text t => [t]
  | list items => itemsTexts items
  | object members => membersTexts members
  | _ => []

/-- The texts of the items of a list. -/
def itemsTexts : List Json → List Text
  | [] => []
  | item :: items => texts item ++ itemsTexts items

/-- The texts of the members of an object. -/
def membersTexts : List (Text × Json) → List Text
  | [] => []
  | (key, value) :: members => key :: texts value ++ membersTexts members

end

/-! ### Lists of texts -/

variable {real : NumberParts → Option Double}

theorem readableItems_map_text (ts : List Text) (depth : Nat) :
    ReadableItems depth (ts.map text) := by
  induction ts with
  | nil => trivial
  | cons t ts ih => exact ⟨trivial, ih⟩

theorem rereadItems_map_text (ts : List Text) :
    rereadItems real (ts.map text) = some (ts.map text) := by
  induction ts with
  | nil => rfl
  | cons t ts ih =>
    rw [List.map_cons, rereadItems_cons, ih]
    rfl

theorem reread_list_map_text (ts : List Text) :
    reread real (list (ts.map text)) = some (list (ts.map text)) := by
  rw [reread, rereadItems_map_text]
  rfl

theorem itemsTexts_map_text (ts : List Text) : itemsTexts (ts.map text) = ts := by
  induction ts with
  | nil => rfl
  | cons t ts ih =>
    rw [List.map_cons, itemsTexts, ih]
    rfl

end Json

/-- There is no double quote in the text. -/
theorem not_mem_sanitize (t : Text) : '"' ∉ sanitize t := by
  unfold sanitize Text.replaceChar
  intro h
  obtain ⟨c, -, hc⟩ := List.mem_map.1 h
  split at hc
  · cases hc
  · next hne => exact hne hc

/-! ### Values -/

namespace Value

/-- What a document says of a value. The number of a finite double is taken by `real`. -/
inductive Means (real : NumberParts → Double) : Value → Json → Prop where
  | null : Means real null .null
  | bool (b : Bool) : Means real (bool b) (.bool b)
  | int (n : Int32) : Means real (int n) (.int n.toInt)
  | long (n : Int64) : Means real (long n) (.int n.toInt)
  | double {d : Double} {p : NumberParts} (hd : d.isFinite = true) (hp : p.Denotes d) :
    Means real (double d) (.double (real p))
  | notFinite {d : Double} (hd : d.isFinite = false) : Means real (double d) .null
  | text (t : Text) : Means real (text t) (.text (t.replaceChar '"' '\''))

variable {real : NumberParts → Double}

theorem readable_json (v : Value) (depth : Nat) : Readable depth v.json := by
  have h63 : twoTo 63 = 9223372036854775808 := rfl
  have h64 : twoTo 64 = 18446744073709551616 := rfl
  cases v with
  | null => trivial
  | bool b => trivial
  | int n =>
    have hlow := n.le_toInt
    have hhigh := n.toInt_lt
    change -(twoTo 63 : Int) ≤ n.toInt ∧ n.toInt < twoTo 64
    omega
  | long n =>
    have hlow := n.le_toInt
    have hhigh := n.toInt_lt
    change -(twoTo 63 : Int) ≤ n.toInt ∧ n.toInt < twoTo 64
    omega
  | double d =>
    change Readable depth (if d.isFinite then .double d else .null)
    split <;> trivial
  | text t => trivial

/-- A value is read as a document that means it. -/
theorem exists_reread_json (real : NumberParts → Double) (v : Value) :
    ∃ j, reread (fun p => some (real p)) v.sanitized.json = some j ∧ v.Means real j ∧
      ∀ t ∈ j.texts, '"' ∉ t := by
  cases v with
  | null => exact ⟨_, rfl, .null, fun _ h => nomatch h⟩
  | bool b => exact ⟨_, rfl, .bool b, fun _ h => nomatch h⟩
  | int n => exact ⟨_, rfl, .int n, fun _ h => nomatch h⟩
  | long n => exact ⟨_, rfl, .long n, fun _ h => nomatch h⟩
  | double d =>
    -- whether it is finite is asked when the value becomes a document, and again when it is written
    change ∃ j, reread _ (if d.isFinite then .double d else .null) = some j ∧ _
    by_cases hd : d.isFinite = true
    · obtain ⟨p, hread, hp⟩ := NumberParts.exists_reads_toJson hd
      refine ⟨.double (real p), ?_, .double hd hp, fun _ h => nomatch h⟩
      rw [if_pos hd, reread, if_pos hd, hread.alone]
      simp [NumberParts.toJson?, hp.plain]
    · rw [if_neg hd]
      exact ⟨_, rfl, .notFinite (Bool.eq_false_iff.2 hd), fun _ h => nomatch h⟩
  | text t =>
    refine ⟨_, rfl, .text t, ?_⟩
    intro t' ht
    rw [List.mem_singleton.1 ht]
    exact not_mem_sanitize t

end Value

/-! ### Descriptions -/

namespace Description

variable {real : NumberParts → Option Double}

theorem readable_json (d : Description) (depth : Nat) : Readable (depth + 2) d.json :=
  ⟨trivial, Json.readableItems_map_text _ _, Json.readableItems_map_text _ _, trivial⟩

/-- A description is read as it is written: its keys are ascending. -/
theorem reread_json (d : Description) : reread real d.json = some d.json := by
  unfold json
  rw [reread]
  simp only [Json.rereadMembers_cons, Json.reread_list_map_text]
  rfl

theorem texts_json (d : Description) :
    d.json.texts = ("class" : Text) :: d.name :: ("fields" : Text) ::
      (d.fields ++ ("methods" : Text) :: d.methods) := by
  simp [json, Json.texts, Json.membersTexts, Json.itemsTexts_map_text]

/-- The description of a type has single quotes for double quotes throughout. -/
theorem not_mem_texts_ofDecl (d : TypeDecl) : ∀ t ∈ (ofDecl d).json.texts, '"' ∉ t := by
  intro t ht
  rw [texts_json] at ht
  simp only [List.mem_cons, List.mem_append] at ht
  rcases ht with rfl | rfl | rfl | hf | rfl | hm
  · decide
  · exact not_mem_sanitize d.name
  · decide
  · obtain ⟨f, -, rfl⟩ := List.mem_map.1 hf
    exact not_mem_sanitize f.text
  · decide
  · obtain ⟨m, -, rfl⟩ := List.mem_map.1 hm
    exact not_mem_sanitize m.text

theorem json_ofDecl (d : TypeDecl) :
    (ofDecl d).json = .object
      [("class", .text (d.name.replaceChar '"' '\'')),
        ("fields", .list (d.fields.map fun f => .text (f.text.replaceChar '"' '\''))),
        ("methods", .list (d.methods.map fun m => .text (m.text.replaceChar '"' '\'')))] := by
  simp [ofDecl, json, sanitize, Function.comp_def]

end Description

/-! ### Answers -/

namespace Answer

/-- What a document says of what a command comes to. -/
inductive Says (real : NumberParts → Double) : Except EngineError Result → Json → Prop where
  | error (e : EngineError) :
    Says real (.error e) (.object [("error", .text (e.text.replaceChar '"' '\''))])
  | value {v : Value} {j : Json} (h : v.Means real j) :
    Says real (.ok (.value v)) (.object [("value", j)])
  | members (d : TypeDecl) :
    Says real (.ok (.members d)) (.object [("value", .object
      [("class", .text (d.name.replaceChar '"' '\'')),
        ("fields", .list (d.fields.map fun f => .text (f.text.replaceChar '"' '\''))),
        ("methods", .list (d.methods.map fun m => .text (m.text.replaceChar '"' '\'')))])])

/-- An answer is written as an object of one member, so a reader has no members to merge. -/
theorem exists_text_member (a : Answer) :
    ∃ key doc, a.text = Json.toText (.object [(key, doc)]) := by
  cases a with
  | value v => exact ⟨_, _, rfl⟩
  | description d => exact ⟨_, _, rfl⟩
  | error message => exact ⟨_, _, rfl⟩

/-- An object with an error is read as it is written. -/
theorem readWith?_error (real : NumberParts → Option Double) (message : Text) :
    Json.readWith? real (Json.toText (.object [("error", .text message)])) =
      some (.object [("error", .text message)]) :=
  Json.readWith?_toText ⟨trivial, trivial⟩

theorem exists_readWith?_text (real : NumberParts → Double) (o : Except EngineError Result) :
    ∃ j, Json.readWith? (fun p => some (real p)) (ofOutcome o).text = some j ∧ Says real o j ∧
      ∀ t ∈ j.texts, '"' ∉ t := by
  -- an error, the value of a method, the members of a type
  rcases o with e | ⟨v | d⟩
  · refine ⟨_, readWith?_error _ _, .error e, ?_⟩
    simp [Json.texts, Json.membersTexts, not_mem_sanitize]
  · obtain ⟨j, hread, hmeans, htexts⟩ := v.exists_reread_json real
    refine ⟨.object [("value", j)], ?_, .value hmeans, ?_⟩
    · have hreadable : Readable Json.maxDepth (.object [("value", v.sanitized.json)]) :=
        ⟨v.sanitized.readable_json _, trivial⟩
      refine (Json.readWith?_toText hreadable).trans ?_
      rw [reread, Json.rereadMembers_cons, hread]
      rfl
    · simpa [Json.texts, Json.membersTexts] using htexts
  · have hreadable : Readable Json.maxDepth (.object [("value", (Description.ofDecl d).json)]) :=
      ⟨Description.readable_json _ _, trivial⟩
    have hread : reread (fun p => some (real p)) (Description.ofDecl d).json = _ :=
      Description.reread_json _
    have htexts := Description.not_mem_texts_ofDecl d
    refine ⟨.object [("value", (Description.ofDecl d).json)], ?_, ?_, ?_⟩
    · refine (Json.readWith?_toText hreadable).trans ?_
      rw [reread, Json.rereadMembers_cons, hread]
      rfl
    · rw [Description.json_ofDecl]
      exact .members d
    · simpa [Json.texts, Json.membersTexts] using htexts

end Answer

namespace Catalog

/-- **Every answer is a document that means what the run came to**, for any catalog and any text as
a command, and no text in it holds a double quote. It is written as an object of one member. The
bodies of the three error responses have the form of a failed run. -/
theorem execute_says (real : NumberParts → Double) (c : Catalog) (raw : Text) :
    (∃ j, Json.readWith? (fun p => some (real p)) (c.execute raw) = some j ∧
      Answer.Says real (c.run raw) j ∧ ∀ t ∈ j.texts, '"' ∉ t) ∧
    (∃ key doc, c.execute raw = Json.toText (.object [(key, doc)])) ∧
    ∀ message, ∀ r ∈ [Response.badRequest message, Response.notFound message,
      Response.serverError message],
        r.body = Json.toText (.object [("error", .text (message.replaceChar '"' '\''))]) ∧
        Json.readWith? (fun p => some (real p)) r.body =
          some (.object [("error", .text (message.replaceChar '"' '\''))]) := by
  refine ⟨Answer.exists_readWith?_text real (c.run raw), Answer.exists_text_member _, ?_⟩
  intro message r hr
  have hbody : r.body = Response.errorBody message := by
    simp only [List.mem_cons, List.not_mem_nil, or_false] at hr
    rcases hr with rfl | rfl | rfl <;> rfl
  rw [hbody]
  exact ⟨rfl, Answer.readWith?_error _ _⟩

end Catalog

end ReflectCalc
