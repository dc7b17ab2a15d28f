import ReflectCalc.Proofs.Http.Fields
import ReflectCalc.Proofs.Http.Form

/-!
# Queries as maps

What a query means is the map from its names to their values, of which the last one counts. A query
can be cut at any `&` into two queries, and its map is that of the first one overwritten by that of
the second one, however malformed the pieces are: each piece is read alone, so an escape or a name
never goes on behind the cut.

* `Form.pairs_append` — the pieces of two queries with `&` between them are read one after another;
* `Form.get?_fields_append` — so the second query overwrites the first;
* `Form.fields_laws` is the main result: this, and that a query in which pairs are written gives
  back the last value of each name.
-/

namespace ReflectCalc.Form

/-- **The pieces of both queries are read**, those of the first one before those of the second. -/
theorem pairs_append (a b : Text) : pairs (a ++ '&' :: b) = pairs a ++ pairs b := by
  unfold pairs
  rw [Text.splitAll_append_cons, List.filter_append, List.map_append]

/-- What stands in both queries has its value from the second one. -/
theorem get?_fields_append (a b name : Text) :
    (fields (a ++ '&' :: b)).get? name = ((fields b).get? name).or ((fields a).get? name) := by
  have hfields : fields (a ++ '&' :: b) = (fields a).insertAll (pairs b) := by
    unfold fields Fields.ofList Fields.insertAll
    rw [pairs_append, List.foldl_append]
  rw [hfields, Fields.get?_insertAll]
  rfl

theorem fields_text (ps : List (Text × Text)) : fields (text ps) = Fields.ofList ps := by
  unfold fields
  rw [pairs_text]

/-- **A query means the same read in parts, and what is written in a query is read from it.** With
`&` between two queries, whatever texts they are, a name has its value from the second one, and from
the first one only if the second one does not have it. In a query in which pairs are written, a name
has the value of its last pair. A query never has two values under one name, so nothing else stands
in it. -/
theorem fields_laws :
    (∀ a b name, (fields (a ++ '&' :: b)).get? name
      = ((fields b).get? name).or ((fields a).get? name)) ∧
    (∀ ps name value,
      (fields (text ps)).get? name = some value ↔ Fields.LastOf ps name value) ∧
    ∀ query name value, (name, value) ∈ fields query ↔ (fields query).get? name = some value := by
  refine ⟨get?_fields_append, ?_, ?_⟩
  · intro ps name value
    rw [fields_text]
    exact Fields.get?_ofList_iff
  · intro query name value
    exact Fields.mem_iff_get? (Fields.nodup_names_insertAll List.nodup_nil)

end ReflectCalc.Form
