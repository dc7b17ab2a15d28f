import ReflectCalc.Proofs.Http.CutReply
import ReflectCalc.Proofs.Service.Transparency

/-!
# Replies that are cut short, behind the facade

The facade answers with an error when the reply of the backend cannot be read, and relays the body
when it can. What has come of a reply that was cut short can be read more often than one would wish:
just if the head is complete and the body is cut between two characters.

* `Facade.handle_cut_reply` is the exact condition, for the reader and for the facade;
* `Facade.handle_eq_json_of_cut_reply` is a reply of which a part is relayed as if it were whole.
-/

namespace ReflectCalc.Facade

variable {r : Response} {p : Bytes}

/-- What can be read from a reply is relayed. -/
theorem handle_of_parse_eq_ok {f : Forwarder} {exchange : Bytes → Exchange} {request : Request}
    {command : Text} {raw : Bytes} (hpath : request.path = queryPath)
    (hparam : request.param? commandParam = some command) (hcommand : command ≠ [])
    (hexchange : exchange (f.requestBytes (f.target command)) = .reply raw)
    (hparse : Response.parse (raw.take Forwarder.maxReply) = .ok r) :
    handle f exchange request = .json r.body := by
  rw [handle_command hpath hparam hcommand, Forwarder.forward_of_parse_eq_ok hexchange hparse]
  rfl

/-- **A reply that is cut short is refused just if the cut is inside the head or inside a
character.** Let some bytes at the end of a response be missing, be it that the connection broke or
that the cap was reached. What has come is an error for the reader unless it is the whole head with
a text behind it, and then this text, a beginning of the body, is taken for the body. The facade
answers with status 500 in the first case, and in the second it relays the shortened body with
status 200. -/
theorem handle_cut_reply (hr : r.Made) (hp : p <+: r.toBytes) (hne : p ≠ r.toBytes) :
    ((∃ e, Response.parse p = .error e) ↔ ∀ body, p ≠ Utf8.encode (r.head ++ body)) ∧
    (∀ body, p = Utf8.encode (r.head ++ body) →
      Response.parse p = .ok (r.received body) ∧ body <+: r.body ∧ body ≠ r.body) ∧
    ∀ (f : Forwarder) (exchange : Bytes → Exchange) (request : Request) (command : Text)
      (raw : Bytes), request.path = queryPath → request.param? commandParam = some command →
      command ≠ [] → exchange (f.requestBytes (f.target command)) = .reply raw →
      raw.take Forwarder.maxReply = p →
      ((∀ body, p ≠ Utf8.encode (r.head ++ body)) →
        (handle f exchange request).status = 500 ∧
        ∃ e, handle f exchange request = .serverError (ForwardError.response e).text) ∧
      ∀ body, p = Utf8.encode (r.head ++ body) →
        (handle f exchange request).status = 200 ∧ (handle f exchange request).body = body ∧
        handle f exchange request = .json body := by
  have hok (r' : Response) : Response.parse p = .ok r' ↔
      ∃ body, p = Utf8.encode (r.head ++ body) ∧ r' = r.received body :=
    Response.parse_of_cut_eq_ok_iff hr hp hne
  have herror : (∃ e, Response.parse p = .error e) ↔ ∀ body, p ≠ Utf8.encode (r.head ++ body) := by
    rw [Response.exists_parse_eq_error_iff]
    constructor
    · intro h body hbody
      exact h _ ((hok (r.received body)).2 ⟨body, hbody, rfl⟩)
    · rintro h r' hr'
      obtain ⟨body, hbody, -⟩ := (hok r').1 hr'
      exact h body hbody
  have hread (body : Text) (hbody : p = Utf8.encode (r.head ++ body)) :
      Response.parse p = .ok (r.received body) := (hok _).2 ⟨body, hbody, rfl⟩
  refine ⟨herror, fun body hbody => ⟨hread body hbody, ?_, ?_⟩, ?_⟩
  · -- the head is common to both texts, and what is left of the one is a beginning of the other
    obtain ⟨rest, hrest⟩ := hp
    obtain ⟨more, hmore, -⟩ := Utf8.exists_append_of_encode_eq_append (hbody ▸ hrest.symm)
    rw [Response.wire, List.append_assoc] at hmore
    exact ⟨more, (List.append_cancel_left hmore).symm⟩
  · rintro rfl
    exact hne hbody
  · intro f exchange request command raw hpath hparam hcommand hexchange htake
    subst htake
    -- the facade says what the reader has said
    constructor
    · intro hbad
      obtain ⟨e, he⟩ := herror.2 hbad
      have hanswer : handle f exchange request =
          .serverError (ForwardError.response e).text := by
        rw [handle_command hpath hparam hcommand, Forwarder.forward_of_parse_eq_error hexchange he]
        rfl
      rw [hanswer]
      exact ⟨rfl, e, rfl⟩
    · intro body hbody
      rw [handle_of_parse_eq_ok hpath hparam hcommand hexchange (hread body hbody)]
      exact ⟨rfl, rfl, rfl⟩

/-- A cut inside a character is noticed, and one between two characters is not. -/
theorem handle_cut_reply_two_cuts :
    (∃ e, Response.parse ((Response.json "ñu").toBytes.take 137) = .error e) ∧
    handle ⟨"localhost", "localhost:45000", 45000, [], Backend.path, .ofSecs 5⟩
        (fun _ => .reply ((Response.json "ñu").toBytes.take 138))
        ⟨"GET", queryPath, Form.text [(commandParam, "Class(java.lang.Math)")], []⟩
      = .json "ñ" := by
  constructor
  · have hcut := handle_cut_reply (Response.Built.json "ñu").made
      (List.take_prefix 137 (Response.json "ñu").toBytes) (by decide +kernel)
    refine hcut.1.2 fun body hbody => ?_
    have hhalf : (Response.json "ñu").toBytes.take 137
        = Utf8.encode (Response.json "ñu").head ++ [0xC3] := by decide +kernel
    have hnone : Utf8.decode? [0xC3] = none := by
      simp [Utf8.decode?, Utf8.scan, Utf8.scan.start, Utf8.lead]
    rw [hhalf, Utf8.encode_append, List.append_cancel_left_eq] at hbody
    rw [hbody, Utf8.decode?_encode] at hnone
    cases hnone
  · have hcut := handle_cut_reply (Response.Built.json "ñu").made
      (List.take_prefix 138 (Response.json "ñu").toBytes) (by decide +kernel)
    have hrelay := hcut.2.2 ⟨"localhost", "localhost:45000", 45000, [], Backend.path, .ofSecs 5⟩
      (fun _ => .reply ((Response.json "ñu").toBytes.take 138))
      ⟨"GET", queryPath, Form.text [(commandParam, "Class(java.lang.Math)")], []⟩
      "Class(java.lang.Math)" ((Response.json "ñu").toBytes.take 138)
      rfl (Request.param?_text _ _ _ _ _) (by decide) rfl (by decide +kernel)
    exact (hrelay.2 "ñ" (by decide +kernel)).2.2

/-- A body of which only the first part has come, less than the declared length, is read and relayed
as if it were whole. -/
theorem handle_eq_json_of_cut_reply :
    ∃ p, p <+: (Response.json "\x7b\"value\":7\x7d").toBytes ∧
      p ≠ (Response.json "\x7b\"value\":7\x7d").toBytes ∧
      Response.parse p
        = .ok ((Response.json "\x7b\"value\":7\x7d").received "\x7b\"value\"") ∧
      let answer := handle
        ⟨"localhost", "localhost:45000", 45000, [], Backend.path, .ofSecs 5⟩ (fun _ => .reply p)
        ⟨"GET", queryPath, Form.text [(commandParam, "Class(java.lang.Math)")], []⟩
      answer.status = 200 ∧ answer.body = "\x7b\"value\"" ∧
        answer = .json "\x7b\"value\"" := by
  obtain ⟨p, hp, hne, hparse⟩ : ∃ p, p <+: (Response.json "\x7b\"value\":7\x7d").toBytes ∧
      p ≠ (Response.json "\x7b\"value\":7\x7d").toBytes ∧
      Response.parse p = .ok ((Response.json "\x7b\"value\":7\x7d").received "\x7b\"value\"") := by
    have hp := List.take_prefix 145 (Response.json "\x7b\"value\":7\x7d").toBytes
    have hne : (Response.json "\x7b\"value\":7\x7d").toBytes.take 145
        ≠ (Response.json "\x7b\"value\":7\x7d").toBytes := by decide +kernel
    exact ⟨_, hp, hne, (Response.parse_of_cut_eq_ok_iff (Response.Built.json _).made hp hne).2
      ⟨"\x7b\"value\"", by decide +kernel, rfl⟩⟩
  have hcap : p.take Forwarder.maxReply = p :=
    List.take_of_length_le (hp.length_le.trans (by decide +kernel))
  have hreceived := hparse
  rw [← hcap] at hreceived
  refine ⟨p, hp, hne, hparse, ?_⟩
  intro answer
  have hanswer : answer = .json "\x7b\"value\"" := handle_of_parse_eq_ok
    (r := (Response.json "\x7b\"value\":7\x7d").received "\x7b\"value\"") rfl
    (Request.param?_text _ _ _ _ _) (by decide) rfl hreceived
  rw [hanswer]
  exact ⟨rfl, rfl, rfl⟩

end ReflectCalc.Facade
