import ReflectCalc.Builtin.Catalog
import ReflectCalc.Proofs.Http.Response
import ReflectCalc.Proofs.Service.Forwarder
import ReflectCalc.Proofs.Url.Ascii
import ReflectCalc.Service.Connection
import ReflectCalc.Service.Facade

/-!
# The facade answers as the backend does

A command that reaches the facade is encoded into a request, read by the backend, executed, written
into a response, and read back. Each of these steps undoes the one before it:

* `Forwarder.path_ofHttpUrl` — a forwarder to a URL without a path asks for just the endpoint;
* `Connection.respond_requestBytes` — the backend that receives the request executes the command,
  since the request reads as one for its path with this command (`Forwarder.read_requestBytes`);
* `Forwarder.forward_reply` — the bytes of a JSON response yield its body, since a response reads
  back from its bytes (`Response.parse_toBytes`);
* `Facade.handle_eq_backend` — so the facade answers as the backend itself. It holds over any reader
  of URLs, since of the base URL only the path that was read matters.
-/

namespace ReflectCalc

variable {E : Catalog} {url command body : Text} {u : HttpUrl} {limit : Span} {f : Forwarder}
  {bound : Nat} {r : Request} {exchange : Bytes → Exchange}

/-! ### The forwarder -/

namespace Forwarder

/-- **A URL without a path leaves only the endpoint.** -/
theorem path_ofHttpUrl (hpath : u.path = [] ∨ u.path = "/") :
    (ofHttpUrl u Backend.path limit).path = Backend.path := by
  have hbase : Text.dropTrailing '/' u.path = [] := by
    rcases hpath with h | h <;> rw [h] <;> rfl
  unfold path ofHttpUrl
  rw [hbase]
  rfl

theorem routes_of_path (hf : f.path = Backend.path) : f.Routes := by
  unfold Routes
  rw [hf]
  decide

/-- What a forwarder takes from bytes that have arrived is the body of the response that they are. -/
theorem forward_of_parse_eq_ok {raw : Bytes} {response : Response}
    (hexchange : exchange (f.requestBytes (f.target command)) = .reply raw)
    (hparse : Response.parse (raw.take maxReply) = .ok response) :
    f.forward exchange command = .ok response.body := by
  unfold forward fetch
  rw [hexchange, receive, hparse]
  rfl

theorem forward_of_parse_eq_error {raw : Bytes} {e : ResponseError}
    (hexchange : exchange (f.requestBytes (f.target command)) = .reply raw)
    (hparse : Response.parse (raw.take maxReply) = .error e) :
    f.forward exchange command = .error (.response e) := by
  unfold forward fetch
  rw [hexchange, receive, hparse]
  rfl

/-- The body of a JSON response is what a forwarder takes from its bytes. -/
theorem forward_reply (hcap : (Response.json body).toBytes.length ≤ maxReply)
    (hexchange : exchange (f.requestBytes (f.target command)) = .reply (Response.json body).toBytes) :
    f.forward exchange command = .ok body := by
  -- the cap on the whole bounds the length that the head declares
  have hlength : (Utf8.encode body).length < twoTo 64 := by
    have hbody : (Utf8.encode body).length ≤ (Response.json body).toBytes.length := by
      unfold Response.toBytes Response.wire
      rw [Utf8.encode_append, List.length_append]
      exact Nat.le_add_left _ _
    have hmax : maxReply < twoTo 64 := by decide
    omega
  have hsend : (Response.json body).Sendable :=
    Response.sendable_make (by decide) (by decide) (by decide) hlength
  have hparse := Response.parse_toBytes hsend []
  rw [List.append_nil] at hparse
  -- nothing is cut off by the cap
  rw [← List.take_of_length_le hcap] at hparse
  exact forward_of_parse_eq_ok hexchange hparse

end Forwarder

/-- The bytes of a JSON response. -/
theorem Response.toBytes_json (body : Text) :
    (Response.json body).toBytes = Utf8.encode (("HTTP/1.1 200 OK\r\n" : Text) ++
      "Content-Type: application/json; charset=UTF-8\r\n" ++
      "Content-Length: " ++ Numeral.ofNat (Utf8.encode body).length ++ "\r\n" ++
      "Connection: close\r\nAccess-Control-Allow-Origin: *\r\n\r\n" ++ body) := by
  have hstatus : Numeral.ofNat (200 : UInt16).toNat = ("200" : Text) := by decide
  have hline : (Response.json body).statusLine = ("HTTP/1.1 200 OK" : Text) := by
    unfold Response.statusLine Response.json Response.make
    rw [hstatus]
    rfl
  have htype : Response.headerLine ("Content-Type", "application/json; charset=UTF-8") =
      "Content-Type: application/json; charset=UTF-8\r\n" := by decide
  have hlength (n : Text) :
      Response.headerLine ("Content-Length", n) = "Content-Length: " ++ n ++ "\r\n" := by rfl
  have hothers : Response.headerLine ("Connection", "close") ++
      Response.headerLine ("Access-Control-Allow-Origin", "*") ++ "\r\n" =
        "Connection: close\r\nAccess-Control-Allow-Origin: *\r\n\r\n" := by decide
  unfold Response.toBytes Response.wire Response.head
  rw [hline]
  unfold Response.json Response.make
  simp only [List.flatMap_cons, List.flatMap_nil, htype, hlength, ← hothers, List.append_assoc,
    List.nil_append]
  rfl

/-! ### The two services -/

/-- A backend answers with the status 500 just if it has lost its task, and with the status 200 just
if the task has an answer. Each needs a request for its path that has a command. -/
theorem Backend.status_handleWith (task : Text → Except Text Text) (r : Request) :
    ((handleWith task r).status = 500 ↔ r.path = Backend.path ∧
      ∃ command ∈ r.command?, ∃ reason, task command = .error reason) ∧
    ((handleWith task r).status = 200 ↔ r.path = Backend.path ∧
      ∃ command ∈ r.command?, ∃ answer, task command = .ok answer) := by
  have hother (message : Text) : (Response.notFound message).status = 404 := rfl
  have hmissing : missingCommand.status = 400 := rfl
  have hanswer (answer : Text) : (Response.json answer).status = 200 := rfl
  have hlost (reason : Text) : (Response.serverError reason).status = 500 := rfl
  unfold handleWith
  by_cases hpath : r.path = Backend.path
  · rw [if_pos hpath]
    cases r.command? with
    | none => simp [hmissing]
    | some command => cases htask : task command <;> simp [hpath, htask, hanswer, hlost]
  · rw [if_neg hpath]
    simp [hpath, hother]

/-- A request for the path of the backend is answered by executing its command. -/
theorem Backend.handle_command (hpath : r.path = Backend.path)
    (hparam : r.param? commandParam = some command) (hne : command ≠ []) :
    Backend.handle E r = .json (E.execute command) := by
  unfold Backend.handle handleWith
  rw [if_pos hpath, Request.command?_of_param? hparam hne]

/-- A request for the path of commands is answered by what comes of forwarding its command. -/
theorem Facade.handle_command (hpath : r.path = Facade.queryPath)
    (hparam : r.param? commandParam = some command) (hne : command ≠ []) :
    Facade.handle f exchange r = Facade.relay (f.forward exchange command) := by
  have hpage : r.path ≠ Facade.pagePath := by
    rw [hpath]
    decide
  unfold Facade.handle Facade.command
  rw [if_neg hpage, if_pos hpath, Request.command?_of_param? hparam hne]

/-- A backend that receives a forwarded command executes just this command. -/
theorem Connection.respond_requestBytes (hf : f.path = Backend.path) (hne : command ≠ [])
    (hbound : (f.requestBytes (f.target command)).length ≤ bound) :
    Connection.respond (Backend.handle E) bound (f.requestBytes (f.target command))
      = .ok (Response.json (E.execute command)).toBytes := by
  have hread := Forwarder.read_requestBytes (Forwarder.routes_of_path hf) command hbound
  unfold Connection.respond
  rw [hread]
  refine congrArg (fun response => Except.ok (Response.toBytes response)) ?_
  exact Backend.handle_command hf (Request.param?_text _ _ _ _ _) hne

/-- **The facade answers as the backend does.** A forwarder to a URL without a path sends a command
to a backend whose bound the request fits. The backend writes the response that holds what comes of
executing the command, and once these bytes have arrived, within the cap of 8 MiB, the facade answers
each request with this command as the backend answers each request with it: with status 200, the
reason and the headers of a JSON text, and what comes of executing the command as the body. -/
theorem Facade.handle_eq_backend [UrlReader] (hurl : HttpUrl.parse url = .ok u)
    (hpath : u.path = [] ∨ u.path = "/") (hf : Forwarder.ofUrl url "/compreflex" limit = .ok f)
    (hne : command ≠ []) (hbound : (f.requestBytes (f.target command)).length ≤ bound) :
    ∃ reply, Connection.respond (Backend.handle E) bound (f.requestBytes (f.target command))
        = .ok reply ∧
      reply = Utf8.encode (("HTTP/1.1 200 OK\r\n" : Text) ++
        "Content-Type: application/json; charset=UTF-8\r\n" ++
        "Content-Length: " ++ Numeral.ofNat (Utf8.encode (E.execute command)).length ++ "\r\n" ++
        "Connection: close\r\nAccess-Control-Allow-Origin: *\r\n\r\n" ++ E.execute command) ∧
      (reply.length ≤ 8 * 1024 * 1024 →
        ∀ exchange : Bytes → Exchange,
          exchange (f.requestBytes (f.target command)) = .reply reply →
        ∀ r r' : Request, r.path = "/consulta" → r.param? "comando" = some command →
          r'.path = "/compreflex" → r'.param? "comando" = some command →
        Facade.handle f exchange r = Backend.handle E r' ∧
          Backend.handle E r' = {
            status := 200
            reason := "OK"
            headers := [
              ("Content-Type", "application/json; charset=UTF-8"),
              ("Content-Length", Numeral.ofNat (Utf8.encode (E.execute command)).length),
              ("Connection", "close"),
              ("Access-Control-Allow-Origin", "*")]
            body := E.execute command }) := by
  have hroute : f.path = Backend.path := by
    unfold Forwarder.ofUrl at hf
    rw [hurl] at hf
    cases hf
    exact Forwarder.path_ofHttpUrl hpath
  refine ⟨_, Connection.respond_requestBytes hroute hne hbound, Response.toBytes_json _, ?_⟩
  -- both services come to the same response, each by its own way
  intro hcap exchange hexchange r r' hr hparam hr' hparam'
  have hbackend : Backend.handle E r' = .json (E.execute command) :=
    Backend.handle_command hr' hparam' hne
  have hfacade : Facade.handle f exchange r = .json (E.execute command) := by
    rw [Facade.handle_command hr hparam hne, Forwarder.forward_reply hcap hexchange]
    rfl
  exact ⟨hfacade.trans hbackend.symm, hbackend⟩

/-- A command whose text is full of signs that have a meaning for one of the readers between. -/
def commandWithSigns : Text := "unaryInvoke(java.lang.Boolean, parseBoolean, string, 'ñ&=+% ?\r\n')"

set_option maxRecDepth 10000 in
theorem Facade.handle_eq_backend_parseBoolean :
    ∃ f, Forwarder.ofUrl "http://localhost:45000" "/compreflex" (.ofSecs 5) = .ok f ∧
      Facade.handle f (fun _ => .reply (Response.json "\x7b\"value\":false\x7d").toBytes)
          ⟨"GET", "/consulta", Form.text [("comando", commandWithSigns)], []⟩
        = {
          status := 200
          reason := "OK"
          headers := [
            ("Content-Type", "application/json; charset=UTF-8"),
            ("Content-Length", "15"),
            ("Connection", "close"),
            ("Access-Control-Allow-Origin", "*")]
          body := "\x7b\"value\":false\x7d" } := by
  let f : Forwarder := ⟨"localhost", "localhost:45000", 45000, [], "/compreflex", .ofSecs 5⟩
  have hurl : HttpUrl.parse "http://localhost:45000" =
      .ok ⟨.domain "localhost", "localhost", some 45000, 45000, "/"⟩ := by rfl
  have hf : Forwarder.ofUrl "http://localhost:45000" "/compreflex" (.ofSecs 5) = .ok f := by rfl
  have hne : commandWithSigns ≠ [] := by decide
  have hbound : (f.requestBytes (f.target commandWithSigns)).length ≤ 8192 := by decide +kernel
  have hanswer : (Catalog.ofList [Builtin.boolean]).execute commandWithSigns
      = "\x7b\"value\":false\x7d" := by decide +kernel
  obtain ⟨reply, -, hreply, htransparent⟩ :=
    Facade.handle_eq_backend (E := Catalog.ofList [Builtin.boolean]) hurl (.inr rfl) hf hne hbound
  rw [hanswer] at hreply htransparent
  rw [← Response.toBytes_json] at hreply
  subst hreply
  obtain ⟨hfacade, hbackend⟩ := htransparent (by decide +kernel) (fun _ => .reply _) rfl
    ⟨"GET", "/consulta", Form.text [("comando", commandWithSigns)], []⟩
    ⟨"GET", "/compreflex", Form.text [("comando", commandWithSigns)], []⟩
    rfl (Request.param?_text _ _ _ _ _) rfl (Request.param?_text _ _ _ _ _)
  exact ⟨f, hf, hfacade.trans hbackend⟩

end ReflectCalc
