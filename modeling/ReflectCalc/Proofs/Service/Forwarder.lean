import ReflectCalc.Proofs.Http.Fields
import ReflectCalc.Proofs.Http.Form
import ReflectCalc.Proofs.Http.Request
import ReflectCalc.Service.Backend
import ReflectCalc.Service.Forwarder

/-!
# Requests of a forwarder

A forwarder writes a command into the query of its target. The encoded command holds no character
that has a meaning for the reader of a request, so the request line has its three words, the target
has its one question mark, and the query has its one pair.

* `Forwarder.Routes` says that this holds of the path of the forwarder as well;
* `Forwarder.target_eq` — the target is that path and the query of one pair;
* `Forwarder.read_requestBytes_append` — the request reads as one for this path with this command,
  and `Forwarder.head_requestBytes_append` says that it is a whole head;
* `Forwarder.read_ofHttpUrl` puts these together for a forwarder to any base and endpoint.
-/

namespace ReflectCalc

namespace Request

variable {r : Request} {c : Text}

/-- A query that was written with a single pair has this one parameter. -/
theorem params_text (method path name value : Text) (headers : Fields) :
    params ⟨method, path, Form.text [(name, value)], headers⟩ = [(name, value)] := by
  unfold params Form.fields
  rw [Form.pairs_text]
  rfl

theorem param?_text (method path name value : Text) (headers : Fields) :
    param? ⟨method, path, Form.text [(name, value)], headers⟩ name = some value := by
  unfold param?
  rw [params_text]
  simp [Fields.get?]

/-- A command that is there and not empty. -/
theorem command?_of_param? (hr : r.param? commandParam = some c) (hc : c ≠ []) :
    r.command? = some c := by
  unfold command?
  rw [hr]
  simp [hc]

end Request

namespace Forwarder

variable {f : Forwarder} {c : Char} {command : Text} {bound : Nat}

/-- The path that a forwarder asks for. -/
def path (f : Forwarder) : Text := f.basePath ++ f.endpoint

/-- No character of the path ends it, its word or its line. -/
def Routes (f : Forwarder) : Prop := '?' ∉ f.path ∧ ' ' ∉ f.path ∧ '\n' ∉ f.path

/-- The first line of a request for a target. -/
def requestLine (target : Text) : Text := "GET" ++ ' ' :: (target ++ ' ' :: "HTTP/1.1")

/-- The lines behind the first one. -/
def headerLines (f : Forwarder) : List Text :=
  ["Host: " ++ f.hostHeader, "User-Agent: " ++ userAgent, "Accept: application/json",
    "Connection: close"]

/-- These lines with their ends. -/
def headerText (f : Forwarder) : Text := f.headerLines.flatMap fun l => l ++ ("\r\n" : Text)

/-- The headers of a request as they are read. -/
def headers (f : Forwarder) : Fields :=
  [("Host", f.hostHeader.trim), ("User-Agent", userAgent), ("Accept", "application/json"),
    ("Connection", "close")]

/-- The target is the path and the query of one pair. -/
theorem target_eq (f : Forwarder) (command : Text) :
    f.target command = f.path ++ '?' :: Form.text [(commandParam, command)] := by
  have hname : Form.encode commandParam = commandParam := by decide
  have hquery : Form.text [(commandParam, command)]
      = ("comando=" : Text) ++ Form.encode command := by
    -- the name of the parameter is its own encoding
    simp only [Form.text, Form.pairText, List.map_singleton, Text.join, hname]
    rfl
  unfold target path
  rw [hquery]
  simp

/-- Besides what the path holds, a target holds only the question mark, the name of the parameter
and the characters of an encoded text. -/
theorem not_mem_target (hpath : c ∉ f.path) (hquery : c ∉ ("?comando=" : Text))
    (hcode : Form.isCodeChar c = false) : c ∉ f.target command := by
  intro h
  unfold target at h
  rcases List.mem_append.1 h with h | h
  · rcases List.mem_append.1 h with h | h
    · exact hpath h
    · exact hquery h
  · exact Form.not_mem_encode hcode h

/-- A request is its first line, the lines of its headers, and an empty line. -/
theorem requestBytes_eq (f : Forwarder) (target : Text) :
    f.requestBytes target
      = Utf8.encode ((requestLine target ++ ['\r']) ++ '\n' :: f.headerText) ++ [0x0D, 0x0A] := by
  have htext : f.requestText target
      = ((requestLine target ++ ['\r']) ++ '\n' :: f.headerText) ++ ['\r', '\n'] := by
    unfold requestText headerText headerLines requestLine
    simp
  unfold requestBytes
  rw [htext, Utf8.encode_append]
  rfl

theorem chomp_requestLine (target : Text) :
    Text.chomp ((requestLine target ++ ['\r']) ++ ['\n']) = requestLine target := by
  rw [List.append_assoc]
  exact Text.chomp_crlf

theorem getLast?_headerText (f : Forwarder) : f.headerText.getLast? = some '\n' :=
  Lines.getLast?_flatMap_crlf (by simp [headerLines])

/-! ### The request line -/

/-- The request line of a forwarded command keeps to its line. -/
theorem not_mem_requestLine (hf : f.Routes) (command : Text) :
    '\n' ∉ requestLine (f.target command) ++ ['\r'] := by
  have hfeed : '\n' ∉ f.target command := not_mem_target hf.2.2 (by decide) (by decide)
  unfold requestLine
  simp [hfeed]

/-- The target of a forwarded command is one word, with one question mark behind the path. -/
theorem ofTarget_requestLine (hf : f.Routes) (command : Text) (headers : Fields) :
    Request.ofTarget (Request.readRequestLine (requestLine (f.target command))).1
        (Request.readRequestLine (requestLine (f.target command))).2 headers
      = ⟨"GET", f.path, Form.text [(commandParam, command)], headers⟩ := by
  obtain ⟨hmark, hspace, -⟩ := hf
  have hword : ' ' ∉ f.target command := not_mem_target hspace (by decide) (by decide)
  have hne : f.target command ≠ [] := by simp [target_eq]
  unfold requestLine
  rw [Request.readRequestLine_words (by decide) hword hne, target_eq]
  unfold Request.ofTarget
  rw [Text.splitOnce_append hmark]

/-! ### The whole request -/

/-- **A forwarded command is read as a request for the path with just this command**, whatever bytes
follow. -/
theorem read_requestBytes_append (hf : f.Routes) (command : Text)
    (hbound : (f.requestBytes (f.target command)).length ≤ bound) (more : Bytes) :
    Request.read bound (f.requestBytes (f.target command) ++ more)
      = .ok ⟨"GET", f.path, Form.text [(commandParam, command)],
          Request.collect [] (Lines.split '\n' f.headerText)⟩ := by
  have hne : Text.chomp ((requestLine (f.target command) ++ ['\r']) ++ ['\n']) ≠ [] := by
    rw [chomp_requestLine]
    simp [requestLine]
  rw [requestBytes_eq] at hbound ⊢
  rw [Request.read_encode_append (not_mem_requestLine hf command) hne
    (.inr (getLast?_headerText f)) (.inr rfl) hbound, chomp_requestLine, ofTarget_requestLine hf]

theorem read_requestBytes (hf : f.Routes) (command : Text)
    (hbound : (f.requestBytes (f.target command)).length ≤ bound) :
    Request.read bound (f.requestBytes (f.target command))
      = .ok ⟨"GET", f.path, Form.text [(commandParam, command)],
          Request.collect [] (Lines.split '\n' f.headerText)⟩ := by
  have hread := read_requestBytes_append hf command hbound []
  rwa [List.append_nil] at hread

/-! ### Its headers -/

theorem split_headerText (hhost : '\n' ∉ f.hostHeader) :
    Lines.split '\n' f.headerText = f.headerLines.map fun l => l ++ ("\r\n" : Text) := by
  refine LineEnd.split_flatMap_text (fun l hl => ?_) .crlf
  simp only [headerLines, List.mem_cons, List.not_mem_nil, or_false] at hl
  rcases hl with rfl | rfl | rfl | rfl
  · simp [hhost]
  · decide
  · decide
  · decide

theorem ne_nil_of_mem_headerLines {l : Text} (h : l ∈ f.headerLines) : l ≠ [] := by
  simp only [headerLines, List.mem_cons, List.not_mem_nil, or_false] at h
  rcases h with rfl | rfl | rfl | rfl <;> simp

theorem readLine?_host (value : Text) :
    Fields.readLine? ("Host: " ++ value) = some (("Host" : Text), value.trim) := by
  have hline : ("Host: " : Text) ++ value = ("Host" : Text) ++ ": " ++ value := by simp
  rw [hline, Fields.readLine?_colon (by simp) (by decide) (by decide)]

/-- **A request has its four headers**, whatever the command. -/
theorem collect_headerText (hhost : '\n' ∉ f.hostHeader) :
    Request.collect [] (Lines.split '\n' f.headerText) = f.headers := by
  have hfields : f.headerLines.filterMap Fields.readLine? = f.headers := by
    unfold headerLines
    rw [List.filterMap_cons_some (readLine?_host f.hostHeader)]
    rfl
  rw [split_headerText hhost, Request.collect_crlf (fun l => ne_nil_of_mem_headerLines),
    hfields]
  rfl

/-- Behind the headers stands the one empty line of a request. -/
theorem head_requestBytes_append (hf : f.Routes) (hhost : '\n' ∉ f.hostHeader) (command : Text)
    (more : Bytes) :
    Request.head (f.requestBytes (f.target command) ++ more)
      = f.requestBytes (f.target command) := by
  have hlines : ∀ l ∈ Lines.split '\n' f.headerText, Text.chomp l ≠ [] := by
    intro l hl
    rw [split_headerText hhost] at hl
    obtain ⟨t, ht, rfl⟩ := List.mem_map.1 hl
    rw [Text.chomp_crlf]
    exact ne_nil_of_mem_headerLines ht
  rw [requestBytes_eq]
  exact Request.head_encode_append (not_mem_requestLine hf command) (.inr (getLast?_headerText f))
    hlines (.inr rfl) more

/-! ### Every base and endpoint -/

section OfHttpUrl

variable {url : HttpUrl} {endpoint : Text} {limit : Span}

/-- The path is the one of the base without the slashes at its end, one slash, and the endpoint
without the slashes at its front. -/
theorem path_ofHttpUrl_eq :
    (ofHttpUrl url endpoint limit).path
      = url.path.dropTrailing '/' ++ '/' :: endpoint.dropLeading '/' := rfl

theorem not_mem_path_ofHttpUrl (hc : c ≠ '/') (hurl : c ∉ url.path) (hendpoint : c ∉ endpoint) :
    c ∉ (ofHttpUrl url endpoint limit).path := by
  intro h
  rw [path_ofHttpUrl_eq] at h
  rcases List.mem_append.1 h with h | h
  · exact hurl (Text.subset_dropTrailing h)
  · rcases List.mem_cons.1 h with h | h
    · exact hc h
    · exact hendpoint (Text.subset_dropLeading h)

/-- Slashes at the end of the base and at the front of the endpoint make no difference. -/
theorem ofHttpUrl_slashes (m n : Nat) :
    ofHttpUrl { url with path := url.path ++ List.replicate m '/' }
        (List.replicate n '/' ++ endpoint) limit
      = ofHttpUrl url endpoint limit := by
  unfold ofHttpUrl
  rw [Text.dropTrailing_append_replicate, Text.dropLeading_replicate_append]

/-- **A forwarded command is one request that carries just this command.** For a base and an
endpoint without question marks, spaces and line feeds, and a host that keeps to its line, the bytes
that are written read as a `GET` for the one path with the one parameter and the four headers. They
are the whole head of a stream that begins with them, so nothing in a command ends the request
early or begins another one. -/
theorem read_ofHttpUrl (hf : f = ofHttpUrl url endpoint limit)
    (hurl : '?' ∉ url.path ∧ ' ' ∉ url.path ∧ '\n' ∉ url.path)
    (hendpoint : '?' ∉ endpoint ∧ ' ' ∉ endpoint ∧ '\n' ∉ endpoint)
    (hhost : '\n' ∉ f.hostHeader) (command : Text)
    (hbound : (f.requestBytes (f.target command)).length ≤ bound) (more : Bytes) :
    (∃ r, Request.read bound (f.requestBytes (f.target command) ++ more) = .ok r ∧
      r.method = "GET" ∧
      r.path = url.path.dropTrailing '/' ++ '/' :: endpoint.dropLeading '/' ∧
      r.params = [(commandParam, command)] ∧
      r.headers = f.headers) ∧
    Request.head (f.requestBytes (f.target command) ++ more)
      = f.requestBytes (f.target command) ∧
    ∀ m n, (ofHttpUrl { url with path := url.path ++ List.replicate m '/' }
      (List.replicate n '/' ++ endpoint) limit).target command = f.target command := by
  subst hf
  have hroutes : (ofHttpUrl url endpoint limit).Routes :=
    ⟨not_mem_path_ofHttpUrl (by decide) hurl.1 hendpoint.1,
      not_mem_path_ofHttpUrl (by decide) hurl.2.1 hendpoint.2.1,
      not_mem_path_ofHttpUrl (by decide) hurl.2.2 hendpoint.2.2⟩
  refine ⟨?_, head_requestBytes_append hroutes hhost command more, fun m n => ?_⟩
  · exact ⟨_, read_requestBytes_append hroutes command hbound more, rfl, path_ofHttpUrl_eq,
      Request.params_text _ _ _ _ _, collect_headerText hhost⟩
  · rw [ofHttpUrl_slashes]

/-- A command that holds what looks like a parameter, a header and another request, in front of
bytes that are one. -/
theorem read_ofHttpUrl_forged_request :
    ∃ r, Request.read 8192
        ((ofHttpUrl ⟨.domain "h", "h", some 45000, 45000, "/a//"⟩ "//run" (.ofSecs 5)).requestBytes
          ((ofHttpUrl ⟨.domain "h", "h", some 45000, 45000, "/a//"⟩ "//run" (.ofSecs 5)).target
            "ñ&x=1 HTTP/1.1\r\nHost: g\r\n\r\nGET /?%+#\x00")
          ++ Utf8.encode "GET /b HTTP/1.1\r\n\r\n") = .ok r ∧
      r.method = "GET" ∧ r.path = "/a/run" ∧
      r.param? commandParam = some ("ñ&x=1 HTTP/1.1\r\nHost: g\r\n\r\nGET /?%+#\x00" : Text) ∧
      r.header? "Host" = some ("h:45000" : Text) := by
  obtain ⟨⟨r, hread, hmethod, hpath, hparams, hheaders⟩, -, -⟩ :=
    @read_ofHttpUrl (ofHttpUrl ⟨.domain "h", "h", some 45000, 45000, "/a//"⟩ "//run" (.ofSecs 5)) 8192
      ⟨.domain "h", "h", some 45000, 45000, "/a//"⟩ "//run" (.ofSecs 5) rfl (by decide) (by decide) (by decide)
      "ñ&x=1 HTTP/1.1\r\nHost: g\r\n\r\nGET /?%+#\x00" (by decide +kernel)
      (Utf8.encode "GET /b HTTP/1.1\r\n\r\n")
  refine ⟨r, hread, hmethod, hpath, ?_, ?_⟩
  · unfold Request.param?
    rw [hparams]
    rfl
  · unfold Request.header?
    rw [hheaders]
    rfl

end OfHttpUrl

end Forwarder

end ReflectCalc
