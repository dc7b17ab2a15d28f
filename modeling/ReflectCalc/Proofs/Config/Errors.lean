import ReflectCalc.Config.Document
import ReflectCalc.Config.Validation
import ReflectCalc.Net.Machine
import ReflectCalc.Proofs.Url.Ascii
import ReflectCalc.Service.Forwarder

/-!
# What validation finds

A configuration is without errors exactly if a server can start with it: no machine takes one of
its addresses for ill-formed, a forwarder can be made to its backend, no count is zero, and its log
level has a name. Otherwise there is one error for each setting that cannot be used, in a fixed
order, and none of them hides another.

`Config.Usable` says for one setting what the program needs of it when it starts, in terms of the
functions that start it. Validation has checks of its own, and the one of the backend URL is not the
one of the forwarder: they look at different parts of the URL that has been read. The crux is
`HttpUrl.parse_or_urlError?`, by which the two accept the same texts and refuse the others for the
same cause. It holds over every reader of URLs that has the two laws of `LawfulUrlReader`: without
the one on ports, or the one on hosts, a check of the forwarder could fail that validation does not
make.

`Config.error?_cases` puts the checks of all settings into one form: either a setting can be used
and has no error, or it cannot, and its error is about it and reports what is the case. With
`Config.error?_congr`, by which the error depends on the value of that setting alone, it carries
over to the list of all errors in `Config.errors_tell_unusable`.
-/

namespace ReflectCalc

/-! ### Two checks of a URL -/

namespace HttpUrl

variable {url : Url} {host : Host} {hostText : Text} {port : Nat}

theorem ofUrl_of_scheme_ne (hscheme : url.scheme ≠ ("http" : Text)) :
    ofUrl url = .error .notHttp := by
  unfold ofUrl
  rw [if_pos hscheme]
  rfl

theorem ofUrl_of_host_eq_none (hscheme : url.scheme = ("http" : Text)) (hhost : url.host = none) :
    ofUrl url = .error .noHost := by
  unfold ofUrl
  rw [if_neg (not_not_intro hscheme), hhost]
  rfl

theorem ofUrl_of_parts (hscheme : url.scheme = ("http" : Text)) (hhost : url.host = some host)
    (hport : url.knownPort = some port) (htext : url.hostText = some hostText) :
    ofUrl url = .ok ⟨host, hostText, url.port, port, url.path⟩ := by
  unfold ofUrl
  rw [if_neg (not_not_intro hscheme), hhost, hport, htext]
  rfl

end HttpUrl

section Lawful

variable [UrlReader] [LawfulUrlReader]

/-- The forwarder's check and that of validation have the same outcome, and the same cause where
they refuse. -/
theorem HttpUrl.parse_or_urlError? (s : Setting) (t : Text) :
    (∃ url, HttpUrl.parse t = .ok url ∧ Config.urlError? s t = none) ∨
      ∃ cause, HttpUrl.parse t = .error cause ∧
        Config.urlError? s t = some (.badUrl s t cause) := by
  unfold HttpUrl.parse Config.urlError?
  cases hread : UrlReader.read t with
  | error reason => exact .inr ⟨.unreadable reason, rfl, rfl⟩
  | ok url =>
    by_cases hscheme : url.scheme = ("http" : Text)
    · obtain ⟨port, hport⟩ : ∃ port, url.knownPort = some port :=
        Option.isSome_iff_exists.1 (LawfulUrlReader.knownPort_of_http hread hscheme)
      have hpresent : url.hostText.isSome ↔ url.host.isSome :=
        LawfulUrlReader.hostText_iff_host hread
      cases hhost : url.host with
      | none =>
        -- The forwarder misses the host, and validation its text.
        have htext : url.hostText = none := by
          rw [hhost] at hpresent
          exact Option.not_isSome_iff_eq_none.1 fun h => nomatch hpresent.1 h
        right
        refine ⟨.noHost, HttpUrl.ofUrl_of_host_eq_none hscheme hhost, ?_⟩
        show (if url.scheme ≠ ("http" : Text) then _ else _) = _
        rw [if_neg (not_not_intro hscheme), if_pos htext]
      | some host =>
        -- Neither the check for a port nor the one for the text of the host can fail any more.
        obtain ⟨hostText, htext⟩ : ∃ hostText, url.hostText = some hostText := by
          apply Option.isSome_iff_exists.1
          rw [hpresent, hhost]
          rfl
        left
        refine ⟨_, HttpUrl.ofUrl_of_parts hscheme hhost hport htext, ?_⟩
        show (if url.scheme ≠ ("http" : Text) then _ else _) = _
        rw [if_neg (not_not_intro hscheme), htext, if_neg (Option.some_ne_none hostText)]
    · right
      exact ⟨.notHttp, HttpUrl.ofUrl_of_scheme_ne hscheme, if_pos hscheme⟩

/-- Validation accepts the URLs that a forwarder can be made to. -/
theorem Forwarder.ofUrl_or_urlError? (s : Setting) (t endpoint : Text) (timeout : Span) :
    ((∃ f, Forwarder.ofUrl t endpoint timeout = .ok f) ∧ Config.urlError? s t = none) ∨
      ∃ cause, Forwarder.ofUrl t endpoint timeout = .error (.invalidUrl t cause) ∧
        Config.urlError? s t = some (.badUrl s t cause) := by
  unfold Forwarder.ofUrl
  rcases HttpUrl.parse_or_urlError? s t with ⟨url, hparse, hnone⟩ | ⟨cause, hparse, hsome⟩
  · left
    rw [hparse]
    exact ⟨⟨_, rfl⟩, hnone⟩
  · right
    rw [hparse]
    exact ⟨cause, rfl, hsome⟩

end Lawful

/-! ### What is usable, and what is told -/

/-- The setting that an error is about. -/
def SettingError.setting : SettingError → Setting
  | badAddress s _ | badUrl s _ _ | zero s => s
  | unknownLevel _ => .logLevel

namespace Config

/-- What the program needs of the value of a setting when it starts. -/
def Usable [UrlReader] (m : Machine) (endpoint : Text) (timeout : Span) (c : Config) :
    Setting → Prop
  | .backendAddress => m.bind c.backendAddress ≠ .error (.bind c.backendAddress .badAddress)
  | .facadeAddress => m.bind c.facadeAddress ≠ .error (.bind c.facadeAddress .badAddress)
  | .backendUrl => ∃ f, Forwarder.ofUrl c.backendUrl endpoint timeout = .ok f
  | .backendLimit => c.backendLimit ≠ 0
  | .facadeLimit => c.facadeLimit ≠ 0
  | .readSecs => c.readSecs ≠ 0
  | .exchangeSecs => c.exchangeSecs ≠ 0
  | .maxHeaderBytes => c.maxHeaderBytes ≠ 0
  | .logLevel => ∃ name ∈ LogLevel.names, c.logLevel.sameIgnoringCase name = true
  | .allowedTypes | .drainSecs => True

/-- The value that an error tells is the one of its setting, and what starts the program refuses it
for the same cause. -/
def Reports [UrlReader] (m : Machine) (endpoint : Text) (timeout : Span) (c : Config) :
    SettingError → Prop
  | .badAddress s value =>
    c.node s = .text value ∧ m.bind value = .error (.bind value .badAddress)
  | .badUrl s value cause =>
    c.node s = .text value ∧
      Forwarder.ofUrl value endpoint timeout = .error (.invalidUrl value cause)
  | .zero s => c.node s = .int 0
  | .unknownLevel value => c.node .logLevel = .text value

/-! ### One setting -/

variable {c c' : Config} {m : Machine} {endpoint : Text} {timeout : Span} {s : Setting}
  {e : SettingError}

theorem addressError?_cases (m : Machine) (s : Setting) (t : Text) :
    m.bind t ≠ .error (.bind t .badAddress) ∧ addressError? s t = none ∨
      m.bind t = .error (.bind t .badAddress) ∧ addressError? s t = some (.badAddress s t) := by
  unfold addressError? Machine.bind
  cases SocketAddress.read? t with
  | none => exact .inr ⟨rfl, rfl⟩
  | some address =>
    -- The system may still refuse the address, but not as ill-formed.
    left
    refine ⟨?_, rfl⟩
    cases hbind : m.bindError? address <;> simp [hbind]

theorem countError?_cases (s : Setting) (n : UInt64) :
    n ≠ 0 ∧ countError? s n = none ∨ n = 0 ∧ countError? s n = some (.zero s) := by
  unfold countError?
  by_cases hn : n = 0
  · exact .inr ⟨hn, if_pos hn⟩
  · exact .inl ⟨hn, if_neg hn⟩

/-- The names are lower case, so a text is one of them up to case if it is one in lower case. -/
theorem isName_iff (t : Text) :
    LogLevel.isName t = true ↔ ∃ name ∈ LogLevel.names, t.sameIgnoringCase name = true := by
  have hlower : ∀ name ∈ LogLevel.names, name.lowerAscii = name := by decide
  unfold LogLevel.isName
  rw [List.contains_iff_mem]
  constructor
  · intro h
    refine ⟨_, h, ?_⟩
    rw [Text.sameIgnoringCase, hlower _ h, beq_self_eq_true]
  · rintro ⟨name, hname, h⟩
    rw [Text.sameIgnoringCase, hlower name hname] at h
    rw [eq_of_beq h]
    exact hname

section Lawful

variable [UrlReader] [LawfulUrlReader]

/-- A setting that can be used has no error. Any other one has an error, which is about it and which
reports what is the case. -/
theorem error?_cases (m : Machine) (endpoint : Text) (timeout : Span) (c : Config) (s : Setting) :
    c.Usable m endpoint timeout s ∧ c.error? s = none ∨
      ¬ c.Usable m endpoint timeout s ∧
        ∃ e, c.error? s = some e ∧ e.setting = s ∧ c.Reports m endpoint timeout e := by
  cases s with
  | backendAddress | facadeAddress =>
    apply (addressError?_cases m _ _).imp id
    rintro ⟨hbind, hsome⟩
    exact ⟨not_not_intro hbind, _, hsome, rfl, rfl, hbind⟩
  | backendUrl =>
    apply (Forwarder.ofUrl_or_urlError? .backendUrl c.backendUrl endpoint timeout).imp id
    rintro ⟨cause, herror, hsome⟩
    refine ⟨?_, _, hsome, rfl, rfl, herror⟩
    rintro ⟨f, hok⟩
    cases herror.symm.trans hok
  | backendLimit | facadeLimit | readSecs | exchangeSecs | maxHeaderBytes =>
    apply (countError?_cases _ _).imp id
    rintro ⟨hzero, hsome⟩
    refine ⟨not_not_intro hzero, _, hsome, rfl, ?_⟩
    show Toml.Node.int (UInt64.toNat _) = Toml.Node.int 0
    rw [hzero]
    rfl
  | logLevel =>
    by_cases hname : LogLevel.isName c.logLevel = true
    · exact .inl ⟨(isName_iff c.logLevel).1 hname, if_pos hname⟩
    · exact .inr ⟨hname ∘ (isName_iff c.logLevel).2, _, if_neg hname, rfl, rfl⟩
  | allowedTypes | drainSecs => exact .inl ⟨trivial, rfl⟩

theorem error?_eq_none_iff : c.error? s = none ↔ c.Usable m endpoint timeout s := by
  rcases error?_cases m endpoint timeout c s with ⟨husable, hnone⟩ | ⟨hnot, e, hsome, -⟩
  · exact iff_of_true hnone husable
  · rw [hsome]
    exact iff_of_false (Option.some_ne_none e) hnot

theorem setting_of_error? (h : c.error? s = some e) : e.setting = s := by
  -- What an error is about does not depend on how the program starts.
  rcases error?_cases .isolated [] (.ofSecs 0) c s with ⟨-, hnone⟩ | ⟨-, e', hsome, hsetting, -⟩
  · cases hnone.symm.trans h
  · cases hsome.symm.trans h
    exact hsetting

theorem reports_of_error? (h : c.error? s = some e) : c.Reports m endpoint timeout e := by
  rcases error?_cases m endpoint timeout c s with ⟨-, hnone⟩ | ⟨-, e', hsome, -, hreports⟩
  · cases hnone.symm.trans h
  · cases hsome.symm.trans h
    exact hreports

omit [LawfulUrlReader] in
/-- Settings that are not checked can always be used. -/
theorem error?_of_not_mem_checked (h : s ∉ Setting.checked) : c.error? s = none := by
  cases s with
  | allowedTypes | drainSecs => rfl
  | _ => exact absurd (by decide) h

omit [LawfulUrlReader] in
/-- The error of a setting depends on the value of that setting alone. -/
theorem error?_congr (h : c'.node s = c.node s) : c'.error? s = c.error? s := by
  have hcount : ∀ n n' : UInt64, Toml.Node.int n.toNat = Toml.Node.int n'.toNat → n = n' := by
    intro n n' h
    exact UInt64.toNat_inj.1 (Int.ofNat.inj (Toml.Node.int.inj h))
  cases s with
  | backendAddress | facadeAddress => exact congrArg (addressError? _) (Toml.Node.text.inj h)
  | backendUrl => exact congrArg (urlError? _) (Toml.Node.text.inj h)
  | backendLimit | facadeLimit | readSecs | exchangeSecs | maxHeaderBytes =>
    exact congrArg (countError? _) (hcount _ _ h)
  | logLevel =>
    have hlevel : c'.logLevel = c.logLevel := Toml.Node.text.inj h
    unfold error?
    rw [hlevel]
  | allowedTypes | drainSecs => rfl

instance (m : Machine) (endpoint : Text) (timeout : Span) (c : Config) (s : Setting) :
    Decidable (c.Usable m endpoint timeout s) :=
  decidable_of_iff (c.error? s = none) error?_eq_none_iff

/-! ### All settings -/

/-- The errors of one setting are found at that setting. -/
theorem error?_of_mem_errors (h : e ∈ c.errors) : c.error? e.setting = some e := by
  obtain ⟨s, -, he⟩ := List.mem_filterMap.1 h
  rw [setting_of_error? he]
  exact he

theorem errors_eq_nil_iff : c.errors = [] ↔ ∀ s, c.Usable m endpoint timeout s := by
  unfold errors
  rw [List.filterMap_eq_nil_iff]
  constructor
  · intro h s
    apply error?_eq_none_iff.1
    by_cases hs : s ∈ Setting.checked
    · exact h s hs
    · exact error?_of_not_mem_checked hs
  · intro h s _
    exact error?_eq_none_iff.2 (h s)

/-- There is one error for each setting that cannot be used. -/
theorem map_setting_errors (m : Machine) (endpoint : Text) (timeout : Span) (c : Config) :
    c.errors.map SettingError.setting =
      Setting.checked.filter fun s => ¬ c.Usable m endpoint timeout s := by
  have hone : ∀ s, (c.error? s).map SettingError.setting =
      Option.guard (fun s => decide (¬ c.Usable m endpoint timeout s)) s := by
    intro s
    rcases error?_cases m endpoint timeout c s with ⟨husable, hnone⟩ | ⟨hnot, e, hsome, hs, -⟩
    · simp [hnone, Option.guard, husable]
    · simp [hsome, Option.guard, hnot, hs]
  calc c.errors.map SettingError.setting
      = Setting.checked.filterMap fun s => (c.error? s).map SettingError.setting :=
        List.map_filterMap
    _ = Setting.checked.filterMap
          (Option.guard fun s => decide (¬ c.Usable m endpoint timeout s)) := by rw [funext hone]
    _ = Setting.checked.filter fun s => ¬ c.Usable m endpoint timeout s := by
        rw [List.filterMap_eq_filter]

/-- A change to the value of one setting leaves the errors of the others. -/
theorem filter_errors_of_node_eq (h : ∀ s' ≠ s, c'.node s' = c.node s') :
    (c'.errors.filter fun e => e.setting ≠ s) = c.errors.filter fun e => e.setting ≠ s := by
  unfold errors
  rw [List.filter_filterMap, List.filter_filterMap]
  refine congrArg (List.filterMap · Setting.checked) (funext fun s' => ?_)
  by_cases hs : s' = s
  · -- Both errors of the changed setting are left out.
    have hout : ∀ c : Config, (c.error? s').filter (fun e => e.setting ≠ s) = none := by
      intro c
      cases he : c.error? s' with
      | none => rfl
      | some e => simp [setting_of_error? he, hs]
    rw [hout c', hout c]
  · rw [error?_congr (h s' hs)]

/-- Mending one setting takes its error from the list and leaves the others. -/
theorem errors_of_mended (h : ∀ s' ≠ s, c'.node s' = c.node s')
    (husable : c'.Usable m endpoint timeout s) :
    c'.errors = c.errors.filter fun e => e.setting ≠ s := by
  rw [← filter_errors_of_node_eq h]
  symm
  rw [List.filter_eq_self]
  intro e he
  rw [decide_eq_true_iff]
  rintro rfl
  have hnone : c'.error? e.setting = none := error?_eq_none_iff.2 husable
  cases hnone.symm.trans (error?_of_mem_errors he)

/-- A configuration is without errors exactly if every setting can be used. Otherwise there is one
error for each setting that cannot, in the order given here, which tells what is the case; and
mending one setting takes its error from the list and leaves the others. -/
theorem errors_tell_unusable (m : Machine) (endpoint : Text) (timeout : Span) (c : Config) :
    (c.errors = [] ↔ ∀ s, c.Usable m endpoint timeout s) ∧
      c.errors.map SettingError.setting =
        ([.backendAddress, .facadeAddress, .backendUrl, .backendLimit, .facadeLimit, .readSecs,
          .exchangeSecs, .maxHeaderBytes, .logLevel].filter fun s =>
            ¬ c.Usable m endpoint timeout s) ∧
      (∀ e ∈ c.errors, c.Reports m endpoint timeout e) ∧
      ∀ (s : Setting) (c' : Config), (∀ s' ≠ s, c'.node s' = c.node s') →
        c'.Usable m endpoint timeout s →
        c'.errors = c.errors.filter fun e => e.setting ≠ s := by
  refine ⟨errors_eq_nil_iff, map_setting_errors m endpoint timeout c, ?_, ?_⟩
  · intro e he
    exact reports_of_error? (error?_of_mem_errors he)
  · intro s c' hframe husable
    exact errors_of_mended hframe husable

end Lawful

/-- A host beyond ASCII is usable if it is to the reader, which has to know its Punycode. -/
example :
    let _ : UrlReader := ⟨fun _ => .ok {
      scheme := "http"
      host := some (.domain "xn--bcher-kva.example")
      hostText := some "xn--bcher-kva.example"
      knownPort := some 80
      path := "/" }⟩
    ({ backendUrl := "http://bücher.example" } : Config).errors = [] := by
  decide +kernel

/-- A configuration with five errors. -/
def fiveWrong : Config where
  backendAddress := "localhost"
  backendUrl := "https://backend:45000"
  facadeLimit := 0
  exchangeSecs := 0
  logLevel := "loud"

theorem errors_tell_unusable_fiveWrong :
    fiveWrong.errors.map SettingError.setting =
        [.backendAddress, .backendUrl, .facadeLimit, .exchangeSecs, .logLevel] ∧
      ({ fiveWrong with facadeLimit := 1 } : Config).errors =
        fiveWrong.errors.filter fun e => e.setting ≠ .facadeLimit := by
  constructor
  · decide +kernel
  · apply (errors_tell_unusable .isolated "/compreflex" (.ofSecs 15) fiveWrong).2.2.2
    · intro s hs
      cases s with
      | facadeLimit => exact absurd rfl hs
      | _ => rfl
    · show (1 : UInt64) ≠ 0
      decide

end Config

end ReflectCalc
