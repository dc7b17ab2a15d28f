import ReflectCalc.Config.Source
import ReflectCalc.Proofs.Config.Errors
import ReflectCalc.Proofs.Net.Listener
import ReflectCalc.Service.Startup

/-!
# Starting with a checked configuration

A configuration without errors starts a server wherever its address can be bound, with one
exception: validation asks of the number of connections only that it is not zero, and a listener
cannot count more than `Listener.maxSlots` of them. With a larger number the program crashes. This
holds over any lawful reader of URLs.

* `Server.start_eq_listen` is the crux: the service of such a configuration can always be made, so
  what is left of starting is to open the listener;
* `Listener.tryAccept_of_open?` — a listener that has a slot at all serves the first client that
  comes;
* `Server.starts_iff_limit_le` is the main result, the exact condition;
* `Server.checked_document_crashes` is a document that is accepted and does not start.
-/

namespace ReflectCalc

variable {c : Config} {m : Machine} {role : Role} {address : SocketAddress} {limit : Nat}
  {l : Listener} {n : UInt64}

/-! ### What validation says of the number of connections -/

namespace Config

/-- The setting for the number of connections that a role serves at a time. -/
def limitSetting : Role → Setting
  | .backend => .backendLimit
  | .facade => .facadeLimit

/-- The configuration with another number of connections for a role. -/
def withLimit (c : Config) (n : UInt64) : Role → Config
  | .backend => { c with backendLimit := n }
  | .facade => { c with facadeLimit := n }

theorem limit_withLimit (c : Config) (n : UInt64) (role : Role) :
    (c.withLimit n role).limit role = n := by
  cases role with
  | backend => rfl
  | facade => rfl

theorem node_withLimit {s : Setting} (hs : s ≠ limitSetting role) :
    (c.withLimit n role).node s = c.node s := by
  cases role with
  | backend =>
    cases s with
    | backendLimit => exact absurd rfl hs
    | _ => rfl
  | facade =>
    cases s with
    | facadeLimit => exact absurd rfl hs
    | _ => rfl

theorem usable_limitSetting_iff [UrlReader] {endpoint : Text} {timeout : Span} :
    c.Usable m endpoint timeout (limitSetting role) ↔ c.limit role ≠ 0 := by
  cases role with
  | backend => exact Iff.rfl
  | facade => exact Iff.rfl

section Lawful

variable [UrlReader] [LawfulUrlReader]

theorem limit_ne_zero (hchecked : c.errors = []) (role : Role) : c.limit role ≠ 0 := by
  -- what is usable here does not depend on how the program starts
  have husable : c.Usable .isolated [] (.ofSecs 0) (limitSetting role) :=
    errors_eq_nil_iff.1 hchecked (limitSetting role)
  exact usable_limitSetting_iff.1 husable

/-- Every number of connections is accepted but zero. -/
theorem errors_withLimit_eq_nil_iff (hchecked : c.errors = []) :
    (c.withLimit n role).errors = [] ↔ n ≠ 0 := by
  constructor
  · intro h
    rw [← limit_withLimit c n role]
    exact limit_ne_zero h role
  · intro hn
    have husable : (c.withLimit n role).Usable .isolated [] (.ofSecs 0) (limitSetting role) := by
      rw [usable_limitSetting_iff, limit_withLimit]
      exact hn
    rw [errors_of_mended (fun s hs => node_withLimit hs) husable, hchecked]
    rfl

end Lawful

end Config

/-! ### Making the service and the listener -/

/-- The service of a configuration without errors can be made. -/
theorem Service.exists_ofConfig [UrlReader] [LawfulUrlReader] (hchecked : c.errors = []) (role : Role) :
    ∃ service, Service.ofConfig c role = .ok service := by
  cases role with
  | backend => exact ⟨_, rfl⟩
  | facade =>
    have husable : c.Usable .isolated Backend.path c.exchangeTimeout .backendUrl :=
      Config.errors_eq_nil_iff.1 hchecked .backendUrl
    obtain ⟨f, hf⟩ := husable
    unfold Service.ofConfig
    rw [hf]
    exact ⟨.facade f, rfl⟩

namespace Listener

theorem exists_open?_iff : (∃ l, open? limit = some l) ↔ limit ≤ maxSlots := by
  unfold open?
  split
  · next hle => exact iff_of_true ⟨_, rfl⟩ hle
  · next hgt => exact iff_of_false (fun h => nomatch h) hgt

/-- The first client that comes to a listener with a slot is accepted. -/
theorem tryAccept_of_open? (hopen : open? limit = some l) (hpos : 0 < limit) :
    (l.step .arrive).tryAccept.1 = true := by
  have hsound : Sound limit [] (l.step .arrive) := (sound_of_open? hopen).arrive
  have hnext : ((l.step .arrive).step .takeSlot).next? = some 0 := by
    obtain rfl := eq_of_open? hopen
    exact hsound.next?_takeSlot rfl hpos rfl
  simp only [tryAccept, hnext]

end Listener

namespace Server

/-- **What is left of starting is to open the listener**, when the configuration is without errors
and the address has been bound. -/
theorem start_eq_listen [UrlReader] [LawfulUrlReader] (hchecked : c.errors = [])
    (hbind : m.bind (c.address role) = .ok address) :
    ∃ service, start m c role = listen service address (c.limit role).toNat := by
  obtain ⟨service, hservice⟩ := Service.exists_ofConfig hchecked role
  refine ⟨service, ?_⟩
  simp only [start, hservice, hbind]

theorem listen_eq_ok {service : Service} {server : Server}
    (h : listen service address limit = .ok server) :
    server.address = address ∧ Listener.open? limit = some server.listener := by
  unfold listen at h
  split at h
  · next l hopen =>
    cases h
    exact ⟨rfl, hopen⟩
  · cases h

theorem exists_listen_iff {service : Service} :
    (∃ server, listen service address limit = .ok server) ↔ limit ≤ Listener.maxSlots := by
  rw [← Listener.exists_open?_iff]
  constructor
  · rintro ⟨server, hserver⟩
    exact ⟨_, (listen_eq_ok hserver).2⟩
  · rintro ⟨l, hopen⟩
    simp only [listen, hopen]
    exact ⟨_, rfl⟩

theorem listen_of_lt {service : Service} (h : Listener.maxSlots < limit) :
    listen service address limit = .error .tooManySlots := by
  have hnone : Listener.open? limit = none := if_neg (Nat.not_le_of_lt h)
  simp only [listen, hnone]

/-! ### Main result -/

/-- **A server with a checked configuration starts just if its listener can count the connections.**
If the configuration is without errors and the address of the role can be bound:

* there is a server just if the number of connections is at most `Listener.maxSlots`;
* it listens at this address, as many slots are free as are configured, which is one at least, and
  the first client that comes is accepted;
* with a larger number the program crashes, and nothing else keeps it from starting;
* validation does not see the difference: for the number of connections it accepts all that is not
  zero. -/
theorem starts_iff_limit_le [UrlReader] [LawfulUrlReader] {c : Config} (hchecked : c.errors = [])
    {m : Machine} {role : Role} {address : SocketAddress} (hbind : m.bind (c.address role) = .ok address) :
    ((∃ server, start m c role = .ok server) ↔ (c.limit role).toNat ≤ Listener.maxSlots) ∧
    (∀ server, start m c role = .ok server →
      server.address = address ∧ server.listener.available = (c.limit role).toNat ∧
      0 < server.listener.available ∧ (server.listener.step .arrive).tryAccept.1 = true) ∧
    (Listener.maxSlots < (c.limit role).toNat → start m c role = .error .tooManySlots) ∧
    ∀ n, (c.withLimit n role).errors = [] ↔ n ≠ 0 := by
  obtain ⟨service, hstart⟩ := start_eq_listen hchecked hbind
  have hpos : 0 < (c.limit role).toNat := by
    apply Nat.pos_of_ne_zero
    intro hzero
    exact Config.limit_ne_zero hchecked role (UInt64.toNat_inj.1 hzero)
  rw [hstart]
  refine ⟨exists_listen_iff, ?_, listen_of_lt, fun n => Config.errors_withLimit_eq_nil_iff hchecked⟩
  intro server hserver
  obtain ⟨haddress, hopen⟩ := listen_eq_ok hserver
  have havailable : server.listener.available = (c.limit role).toNat := by
    rw [Listener.eq_of_open? hopen]
  exact ⟨haddress, havailable, havailable ▸ hpos, Listener.tryAccept_of_open? hopen hpos⟩

/-- The largest number of connections that can be counted, and the next one. -/
theorem starts_iff_limit_le_maxSlots :
    let largest := Config.standard.withLimit 2305843009213693951 .facade
    let next := Config.standard.withLimit 2305843009213693952 .facade
    largest.errors = [] ∧ next.errors = [] ∧
      (∃ server, start .isolated largest .facade = .ok server ∧
        server.listener.available = 2305843009213693951 ∧
        (server.listener.step .arrive).tryAccept.1 = true) ∧
      start .isolated next .facade = .error .tooManySlots := by
  intro largest next
  have hbind : ∀ n, Machine.isolated.bind ((Config.standard.withLimit n .facade).address .facade) =
      .ok (.v4 ⟨[0, 0, 0, 0]⟩ 35000) := by
    intro n
    rfl
  have hlargest : largest.errors = [] := by decide +kernel
  have hnext : next.errors = [] := by decide +kernel
  obtain ⟨hstarts, hserver, -⟩ := starts_iff_limit_le hlargest (hbind _)
  obtain ⟨-, -, hcrash, -⟩ := starts_iff_limit_le hnext (hbind _)
  obtain ⟨server, hok⟩ := hstarts.2 (by decide)
  obtain ⟨-, havailable, -, haccepts⟩ := hserver server hok
  exact ⟨hlargest, hnext, ⟨server, hok, havailable, haccepts⟩, hcrash (by decide)⟩

/-- **A document that is accepted and does not start.** It asks for one connection more than can be
counted. -/
theorem checked_document_crashes :
    ∃ c, Config.ofDocument "[backend]\nmax_connections = 2305843009213693952\n" = .ok c ∧
      c.errors = [] ∧ (∃ address, Machine.isolated.bind (c.address .backend) = .ok address) ∧
      start .isolated c .backend = .error .tooManySlots := by
  let c := Config.standard.withLimit 2305843009213693952 .backend
  have hread : Config.read? "[backend]\nmax_connections = 2305843009213693952\n" = some c := by
    decide +kernel
  have hchecked : c.errors = [] := by decide +kernel
  have hbind : Machine.isolated.bind (c.address .backend) = .ok (.v4 ⟨[0, 0, 0, 0]⟩ 45000) := by
    rfl
  refine ⟨c, ?_, hchecked, ⟨_, hbind⟩, ?_⟩
  · simp only [Config.ofDocument, hread, Config.checked, hchecked]
  · obtain ⟨service, hstart⟩ := start_eq_listen hchecked hbind
    rw [hstart]
    exact listen_of_lt (by decide)

end Server

end ReflectCalc
