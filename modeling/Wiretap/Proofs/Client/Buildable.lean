import Wiretap.Client.Building
import Wiretap.Config.Loading
import Wiretap.Proofs.Url.Hosted

/-!
# Configurations that can be built

A proxy is looked at twice: when its configuration is checked, and when the pool is built.
The check asks for an address, the pool for an address with a host, and it tries once
more with a scheme in front.  Where the two answers differ, a configuration is let
through that no client can be built from.

* `Config.Admitted` lists the ways in which a configuration is let through.
* `Config.Proxy.Hostless` describes the proxies of which the two answers differ.
* `Client.ofConfig_of_admitted` says that nothing else stands between such a configuration
  and its client, and that no address of a scheme with hosts is in the way.
* `Client.admitted_unbuildable` is a configuration file that gets lost in between.
-/

namespace Wiretap
namespace Config

/-- The ways in which a configuration is let through. -/
inductive Admitted (config : Config) : Prop where
  /-- It has been checked. -/
  | checked (h : config.check = .ok config)
  /-- It has been read from the text of a file. -/
  | parsed (text : String) (h : parse text = .ok config)
  /-- It has been loaded from a file. -/
  | loaded (disk : Disk) (path : String) (h : load disk path = .ok config)

theorem check_eq_ok_iff {config other : Config} :
    config.check = .ok other ↔ config.problems = [] ∧ config = other := by
  unfold check
  split
  next hEmpty => simp [List.isEmpty_iff.mp hEmpty]
  next hSome => simp [mt List.isEmpty_iff.mpr hSome]

/-- What is read from a text has been described there and has no problems. -/
theorem parse_eq_ok_iff {text : String} {config : Config} :
    parse text = .ok config ↔
      (Toml.ofString? text).bind ofToml? = some config ∧ config.problems = [] := by
  unfold parse
  cases (Toml.ofString? text).bind ofToml? with
  | none => simp
  | some read =>
      simp only [check_eq_ok_iff, Option.some.injEq]
      constructor
      · rintro ⟨hNone, rfl⟩
        exact ⟨rfl, hNone⟩
      · rintro ⟨rfl, hNone⟩
        exact ⟨hNone, rfl⟩

theorem problems_of_load {disk : Disk} {path : String} {config : Config}
    (h : load disk path = .ok config) : config.problems = [] := by
  unfold load at h
  split at h
  · cases h
  · split at h
    · exact (parse_eq_ok_iff.mp h).2
    · cases h

/-- Every way goes through the check. -/
theorem admitted_iff {config : Config} : config.Admitted ↔ config.problems = [] := by
  constructor
  · intro h
    cases h with
    | checked h => exact (check_eq_ok_iff.mp h).1
    | parsed _ h => exact (parse_eq_ok_iff.mp h).2
    | loaded _ _ h => exact problems_of_load h
  · exact fun h => .checked (check_eq_ok_iff.mpr ⟨h, rfl⟩)

/-- All that the check asks of a proxy is an address. -/
theorem proxyProblems_address_iff {raw : String} :
    proxyProblems (.address raw) = [] ↔ ∃ url, Url.parse raw = .ok url := by
  unfold proxyProblems isAddress
  cases hUrl : Url.parse raw <;> simp [hUrl]

theorem proxyProblems_of_admitted {config : Config} (h : config.Admitted) :
    proxyProblems config.transport.proxy = [] := by
  have hNone := admitted_iff.mp h
  simp only [problems, List.append_eq_nil_iff] at hNone
  exact hNone.1.1.1.2

namespace Proxy

/-- The proxies of which the check and the pool think differently: an address without a host
that cannot be read with the scheme of the protocol in front either. -/
def Hostless : Proxy → Prop
  | .address raw =>
    ∃ url, Url.parse raw = .ok url ∧ url.namesHost = false ∧
      ∀ other, Url.parse ("http://" ++ raw) ≠ .ok other
  | _ => False

/-- Behind the scheme of the protocol, every address names a host. -/
theorem isUsableWithScheme_iff {raw : String} :
    isUsableWithScheme raw = true ↔ ∃ url, Url.parse ("http://" ++ raw) = .ok url := by
  obtain ⟨rest, hRead⟩ := Url.parse_behind_http raw
  unfold isUsableWithScheme
  split
  next url hParse =>
    have hHost : url.namesHost = true :=
      Url.namesHost_of_readBehindScheme (hRead.symm.trans hParse) (by decide)
    simp [hHost, hParse]
  next fault hParse => simp [hParse]

/-- A proxy without problems is of use unless it is hostless. -/
theorem isUsable_iff {proxy : Proxy} (h : proxyProblems proxy = []) :
    proxy.isUsable = true ↔ ¬ proxy.Hostless := by
  cases proxy with
  | environment => simp [isUsable, Hostless]
  | direct => simp [isUsable, Hostless]
  | address raw =>
      obtain ⟨url, hUrl⟩ := proxyProblems_address_iff.mp h
      cases hHost : url.namesHost with
      | true => simp [isUsable, isUsableAddress, Hostless, hUrl, hHost]
      | false => simp [isUsable, isUsableAddress, Hostless, hUrl, hHost, isUsableWithScheme_iff]

/-- An address of a scheme with hosts is not hostless. -/
theorem not_hostless_of_isHostScheme {raw : String} {url : Url} (hUrl : Url.parse raw = .ok url)
    (hScheme : Url.isHostScheme url.scheme = true) : ¬ (Proxy.address raw).Hostless := by
  rintro ⟨other, hOther, hHost, -⟩
  obtain rfl : url = other := Except.ok.inj (hUrl.symm.trans hOther)
  rw [Url.namesHost_of_parse hUrl hScheme] at hHost
  cases hHost

end Proxy
end Config

namespace Client

/-- A transport can be built if its proxy is of use. -/
theorem ofConfig_transport_of_usable {config : Config.Transport} (h : config.proxy.isUsable = true)
    (timeouts : Config.Timeouts) (session : Session) :
    ∃ transport next, Transport.ofConfig config timeouts session = .ok (transport, next) := by
  have hPool (jar) : Pool.build? config timeouts jar = .ok ⟨config, timeouts, jar⟩ :=
    Pool.build?_eq_ok_iff.mpr ⟨h, rfl⟩
  unfold Transport.ofConfig
  simp only [hPool]
  split <;> exact ⟨_, _, rfl⟩

theorem ofConfig_transport_of_unusable {config : Config.Transport}
    (h : config.proxy.isUsable = false) (timeouts : Config.Timeouts) (session : Session) :
    Transport.ofConfig config timeouts session =
      .error (.unbuildable (Pool.proxyReason config.proxy)) := by
  have hPool (jar) : Pool.build? config timeouts jar =
      .error (.unbuildable (Pool.proxyReason config.proxy)) := by
    simp [Pool.build?, h]
  unfold Transport.ofConfig
  simp only [hPool]
  split <;> rfl

theorem ofConfig_of_usable {config : Config} (h : config.transport.proxy.isUsable = true)
    (session : Session) : ∃ client next, ofConfig config session = .ok (client, next) := by
  obtain ⟨transport, next, hTransport⟩ :=
    ofConfig_transport_of_usable h config.timeouts session
  rw [ofConfig, hTransport]
  exact ⟨_, _, rfl⟩

theorem ofConfig_of_unusable {config : Config} (h : config.transport.proxy.isUsable = false)
    (session : Session) :
    ofConfig config session =
      .error (.unbuildable (Pool.proxyReason config.transport.proxy)) := by
  rw [ofConfig, ofConfig_transport_of_unusable h]
  rfl

/-- Whatever else it says, a configuration that has been let through yields a client unless its
proxy is hostless; then it is the proxy that is blamed.  An address of a scheme with hosts
never is. -/
theorem ofConfig_of_admitted {config : Config} (h : config.Admitted) (session : Session) :
    (¬ config.transport.proxy.Hostless →
      ∃ client next, ofConfig config session = .ok (client, next)) ∧
    (config.transport.proxy.Hostless →
      ofConfig config session =
        .error (.unbuildable (Pool.proxyReason config.transport.proxy))) ∧
    ∀ raw url, config.transport.proxy = .address raw → Url.parse raw = .ok url →
      Url.isHostScheme url.scheme = true → ¬ config.transport.proxy.Hostless := by
  have hUsable := Config.Proxy.isUsable_iff (Config.proxyProblems_of_admitted h)
  refine ⟨fun hHosted => ofConfig_of_usable (hUsable.mpr hHosted) session, ?_, ?_⟩
  · intro hHostless
    refine ofConfig_of_unusable ?_ session
    exact Bool.eq_false_iff.mpr fun hYes => hUsable.mp hYes hHostless
  · intro raw url hProxy hUrl hScheme
    rw [hProxy]
    exact Config.Proxy.not_hostless_of_isHostScheme hUrl hScheme

/-- The configuration with a proxy and nothing else. -/
def configWithProxy (raw : String) : Config :=
  { Config.standard with transport := { Config.Transport.standard with proxy := .address raw } }

/-- A file with a proxy of an unknown scheme, but with a host, yields a client. -/
theorem ofConfig_of_admitted_socks :
    Config.parse "[transport]\nproxy = \"socks5://proxy\"\n" =
        .ok (configWithProxy "socks5://proxy") ∧
      ∃ client next, ofConfig (configWithProxy "socks5://proxy")
        (.onDisk (.ofHome [])) = .ok (client, next) := by
  have hParse : Config.parse "[transport]\nproxy = \"socks5://proxy\"\n" =
      .ok (configWithProxy "socks5://proxy") :=
    Config.parse_eq_ok_iff.mpr ⟨by decide +kernel, by decide +kernel⟩
  refine ⟨hParse, (ofConfig_of_admitted (.parsed _ hParse) _).1 ?_⟩
  rintro ⟨url, hUrl, hHost, -⟩
  have hRead : Url.parse "socks5://proxy" =
      .ok ⟨"socks5", [], none, some (.domain "proxy"), none, .segments [], none, none⟩ := by
    decide +kernel
  obtain rfl := Except.ok.inj (hRead.symm.trans hUrl)
  cases hHost

/-- What follows the scheme is no port: neither reading of this address leads to a host. -/
theorem hostless_data : (Config.Proxy.address "data:foo").Hostless := by
  refine ⟨⟨"data", [], none, none, none, .rootless "foo".toList, none, none⟩,
    by decide +kernel, rfl, ?_⟩
  intro other hOther
  have hFault : Url.parse ("http://" ++ "data:foo") = .error .invalidPort := by decide +kernel
  rw [hFault] at hOther
  cases hOther

/-- A file whose proxy is an address without a host is read without complaint, but no client can
be built from it. -/
theorem admitted_unbuildable :
    Config.parse "[transport]\nproxy = \"data:foo\"\n" = .ok (configWithProxy "data:foo") ∧
      ofConfig (configWithProxy "data:foo") (.onDisk (.ofHome [])) =
        .error (.unbuildable "invalid proxy 'data:foo': builder error") := by
  have hNone : (configWithProxy "data:foo").problems = [] := by decide +kernel
  refine ⟨Config.parse_eq_ok_iff.mpr ⟨by decide +kernel, hNone⟩, ?_⟩
  have hUsable := Config.Proxy.isUsable_iff
    (Config.proxyProblems_of_admitted (Config.admitted_iff.mpr hNone))
  rw [ofConfig_of_unusable (Bool.eq_false_iff.mpr fun hYes => hUsable.mp hYes hostless_data)]
  rfl

end Client
end Wiretap
