import Mathlib.Data.List.Induction
import Mathlib.Data.List.Nodup
import Wiretap.Proofs.Client.Buildable
import Wiretap.Proofs.Client.Fitting

/-!
# The order of configured headers

The headers of a configuration come without an order of their own.  They are taken one
by one, and each takes the place of what has its name up to case, so that the order
counts exactly if two of them have the same name up to case.  The name of the program
is set at the end and settles the matter where it comes up.

* `Config.keptHeaders` are the headers that nothing else takes the place of.
* `Client.configure_eq` says that the headers of a configuration decide on the headers of
  the client and on nothing else.
* `Client.ofConfig_order` says when their order counts.
* `Client.ofConfig_depends_on_order` is a configuration without problems whose clients send
  one value or another.
-/

namespace Wiretap

/-- The name of a header without regard to case. -/
def headerKey (header : String × String) : String := Ascii.lower header.1

namespace Config

/-- The names of the program that are set after the headers, in order. -/
def agents (config : Config) : List String :=
  config.userAgent.toList ++ if config.mode = .normal then [] else [Client.chromeAgent]

/-- Whether a header is the name of the program. -/
def isAgent (header : String × String) : Bool :=
  Ascii.sameIgnoringCase header.1 userAgentName

/-- The headers that nothing else takes the place of, unless they do so among themselves. -/
def keptHeaders (config : Config) : List (String × String) :=
  if config.agents = [] then config.headers else config.headers.filter fun header => !isAgent header

end Config

namespace Client

/-- Headers taken in order, each in the place of what has its name. -/
def settle (headers : List (String × String)) : List (String × String) :=
  headers.foldl (fun settled header => withHeader settled header.1 header.2) []

theorem settle_append_singleton (headers : List (String × String)) (header : String × String) :
    settle (headers ++ [header]) = withHeader (settle headers) header.1 header.2 := by
  rw [settle, List.foldl_append]
  rfl

theorem withHeader_eq (headers : List (String × String)) (header : String × String) :
    withHeader headers header.1 header.2 =
      (headers.filter fun other => headerKey other != headerKey header) ++ [header] := rfl

/-- No name stays twice. -/
theorem nodup_settle (headers : List (String × String)) :
    ((settle headers).map headerKey).Nodup := by
  induction headers using List.reverseRecOn with
  | nil => exact List.nodup_nil
  | append_singleton front header ih =>
      rw [settle_append_singleton, withHeader_eq, List.map_append, List.nodup_append]
      refine ⟨(List.filter_sublist.map headerKey).nodup ih, List.nodup_singleton _, ?_⟩
      intro key hKey other hOther
      obtain ⟨kept, hKept, rfl⟩ := List.mem_map.mp hKey
      rw [List.map_singleton, List.mem_singleton] at hOther
      rw [hOther]
      simpa using (List.mem_filter.mp hKept).2

/-- Where no name comes twice, nothing takes the place of anything. -/
theorem settle_of_nodup {headers : List (String × String)}
    (h : (headers.map headerKey).Nodup) : settle headers = headers := by
  induction headers using List.reverseRecOn with
  | nil => rfl
  | append_singleton front header ih =>
      rw [List.map_append, List.nodup_append] at h
      obtain ⟨hFront, -, hApart⟩ := h
      rw [settle_append_singleton, withHeader_eq, ih hFront, List.filter_eq_self.mpr]
      intro other hOther
      have hNe := hApart _ (List.mem_map_of_mem hOther) _ (List.mem_singleton.mpr rfl)
      simpa using hNe

/-- What passes a test on the key settles as if nothing else had been there. -/
theorem filter_settle (keep : String → Bool) (headers : List (String × String)) :
    (settle headers).filter (fun header => keep (headerKey header)) =
      settle (headers.filter fun header => keep (headerKey header)) := by
  induction headers using List.reverseRecOn with
  | nil => rfl
  | append_singleton front header ih =>
      rw [settle_append_singleton, withHeader_eq, List.filter_append, List.filter_append]
      rw [List.filter_comm, ih]
      cases hKeep : keep (headerKey header) with
      | true =>
          have hAll : [header].filter (fun header => keep (headerKey header)) = [header] := by
            simp [hKeep]
          rw [hAll, settle_append_singleton, withHeader_eq]
      | false =>
          -- A header that fails the test only took the place of others that fail it.
          have hNone : [header].filter (fun header => keep (headerKey header)) = [] := by
            simp [hKeep]
          rw [hNone, List.append_nil, List.append_nil, List.filter_eq_self, ← ih]
          intro other hOther
          rw [bne_iff_ne]
          intro hSame
          have hKept := (List.mem_filter.mp hOther).2
          rw [hSame, hKeep] at hKept
          cases hKept

end Client

namespace Config

/-- Everything that is set as a header, in order. -/
def sequence (config : Config) : List (String × String) :=
  config.headers ++ config.agents.map fun value => (userAgentName, value)

/-- What is set besides the headers that are kept is the name of the program, and of these names
the last one stays. -/
theorem settle_sequence (config : Config) :
    Client.settle config.sequence =
      Client.settle config.keptHeaders ++
        config.agents.getLast?.toList.map fun value => (userAgentName, value) := by
  unfold sequence keptHeaders
  cases hAgents : config.agents using List.reverseRecOn with
  | nil => simp
  | append_singleton front last =>
      have hOthers : (front.map fun value => (userAgentName, value)).filter
          (fun header => headerKey header != headerKey (userAgentName, last)) = [] := by
        simp [headerKey]
      rw [if_neg (by simp), List.map_append, List.map_singleton, ← List.append_assoc,
        Client.settle_append_singleton, Client.withHeader_eq,
        Client.filter_settle (fun key => key != headerKey (userAgentName, last)),
        List.filter_append, hOthers, List.append_nil, List.getLast?_concat]
      rfl

end Config

namespace Client

/-- A header that is taken last stays, unless it is the name of the program and that is set. -/
theorem mem_settle_sequence {config : Config} {header : String × String}
    (h : header ∈ config.keptHeaders) (front : List (String × String)) :
    header ∈ settle { config with headers := front ++ [header] }.sequence := by
  have hKept : ({ config with headers := front ++ [header] } : Config).keptHeaders =
      ({ config with headers := front } : Config).keptHeaders ++ [header] := by
    unfold Config.keptHeaders at h ⊢
    change header ∈ (if config.agents = [] then _ else _) at h
    change (if config.agents = [] then _ else _) = (if config.agents = [] then _ else _) ++ _
    split
    next => rfl
    next hSet =>
      rw [if_neg hSet] at h
      have hAll : [header].filter (fun header => !Config.isAgent header) = [header] := by
        rw [List.filter_eq_self]
        intro other hOther
        rw [List.mem_singleton.mp hOther]
        exact (List.mem_filter.mp h).2
      rw [List.filter_append, hAll]
  rw [Config.settle_sequence, hKept, settle_append_singleton, withHeader_eq]
  simp

/-- The client with other headers. -/
def dressed (client : Client) (headers : List (String × String)) : Client :=
  { client with headers := headers }

section Dressed

variable (client : Client) (headers : List (String × String)) (session : Session)

theorem arm_dressed :
    (client.dressed headers).arm session =
      ((client.arm session).1.dressed headers, (client.arm session).2) := by
  cases hArmed : client.isArmed with
  | true =>
      rw [client.arm_of_isArmed session hArmed]
      exact (client.dressed headers).arm_of_isArmed session hArmed
  | false =>
      rw [client.arm_of_not_isArmed session hArmed]
      exact (client.dressed headers).arm_of_not_isArmed session hArmed

theorem editOptions_dressed (change : Dump.Options → Dump.Options) :
    (client.dressed headers).editOptions change session =
      ((client.editOptions change session).1.dressed headers,
        (client.editOptions change session).2) :=
  client.arm_dressed headers _

theorem startDump_dressed (dump : Config.Dump) :
    (client.dressed headers).startDump dump session =
      ((client.startDump dump session).1.dressed headers, (client.startDump dump session).2) := by
  unfold startDump
  split
  · rfl
  · simp only [dumpOnly, dumpTo, dumpAsync, editOptions_dressed]
    split <;> rfl

/-- A mode sets the name of the program and no other header. -/
theorem enter_dressed (mode : Config.Mode) :
    (client.dressed headers).enter mode session =
      ((client.enter mode session).1.dressed
          (if mode = .normal then headers
            else withHeader headers Config.userAgentName chromeAgent),
        (client.enter mode session).2) := by
  have hArm := (client.treat [.decode]).arm_dressed headers session
  have hDebug : (client.dressed headers).debugMode session =
      ((client.debugMode session).1.dressed (withHeader headers Config.userAgentName chromeAgent),
        (client.debugMode session).2) := by
    unfold debugMode
    rw [show (client.dressed headers).treat [.decode] =
      (client.treat [.decode]).dressed headers from rfl, hArm]
    rfl
  cases mode with
  | normal => rfl
  | debug => exact hDebug
  | test =>
      show (client.dressed headers).testMode session = _
      unfold testMode
      rw [hDebug]
      rfl

/-- The sections of a configuration that come after the headers. -/
def equip (client : Client) (config : Config) (session : Session) : Client × Session :=
  let client := client.treat (changesOf config.response)
  let (client, session) :=
    if config.dump.enabled then client.startDump config.dump session else (client, session)
  client.enter config.mode session

theorem equip_dressed (config : Config) :
    (client.dressed headers).equip config session =
      ((client.equip config session).1.dressed
          (if config.mode = .normal then headers
            else withHeader headers Config.userAgentName chromeAgent),
        (client.equip config session).2) := by
  unfold equip
  rw [show (client.dressed headers).treat (changesOf config.response) =
    (client.treat (changesOf config.response)).dressed headers from rfl]
  cases config.dump.enabled with
  | true =>
      simp only [if_true, startDump_dressed]
      exact enter_dressed _ headers _ config.mode
  | false => exact enter_dressed _ headers _ config.mode

/-- The headers of a configuration decide on the headers of the client and on nothing else. -/
theorem configure_eq (config : Config) (hBare : client.headers = []) :
    client.configure config session =
      ((client.equip config session).1.dressed (settle config.sequence),
        (client.equip config session).2) := by
  have hSet : ((config.userAgent.map (client.setHeaders config.headers).setUserAgent).getD
      (client.setHeaders config.headers)) =
        client.dressed (settle (config.headers ++
          config.userAgent.toList.map fun value => (Config.userAgentName, value))) := by
    rw [client.setHeaders_eq, hBare]
    cases config.userAgent with
    | none => simp [settle, dressed]
    | some value => simp [settle, dressed, setUserAgent, setHeader]
  have hEquip : client.configure config session =
      ((config.userAgent.map (client.setHeaders config.headers).setUserAgent).getD
        (client.setHeaders config.headers)).equip config session := rfl
  rw [hEquip, hSet, equip_dressed]
  congr 2
  unfold Config.sequence Config.agents
  split
  next => rw [List.append_nil]
  next => rw [List.map_append, ← List.append_assoc, List.map_singleton, settle_append_singleton]

end Dressed

/-- The headers of a configuration decide on the headers of its client and on nothing else. -/
theorem ofConfig_eq (config : Config) (session : Session) (headers : List (String × String)) :
    ofConfig { config with headers := headers } session =
      (ofConfig config session).map fun built =>
        (built.1.dressed (settle { config with headers := headers }.sequence), built.2) := by
  unfold ofConfig
  cases Transport.ofConfig config.transport config.timeouts session with
  | error failure => rfl
  | ok built =>
      show Except.ok _ = Except.ok _
      rw [configure_eq _ _ _ rfl, configure_eq _ _ config rfl]
      rfl

theorem headerLe_iff {left right : String × String} :
    headerLe left right = true ↔ left.1 < right.1 ∨ left.1 = right.1 ∧ left.2 ≤ right.2 := by
  simp [headerLe]

theorem headerLe_trans {a b c : String × String} (hab : headerLe a b = true)
    (hbc : headerLe b c = true) : headerLe a c = true := by
  rw [headerLe_iff] at *
  rcases hab with hab | ⟨hab, hab'⟩ <;> rcases hbc with hbc | ⟨hbc, hbc'⟩
  · exact .inl (String.lt_trans hab hbc)
  · exact .inl (hbc ▸ hab)
  · exact .inl (hab ▸ hbc)
  · exact .inr ⟨hab.trans hbc, String.le_trans hab' hbc'⟩

theorem headerLe_total (a b : String × String) : (headerLe a b || headerLe b a) = true := by
  rw [Bool.or_eq_true, headerLe_iff, headerLe_iff]
  by_cases hEq : a.1 = b.1
  · rcases String.le_total a.2 b.2 with hLe | hLe
    · exact .inl (.inr ⟨hEq, hLe⟩)
    · exact .inr (.inr ⟨hEq.symm, hLe⟩)
  · rcases String.le_total a.1 b.1 with hLe | hLe
    · exact .inl (.inl (String.not_le.mp fun hGe => hEq (String.le_antisymm hLe hGe)))
    · exact .inr (.inl (String.not_le.mp fun hGe => hEq (String.le_antisymm hGe hLe)))

theorem headerLe_antisymm {a b : String × String} (hab : headerLe a b = true)
    (hba : headerLe b a = true) : a = b := by
  rw [headerLe_iff] at hab hba
  rcases hab with hab | ⟨hab, hab'⟩ <;> rcases hba with hba | ⟨hba, hba'⟩
  · exact absurd (String.lt_trans hab hba) (String.lt_irrefl _)
  · exact absurd (hba ▸ hab) (String.lt_irrefl _)
  · exact absurd (hab ▸ hba) (String.lt_irrefl _)
  · exact Prod.ext hab (String.le_antisymm hab' hba')

/-- A list of headers has one sorted form, whatever order it comes in. -/
theorem mergeSort_eq_of_perm {headers others : List (String × String)}
    (h : headers.Perm others) : headers.mergeSort headerLe = others.mergeSort headerLe := by
  have hSorted (list : List (String × String)) :=
    @List.pairwise_mergeSort _ headerLe (fun _ _ _ => headerLe_trans) headerLe_total list
  refine List.Perm.eq_of_pairwise ?_ (hSorted headers) (hSorted others) ?_
  · exact fun _ _ _ _ => headerLe_antisymm
  · exact (List.mergeSort_perm _ _).trans (h.trans (List.mergeSort_perm _ _).symm)

/-- Two clients built in one session that are the same but for the order of their headers. -/
structure SameUpToOrder (first second : Client × Session) : Prop where
  session : first.2 = second.2
  client : second.1 = first.1.dressed second.1.headers
  headers : first.1.headers.Perm second.1.headers

/-- The order of its headers makes no difference to what a client gives to requests. -/
theorem SameUpToOrder.draft {first second : Client × Session} (h : SameUpToOrder first second) :
    first.1.draft = second.1.draft := by
  have hSorted : first.1.sortedHeaders = second.1.sortedHeaders := mergeSort_eq_of_perm h.headers
  have hTransport : second.1.transport = first.1.transport := by
    rw [h.client]
    rfl
  have hTimeout : second.1.timeout = first.1.timeout := by
    rw [h.client]
    rfl
  rw [Client.draft, Client.draft, hSorted, hTransport, hTimeout]

/-- Where the names that are kept differ, the headers settle the same way in any order. -/
theorem settle_sequence_perm {config : Config} {headers : List (String × String)}
    (hOrder : headers.Perm config.headers) (hApart : (config.keptHeaders.map headerKey).Nodup) :
    (settle config.sequence).Perm (settle { config with headers := headers }.sequence) := by
  have hKept : config.keptHeaders.Perm { config with headers := headers }.keptHeaders := by
    unfold Config.keptHeaders
    change List.Perm _ (if config.agents = [] then _ else _)
    split
    next => exact hOrder.symm
    next => exact hOrder.symm.filter _
  have hOther := (hKept.map headerKey).nodup_iff.mp hApart
  rw [Config.settle_sequence, Config.settle_sequence, settle_of_nodup hApart,
    settle_of_nodup hOther]
  exact hKept.append_right _

/-- Two headers of one client with the same name are one. -/
theorem eq_of_mem_settle {headers : List (String × String)} {a b : String × String}
    (ha : a ∈ settle headers) (hb : b ∈ settle headers) (hKey : headerKey a = headerKey b) :
    a = b :=
  List.inj_on_of_nodup_map (nodup_settle headers) ha hb hKey

/-- Of two headers that are kept and have the same name up to case, one does not come through; in
another order it does. -/
theorem exists_other_headers {config : Config} (hKeys : (config.headers.map Prod.fst).Nodup)
    (hClash : ¬(config.keptHeaders.map headerKey).Nodup) :
    ∃ headers : List (String × String), headers.Perm config.headers ∧
      ¬(settle config.sequence).Perm (settle { config with headers := headers }.sequence) := by
  have hSub : config.keptHeaders.Sublist config.headers := by
    unfold Config.keptHeaders
    split
    · exact .refl _
    · exact List.filter_sublist
  -- It suffices to put a header last that has not come through.
  suffices hLost : ∃ header ∈ config.keptHeaders, header ∉ settle config.sequence by
    obtain ⟨header, hMem, hLost⟩ := hLost
    refine ⟨config.headers.erase header ++ [header], ?_, fun hPerm => hLost ?_⟩
    · exact (List.perm_append_singleton _ _).trans (List.perm_cons_erase (hSub.subset hMem)).symm
    · exact hPerm.mem_iff.mpr (mem_settle_sequence hMem _)
  by_contra hNone
  push Not at hNone
  refine hClash (List.Nodup.map_on ?_ ?_)
  · exact fun a ha b hb hKey => eq_of_mem_settle (hNone a ha) (hNone b hb) hKey
  · exact (List.Nodup.of_map _ hKeys).sublist hSub

/-- Whatever order the headers are taken in, the same client comes out, if no two of those that
are kept have the same name up to case; otherwise there is an order in which another one does. -/
theorem ofConfig_order {config : Config} {session : Session} {built : Client × Session}
    (hKeys : (config.headers.map Prod.fst).Nodup) (hBuilt : ofConfig config session = .ok built) :
    ((config.keptHeaders.map headerKey).Nodup →
      ∀ headers : List (String × String), headers.Perm config.headers →
        ∃ other, ofConfig { config with headers := headers } session = .ok other ∧
          SameUpToOrder built other ∧ built.1.draft = other.1.draft) ∧
    (¬(config.keptHeaders.map headerKey).Nodup →
      ∃ headers : List (String × String), headers.Perm config.headers ∧
        ∃ other, ofConfig { config with headers := headers } session = .ok other ∧
          ¬built.1.headers.Perm other.1.headers) := by
  have hHeaders : built.1.headers = settle config.sequence := by
    have hSelf := ofConfig_eq config session config.headers
    rw [hBuilt] at hSelf
    exact congrArg (fun built => built.1.headers) (Except.ok.inj hSelf)
  have hOther (headers : List (String × String)) :
      ofConfig { config with headers := headers } session =
        .ok (built.1.dressed (settle { config with headers := headers }.sequence), built.2) := by
    rw [ofConfig_eq, hBuilt]
    rfl
  constructor
  · intro hApart headers hOrder
    have hSame : SameUpToOrder built
        (built.1.dressed (settle { config with headers := headers }.sequence), built.2) :=
      ⟨rfl, rfl, hHeaders ▸ settle_sequence_perm hOrder hApart⟩
    exact ⟨_, hOther headers, hSame, hSame.draft⟩
  · intro hClash
    obtain ⟨headers, hOrder, hDiffer⟩ := exists_other_headers hKeys hClash
    exact ⟨headers, hOrder, _, hOther headers, hHeaders ▸ hDiffer⟩

/-- The configuration with headers, the name of the program, and nothing else. -/
def configWithHeaders (headers : List (String × String)) (agent : Option String) : Config :=
  { Config.standard with headers := headers, userAgent := agent }

/-- Two spellings of one name make no difference where a third comes after them. -/
theorem ofConfig_order_of_agent :
    ∃ built other,
      ofConfig (configWithHeaders [("User-Agent", "a"), ("user-agent", "b")] (some "c"))
          (.onDisk (.ofHome [])) = .ok built ∧
        ofConfig (configWithHeaders [("user-agent", "b"), ("User-Agent", "a")] (some "c"))
          (.onDisk (.ofHome [])) = .ok other ∧
        built.1.draft = other.1.draft := by
  have hUsable : (configWithHeaders [("User-Agent", "a"), ("user-agent", "b")]
      (some "c")).transport.proxy.isUsable = true := rfl
  obtain ⟨client, next, hBuilt⟩ := ofConfig_of_usable hUsable (.onDisk (.ofHome []))
  obtain ⟨other, hOther, -, hDraft⟩ := (ofConfig_order (by decide) hBuilt).1 (by decide)
    [("user-agent", "b"), ("User-Agent", "a")] (.swap _ _ _)
  exact ⟨_, other, hBuilt, hOther, hDraft⟩

/-- A configuration that is let through and whose headers are taken in one order or the other: the
clients send one value or the other. -/
theorem ofConfig_depends_on_order :
    (configWithHeaders [("X-A", "1"), ("x-a", "2")] none).Admitted ∧
      (configWithHeaders [("x-a", "2"), ("X-A", "1")] none).Admitted ∧
      ∃ first second,
        ofConfig (configWithHeaders [("X-A", "1"), ("x-a", "2")] none)
            (.onDisk (.ofHome [])) = .ok first ∧
          ofConfig (configWithHeaders [("x-a", "2"), ("X-A", "1")] none)
            (.onDisk (.ofHome [])) = .ok second ∧
          first.1.draft.headerValue? "x-a" = some "2" ∧
          second.1.draft.headerValue? "x-a" = some "1" := by
  refine ⟨Config.admitted_iff.mpr (by decide +kernel), Config.admitted_iff.mpr (by decide +kernel),
    _, _, rfl, rfl, ?_, ?_⟩
  · decide +kernel
  · decide +kernel

end Client
end Wiretap
