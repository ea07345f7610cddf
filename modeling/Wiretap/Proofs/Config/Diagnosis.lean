import Mathlib.Data.List.TakeWhile
import Wiretap.Config.Loading

/-!
# What is wrong with a configuration

The check of a configuration goes from place to place and reports what is wrong there.  The
report says no more and no less than that: every place counts for itself, whatever is wrong
elsewhere, and in whatever order the headers are looked at.

* `Config.occurrences` says how often a problem is to be reported, by the places that have it.
* `Config.Mends` says that one place with a problem has been put right, and nothing else has
  been touched.
* `Config.count_problems` and `Config.problems_perm_cons` say what the report has to do with both.
* `Config.report_is_exact` puts them together with what becomes of a file.
-/

namespace Wiretap

/-- A text is blank if nothing is left of it. -/
theorem Blank.trim_eq_empty_iff {text : String} :
    Blank.trim text = "" ↔ ∀ c ∈ text.toList, Blank.isBlank c = true := by
  rw [Blank.trim, ← String.ofList_nil, String.ofList_inj, Blank.trimWhere, List.reverse_eq_nil_iff,
    List.dropWhile_eq_nil_iff]
  constructor
  · intro hBack c hMem
    -- What stays behind the blanks in front would begin with a character that is not blank.
    have hFront : text.toList.dropWhile Blank.isBlank = [] := by
      by_contra hSome
      have hHead := List.head_dropWhile_not Blank.isBlank hSome
      rw [hBack _ (List.mem_reverse.mpr (List.head_mem hSome))] at hHead
      exact Bool.noConfusion hHead
    exact List.dropWhile_eq_nil_iff.mp hFront c hMem
  · intro hAll c hMem
    exact hAll c (List.dropWhile_subset _ (List.mem_reverse.mp hMem))

namespace Config

/-- The seconds of a timeout. -/
def Timeouts.seconds (timeouts : Timeouts) : TimeoutField → UInt64
  | .request => timeouts.request
  | .connect => timeouts.connect
  | .idle => timeouts.idle

/-- The timeouts with other seconds for one of them. -/
def Timeouts.adjust (timeouts : Timeouts) (value : UInt64) : TimeoutField → Timeouts
  | .request => { timeouts with request := value }
  | .connect => { timeouts with connect := value }
  | .idle => { timeouts with idle := value }

/-- Whether a text is a legal name of a header. -/
def isHeaderName (name : String) : Bool := (Header.Name.ofString? name).isSome

/-- Whether a text is a legal value of a header. -/
def isHeaderValue (value : String) : Bool := (Header.Value.ofString? value).isSome

/-- Whether there is nothing wrong with a proxy policy: an address has to be one. -/
def Proxy.isSound : Proxy → Bool
  | .address raw => (Url.parse raw).toOption.isSome
  | _ => true

/-- How often a problem is to be reported: once for each place that has it. -/
def occurrences (config : Config) : Problem → Nat
  | .timeoutTooLarge field value limit =>
    if (config.timeouts.seconds field).toNat = value ∧ timeoutLimit < value ∧ limit = timeoutLimit
    then 1 else 0
  | .invalidProxy raw =>
    if config.transport.proxy = .address raw ∧ ¬ (Proxy.address raw).isSound then 1 else 0
  | .invalidHeaderName name =>
    config.headers.countP fun header => header.1 = name && !isHeaderName name
  | .invalidHeaderValue name =>
    (config.headers.countP fun header =>
        header.1 = name && (isHeaderName name && !isHeaderValue header.2))
      + if config.userAgent.any (!isHeaderValue ·) ∧ userAgentName = name then 1 else 0
  | .emptyDumpOutput => if config.dump.output.toList.all Blank.isBlank then 1 else 0

/-- One place that has a problem is put right; nothing else is touched. -/
inductive Mends (config : Config) : Problem → Config → Prop where
  | timeout (field : TimeoutField) (value : UInt64)
      (hBad : timeoutLimit < (config.timeouts.seconds field).toNat)
      (hGood : value.toNat ≤ timeoutLimit) :
      Mends config
        (.timeoutTooLarge field (config.timeouts.seconds field).toNat timeoutLimit)
        { config with timeouts := config.timeouts.adjust value field }
  | proxy (raw : String) (policy : Proxy) (hPlace : config.transport.proxy = .address raw)
      (hBad : (Proxy.address raw).isSound = false) (hGood : policy.isSound = true) :
      Mends config (.invalidProxy raw)
        { config with transport := { config.transport with proxy := policy } }
  | headerName (before after : List (String × String)) (name value : String)
      (header : String × String) (hPlace : config.headers = before ++ (name, value) :: after)
      (hBad : isHeaderName name = false)
      (hGood : isHeaderName header.1 = true ∧ isHeaderValue header.2 = true) :
      Mends config (.invalidHeaderName name)
        { config with headers := before ++ header :: after }
  | headerValue (before after : List (String × String)) (name value : String)
      (header : String × String) (hPlace : config.headers = before ++ (name, value) :: after)
      (hBad : isHeaderName name = true ∧ isHeaderValue value = false)
      (hGood : isHeaderName header.1 = true ∧ isHeaderValue header.2 = true) :
      Mends config (.invalidHeaderValue name)
        { config with headers := before ++ header :: after }
  | userAgent (value : String) (agent : Option String) (hPlace : config.userAgent = some value)
      (hBad : isHeaderValue value = false) (hGood : ∀ text ∈ agent, isHeaderValue text = true) :
      Mends config (.invalidHeaderValue userAgentName) { config with userAgent := agent }
  | output (output : String) (hBad : config.dump.output.toList.all Blank.isBlank = true)
      (hGood : output.toList.all Blank.isBlank = false) :
      Mends config .emptyDumpOutput { config with dump := { config.dump with output := output } }

section Places

variable {problem : Problem}

theorem outputProblems_eq (output : String) :
    outputProblems output =
      if output.toList.all Blank.isBlank then [.emptyDumpOutput] else [] := by
  unfold outputProblems
  simp only [Blank.trim_eq_empty_iff, List.all_eq_true]

theorem headerProblems_eq (header : String × String) :
    headerProblems header =
      if !isHeaderName header.1 then [.invalidHeaderName header.1]
      else if !isHeaderValue header.2 then [.invalidHeaderValue header.1]
      else [] := by
  simp only [headerProblems, isHeaderName, isHeaderValue, Option.not_isSome]

theorem userAgentProblems_eq (agent : Option String) :
    userAgentProblems agent =
      if agent.any (!isHeaderValue ·) then [.invalidHeaderValue userAgentName] else [] := by
  cases agent with
  | none => rfl
  | some value => simp only [userAgentProblems, isHeaderValue, Option.any_some, Option.not_isSome]

theorem count_ite {condition : Prop} [Decidable condition] (other : Problem) :
    (if condition then [other] else []).count problem =
      if condition ∧ other = problem then 1 else 0 := by
  split <;> simp_all [List.count_singleton]

theorem proxyProblems_eq (proxy : Proxy) :
    proxyProblems proxy = if proxy.isSound = false then [.invalidProxy proxy.text] else [] := by
  cases proxy with
  | environment => rfl
  | direct => rfl
  | address raw =>
      unfold proxyProblems isAddress Proxy.isSound
      cases hParse : Url.parse raw <;> simp [hParse, Except.toOption, Proxy.text]

theorem unsound_iff {proxy : Proxy} {raw : String} :
    proxy.isSound = false ∧ proxy.text = raw ↔
      proxy = .address raw ∧ (Proxy.address raw).isSound = false := by
  cases proxy with
  | environment => simp [Proxy.isSound]
  | direct => simp [Proxy.isSound]
  | address other => grind [Proxy.text]

theorem headerProblems_eq_name_iff {header : String × String} {name : String} :
    headerProblems header = [.invalidHeaderName name] ↔
      header.1 = name ∧ isHeaderName name = false := by
  rw [headerProblems_eq]
  grind

theorem headerProblems_eq_value_iff {header : String × String} {name : String} :
    headerProblems header = [.invalidHeaderValue name] ↔
      header.1 = name ∧ isHeaderName name = true ∧ isHeaderValue header.2 = false := by
  rw [headerProblems_eq]
  grind

/-- Each header has at most one problem, and none of them hides another. -/
theorem count_flatMap_headerProblems (headers : List (String × String)) :
    (headers.flatMap headerProblems).count problem =
      headers.countP fun header => headerProblems header = [problem] := by
  induction headers with
  | nil => rfl
  | cons header rest ih =>
      rw [List.flatMap_cons, List.count_append, ih, List.countP_cons, Nat.add_comm]
      congr 1
      rw [headerProblems_eq]
      split
      · simp [List.count_singleton]
      · split <;> simp [List.count_singleton]

/-- A header is the place of problems of headers only. -/
theorem countP_eq_zero_of_ne {headers : List (String × String)}
    (hName : ∀ name, problem ≠ .invalidHeaderName name)
    (hValue : ∀ name, problem ≠ .invalidHeaderValue name) :
    headers.countP (fun header => headerProblems header = [problem]) = 0 := by
  rw [List.countP_eq_zero]
  intro header _
  rw [decide_eq_true_eq, headerProblems_eq]
  split
  · simpa using (hName header.1).symm
  · split
    · simpa using (hValue header.1).symm
    · simp

/-- A problem is reported once for each place that has it. -/
theorem count_problems (config : Config) (problem : Problem) :
    config.problems.count problem = config.occurrences problem := by
  simp only [problems, List.count_append, timeoutProblems, proxyProblems_eq, count_ite,
    count_flatMap_headerProblems, userAgentProblems_eq, outputProblems_eq]
  -- Only the places that can have a problem of this kind add to its count.
  cases problem with
  | timeoutTooLarge field value limit =>
      rw [countP_eq_zero_of_ne (by simp) (by simp)]
      cases field <;> simp [occurrences] <;> refine if_congr ?_ rfl rfl <;> grind [Timeouts.seconds]
  | invalidProxy raw =>
      rw [countP_eq_zero_of_ne (by simp) (by simp)]
      simp [occurrences, unsound_iff]
  | invalidHeaderName name => simp [occurrences, headerProblems_eq_name_iff]
  | invalidHeaderValue name => simp [occurrences, headerProblems_eq_value_iff]
  | emptyDumpOutput =>
      rw [countP_eq_zero_of_ne (by simp) (by simp)]
      simp [occurrences]

end Places

section Mending

variable {config mended : Config} {problem : Problem}

/-- The order in which the headers are looked at makes no difference. -/
theorem problems_perm {headers : List (String × String)} (h : headers.Perm config.headers) :
    ({ config with headers := headers } : Config).problems.Perm config.problems := by
  unfold problems
  exact ((h.flatMap_right headerProblems).append_left _).append_right _ |>.append_right _

theorem timeoutProblems_of_lt (field : TimeoutField) {value : UInt64}
    (h : timeoutLimit < value.toNat) :
    timeoutProblems field value = [.timeoutTooLarge field value.toNat timeoutLimit] := if_pos h

theorem timeoutProblems_of_le (field : TimeoutField) {value : UInt64}
    (h : value.toNat ≤ timeoutLimit) : timeoutProblems field value = [] :=
  if_neg (Nat.not_lt.mpr h)

theorem headerProblems_of_legal {header : String × String}
    (h : isHeaderName header.1 = true ∧ isHeaderValue header.2 = true) :
    headerProblems header = [] := by
  simp [headerProblems_eq, h.1, h.2]

theorem userAgentProblems_of_legal {agent : Option String}
    (h : ∀ text ∈ agent, isHeaderValue text = true) : userAgentProblems agent = [] := by
  cases agent with
  | none => rfl
  | some text => simp [userAgentProblems_eq, h text rfl]

/-- What has been put right is no longer reported, and everything else still is. -/
theorem problems_perm_cons (h : config.Mends problem mended) :
    config.problems.Perm (problem :: mended.problems) := by
  rw [List.perm_iff_count]
  intro other
  rw [← List.singleton_append]
  simp only [problems, List.count_append]
  cases h with
  | timeout field value hBad hGood =>
      cases field
      all_goals
        simp only [Timeouts.seconds] at hBad
        simp only [Timeouts.seconds, Timeouts.adjust, timeoutProblems_of_lt _ hBad,
          timeoutProblems_of_le _ hGood, List.count_nil]
        omega
  | proxy raw policy hPlace hBad hGood =>
      have hOwn : proxyProblems (.address raw) = [.invalidProxy raw] := by
        rw [proxyProblems_eq, if_pos hBad, Proxy.text]
      have hNone : proxyProblems policy = [] := by
        rw [proxyProblems_eq, hGood, if_neg Bool.noConfusion]
      simp only [hPlace, hOwn, hNone, List.count_nil]
      omega
  | headerName before after name value header hPlace hBad hGood =>
      have hOwn : headerProblems (name, value) = [.invalidHeaderName name] :=
        headerProblems_eq_name_iff.mpr ⟨rfl, hBad⟩
      simp only [hPlace, List.flatMap_append, List.flatMap_cons, List.count_append, hOwn,
        headerProblems_of_legal hGood, List.count_nil]
      omega
  | headerValue before after name value header hPlace hBad hGood =>
      have hOwn : headerProblems (name, value) = [.invalidHeaderValue name] :=
        headerProblems_eq_value_iff.mpr ⟨rfl, hBad⟩
      simp only [hPlace, List.flatMap_append, List.flatMap_cons, List.count_append, hOwn,
        headerProblems_of_legal hGood, List.count_nil]
      omega
  | userAgent value agent hPlace hBad hGood =>
      have hOwn : userAgentProblems (some value) = [.invalidHeaderValue userAgentName] := by
        rw [userAgentProblems_eq, Option.any_some, hBad]
        rfl
      simp only [hPlace, hOwn, userAgentProblems_of_legal hGood, List.count_nil]
      omega
  | output output hBad hGood =>
      have hOwn : outputProblems config.dump.output = [.emptyDumpOutput] := by
        rw [outputProblems_eq, if_pos hBad]
      have hNone : outputProblems output = [] := by
        rw [outputProblems_eq, hGood, if_neg Bool.noConfusion]
      simp only [hOwn, hNone, List.count_nil]
      omega

end Mending

/-- The report of a configuration is exact.  Each problem is in it as often as there are places that
have it; the configuration passes if there are none, and is refused with all of them otherwise.
The order of the headers changes the order of the report only.  If one place is put right, its own
problem disappears and no other one comes or goes.  A file that describes the configuration is
treated in the same way. -/
theorem report_is_exact (config : Config) :
    (∀ problem, config.problems.count problem = config.occurrences problem) ∧
    ((∀ problem, config.occurrences problem = 0) → config.check = .ok config) ∧
    (∀ problem, config.occurrences problem ≠ 0 →
      config.check = .error (.invalid config.problems)) ∧
    (∀ headers, headers.Perm config.headers →
      ({ config with headers := headers } : Config).problems.Perm config.problems) ∧
    (∀ problem mended, config.Mends problem mended →
      config.problems.Perm (problem :: mended.problems)) ∧
    ∀ text, (Toml.ofString? text).bind ofToml? = some config → parse text = config.check := by
  refine ⟨count_problems config, fun hNone => ?_, fun problem hSome => ?_, fun _ => problems_perm,
    fun _ _ => problems_perm_cons, fun text hText => by rw [parse, hText]⟩
  · have hEmpty : config.problems = [] := by
      rw [List.eq_nil_iff_forall_not_mem]
      intro problem hMem
      have hCount := List.count_pos_iff.mpr hMem
      rw [count_problems, hNone] at hCount
      exact Nat.lt_irrefl 0 hCount
    rw [check, hEmpty]
    rfl
  · have hMem : problem ∈ config.problems := by
      rw [← List.count_pos_iff, count_problems]
      exact Nat.pos_of_ne_zero hSome
    rw [check, if_neg]
    rw [List.isEmpty_iff]
    exact List.ne_nil_of_mem hMem

/-- A configuration with three problems. -/
def troubled : Config :=
  { Config.standard with
    timeouts := { Config.Timeouts.standard with idle := 86401 }
    headers := [("bad header", "x\ny")]
    dump := { Config.Dump.standard with output := " " } }

/-- The file of a configuration with three problems is refused with all of them.  The value of the
header is not legal either, but as long as its name is not, that goes for nothing; with both put
right, the other two problems remain. -/
theorem report_is_exact_of_troubled :
    let mended : Config := { troubled with headers := [("X-Good", "x")] }
    parse "timeouts.idle_secs = 86401\nheaders.\"bad header\" = \"x\\ny\"\ndump.output = \" \"\n" =
        .error (.invalid [.timeoutTooLarge .idle 86401 86400, .invalidHeaderName "bad header",
          .emptyDumpOutput]) ∧
      troubled.problems.Perm (.invalidHeaderName "bad header" :: mended.problems) := by
  intro mended
  obtain ⟨-, -, hRefused, -, hMended, hFile⟩ := report_is_exact troubled
  have hProblems : troubled.problems = [.timeoutTooLarge .idle 86401 86400,
      .invalidHeaderName "bad header", .emptyDumpOutput] := by decide +kernel
  refine ⟨?_, hMended _ _ ?_⟩
  · rw [hFile _ (by decide +kernel), hRefused .emptyDumpOutput (by decide +kernel), hProblems]
  · exact .headerName [] [] "bad header" "x\ny" ("X-Good", "x") rfl (by decide +kernel)
      (by decide +kernel)

end Config
end Wiretap
