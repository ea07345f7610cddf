import Wiretap.Proofs.Client.Control
import Wiretap.Proofs.Client.HeaderOrder

/-!
# Headers that are written

A client keeps one header for each name.  Whatever calls have written them, and in
whatever spelling, the header that is kept of a name is the one that was written
last.

* `lastWritten` is the last of some headers that has a name.
* `Client.Call.writes` are the headers that a call writes, and `Client.settleOnto` writes
  them.
* `Client.find?_settle` says that looking a name up finds what was written last.
* `Client.headers_ofConfig` says which headers a client is built with.
* `Client.settleOnto_perm` says that the order of writes does not count where they differ in
  name, and `Client.settleOnto_settleOnto` that writing again changes nothing.
-/

namespace Wiretap

/-- The last of some headers that has a name of any letter case. -/
def lastWritten (writes : List (String × String)) (name : String) : Option (String × String) :=
  writes.reverse.find? fun header => Ascii.sameIgnoringCase header.1 name

section LastWritten

variable (first second : List (String × String)) (header : String × String) {name other : String}

theorem lastWritten_append :
    lastWritten (first ++ second) name = (lastWritten second name).or (lastWritten first name) := by
  rw [lastWritten, List.reverse_append, List.find?_append]
  rfl

theorem lastWritten_singleton :
    lastWritten [header] name =
      if Ascii.sameIgnoringCase header.1 name then some header else none := by
  rw [lastWritten, List.reverse_singleton, List.find?_singleton]

/-- Spellings of one name have the same last header. -/
theorem lastWritten_congr (h : Ascii.sameIgnoringCase name other = true) :
    lastWritten first name = lastWritten first other := by
  rw [Ascii.sameIgnoringCase_iff] at h
  simp only [lastWritten, Ascii.sameIgnoringCase, h]

end LastWritten

namespace Client

/-- The headers that a call writes, in order. -/
def Call.writes : Call → List (String × String)
  | .header name value => [(name, value)]
  | .headers list => list
  | .userAgent value => [(Config.userAgentName, value)]
  | .debugMode => [(Config.userAgentName, chromeAgent)]
  | .testMode => [(Config.userAgentName, chromeAgent)]
  | _ => []

/-- Headers written one after the other over others, each in the place of what has its name. -/
def settleOnto (settled writes : List (String × String)) : List (String × String) :=
  writes.foldl (fun settled header => withHeader settled header.1 header.2) settled

theorem settleOnto_settle (first second : List (String × String)) :
    settleOnto (settle first) second = settle (first ++ second) := by
  rw [settle, settle, List.foldl_append]
  rfl

theorem find?_withHeader (headers : List (String × String)) (header : String × String)
    (name : String) :
    (withHeader headers header.1 header.2).find?
        (fun other => Ascii.sameIgnoringCase other.1 name) =
      if Ascii.sameIgnoringCase header.1 name then some header
      else headers.find? fun other => Ascii.sameIgnoringCase other.1 name := by
  rw [withHeader, List.find?_append, List.find?_filter, List.find?_singleton]
  simp only [Bool.decide_and, Bool.decide_eq_true]
  cases hName : Ascii.sameIgnoringCase header.1 name with
  | true =>
      -- Nothing that has the name is left of the others.
      have hNone : headers.find? (fun other =>
          !Ascii.sameIgnoringCase other.1 header.1 && Ascii.sameIgnoringCase other.1 name) =
            none := by
        rw [List.find?_eq_none]
        intro other _ hOther
        rw [Bool.and_eq_true, Bool.not_eq_true'] at hOther
        have hBoth := Ascii.sameIgnoringCase_trans hOther.2
          ((Ascii.sameIgnoringCase_comm name header.1).trans hName)
        rw [hOther.1] at hBoth
        cases hBoth
      rw [hNone]
      rfl
  | false =>
      have hKept (other : String × String) :
          (!Ascii.sameIgnoringCase other.1 header.1 && Ascii.sameIgnoringCase other.1 name) =
            Ascii.sameIgnoringCase other.1 name := by
        cases hOther : Ascii.sameIgnoringCase other.1 header.1 with
        | false => rfl
        | true =>
            rw [Ascii.sameIgnoringCase_iff] at hOther
            rw [Ascii.sameIgnoringCase] at hName ⊢
            rw [hOther, hName]
            rfl
      rw [funext hKept]
      exact Option.or_none

/-- What is kept of a name is what was written last. -/
theorem find?_settle (writes : List (String × String)) (name : String) :
    (settle writes).find? (fun header => Ascii.sameIgnoringCase header.1 name) =
      lastWritten writes name := by
  induction writes using List.reverseRecOn with
  | nil => rfl
  | append_singleton front header ih =>
      rw [settle_append_singleton, find?_withHeader, ih, lastWritten_append, lastWritten_singleton]
      split <;> rfl

/-- A client is built with the headers of its configuration. -/
theorem headers_ofConfig {config : Config} {start session : Session} {client : Client}
    (h : ofConfig config start = .ok (client, session)) :
    client.headers = settle config.sequence := by
  have hSelf := ofConfig_eq config start config.headers
  rw [h] at hSelf
  exact congrArg (fun built => built.1.headers) (Except.ok.inj hSelf)

section Settling

variable (headers first second writes : List (String × String))

theorem mem_of_mem_settle {writes : List (String × String)} {header : String × String}
    (h : header ∈ settle writes) : header ∈ writes := by
  induction writes using List.reverseRecOn with
  | nil => exact h
  | append_singleton front last ih =>
      rw [settle_append_singleton, withHeader_eq] at h
      rcases List.mem_append.mp h with hFront | hLast
      · exact List.mem_append_left _ (ih (List.mem_filter.mp hFront).1)
      · exact List.mem_append_right _ hLast

/-- Headers are written by dropping what has their names and appending them. -/
theorem settleOnto_eq :
    settleOnto headers writes =
      (headers.filter fun header => decide (headerKey header ∉ writes.map headerKey)) ++
        settle writes := by
  induction writes using List.reverseRecOn with
  | nil => simp [settleOnto, settle]
  | append_singleton front last ih =>
      have hOnto : settleOnto headers (front ++ [last]) =
          withHeader (settleOnto headers front) last.1 last.2 := by
        rw [settleOnto, List.foldl_append]
        rfl
      rw [hOnto, ih, settle_append_singleton, withHeader_eq, withHeader_eq, List.filter_append,
        List.filter_filter, List.append_assoc]
      congr 1
      refine List.filter_congr fun header _ => ?_
      rw [Bool.eq_iff_iff, Bool.and_eq_true, bne_iff_ne, decide_eq_true_iff, decide_eq_true_iff,
        List.map_append, List.map_singleton, List.mem_append, List.mem_singleton, not_or, and_comm]

/-- Headers of other names are not dropped. -/
theorem filter_settle_of_apart
    (h : ∀ header ∈ first, ∀ other ∈ second, headerKey header ≠ headerKey other) :
    (settle first).filter (fun header => decide (headerKey header ∉ second.map headerKey)) =
      settle first := by
  rw [List.filter_eq_self]
  intro header hHeader
  rw [decide_eq_true_iff]
  intro hKey
  obtain ⟨other, hOther, hSame⟩ := List.mem_map.mp hKey
  exact h header (mem_of_mem_settle hHeader) other hOther hSame.symm

/-- The order in which headers of different names are written makes no difference but to the order
in which they are kept. -/
theorem settleOnto_perm
    (h : ∀ header ∈ first, ∀ other ∈ second, headerKey header ≠ headerKey other) :
    (settleOnto (settleOnto headers first) second).Perm
      (settleOnto (settleOnto headers second) first) := by
  have hSymm : ∀ header ∈ second, ∀ other ∈ first, headerKey header ≠ headerKey other :=
    fun header hHeader other hOther => (h other hOther header hHeader).symm
  simp only [settleOnto_eq, List.filter_append]
  rw [filter_settle_of_apart first second h, filter_settle_of_apart second first hSymm,
    List.filter_comm, List.append_assoc, List.append_assoc]
  exact List.perm_append_comm.append_left _

theorem settleOnto_settleOnto :
    settleOnto (settleOnto headers writes) writes = settleOnto headers writes := by
  have hNone : (settle writes).filter
      (fun header => decide (headerKey header ∉ writes.map headerKey)) = [] := by
    rw [List.filter_eq_nil_iff]
    intro header hHeader
    have hKey : headerKey header ∈ writes.map headerKey :=
      List.mem_map_of_mem (mem_of_mem_settle hHeader)
    rw [decide_eq_true_iff]
    exact fun hOther => hOther hKey
  simp only [settleOnto_eq, List.filter_append, hNone, List.filter_filter, Bool.and_self,
    List.append_nil]

end Settling

/-- Looking a name up finds a header if and only if it is there and has that name, where no name
is there twice. -/
theorem find?_eq_some_iff_of_nodup {headers : List (String × String)}
    (h : (headers.map headerKey).Nodup) {name : String} {header : String × String} :
    headers.find? (fun other => Ascii.sameIgnoringCase other.1 name) = some header ↔
      header ∈ headers ∧ Ascii.sameIgnoringCase header.1 name = true := by
  have hHas {found : String × String}
      (hFound : headers.find? (fun other => Ascii.sameIgnoringCase other.1 name) = some found) :
      found ∈ headers ∧ Ascii.sameIgnoringCase found.1 name = true := by
    refine ⟨List.mem_of_find?_eq_some hFound, ?_⟩
    have hTest := List.find?_some hFound
    exact hTest
  refine ⟨hHas, ?_⟩
  rintro ⟨hMem, hName⟩
  have hSome : (headers.find? fun other => Ascii.sameIgnoringCase other.1 name).isSome = true :=
    List.find?_isSome.mpr ⟨header, hMem, hName⟩
  obtain ⟨found, hFound⟩ := Option.isSome_iff_exists.mp hSome
  have hKey : headerKey found = headerKey header :=
    (Ascii.sameIgnoringCase_iff.mp (hHas hFound).2).trans
      (Ascii.sameIgnoringCase_iff.mp hName).symm
  rw [hFound, List.inj_on_of_nodup_map h (hHas hFound).1 hMem hKey]

/-- What is found of a name does not depend on the order, where no name is there twice. -/
theorem find?_eq_of_perm {headers others : List (String × String)} (hOrder : headers.Perm others)
    (h : (headers.map headerKey).Nodup) (name : String) :
    headers.find? (fun other => Ascii.sameIgnoringCase other.1 name) =
      others.find? fun other => Ascii.sameIgnoringCase other.1 name := by
  ext header
  rw [find?_eq_some_iff_of_nodup h,
    find?_eq_some_iff_of_nodup ((hOrder.map headerKey).nodup_iff.mp h), hOrder.mem_iff]

/-- What was written last of a name is what was written of it, where no name is there twice. -/
theorem lastWritten_of_perm_settle {headers writes : List (String × String)}
    (hOrder : headers.Perm (settle writes)) (name : String) :
    lastWritten headers name = lastWritten writes name := by
  have hReversed := hOrder.symm.trans (List.reverse_perm headers).symm
  rw [← find?_settle writes, find?_eq_of_perm hReversed (nodup_settle writes)]
  rfl

end Client
end Wiretap
