import Mathlib.Data.List.Dedup
import Wiretap.Proofs.Client.Effect
import Wiretap.Proofs.Header.Naming

/-!
# Which header a request carries

Headers are set on a client and on a draft, in any spelling and any number of times.
They are kept in three ways: the client replaces what has the same name, the draft
keeps everything and looks back from the end, and the request has one value for each
name.  All three come to the same: the last write counts.

* `Draft.Call.writes` are the headers that a step gives by name, and `Draft.Call.names`
  are the names that it brings up.
* `Draft.headerValue?_applyAll` says what a name stands for after any steps; the media
  type of a document is only said where nothing else says it.
* `Draft.getAll_headerMap` and `Draft.names_headerMap` say what is in a request that has
  been built.
* `Draft.headers_are_last_writes` puts client, draft and request together.
-/

namespace Wiretap

/-- A new entry is put last in the list of first occurrences, and any other is left out. -/
theorem eraseDups_append_singleton {α : Type} [DecidableEq α] (list : List α) (entry : α) :
    (list ++ [entry]).eraseDups =
      if entry ∈ list then list.eraseDups else list.eraseDups ++ [entry] := by
  rw [List.eraseDups_append]
  by_cases h : entry ∈ list
  · simp [List.removeAll, h]
  · simp [List.removeAll, h, List.eraseDups_cons]

/-- What comes after two lists with the same first occurrences counts the same after both. -/
theorem eraseDups_append_congr {α : Type} [DecidableEq α] {first second : List α}
    (h : first.eraseDups = second.eraseDups) (rest : List α) :
    (first ++ rest).eraseDups = (second ++ rest).eraseDups := by
  have hMem (entry : α) : entry ∈ first ↔ entry ∈ second := by
    rw [← List.mem_eraseDups, h, List.mem_eraseDups]
  have hLeft : rest.removeAll first = rest.removeAll second := by
    simp only [List.removeAll, hMem, List.elem_eq_mem]
  rw [List.eraseDups_append, List.eraseDups_append, h, hLeft]

namespace Draft

/-- The headers that a step gives by name, in order. -/
def Call.writes : Call → List (String × String)
  | .header name value => [(name, value)]
  | .headers list => list
  | _ => []

/-- Whether a step sets the body to a document. -/
def Call.isDocument : Call → Bool
  | .json (.ok _) => true
  | _ => false

/-- The names that a step brings up, in order.  A document brings up the header that says what
the body is. -/
def Call.names (c : Call) : List String :=
  c.writes.map Prod.fst ++ if c.isDocument then [contentTypeName] else []

/-- What a name stands for where no step gives it by name. -/
def implied? (steps : List Call) (name : String) : Option String :=
  if steps.any Call.isDocument && Ascii.sameIgnoringCase contentTypeName name then
    some "application/json"
  else none

section Steps

variable (draft : Draft)

theorem headerValue?_eq (name : String) :
    draft.headerValue? name = (lastWritten draft.headers name).map Prod.snd := rfl

/-- A step adds what it writes.  A document adds its media type as well, unless something is said
of that already. -/
theorem headers_apply (c : Call) :
    (draft.apply c).headers =
      draft.headers ++ c.writes ++
        if c.isDocument ∧ draft.headerValue? contentTypeName = none then
          [(contentTypeName, "application/json")]
        else [] := by
  cases c with
  | methodName raw =>
      show (draft.setMethodName raw).headers = _
      unfold setMethodName
      split <;> simp [Call.writes, Call.isDocument]
  | json document =>
      cases document with
      | error reason => simp [apply, Call.writes, Call.isDocument]
      | ok document =>
          show (draft.setJson document).headers = _
          unfold setJson
          cases hSaid : draft.headerValue? contentTypeName <;>
            simp [Call.writes, Call.isDocument]
  | header name value => simp [apply, Call.writes, Call.isDocument]
  | headers list => simp [apply, Call.writes, Call.isDocument]
  | _ => simp [apply, Call.writes, Call.isDocument]

theorem applyAll_append_singleton (steps : List Call) (c : Call) :
    draft.applyAll (steps ++ [c]) = (draft.applyAll steps).apply c := by
  rw [applyAll, List.foldl_append]
  rfl

theorem writes_of_isDocument {c : Call} (h : c.isDocument = true) : c.writes = [] := by
  cases c with
  | json document => rfl
  | _ => cases h

theorem headerValue?_apply_of_isDocument {c : Call} (h : c.isDocument = true) (name : String) :
    (draft.apply c).headerValue? name =
      if Ascii.sameIgnoringCase contentTypeName name then
        (draft.headerValue? contentTypeName).or (some "application/json")
      else draft.headerValue? name := by
  rw [headerValue?_eq, headers_apply, writes_of_isDocument h, List.append_nil]
  cases hSaid : draft.headerValue? contentTypeName with
  | some value =>
      simp only [reduceCtorEq, and_false, if_false, List.append_nil, Option.some_or]
      split
      next hName => rw [← lastWritten_congr _ hName, ← headerValue?_eq, hSaid]
      next => rfl
  | none =>
      rw [if_pos ⟨h, rfl⟩, lastWritten_append, lastWritten_singleton]
      split
      next => rfl
      next => rfl

theorem headerValue?_apply_of_not_isDocument {c : Call} (h : c.isDocument = false)
    (name : String) :
    (draft.apply c).headerValue? name =
      ((lastWritten c.writes name).map Prod.snd).or (draft.headerValue? name) := by
  rw [headerValue?_eq, headers_apply, h, if_neg (by simp), List.append_nil, lastWritten_append,
    Option.map_or, headerValue?_eq]

/-- What a name stands for after any steps is what was written last of it, or else what is
implied. -/
theorem headerValue?_applyAll (steps : List Call) (name : String) :
    (draft.applyAll steps).headerValue? name =
      ((lastWritten (draft.headers ++ steps.flatMap Call.writes) name).map Prod.snd).or
        (implied? steps name) := by
  induction steps using List.reverseRecOn generalizing name with
  | nil => simp [applyAll, implied?, headerValue?_eq]
  | append_singleton steps c ih =>
      rw [applyAll_append_singleton, List.flatMap_append, List.flatMap_singleton,
        ← List.append_assoc, lastWritten_append, Option.map_or, Option.or_assoc]
      cases hDocument : c.isDocument with
      | false =>
          have hImplied : implied? (steps ++ [c]) name = implied? steps name := by
            simp [implied?, hDocument]
          rw [headerValue?_apply_of_not_isDocument _ hDocument, ih, hImplied]
      | true =>
          rw [headerValue?_apply_of_isDocument _ hDocument, writes_of_isDocument hDocument, ih, ih]
          cases hName : Ascii.sameIgnoringCase contentTypeName name with
          | false => simp [implied?, hName, lastWritten]
          | true =>
              rw [lastWritten_congr _ hName]
              -- Once a document has been set, the default is as good as said.
              cases hSaid : steps.any Call.isDocument <;>
                simp [implied?, hName, hSaid, hDocument, lastWritten]

theorem mem_keys_of_headerValue? {name value : String}
    (h : draft.headerValue? name = some value) :
    Ascii.lower name ∈ draft.headers.map headerKey := by
  obtain ⟨header, hFound, -⟩ := Option.map_eq_some_iff.mp h
  have hTest := List.find?_some hFound
  rw [← Ascii.sameIgnoringCase_iff.mp hTest]
  exact List.mem_map_of_mem (List.mem_reverse.mp (List.mem_of_find?_eq_some hFound))

/-- A step brings its names up, after those that are there. -/
theorem names_apply (c : Call) :
    ((draft.apply c).headers.map headerKey).eraseDups =
      (draft.headers.map headerKey ++ c.names.map Ascii.lower).eraseDups := by
  have hWrites : c.writes.map headerKey = (c.writes.map Prod.fst).map Ascii.lower := by
    rw [List.map_map]
    rfl
  rw [headers_apply, Call.names, List.map_append, List.map_append, List.map_append, hWrites]
  cases hDocument : c.isDocument with
  | false => simp
  | true =>
      cases hSaid : draft.headerValue? contentTypeName with
      | none => simp [headerKey]
      | some value =>
          -- The name has come up before.
          have hMem := draft.mem_keys_of_headerValue? hSaid
          simp only [reduceCtorEq, and_false, if_false, if_true, List.map_nil, List.append_nil,
            List.map_singleton, ← List.append_assoc]
          rw [eraseDups_append_singleton, if_pos (List.mem_append_left _ hMem)]

/-- The names come in the order in which they were brought up first. -/
theorem names_applyAll (steps : List Call) :
    ((draft.applyAll steps).headers.map headerKey).eraseDups =
      ((draft.headers.map Prod.fst ++ steps.flatMap Call.names).map Ascii.lower).eraseDups := by
  induction steps using List.reverseRecOn with
  | nil =>
      rw [List.flatMap_nil, List.append_nil, List.map_map]
      rfl
  | append_singleton steps c ih =>
      rw [applyAll_append_singleton, names_apply, eraseDups_append_congr ih, ← List.map_append,
        List.flatMap_append, List.flatMap_singleton, List.append_assoc]

end Steps

section HeaderMap

variable {headers : List (String × String)} {map : Header.Map}

theorem headerMap_eq_ok_iff :
    headerMap headers = .ok map ↔
      headers.length ≤ Header.Map.countLimit ∧ headers.foldlM addHeader .empty = .ok map := by
  rcases Nat.lt_or_ge Header.Map.countLimit headers.length with hMany | hRoom
  · simp [headerMap_of_lt hMany, Nat.not_le.mpr hMany]
  · rw [headerMap_of_le hRoom, and_iff_right hRoom, mapError_eq_ok_iff]

theorem headerMap_append_singleton {front : List (String × String)} {header : String × String}
    (h : headerMap (front ++ [header]) = .ok map) :
    ∃ before, headerMap front = .ok before ∧ addHeader before header = .ok map := by
  obtain ⟨hRoom, hFold⟩ := headerMap_eq_ok_iff.mp h
  rw [List.length_append] at hRoom
  rw [List.foldlM_append] at hFold
  cases hFront : front.foldlM addHeader .empty with
  | error failure =>
      rw [hFront] at hFold
      cases hFold
  | ok before =>
      rw [hFront] at hFold
      refine ⟨before, headerMap_eq_ok_iff.mpr ⟨Nat.le_of_add_right_le hRoom, hFront⟩, ?_⟩
      rw [← hFold]
      exact (bind_pure (addHeader before header)).symm

theorem addHeader_eq_ok {map next : Header.Map} {header : String × String}
    (h : addHeader map header = .ok next) :
    ∃ name value, Header.Name.ofString? header.1 = some name ∧
      value.bytes = Bytes.ofString header.2 ∧ next = map.insert name value := by
  unfold addHeader at h
  split at h
  · cases h
  · cases h
  next name value hName hValue =>
    cases h
    exact ⟨name, value, hName, Header.Value.ofBytes?_eq_some_iff.mp hValue, rfl⟩

/-- The names of a request are those of its headers in lowercase, in order of first occurrence. -/
theorem names_headerMap (h : headerMap headers = .ok map) :
    map.names.map Header.Name.bytes =
      (headers.map headerKey).eraseDups.map Bytes.ofString := by
  induction headers using List.reverseRecOn generalizing map with
  | nil =>
      cases h
      rfl
  | append_singleton front header ih =>
      obtain ⟨before, hFront, hHeader⟩ := headerMap_append_singleton h
      obtain ⟨name, value, hName, -, rfl⟩ := addHeader_eq_ok hHeader
      -- The map compares names and the list compares keys, which comes to the same: both go over
      -- into bytes without loss.
      have hBytes : name.bytes = Bytes.ofString (headerKey header) :=
        Header.Name.bytes_of_ofString? hName
      have hMem : name ∈ before.names ↔ headerKey header ∈ front.map headerKey := by
        rw [← List.mem_map_of_injective Header.Name.bytes_injective, ih hFront, hBytes,
          List.mem_map_of_injective Bytes.ofString_injective, List.mem_eraseDups]
      rw [Header.Map.names_insert, List.map_append, List.map_singleton,
        eraseDups_append_singleton]
      by_cases hKnown : name ∈ before.names
      · rw [if_pos hKnown, if_pos (hMem.mp hKnown), ih hFront]
      · rw [if_neg hKnown, if_neg fun hKey => hKnown (hMem.mpr hKey), List.map_append,
          List.map_append, ih hFront, List.map_singleton, List.map_singleton, hBytes]

/-- A request has one value of each name, the one that was written last. -/
theorem getAll_headerMap (h : headerMap headers = .ok map) {raw : String} {name : Header.Name}
    (hName : Header.Name.ofString? raw = some name) :
    (map.getAll name).map Header.Value.bytes =
      (lastWritten headers raw).toList.map fun header => Bytes.ofString header.2 := by
  induction headers using List.reverseRecOn generalizing map with
  | nil =>
      cases h
      rfl
  | append_singleton front header ih =>
      obtain ⟨before, hFront, hHeader⟩ := headerMap_append_singleton h
      obtain ⟨written, value, hWritten, hValue, rfl⟩ := addHeader_eq_ok hHeader
      rw [lastWritten_append, lastWritten_singleton]
      split
      next hSame =>
        have hRaw := (Header.Name.ofString?_eq_some_iff hWritten).mpr hSame
        have hEq : name = written := Option.some.inj (hName.symm.trans hRaw)
        rw [hEq, Header.Map.getAll_insert_self, List.map_singleton, hValue]
        rfl
      next hOther =>
        have hNe : name ≠ written := by
          rintro rfl
          exact hOther ((Header.Name.ofString?_eq_some_iff hWritten).mp hName)
        rw [Header.Map.getAll_insert_of_ne _ _ hNe, ih hFront, Option.none_or]

theorem ofString?_of_headerMap (h : headerMap headers = .ok map) {header : String × String}
    (hMem : header ∈ headers) : ∃ name, Header.Name.ofString? header.1 = some name := by
  induction headers using List.reverseRecOn generalizing map with
  | nil => cases hMem
  | append_singleton front last ih =>
      obtain ⟨before, hFront, hLast⟩ := headerMap_append_singleton h
      rcases List.mem_append.mp hMem with hMem | hMem
      · exact ih hFront hMem
      · obtain ⟨name, -, hName, -, -⟩ := addHeader_eq_ok hLast
        rw [List.mem_singleton.mp hMem]
        exact ⟨name, hName⟩

theorem headerMap_of_build {draft : Draft} {request : Request} (h : draft.build = .ok request) :
    headerMap draft.headers = .ok request.headers := by
  unfold build at h
  split at h
  · cases h
  · cases h
  · split at h
    · cases h
    · cases hMap : headerMap draft.headers with
      | error failure =>
          rw [hMap] at h
          cases h
      | ok map =>
          rw [hMap] at h
          cases h
          rfl

/-- A request that has been built has exactly one value of each name that its draft has, and it
is the same byte for byte. -/
theorem getAll_of_build {draft : Draft} {request : Request} (h : draft.build = .ok request)
    {raw value : String} (hValue : draft.headerValue? raw = some value) :
    ∃ name only, Header.Name.ofString? raw = some name ∧ request.headers.getAll name = [only] ∧
      only.bytes = Bytes.ofString value := by
  have hMap := headerMap_of_build h
  obtain ⟨header, hFound, rfl⟩ := Option.map_eq_some_iff.mp hValue
  have hSame : Ascii.sameIgnoringCase header.1 raw = true := by
    have hTest := List.find?_some hFound
    exact hTest
  obtain ⟨name, hName⟩ :=
    ofString?_of_headerMap hMap (List.mem_reverse.mp (List.mem_of_find?_eq_some hFound))
  have hRaw := (Header.Name.ofString?_eq_some_iff hName).mpr hSame
  have hAll := getAll_headerMap hMap hRaw
  rw [show lastWritten draft.headers raw = some header from hFound] at hAll
  obtain ⟨only, hOnly, hBytes⟩ := List.map_eq_singleton_iff.mp hAll
  exact ⟨name, only, hRaw, hOnly, hBytes⟩

end HeaderMap

end Draft

namespace Client

/-- Sorted headers ascend strictly by name, where no name is there twice. -/
theorem pairwise_sortedHeaders {client : Client} (h : (client.headers.map headerKey).Nodup) :
    (client.sortedHeaders.map Prod.fst).Pairwise (· < ·) := by
  have hSorted : client.sortedHeaders.Pairwise fun left right => headerLe left right = true :=
    @List.pairwise_mergeSort _ headerLe (fun _ _ _ => headerLe_trans) headerLe_total client.headers
  have hApart : (client.sortedHeaders.map headerKey).Nodup :=
    (((List.mergeSort_perm client.headers headerLe).map headerKey).nodup_iff).mpr h
  rw [List.pairwise_map]
  refine (hSorted.and (List.pairwise_map.mp hApart)).imp ?_
  rintro left right ⟨hLe, hNe⟩
  rcases headerLe_iff.mp hLe with hLt | ⟨hEq, -⟩
  · exact hLt
  · exact absurd (congrArg Ascii.lower hEq) hNe

end Client

namespace Draft

/-- How headers come out that have been written on a client and then on a draft. -/
structure Resolution (client : Client) (written : List (String × String)) (steps : List Call) :
    Prop where
  /-- The client has no name twice. -/
  apart : (client.headers.map headerKey).Nodup
  /-- Of each name the client has what was written last. -/
  kept : ∀ name, client.header? name = (lastWritten written name).map Prod.snd
  /-- A draft begins with the headers of the client in the order of their names. -/
  sorted : client.draft.headers.Perm client.headers ∧
    (client.draft.headers.map Prod.fst).Pairwise (· < ·)
  /-- The order in which the client keeps its headers does not show. -/
  settled : ∀ order : List (String × String), order.Perm client.headers →
    (client.dressed order).draft = client.draft ∧
      ∀ name, (client.dressed order).header? name = client.header? name
  /-- Of each name a draft has what was written last, or else what a document implies. -/
  said : ∀ name, (client.draft.applyAll steps).headerValue? name =
    ((lastWritten (written ++ steps.flatMap Call.writes) name).map Prod.snd).or
      (implied? steps name)
  /-- A request has the names of the client first, then others as they were brought up. -/
  names : ∀ request, (client.draft.applyAll steps).build = .ok request →
    request.headers.names.map Header.Name.bytes =
      ((client.draft.headers.map Prod.fst ++ steps.flatMap Call.names).map
        Ascii.lower).eraseDups.map Bytes.ofString
  /-- Of each name a request has one value, and that is what the draft has. -/
  values : ∀ request, (client.draft.applyAll steps).build = .ok request →
    ∀ raw value, (client.draft.applyAll steps).headerValue? raw = some value →
      ∃ name only, Header.Name.ofString? raw = some name ∧
        request.headers.getAll name = [only] ∧ only.bytes = Bytes.ofString value

/-- Whatever headers are written on a client, by any calls and in any spelling, and then on a
draft by any steps, the last write of each name counts. -/
theorem headers_are_last_writes {config : Config} {start session : Session} {client : Client}
    (h : Client.ofConfig config start = .ok (client, session)) (calls : List Client.Call)
    (steps : List Call) :
    Resolution (client.callAll session calls).1
      (config.sequence ++ calls.flatMap Client.Call.writes) steps := by
  have hHeaders := client.headers_callAll session (Client.headers_ofConfig h) calls
  generalize (client.callAll session calls).1 = last at hHeaders ⊢
  have hApart : (last.headers.map headerKey).Nodup := by
    rw [hHeaders]
    exact Client.nodup_settle _
  have hSorted : last.sortedHeaders.Perm last.headers := List.mergeSort_perm _ _
  refine ⟨hApart, ?kept, ⟨hSorted, Client.pairwise_sortedHeaders hApart⟩, ?settled, ?said, ?names,
    ?values⟩
  case kept =>
    intro name
    rw [Client.header?, hHeaders, Client.find?_settle]
  case settled =>
    intro order hOrder
    have hSame : Client.SameUpToOrder (last, session) (last.dressed order, session) :=
      ⟨rfl, rfl, hOrder.symm⟩
    refine ⟨hSame.draft.symm, fun name => ?_⟩
    exact congrArg (Option.map Prod.snd) (Client.find?_eq_of_perm hOrder.symm hApart name).symm
  case said =>
    -- A draft starts out with what the client has, sorted; sorting leaves the last writes alone.
    intro name
    have hKept := Client.lastWritten_of_perm_settle (hHeaders ▸ hSorted) name
    rw [headerValue?_applyAll, lastWritten_append, lastWritten_append _ (steps.flatMap Call.writes)]
    rw [show last.draft.headers = last.sortedHeaders from rfl, hKept]
  case names =>
    intro request hBuild
    rw [names_headerMap (headerMap_of_build hBuild), names_applyAll]
  case values =>
    intro request hBuild raw value hValue
    exact getAll_of_build hBuild hValue

/-- A name is written by a client in two spellings and by a draft in a third, and the type of a
document is said after the document has been set. -/
theorem headers_are_last_writes_in_spellings :
    ∃ client session, Client.ofConfig .standard (.onDisk (.ofHome [])) = .ok (client, session) ∧
      let last := (client.callAll session [.header "X-Trace" "1", .header "x-trace" "2"]).1
      let draft := last.draft.applyAll [.url "http://a.example/", .json (.ok .null),
        .header "Content-TYPE" "text/plain", .header "X-TRACE" "3"]
      last.header? "X-trace" = some "2" ∧ draft.headerValue? "x-Trace" = some "3" ∧
        draft.build.isOk = true ∧
          ∀ request, draft.build = .ok request →
            ∃ name only, Header.Name.ofString? "content-type" = some name ∧
              request.headers.getAll name = [only] ∧ only.bytes = Bytes.ofString "text/plain" := by
  have hBuilt := Client.ofConfig_standard (.onDisk (.ofHome []))
  refine ⟨_, _, hBuilt, ?_, ?_, by decide +kernel, ?_⟩
  · exact ((headers_are_last_writes hBuilt _ []).kept _).trans (by decide)
  · exact ((headers_are_last_writes hBuilt _ _).said _).trans (by decide)
  · intro request hRequest
    refine (headers_are_last_writes hBuilt _ _).values request hRequest _ _ ?_
    exact ((headers_are_last_writes hBuilt _ _).said _).trans (by decide)

end Draft
end Wiretap
