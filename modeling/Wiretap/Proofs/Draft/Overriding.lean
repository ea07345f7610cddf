import Mathlib.Data.List.Perm.Subperm
import Wiretap.Proofs.Draft.Verdict

/-!
# Headers that are overridden

A draft keeps every header that it is given, in order, and the last one of a name counts.
Beside it stands the draft in which the matter is settled beforehand: each name is there
once, in its first place, as it was written last.  Both give the same request.  They differ
in what goes wrong: a header is looked at even if a later one overrides it, so that one with
a fault is told although nothing of it would be sent.  And it takes up room of which there is
only so much.

* `Draft.Overridden` says which headers are overridden, and `Draft.resolved` are the headers
  without them.
* `Draft.lastWritten_resolved` and `Draft.map_headerKey_resolved` say what is kept of the
  headers: what was written last of each name, and the order of the names.
* `Draft.headerMap_eq_ok_iff_resolved` says that both lists make the same map, if there is room
  for all headers and none that is overridden has a fault.
* `Draft.build_resolved` compares the two drafts.
* `Draft.build_of_overridden_fault` is a header of a client that keeps a request from being
  sent, although the request overrides it.
-/

namespace Wiretap

section EraseDups

variable {α : Type} [DecidableEq α]

theorem nodup_eraseDups (list : List α) : list.eraseDups.Nodup := by
  induction list using List.reverseRecOn with
  | nil => exact List.nodup_nil
  | append_singleton front last ih =>
      rw [eraseDups_append_singleton]
      split
      next => exact ih
      next hNew =>
        refine List.nodup_append.mpr ⟨ih, List.nodup_singleton last, ?_⟩
        rintro entry hEntry _ hLast rfl
        rw [List.mem_singleton.mp hLast, List.mem_eraseDups] at hEntry
        exact hNew hEntry

theorem length_eraseDups_le (list : List α) : list.eraseDups.length ≤ list.length :=
  ((nodup_eraseDups list).subperm fun _ => List.mem_eraseDups.mp).length_le

theorem eraseDups_of_nodup {list : List α} (h : list.Nodup) : list.eraseDups = list := by
  induction list using List.reverseRecOn with
  | nil => rfl
  | append_singleton front last ih =>
      obtain ⟨hFront, -, hApart⟩ := List.nodup_append.mp h
      have hNew : last ∉ front := fun hMem => hApart last hMem last (List.mem_singleton_self _) rfl
      rw [eraseDups_append_singleton, if_neg hNew, ih hFront]

end EraseDups

namespace Header

theorem Value.bytes_injective : Function.Injective Value.bytes := by
  rintro ⟨left, hLeft⟩ ⟨right, hRight⟩ h
  cases h
  rfl

namespace Map

/-- Where no name comes twice, looking a name up finds its group. -/
theorem find?_of_mem {map : Map} (hApart : map.names.Nodup) {group : Name × List Value}
    (hMem : group ∈ map.groups) :
    map.groups.find? (fun found => found.1 = group.1) = some group := by
  have hSome : (map.groups.find? fun found => found.1 = group.1).isSome = true :=
    List.find?_isSome.mpr ⟨group, hMem, decide_eq_true rfl⟩
  obtain ⟨found, hFound⟩ := Option.isSome_iff_exists.mp hSome
  have hName : found.1 = group.1 := by simpa using List.find?_some hFound
  rw [hFound, List.inj_on_of_nodup_map hApart (List.mem_of_find?_eq_some hFound) hMem hName]

/-- Maps with the same names, no name twice, and the same values of each are the same. -/
theorem ext_of_getAll {map other : Map} (hNames : map.names = other.names)
    (hApart : map.names.Nodup) (hValues : ∀ name ∈ map.names, map.getAll name = other.getAll name) :
    map = other := by
  have hGroups (each : Map) (h : each.names.Nodup) :
      each.groups = each.names.map fun name => (name, each.getAll name) := by
    rw [names, List.map_map]
    refine (List.map_id _).symm.trans (List.map_congr_left fun group hGroup => ?_)
    simp [getAll, find?_of_mem h hGroup]
  obtain ⟨groups⟩ := map
  obtain ⟨others⟩ := other
  have hEq : groups = others := by
    refine (hGroups ⟨groups⟩ hApart).trans (Eq.trans ?_ (hGroups ⟨others⟩ (hNames ▸ hApart)).symm)
    rw [← hNames]
    exact List.map_congr_left fun name hName => by rw [hValues name hName]
  rw [hEq]

end Map
end Header

namespace Draft

/-- The last header with a key. -/
def latest? (headers : List (String × String)) (key : String) : Option (String × String) :=
  headers.reverse.find? fun header => headerKey header == key

/-- Headers with each name once, at its first place, as it was written last. -/
def resolved (headers : List (String × String)) : List (String × String) :=
  (headers.map headerKey).eraseDups.filterMap (latest? headers)

/-- Whether a header is overridden: a later one has its name, in any spelling. -/
def Overridden (headers : List (String × String)) (header : String × String) : Prop :=
  ∃ front back, headers = front ++ header :: back ∧
    ∃ later ∈ back, Ascii.sameIgnoringCase later.1 header.1 = true

section Resolved

variable {headers : List (String × String)} {header : String × String} {key : String}

theorem lastWritten_eq (headers : List (String × String)) (name : String) :
    lastWritten headers name = latest? headers (Ascii.lower name) := rfl

theorem headerKey_of_latest? (h : latest? headers key = some header) : headerKey header = key := by
  have hTest := List.find?_some h
  exact beq_iff_eq.mp hTest

theorem mem_of_latest? (h : latest? headers key = some header) : header ∈ headers :=
  List.mem_reverse.mp (List.mem_of_find?_eq_some h)

theorem exists_latest? (h : key ∈ headers.map headerKey) :
    ∃ header, latest? headers key = some header := by
  obtain ⟨header, hMem, hKey⟩ := List.mem_map.mp h
  refine Option.isSome_iff_exists.mp (List.find?_isSome.mpr ⟨header, ?_, ?_⟩)
  · exact List.mem_reverse.mpr hMem
  · exact beq_iff_eq.mpr hKey

theorem mem_resolved_iff :
    header ∈ resolved headers ↔ latest? headers (headerKey header) = some header := by
  rw [resolved, List.mem_filterMap]
  constructor
  · rintro ⟨key, -, hLatest⟩
    rwa [headerKey_of_latest? hLatest]
  · intro hLatest
    refine ⟨headerKey header, ?_, hLatest⟩
    exact List.mem_eraseDups.mpr (List.mem_map_of_mem (mem_of_latest? hLatest))

/-- The names keep the order in which they come up. -/
theorem map_headerKey_resolved (headers : List (String × String)) :
    (resolved headers).map headerKey = (headers.map headerKey).eraseDups := by
  have hKey (key : String) (hMem : key ∈ (headers.map headerKey).eraseDups) :
      (latest? headers key).map headerKey = some key := by
    obtain ⟨header, hLatest⟩ := exists_latest? (List.mem_eraseDups.mp hMem)
    rw [hLatest, Option.map_some, headerKey_of_latest? hLatest]
  rw [resolved, List.map_filterMap, List.filterMap_congr hKey, List.filterMap_some]

theorem nodup_resolved (headers : List (String × String)) :
    ((resolved headers).map headerKey).Nodup := by
  rw [map_headerKey_resolved]
  exact nodup_eraseDups _

theorem length_resolved_le (headers : List (String × String)) :
    (resolved headers).length ≤ headers.length := by
  have hKeys := congrArg List.length (map_headerKey_resolved headers)
  rw [List.length_map] at hKeys
  rw [hKeys]
  exact (length_eraseDups_le _).trans_eq (List.length_map _)

/-- What was written last of a name is still what was written last of it. -/
theorem lastWritten_resolved (headers : List (String × String)) (name : String) :
    lastWritten (resolved headers) name = lastWritten headers name := by
  have hApart : ((resolved headers).reverse.map headerKey).Nodup := by
    rw [List.map_reverse]
    exact List.nodup_reverse.mpr (nodup_resolved headers)
  ext header
  rw [lastWritten, Client.find?_eq_some_iff_of_nodup hApart, List.mem_reverse, mem_resolved_iff,
    lastWritten_eq, Ascii.sameIgnoringCase_iff]
  constructor
  · rintro ⟨hLatest, hName⟩
    rwa [← hName]
  · intro hLatest
    have hKey := headerKey_of_latest? hLatest
    exact ⟨by rwa [hKey], hKey⟩

/-- A header stays, or another one of its name comes behind it. -/
theorem mem_iff_resolved_or_overridden :
    header ∈ headers ↔ header ∈ resolved headers ∨ Overridden headers header := by
  constructor
  · intro hMem
    obtain ⟨front, back, rfl⟩ := List.append_of_mem hMem
    by_cases hLater : ∃ later ∈ back, Ascii.sameIgnoringCase later.1 header.1 = true
    · exact .inr ⟨front, back, rfl, hLater⟩
    · left
      have hNone : lastWritten back header.1 = none := by
        refine List.find?_eq_none.mpr fun later hBack hSame => hLater ⟨later, ?_, hSame⟩
        exact List.mem_reverse.mp hBack
      have hSplit : front ++ header :: back = front ++ ([header] ++ back) := rfl
      rw [mem_resolved_iff, headerKey, ← lastWritten_eq, hSplit, lastWritten_append,
        lastWritten_append, hNone, lastWritten_singleton, if_pos (Ascii.sameIgnoringCase_refl _)]
      rfl
  · rintro (hStays | ⟨front, back, rfl, -⟩)
    · exact mem_of_latest? (mem_resolved_iff.mp hStays)
    · exact List.mem_append_right _ List.mem_cons_self

/-- A list of headers has a map if and only if its resolved form has one and no header that is
overridden has a fault. -/
theorem findSome?_eq_none_iff_resolved :
    headers.findSome? headerFault? = none ↔
      (resolved headers).findSome? headerFault? = none ∧
        ∀ header, Overridden headers header → headerFault? header = none := by
  simp only [List.findSome?_eq_none_iff, @mem_iff_resolved_or_overridden headers]
  constructor
  · intro hAll
    exact ⟨fun header hStays => hAll header (.inl hStays),
      fun header hOver => hAll header (.inr hOver)⟩
  · rintro ⟨hStays, hOver⟩ header (hMem | hMem)
    · exact hStays header hMem
    · exact hOver header hMem

/-- The map of headers depends on the last write of each name and on the order of the names, and
resolving changes neither. -/
theorem eq_of_headerMap_resolved {map other : Header.Map} (hMap : headerMap headers = .ok map)
    (hOther : headerMap (resolved headers) = .ok other) : map = other := by
  have hBytes := names_headerMap hMap
  have hNames : map.names = other.names := by
    refine List.map_injective_iff.mpr Header.Name.bytes_injective ?_
    rw [hBytes, names_headerMap hOther, map_headerKey_resolved,
      eraseDups_of_nodup (nodup_eraseDups _)]
  have hApart : map.names.Nodup := by
    refine List.Nodup.of_map Header.Name.bytes ?_
    rw [hBytes]
    exact (nodup_eraseDups _).map Bytes.ofString_injective
  refine Header.Map.ext_of_getAll hNames hApart fun name hName => ?_
  -- The name is one of the headers, and in this spelling it has the same last write in both lists.
  have hKey : name.bytes ∈ (headers.map headerKey).eraseDups.map Bytes.ofString :=
    hBytes ▸ List.mem_map_of_mem hName
  obtain ⟨key, hMem, hSame⟩ := List.mem_map.mp hKey
  obtain ⟨header, hHeader, rfl⟩ := List.mem_map.mp (List.mem_eraseDups.mp hMem)
  obtain ⟨found, hFound⟩ := ofString?_of_headerMap hMap hHeader
  obtain rfl : found = name :=
    Header.Name.bytes_injective ((Header.Name.bytes_of_ofString? hFound).trans hSame)
  refine List.map_injective_iff.mpr Header.Value.bytes_injective ?_
  rw [getAll_headerMap hMap hFound, getAll_headerMap hOther hFound, lastWritten_resolved]

/-- Both lists have the same map, but for that of the headers as they were given there has to be
room, and it has to get past those that are overridden. -/
theorem headerMap_eq_ok_iff_resolved {map : Header.Map} :
    headerMap headers = .ok map ↔
      headers.length ≤ Header.Map.countLimit ∧ headerMap (resolved headers) = .ok map ∧
        ∀ header, Overridden headers header → headerFault? header = none := by
  constructor
  · intro hMap
    obtain ⟨hRoom, hLegal⟩ := exists_headerMap_iff.mp ⟨map, hMap⟩
    obtain ⟨hStay, hOver⟩ := findSome?_eq_none_iff_resolved.mp hLegal
    obtain ⟨other, hOther⟩ :=
      exists_headerMap_iff.mpr ⟨(length_resolved_le headers).trans hRoom, hStay⟩
    rw [eq_of_headerMap_resolved hMap hOther]
    exact ⟨hRoom, hOther, hOver⟩
  · rintro ⟨hRoom, hOther, hOver⟩
    obtain ⟨-, hStay⟩ := exists_headerMap_iff.mp ⟨map, hOther⟩
    obtain ⟨first, hFirst⟩ :=
      exists_headerMap_iff.mpr ⟨hRoom, findSome?_eq_none_iff_resolved.mpr ⟨hStay, hOver⟩⟩
    rw [← eq_of_headerMap_resolved hFirst hOther]
    exact hFirst

/-- If there is room for the headers, they do not break the program down. -/
theorem exists_failure_of_headerMap {setback : Setback}
    (hRoom : headers.length ≤ Header.Map.countLimit) (h : headerMap headers = .error setback) :
    ∃ failure, setback = .failure failure := by
  cases setback with
  | failure failure => exact ⟨failure, rfl⟩
  | panic => exact absurd (headerMap_eq_panic_iff.mp h) (Nat.not_lt.mpr hRoom)

/-- If no header that is overridden has a fault, the header that is told is one that stays. -/
theorem exists_of_headerMap_error {failure : Failure}
    (h : headerMap headers = .error (.failure failure))
    (hOver : ∀ header, Overridden headers header → headerFault? header = none) :
    ∃ header ∈ resolved headers, headerFault? header = some failure := by
  obtain ⟨-, hFirst⟩ := headerMap_eq_error_iff.mp h
  obtain ⟨header, hMem, hFault⟩ := List.exists_of_findSome?_eq_some hFirst
  refine ⟨header, ?_, hFault⟩
  refine (mem_iff_resolved_or_overridden.mp hMem).resolve_right fun hHeader => ?_
  rw [hOver header hHeader] at hFault
  cases hFault

end Resolved

/-- The draft in which the headers have been resolved. -/
def plain (draft : Draft) : Draft := { draft with headers := resolved draft.headers }

section Plain

variable (draft : Draft)

/-- What has gone wrong before the headers are looked at is the same in both drafts. -/
theorem build_plain_cases :
    draft.build = draft.plain.build ∧ (∀ request, draft.build ≠ .ok request) ∨
      ∃ url, draft.build = (headerMap draft.headers).map (draft.requestTo url) ∧
        draft.plain.build = (headerMap (resolved draft.headers)).map (draft.requestTo url) := by
  cases hFailure : draft.failure with
  | some failure =>
      rw [build_of_failure hFailure, @build_of_failure draft.plain _ hFailure]
      exact .inl ⟨rfl, fun request h => nomatch h⟩
  | none =>
      cases hUrl : draft.url with
      | none =>
          rw [build_of_unaddressed hFailure hUrl, @build_of_unaddressed draft.plain hFailure hUrl]
          exact .inl ⟨rfl, fun request h => nomatch h⟩
      | some raw =>
          cases hParse : Url.parse raw with
          | error fault =>
              rw [build_of_misaddressed hFailure hUrl hParse,
                @build_of_misaddressed draft.plain _ _ hFailure hUrl hParse]
              exact .inl ⟨rfl, fun request h => nomatch h⟩
          | ok url =>
              exact .inr ⟨url, build_of_addressed hFailure hUrl hParse,
                @build_of_addressed draft.plain _ _ hFailure hUrl hParse⟩

theorem map_eq_ok_iff {α β : Type} {f : α → β} {result : Except Setback α} {value : β} :
    result.map f = .ok value ↔ ∃ inner, result = .ok inner ∧ f inner = value := by
  cases result <;> simp [Except.map]

/-- A draft gives a request if and only if there is room for its headers, it gives the same request
with its headers resolved, and no header that is overridden has a fault. -/
theorem build_eq_ok_iff_plain (request : Request) :
    draft.build = .ok request ↔
      draft.headers.length ≤ Header.Map.countLimit ∧ draft.plain.build = .ok request ∧
        ∀ header, Overridden draft.headers header → headerFault? header = none := by
  rcases draft.build_plain_cases with ⟨hSame, hNever⟩ | ⟨url, hBuild, hPlain⟩
  · rw [← hSame]
    exact ⟨fun h => (hNever request h).elim, fun h => h.2.1⟩
  · rw [hBuild, hPlain, map_eq_ok_iff, map_eq_ok_iff]
    constructor
    · rintro ⟨map, hMap, hRequest⟩
      obtain ⟨hRoom, hOther, hOver⟩ := headerMap_eq_ok_iff_resolved.mp hMap
      exact ⟨hRoom, ⟨map, hOther, hRequest⟩, hOver⟩
    · rintro ⟨hRoom, ⟨map, hOther, hRequest⟩, hOver⟩
      exact ⟨map, headerMap_eq_ok_iff_resolved.mpr ⟨hRoom, hOther, hOver⟩, hRequest⟩

/-- If there is room for the headers and none that is overridden has a fault, what is told without
resolving them is told with it, unless there are two headers to be told. -/
theorem build_eq_plain (hRoom : draft.headers.length ≤ Header.Map.countLimit)
    (hOver : ∀ header, Overridden draft.headers header → headerFault? header = none) :
    draft.build = draft.plain.build ∨
      ∃ first ∈ resolved draft.headers, ∃ second ∈ resolved draft.headers, first ≠ second ∧
        ∃ failure other, headerFault? first = some failure ∧ headerFault? second = some other ∧
          draft.build = .error (.failure failure) ∧
          draft.plain.build = .error (.failure other) := by
  rcases draft.build_plain_cases with ⟨hSame, -⟩ | ⟨url, hBuild, hPlain⟩
  · exact .inl hSame
  · cases hMap : headerMap draft.headers with
    | ok map =>
        left
        rw [hBuild, hPlain, hMap, (headerMap_eq_ok_iff_resolved.mp hMap).2.1]
    | error setback =>
        have hStays := (length_resolved_le draft.headers).trans hRoom
        cases hOther : headerMap (resolved draft.headers) with
        | ok map =>
            rw [headerMap_eq_ok_iff_resolved.mpr ⟨hRoom, hOther, hOver⟩] at hMap
            cases hMap
        | error second =>
            obtain ⟨failure, rfl⟩ := exists_failure_of_headerMap hRoom hMap
            obtain ⟨other, rfl⟩ := exists_failure_of_headerMap hStays hOther
            rw [hMap] at hBuild
            rw [hOther] at hPlain
            obtain ⟨first, hFirst, hFault⟩ := exists_of_headerMap_error hMap hOver
            obtain ⟨second, hSecond, hOtherFault⟩ :=
              List.exists_of_findSome?_eq_some (headerMap_eq_error_iff.mp hOther).2
            by_cases hSame : first = second
            · left
              subst hSame
              rw [hBuild, hPlain, Option.some.inj (hFault.symm.trans hOtherFault)]
            · exact .inr ⟨first, hFirst, second, hSecond, hSame, failure, other, hFault,
                hOtherFault, hBuild, hPlain⟩

end Plain

/-- Whatever headers a draft has been given, resolving them makes no difference to the request.
A draft gives it if and only if there is room for all its headers, it would give it with its headers
resolved, and no header that is overridden has a fault.  If there is room and none has a fault, both
come to the same also where there is no request, unless two of the headers that stay have faults, of
which each tells one. -/
theorem build_resolved (draft : Draft) :
    (∀ request, draft.build = .ok request ↔
      draft.headers.length ≤ Header.Map.countLimit ∧ draft.plain.build = .ok request ∧
        ∀ header, Overridden draft.headers header → headerFault? header = none) ∧
      (draft.headers.length ≤ Header.Map.countLimit →
        (∀ header, Overridden draft.headers header → headerFault? header = none) →
        draft.build = draft.plain.build ∨
          ∃ first ∈ resolved draft.headers, ∃ second ∈ resolved draft.headers, first ≠ second ∧
            ∃ failure other, headerFault? first = some failure ∧
              headerFault? second = some other ∧ draft.build = .error (.failure failure) ∧
                draft.plain.build = .error (.failure other)) :=
  ⟨draft.build_eq_ok_iff_plain, draft.build_eq_plain⟩

/-- A name that is given in two spellings, both times with a value that is legal. -/
theorem build_resolved_of_spellings :
    ∃ client session, Client.ofConfig .standard (.onDisk (.ofHome [])) = .ok (client, session) ∧
      let draft := (client.setHeader "X-A" "1").draft.applyAll
        [.url "http://a.example/", .header "Y" "2", .header "x-a" "3"]
      resolved draft.headers = [("x-a", "3"), ("Y", "2")] ∧
        draft.headers.length ≤ Header.Map.countLimit ∧
        (∀ header, Overridden draft.headers header → headerFault? header = none) ∧
        draft.build = draft.plain.build ∧
        ∃ request, draft.build = .ok request ∧ draft.plain.build = .ok request := by
  refine ⟨_, _, Client.ofConfig_standard (.onDisk (.ofHome [])), ?_⟩
  intro draft
  have hHeaders : draft.headers = [("X-A", "1"), ("Y", "2"), ("x-a", "3")] := by
    decide +kernel
  have hResolved : resolved draft.headers = [("x-a", "3"), ("Y", "2")] := by
    rw [hHeaders]
    decide +kernel
  have hLegal : ∀ header ∈ draft.headers, headerFault? header = none := by
    rw [hHeaders]
    decide
  have hOver (header : String × String) (h : Overridden draft.headers header) :
      headerFault? header = none :=
    hLegal header (mem_iff_resolved_or_overridden.mpr (.inr h))
  obtain ⟨hRequests, hSame⟩ := build_resolved draft
  have hRoom : draft.headers.length ≤ Header.Map.countLimit := by
    rw [hHeaders]
    decide
  refine ⟨hResolved, hRoom, hOver, ?_, ?_⟩
  · refine (hSame hRoom hOver).resolve_right ?_
    rintro ⟨first, hFirst, _, _, _, _, _, hFault, _⟩
    rw [hLegal first (mem_iff_resolved_or_overridden.mpr (.inl hFirst))] at hFault
    cases hFault
  · have hOk : draft.build.isOk = true := by decide +kernel
    cases hBuild : draft.build with
    | error setback =>
        rw [hBuild] at hOk
        cases hOk
    | ok request => exact ⟨request, rfl, ((hRequests request).mp hBuild).2.1⟩

/-- A client has a header whose value is broken by a line feed, and a request gives that header
again in another spelling with a value that is legal.  That value counts for the header, and with
the headers resolved there is a request, but the draft tells the header of the client. -/
theorem build_of_overridden_fault :
    ∃ client session, Client.ofConfig .standard (.onDisk (.ofHome [])) = .ok (client, session) ∧
      let draft := (client.setHeader "X-A" "b\nd").draft.applyAll
        [.url "http://a.example/", .header "x-a" "good"]
      draft.headers = [("X-A", "b\nd"), ("x-a", "good")] ∧
        resolved draft.headers = [("x-a", "good")] ∧
        draft.headerValue? "X-A" = some "good" ∧
        draft.build =
          .error (.failure (.invalidHeader "X-A" "failed to parse header value")) ∧
        draft.plain.build.isOk = true := by
  refine ⟨_, _, Client.ofConfig_standard (.onDisk (.ofHome [])), ?_⟩
  decide +kernel

end Draft
end Wiretap
