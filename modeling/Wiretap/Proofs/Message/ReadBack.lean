import Wiretap.Exchange.Redirect
import Wiretap.Message.Head
import Wiretap.Proofs.Message.Lines
import Wiretap.Proofs.Url.Legible

/-!
# Heads that are read again

A head is written without any quoting.  Still nothing that stands in it can pass for a line of its
own, since methods, addresses, names and values hold no line ends.  A reader that knows of nothing
but lines, spaces and colons gets back all that has been written.

* `Head.readRequest?` and `Head.readResponse?` are the readers.
* `Head.request_eq` and `Head.response_eq` give the lines of a head.
* `Head.readRequest?_request` and `Head.readResponse?_response` say what is read.
* `Head.read_back` is the statement, with the place where a head ends.
-/

namespace Wiretap

open Bytes

/-- The version that bytes stand for. -/
def Version.ofBytes? (raw : Bytes) : Option Version :=
  [http09, http10, http11, http2, http3].find? fun version => Bytes.ofString version.text = raw

theorem Version.ofBytes?_text (version : Version) :
    ofBytes? (Bytes.ofString version.text) = some version := by
  cases version <;> decide

namespace Url

/-- The port of an address, if it is not the one that the scheme implies. -/
def ownPort? (url : Url) : Option Nat :=
  (Redirect.portOf url).filter fun port => defaultPort? url.scheme ≠ some port

/-- The host of an address, with the port if it is not the one that the scheme implies. -/
def shownHost? (url : Url) : Option String :=
  url.hostText?.map fun host =>
    match url.ownPort? with
    | some port => host ++ ":" ++ toString port
    | none => host

theorem Legible.ownPort?_eq {url : Url} (h : url.Legible) : url.ownPort? = url.port := by
  rw [ownPort?, Redirect.portOf]
  cases hPort : url.port with
  | none =>
      rw [Option.none_or]
      cases hImplied : defaultPort? url.scheme with
      | none => rfl
      | some port => simp [Option.filter]
  | some port => simp [Option.filter, h.port port hPort]

end Url

namespace Head

/-- What the head of a request says. -/
structure RequestHead where
  /-- The method. -/
  method : Method
  /-- The path. -/
  path : String
  /-- What follows the question mark, if there is one. -/
  query : Option String
  /-- The version. -/
  version : Version
  /-- The host with its port, if a line has been added for it. -/
  host : Option String
  /-- The headers. -/
  fields : List (Header.Name × Header.Value)
deriving DecidableEq

/-- What the head of a response says. -/
structure ResponseHead where
  /-- The version. -/
  version : Version
  /-- How the request went. -/
  status : Status
  /-- The headers. -/
  fields : List (Header.Name × Header.Value)
deriving DecidableEq

/-- The first word of a line, the last one, and what lies between them. -/
def words? (line : Bytes) : Option (Bytes × Bytes × Bytes) := do
  let (first, rest) ← cut? space line
  let (last, between) ← cut? space rest.reverse
  some (first, between.reverse, last.reverse)

/-- The path and the query of what stands in a request line. -/
def splitTarget (chars : List Char) : List Char × Option (List Char) :=
  (chars.takeWhile (· != '?'),
    match chars.dropWhile (· != '?') with
    | _ :: query => some query
    | [] => none)

/-- A line as a header. -/
def readField? (line : Bytes) : Option (Header.Name × Header.Value) := do
  let (name, value) ← cut? (ofString ": ") line
  some (← Header.Name.ofBytes? name, ← Header.Value.ofBytes? value)

/-- Lines as headers, up to an empty line; nothing may follow it. -/
def readFields? : List Bytes → Option (List (Header.Name × Header.Value))
  | [[], []] => some []
  | line :: rest => do
    let field ← readField? line
    let fields ← readFields? rest
    some (field :: fields)
  | [] => none

/-- The line that has been added for the host, if it comes first, and the lines behind it.  It has
a capital letter, which the names of headers have not. -/
def readHost : List Bytes → Option String × List Bytes
  | [] => (none, [])
  | line :: rest =>
    match cut? (ofString ": ") line with
    | some (name, value) =>
      if name = ofString "Host" then (Utf8.text? value, rest) else (none, line :: rest)
    | none => (none, line :: rest)

/-- Reads the head of a request. -/
def readRequest? (head : Bytes) : Option RequestHead :=
  match lines head with
  | [] => none
  | first :: rest => do
    let (method, target, version) ← words? first
    let target ← Utf8.text? target
    let (path, query) := splitTarget target.toList
    let (host, rest) := readHost rest
    some {
      method := ← Method.ofBytes? method
      path := String.ofList path
      query := query.map String.ofList
      version := ← Version.ofBytes? version
      host
      fields := ← readFields? rest }

/-- Reads the number of a status, in front of the phrase if there is one. -/
def readStatus? (words : Bytes) : Option Status := do
  let number :=
    match cut? space words with
    | some (number, _) => number
    | none => words
  let digits ← Utf8.text? number
  Status.ofNat? (Nat.ofDigitChars 10 digits.toList 0)

/-- Reads the head of a response. -/
def readResponse? (head : Bytes) : Option ResponseHead :=
  match lines head with
  | [] => none
  | first :: rest => do
    let (version, words) ← cut? space first
    some {
      version := ← Version.ofBytes? version
      status := ← readStatus? words
      fields := ← readFields? rest }

/-- The first line of a request, without its end. -/
def requestText (method : Method) (url : Url) (version : Version) : Bytes :=
  method.bytes ++ space ++ ofChars url.target ++ space ++ ofString version.text

/-- The line that is added for the host, if it is added, without its end. -/
def hostTexts (url : Url) (headers : Header.Map) : List Bytes :=
  if headers.contains .host then []
  else
    match url.hostText? with
    | some host => [ofString "Host: " ++ ofString host ++ ofChars url.portPart]
    | none => []

/-- The line of a header, without its end. -/
def fieldText (field : Header.Name × Header.Value) : Bytes :=
  field.1.bytes ++ ofString ": " ++ field.2.bytes

/-- The first line of a response, without its end. -/
def statusText (version : Version) (status : Status) : Bytes :=
  ofString version.text ++ space ++ ofString (toString status.code)
    ++ (match status.phrase? with
      | some phrase => space ++ ofString phrase
      | none => [])

section Texts

variable (method : Method) (url : Url) (version : Version) (status : Status)
  (headers : Header.Map)

theorem fieldLines_eq : fieldLines headers = written (headers.fields.map fieldText) ++ crlf := by
  rw [written, List.flatMap_map]
  rfl

theorem hostLine_eq :
    (if headers.contains .host then [] else hostLine url) = written (hostTexts url headers) := by
  unfold hostTexts hostLine
  split
  · rfl
  · cases url.hostText? with
    | none => rfl
    | some host => simp only [written, List.flatMap_singleton]

/-- The lines of the head of a request. -/
theorem request_eq :
    request method url version headers =
      written (requestText method url version ::
        (hostTexts url headers ++ headers.fields.map fieldText)) ++ crlf := by
  have hFirst : requestLine method url version = requestText method url version ++ crlf := rfl
  rw [request, hostLine_eq, fieldLines_eq, hFirst]
  simp only [written, List.flatMap_cons, List.flatMap_append, List.append_assoc]

/-- The lines of the head of a response. -/
theorem response_eq :
    response version status headers =
      written (statusText version status :: headers.fields.map fieldText) ++ crlf := by
  have hFirst : statusLine version status = statusText version status ++ crlf := rfl
  rw [response, fieldLines_eq, hFirst]
  simp only [written, List.flatMap_cons, List.append_assoc]

end Texts

section Clean

variable {line : Bytes} {b : UInt8} {chars : List Char}

theorem not_mem_of_all {legal : UInt8 → Bool} (h : line.all legal = true) (hNot : legal b = false) :
    b ∉ line := by
  intro hMem
  rw [List.all_eq_true.mp h b hMem] at hNot
  cases hNot

theorem isLine_of_all {legal : UInt8 → Bool} (h : line.all legal = true)
    (hReturn : legal 13 = false) (hFeed : legal 10 = false) : IsLine line := by
  intro b hMem
  refine ⟨?_, ?_⟩
  · rintro rfl
    exact not_mem_of_all h hReturn hMem
  · rintro rfl
    exact not_mem_of_all h hFeed hMem

theorem isLine_append {more : Bytes} (hLine : IsLine line) (hMore : IsLine more) :
    IsLine (line ++ more) := List.forall_mem_append.mpr ⟨hLine, hMore⟩

/-- A printable text holds no line end. -/
theorem isLine_ofChars (h : ∀ c ∈ chars, isPrintable c = true) : IsLine (ofChars chars) := by
  have hNone {b : UInt8} (hAscii : b < 128) (hHidden : isPrintable (Char.ofNat b.toNat) = false) :
      b ∉ ofChars chars := fun hMem => by
    rw [h _ (Percent.mem_of_mem_ofChars hMem hAscii)] at hHidden
    cases hHidden
  intro b hMem
  refine ⟨?_, ?_⟩
  · rintro rfl
    exact hNone (by decide) (by decide) hMem
  · rintro rfl
    exact hNone (by decide) (by decide) hMem

theorem all_isTokenByte (method : Method) : method.bytes.all isTokenByte = true :=
  (Bool.and_eq_true_iff.mp method.legal).2

theorem all_isTokenByte_name (name : Header.Name) :
    name.bytes.all (fun b => isTokenByte b && !(65 ≤ b && b ≤ 90)) = true :=
  (Bool.and_eq_true_iff.mp name.legal).2

theorem isPrintable_of_mem_target {url : Url} (h : url.Legible) :
    ∀ c ∈ url.target, isPrintable c = true := by
  refine List.forall_mem_append.mpr ⟨fun c hMem => ?_, ?_⟩
  · exact (Bool.and_eq_true_iff.mp (h.path.isPathChar c hMem)).1
  · cases hQuery : url.query with
    | none =>
        rw [Url.queryPart, hQuery]
        exact List.forall_mem_nil _
    | some query =>
        rw [Url.queryPart, hQuery]
        exact List.forall_mem_cons.mpr ⟨by decide, h.query query hQuery⟩

theorem isPrintable_of_mem_portPart (url : Url) : ∀ c ∈ url.portPart, isPrintable c = true := by
  cases hPort : url.port with
  | none =>
      rw [Url.portPart, hPort]
      exact List.forall_mem_nil _
  | some port =>
      rw [Url.portPart, hPort]
      exact List.forall_mem_cons.mpr ⟨by decide, fun c => isPrintable_of_mem_toString⟩

theorem isPrintable_of_hostText? {url : Url} (h : url.Legible) {host : String}
    (hHost : url.hostText? = some host) : ∀ c ∈ host.toList, isPrintable c = true := by
  unfold Url.hostText? at hHost
  split at hHost
  · cases hHost
  · cases hHost
  next found _ hFound =>
    cases hHost
    exact h.host found hFound

theorem isLine_space : IsLine space :=
  isLine_ofChars (List.all_eq_true.mp (by decide : [' '].all isPrintable = true))

theorem isLine_version (version : Version) : IsLine (ofString version.text) :=
  isLine_ofChars (List.all_eq_true.mp (by cases version <;> decide))

theorem isLine_requestText {url : Url} (h : url.Legible) (method : Method) (version : Version) :
    IsLine (requestText method url version) :=
  isLine_append (isLine_append (isLine_append (isLine_append
    (isLine_of_all (all_isTokenByte method) (by decide) (by decide)) isLine_space)
    (isLine_ofChars (isPrintable_of_mem_target h))) isLine_space) (isLine_version version)

theorem isLine_hostTexts {url : Url} (h : url.Legible) (headers : Header.Map) :
    ∀ line ∈ hostTexts url headers, IsLine line := by
  unfold hostTexts
  split
  · exact List.forall_mem_nil _
  · split
    next host hHost =>
      have hTitle : IsLine (ofString "Host: ") := isLine_ofChars (List.all_eq_true.mp (by decide))
      exact List.forall_mem_singleton.mpr (isLine_append
        (isLine_append hTitle (isLine_ofChars (isPrintable_of_hostText? h hHost)))
        (isLine_ofChars (isPrintable_of_mem_portPart url)))
    next => exact List.forall_mem_nil _

theorem isLine_fieldText (field : Header.Name × Header.Value) : IsLine (fieldText field) :=
  isLine_append (isLine_append
    (isLine_of_all (all_isTokenByte_name field.1) (by decide) (by decide))
    (isLine_ofChars (List.all_eq_true.mp (by decide))))
    (isLine_of_all field.2.legal (by decide) (by decide))

theorem isPrintable_of_phrase? {status : Status} {phrase : String}
    (h : status.phrase? = some phrase) : ∀ c ∈ phrase.toList, isPrintable c = true := by
  unfold Status.phrase? Status.phraseOf at h
  split at h <;> cases h <;> exact List.all_eq_true.mp (by decide)

theorem isLine_statusText (version : Version) (status : Status) :
    IsLine (statusText version status) := by
  have hNumber : ∀ c ∈ (toString status.code).toList, isPrintable c = true :=
    fun c => isPrintable_of_mem_toString
  refine isLine_append (isLine_append (isLine_append (isLine_version version) isLine_space)
    (isLine_ofChars hNumber)) ?_
  split
  next phrase hPhrase =>
    exact isLine_append isLine_space (isLine_ofChars (isPrintable_of_phrase? hPhrase))
  next => exact List.forall_mem_nil _

theorem fieldText_ne_nil (field : Header.Name × Header.Value) : fieldText field ≠ [] := by
  intro hNone
  rw [fieldText, List.append_eq_nil_iff, List.append_eq_nil_iff] at hNone
  exact field.1.bytes_ne_nil hNone.1.1

theorem isLine_fieldTexts (headers : Header.Map) :
    ∀ line ∈ headers.fields.map fieldText, IsLine line := by
  intro line hMem
  obtain ⟨field, -, rfl⟩ := List.mem_map.mp hMem
  exact isLine_fieldText field

section Front

variable {front : List Bytes} (headers : Header.Map) (hLines : ∀ line ∈ front, IsLine line)

include hLines

/-- The lines of headers are found behind other lines, and then the empty one. -/
theorem lines_of_texts :
    lines (written (front ++ headers.fields.map fieldText) ++ crlf) =
      front ++ (headers.fields.map fieldText ++ [[], []]) := by
  rw [lines_written (List.forall_mem_append.mpr ⟨hLines, isLine_fieldTexts headers⟩),
    List.append_assoc]
  rfl

/-- The lines of headers make up a head behind other lines that are not empty. -/
theorem isFramed_of_texts (hSome : front ≠ []) (hFull : [] ∉ front) :
    IsFramed (written (front ++ headers.fields.map fieldText) ++ crlf) := by
  refine isFramed_written (fun hNone => hSome (List.append_eq_nil_iff.mp hNone).1)
    (List.forall_mem_append.mpr ⟨hLines, isLine_fieldTexts headers⟩) ?_
  rw [List.mem_append, not_or]
  refine ⟨hFull, fun hMem => ?_⟩
  obtain ⟨field, -, hNone⟩ := List.mem_map.mp hMem
  exact fieldText_ne_nil field hNone

end Front

theorem nil_not_mem_hostTexts (url : Url) (headers : Header.Map) : [] ∉ hostTexts url headers := by
  unfold hostTexts
  split
  · exact List.not_mem_nil
  · split
    next host hHost =>
      intro hMem
      have hNone := (List.mem_singleton.mp hMem).symm
      rw [List.append_eq_nil_iff, List.append_eq_nil_iff] at hNone
      exact absurd hNone.1.1 (by decide)
    next => exact List.not_mem_nil

/-- The first lines of a request. -/
theorem isLine_requestTexts {url : Url} (h : url.Legible) (method : Method) (version : Version)
    (headers : Header.Map) :
    ∀ line ∈ requestText method url version :: hostTexts url headers, IsLine line :=
  List.forall_mem_cons.mpr ⟨isLine_requestText h method version, isLine_hostTexts h headers⟩

theorem isFramed_request {url : Url} (h : url.Legible) (method : Method) (version : Version)
    (headers : Header.Map) : IsFramed (request method url version headers) := by
  rw [request_eq, ← List.cons_append]
  refine isFramed_of_texts headers (isLine_requestTexts h method version headers)
    (List.cons_ne_nil _ _) ?_
  rw [List.mem_cons, not_or]
  refine ⟨fun hNone => ?_, nil_not_mem_hostTexts url headers⟩
  simp [requestText, space] at hNone

theorem isLine_statusTexts (version : Version) (status : Status) :
    ∀ line ∈ [statusText version status], IsLine line :=
  List.forall_mem_singleton.mpr (isLine_statusText version status)

theorem isFramed_response (version : Version) (status : Status) (headers : Header.Map) :
    IsFramed (response version status headers) := by
  rw [response_eq, ← List.singleton_append]
  refine isFramed_of_texts headers (isLine_statusTexts version status) (List.cons_ne_nil _ _)
    fun hMem => ?_
  have hNone := List.mem_singleton.mp hMem
  simp [statusText, space] at hNone

end Clean

section Reading

theorem words?_append {first last : Bytes} (hFirst : 32 ∉ first) (hLast : 32 ∉ last)
    (between : Bytes) :
    words? (first ++ space ++ between ++ space ++ last) = some (first, between, last) := by
  have hEnd : cut? space (between ++ space ++ last).reverse =
      some (last.reverse, between.reverse) := by
    rw [List.reverse_append, List.reverse_append, ← List.append_assoc]
    exact cut?_append (fun hMem => hLast (List.mem_reverse.mp hMem)) _
  have hStart : cut? space (first ++ space ++ (between ++ space ++ last)) =
      some (first, between ++ space ++ last) := cut?_append hFirst _
  rw [List.append_assoc, List.append_assoc, ← List.append_assoc between, words?, hStart]
  dsimp only [Option.bind_eq_bind, Option.bind_some]
  rw [hEnd, Option.bind_some, List.reverse_reverse, List.reverse_reverse]

/-- A path holds no question mark, so the first one stands in front of the query. -/
theorem splitTarget_target {url : Url} (h : url.Legible) :
    splitTarget url.target = (url.path.chars, url.query) := by
  have hPath : ∀ c ∈ url.path.chars, (c != '?') = true := fun c hMem =>
    (Bool.and_eq_true_iff.mp (h.path.isPathChar c hMem)).2
  rw [splitTarget, Url.target, List.takeWhile_append_of_pos hPath,
    List.dropWhile_append_of_pos hPath, Url.queryPart]
  cases url.query with
  | none => simp
  | some query => simp

/-- A name holds no colon, so the first one ends it. -/
theorem cut?_fieldText (field : Header.Name × Header.Value) :
    cut? (ofString ": ") (fieldText field) = some (field.1.bytes, field.2.bytes) :=
  cut?_append (not_mem_of_all (all_isTokenByte_name field.1) (by decide)) _

theorem readField?_fieldText (field : Header.Name × Header.Value) :
    readField? (fieldText field) = some field := by
  have hName : Header.Name.ofBytes? field.1.bytes = some field.1 := field.1.ofBytes?_bytes
  have hValue : Header.Value.ofBytes? field.2.bytes = some field.2 :=
    Header.Value.ofBytes?_eq_some_iff.mpr rfl
  rw [readField?, cut?_fieldText]
  dsimp only [Option.bind_eq_bind, Option.bind_some]
  rw [hName, hValue]
  rfl

theorem readFields?_fieldTexts (fields : List (Header.Name × Header.Value)) :
    readFields? (fields.map fieldText ++ [[], []]) = some fields := by
  induction fields with
  | nil => rfl
  | cons field rest ih =>
      rw [List.map_cons, List.cons_append, readFields?, readField?_fieldText, ih]
      · rfl
      · exact fun hNone _ => fieldText_ne_nil field hNone

/-- Lines of headers are not taken for the line that is added for the host. -/
theorem readHost_fieldTexts (fields : List (Header.Name × Header.Value)) :
    readHost (fields.map fieldText ++ [[], []]) = (none, fields.map fieldText ++ [[], []]) := by
  cases fields with
  | nil => rfl
  | cons field rest =>
      have hSmall : field.1.bytes ≠ ofString "Host" := by
        intro hName
        have hCapital : (72 : UInt8) ∈ ofString "Host" := by decide
        rw [← hName] at hCapital
        exact not_mem_of_all (all_isTokenByte_name field.1) (by decide) hCapital
      rw [List.map_cons, List.cons_append, readHost, cut?_fieldText]
      exact if_neg hSmall

/-- The host is read from the line that has been added for it. -/
theorem readHost_hostTexts {url : Url} (h : url.Legible) (headers : Header.Map)
    (fields : List (Header.Name × Header.Value)) :
    readHost (hostTexts url headers ++ (fields.map fieldText ++ [[], []])) =
      (if headers.contains .host then none else url.shownHost?,
        fields.map fieldText ++ [[], []]) := by
  rw [hostTexts]
  split
  · exact readHost_fieldTexts fields
  · rw [Url.shownHost?]
    cases hHost : url.hostText? with
    | none => exact readHost_fieldTexts fields
    | some host =>
        have hCut : cut? (ofString ": ")
            (ofString "Host: " ++ ofString host ++ ofChars url.portPart) =
              some (ofString "Host", ofString host ++ ofChars url.portPart) := by
          have hFront : ofString "Host: " = ofString "Host" ++ ofString ": " := by decide
          rw [hFront, List.append_assoc]
          exact cut?_append (by decide) _
        have hText : ofString host ++ ofChars url.portPart =
            ofString (match url.ownPort? with
              | some port => host ++ ":" ++ toString port
              | none => host) := by
          rw [h.ownPort?_eq, Url.portPart]
          cases url.port with
          | none => exact List.append_nil _
          | some port =>
              dsimp only
              rw [ofString_append, ofString_append, List.append_assoc]
              rfl
        rw [List.singleton_append, readHost, hCut]
        dsimp only
        rw [if_pos rfl, hText, Utf8.text?_ofString]
        rfl

theorem readRequest?_request {url : Url} (h : url.Legible) (method : Method) (version : Version)
    (headers : Header.Map) :
    readRequest? (request method url version headers) =
      some {
        method
        path := url.pathText
        query := url.query.map String.ofList
        version
        host := if headers.contains .host then none else url.shownHost?
        fields := headers.fields } := by
  have hLines : lines (request method url version headers) =
      requestText method url version ::
        (hostTexts url headers ++ (headers.fields.map fieldText ++ [[], []])) := by
    rw [request_eq, ← List.cons_append]
    exact lines_of_texts headers (isLine_requestTexts h method version headers)
  have hWords : words? (requestText method url version) =
      some (method.bytes, ofChars url.target, ofString version.text) :=
    words?_append (not_mem_of_all (all_isTokenByte method) (by decide))
      (by cases version <;> decide) _
  have hTarget : Utf8.text? (ofChars url.target) = some (String.ofList url.target) := by
    rw [← Utf8.text?_ofString, ofString, String.toList_ofList]
  have hMethod : Method.ofBytes? method.bytes = some method := dif_pos method.legal
  rw [readRequest?, hLines]
  dsimp only
  rw [hWords]
  dsimp only [Option.bind_eq_bind, Option.bind_some]
  rw [hTarget]
  dsimp only [Option.bind_eq_bind, Option.bind_some]
  rw [String.toList_ofList, splitTarget_target h, readHost_hostTexts h]
  dsimp only
  rw [hMethod, Version.ofBytes?_text, readFields?_fieldTexts]
  rfl

/-- The number of a status is read whether a phrase follows it or not. -/
theorem readStatus?_text (status : Status) :
    readStatus? (ofString (toString status.code) ++
      (match status.phrase? with
        | some phrase => space ++ ofString phrase
        | none => [])) = some status := by
  have hDigits : (toString status.code).toList = Nat.toDigits 10 status.code := by
    rw [Nat.toString_eq_repr, Nat.toList_repr]
  have hNoSpace : 32 ∉ ofString (toString status.code) := by
    intro hMem
    have hDigit := Percent.mem_of_mem_ofChars hMem (by decide)
    rw [hDigits] at hDigit
    exact absurd (Nat.isDigit_of_mem_toDigits (by decide) (by decide) hDigit) (by decide)
  have hNumber : Status.ofNat? (Nat.ofDigitChars 10 (toString status.code).toList 0) =
      some status := by
    rw [hDigits, Nat.ofDigitChars_toDigits (by decide) (by decide)]
    exact dif_pos ⟨status.le_code, status.code_lt⟩
  cases status.phrase? with
  | none =>
      have hCut : cut? space (ofString (toString status.code)) = none := cut?_eq_none hNoSpace
      dsimp only
      rw [List.append_nil, readStatus?, hCut]
      dsimp only
      rw [Utf8.text?_ofString]
      exact hNumber
  | some phrase =>
      dsimp only
      have hCut : cut? space (ofString (toString status.code) ++ (space ++ ofString phrase)) =
          some (ofString (toString status.code), ofString phrase) := by
        rw [← List.append_assoc]
        exact cut?_append hNoSpace _
      rw [readStatus?, hCut]
      dsimp only
      rw [Utf8.text?_ofString]
      exact hNumber

theorem readResponse?_response (version : Version) (status : Status) (headers : Header.Map) :
    readResponse? (response version status headers) =
      some { version, status, fields := headers.fields } := by
  have hLines : lines (response version status headers) =
      statusText version status :: (headers.fields.map fieldText ++ [[], []]) := by
    rw [response_eq, ← List.singleton_append]
    exact lines_of_texts headers (isLine_statusTexts version status)
  have hCut : cut? space (statusText version status) =
      some (ofString version.text, ofString (toString status.code) ++
        (match status.phrase? with
          | some phrase => space ++ ofString phrase
          | none => [])) := by
    rw [statusText, List.append_assoc]
    exact cut?_append (by cases version <;> decide) _
  rw [readResponse?, hLines]
  dsimp only
  rw [hCut]
  dsimp only [Option.bind_eq_bind, Option.bind_some]
  rw [Version.ofBytes?_text, readStatus?_text, readFields?_fieldTexts]
  rfl

end Reading

/-- Let an address have been read, by itself or relative to one that has.  Whatever the method, the
version and the headers are, the head of a request ends at its first empty line, and the reader gets
back from it the method, the path, the query if there is one, the version, every header with every
value in order, and the line for the host: it is there if no header names the host and the address
has one, and it shows the port if that is not the one that the scheme implies.  In the same way the
version, the status and the headers are got back from the head of a response. -/
theorem read_back {url : Url} (h : Url.Read url) (method : Method) (version : Version)
    (status : Status) (headers : Header.Map) :
    IsFramed (request method url version headers) ∧
      readRequest? (request method url version headers) =
        some {
          method
          path := url.pathText
          query := url.query.map String.ofList
          version
          host := if headers.contains .host then none else url.shownHost?
          fields := headers.fields } ∧
      IsFramed (response version status headers) ∧
      readResponse? (response version status headers) =
        some { version, status, fields := headers.fields } :=
  ⟨isFramed_request h.legible method version headers,
    readRequest?_request h.legible method version headers,
    isFramed_response version status headers,
    readResponse?_response version status headers⟩

/-- An address with a port of its own and an empty query, and a header with two values. -/
theorem read_back_of_parsed :
    let url : Url :=
      ⟨"http", [], none, some (.ipv6 ⟨[0, 0, 0, 0, 0, 0, 0, 1], rfl⟩), some 8080,
        .segments ["a%20b".toList], some [], none⟩
    let headers : Header.Map := ⟨[(.known "n", [.known "1: 2", .known ""])]⟩
    Url.parse "HTTP://[0::1]:8080/a b?" = .ok url ∧
      readRequest? (request .get url .http11 headers) =
        some ⟨.get, "/a%20b", some "", .http11, some "[::1]:8080",
          [(.known "n", .known "1: 2"), (.known "n", .known "")]⟩ := by
  intro url headers
  have hParse : Url.parse "HTTP://[0::1]:8080/a b?" = .ok url := by decide +kernel
  obtain ⟨-, hRead, -⟩ := read_back (.parse hParse) .get .http11 ⟨200, by decide, by decide⟩ headers
  exact ⟨hParse, hRead.trans (by decide +kernel)⟩

end Head
end Wiretap
