import Wiretap.Proofs.Header.Naming
import Wiretap.Proofs.Text.Utf8
import Wiretap.Proofs.Url.Hosted

/-!
# Characters of addresses that have been read

Any text can be tried as an address, but not much can stand in one.  Whatever does not fit in a part
of an address is coded there, dropped or refused, so what is written of path, query and host is
printable ASCII, and the path holds no question mark.

* `Percent.isPrintable_of_mem_encode` says what coding leaves.
* `Url.Legible` is what holds of an address that has been read.
* `Url.Read` holds of addresses that have been read, by themselves or relative to one that has.
* `Url.Read.legible` is the statement.
-/

namespace Wiretap

/-- Whether a character is a space or a visible character of ASCII. -/
def isPrintable (c : Char) : Bool := 32 ≤ c.toNat && c.toNat < 127

/-- Whether a character may stand in a path. -/
def isPathChar (c : Char) : Bool := isPrintable c && c != '?'

namespace Percent

variable {coded : Class} {bytes : Bytes} {c : Char}

/-- The characters that coding brings in. -/
def marks : List Char := "%0123456789ABCDEF".toList

theorem mem_marks_of_lt : ∀ n : Fin 16, (Nat.digitChar n).toUpper ∈ marks := by decide

theorem mem_marks_of_mem_escaped {b : UInt8} (h : c ∈ escaped b) : c ∈ marks := by
  have hByte : b.toNat < 256 := b.toNat_lt
  simp only [escaped, Bytes.hexDigits, List.map_cons, List.map_nil, List.mem_cons,
    List.not_mem_nil, or_false] at h
  rcases h with rfl | rfl | rfl
  · decide
  · exact mem_marks_of_lt ⟨b.toNat / 16, by omega⟩
  · exact mem_marks_of_lt ⟨b.toNat % 16, Nat.mod_lt _ (by decide)⟩

/-- Coding leaves bytes that need no coding, and brings in its marks. -/
theorem exists_of_mem_encode (h : c ∈ encode coded bytes) :
    (∃ b ∈ bytes, coded b = false ∧ c = Char.ofNat b.toNat) ∨ c ∈ marks := by
  obtain ⟨b, hByte, hMem⟩ := List.mem_flatMap.mp h
  cases hCoded : coded b with
  | true =>
      rw [if_pos hCoded] at hMem
      exact .inr (mem_marks_of_mem_escaped hMem)
  | false =>
      rw [hCoded] at hMem
      exact .inl ⟨b, hByte, hCoded, List.mem_singleton.mp hMem⟩

theorem toNat_ofNat_toNat (b : UInt8) : (Char.ofNat b.toNat).toNat = b.toNat := by
  have hByte : b.toNat < 256 := b.toNat_lt
  exact Utf8.val_ofNat (Or.inl (by omega))

/-- If control characters and what lies outside ASCII are coded, what comes out is printable. -/
theorem isPrintable_of_mem_encode (hControl : ∀ b, control b = true → coded b = true)
    (h : c ∈ encode coded bytes) : isPrintable c = true := by
  rcases exists_of_mem_encode h with ⟨b, -, hPlain, rfl⟩ | hMark
  · have hVisible : control b = false := by
      by_contra hNot
      rw [hControl b (by simpa using hNot)] at hPlain
      cases hPlain
    simp only [control, Bool.or_eq_false_iff, decide_eq_false_iff_not, UInt8.lt_iff_toNat_lt,
      UInt8.le_iff_toNat_le, UInt8.reduceToNat, Nat.not_lt, Nat.not_le] at hVisible
    simp only [isPrintable, toNat_ofNat_toNat, Bool.and_eq_true, decide_eq_true_eq]
    exact hVisible
  · exact List.all_eq_true.mp (by decide : marks.all isPrintable = true) c hMark

theorem controlAnd_of_control {chars : String} {b : UInt8} (h : control b = true) :
    controlAnd chars b = true := by
  rw [controlAnd, h, Bool.true_or]

/-- What comes out for a path may stand in one. -/
theorem isPathChar_of_mem_encode (h : c ∈ encode path bytes) : isPathChar c = true := by
  rw [isPathChar, isPrintable_of_mem_encode (fun _ => controlAnd_of_control) h, Bool.true_and,
    bne_iff_ne]
  rintro rfl
  rcases exists_of_mem_encode h with ⟨b, -, hPlain, hMark⟩ | hMark
  · have hByte : b.toNat = 63 := by
      rw [← toNat_ofNat_toNat, ← hMark]
      rfl
    obtain rfl : b = 63 := UInt8.toNat_inj.mp hByte
    exact absurd hPlain (by decide)
  · exact absurd hMark (by decide)

/-- The bytes of characters hold a byte of ASCII only for the character of that byte. -/
theorem mem_of_mem_ofChars {chars : List Char} {b : UInt8} (h : b ∈ Bytes.ofChars chars)
    (hAscii : b < 128) : Char.ofNat b.toNat ∈ chars := by
  obtain ⟨d, hMem, hByte⟩ := List.mem_flatMap.mp h
  rcases Nat.lt_or_ge d.toNat 128 with hLess | hMore
  · have hForm : String.utf8EncodeChar d = [UInt8.ofNat d.toNat] := by
      have hValue : d.val.toNat ≤ 127 := Nat.le_of_lt_succ hLess
      simp only [String.utf8EncodeChar, hValue, if_true]
      rfl
    rw [hForm, List.mem_singleton] at hByte
    have hSame : b.toNat = d.toNat := by
      rw [hByte, UInt8.toNat_ofNat']
      omega
    rw [hSame, Char.ofNat_toNat]
    exact hMem
  · exact absurd hAscii (UInt8.not_lt.mpr (Bytes.le_of_mem_utf8EncodeChar hMore hByte))

/-- If only control characters are coded, a question mark does not come in. -/
theorem isPathChar_of_mem_encodeChars {chars : List Char} (hMark : '?' ∉ chars)
    (h : c ∈ encodeChars control chars) : isPathChar c = true := by
  rw [isPathChar, isPrintable_of_mem_encode (fun _ => id) h, Bool.true_and, bne_iff_ne]
  rintro rfl
  rcases exists_of_mem_encode h with ⟨b, hByte, -, hQuestion⟩ | hComing
  · have hAscii : b < 128 := by
      rw [UInt8.lt_iff_toNat_lt, ← toNat_ofNat_toNat, ← hQuestion]
      decide
    rw [hQuestion] at hMark
    exact hMark (mem_of_mem_ofChars hByte hAscii)
  · exact absurd hComing (by decide)

end Percent

section Numbers

variable {c : Char}

theorem isPrintable_digitChar : ∀ n : Fin 16, isPrintable (Nat.digitChar n) = true := by decide

/-- Digits are printable in every base that has digits of its own. -/
theorem isPrintable_of_mem_toDigits {base n : Nat} (hBase : 1 < base ∧ base ≤ 16)
    (h : c ∈ Nat.toDigits base n) : isPrintable c = true := by
  induction n using Nat.strongRecOn with
  | ind n ih =>
      rw [Nat.toDigits_eq_if hBase.1] at h
      split at h
      next hLess =>
        rw [List.mem_singleton.mp h]
        exact isPrintable_digitChar ⟨n, by omega⟩
      next hMore =>
        rcases List.mem_append.mp h with hFront | hLast
        · exact ih (n / base) (Nat.div_lt_self (by omega) hBase.1) hFront
        · have hDigit : n % base < base := Nat.mod_lt n (by omega)
          rw [List.mem_singleton.mp hLast]
          exact isPrintable_digitChar ⟨n % base, by omega⟩

/-- Numbers are printable. -/
theorem isPrintable_of_mem_toString {n : Nat} (h : c ∈ (toString n).toList) :
    isPrintable c = true := by
  rw [Nat.toString_eq_repr, Nat.toList_repr] at h
  exact isPrintable_of_mem_toDigits (by decide) h

/-- A text of parts with marks between them is printable if the mark and the parts are. -/
theorem isPrintable_of_mem_intercalate {mark : String} {parts : List String}
    (hMark : ∀ c ∈ mark.toList, isPrintable c = true)
    (hParts : ∀ part ∈ parts, ∀ c ∈ part.toList, isPrintable c = true)
    (h : c ∈ (mark.intercalate parts).toList) : isPrintable c = true := by
  induction parts with
  | nil => cases h
  | cons part rest ih =>
      obtain ⟨hPart, hRest⟩ := List.forall_mem_cons.mp hParts
      cases rest with
      | nil =>
          rw [String.intercalate_singleton] at h
          exact hPart c h
      | cons next later =>
          rw [String.intercalate_cons_cons, String.toList_append, String.toList_append,
            List.mem_append, List.mem_append] at h
          rcases h with (hFirst | hBetween) | hLater
          · exact hPart c hFirst
          · exact hMark c hBetween
          · exact ih hRest hLater

theorem Ipv4.isPrintable_text {address : Nat} (h : c ∈ (text address).toList) :
    isPrintable c = true := by
  refine isPrintable_of_mem_intercalate (List.all_eq_true.mp (by decide))
    (fun part hPart c hMem => ?_) h
  obtain ⟨unit, -, rfl⟩ := List.mem_map.mp hPart
  exact isPrintable_of_mem_toString hMem

theorem Ipv6.isPrintable_joined {pieces : List Nat} (h : c ∈ (joined pieces).toList) :
    isPrintable c = true := by
  refine isPrintable_of_mem_intercalate (List.all_eq_true.mp (by decide))
    (fun part hPart c hMem => ?_) h
  obtain ⟨piece, -, rfl⟩ := List.mem_map.mp hPart
  rw [String.toList_ofList] at hMem
  exact isPrintable_of_mem_toDigits (by decide) hMem

theorem Ipv6.isPrintable_text {address : Address} (h : c ∈ (text address).toList) :
    isPrintable c = true := by
  rw [text] at h
  split at h
  · exact isPrintable_joined h
  · simp only [String.toList_append, List.mem_append] at h
    rcases h with (hBefore | hGap) | hAfter
    · exact isPrintable_joined hBefore
    · exact List.all_eq_true.mp (by decide : "::".toList.all isPrintable = true) c hGap
    · exact isPrintable_joined hAfter

end Numbers

namespace Host

variable {chars : List Char} {host : Host} {c : Char}

theorem isPrintable_of_parseBracketed (h : parseBracketed chars = .ok host)
    (hMem : c ∈ host.text.toList) : isPrintable c = true := by
  unfold parseBracketed at h
  split at h
  · split at h
    · cases h
      simp only [text, String.toList_append, List.mem_append] at hMem
      rcases hMem with (hOpen | hInner) | hClose
      · exact List.all_eq_true.mp (by decide : "[".toList.all isPrintable = true) c hOpen
      · exact Ipv6.isPrintable_text hInner
      · exact List.all_eq_true.mp (by decide : "]".toList.all isPrintable = true) c hClose
    · cases h
  · cases h

/-- What is not denied in the name of a domain is printable. -/
theorem isPrintable_of_toAscii? {name : Bytes} {ascii : List Char}
    (h : Idna.toAscii? isDenied name = some ascii) (hMem : c ∈ ascii) : isPrintable c = true := by
  obtain ⟨hAscii, hAllowed⟩ := Idna.of_toAscii?_eq_some h hMem
  simp only [isDenied, Bool.or_eq_false_iff, decide_eq_false_iff_not,
    beq_eq_false_iff_ne] at hAllowed
  obtain ⟨⟨hControl, hLast⟩, -⟩ := hAllowed
  simp only [isPrintable, Bool.and_eq_true, decide_eq_true_eq]
  omega

theorem isPrintable_of_parse (h : parse chars = .ok host) (hMem : c ∈ host.text.toList) :
    isPrintable c = true := by
  unfold parse at h
  split at h
  · exact isPrintable_of_parseBracketed h hMem
  · split at h
    · cases h
    next ascii hAscii =>
      split at h
      · cases h
      · split at h
        · split at h
          · cases h
            exact Ipv4.isPrintable_text hMem
          · cases h
        · cases h
          rw [text, String.toList_ofList] at hMem
          exact isPrintable_of_toAscii? hAscii hMem

theorem isPrintable_of_parsePlain (h : parsePlain chars = .ok host)
    (hMem : c ∈ host.text.toList) : isPrintable c = true := by
  unfold parsePlain at h
  split at h
  · cases h
    cases hMem
  · exact isPrintable_of_parseBracketed h hMem
  · split at h
    · cases h
    · cases h
      rw [text, String.toList_ofList] at hMem
      exact Percent.isPrintable_of_mem_encode (fun _ => id) hMem

end Host

namespace Url

section Paths

variable {above segments : List (List Char)} {special : Bool} {chars segment : List Char}

/-- Whether all characters of a segment may stand in a path. -/
def IsPathSegment (segment : List Char) : Prop := ∀ c ∈ segment, isPathChar c = true

theorem isPathSegment_nil : IsPathSegment [] := List.forall_mem_nil _

/-- A dot segment that ends the path leaves an empty segment. -/
theorem isPathSegment_of_mem_withEmpty {last : Bool} (hAbove : ∀ s ∈ above, IsPathSegment s) :
    ∀ s ∈ if last then [] :: above else above, IsPathSegment s := by
  cases last with
  | true => exact List.forall_mem_cons.mpr ⟨isPathSegment_nil, hAbove⟩
  | false => exact hAbove

/-- Dropping dot segments leaves segments of before and empty ones. -/
theorem isPathSegment_of_mem_resolveOnto (hAbove : ∀ s ∈ above, IsPathSegment s)
    (hSegments : ∀ s ∈ segments, IsPathSegment s) :
    ∀ s ∈ resolveOnto above segments, IsPathSegment s := by
  induction segments generalizing above with
  | nil => exact fun s hMem => hAbove s (List.mem_reverse.mp hMem)
  | cons segment rest ih =>
      obtain ⟨hFirst, hRest⟩ := List.forall_mem_cons.mp hSegments
      have hParent : ∀ s ∈ above.drop 1, IsPathSegment s :=
        fun s hMem => hAbove s (List.mem_of_mem_drop hMem)
      rw [resolveOnto]
      split
      · exact ih (isPathSegment_of_mem_withEmpty hParent) hRest
      · split
        · exact ih (isPathSegment_of_mem_withEmpty hAbove) hRest
        · exact ih (List.forall_mem_cons.mpr ⟨hFirst, hAbove⟩) hRest

/-- The same for files, where a drive letter gets a colon. -/
theorem isPathSegment_of_mem_resolveFileOnto (hAbove : ∀ s ∈ above, IsPathSegment s)
    (hSegments : ∀ s ∈ segments, IsPathSegment s) :
    ∀ s ∈ resolveFileOnto above segments, IsPathSegment s := by
  induction segments generalizing above with
  | nil => exact fun s hMem => hAbove s (List.mem_reverse.mp hMem)
  | cons segment rest ih =>
      obtain ⟨hFirst, hRest⟩ := List.forall_mem_cons.mp hSegments
      have hDrive : IsPathSegment (segment.take 1 ++ [':']) :=
        List.forall_mem_append.mpr
          ⟨fun c hMem => hFirst c (List.mem_of_mem_take hMem),
            List.forall_mem_singleton.mpr (by decide)⟩
      unfold resolveFileOnto
      extract_lets parent
      have hParent : ∀ s ∈ parent, IsPathSegment s := by
        unfold parent
        split
        · split
          · exact hAbove
          · exact List.forall_mem_nil _
        · exact fun s hMem => hAbove s (List.mem_of_mem_drop hMem)
      split
      · exact ih (isPathSegment_of_mem_withEmpty hParent) hRest
      · split
        · exact ih (isPathSegment_of_mem_withEmpty hAbove) hRest
        · split
          · exact ih (List.forall_mem_singleton.mpr hDrive) hRest
          · exact ih (List.forall_mem_cons.mpr ⟨hFirst, hAbove⟩) hRest

theorem isPathSegment_of_mem_splitDrive (hSegments : ∀ s ∈ segments, IsPathSegment s) :
    ∀ s ∈ splitDrive segments, IsPathSegment s := by
  unfold splitDrive
  split
  next letter c tail rest =>
    split
    · obtain ⟨hFirst, hRest⟩ := List.forall_mem_cons.mp hSegments
      obtain ⟨hLetter, hBehind⟩ := List.forall_mem_cons.mp hFirst
      obtain ⟨hColon, hTail⟩ := List.forall_mem_cons.mp hBehind
      exact List.forall_mem_cons.mpr
        ⟨List.forall_mem_cons.mpr ⟨hLetter, List.forall_mem_singleton.mpr hColon⟩,
          List.forall_mem_cons.mpr ⟨hTail, hRest⟩⟩
    · exact hSegments
  next => exact hSegments

theorem isPathSegment_of_mem_dropLeadingEmpty (hSegments : ∀ s ∈ segments, IsPathSegment s) :
    ∀ s ∈ dropLeadingEmpty segments, IsPathSegment s := by
  fun_induction dropLeadingEmpty segments with
  | case1 segment rest ih => exact ih (List.forall_mem_cons.mp hSegments).2
  | case2 => exact hSegments

theorem isPathSegment_of_mem_coded :
    ∀ s ∈ (segmentsOf special chars).map (Percent.encodeChars Percent.path), IsPathSegment s := by
  intro s hMem
  obtain ⟨raw, -, rfl⟩ := List.mem_map.mp hMem
  exact fun c hChar => Percent.isPathChar_of_mem_encode hChar

theorem isPathSegment_of_mem_resolve (hAbove : ∀ s ∈ above, IsPathSegment s) :
    ∀ s ∈ resolve special above chars, IsPathSegment s :=
  isPathSegment_of_mem_resolveOnto hAbove isPathSegment_of_mem_coded

theorem isPathSegment_of_mem_resolveFile : ∀ s ∈ resolveFile chars, IsPathSegment s :=
  isPathSegment_of_mem_dropLeadingEmpty (isPathSegment_of_mem_resolveFileOnto
    (List.forall_mem_nil _) (isPathSegment_of_mem_splitDrive isPathSegment_of_mem_coded))

/-- Whether a path is made of characters that may stand in one. -/
def Path.IsLegible : Path → Prop
  | .rootless chars => IsPathSegment chars
  | .segments list => ∀ s ∈ list, IsPathSegment s

theorem Path.IsLegible.isPathChar {path : Path} (h : path.IsLegible) :
    ∀ c ∈ path.chars, isPathChar c = true := by
  cases path with
  | rootless chars => exact h
  | segments list =>
      intro c hMem
      obtain ⟨segment, hSegment, hChar⟩ := List.mem_flatMap.mp hMem
      rcases List.mem_cons.mp hChar with rfl | hInner
      · decide
      · exact h segment hSegment c hInner

theorem isLegible_readAuthorityPath : (readAuthorityPath special chars).IsLegible := by
  unfold readAuthorityPath
  split
  · exact isPathSegment_of_mem_resolve (List.forall_mem_nil _)
  · split <;> exact isPathSegment_of_mem_resolve (List.forall_mem_nil _)
  · split
    · exact List.forall_mem_singleton.mpr isPathSegment_nil
    · exact List.forall_mem_nil _
  · exact isPathSegment_of_mem_resolve (List.forall_mem_nil _)

theorem isPathSegment_of_mem_folder {path : Path} (h : path.IsLegible) :
    ∀ s ∈ folder path, IsPathSegment s := by
  cases path with
  | rootless chars => exact List.forall_mem_nil _
  | segments list => exact fun s hMem => h s (List.mem_reverse.mp (List.mem_of_mem_drop hMem))

end Paths

/-- What holds of an address that has been read. -/
structure Legible (url : Url) : Prop where
  /-- The path is printable and holds no question mark. -/
  path : url.path.IsLegible
  /-- The query is printable. -/
  query : ∀ query, url.query = some query → ∀ c ∈ query, isPrintable c = true
  /-- The host is printable. -/
  host : ∀ host, url.host = some host → ∀ c ∈ host.text.toList, isPrintable c = true
  /-- A port that the scheme implies is left out. -/
  port : ∀ port, url.port = some port → defaultPort? url.scheme ≠ some port

section Parts

variable {special : Bool} {chars : List Char}

theorem isPrintable_of_readTail {query : List Char} (h : (readTail special chars).1 = some query) :
    ∀ c ∈ query, isPrintable c = true := by
  unfold readTail at h
  split at h
  · cases h
    refine fun c hMem => Percent.isPrintable_of_mem_encode (fun b => ?_) hMem
    split <;> exact Percent.controlAnd_of_control
  · cases h

theorem isPrintable_of_readHost {host : Host} {rest : List Char}
    (h : readHost special chars = .ok (host, rest)) :
    ∀ c ∈ host.text.toList, isPrintable c = true := by
  cases hRead : hostOf special (splitHost special false chars).1 with
  | error fault =>
      simp only [readHost, hRead] at h
      cases h
  | ok read =>
      simp only [readHost, hRead] at h
      cases h
      unfold hostOf at hRead
      split at hRead
      · split at hRead
        · cases hRead
        · exact fun c => Host.isPrintable_of_parse hRead
      · exact fun c => Host.isPrintable_of_parsePlain hRead

theorem question_not_mem_splitPath : '?' ∉ (splitPath chars).1 := by
  intro hMem
  simpa using List.mem_takeWhile_imp hMem

end Parts

section Whole

variable {scheme : String} {chars : List Char} {url base : Url}

theorem legible_of_readAuthority (h : readAuthority scheme chars = .ok url) : url.Legible := by
  unfold readAuthority at h
  cases hUser : readUserinfo (isSpecial scheme) chars with
  | error fault => simp [hUser, bind, Except.bind] at h
  | ok user =>
  cases hHost : readHost (isSpecial scheme) user.2 with
  | error fault => simp [hUser, hHost, bind, Except.bind] at h
  | ok host =>
  cases hPort : readHostPort host.1 host.2 with
  | error fault => simp [hUser, hHost, hPort, bind, Except.bind] at h
  | ok port =>
      simp only [hUser, hHost, hPort, bind, Except.bind] at h
      split at h
      · cases h
      cases h
      refine ⟨isLegible_readAuthorityPath, fun query => isPrintable_of_readTail, ?_, ?_⟩
      · rintro found hFound
        cases hFound
        exact isPrintable_of_readHost hHost
      · intro found hFound
        dsimp only at hFound
        split at hFound
        · cases hFound
        next hOwn => exact fun hImplied => hOwn (hFound.trans hImplied.symm)

theorem legible_fileUrl {host : Host} {pathChars tail : List Char}
    (hHost : ∀ c ∈ host.text.toList, isPrintable c = true) :
    (fileUrl host pathChars tail).Legible := by
  refine ⟨isPathSegment_of_mem_resolveFile, fun query => isPrintable_of_readTail, ?_, nofun⟩
  intro found hFound
  dsimp only [fileUrl] at hFound
  -- A drive letter takes the host away.
  split at hFound
  · split at hFound
    · cases hFound
      exact List.forall_mem_nil _
    · cases hFound
      exact hHost
  · cases hFound
    exact hHost

theorem legible_of_readFile (h : readFile chars = .ok url) : url.Legible := by
  have hNone : ∀ c ∈ Host.empty.text.toList, isPrintable c = true := List.forall_mem_nil _
  unfold readFile at h
  dsimp only at h
  split at h
  · split at h
    · split at h
      · cases h
        exact legible_fileUrl hNone
      · split at h
        · cases h
          exact legible_fileUrl hNone
        · split at h
          · cases h
          next host hHost =>
            cases h
            refine legible_fileUrl ?_
            split
            · exact hNone
            · exact fun c => Host.isPrintable_of_parse hHost
    · cases h
      exact legible_fileUrl hNone
  · cases h
    exact legible_fileUrl hNone

theorem legible_of_readPlain (h : readPlain scheme chars = .ok url) : url.Legible := by
  unfold readPlain at h
  split at h
  · exact legible_of_readAuthority h
  · cases h
    refine ⟨?_, fun query => isPrintable_of_readTail, nofun, nofun⟩
    dsimp only
    split
    · exact isPathSegment_of_mem_resolve (List.forall_mem_nil _)
    · exact fun c hMem =>
        Percent.isPathChar_of_mem_encodeChars question_not_mem_splitPath hMem

theorem legible_of_readBehindScheme (h : readBehindScheme scheme chars = .ok url) :
    url.Legible := by
  unfold readBehindScheme at h
  split at h
  · exact legible_of_readFile h
  · split at h
    · exact legible_of_readAuthority h
    · exact legible_of_readPlain h

theorem legible_of_parse {raw : String} (h : parse raw = .ok url) : url.Legible := by
  unfold parse at h
  split at h
  · exact legible_of_readBehindScheme h
  · cases h

/-- What is read relative to an address keeps some of its parts and reads the others. -/
theorem legible_of_joinRelative (hBase : base.Legible) (h : joinRelative base chars = .ok url) :
    url.Legible := by
  have hWith {path : Path} {special : Bool} {tail : List Char} (hPath : path.IsLegible) :
      Legible { base with
        path, query := (readTail special tail).1, fragment := (readTail special tail).2 } :=
    ⟨hPath, fun query => isPrintable_of_readTail, hBase.host, hBase.port⟩
  unfold joinRelative at h
  dsimp only at h
  split at h
  · cases h
    exact ⟨hBase.path, hBase.query, hBase.host, hBase.port⟩
  · cases h
    exact ⟨hBase.path, hBase.query, hBase.host, hBase.port⟩
  · cases h
    exact hWith hBase.path
  · split at h
    · split at h
      · split at h
        · exact legible_of_readAuthority h
        · cases h
          exact hWith (isPathSegment_of_mem_resolve (List.forall_mem_nil _))
      · cases h
        exact hWith (List.forall_mem_singleton.mpr isPathSegment_nil)
    · cases h
      exact hWith (isPathSegment_of_mem_resolve (isPathSegment_of_mem_folder hBase.path))

theorem legible_of_join {raw : String} (hBase : base.Legible) (h : join base raw = .ok url) :
    url.Legible := by
  unfold join at h
  dsimp only at h
  split at h
  · split at h
    · exact legible_of_joinRelative hBase h
    · exact legible_of_readBehindScheme h
  · exact legible_of_joinRelative hBase h

/-- Whether an address has been read: by itself, or relative to one that has been read. -/
inductive Read : Url → Prop
  | parse {url : Url} {raw : String} (h : Url.parse raw = .ok url) : Read url
  | join {base url : Url} {raw : String} (hBase : Read base) (h : Url.join base raw = .ok url) :
      Read url

/-- Whatever an address is read from, it is legible. -/
theorem Read.legible (h : Read url) : url.Legible := by
  induction h with
  | parse h => exact legible_of_parse h
  | join hBase h ih => exact legible_of_join ih h

end Whole

end Url
end Wiretap
