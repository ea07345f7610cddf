import Mathlib.Data.List.TakeWhile
import Wiretap.Transport.Pool

/-!
# Addresses that name a host

An address may do without a host, unless its scheme is one of those that always have
one.  Whatever text is read, an address of such a scheme names a host, and the
host is not empty.

* `Url.namesHost_of_parse` says so.
* `Url.parse_behind_http` says that a text with the scheme of the protocol in front is
  read as an address of that scheme, whatever the text.
-/

namespace Wiretap

/-- A host of a special scheme is never empty. -/
theorem Host.ne_empty_of_parse {chars : List Char} {host : Host}
    (h : Host.parse chars = .ok host) : host ≠ .empty := by
  unfold Host.parse Host.parseBracketed at h
  grind

namespace Url

variable {scheme : String} {chars : List Char} {url : Url}

theorem namesHost_iff : url.namesHost = true ↔ ∃ host, url.host = some host ∧ host ≠ .empty := by
  unfold namesHost hostText?
  split <;> simp_all

theorem ne_empty_of_hostOf {host : Host} (h : hostOf true chars = .ok host) : host ≠ .empty := by
  rw [hostOf, if_pos rfl] at h
  split at h
  · cases h
  · exact Host.ne_empty_of_parse h

theorem ne_empty_of_readHost {host : Host} {rest : List Char}
    (h : readHost true chars = .ok (host, rest)) : host ≠ .empty := by
  cases hRead : hostOf true (splitHost true false chars).1 with
  | error fault =>
      simp only [readHost, hRead] at h
      cases h
  | ok read =>
      simp only [readHost, hRead] at h
      cases h
      exact ne_empty_of_hostOf hRead

/-- What follows two slashes is an address of the scheme in front, and behind a special scheme it
names a host. -/
theorem readAuthority_inv (h : readAuthority scheme chars = .ok url) :
    url.scheme = scheme ∧ (isSpecial scheme = true → url.namesHost = true) := by
  unfold readAuthority at h
  cases hUser : readUserinfo (isSpecial scheme) chars with
  | error fault => simp [hUser, bind, Except.bind] at h
  | ok user =>
  cases hHost : readHost (isSpecial scheme) user.2 with
  | error fault => simp [hUser, hHost, bind, Except.bind] at h
  | ok host =>
  cases hPort : readHostPort host.1 host.2 with
  | error fault => simp [hUser, hHost, hPort, bind, Except.bind] at h
  | ok port =>
      simp only [hUser, hHost, hPort, bind, Except.bind] at h
      split at h
      · cases h
      cases h
      refine ⟨rfl, fun hSpecial => namesHost_iff.mpr ⟨_, rfl, ?_⟩⟩
      rw [hSpecial] at hHost
      exact ne_empty_of_readHost hHost

theorem scheme_of_readFile (h : readFile chars = .ok url) : url.scheme = "file" := by
  unfold readFile fileUrl at h
  grind

theorem scheme_of_readPlain (h : readPlain scheme chars = .ok url) : url.scheme = scheme := by
  unfold readPlain at h
  split at h
  · exact (readAuthority_inv h).1
  · cases h
    rfl

theorem isHostScheme_file : isHostScheme "file" = false := by decide

/-- Whatever follows it, a scheme becomes that of the address. -/
theorem scheme_of_readBehindScheme (h : readBehindScheme scheme chars = .ok url) :
    url.scheme = scheme := by
  unfold readBehindScheme at h
  split at h
  next hFile => exact (scheme_of_readFile h).trans hFile.symm
  next =>
    split at h
    · exact (readAuthority_inv h).1
    · exact scheme_of_readPlain h

/-- Behind a scheme that always has a host, any number of slashes comes before the authority. -/
theorem readBehindScheme_of_isHostScheme (hScheme : isHostScheme scheme = true) :
    readBehindScheme scheme chars = readAuthority scheme (chars.dropWhile isFileSlash) := by
  have hFile : scheme ≠ "file" := by
    rintro rfl
    rw [isHostScheme_file] at hScheme
    cases hScheme
  rw [readBehindScheme, if_neg hFile, if_pos hScheme]

/-- An address of a scheme that always has a host names one. -/
theorem namesHost_of_readBehindScheme (h : readBehindScheme scheme chars = .ok url)
    (hScheme : isHostScheme scheme = true) : url.namesHost = true := by
  rw [readBehindScheme_of_isHostScheme hScheme] at h
  exact (readAuthority_inv h).2 (by rw [isSpecial, hScheme, Bool.true_or])

theorem namesHost_of_parse {raw : String} (h : parse raw = .ok url)
    (hScheme : isHostScheme url.scheme = true) : url.namesHost = true := by
  unfold parse at h
  split at h
  · rw [scheme_of_readBehindScheme h] at hScheme
    exact namesHost_of_readBehindScheme h hScheme
  · cases h

/-- Dropping blanks at the end stops at the last character that counts. -/
theorem dropWhile_reverse_append (isEdge : Char → Bool) (front rest : List Char)
    (hKept : ∀ c ∈ front, isEdge c = false) :
    ∃ tail, ((front ++ rest).reverse.dropWhile isEdge).reverse = front ++ tail := by
  have hFront : front.reverse.dropWhile isEdge = front.reverse := by
    rw [List.dropWhile_eq_self_iff]
    intro hNonempty
    simpa using hKept _ (List.mem_reverse.mp (List.getElem_mem hNonempty))
  rw [List.reverse_append, List.dropWhile_append]
  split
  · exact ⟨[], by rw [hFront, List.reverse_reverse, List.append_nil]⟩
  · exact ⟨(rest.reverse.dropWhile isEdge).reverse, by
      rw [List.reverse_append, List.reverse_reverse]⟩

/-- A text that starts with characters that count keeps them. -/
theorem cleaned_append (front : List Char) (raw : String) (hKept : ∀ c ∈ front, 32 < c.toNat) :
    ∃ tail, cleaned (String.ofList front ++ raw) = front ++ tail := by
  cases front with
  | nil => exact ⟨_, rfl⟩
  | cons first front =>
      have hEdge : ∀ c ∈ first :: front, decide (c.toNat ≤ 32) = false := fun c hc => by
        simpa using hKept c hc
      have hStart : ((first :: front) ++ raw.toList).dropWhile (fun c => decide (c.toNat ≤ 32)) =
          (first :: front) ++ raw.toList := by
        rw [List.cons_append, List.dropWhile_cons_of_neg (by simp [hEdge first])]
      obtain ⟨tail, hTail⟩ := dropWhile_reverse_append _ _ raw.toList hEdge
      have hKeeps : (first :: front).filter
          (fun c => !(c == '\t' || c == '\n' || c == '\r')) = first :: front := by
        rw [List.filter_eq_self]
        intro c hc
        have hCounts : ∀ {d : Char}, d.toNat ≤ 32 → (c == d) = false := fun hBlank =>
          beq_false_of_ne fun hEq => absurd (hKept c hc) (by rw [hEq]; omega)
        simp only [hCounts (show '\t'.toNat ≤ 32 by decide),
          hCounts (show '\n'.toNat ≤ 32 by decide), hCounts (show '\r'.toNat ≤ 32 by decide)]
        rfl
      refine ⟨tail.filter fun c => !(c == '\t' || c == '\n' || c == '\r'), ?_⟩
      simp only [cleaned, String.toList_append, String.toList_ofList]
      rw [hStart, hTail, List.filter_append, hKeeps]

/-- A text behind the scheme of the protocol is read as an address of that scheme. -/
theorem parse_behind_http (raw : String) :
    ∃ rest, parse ("http://" ++ raw) = readBehindScheme "http" rest := by
  obtain ⟨tail, hTail⟩ := cleaned_append "http://".toList raw (by simp)
  rw [String.ofList_toList] at hTail
  refine ⟨'/' :: '/' :: tail, ?_⟩
  rw [parse, hTail]
  rfl

end Url
end Wiretap
