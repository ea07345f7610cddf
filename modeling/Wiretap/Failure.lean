import Wiretap.Duration
import Wiretap.Url.Basic

/-!
# Failures

The ways in which a request can fail, from a fault in how it was put together to
a fault of the connection.  Each cause has one wording, given by `message`.

* `Failure` is what `send` tells its caller (`ClientError`).
* `Setback` has one case more: the program does not come back to the caller at all.
-/

namespace Wiretap

/-- Why a transport gives no response. -/
inductive TransportFault where
  /-- The address cannot be requested. -/
  | unsupported (url : Url)
  /-- There is no connection, or no well-formed head comes over it. -/
  | unanswered (url : Url)
  /-- Too many redirects have been followed. -/
  | redirects (url : Url)
  /-- The body breaks off or is malformed. -/
  | body
deriving DecidableEq

/-- What is said of a fault of the transport. -/
def TransportFault.message : TransportFault → String
  | .unsupported url => "builder error for url (" ++ url.text ++ ")"
  | .unanswered url => "error sending request for url (" ++ url.text ++ ")"
  | .redirects url => "error following redirect for url (" ++ url.text ++ ")"
  | .body => "error decoding response body"

/-- Why a request fails or a transport cannot be built. -/
inductive Failure where
  /-- The address is none. -/
  | invalidUrl (fault : UrlFault)
  /-- The method is no token. -/
  | invalidMethod (raw : String)
  /-- A header has no legal name or value. -/
  | invalidHeader (name reason : String)
  /-- There is no address. -/
  | missingUrl
  /-- The time is up. -/
  | timeout (limit : Duration)
  /-- The transport gives no response. -/
  | transport (fault : TransportFault)
  /-- A document cannot be written or read; the reason is that of whoever writes or reads it. -/
  | json (reason : String)
  /-- No connections can be set up. -/
  | unbuildable (reason : String)
deriving DecidableEq

/-- What is said of a failure. -/
def Failure.message : Failure → String
  | .invalidUrl fault => "invalid URL: " ++ fault.message
  | .invalidMethod raw => "invalid method: " ++ raw
  | .invalidHeader name reason => "invalid header " ++ name ++ ": " ++ reason
  | .missingUrl => "request has no URL"
  | .timeout limit => "request timed out after " ++ limit.text
  | .transport fault => "transport error: " ++ fault.message
  | .json reason => "json error: " ++ reason
  | .unbuildable reason => "failed to build transport: " ++ reason

/-- How it comes to nothing when a request is put together and sent. -/
inductive Setback where
  /-- The caller is told a failure. -/
  | failure (failure : Failure)
  /-- The program breaks down: no map has room for so many headers. -/
  | panic
deriving DecidableEq

section MapError

variable {ε δ α : Type} {f : ε → δ} {result : Except ε α}

@[simp] theorem mapError_eq_ok_iff {value : α} :
    result.mapError f = .ok value ↔ result = .ok value := by
  cases result with
  | error fault => exact ⟨nofun, nofun⟩
  | ok value =>
      exact ⟨fun h => congrArg Except.ok (Except.ok.inj h),
        fun h => congrArg Except.ok (Except.ok.inj h)⟩

@[simp] theorem mapError_eq_error_iff {told : δ} :
    result.mapError f = .error told ↔ ∃ fault, result = .error fault ∧ f fault = told := by
  cases result with
  | error fault =>
      refine ⟨fun h => ⟨fault, rfl, Except.error.inj h⟩, ?_⟩
      rintro ⟨_, h, rfl⟩
      exact congrArg (fun other => Except.error (f other)) (Except.error.inj h)
  | ok value => exact ⟨nofun, nofun⟩

/-- Results can be told apart if their faults still can. -/
theorem mapError_injective (h : Function.Injective f) :
    Function.Injective fun result : Except ε α => result.mapError f := by
  intro left right hSame
  cases left with
  | error fault =>
      obtain ⟨other, rfl, hOther⟩ := mapError_eq_error_iff.mp (Eq.symm hSame)
      rw [h hOther]
  | ok value => exact (mapError_eq_ok_iff.mp (Eq.symm hSame)).symm

end MapError

end Wiretap
