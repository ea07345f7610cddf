import Wiretap.Text.Inspect

/-!
# Treatment of response bodies

Two flags say what becomes of the body of a response: whether text is decoded,
and whether the body is kept.  Changes are applied in order; each one sets one
flag and leaves the other alone.

* `Treatment` is `ResponseOptionState`, and a change is a `ResponseOption`.
* `Treatment.apply` (`apply`) makes one change, `Treatment.applyAll` (`apply_all`) several.
-/

namespace Wiretap

/-- What becomes of the body of a response. -/
structure Treatment where
  /-- Whether text is decoded. -/
  autoDecode : Bool
  /-- Whether the body is dropped. -/
  discardBody : Bool
deriving DecidableEq

namespace Treatment

/-- Bodies are kept as received. -/
def standard : Treatment := ⟨false, false⟩

/-- A change of one flag. -/
inductive Change where
  /-- Decode text. -/
  | decode
  /-- Keep text as received. -/
  | keepRaw
  /-- Drop bodies. -/
  | discard
  /-- Keep bodies. -/
  | keep
deriving DecidableEq

/-- Makes one change. -/
def apply (treatment : Treatment) : Change → Treatment
  | .decode => { treatment with autoDecode := true }
  | .keepRaw => { treatment with autoDecode := false }
  | .discard => { treatment with discardBody := true }
  | .keep => { treatment with discardBody := false }

/-- Makes changes in order. -/
def applyAll (treatment : Treatment) (changes : List Change) : Treatment :=
  changes.foldl apply treatment

/-- The treatment as shown for inspection. -/
def inspect (treatment : Treatment) : String :=
  Inspect.record "ResponseOptionState" [
    ("auto_decode_text", Inspect.truth treatment.autoDecode),
    ("discard_body", Inspect.truth treatment.discardBody)]

@[simp]
theorem applyAll_nil (treatment : Treatment) : treatment.applyAll [] = treatment := rfl

@[simp]
theorem applyAll_append (treatment : Treatment) (first second : List Change) :
    treatment.applyAll (first ++ second) = (treatment.applyAll first).applyAll second := by
  simp [applyAll]

end Treatment
end Wiretap
