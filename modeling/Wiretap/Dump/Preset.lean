import Wiretap.Text.Ascii

/-!
# Capture flags and presets

Four parts of an exchange can be captured.  A preset names a choice of parts and
overwrites whatever was chosen before.

* `Flags` are the four flags, with `Flags.capturesRequest` (`captures_request`) and
  `Flags.capturesResponse` (`captures_response`).
* `Preset` is `DumpPreset`, and `Preset.flags` is what it hands to `set_flags`.
* `Preset.ofText?` (`from_str`) reads a preset.
-/

namespace Wiretap
namespace Dump

/-- Which parts of an exchange are captured. -/
structure Flags where
  /-- The head of the request. -/
  requestHead : Bool
  /-- The body of the request. -/
  requestBody : Bool
  /-- The head of the response. -/
  responseHead : Bool
  /-- The body of the response. -/
  responseBody : Bool
deriving DecidableEq

namespace Flags

/-- No part. -/
def none : Flags := ⟨false, false, false, false⟩

/-- Every part. -/
def all : Flags := ⟨true, true, true, true⟩

/-- Whether a part of the request is captured. -/
def capturesRequest (flags : Flags) : Bool := flags.requestHead || flags.requestBody

/-- Whether a part of the response is captured. -/
def capturesResponse (flags : Flags) : Bool := flags.responseHead || flags.responseBody

end Flags

/-- A named choice of parts. -/
inductive Preset where
  /-- Every part. -/
  | all
  /-- The heads of both sides. -/
  | head
  /-- The bodies of both sides. -/
  | body
  /-- Head and body of the request. -/
  | request
  /-- Head and body of the response. -/
  | response
deriving DecidableEq

namespace Preset

/-- The parts of a preset. -/
def flags : Preset → Flags
  | .all => .all
  | .head => ⟨true, false, true, false⟩
  | .body => ⟨false, true, false, true⟩
  | .request => ⟨true, true, false, false⟩
  | .response => ⟨false, false, true, true⟩

/-- The name of a preset. -/
def name : Preset → String
  | .all => "all"
  | .head => "head"
  | .body => "body"
  | .request => "request"
  | .response => "response"

/-- The preset of an exact name. -/
def ofName? : String → Option Preset
  | "all" => some .all
  | "head" => some .head
  | "body" => some .body
  | "request" => some .request
  | "response" => some .response
  | _ => none

/-- Reads a preset of any letter case. -/
def ofText? (raw : String) : Option Preset := ofName? (Ascii.lower raw)

/-- What is said of a text that names no preset. -/
def unknownMessage (raw : String) : String :=
  "unknown dump preset '" ++ Ascii.lower raw
    ++ "' (expected all, head, body, request or response)"

/-- The preset as shown for inspection. -/
def inspect : Preset → String
  | .all => "All"
  | .head => "Head"
  | .body => "Body"
  | .request => "Request"
  | .response => "Response"

/-- A name stands for its own preset only. -/
theorem ofName?_eq_some_iff {raw : String} {preset : Preset} :
    ofName? raw = some preset ↔ raw = preset.name := by
  constructor
  · intro h
    unfold ofName? at h
    split at h <;> cases h <;> rfl
  · rintro rfl
    cases preset <;> rfl

end Preset
end Dump
end Wiretap
