import Wiretap.Dump.Output
import Wiretap.Dump.Preset

/-!
# Dump options

What is captured, how it is written, and where it goes (`DumpOptions`).  Presets
overwrite the four flags and leave the rest alone.

* `Options.empty` (`empty`) and `Options.standard` (`default`) are the options to start from.
* `Options.apply` is what a preset does to options (`apply`).
-/

namespace Wiretap
namespace Dump

/-- What is captured, how it is written, and where it goes. -/
structure Options where
  /-- The parts that are captured. -/
  flags : Flags
  /-- Whether records are written in the background. -/
  isAsync : Bool
  /-- Where records go; without an output they are dropped. -/
  output : Option Output
deriving DecidableEq

namespace Options

/-- Nothing is captured, and there is no output. -/
def empty : Options := ⟨.none, false, none⟩

/-- Everything is captured and goes to standard output at once. -/
def standard : Options := ⟨.all, false, some .stdout⟩

/-- Overwrites the flags by those of a preset. -/
def apply (preset : Preset) (options : Options) : Options :=
  { options with flags := preset.flags }

/-- The options as shown for inspection. -/
def inspect (options : Options) : String :=
  Inspect.record "DumpOptions" [
    ("request_head", Inspect.truth options.flags.requestHead),
    ("request_body", Inspect.truth options.flags.requestBody),
    ("response_head", Inspect.truth options.flags.responseHead),
    ("response_body", Inspect.truth options.flags.responseBody),
    ("async_mode", Inspect.truth options.isAsync),
    ("output", Inspect.optional (options.output.map Output.inspect))]

/-- The last preset wins. -/
theorem apply_apply (first second : Preset) (options : Options) :
    (options.apply first).apply second = options.apply second := rfl

end Options
end Dump
end Wiretap
