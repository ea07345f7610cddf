import Wiretap.Dump.Preset

/-!
# Arguments of the command line

Arguments are read from left to right.  A word behind an option that takes a
value is its value, unless it looks like an option itself; a value may also be
joined to its option.  After two hyphens every word is an address.

* `Arguments` is what the arguments ask for.
* `Arguments.parse` reads them; the first fault decides.
-/

namespace Wiretap
namespace Command

/-- What the arguments ask for. -/
structure Arguments where
  /-- The text of the address. -/
  url : String
  /-- The method. -/
  method : String
  /-- The headers, each a name and a value with a colon between them. -/
  headers : List String
  /-- The body. -/
  data : Option String
  /-- The path of the configuration. -/
  config : Option String
  /-- Whether to turn on what helps to find faults. -/
  debug : Bool
  /-- Whether to turn on what helps in tests. -/
  test : Bool
  /-- What to dump. -/
  dump : Option Dump.Preset
  /-- The path of the file for dumps. -/
  dumpFile : Option String
  /-- Whether to write records in the background. -/
  dumpAsync : Bool
  /-- The bound on time in seconds. -/
  timeout : Option UInt64
  /-- Whether to go without proxy. -/
  noProxy : Bool
deriving DecidableEq

/-- What to do instead of sending a request. -/
inductive Refusal where
  /-- Show what can be asked for. -/
  | help
  /-- The arguments are wrong. -/
  | usage
deriving DecidableEq

/-- An option that takes a value. -/
inductive Setting where
  | method
  | header
  | data
  | config
  | dump
  | dumpFile
  | timeout
deriving DecidableEq

/-- An option without a value. -/
inductive Switch where
  | debug
  | test
  | dumpAsync
  | noProxy
  | help
deriving DecidableEq

/-- An option. -/
abbrev Opt : Type := Setting ⊕ Switch

/-- The option of a long name. -/
def longOption? (name : String) : Option Opt :=
  match name with
  | "method" => some (.inl .method)
  | "header" => some (.inl .header)
  | "data" => some (.inl .data)
  | "config" => some (.inl .config)
  | "dump" => some (.inl .dump)
  | "dump-file" => some (.inl .dumpFile)
  | "timeout-secs" => some (.inl .timeout)
  | "debug" => some (.inr .debug)
  | "test" => some (.inr .test)
  | "dump-async" => some (.inr .dumpAsync)
  | "no-proxy" => some (.inr .noProxy)
  | "help" => some (.inr .help)
  | _ => none

/-- The option of a letter. -/
def shortOption? (letter : Char) : Option Opt :=
  match letter with
  | 'X' => some (.inl .method)
  | 'H' => some (.inl .header)
  | 'd' => some (.inl .data)
  | 'h' => some (.inr .help)
  | _ => none

/-- What has been read so far. -/
structure Reading where
  /-- The address. -/
  url : Option String
  /-- The options with their values, first one first. -/
  settings : List (Setting × String)
  /-- The options without values. -/
  switches : List Switch
deriving DecidableEq

namespace Reading

/-- Nothing has been read. -/
def start : Reading := ⟨none, [], []⟩

/-- The number that a text denotes, if it fits 64 bits. -/
def seconds? (raw : String) : Option UInt64 :=
  let digits := match raw.toList with
    | '+' :: rest => rest
    | chars => chars
  if digits.isEmpty || !digits.all Char.isDigit then none
  else
    let n : Nat := digits.foldl (fun n c => n * 10 + (c.toNat - 48)) 0
    if n < Nat.pow 2 64 then some n.toUInt64 else none

/-- Whether an option can have a value. -/
def admits (setting : Setting) (value : String) : Bool :=
  match setting with
  | .config => value ≠ ""
  | .dumpFile => value ≠ ""
  | .dump => (Dump.Preset.ofText? value).isSome
  | .timeout => (seconds? value).isSome
  | _ => true

/-- Takes an option with its value; only headers may be given several times. -/
def set (reading : Reading) (setting : Setting) (value : String) : Except Refusal Reading :=
  if !admits setting value then .error .usage
  else if setting ≠ .header ∧ (reading.settings.any fun s => s.1 = setting) then .error .usage
  else .ok { reading with settings := reading.settings ++ [(setting, value)] }

/-- Takes an option without a value, once at most. -/
def switchOn (reading : Reading) (switch : Switch) : Except Refusal Reading :=
  if switch = .help then .error .help
  else if reading.switches.contains switch then .error .usage
  else .ok { reading with switches := reading.switches ++ [switch] }

/-- Takes an address; there can be one only. -/
def address (reading : Reading) (word : String) : Except Refusal Reading :=
  if reading.url.isSome then .error .usage else .ok { reading with url := some word }

/-- Takes the letters behind a hyphen: switches, and at last perhaps an option that takes the rest
as its value, or the next word if there is no rest. -/
def letters (reading : Reading) : List Char → Except Refusal (Reading × Option Setting)
  | [] => .ok (reading, none)
  | letter :: rest =>
    match shortOption? letter with
    | none => .error .usage
    | some (.inr switch) =>
      match reading.switchOn switch with
      | .ok next => next.letters rest
      | .error refusal => .error refusal
    | some (.inl setting) =>
      match rest with
      | [] => .ok (reading, some setting)
      | '=' :: value => (reading.set setting (String.ofList value)).map fun next => (next, none)
      | value => (reading.set setting (String.ofList value)).map fun next => (next, none)

/-- Takes the name behind two hyphens, perhaps with a value joined by an equals sign. -/
def long (reading : Reading) (chars : List Char) : Except Refusal (Reading × Option Setting) :=
  let name := String.ofList (chars.takeWhile (· != '='))
  match longOption? name, chars.dropWhile (· != '=') with
  | none, _ => .error .usage
  | some (.inr switch), [] => (reading.switchOn switch).map fun next => (next, none)
  | some (.inr _), _ :: _ => .error .usage
  | some (.inl setting), [] => .ok (reading, some setting)
  | some (.inl setting), _ :: value =>
    (reading.set setting (String.ofList value)).map fun next => (next, none)

/-- Takes the words in order, given the option that waits for its value. -/
def words (reading : Reading) : Option Setting → List String → Except Refusal Reading
  | none, [] => .ok reading
  | some _, [] => .error .usage
  | waiting, word :: rest =>
    match word.toList, waiting with
    | ['-', '-'], none => rest.foldlM address reading
    | ['-', '-'], some _ => .error .usage
    | '-' :: '-' :: chars, none =>
      match reading.long chars with
      | .ok (next, waiting) => next.words waiting rest
      | .error refusal => .error refusal
    | '-' :: '-' :: _, some _ => .error .usage
    | '-' :: c :: chars, none =>
      match reading.letters (c :: chars) with
      | .ok (next, waiting) => next.words waiting rest
      | .error refusal => .error refusal
    | '-' :: _ :: _, some _ => .error .usage
    | _, some setting =>
      match reading.set setting word with
      | .ok next => next.words none rest
      | .error refusal => .error refusal
    | _, none =>
      match reading.address word with
      | .ok next => next.words none rest
      | .error refusal => .error refusal

/-- The value of an option. -/
def value? (reading : Reading) (setting : Setting) : Option String :=
  (reading.settings.find? fun s => s.1 = setting).map Prod.snd

/-- The values of an option, in order. -/
def values (reading : Reading) (setting : Setting) : List String :=
  (reading.settings.filter fun s => s.1 = setting).map Prod.snd

/-- What has been read, if it goes together: there is an address, and at most one mode. -/
def finish (reading : Reading) : Except Refusal Arguments :=
  match reading.url with
  | none => .error .usage
  | some url =>
    let debug := reading.switches.contains .debug
    let test := reading.switches.contains .test
    if debug && test then .error .usage
    else
      .ok {
        url := url
        method := (reading.value? .method).getD "GET"
        headers := reading.values .header
        data := reading.value? .data
        config := reading.value? .config
        debug := debug
        test := test
        dump := (reading.value? .dump).bind Dump.Preset.ofText?
        dumpFile := reading.value? .dumpFile
        dumpAsync := reading.switches.contains .dumpAsync
        timeout := (reading.value? .timeout).bind seconds?
        noProxy := reading.switches.contains .noProxy }

end Reading

/-- Reads arguments. -/
def Arguments.parse (words : List String) : Except Refusal Arguments :=
  (Reading.start.words none words).bind Reading.finish

end Command
end Wiretap
