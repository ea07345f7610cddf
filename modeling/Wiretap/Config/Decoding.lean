import Wiretap.Config.Basic
import Wiretap.Config.Setting

/-!
# Reading configurations

* A section is a table of its fields, or a list of them in order; fields that are
  missing have their defaults, and tables may have further fields.
* `Config.ofSetting?` reads a whole configuration; headers come out in the order
  of their names.
-/

namespace Wiretap
namespace Config
namespace Setting

/-- Reads a truth value. -/
def truth? : Setting → Option Bool
  | .truth value => some value
  | _ => none

/-- Reads a whole number. -/
def count? : Setting → Option UInt64
  | .count value => some value
  | _ => none

/-- Reads a text. -/
def text? : Setting → Option String
  | .text value => some value
  | _ => none

/-- Reads a text that may be missing. -/
def optionalText? : Setting → Option (Option String)
  | .null => some none
  | .text value => some (some value)
  | _ => none

/-- Reads one of several names. -/
def choice? {α : Type} (ofName? : String → Option α) : Setting → Option α
  | .text name => ofName? name
  | .table (some name) _ => ofName? name
  | _ => none

/-- Whether a setting can describe a section with a given number of fields. -/
def isSection (width : Nat) : Setting → Bool
  | .table _ _ => true
  | .list closed items => !closed || items.length ≤ width
  | _ => false

/-- The setting of a field, by name in a table and by place in a list. -/
def field? (place : Nat) (name : String) : Setting → Option Setting
  | .table _ entries => (entries.find? fun entry => entry.1 = name).map Prod.snd
  | .list _ items => items[place]?
  | _ => none

/-- Reads a field of a section. -/
def read? {α : Type} (s : Setting) (place : Nat) (name : String)
    (reader : Setting → Option α) (standard : α) : Option α :=
  match s.field? place name with
  | some value => reader value
  | none => some standard

/-- Reads texts by name. -/
def texts? : Setting → Option (List (String × String))
  | .table _ entries => entries.mapM fun entry => entry.2.text?.map (entry.1, ·)
  | _ => none

end Setting

open Setting

/-- Reads the timeouts. -/
def Timeouts.ofSetting? (s : Setting) : Option Timeouts :=
  if s.isSection 3 then do
    let request ← s.read? 0 "request_secs" count? standard.request
    let connect ← s.read? 1 "connect_secs" count? standard.connect
    let idle ← s.read? 2 "idle_secs" count? standard.idle
    some ⟨request, connect, idle⟩
  else none

/-- Reads the settings of connections. -/
def Transport.ofSetting? (s : Setting) : Option Transport :=
  if s.isSection 4 then do
    let http2 ← s.read? 0 "http2" truth? standard.http2
    let maxIdlePerHost ← s.read? 1 "max_idle_per_host" count? standard.maxIdlePerHost
    let proxy ← s.read? 2 "proxy" (fun v => v.text?.map Proxy.ofText) standard.proxy
    let cookies ← s.read? 3 "cookies" truth? standard.cookies
    some ⟨http2, maxIdlePerHost, proxy, cookies⟩
  else none

/-- Reads the settings of dumps. -/
def Dump.ofSetting? (s : Setting) : Option Dump :=
  if s.isSection 4 then do
    let enabled ← s.read? 0 "enabled" truth? standard.enabled
    let preset ← s.read? 1 "preset" (choice? Wiretap.Dump.Preset.ofName?) standard.preset
    let isAsync ← s.read? 2 "async_mode" truth? standard.isAsync
    let output ← s.read? 3 "output" text? standard.output
    some ⟨enabled, preset, isAsync, output⟩
  else none

/-- Reads the settings of response bodies. -/
def treatmentOf? (s : Setting) : Option Treatment :=
  if s.isSection 2 then do
    let autoDecode ← s.read? 0 "auto_decode_text" truth? Treatment.standard.autoDecode
    let discardBody ← s.read? 1 "discard_body" truth? Treatment.standard.discardBody
    some ⟨autoDecode, discardBody⟩
  else none

/-- Puts names in order; of several values of one name the last stays. -/
def orderHeaders (headers : List (String × String)) : List (String × String) :=
  let kept := headers.foldr (fun header kept =>
    if kept.any fun other => other.1 = header.1 then kept else header :: kept) []
  kept.mergeSort fun a b => a.1 ≤ b.1

/-- Reads a configuration. -/
def ofSetting? (s : Setting) : Option Config :=
  if s.isSection 7 then do
    let timeouts ← s.read? 0 "timeouts" Timeouts.ofSetting? Timeouts.standard
    let transport ← s.read? 1 "transport" Transport.ofSetting? Transport.standard
    let headers ← s.read? 2 "headers" (fun v => v.texts?.map orderHeaders) []
    let userAgent ← s.read? 3 "user_agent" optionalText? none
    let dump ← s.read? 4 "dump" Dump.ofSetting? Dump.standard
    let response ← s.read? 5 "response" treatmentOf? Treatment.standard
    let mode ← s.read? 6 "mode" (choice? Mode.ofName?) Mode.normal
    some ⟨timeouts, transport, headers, userAgent, dump, response, mode⟩
  else none

/-- Reads a configuration from a document. -/
def ofJson? (document : Json) : Option Config := ofSetting? (.ofJson document)

/-- Reads a configuration from the value of a file. -/
def ofToml? (value : Toml.Value) : Option Config := ofSetting? (.ofToml value)

end Config
end Wiretap
