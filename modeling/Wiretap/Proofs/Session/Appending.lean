import Wiretap.Proofs.Session.Confined

/-!
# What is appended to an output

An output that takes every record as a whole is given one record after the other,
and what it has been given is their concatenation.  If it writes at the end of its
place, the place grows by just that.  No other place changes.

* `Dump.Outputs.contents_deposit_self` and `Dump.Outputs.contents_deposit_of_ne` say what a
  deposit does to the places.
* `Dump.Outputs.Gained` says that bytes have been appended to an output, and nothing
  else has been written; `Gained.trans` puts two such changes together.
* `Dump.Outputs.gained_record` says so of a record.
* `Session.gained_dump` says so of a record that a policy writes at once.
-/

namespace Wiretap

section Replacing

variable {α β : Type} [DecidableEq α] (list : List (α × β)) {key other : α} (value : β)

/-- A key whose value has been replaced is found with the new value. -/
theorem find?_replace_self (h : (list.find? fun entry => entry.1 = key).isSome = true) :
    (list.map fun entry => if entry.1 = key then (key, value) else entry).find?
      (fun entry => entry.1 = key) = some (key, value) := by
  induction list with
  | nil => cases h
  | cons entry rest ih =>
      rw [List.map_cons]
      by_cases hKey : entry.1 = key
      · rw [if_pos hKey, List.find?_cons_of_pos (by simp)]
      · rw [List.find?_cons_of_neg (by simpa using hKey)] at h
        rw [if_neg hKey, List.find?_cons_of_neg (by simpa using hKey)]
        exact ih h

/-- Any other key is found as before. -/
theorem find?_replace_of_ne (h : other ≠ key) :
    (list.map fun entry => if entry.1 = key then (key, value) else entry).find?
      (fun entry => entry.1 = other) = list.find? fun entry => entry.1 = other := by
  induction list with
  | nil => rfl
  | cons entry rest ih =>
      rw [List.map_cons]
      by_cases hKey : entry.1 = key
      · have hOther : ¬ entry.1 = other := fun hEq => h (hEq.symm.trans hKey)
        rw [if_pos hKey, List.find?_cons_of_neg (by simpa using h.symm),
          List.find?_cons_of_neg (by simpa using hOther)]
        exact ih
      · rw [if_neg hKey]
        by_cases hOther : entry.1 = other
        · rw [List.find?_cons_of_pos (by simpa using hOther),
            List.find?_cons_of_pos (by simpa using hOther)]
        · rw [List.find?_cons_of_neg (by simpa using hOther),
            List.find?_cons_of_neg (by simpa using hOther)]
          exact ih

end Replacing

namespace Disk

variable (disk : Disk) {location other : Location} (bytes : Bytes)

@[simp]
theorem contents?_put_self : (disk.put location bytes).contents? location = some bytes := by
  unfold put
  split
  next hThere =>
    rw [contents?, Option.isSome_map] at hThere
    simp [contents?, find?_replace_self disk.files bytes hThere]
  next hNone =>
    rw [contents?, Option.isSome_map, Option.not_isSome_iff_eq_none] at hNone
    simp [contents?, List.find?_append, hNone]

theorem contents?_put_of_ne (h : other ≠ location) :
    (disk.put location bytes).contents? other = disk.contents? other := by
  unfold put
  split
  · simp [contents?, find?_replace_of_ne disk.files bytes h]
  · simp [contents?, List.find?_append, h.symm]

end Disk

namespace Dump

/-- A rule that takes every record as a whole; flushing may still fail. -/
def Rule.TakesAll (rule : Rule) : Prop :=
  ∀ before record, record.length ≤ (rule before record).count

theorem Rule.takesAll_takeAll : Rule.takeAll.TakesAll := fun _ _ => Nat.le_refl _

namespace Outputs

section Places

variable (outputs : Outputs) {place other : Place} (offset : Nat) (bytes : Bytes)

@[simp]
theorem buffer_setBuffer_self (name : String) :
    (outputs.setBuffer name bytes).buffer name = bytes := by
  unfold setBuffer
  split
  next hThere =>
    have hFind : (outputs.buffers.find? fun b => b.1 = name).isSome = true := by
      rw [List.find?_isSome]
      simpa using hThere
    simp [buffer, find?_replace_self outputs.buffers bytes hFind]
  next hNone =>
    have hFind : outputs.buffers.find? (fun b => b.1 = name) = none := by
      rw [List.find?_eq_none]
      exact fun entry hMem hName => hNone (List.any_eq_true.2 ⟨entry, hMem, hName⟩)
    simp [buffer, List.find?_append, hFind]

theorem buffer_setBuffer_of_ne {name name' : String} (h : name' ≠ name) :
    (outputs.setBuffer name bytes).buffer name' = outputs.buffer name' := by
  unfold setBuffer
  split
  · simp [buffer, find?_replace_of_ne outputs.buffers bytes h]
  · simp [buffer, List.find?_append, h.symm]

/-- A deposit appends to a place, unless the place is a file and the offset is not its end. -/
theorem contents_deposit_self
    (h : ∀ location, place = .file location → offset = (outputs.contents place).length) :
    (outputs.deposit place offset bytes).contents place = outputs.contents place ++ bytes := by
  cases place with
  | stdout => rfl
  | stderr => rfl
  | buffer name => exact outputs.buffer_setBuffer_self _ name
  | file location =>
      rw [h location rfl]
      simp only [deposit, contents, Disk.writeAt, Disk.contents?_put_self, Option.getD_some]
      exact Disk.overwrite_length _ _

theorem contents_deposit_of_ne (h : other ≠ place) :
    (outputs.deposit place offset bytes).contents other = outputs.contents other := by
  cases place with
  | stdout => cases other <;> first | rfl | exact absurd rfl h
  | stderr => cases other <;> first | rfl | exact absurd rfl h
  | buffer name =>
      cases other with
      | buffer name' => exact outputs.buffer_setBuffer_of_ne _ fun hEq => h (by rw [hEq])
      | _ => simp only [deposit, contents, setBuffer]; split <;> rfl
  | file location =>
      cases other with
      | file location' =>
          have hNe : location' ≠ location := fun hEq => h (by rw [hEq])
          simp only [deposit, contents, Disk.writeAt, outputs.disk.contents?_put_of_ne _ hNe]
      | _ => rfl

end Places

/-- What an output has been given, in order. -/
def received (outputs : Outputs) (output : Output) : Bytes :=
  match outputs.sinks[output.sink]? with
  | some sink => sink.before.reverse.flatten
  | none => []

theorem received_eq {outputs : Outputs} {output : Output} {sink : Sink}
    (h : outputs.sinks[output.sink]? = some sink) :
    outputs.received output = sink.before.reverse.flatten := by
  rw [received, h]

/-- Whether an output writes at the end of its place.  Only a file can have another end than the
place at which it was last written to. -/
def AtEnd (outputs : Outputs) (output : Output) : Prop :=
  ∀ sink location, outputs.sinks[output.sink]? = some sink → sink.place = .file location →
    sink.offset = (outputs.contents sink.place).length

/-- Standard output is no file, so it has no other end. -/
theorem atEnd_stdout (disk : Disk) : (onDisk disk).AtEnd .stdout := by
  intro sink location hSink hFile
  cases hSink
  cases hFile

/-- Bytes have been appended to an output that leads to a place, and nothing else has been
written. -/
structure Gained (output : Output) (place : Place) (bytes : Bytes) (before after : Outputs) :
    Prop where
  /-- The output has been given the bytes. -/
  received : after.received output = before.received output ++ bytes
  /-- The place has grown by them. -/
  contents : before.AtEnd output → after.contents place = before.contents place ++ bytes
  /-- The output still writes at the end. -/
  atEnd : before.AtEnd output → after.AtEnd output
  /-- No other place has changed. -/
  others : ∀ other, other ≠ place → after.contents other = before.contents other

namespace Gained

variable {output : Output} {place : Place} {bytes bytes' : Bytes} {first second third : Outputs}

theorem refl (output : Output) (place : Place) (outputs : Outputs) :
    Gained output place [] outputs outputs :=
  ⟨(List.append_nil _).symm, fun _ => (List.append_nil _).symm, fun h => h, fun _ _ => rfl⟩

theorem trans (h : Gained output place bytes first second)
    (h' : Gained output place bytes' second third) :
    Gained output place (bytes ++ bytes') first third where
  received := by rw [h'.received, h.received, List.append_assoc]
  contents hEnd := by rw [h'.contents (h.atEnd hEnd), h.contents hEnd, List.append_assoc]
  atEnd hEnd := h'.atEnd (h.atEnd hEnd)
  others other hNe := (h'.others other hNe).trans (h.others other hNe)

end Gained

section Records

variable {outputs : Outputs} {output : Output} {place : Place} {rule : Rule}

/-- A warning is no writing. -/
theorem gained_warn (output : Output) (place : Place) (outputs : Outputs) (warning : Warning) :
    Gained output place [] outputs (outputs.warn warning) :=
  ⟨(List.append_nil _).symm, fun _ => (List.append_nil _).symm, fun h => h, fun _ _ => rfl⟩

theorem gained_write (h : outputs.natures[output.sink]? = some (place, rule))
    (hRule : rule.TakesAll) (record : Bytes) :
    Gained output place record outputs (outputs.write output record).1 := by
  rw [natures, List.getElem?_map] at h
  obtain ⟨sink, hSink, hNature⟩ := Option.map_eq_some_iff.1 h
  obtain ⟨rfl, rfl⟩ := Prod.mk.inj hNature
  have hTaken : record.take (sink.rule sink.before record).count = record :=
    List.take_of_length_le (hRule sink.before record)
  have hLt : output.sink < outputs.sinks.length := (List.getElem?_eq_some_iff.1 hSink).1
  simp only [write, hSink, hTaken]
  have hNext (next : Sink) :
      (outputs.sinks.set output.sink next)[output.sink]? = some next :=
    List.getElem?_set_self hLt
  have hContents (hEnd : outputs.AtEnd output) :=
    outputs.contents_deposit_self sink.offset record fun location hPlace =>
      hEnd sink location hSink hPlace
  refine ⟨?_, hContents, ?_, fun other hNe => outputs.contents_deposit_of_ne _ _ hNe⟩
  · rw [received_eq (hNext _), received_eq hSink]
    simp
  · intro hEnd next location hFound hPlace
    cases (hNext _).symm.trans hFound
    have hLength := congrArg List.length (hContents hEnd)
    rw [List.length_append, ← hEnd sink location hSink hPlace] at hLength
    exact hLength.symm

/-- A record is appended to an output that takes it as a whole, whether it can be flushed or
not. -/
theorem gained_record (h : outputs.natures[output.sink]? = some (place, rule))
    (hRule : rule.TakesAll) (record : Bytes) :
    Gained output place record outputs (outputs.record output record) := by
  have hWrite := gained_write h hRule record
  unfold Outputs.record
  dsimp only
  split
  · exact hWrite
  · have hWarn := hWrite.trans (gained_warn output place _ .writeFailed)
    rwa [List.append_nil] at hWarn

end Records

end Outputs
end Dump

namespace Session

/-- A policy writes every record at once to an output that leads to a place and takes records as a
whole. -/
structure WritesAtOnce (session : Session) (policy : Policy) (output : Dump.Output)
    (place : Dump.Place) : Prop where
  hook : policy.1 < session.hooks.length
  sync : policy.2.isAsync = false
  target : policy.2.output = some output
  sink : ∃ rule, session.outputs.natures[output.sink]? = some (place, rule) ∧ rule.TakesAll

section WritesAtOnce

variable {session : Session} {policy : Policy} {output : Dump.Output} {place : Dump.Place}

/-- A policy that is read through a hook has one. -/
theorem lt_of_policy? {hook : Option Nat} (h : session.policy? hook = some policy) :
    policy.1 < session.hooks.length := by
  unfold policy? at h
  simp only [Option.bind_eq_bind, Option.bind_eq_some_iff] at h
  obtain ⟨number, -, found, hFound, options, -, hPolicy⟩ := h
  cases hPolicy
  exact (List.getElem?_eq_some_iff.1 hFound).1

/-- Whatever happens, the policy goes on writing at once, and to the same place. -/
theorem WritesAtOnce.later {after : Session} {target : Option Nat}
    (h : session.WritesAtOnce policy output place) (hConfined : Confined target session after) :
    after.WritesAtOnce policy output place where
  hook := by
    have hLength := hConfined.hooks.length_le
    rw [List.length_map, List.length_map] at hLength
    exact Nat.lt_of_lt_of_le h.hook hLength
  sync := h.sync
  target := h.target
  sink := by
    obtain ⟨rule, hNature, hRule⟩ := h.sink
    exact ⟨rule, hConfined.outputs.nature hNature, hRule⟩

theorem gained_dump (h : session.WritesAtOnce policy output place) (record : Bytes) :
    Dump.Outputs.Gained output place record session.outputs
      (session.dump policy.1 policy.2 record).outputs := by
  have hFound := List.getElem?_eq_getElem h.hook
  obtain ⟨rule, hNature, hRule⟩ := h.sink
  simp only [dump, onHook, hFound, Dump.Hook.write, Dump.Options.job?, h.target, h.sync]
  cases record with
  | nil => exact .refl output place session.outputs
  | cons byte rest => exact Dump.Outputs.gained_record hNature hRule (byte :: rest)

end WritesAtOnce

end Session
end Wiretap
