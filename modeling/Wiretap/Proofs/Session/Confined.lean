import Wiretap.Proofs.Session.Outputs
import Wiretap.Session

/-!
# What changes in a session

Clients share a session, and each of them works on it through a cell of its own.
What may happen to a session is said here once, so that a client can be followed
through everything that others do: nothing that has been made goes away, hooks
keep reading the cells that they were made for, and the options of at most one
cell change.

* `Session.Confined` says that what happened is confined to a cell, or to none.
* `Confined.trans`, `Confined.widen` and `Confined.absorb` put changes together.
* Each operation of a session has a lemma that says to which cell it is confined.
-/

namespace Wiretap

namespace Dump.Hook

/-- A hook keeps its cell, and the outputs last, whatever is done with them. -/
def Keeps (act : Hook → Outputs → Hook × Outputs) : Prop :=
  ∀ hook outputs, (act hook outputs).1.cell = hook.cell ∧ Outputs.Lasts outputs (act hook outputs).2

theorem keeps_enqueue (job : Job) : Keeps fun hook outputs => hook.enqueue job outputs := by
  intro hook outputs
  dsimp only
  rcases Nat.lt_or_ge hook.queue.length queueLimit with hRoom | hFull
  · rw [enqueue_of_lt hRoom]
    exact ⟨rfl, Outputs.Lasts.refl outputs⟩
  · rw [enqueue_of_le hFull]
    exact ⟨rfl, outputs.lasts_warn _⟩

theorem keeps_write (options : Options) (record : Bytes) :
    Keeps fun hook outputs => hook.write options record outputs := by
  intro hook outputs
  simp only [write]
  split
  · exact ⟨rfl, Outputs.Lasts.refl outputs⟩
  next job _ =>
    split
    · exact keeps_enqueue job hook outputs
    · exact ⟨rfl, outputs.lasts_record job.output job.record⟩

@[simp]
theorem cell_take (hook : Hook) : hook.take.cell = hook.cell := by
  unfold take
  split <;> rfl

@[simp]
theorem cell_release (hook : Hook) : hook.release.cell = hook.cell := by
  unfold release
  split <;> rfl

theorem keeps_deliver : Keeps deliver := by
  intro hook outputs
  refine ⟨hook.cell_release, ?_⟩
  rw [deliver, put]
  split
  next job _ => exact outputs.lasts_record job.output job.record
  · exact Outputs.Lasts.refl outputs

theorem keeps_step : Keeps step := by
  intro hook outputs
  unfold step
  split
  · exact keeps_deliver hook outputs
  · exact ⟨hook.cell_take, Outputs.Lasts.refl outputs⟩

theorem keeps_work (passes : Job → Bool) (times : Nat) : Keeps (work passes times) := by
  induction times with
  | zero => exact fun hook outputs => ⟨rfl, Outputs.Lasts.refl outputs⟩
  | succ times ih =>
      intro hook outputs
      simp only [work]
      split
      · split
        · have hDeliver := keeps_deliver hook.take outputs
          have hRest := ih (hook.take.deliver outputs).1 (hook.take.deliver outputs).2
          exact ⟨hRest.1.trans (hDeliver.1.trans hook.cell_take), hDeliver.2.trans hRest.2⟩
        · exact ⟨hook.cell_take, Outputs.Lasts.refl outputs⟩
      · exact ⟨hook.cell_take, Outputs.Lasts.refl outputs⟩

theorem keeps_drain : Keeps drain := fun hook outputs => keeps_work _ _ hook outputs

end Dump.Hook

namespace Session

/-- The cell that a hook reads. -/
def hookCell? (session : Session) (hook : Nat) : Option Nat :=
  (session.hooks.map Dump.Hook.cell)[hook]?

/-- A hook reads what is in its cell. -/
theorem policy?_of_hookCell? {session : Session} {hook cell : Nat}
    (h : session.hookCell? hook = some cell) :
    session.policy? (some hook) = (session.options? cell).map fun options => (hook, options) := by
  rw [hookCell?, List.getElem?_map] at h
  obtain ⟨found, hFound, rfl⟩ := Option.map_eq_some_iff.1 h
  unfold policy?
  cases hOptions : session.options? found.cell with
  | none => simp [hFound, hOptions]
  | some options => simp [hFound, hOptions]

/-- What happened to a session is confined to a cell, or to none: the options of no other cell
have changed, and everything else has at most been added to. -/
structure Confined (target : Option Nat) (before after : Session) : Prop where
  outputs : Dump.Outputs.Lasts before.outputs after.outputs
  cells : before.cells.length ≤ after.cells.length
  filled : ∀ cell, (before.options? cell).isSome = true → (after.options? cell).isSome = true
  others : ∀ cell, cell < before.cells.length → target ≠ some cell →
    after.options? cell = before.options? cell
  hooks : before.hooks.map Dump.Hook.cell <+: after.hooks.map Dump.Hook.cell
  jars : before.jars.length ≤ after.jars.length

namespace Confined

variable {target : Option Nat} {first second third : Session}

theorem refl (target : Option Nat) (session : Session) : Confined target session session :=
  ⟨.refl _, Nat.le_refl _, fun _ h => h, fun _ _ _ => rfl, List.prefix_rfl, Nat.le_refl _⟩

theorem trans (h : Confined target first second) (h' : Confined target second third) :
    Confined target first third where
  outputs := h.outputs.trans h'.outputs
  cells := Nat.le_trans h.cells h'.cells
  filled cell hFilled := h'.filled cell (h.filled cell hFilled)
  others cell hLt hNe :=
    (h'.others cell (Nat.lt_of_lt_of_le hLt h.cells) hNe).trans (h.others cell hLt hNe)
  hooks := h.hooks.trans h'.hooks
  jars := Nat.le_trans h.jars h'.jars

/-- What is confined to no cell is confined to any. -/
theorem widen (h : Confined none first second) (target : Option Nat) :
    Confined target first second :=
  { h with others := fun cell hLt _ => h.others cell hLt (by simp) }

/-- What happens to a cell that was not there before changes none of those that were. -/
theorem absorb {cell : Nat} (h : Confined none first second) (hNew : first.cells.length ≤ cell)
    (h' : Confined (some cell) second third) : Confined none first third := by
  refine { (h.widen (some cell)).trans h' with others := ?_ }
  intro other hLt _
  refine ((h.widen (some cell)).trans h').others other hLt ?_
  intro hEq
  cases hEq
  exact absurd hLt (Nat.not_lt.2 hNew)

theorem hookCell? (h : Confined target first second) {hook cell : Nat}
    (hCell : first.hookCell? hook = some cell) : second.hookCell? hook = some cell :=
  getElem?_of_prefix h.hooks hCell

end Confined

/-- Writing changes nothing but the outputs. -/
theorem confined_outputs {session : Session} {outputs : Dump.Outputs}
    (h : Dump.Outputs.Lasts session.outputs outputs) (target : Option Nat) :
    Confined target session { session with outputs := outputs } :=
  ⟨h, Nat.le_refl _, fun _ h => h, fun _ _ _ => rfl, List.prefix_rfl, Nat.le_refl _⟩

theorem confined_warn (session : Session) (warning : Dump.Warning) (target : Option Nat) :
    Confined target session (session.warn warning) :=
  confined_outputs (session.outputs.lasts_warn warning) target

theorem confined_setOptions (session : Session) (cell : Nat) (options : Dump.Options) :
    Confined (some cell) session (session.setOptions cell options) where
  outputs := .refl _
  cells := by simp [setOptions]
  filled other hFilled := by
    by_cases hEq : cell = other
    · subst hEq
      rw [options?_setOptions_self session options (lt_of_isSome_join hFilled)]
      rfl
    · rw [options?_setOptions_of_ne session options hEq]
      exact hFilled
  others other _ hNe := options?_setOptions_of_ne session options fun hEq => hNe (congrArg some hEq)
  hooks := List.prefix_rfl
  jars := Nat.le_refl _

theorem options?_addCell_of_lt (session : Session) (content : Option Dump.Options) {cell : Nat}
    (h : cell < session.cells.length) :
    (session.addCell content).1.options? cell = session.options? cell := by
  simp [options?, addCell, List.getElem?_append_left h]

/-- A new cell holds what it was made with. -/
@[simp]
theorem options?_addCell_self (session : Session) (content : Option Dump.Options) :
    (session.addCell content).1.options? session.cells.length = content := by
  simp [options?, addCell]

theorem confined_addCell (session : Session) (content : Option Dump.Options) :
    Confined none session (session.addCell content).1 where
  outputs := .refl _
  cells := by simp [addCell]
  filled cell hFilled := by
    rw [options?_addCell_of_lt session content (lt_of_isSome_join hFilled)]
    exact hFilled
  others cell hLt _ := options?_addCell_of_lt session content hLt
  hooks := List.prefix_rfl
  jars := Nat.le_refl _

theorem confined_addJar (session : Session) : Confined none session session.addJar.1 where
  outputs := .refl _
  cells := Nat.le_refl _
  filled _ hFilled := hFilled
  others _ _ _ := rfl
  hooks := List.prefix_rfl
  jars := by simp [addJar]

theorem confined_attachHook (session : Session) (cell : Nat) (target : Option Nat) :
    Confined target session (session.attachHook cell).1 where
  outputs := .refl _
  cells := Nat.le_refl _
  filled _ hFilled := hFilled
  others _ _ _ := rfl
  hooks := by simp [attachHook]
  jars := Nat.le_refl _

/-- A new hook reads the cell that it was made for. -/
@[simp]
theorem hookCell?_attachHook_self (session : Session) (cell : Nat) :
    (session.attachHook cell).1.hookCell? (session.attachHook cell).2 = some cell := by
  simp [hookCell?, attachHook, Dump.Hook.onCell]

theorem confined_onHook (session : Session) (number : Nat)
    {act : Dump.Hook → Dump.Outputs → Dump.Hook × Dump.Outputs} (h : Dump.Hook.Keeps act) :
    Confined none session (session.onHook number act) := by
  unfold onHook
  split
  · exact .refl none session
  next found hFound =>
    obtain ⟨hCell, hOutputs⟩ := h found session.outputs
    have hHooks := map_set_eq_map Dump.Hook.cell hFound _ hCell
    exact ⟨hOutputs, Nat.le_refl _, fun _ h => h, fun _ _ _ => rfl,
      ⟨[], (List.append_nil _).trans hHooks.symm⟩, Nat.le_refl _⟩

theorem confined_dump (session : Session) (hook : Nat) (options : Dump.Options) (record : Bytes) :
    Confined none session (session.dump hook options record) :=
  session.confined_onHook hook (Dump.Hook.keeps_write options record)

theorem confined_work (session : Session) (hook : Nat) :
    Confined none session (session.work hook) :=
  session.confined_onHook hook Dump.Hook.keeps_step

theorem confined_drain (session : Session) (hook : Nat) :
    Confined none session (session.drain hook) :=
  session.confined_onHook hook Dump.Hook.keeps_drain

theorem confined_setJar (session : Session) (number : Option Nat) (jar : Option Cookie.Jar) :
    Confined none session (session.setJar number jar) := by
  unfold setJar
  split
  · exact ⟨.refl _, Nat.le_refl _, fun _ h => h, fun _ _ _ => rfl, List.prefix_rfl, by simp⟩
  · exact .refl none session

end Session
end Wiretap
