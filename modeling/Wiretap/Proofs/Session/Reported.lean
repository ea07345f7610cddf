import Wiretap.Proofs.Session.Appending

/-!
# What a report leaves behind

A call that cannot be made leads to a warning and a message to a logger.  This puts
something into the outputs that would not be there otherwise, and nothing reads it
again.  So whatever is done next, the outputs with the report and those without it
stay the same but for the report.

* `Report` is a warning with a message, and `Report.sent` are the outputs after it.
* `Dump.Outputs.Seen` compares what can be read with and without a report, and
  `Dump.Outputs.Beside` compares the outputs as a whole.
* Each operation on outputs has a lemma that says that it goes the same way on both
  sides: `beside_deposit`, `beside_log`, `beside_record`, `beside_openFile` and others.
* `Session.Beside` compares sessions, and `Report.Same` what is done in them.
-/

namespace Wiretap

/-- Something has been put into a list. -/
def Inserted {α : Type} (piece before after : List α) : Prop :=
  ∃ front back, before = front ++ back ∧ after = front ++ piece ++ back

section Inserted

variable {α : Type} {piece before after : List α}

theorem inserted_append (piece before : List α) : Inserted piece before (before ++ piece) :=
  ⟨before, [], (List.append_nil _).symm, (List.append_nil _).symm⟩

theorem Inserted.append (h : Inserted piece before after) (rest : List α) :
    Inserted piece (before ++ rest) (after ++ rest) := by
  obtain ⟨front, back, rfl, rfl⟩ := h
  exact ⟨front, back ++ rest, List.append_assoc _ _ _, List.append_assoc _ _ _⟩

end Inserted

/-- What is reported of something that could not be done. -/
structure Report where
  /-- The logger. -/
  logger : Logger
  /-- The message to the logger. -/
  message : String
  /-- The warning. -/
  warning : Dump.Warning
  /-- The outputs as they were before. -/
  outputs : Dump.Outputs

namespace Report

variable (report : Report)

/-- The outputs after the report. -/
def sent : Dump.Outputs :=
  report.logger.log report.message (report.outputs.warn report.warning)

/-- The place to which the message is written, if it is written to one. -/
def place? : Option Dump.Place :=
  match report.logger with
  | .writer place => some place
  | _ => none

/-- What is written there. -/
def text : Bytes := Bytes.ofString (report.message ++ "\n")

/-- The warnings to which the report comes; a logger may turn the message into one. -/
def warnings : List Dump.Warning :=
  match report.logger with
  | .warnings => [report.warning, .message report.message]
  | _ => [report.warning]

/-- If the message is written to a file, that file has been there before. -/
def Lands : Prop :=
  ∀ location, report.place? = some (.file location) →
    (report.outputs.disk.contents? location).isSome = true

end Report

namespace Disk

/-- The files that are there after one has been written. -/
theorem isSome_contents?_put (disk : Disk) (location other : Location) (bytes : Bytes) :
    ((disk.put location bytes).contents? other).isSome =
      (decide (other = location) || (disk.contents? other).isSome) := by
  by_cases hOther : other = location
  · subst hOther
    simp
  · simp [disk.contents?_put_of_ne bytes hOther, hOther]

/-- A file that is created is empty, and nothing else changes. -/
theorem eq_put_of_create {disk next : Disk} {location : Location} {path : String}
    (h : disk.create path = .ok (next, location)) : next = disk.put location [] := by
  unfold create at h
  cases hWalk : disk.walk path with
  | error fault =>
      rw [hWalk] at h
      cases h
  | ok walked =>
      rw [hWalk] at h
      simp only [bind, Except.bind] at h
      split at h
      · cases h
      · split at h
        · cases h
        · cases h
          rfl
        · cases h
          rfl
        · cases h

/-- What comes of creating a file depends on the directories and on which files are there. -/
theorem create_agrees {disk other : Disk} (hGround : other.ground = disk.ground)
    (hFiles : ∀ location, (other.contents? location).isSome = (disk.contents? location).isSome)
    (path : String) :
    (other.create path).map Prod.snd = (disk.create path).map Prod.snd := by
  have hHome : other.home = disk.home := congrArg Prod.fst hGround
  have hDirectories : other.directories = disk.directories := congrArg Prod.snd hGround
  have hEnter : other.enter = disk.enter := by
    funext location name
    unfold enter isDirectory
    rw [hDirectories, hFiles]
  have hWalk : other.walk path = disk.walk path := by
    unfold walk
    rw [hHome, hEnter]
  unfold create
  rw [hWalk, hEnter]
  cases disk.walk path with
  | error fault => rfl
  | ok walked =>
      simp only [bind, Except.bind]
      split
      · rfl
      · split <;> rfl

end Disk

namespace Dump
namespace Outputs

section Deposits

variable (outputs : Outputs) (place : Place) (offset : Nat) (bytes : Bytes)

@[simp]
theorem sinks_deposit : (outputs.deposit place offset bytes).sinks = outputs.sinks := by
  cases place with
  | buffer name =>
      simp only [deposit, setBuffer]
      split <;> rfl
  | _ => rfl

@[simp]
theorem warnings_deposit : (outputs.deposit place offset bytes).warnings = outputs.warnings := by
  cases place with
  | buffer name =>
      simp only [deposit, setBuffer]
      split <;> rfl
  | _ => rfl

/-- Only a deposit in a file can bring a file about. -/
theorem isSome_contents?_deposit (location : Disk.Location) :
    ((outputs.deposit place offset bytes).disk.contents? location).isSome =
      (decide (place = .file location) || (outputs.disk.contents? location).isSome) := by
  cases place with
  | stdout => rfl
  | stderr => rfl
  | buffer name =>
      simp only [deposit, setBuffer]
      split <;> rfl
  | file other =>
      simp only [deposit, Disk.writeAt, Disk.isSome_contents?_put, Place.file.injEq, eq_comm]

theorem contents_deposit_file (location : Disk.Location) :
    (outputs.deposit (.file location) offset bytes).contents (.file location) =
      Disk.overwrite (outputs.contents (.file location)) offset bytes := by
  simp only [deposit, contents, Disk.writeAt, Disk.contents?_put_self, Option.getD_some]

end Deposits

/-- What can be read differs by a report at most: the same files are there, every place but that of
the logger holds the same, that of the logger holds the message as well, and there are the warnings
of the report.  Of a file to which a logger writes no more is said, because others may write over
what is in it. -/
structure Seen (report : Report) (left right : Outputs) : Prop where
  files : ∀ location,
    (right.disk.contents? location).isSome = (left.disk.contents? location).isSome
  others : ∀ place, report.place? ≠ some place → right.contents place = left.contents place
  own : ∀ place, report.place? = some place → (∀ location, place ≠ .file location) →
    Inserted report.text (left.contents place) (right.contents place)
  warnings : Inserted report.warnings left.warnings right.warnings

/-- Outputs differ by a report at most. -/
structure Beside (report : Report) (left right : Outputs) : Prop where
  sinks : right.sinks = left.sinks
  ground : right.disk.ground = left.disk.ground
  seen : report.Lands → Seen report left right

section Beside

variable {report : Report} {left right : Outputs}

theorem beside_warn (h : Beside report left right) (warning : Warning) :
    Beside report (left.warn warning) (right.warn warning) where
  sinks := h.sinks
  ground := h.ground
  seen hLands :=
    have hSeen := h.seen hLands
    ⟨hSeen.files, hSeen.others, hSeen.own, hSeen.warnings.append [warning]⟩

/-- A deposit goes the same way on both sides.  In a file it has to be made at one offset. -/
theorem seen_deposit (h : Seen report left right) (place : Place) {offset offset' : Nat}
    (bytes : Bytes)
    (hOffset : ∀ location, place = .file location → report.place? ≠ some place →
      offset' = offset) :
    Seen report (left.deposit place offset bytes) (right.deposit place offset' bytes) where
  files location := by
    rw [isSome_contents?_deposit, isSome_contents?_deposit, h.files]
  others other hOther := by
    by_cases hPlace : other = place
    · subst hPlace
      cases other with
      | file location =>
          rw [contents_deposit_file, contents_deposit_file, h.others _ hOther,
            hOffset location rfl hOther]
      | _ =>
          rw [contents_deposit_self _ _ _ (by rintro _ ⟨⟩),
            contents_deposit_self _ _ _ (by rintro _ ⟨⟩), h.others _ hOther]
    · rw [contents_deposit_of_ne _ _ _ hPlace, contents_deposit_of_ne _ _ _ hPlace,
        h.others other hOther]
  own other hOwn hFile := by
    have hInserted := h.own other hOwn hFile
    by_cases hPlace : other = place
    · subst hPlace
      rw [contents_deposit_self _ _ _ fun location hEq => absurd hEq (hFile location),
        contents_deposit_self _ _ _ fun location hEq => absurd hEq (hFile location)]
      exact hInserted.append bytes
    · rw [contents_deposit_of_ne _ _ _ hPlace, contents_deposit_of_ne _ _ _ hPlace]
      exact hInserted
  warnings := by
    rw [warnings_deposit, warnings_deposit]
    exact h.warnings

theorem beside_deposit_of_agree (h : Beside report left right) (place : Place)
    {offset offset' : Nat}
    {bytes bytes' : Bytes} (hBytes : report.Lands → bytes' = bytes)
    (hOffset : report.Lands → ∀ location, place = .file location → report.place? ≠ some place →
      offset' = offset) :
    Beside report (left.deposit place offset bytes) (right.deposit place offset' bytes') where
  sinks := by rw [sinks_deposit, sinks_deposit, h.sinks]
  ground := by rw [ground_deposit, ground_deposit, h.ground]
  seen hLands := by
    rw [hBytes hLands]
    exact seen_deposit (h.seen hLands) place bytes (hOffset hLands)

theorem beside_deposit (h : Beside report left right) (place : Place) (offset : Nat)
    (bytes : Bytes) :
    Beside report (left.deposit place offset bytes) (right.deposit place offset bytes) :=
  beside_deposit_of_agree h place (fun _ => rfl) fun _ _ _ _ => rfl

/-- What has been said before makes no difference to a logger. -/
theorem beside_log (h : Beside report left right) (logger : Logger) {message message' : String}
    (hMessage : report.Lands → message' = message) :
    Beside report (logger.log message left) (logger.log message' right) := by
  cases logger with
  | silent => exact h
  | warnings =>
      refine ⟨h.sinks, h.ground, fun hLands => ?_⟩
      rw [hMessage hLands]
      exact (beside_warn h (.message message)).seen hLands
  | writer place =>
      refine beside_deposit_of_agree h place (fun hLands => ?_) fun hLands location _ hOther => ?_
      · rw [hMessage hLands]
      · rw [(h.seen hLands).others place hOther]

theorem beside_openSink (h : Beside report left right) (label : String) (place : Place)
    (rule : Rule) :
    (right.openSink label place rule).2 = (left.openSink label place rule).2 ∧
      Beside report (left.openSink label place rule).1 (right.openSink label place rule).1 := by
  simp only [openSink, h.sinks, true_and]
  exact ⟨rfl, h.ground, fun hLands =>
    have hSeen := h.seen hLands
    ⟨hSeen.files, hSeen.others, hSeen.own, hSeen.warnings⟩⟩

theorem beside_write (h : Beside report left right) (output : Output) (record : Bytes) :
    (right.write output record).2 = (left.write output record).2 ∧
      Beside report (left.write output record).1 (right.write output record).1 := by
  simp only [write, h.sinks]
  cases left.sinks[output.sink]? with
  | none => exact ⟨rfl, h⟩
  | some sink =>
      have hDeposited := beside_deposit h sink.place sink.offset
        (record.take (sink.rule sink.before record).count)
      exact ⟨rfl, rfl, hDeposited.ground, fun hLands =>
        have hSeen := hDeposited.seen hLands
        ⟨hSeen.files, hSeen.others, hSeen.own, hSeen.warnings⟩⟩

theorem beside_record (h : Beside report left right) (output : Output) (bytes : Bytes) :
    Beside report (left.record output bytes) (right.record output bytes) := by
  obtain ⟨hOk, hWritten⟩ := beside_write h output bytes
  simp only [record, hOk]
  split
  · exact hWritten
  · exact beside_warn hWritten .writeFailed

theorem beside_emptied (h : Beside report left right) (location : Disk.Location) :
    Beside report { left with disk := left.disk.put location [] }
      { right with disk := right.disk.put location [] } where
  sinks := h.sinks
  ground := by rw [Disk.ground_put, Disk.ground_put, h.ground]
  seen hLands :=
    have hSeen := h.seen hLands
    { files := by
        intro other
        rw [Disk.isSome_contents?_put, Disk.isSome_contents?_put, hSeen.files]
      others := by
        intro place hOther
        cases place with
        | file other =>
            have hSame := hSeen.others _ hOther
            simp only [contents] at hSame ⊢
            by_cases hEq : other = location
            · subst hEq
              rw [Disk.contents?_put_self, Disk.contents?_put_self]
            · rw [Disk.contents?_put_of_ne _ _ hEq, Disk.contents?_put_of_ne _ _ hEq, hSame]
        | _ => exact hSeen.others _ hOther
      own := by
        intro place hOwn hFile
        cases place with
        | file other => exact absurd rfl (hFile other)
        | _ => exact hSeen.own _ hOwn hFile
      warnings := hSeen.warnings }

/-- Opening a file goes the same way on both sides: either it cannot be opened, or the handles are
the same. -/
theorem beside_openFile (h : Beside report left right) (path : String) :
    (∃ fault fault', left.openFile path = .error fault ∧ right.openFile path = .error fault' ∧
        (report.Lands → fault' = fault)) ∨
      ∃ next next' output, left.openFile path = .ok (next, output) ∧
        right.openFile path = .ok (next', output) ∧ Beside report next next' := by
  have hCreate := Disk.toOption_create h.ground path
  unfold openFile openFileAs
  cases hLeft : left.disk.create path with
  | error fault =>
      cases hRight : right.disk.create path with
      | error fault' =>
          refine Or.inl ⟨fault, fault', rfl, rfl, fun hLands => ?_⟩
          -- Which fault it is depends on the files that are there, not on the directories alone.
          have hAgree := Disk.create_agrees h.ground (h.seen hLands).files path
          rw [hLeft, hRight] at hAgree
          cases hAgree
          rfl
      | ok created =>
          rw [hLeft, hRight] at hCreate
          cases hCreate
  | ok created =>
      cases hRight : right.disk.create path with
      | error fault' =>
          rw [hLeft, hRight] at hCreate
          cases hCreate
      | ok created' =>
          obtain ⟨disk, location⟩ := created
          obtain ⟨disk', location'⟩ := created'
          rw [hLeft, hRight] at hCreate
          cases hCreate
          rw [Disk.eq_put_of_create hLeft, Disk.eq_put_of_create hRight]
          obtain ⟨hOutput, hOpened⟩ := beside_openSink (beside_emptied h location) path
            (.file location) .takeAll
          refine Or.inr ⟨_, _, _, rfl, ?_, hOpened⟩
          exact congrArg (fun output => Except.ok (_, output)) hOutput

end Beside

/-- The outputs after a report are those before it, but for the report. -/
theorem beside_sent (report : Report) : Beside report report.outputs report.sent := by
  obtain ⟨logger, message, warning, outputs⟩ := report
  -- By logger: only one that writes reaches a place, and only one that warns adds a warning.
  have hWarnings := inserted_append [warning] outputs.warnings
  cases logger with
  | silent =>
      refine ⟨rfl, rfl, fun _ => ⟨fun _ => rfl, fun _ _ => rfl, ?_, hWarnings⟩⟩
      rintro place ⟨⟩
  | warnings =>
      have hBoth := inserted_append [warning, .message message] outputs.warnings
      refine ⟨rfl, rfl, fun _ => ⟨fun _ => rfl, fun _ _ => rfl, ?_, ?_⟩⟩
      · rintro place ⟨⟩
      · rw [List.append_cons] at hBoth
        exact hBoth
  | writer place =>
      have hSent : (Report.mk (.writer place) message warning outputs).sent =
          (outputs.warn warning).deposit place (outputs.contents place).length
            (Bytes.ofString (message ++ "\n")) := rfl
      rw [hSent]
      refine ⟨by rw [sinks_deposit]; rfl, by rw [ground_deposit]; rfl, fun hLands => ?_⟩
      refine ⟨?_, ?_, ?_, ?_⟩
      · intro location
        rw [isSome_contents?_deposit]
        by_cases hPlace : place = .file location
        · rw [hLands location (congrArg some hPlace), decide_eq_true hPlace]
          rfl
        · rw [decide_eq_false hPlace]
          rfl
      · intro other hOther
        rw [contents_deposit_of_ne _ _ _ fun hEq => hOther (congrArg some hEq.symm)]
        rfl
      · rintro other ⟨⟩ hFile
        rw [contents_deposit_self _ _ _ fun location hEq => absurd hEq (hFile location)]
        exact inserted_append _ _
      · rw [warnings_deposit]
        exact hWarnings

end Outputs

namespace Hook

/-- What is done with a hook goes the same way, whether there has been a report or not. -/
def Overlooks (act : Hook → Outputs → Hook × Outputs) : Prop :=
  ∀ ⦃report left right⦄, Outputs.Beside report left right → ∀ hook,
    (act hook right).1 = (act hook left).1 ∧
      Outputs.Beside report (act hook left).2 (act hook right).2

theorem overlooks_enqueue (job : Job) : Overlooks fun hook outputs => hook.enqueue job outputs := by
  intro report left right h hook
  dsimp only
  rcases Nat.lt_or_ge hook.queue.length queueLimit with hRoom | hFull
  · rw [enqueue_of_lt hRoom, enqueue_of_lt hRoom]
    exact ⟨rfl, h⟩
  · rw [enqueue_of_le hFull, enqueue_of_le hFull]
    exact ⟨rfl, Outputs.beside_warn h .queueFull⟩

theorem overlooks_write (options : Options) (record : Bytes) :
    Overlooks fun hook outputs => hook.write options record outputs := by
  intro report left right h hook
  simp only [write]
  cases options.job? record with
  | none => exact ⟨rfl, h⟩
  | some job =>
      dsimp only
      split
      · exact overlooks_enqueue job h hook
      · exact ⟨rfl, Outputs.beside_record h job.output job.record⟩

theorem overlooks_deliver : Overlooks deliver := by
  intro report left right h hook
  refine ⟨rfl, ?_⟩
  simp only [deliver, put]
  cases hook.inHand with
  | none => exact h
  | some job => exact Outputs.beside_record h job.output job.record

theorem overlooks_step : Overlooks step := by
  intro report left right h hook
  unfold step
  split
  · exact overlooks_deliver h hook
  · exact ⟨rfl, h⟩

theorem overlooks_work (passes : Job → Bool) (times : Nat) : Overlooks (work passes times) := by
  induction times with
  | zero => exact fun _ _ _ h _ => ⟨rfl, h⟩
  | succ times ih =>
      intro report left right h hook
      -- Which job is next is settled by the hook; the outputs have no say in it.
      simp only [work]
      cases hook.take.inHand with
      | none => exact ⟨rfl, h⟩
      | some job =>
          dsimp only
          split
          · obtain ⟨hHook, hOutputs⟩ := overlooks_deliver h hook.take
            rw [hHook]
            exact ih hOutputs _
          · exact ⟨rfl, h⟩

theorem overlooks_drain : Overlooks drain :=
  fun _ _ _ h hook => overlooks_work _ _ h hook

end Hook
end Dump

namespace Session

/-- Sessions differ by a report in their outputs at most. -/
inductive Beside (report : Report) (left : Session) : Session → Prop
  | intro (outputs : Dump.Outputs) (h : Dump.Outputs.Beside report left.outputs outputs) :
      Beside report left { left with outputs := outputs }

section Beside

variable {report : Report} {left right : Session}

theorem Beside.outputs (h : Beside report left right) :
    Dump.Outputs.Beside report left.outputs right.outputs := by
  obtain ⟨outputs, hOutputs⟩ := h
  exact hOutputs

theorem beside_onHook (h : Beside report left right) (number : Nat)
    {act : Dump.Hook → Dump.Outputs → Dump.Hook × Dump.Outputs} (hAct : Dump.Hook.Overlooks act) :
    Beside report (left.onHook number act) (right.onHook number act) := by
  obtain ⟨outputs, hOutputs⟩ := h
  simp only [onHook]
  cases left.hooks[number]? with
  | none => exact .intro outputs hOutputs
  | some found =>
      obtain ⟨hHook, hActed⟩ := hAct hOutputs found
      dsimp only
      rw [hHook]
      exact .intro _ hActed

theorem beside_setOptions (h : Beside report left right) (cell : Nat) (options : Dump.Options) :
    Beside report (left.setOptions cell options) (right.setOptions cell options) := by
  obtain ⟨outputs, hOutputs⟩ := h
  exact .intro outputs hOutputs

theorem beside_addCell (h : Beside report left right) (content : Option Dump.Options) :
    (right.addCell content).2 = (left.addCell content).2 ∧
      Beside report (left.addCell content).1 (right.addCell content).1 := by
  obtain ⟨outputs, hOutputs⟩ := h
  exact ⟨rfl, .intro outputs hOutputs⟩

theorem beside_setJar (h : Beside report left right) (number : Option Nat)
    (jar : Option Cookie.Jar) :
    Beside report (left.setJar number jar) (right.setJar number jar) := by
  obtain ⟨outputs, hOutputs⟩ := h
  cases number <;> cases jar <;> exact .intro outputs hOutputs

end Beside
end Session
end Wiretap
