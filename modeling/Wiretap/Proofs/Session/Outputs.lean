import Wiretap.Logger

/-!
# What lasts of the outputs

Records come and go, but a sink that has been opened stays where it is and keeps
its rule, and no write makes or removes a directory.  Both together settle what
an opened file leads to and which files can be opened at all.

* `Outputs.Lasts` says that one state of the outputs may have become another.
* `Outputs.lasts_record`, `Outputs.openFile_eq_ok` and `Logger.lasts_log` say that
  writing, opening and logging are such changes.
* `Outputs.openFile_agrees` says that whether a file can be opened, and to what the
  handle leads, depends on the directories alone.
-/

namespace Wiretap

/-- Replacing an entry by one that looks the same changes nothing that can be seen. -/
theorem map_set_eq_map {α β : Type} (look : α → β) {list : List α} {number : Nat} {old : α}
    (hOld : list[number]? = some old) (new : α) (h : look new = look old) :
    (list.set number new).map look = list.map look := by
  obtain ⟨hLt, rfl⟩ := List.getElem?_eq_some_iff.1 hOld
  rw [List.map_set, h, ← List.getElem_map look, List.set_getElem_self]
  simpa using hLt

/-- An entry of a list is found at its place in every list that goes on from it. -/
theorem getElem?_of_prefix {α : Type} {short long : List α} (h : short <+: long) {number : Nat}
    {entry : α} (hEntry : short[number]? = some entry) : long[number]? = some entry := by
  obtain ⟨rest, rfl⟩ := h
  rw [List.getElem?_append_left (List.getElem?_eq_some_iff.1 hEntry).1, hEntry]

/-- Where something is found in a list with gaps, the list has not ended. -/
theorem lt_of_isSome_join {α : Type} {list : List (Option α)} {number : Nat}
    (h : (list[number]?).join.isSome = true) : number < list.length := by
  rcases Nat.lt_or_ge number list.length with hLt | hGe
  · exact hLt
  · simp [List.getElem?_eq_none hGe] at h

namespace Disk

/-- What writing files leaves alone: the working directory and the directories. -/
def ground (disk : Disk) : Location × List Location := (disk.home, disk.directories)

@[simp]
theorem ground_put (disk : Disk) (location : Location) (bytes : Bytes) :
    (disk.put location bytes).ground = disk.ground := by
  unfold put
  split <;> rfl

@[simp]
theorem ground_writeAt (disk : Disk) (location : Location) (offset : Nat) (bytes : Bytes) :
    (disk.writeAt location offset bytes).ground = disk.ground :=
  disk.ground_put _ _

/-- What `enter` finds depends on the directories alone; only which fault is reported of a name
that is no directory depends on whether it is that of a file. -/
theorem enter_agrees {disk other : Disk} (h : disk.ground = other.ground)
    (location : Location) (name : String) :
    disk.enter location name = other.enter location name ∨
      disk.enter location name = .error .notDirectory ∧
        other.enter location name = .error .notFound ∨
      disk.enter location name = .error .notFound ∧
        other.enter location name = .error .notDirectory := by
  have hDirectories : disk.directories = other.directories := congrArg Prod.snd h
  unfold enter isDirectory
  rw [hDirectories]
  split
  · exact Or.inl rfl
  split
  · exact Or.inl rfl
  split
  · exact Or.inl rfl
  split
  · exact Or.inl rfl
  · split <;> split <;> simp

theorem toOption_enter {disk other : Disk} (h : disk.ground = other.ground)
    (location : Location) (name : String) :
    (disk.enter location name).toOption = (other.enter location name).toOption := by
  rcases enter_agrees h location name with hSame | ⟨hLeft, hRight⟩ | ⟨hLeft, hRight⟩
  · rw [hSame]
  · rw [hLeft, hRight]; rfl
  · rw [hLeft, hRight]; rfl

theorem toOption_foldlM_enter {disk other : Disk} (h : disk.ground = other.ground)
    (names : List String) (start : Location) :
    (names.foldlM disk.enter start).toOption = (names.foldlM other.enter start).toOption := by
  induction names generalizing start with
  | nil => rfl
  | cons name rest ih =>
      have hEnter := toOption_enter h start name
      simp only [List.foldlM_cons]
      cases hLeft : disk.enter start name with
      | error fault =>
          cases hRight : other.enter start name with
          | error fault' => rfl
          | ok next => rw [hLeft, hRight] at hEnter; cases hEnter
      | ok next =>
          cases hRight : other.enter start name with
          | error fault => rw [hLeft, hRight] at hEnter; cases hEnter
          | ok next' =>
              rw [hLeft, hRight] at hEnter
              cases hEnter
              exact ih next

theorem toOption_walk {disk other : Disk} (h : disk.ground = other.ground) (path : String) :
    (disk.walk path).toOption = (other.walk path).toOption := by
  have hHome : disk.home = other.home := congrArg Prod.fst h
  unfold walk
  rw [hHome]
  split
  · rfl
  split
  · rfl
  split
  · rfl
  dsimp only
  split
  · rfl
  next last _ =>
    have hFold := toOption_foldlM_enter h
      ((path.splitOn "/").filter (· ≠ "")).dropLast
      (if path.toList.head? = some '/' then [] else other.home)
    revert hFold
    generalize List.foldlM disk.enter _ _ = left
    generalize List.foldlM other.enter _ _ = right
    intro hFold
    cases left <;> cases right <;> cases hFold <;> rfl

/-- Where the file made by `create` lies, and whether it can be made, depends on the directories
alone. -/
theorem toOption_create {disk other : Disk} (h : disk.ground = other.ground) (path : String) :
    (disk.create path).toOption.map Prod.snd = (other.create path).toOption.map Prod.snd := by
  have hWalk := toOption_walk h path
  unfold create
  cases hLeft : disk.walk path with
  | error fault =>
      cases hRight : other.walk path with
      | error fault' => rfl
      | ok walked => rw [hLeft, hRight] at hWalk; cases hWalk
  | ok walked =>
      cases hRight : other.walk path with
      | error fault => rw [hLeft, hRight] at hWalk; cases hWalk
      | ok walked' =>
          rw [hLeft, hRight] at hWalk
          cases hWalk
          simp only [bind, Except.bind]
          split
          · rfl
          · -- A missing file is made and one that is there is emptied, so files do not matter.
            rcases enter_agrees h walked.parent walked.name with hSame | ⟨hl, hr⟩ | ⟨hl, hr⟩
            · rw [hSame]
              split <;> rfl
            · rw [hl, hr]; rfl
            · rw [hl, hr]; rfl

/-- A new file leaves the directories alone. -/
theorem ground_create {disk next : Disk} {location : Location} {path : String}
    (h : disk.create path = .ok (next, location)) : next.ground = disk.ground := by
  unfold create at h
  cases hWalk : disk.walk path with
  | error fault => rw [hWalk] at h; cases h
  | ok walked =>
      rw [hWalk] at h
      simp only [bind, Except.bind] at h
      split at h
      · cases h
      · split at h
        · cases h
        · cases h; exact disk.ground_put _ _
        · cases h; exact disk.ground_put _ _
        · cases h

end Disk

namespace Dump

/-- What lasts of a sink: where its bytes end up, and how it treats records. -/
def Sink.nature (sink : Sink) : Place × Rule := (sink.place, sink.rule)

namespace Outputs

/-- What the sinks that have been opened are, in order. -/
def natures (outputs : Outputs) : List (Place × Rule) := outputs.sinks.map Sink.nature

/-- One state of the outputs may have become another: sinks have only been added, each of those
that were there is what it was, and the directories are the same. -/
structure Lasts (before after : Outputs) : Prop where
  natures : before.natures <+: after.natures
  ground : after.disk.ground = before.disk.ground

namespace Lasts

theorem refl (outputs : Outputs) : Lasts outputs outputs := ⟨List.prefix_rfl, rfl⟩

theorem trans {first second third : Outputs} (h : Lasts first second) (h' : Lasts second third) :
    Lasts first third :=
  ⟨h.natures.trans h'.natures, h'.ground.trans h.ground⟩

/-- A sink that has been opened stays what it is. -/
theorem nature {before after : Outputs} (h : Lasts before after) {number : Nat}
    {nature : Place × Rule} (hNature : before.natures[number]? = some nature) :
    after.natures[number]? = some nature :=
  getElem?_of_prefix h.natures hNature

end Lasts

theorem lasts_warn (outputs : Outputs) (warning : Warning) :
    Lasts outputs (outputs.warn warning) :=
  ⟨List.prefix_rfl, rfl⟩

@[simp]
theorem natures_deposit (outputs : Outputs) (place : Place) (offset : Nat) (bytes : Bytes) :
    (outputs.deposit place offset bytes).natures = outputs.natures := by
  cases place with
  | stdout => rfl
  | stderr => rfl
  | file location => rfl
  | buffer name =>
      simp only [deposit, setBuffer]
      split <;> rfl

@[simp]
theorem ground_deposit (outputs : Outputs) (place : Place) (offset : Nat) (bytes : Bytes) :
    (outputs.deposit place offset bytes).disk.ground = outputs.disk.ground := by
  cases place with
  | stdout => rfl
  | stderr => rfl
  | file location => exact outputs.disk.ground_writeAt location offset bytes
  | buffer name =>
      simp only [deposit, setBuffer]
      split <;> rfl

theorem lasts_deposit (outputs : Outputs) (place : Place) (offset : Nat) (bytes : Bytes) :
    Lasts outputs (outputs.deposit place offset bytes) :=
  ⟨by simp, ground_deposit outputs place offset bytes⟩

/-- Writing changes what a sink has taken so far, and nothing of what it is. -/
theorem lasts_write (outputs : Outputs) (output : Output) (record : Bytes) :
    Lasts outputs (outputs.write output record).1 := by
  unfold write
  split
  · exact Lasts.refl outputs
  next sink hSink =>
    have hNatures := map_set_eq_map Sink.nature hSink
      { sink with
        before := record :: sink.before
        offset := sink.offset + (record.take (sink.rule sink.before record).count).length } rfl
    exact ⟨⟨[], (List.append_nil _).trans hNatures.symm⟩, ground_deposit outputs _ _ _⟩

theorem lasts_record (outputs : Outputs) (output : Output) (bytes : Bytes) :
    Lasts outputs (outputs.record output bytes) := by
  have hWrite := outputs.lasts_write output bytes
  unfold record
  dsimp only
  split
  · exact hWrite
  · exact hWrite.trans (lasts_warn _ _)

theorem lasts_openSink (outputs : Outputs) (label : String) (place : Place) (rule : Rule) :
    Lasts outputs (outputs.openSink label place rule).1 := by
  refine ⟨?_, rfl⟩
  simp [natures, openSink]

/-- What the handle of a new file is, and to what it leads. -/
theorem openFile_eq_ok {outputs next : Outputs} {output : Output} {path : String}
    (h : outputs.openFile path = .ok (next, output)) :
    Lasts outputs next ∧ output.label = path ∧
      ∃ disk location, outputs.disk.create path = .ok (disk, location) ∧
        next.natures[output.sink]? = some (.file location, .takeAll) := by
  unfold openFile openFileAs at h
  cases hCreate : outputs.disk.create path with
  | error fault => rw [hCreate] at h; cases h
  | ok created =>
      obtain ⟨disk, location⟩ := created
      rw [hCreate] at h
      cases h
      refine ⟨⟨?_, Disk.ground_create hCreate⟩, rfl, disk, location, rfl, ?_⟩
      · simp [natures]
      · simp [natures, Sink.nature]

theorem create_of_openFile_eq_error {outputs : Outputs} {fault : Disk.Fault} {path : String}
    (h : outputs.openFile path = .error fault) : outputs.disk.create path = .error fault := by
  unfold openFile openFileAs at h
  cases hCreate : outputs.disk.create path with
  | error other => rw [hCreate] at h; cases h; rfl
  | ok created => rw [hCreate] at h; cases h

/-- On the same directories a path can be opened in both of two states or in neither; if it can,
both handles lead to files at one place. -/
theorem openFile_agrees {left right : Outputs} (h : left.disk.ground = right.disk.ground)
    (path : String) :
    (∃ fault fault', left.openFile path = .error fault ∧ right.openFile path = .error fault') ∨
      ∃ next output next' output' nature,
        left.openFile path = .ok (next, output) ∧ right.openFile path = .ok (next', output') ∧
          output.label = output'.label ∧ next.natures[output.sink]? = some nature ∧
            next'.natures[output'.sink]? = some nature := by
  have hCreate := Disk.toOption_create h path
  cases hLeft : left.openFile path with
  | error fault =>
      rw [create_of_openFile_eq_error hLeft] at hCreate
      cases hRight : right.openFile path with
      | error fault' => exact Or.inl ⟨fault, fault', rfl, rfl⟩
      | ok opened =>
          obtain ⟨-, -, disk, location, hOk, -⟩ := openFile_eq_ok hRight
          rw [hOk] at hCreate
          cases hCreate
  | ok opened =>
      obtain ⟨-, hLabel, disk, location, hOk, hNature⟩ := openFile_eq_ok hLeft
      rw [hOk] at hCreate
      cases hRight : right.openFile path with
      | error fault' =>
          rw [create_of_openFile_eq_error hRight] at hCreate
          cases hCreate
      | ok opened' =>
          obtain ⟨-, hLabel', disk', location', hOk', hNature'⟩ := openFile_eq_ok hRight
          rw [hOk'] at hCreate
          cases hCreate
          exact Or.inr ⟨opened.1, opened.2, opened'.1, opened'.2, _, rfl, rfl,
            hLabel.trans hLabel'.symm, hNature, hNature'⟩

end Outputs

theorem Target.lasts_openIn {target : Target} {outputs next : Outputs} {output : Output}
    (h : target.openIn outputs = .ok (next, output)) : Outputs.Lasts outputs next := by
  cases target with
  | stdout => cases h; exact Outputs.Lasts.refl outputs
  | stderr => cases h; exact Outputs.Lasts.refl outputs
  | file path => exact (Outputs.openFile_eq_ok h).1

end Dump

theorem Logger.lasts_log (logger : Logger) (message : String) (outputs : Dump.Outputs) :
    Dump.Outputs.Lasts outputs (logger.log message outputs) := by
  cases logger with
  | silent => exact Dump.Outputs.Lasts.refl outputs
  | warnings => exact outputs.lasts_warn _
  | writer place => exact outputs.lasts_deposit place _ _

end Wiretap
