import Wiretap.Bytes

/-!
# Lines

Bytes that are written line by line can be taken apart again, as long as no line holds a byte of a
line end.

* `Bytes.lines` gives what stands between line ends, and `Bytes.lines_written` says that lines that
  have been written are found again.
* `Bytes.cut?` splits at the first place of a mark.
* `Bytes.IsFramed` says that bytes end at their first empty line; `Bytes.isFramed_written` says that
  it is enough that no line in front is empty.
-/

namespace Wiretap

namespace Bytes

/-- Puts a byte in front of the first line. -/
def prepend (b : UInt8) : List Bytes → List Bytes
  | line :: rest => (b :: line) :: rest
  | [] => [[b]]

/-- What stands between the line ends. -/
def lines : Bytes → List Bytes
  | [] => [[]]
  | 13 :: 10 :: rest => [] :: lines rest
  | b :: rest => prepend b (lines rest)

/-- What stands in front of the first place of a mark, and behind it. -/
def cut? (mark : Bytes) : Bytes → Option (Bytes × Bytes)
  | [] => none
  | b :: rest =>
    if mark.isPrefixOf (b :: rest) then some ([], (b :: rest).drop mark.length)
    else (cut? mark rest).map fun parts => (b :: parts.1, parts.2)

/-- Whether bytes hold neither of the two bytes of a line end. -/
def IsLine (line : Bytes) : Prop := ∀ b ∈ line, b ≠ 13 ∧ b ≠ 10

/-- Each line with a line end behind it. -/
def written (list : List Bytes) : Bytes := list.flatMap (· ++ crlf)

section Lines

variable {b first : UInt8} {front back line mark : Bytes} {list : List Bytes}

theorem prepend_append (h : list ≠ []) (more : List Bytes) :
    prepend b (list ++ more) = prepend b list ++ more := by
  cases list with
  | nil => exact (h rfl).elim
  | cons line rest => rfl

theorem lines_ne_nil (bytes : Bytes) : lines bytes ≠ [] := by
  fun_induction lines bytes with
  | case1 => exact List.cons_ne_nil _ _
  | case2 => exact List.cons_ne_nil _ _
  | case3 b rest hOther ih =>
      cases hRest : lines rest with
      | nil => exact (ih hRest).elim
      | cons line more => exact List.cons_ne_nil _ _

/-- A line end stands between the lines in front of it and those behind it. -/
theorem lines_append_crlf (front back : Bytes) :
    lines (front ++ crlf ++ back) = lines front ++ lines back := by
  fun_induction lines front with
  | case1 => rfl
  | case2 rest ih =>
      rw [List.cons_append, List.cons_append, List.cons_append, List.cons_append, lines, ih]
      rfl
  | case3 b rest hOther ih =>
      rw [List.cons_append, List.cons_append, lines, ih, prepend_append (lines_ne_nil rest)]
      -- The byte begins no line end, whatever follows.
      rintro later rfl hLater
      cases rest with
      | nil => cases hLater
      | cons c tail =>
          obtain ⟨rfl, -⟩ := List.cons.inj hLater
          exact hOther tail rfl rfl

theorem lines_of_isLine (h : IsLine line) : lines line = [line] := by
  induction line with
  | nil => rfl
  | cons b rest ih =>
      obtain ⟨hFirst, hRest⟩ := List.forall_mem_cons.mp h
      rw [lines, ih hRest]
      · rfl
      · rintro later rfl
        exact (hFirst.1 rfl).elim

theorem eq_nil_of_lines {bytes : Bytes} (h : lines bytes = [[]]) : bytes = [] := by
  fun_cases lines bytes with
  | case1 => rfl
  | case2 rest => exact (lines_ne_nil rest (List.cons.inj h).2).elim
  | case3 b rest hOther =>
      rw [lines] at h
      · cases hRest : lines rest with
        | nil => exact (lines_ne_nil rest hRest).elim
        | cons line more =>
            rw [hRest] at h
            cases h
      · exact hOther

theorem lines_written (h : ∀ line ∈ list, IsLine line) (back : Bytes) :
    lines (written list ++ back) = list ++ lines back := by
  induction list with
  | nil => rfl
  | cons line rest ih =>
      obtain ⟨hLine, hRest⟩ := List.forall_mem_cons.mp h
      rw [written, List.flatMap_cons, ← written, List.append_assoc, lines_append_crlf,
        lines_of_isLine hLine, ih hRest]
      rfl

theorem not_isPrefixOf_cons (h : first ≠ b) :
    ¬ (first :: mark).isPrefixOf (b :: line) = true := by
  rw [List.isPrefixOf_iff_prefix, List.cons_prefix_cons]
  exact fun hBoth => h hBoth.1

/-- What stands in front of a mark is found if it does not hold the first byte of the mark. -/
theorem cut?_append (h : first ∉ front) (back : Bytes) :
    cut? (first :: mark) (front ++ (first :: mark) ++ back) = some (front, back) := by
  induction front with
  | nil =>
      have hThere : (first :: mark).isPrefixOf (first :: mark ++ back) = true :=
        List.isPrefixOf_iff_prefix.mpr (List.prefix_append _ _)
      rw [List.nil_append, List.cons_append, cut?, ← List.cons_append, if_pos hThere,
        List.drop_left]
  | cons b rest ih =>
      rw [List.mem_cons, not_or] at h
      rw [List.cons_append, List.cons_append, cut?, if_neg (not_isPrefixOf_cons h.1), ih h.2]
      rfl

theorem cut?_eq_none (h : first ∉ line) : cut? (first :: mark) line = none := by
  induction line with
  | nil => rfl
  | cons b rest ih =>
      rw [List.mem_cons, not_or] at h
      rw [cut?, if_neg (not_isPrefixOf_cons h.1), ih h.2]
      rfl

end Lines

/-- Whether bytes end at their first empty line, and hold bytes of line ends nowhere but in line
ends. -/
structure IsFramed (bytes : Bytes) : Prop where
  /-- There is an empty line at the end. -/
  ends : ∃ front, bytes = front ++ crlf ++ crlf
  /-- There is none anywhere else. -/
  once : ∀ front back, bytes = front ++ crlf ++ crlf ++ back → back = []
  /-- There are no stray bytes of line ends. -/
  lines : ∀ line ∈ lines bytes, IsLine line

/-- Lines that are not empty, and an empty one behind them. -/
theorem isFramed_written {list : List Bytes} (hSome : list ≠ [])
    (hLines : ∀ line ∈ list, IsLine line) (hFull : [] ∉ list) : IsFramed (written list ++ crlf) := by
  have hAll : lines (written list ++ crlf) = list ++ [[], []] := lines_written hLines crlf
  refine ⟨?_, ?_, ?_⟩
  · refine ⟨written list.dropLast ++ list.getLast hSome, ?_⟩
    calc
      written list ++ crlf
          = written (list.dropLast ++ [list.getLast hSome]) ++ crlf := by
            rw [List.dropLast_concat_getLast]
      _ = written list.dropLast ++ list.getLast hSome ++ crlf ++ crlf := by
            simp only [written, List.flatMap_append, List.flatMap_singleton, List.append_assoc]
  · intro front back hEq
    have hBack : lines (crlf ++ back) = [] :: lines back := lines_append_crlf [] back
    rw [hEq, List.append_assoc, lines_append_crlf, hBack] at hAll
    -- The lines in front are not empty, so the empty one that is found is the first of the two.
    rcases List.append_eq_append_iff.mp hAll with ⟨more, hFront, hRest⟩ | ⟨more, hFront, hRest⟩
    · cases more with
      | nil => exact eq_nil_of_lines (List.cons.inj hRest).2
      | cons line later =>
          obtain rfl : [] = line := (List.cons.inj hRest).1
          exact (hFull (hFront ▸ List.mem_append_right _ List.mem_cons_self)).elim
    · cases more with
      | nil => exact eq_nil_of_lines (List.cons.inj hRest).2.symm
      | cons line later =>
          have hLength := congrArg List.length hRest
          have hSome : 0 < (lines back).length := List.length_pos_iff.mpr (lines_ne_nil back)
          simp only [List.length_cons, List.length_nil, List.length_append] at hLength
          omega
  · rw [hAll, List.forall_mem_append]
    exact ⟨hLines, List.forall_mem_cons.mpr
      ⟨List.forall_mem_nil _, List.forall_mem_singleton.mpr (List.forall_mem_nil _)⟩⟩

end Bytes
end Wiretap
