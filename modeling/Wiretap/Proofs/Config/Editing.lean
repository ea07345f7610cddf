import Mathlib.Data.List.Nodup
import Mathlib.Data.List.Perm.Basic
import Mathlib.Data.Set.List
import Wiretap.Config.Decoding
import Wiretap.Config.Encoding

/-!
# Configurations that have been written and edited

A configuration is written with every field of every section.  Whoever edits the document may
take fields away, move them, and add some that no section knows.  What is read afterwards is
the configuration that was written, with the standard values in place of the fields that are
gone.

* `Config.Edited` relates a document to what can be made of it, given the fields that are taken
  away.
* `Config.without` is the configuration with standard values in place of these fields.
* `Config.EditedFields.find?` says what is found in a section after it has been edited, and
  `Config.Setting.read?_of_edited` what is read.
* `Config.Regular` holds of the configurations that have been read from somewhere.
* `Config.ofJson?_of_edited` is the statement.
-/

namespace Wiretap
namespace Config

/-- The names on the way to a field, the outermost first. -/
abbrev Place : Type := List String

/-- The names that the section at a place knows, if there is a section. -/
def known? : Place → Option (List String)
  | [] => some ["timeouts", "transport", "headers", "user_agent", "dump", "response", "mode"]
  | ["timeouts"] => some ["request_secs", "connect_secs", "idle_secs"]
  | ["transport"] => some ["http2", "max_idle_per_host", "proxy", "cookies"]
  | ["dump"] => some ["enabled", "preset", "async_mode", "output"]
  | ["response"] => some ["auto_decode_text", "discard_body"]
  | _ => none

/-- Whether there is a section at a place, and it does not know the name. -/
def isUnknown (place : Place) (name : String) : Bool :=
  match known? place with
  | some names => !names.contains name
  | none => false

/-- Whether a document has fields. -/
def hasFields : Json → Bool
  | .object _ => true
  | _ => false

mutual

/-- What can be made of a document at a place: the fields that are `gone` are taken away, the
others may have been edited themselves, and together with fields that are unknown there they
stand in any order. -/
inductive Edited (gone : Place → Bool) : Place → Json → Json → Prop where
  | leaf {place : Place} {value : Json} (h : hasFields value = false) :
      Edited gone place value value
  | object {place : Place} {members kept added found : List (String × Json)}
      (hKept : EditedFields gone place members kept)
      (hAdded : ∀ field ∈ added, isUnknown place field.1 = true)
      (hOrder : found.Perm (kept ++ added)) :
      Edited gone place (.object members) (.object found)

/-- What can be made of the fields at a place, in their order and without those that are added. -/
inductive EditedFields (gone : Place → Bool) :
    Place → List (String × Json) → List (String × Json) → Prop where
  | nil {place : Place} : EditedFields gone place [] []
  | gone {place : Place} {name : String} {value : Json} {rest kept : List (String × Json)}
      (h : gone (place ++ [name]) = true) (hRest : EditedFields gone place rest kept) :
      EditedFields gone place ((name, value) :: rest) kept
  | kept {place : Place} {name : String} {value edited : Json}
      {rest kept : List (String × Json)} (h : gone (place ++ [name]) = false)
      (hValue : Edited gone (place ++ [name]) value edited)
      (hRest : EditedFields gone place rest kept) :
      EditedFields gone place ((name, value) :: rest) ((name, edited) :: kept)

end

mutual

/-- A document is what it is made of if nothing is done. -/
theorem Edited.refl (place : Place) : ∀ value, Edited (fun _ => false) place value value
  | .object members =>
      .object (EditedFields.refl place members) (List.forall_mem_nil _)
        (.of_eq (List.append_nil members).symm)
  | .null | .bool _ | .number _ | .text _ | .list _ => .leaf rfl

theorem EditedFields.refl (place : Place) :
    ∀ members, EditedFields (fun _ => false) place members members
  | [] => .nil
  | (_, value) :: rest => .kept rfl (Edited.refl _ value) (EditedFields.refl place rest)

end

section Without

variable (gone : Place → Bool)

/-- The timeouts with standard values for the fields that are gone. -/
def Timeouts.without (t : Timeouts) : Timeouts where
  request := if gone ["timeouts", "request_secs"] then standard.request else t.request
  connect := if gone ["timeouts", "connect_secs"] then standard.connect else t.connect
  idle := if gone ["timeouts", "idle_secs"] then standard.idle else t.idle

/-- The settings of connections with standard values for the fields that are gone. -/
def Transport.without (t : Transport) : Transport where
  http2 := if gone ["transport", "http2"] then standard.http2 else t.http2
  maxIdlePerHost :=
    if gone ["transport", "max_idle_per_host"] then standard.maxIdlePerHost else t.maxIdlePerHost
  proxy := if gone ["transport", "proxy"] then standard.proxy else t.proxy
  cookies := if gone ["transport", "cookies"] then standard.cookies else t.cookies

/-- The settings of dumps with standard values for the fields that are gone. -/
def Dump.without (d : Dump) : Dump where
  enabled := if gone ["dump", "enabled"] then standard.enabled else d.enabled
  preset := if gone ["dump", "preset"] then standard.preset else d.preset
  isAsync := if gone ["dump", "async_mode"] then standard.isAsync else d.isAsync
  output := if gone ["dump", "output"] then standard.output else d.output

/-- The settings of response bodies with standard values for the fields that are gone. -/
def treatmentWithout (r : Treatment) : Treatment where
  autoDecode :=
    if gone ["response", "auto_decode_text"] then Treatment.standard.autoDecode else r.autoDecode
  discardBody :=
    if gone ["response", "discard_body"] then Treatment.standard.discardBody else r.discardBody

/-- A configuration with standard values for the fields that are gone; a header that is gone is
just not there. -/
def without (config : Config) : Config where
  timeouts := if gone ["timeouts"] then standard.timeouts else config.timeouts.without gone
  transport := if gone ["transport"] then standard.transport else config.transport.without gone
  headers :=
    if gone ["headers"] then standard.headers
    else config.headers.filter fun header => !gone ["headers", header.1]
  userAgent := if gone ["user_agent"] then standard.userAgent else config.userAgent
  dump := if gone ["dump"] then standard.dump else config.dump.without gone
  response :=
    if gone ["response"] then standard.response else treatmentWithout gone config.response
  mode := if gone ["mode"] then standard.mode else config.mode

/-- If nothing is gone, nothing is replaced. -/
theorem without_of_none {gone : Place → Bool} (h : ∀ place, gone place = false) (config : Config) :
    config.without gone = config := by
  simp [without, Timeouts.without, Transport.without, Dump.without, treatmentWithout, h]

end Without

section Found

variable {gone : Place → Bool} {place : Place} {members kept found : List (String × Json)}
  {name : String} {value edited : Json}

/-- The fields that are kept have names of before, none of them twice. -/
theorem EditedFields.sublist (h : EditedFields gone place members kept) :
    (kept.map Prod.fst).Sublist (members.map Prod.fst) := by
  induction members generalizing kept with
  | nil =>
      cases h
      exact .slnil
  | cons member rest ih =>
      cases h with
      | gone hGone hRest => exact (ih hRest).cons _
      | kept hKept hValue hRest => exact (ih hRest).cons_cons _

/-- A field that is kept has been made of one that is not gone. -/
theorem EditedFields.not_gone_of_mem (h : EditedFields gone place members kept)
    (hMem : (name, edited) ∈ kept) : gone (place ++ [name]) = false := by
  induction members generalizing kept with
  | nil =>
      cases h
      cases hMem
  | cons member rest ih =>
      cases h with
      | gone hGone hRest => exact ih hRest hMem
      | kept hKept hValue hRest =>
          rcases List.mem_cons.mp hMem with hFirst | hLater
          · cases hFirst
            exact hKept
          · exact ih hRest hLater

/-- Something is made of every field that is not gone. -/
theorem EditedFields.exists_mem (h : EditedFields gone place members kept)
    (hMem : (name, value) ∈ members) (hKept : gone (place ++ [name]) = false) :
    ∃ edited, Edited gone (place ++ [name]) value edited ∧ (name, edited) ∈ kept := by
  induction members generalizing kept with
  | nil => cases hMem
  | cons member rest ih =>
      cases h with
      | gone hGone hRest =>
          rcases List.mem_cons.mp hMem with hFirst | hLater
          · cases hFirst
            rw [hKept] at hGone
            cases hGone
          · exact ih hRest hLater
      | kept hThis hValue hRest =>
          rcases List.mem_cons.mp hMem with hFirst | hLater
          · cases hFirst
            exact ⟨_, hValue, List.mem_cons_self⟩
          · obtain ⟨edited, hEdited, hLater⟩ := ih hRest hLater
            exact ⟨edited, hEdited, List.mem_cons_of_mem _ hLater⟩

/-- What is found of a name that is known at a place: nothing if the field is gone, and otherwise
what has been made of it.  Neither the order nor unknown fields count. -/
theorem Edited.find? (h : Edited gone place (.object members) (.object found))
    (hApart : (members.map Prod.fst).Nodup) (hKnown : isUnknown place name = false)
    (hMem : (name, value) ∈ members) :
    (gone (place ++ [name]) = true ∧ found.find? (fun field => field.1 = name) = none) ∨
      gone (place ++ [name]) = false ∧ ∃ edited, Edited gone (place ++ [name]) value edited ∧
        found.find? (fun field => field.1 = name) = some (name, edited) := by
  cases h with
  | leaf hLeaf => cases hLeaf
  | @object _ _ kept added _ hFields hAdded hOrder =>
      have hOld {other : Json} (hOther : (name, other) ∈ found) : (name, other) ∈ kept := by
        rcases List.mem_append.mp (hOrder.mem_iff.mp hOther) with hKept | hNew
        · exact hKept
        · rw [hAdded _ hNew] at hKnown
          cases hKnown
      cases hGone : gone (place ++ [name]) with
      | true =>
          refine .inl ⟨rfl, List.find?_eq_none.mpr ?_⟩
          rintro ⟨other, document⟩ hField hName
          obtain rfl : other = name := of_decide_eq_true hName
          rw [hFields.not_gone_of_mem (hOld hField)] at hGone
          cases hGone
      | false =>
          obtain ⟨edited, hEdited, hKept⟩ := hFields.exists_mem hMem hGone
          refine .inr ⟨rfl, edited, hEdited, ?_⟩
          have hSome : (found.find? fun field => field.1 = name).isSome = true :=
            List.find?_isSome.mpr
              ⟨(name, edited), hOrder.mem_iff.mpr (List.mem_append_left _ hKept), by simp⟩
          obtain ⟨⟨other, document⟩, hField⟩ := Option.isSome_iff_exists.mp hSome
          obtain rfl : other = name := by simpa using List.find?_some hField
          rw [hField, List.inj_on_of_nodup_map (hApart.sublist hFields.sublist)
            (hOld (List.mem_of_find?_eq_some hField)) hKept rfl]

/-- What has been made of an object is an object. -/
theorem Edited.exists_object (h : Edited gone place (.object members) edited) :
    ∃ found, edited = .object found := by
  cases h with
  | leaf hLeaf => cases hLeaf
  | object hKept hAdded hOrder => exact ⟨_, rfl⟩

/-- What is no object stays as it is. -/
theorem Edited.eq_of_leaf (h : Edited gone place value edited)
    (hLeaf : hasFields value = false) : edited = value := by
  cases h with
  | leaf => rfl
  | object => cases hLeaf

end Found

namespace Setting

variable {α : Type} {gone : Place → Bool} {place : Place} {members found : List (String × Json)}
  {name : String} {value : Json} {reader : Setting → Option α} {standard result : α}

theorem ofJsonMembers_eq (members : List (String × Json)) :
    ofJsonMembers members = members.map fun member => (member.1, ofJson member.2) := by
  induction members with
  | nil => rfl
  | cons member rest ih => rw [ofJsonMembers, ih, List.map_cons]

/-- In a section that is written with names, the order of the fields does not count. -/
theorem field?_ofJson (index : Nat) :
    (ofJson (.object found)).field? index name =
      (found.find? fun field => field.1 = name).map fun field => ofJson field.2 := by
  rw [ofJson, field?, ofJsonMembers_eq, List.find?_map, Option.map_map]
  rfl

/-- A section is read field by field: the standard value if the field is gone, and otherwise what is
read of it. -/
theorem read?_of_edited (h : Edited gone place (.object members) (.object found))
    (hApart : (members.map Prod.fst).Nodup) (index : Nat)
    (hField : members[index]? = some (name, value)) (hKnown : isUnknown place name = false)
    (hReader : ∀ edited, Edited gone (place ++ [name]) value edited →
      reader (ofJson edited) = some result) :
    (ofJson (.object found)).read? index name reader standard =
      some (if gone (place ++ [name]) then standard else result) := by
  rw [read?, field?_ofJson]
  rcases h.find? hApart hKnown (List.mem_of_getElem? hField) with
    ⟨hGone, hFound⟩ | ⟨hKept, edited, hEdited, hFound⟩
  · rw [hFound, hGone]
    rfl
  · rw [hFound, hKept]
    exact hReader edited hEdited

/-- The same of a field that has no fields of its own. -/
theorem read?_of_leaf (h : Edited gone place (.object members) (.object found))
    (hApart : (members.map Prod.fst).Nodup) (index : Nat)
    (hField : members[index]? = some (name, value)) (hKnown : isUnknown place name = false)
    (hLeaf : hasFields value = false) (hReader : reader (ofJson value) = some result) :
    (ofJson (.object found)).read? index name reader standard =
      some (if gone (place ++ [name]) then standard else result) := by
  refine read?_of_edited h hApart index hField hKnown fun edited hEdited => ?_
  rw [hEdited.eq_of_leaf hLeaf, hReader]

/-- What is read of a field is the standard value, or it is there to be read. -/
theorem eq_standard_or_read {s : Setting} {index : Nat}
    (h : s.read? index name reader standard = some result) :
    standard = result ∨ ∃ value, reader value = some result := by
  rw [read?] at h
  split at h
  · exact .inr ⟨_, h⟩
  · exact .inl (Option.some.inj h)

theorem truth?_ofJson (value : Bool) : truth? (ofJson (.bool value)) = some value := rfl

theorem text?_ofJson (value : String) : text? (ofJson (.text value)) = some value := rfl

theorem count?_ofJson (value : UInt64) : count? (ofJson (.nat value.toNat)) = some value := by
  have hFits : value.toNat < Nat.pow 2 64 := value.toNat_lt
  rw [Json.nat, ofJson, ofNat, if_pos hFits, UInt64.ofNat_toNat]
  rfl

end Setting

section Sections

open Setting

variable {gone : Place → Bool} {edited : Json}

theorem Timeouts.ofSetting?_of_edited {t : Timeouts}
    (h : Edited gone ["timeouts"] t.toJson edited) :
    Timeouts.ofSetting? (ofJson edited) = some (t.without gone) := by
  obtain ⟨found, rfl⟩ := h.exists_object
  have hApart : (["request_secs", "connect_secs", "idle_secs"] : List String).Nodup := by decide
  have hSection : (ofJson (.object found)).isSection 3 = true := rfl
  rw [Timeouts.ofSetting?, if_pos hSection,
    read?_of_leaf h hApart 0 rfl rfl rfl (count?_ofJson t.request),
    read?_of_leaf h hApart 1 rfl rfl rfl (count?_ofJson t.connect),
    read?_of_leaf h hApart 2 rfl rfl rfl (count?_ofJson t.idle)]
  rfl

theorem Transport.ofSetting?_of_edited {t : Transport}
    (hProxy : Proxy.ofText t.proxy.text = t.proxy)
    (h : Edited gone ["transport"] t.toJson edited) :
    Transport.ofSetting? (ofJson edited) = some (t.without gone) := by
  obtain ⟨found, rfl⟩ := h.exists_object
  have hApart : (["http2", "max_idle_per_host", "proxy", "cookies"] : List String).Nodup := by
    decide
  have hSection : (ofJson (.object found)).isSection 4 = true := rfl
  have hRead : (text? (ofJson (.text t.proxy.text))).map Proxy.ofText = some t.proxy :=
    congrArg some hProxy
  rw [Transport.ofSetting?, if_pos hSection,
    read?_of_leaf h hApart 0 rfl rfl rfl (truth?_ofJson t.http2),
    read?_of_leaf h hApart 1 rfl rfl rfl (count?_ofJson t.maxIdlePerHost),
    read?_of_leaf h hApart 2 rfl rfl rfl hRead,
    read?_of_leaf h hApart 3 rfl rfl rfl (truth?_ofJson t.cookies)]
  rfl

theorem Dump.ofSetting?_of_edited {d : Dump} (h : Edited gone ["dump"] d.toJson edited) :
    Dump.ofSetting? (ofJson edited) = some (d.without gone) := by
  obtain ⟨found, rfl⟩ := h.exists_object
  have hApart : (["enabled", "preset", "async_mode", "output"] : List String).Nodup := by decide
  have hSection : (ofJson (.object found)).isSection 4 = true := rfl
  have hPreset : choice? Wiretap.Dump.Preset.ofName? (ofJson (.text d.preset.name)) =
      some d.preset := Wiretap.Dump.Preset.ofName?_eq_some_iff.mpr rfl
  rw [Dump.ofSetting?, if_pos hSection,
    read?_of_leaf h hApart 0 rfl rfl rfl (truth?_ofJson d.enabled),
    read?_of_leaf h hApart 1 rfl rfl rfl hPreset,
    read?_of_leaf h hApart 2 rfl rfl rfl (truth?_ofJson d.isAsync),
    read?_of_leaf h hApart 3 rfl rfl rfl (text?_ofJson d.output)]
  rfl

theorem treatmentOf?_of_edited {r : Treatment}
    (h : Edited gone ["response"] (ofTreatment r) edited) :
    treatmentOf? (ofJson edited) = some (treatmentWithout gone r) := by
  obtain ⟨found, rfl⟩ := h.exists_object
  have hApart : (["auto_decode_text", "discard_body"] : List String).Nodup := by decide
  have hSection : (ofJson (.object found)).isSection 2 = true := rfl
  rw [treatmentOf?, if_pos hSection,
    read?_of_leaf h hApart 0 rfl rfl rfl (truth?_ofJson r.autoDecode),
    read?_of_leaf h hApart 1 rfl rfl rfl (truth?_ofJson r.discardBody)]
  rfl

end Sections

section Headers

open Setting

variable {headers others : List (String × String)}

/-- Whether headers stand in the order of their names, and no name is there twice. -/
def Ascending (headers : List (String × String)) : Prop :=
  headers.Pairwise fun header later => header.1 < later.1

theorem Ascending.nodup (h : Ascending headers) : (headers.map Prod.fst).Nodup := by
  rw [List.nodup_iff_pairwise_ne, List.pairwise_map]
  exact h.imp fun hLess => String.ne_of_lt hLess

theorem Ascending.filter (h : Ascending headers) (keep : String × String → Bool) :
    Ascending (headers.filter keep) := List.Pairwise.filter keep h

/-- The headers that have no later one of their name. -/
def lastOfEach (headers : List (String × String)) : List (String × String) :=
  headers.foldr (fun header kept =>
    if kept.any fun other => other.1 = header.1 then kept else header :: kept) []

theorem orderHeaders_eq (headers : List (String × String)) :
    orderHeaders headers = (lastOfEach headers).mergeSort fun a b => a.1 ≤ b.1 := rfl

theorem nodup_lastOfEach (headers : List (String × String)) :
    ((lastOfEach headers).map Prod.fst).Nodup := by
  induction headers with
  | nil => exact List.nodup_nil
  | cons header rest ih =>
      rw [lastOfEach, List.foldr_cons, ← lastOfEach]
      split
      · exact ih
      · next hNew =>
          refine List.nodup_cons.mpr ⟨fun hMem => hNew ?_, ih⟩
          obtain ⟨other, hOther, hName⟩ := List.mem_map.mp hMem
          exact List.any_eq_true.mpr ⟨other, hOther, decide_eq_true hName⟩

theorem lastOfEach_of_nodup (h : (headers.map Prod.fst).Nodup) : lastOfEach headers = headers := by
  induction headers with
  | nil => rfl
  | cons header rest ih =>
      obtain ⟨hNew, hRest⟩ := List.nodup_cons.mp h
      rw [lastOfEach, List.foldr_cons, ← lastOfEach, ih hRest, if_neg]
      intro hAny
      obtain ⟨other, hOther, hName⟩ := List.any_eq_true.mp hAny
      exact hNew (List.mem_map.mpr ⟨other, hOther, of_decide_eq_true hName⟩)

/-- Headers that are read come out in the order of their names. -/
theorem ascending_orderHeaders (headers : List (String × String)) :
    Ascending (orderHeaders headers) := by
  have hPerm : (orderHeaders headers).Perm (lastOfEach headers) := List.mergeSort_perm _ _
  have hApart : ((orderHeaders headers).map Prod.fst).Nodup :=
    (hPerm.map Prod.fst).nodup_iff.mpr (nodup_lastOfEach headers)
  have hSorted : (orderHeaders headers).Pairwise fun a b => decide (a.1 ≤ b.1) = true := by
    refine List.pairwise_mergeSort (fun a b c hFirst hSecond => ?_) (fun a b => ?_) _
    · exact decide_eq_true
        (String.le_trans (of_decide_eq_true hFirst) (of_decide_eq_true hSecond))
    · rcases String.le_total a.1 b.1 with hLe | hGe
      · rw [decide_eq_true hLe, Bool.true_or]
      · rw [decide_eq_true hGe, Bool.or_true]
  rw [List.nodup_iff_pairwise_ne, List.pairwise_map] at hApart
  exact hSorted.imp₂ (fun a b hLe hNe => Std.lt_of_le_of_ne (of_decide_eq_true hLe) hNe) hApart

/-- Headers with different names are put in their order, whatever order they come in. -/
theorem orderHeaders_of_perm (h : Ascending headers) (hOrder : others.Perm headers) :
    orderHeaders others = headers := by
  have hOthers : (others.map Prod.fst).Nodup := (hOrder.map Prod.fst).nodup_iff.mpr h.nodup
  have hPerm : (orderHeaders others).Perm headers := by
    rw [orderHeaders_eq, lastOfEach_of_nodup hOthers]
    exact (List.mergeSort_perm others _).trans hOrder
  refine hPerm.eq_of_pairwise (fun a b _ _ hLess hGreater => ?_) (ascending_orderHeaders others) h
  exact (Std.lt_irrefl (Std.lt_trans hLess hGreater)).elim

/-- A header as a field of a document. -/
def headerField (header : String × String) : String × Json := (header.1, .text header.2)

theorem headerField_injective : Function.Injective headerField := by
  rintro ⟨name, value⟩ ⟨other, text⟩ hEq
  cases hEq
  rfl

theorem texts?_ofJson (headers : List (String × String)) :
    texts? (ofJson (.object (headers.map headerField))) = some headers := by
  rw [ofJson, texts?, ofJsonMembers_eq, List.map_map]
  induction headers with
  | nil => rfl
  | cons header rest ih =>
      rw [List.map_cons, List.mapM_cons, ih]
      rfl

/-- What is kept of headers: those that are not gone, as they are. -/
theorem EditedFields.eq_of_headers {gone : Place → Bool} {kept : List (String × Json)}
    (h : EditedFields gone ["headers"] (headers.map headerField) kept) :
    kept = (headers.filter fun header => !gone ["headers", header.1]).map headerField := by
  induction headers generalizing kept with
  | nil =>
      cases h
      rfl
  | cons header rest ih =>
      cases h with
      | gone hGone hRest =>
          rw [ih hRest, List.filter_cons_of_neg]
          simpa using hGone
      | kept hKept hValue hRest =>
          rw [hValue.eq_of_leaf rfl, ih hRest, List.filter_cons_of_pos]
          · rfl
          · simpa using hKept

/-- What has been made of headers: some are gone, the others may stand in any order, and none has
come in, since every name can be that of a header. -/
theorem Edited.exists_headers {gone : Place → Bool} {edited : Json}
    (h : Edited gone ["headers"] (.object (headers.map headerField)) edited) :
    ∃ found : List (String × String), edited = .object (found.map headerField) ∧
      found.Perm (headers.filter fun header => !gone ["headers", header.1]) := by
  cases h with
  | leaf hLeaf => cases hLeaf
  | @object _ _ kept added document hKept hAdded hOrder =>
      obtain rfl : added = [] := List.eq_nil_iff_forall_not_mem.mpr fun field hField =>
        Bool.noConfusion (hAdded field hField)
      rw [List.append_nil, hKept.eq_of_headers] at hOrder
      have hRange : document ∈ Set.range (List.map headerField) := by
        rw [Set.range_list_map]
        intro field hField
        obtain ⟨header, -, hHeader⟩ := List.mem_map.mp (hOrder.mem_iff.mp hField)
        exact ⟨header, hHeader⟩
      obtain ⟨found, rfl⟩ := hRange
      exact ⟨found, rfl, (List.map_perm_map_iff headerField_injective).mp hOrder⟩

/-- The headers that have been edited are read in their order. -/
theorem texts?_of_edited {gone : Place → Bool} {edited : Json} (hOrder : Ascending headers)
    (h : Edited gone ["headers"] (.object (headers.map headerField)) edited) :
    (texts? (ofJson edited)).map orderHeaders =
      some (headers.filter fun header => !gone ["headers", header.1]) := by
  obtain ⟨found, rfl, hPerm⟩ := h.exists_headers
  rw [texts?_ofJson, Option.map_some, orderHeaders_of_perm (hOrder.filter _) hPerm]

end Headers

section Whole

open Setting

variable {gone : Place → Bool} {config : Config} {edited : Json}

/-- What holds of the configurations that have been read: their headers are in order, and what is
written of their proxy is read as the same proxy. -/
structure Regular (config : Config) : Prop where
  /-- The headers are in the order of their names. -/
  headers : Ascending config.headers
  /-- The proxy survives being written. -/
  proxy : Proxy.ofText config.transport.proxy.text = config.transport.proxy

theorem Transport.proxy_of_ofSetting? {s : Setting} {t : Transport}
    (h : Transport.ofSetting? s = some t) : Proxy.ofText t.proxy.text = t.proxy := by
  rw [Transport.ofSetting?, Option.ite_none_right_eq_some] at h
  simp only [Option.bind_eq_bind, Option.bind_eq_some_iff] at h
  obtain ⟨-, http2, -, maxIdle, -, proxy, hProxy, cookies, -, hAll⟩ := h
  obtain rfl : ⟨http2, maxIdle, proxy, cookies⟩ = t := Option.some.inj hAll
  rcases eq_standard_or_read hProxy with rfl | ⟨value, hRead⟩
  · rfl
  · obtain ⟨raw, -, rfl⟩ := Option.map_eq_some_iff.mp hRead
    exact Proxy.ofText_text_ofText raw

/-- Whatever a configuration is read from, it is regular. -/
theorem regular_of_ofSetting? {s : Setting} (h : ofSetting? s = some config) : Regular config := by
  rw [ofSetting?, Option.ite_none_right_eq_some] at h
  simp only [Option.bind_eq_bind, Option.bind_eq_some_iff] at h
  obtain ⟨-, timeouts, -, transport, hTransport, headers, hHeaders, userAgent, -, dump, -,
    response, -, mode, -, hAll⟩ := h
  obtain rfl := Option.some.inj hAll
  constructor
  · rcases eq_standard_or_read hHeaders with rfl | ⟨value, hRead⟩
    · exact List.Pairwise.nil
    · obtain ⟨others, -, rfl⟩ := Option.map_eq_some_iff.mp hRead
      exact ascending_orderHeaders others
  · rcases eq_standard_or_read hTransport with rfl | ⟨value, hRead⟩
    · rfl
    · exact Transport.proxy_of_ofSetting? hRead

theorem optionalText?_ofJson (value : Option String) :
    optionalText? (ofJson ((value.map Json.text).getD .null)) = some value := by
  cases value <;> rfl

/-- A regular configuration that has been written and edited. -/
theorem ofJson?_of_regular (hRegular : Regular config) (h : Edited gone [] config.toJson edited) :
    ofJson? edited = some (config.without gone) := by
  obtain ⟨found, rfl⟩ := h.exists_object
  have hApart : (["timeouts", "transport", "headers", "user_agent", "dump", "response",
    "mode"] : List String).Nodup := by decide
  have hSection : (ofJson (.object found)).isSection 7 = true := rfl
  have hAgent : hasFields ((config.userAgent.map Json.text).getD .null) = false := by
    cases config.userAgent <;> rfl
  have hMode : choice? Mode.ofName? (ofJson (.text config.mode.name)) = some config.mode :=
    Mode.ofName?_eq_some_iff.mpr rfl
  rw [ofJson?, ofSetting?, if_pos hSection,
    read?_of_edited h hApart 0 rfl rfl fun _ => Timeouts.ofSetting?_of_edited,
    read?_of_edited h hApart 1 rfl rfl fun _ => Transport.ofSetting?_of_edited hRegular.proxy,
    read?_of_edited h hApart 2 rfl rfl fun _ => texts?_of_edited hRegular.headers,
    read?_of_leaf h hApart 3 rfl rfl hAgent (optionalText?_ofJson config.userAgent),
    read?_of_edited h hApart 4 rfl rfl fun _ => Dump.ofSetting?_of_edited,
    read?_of_edited h hApart 5 rfl rfl fun _ => treatmentOf?_of_edited,
    read?_of_leaf h hApart 6 rfl rfl rfl hMode]
  rfl

/-- Let a configuration be read from anything at all.  A document that is made of it by writing it,
taking fields away at any depth, moving fields and adding fields that are unknown to their section
is read as the same configuration with standard values in place of the fields that are gone.  If no
field is gone it is the configuration itself, as it is if nothing is done to the document at all;
and its proxy is read again from its own text. -/
theorem ofJson?_of_edited {source : Setting} (hRead : ofSetting? source = some config) :
    (∀ gone edited, Edited gone [] config.toJson edited →
      ofJson? edited = some (config.without gone)) ∧
    (∀ edited, Edited (fun _ => false) [] config.toJson edited → ofJson? edited = some config) ∧
    ofJson? config.toJson = some config ∧
    Proxy.ofText config.transport.proxy.text = config.transport.proxy := by
  have hRegular := regular_of_ofSetting? hRead
  have hWhole (edited : Json) (hEdited : Edited (fun _ => false) [] config.toJson edited) :
      ofJson? edited = some config := by
    rw [ofJson?_of_regular hRegular hEdited, without_of_none fun _ => rfl]
  exact ⟨fun gone edited => ofJson?_of_regular hRegular, hWhole, hWhole _ (.refl [] _),
    hRegular.proxy⟩

/-- A document with two headers, in no order, and without a proxy. -/
def proxyless : Json :=
  .object [
    ("headers", .object [("x-trace", .text "on"), ("accept", .text "*/*")]),
    ("transport", .object [("proxy", .text "off")])]

/-- What is left of a configuration: one header and the proxy. -/
def isGone (place : Place) : Bool :=
  !(["transport", "headers"].contains (place.headD "")) ||
    place.length = 2 && !(["proxy", "x-trace"].contains (place.getLastD ""))

/-- The rest of the configuration, moved about and with fields of no meaning. -/
def rearranged : Json :=
  .object [
    ("headers", .object [("x-trace", .text "on")]),
    ("colour", .text "red"),
    ("transport", .object [("http3", .null), ("proxy", .text "none")])]

theorem ofJson?_rearranged :
    ∃ config, ofSetting? (.ofJson proxyless) = some config ∧
      Edited isGone [] config.toJson rearranged ∧
      ofJson? rearranged = some (config.without isGone) ∧
      config.without isGone =
        { Config.standard with
          headers := [("x-trace", "on")]
          transport := { Transport.standard with proxy := .direct } } := by
  let config : Config :=
    { Config.standard with
      headers := [("accept", "*/*"), ("x-trace", "on")]
      transport := { Transport.standard with proxy := .direct } }
  have hOrder : orderHeaders [("x-trace", "on"), ("accept", "*/*")] = config.headers :=
    orderHeaders_of_perm (List.pairwise_pair.mpr (by decide)) (.swap _ _ _)
  have hRead : ofSetting? (.ofJson proxyless) = some config := by
    calc
      ofSetting? (.ofJson proxyless) =
          some { config with headers := orderHeaders [("x-trace", "on"), ("accept", "*/*")] } := rfl
      _ = some config := by rw [hOrder]
  have hTransport : Edited isGone ["transport"] config.transport.toJson
      (.object [("http3", .null), ("proxy", .text "none")]) := by
    have hAdded : ∀ field ∈ [("http3", Json.null)], isUnknown ["transport"] field.1 = true := by
      decide
    exact .object (.gone rfl (.gone rfl (.kept rfl (.leaf rfl) (.gone rfl .nil)))) hAdded
      (.swap _ _ _)
  have hHeaders : Edited isGone ["headers"] (.object (config.headers.map headerField))
      (.object [("x-trace", .text "on")]) :=
    .object (.gone rfl (.kept rfl (.leaf rfl) .nil)) (List.forall_mem_nil _) (.refl _)
  have hEdited : Edited isGone [] config.toJson rearranged := by
    have hAdded : ∀ field ∈ [("colour", Json.text "red")], isUnknown [] field.1 = true := by
      decide
    refine .object (.gone rfl (.kept rfl hTransport (.kept rfl hHeaders (.gone rfl (.gone rfl
      (.gone rfl (.gone rfl .nil))))))) hAdded ?_
    exact .trans (.cons _ (.swap _ _ _)) (.swap _ _ _)
  exact ⟨config, hRead, hEdited, (ofJson?_of_edited hRead).1 isGone rearranged hEdited, rfl⟩

end Whole

end Config
end Wiretap
