import Mathlib.Data.List.Induction
import Wiretap.Cookie.Suffix

/-!
# What rules list

A list of suffixes is taken in rule by rule and looked up label by label.  What comes out
can be said by the rules alone.

* `Suffixes.Fits` says which labels of rules stand for the labels of a name: the same ones or,
  behind the last label, an asterisk where no rule goes on with the label itself.
* `Suffixes.Listed` says which names the rules list.
* `Suffixes.getElem?_ofRules` says which endings are known once rules have been taken in.
* `Suffixes.isPublic_iff` says that the public suffixes are the names that the rules list.
-/

namespace Wiretap
namespace Cookie
namespace Suffixes

/-- Whether the labels of a rule start with an ending. -/
def GoesOn (rules : List Rule) (ending : List String) : Prop :=
  ∃ rule ∈ rules, ending <+: rule.labels

/-- What the last rule with these labels and no more says. -/
def verdict? (rules : List Rule) (labels : List String) : Option SuffixRule :=
  (rules.reverse.find? fun rule => rule.labels = labels).map Rule.verdict

/-- Whether labels of rules, behind an ending that has been followed, stand for labels of a
name.  The last label of a name stands for itself. -/
inductive Fits (rules : List Rule) : List String → List String → List String → Prop where
  /-- Nothing is left of either. -/
  | done (ending : List String) : Fits rules ending [] []
  /-- A rule goes on with the label. -/
  | same {ending path rest : List String} {label : String}
      (hLabel : GoesOn rules (ending ++ [label])) (h : Fits rules (ending ++ [label]) path rest) :
      Fits rules ending (label :: path) (label :: rest)
  /-- No rule goes on with the label, and one goes on with an asterisk. -/
  | any {ending path rest : List String} {label : String} (hEnding : ending ≠ [])
      (hLabel : ¬GoesOn rules (ending ++ [label])) (hAny : GoesOn rules (ending ++ ["*"]))
      (h : Fits rules (ending ++ ["*"]) path rest) :
      Fits rules ending ("*" :: path) (label :: rest)

/-- Whether rules list the labels of a name: some rule fits them, and none that fits what stands
behind a dot of the name takes it out. -/
def Listed (rules : List Rule) (labels : List String) : Prop :=
  ∃ path, path ≠ [] ∧ Fits rules [] path labels ∧ verdict? rules path = some .listed ∧
    ∀ n, 1 < n → verdict? rules (path.take n) ≠ some .exempt

variable {rules : List Rule}

theorem goesOn_append_singleton {rule : Rule} {ending : List String} :
    GoesOn (rules ++ [rule]) ending ↔ GoesOn rules ending ∨ ending <+: rule.labels := by
  simp [GoesOn, or_and_right, exists_or]

theorem verdict?_append_singleton (rule : Rule) (labels : List String) :
    verdict? (rules ++ [rule]) labels =
      if rule.labels = labels then some rule.verdict else verdict? rules labels := by
  unfold verdict?
  rw [List.reverse_append, List.reverse_singleton, List.singleton_append, List.find?_cons]
  by_cases hSame : rule.labels = labels <;> simp [hSame]

/-- A rule that says something of labels is one that has them. -/
theorem mem_of_verdict? {labels : List String} {verdict : SuffixRule}
    (h : verdict? rules labels = some verdict) : ⟨labels, verdict⟩ ∈ rules := by
  obtain ⟨rule, hFound, rfl⟩ := Option.map_eq_some_iff.mp h
  obtain rfl : rule.labels = labels := by simpa using List.find?_some hFound
  exact List.mem_reverse.mp (List.mem_of_find?_eq_some hFound)

/-- What starts with an ending and is longer starts with the next label too, if it leads to the
same labels. -/
theorem prefix_next {ending rest e : List String} {label : String} (hFront : ending <+: e)
    (hNe : ending ≠ e) (hBack : e <+: ending ++ label :: rest) : ending ++ [label] <+: e := by
  refine List.prefix_of_prefix_length_le ⟨rest, by simp⟩ hBack ?_
  have hLength : ending.length ≠ e.length := fun hEq => hNe (hFront.eq_of_length hEq)
  have hLe := hFront.length_le
  rw [List.length_append, List.length_singleton]
  omega

/-- A rule fits as many labels as it has. -/
theorem Fits.length_eq {ending path labels : List String} (h : Fits rules ending path labels) :
    path.length = labels.length := by
  induction h with
  | done ending => rfl
  | same _ _ ih => simp [ih]
  | any _ _ _ _ ih => simp [ih]

/-- Adding the endings of a rule behind an ending changes those and no others; what is known of
one of them stays, but for the whole rule. -/
theorem getElem?_addEndings (verdict : SuffixRule) (labels ending e : List String)
    (suffixes : Suffixes) :
    (addEndings verdict ending labels suffixes).endings[e]? =
      if ending <+: e ∧ ending ≠ e ∧ e <+: ending ++ labels then
        some (if e = ending ++ labels then some verdict else (suffixes.endings[e]?).getD none)
      else suffixes.endings[e]? := by
  induction labels generalizing ending suffixes with
  | nil =>
      rw [addEndings, if_neg]
      rintro ⟨hFront, hNe, hBack⟩
      rw [List.append_nil] at hBack
      exact hNe (hFront.eq_of_length_le hBack.length_le)
  | cons label rest ih =>
      rw [addEndings, ih]
      by_cases hNext : ending ++ [label] = e
      · subst hNext
        have hIn : ending <+: ending ++ [label] ∧ ending ≠ ending ++ [label] ∧
            ending ++ [label] <+: ending ++ label :: rest :=
          ⟨List.prefix_append _ _, by simp, ⟨rest, by simp⟩⟩
        rw [if_neg fun h => h.2.1 rfl, if_pos hIn, Std.HashMap.getElem?_insert_self]
        cases rest <;> simp
      · have hBetween : (ending ++ [label] <+: e ∧ ending ++ [label] ≠ e ∧
            e <+: ending ++ label :: rest) ↔
              (ending <+: e ∧ ending ≠ e ∧ e <+: ending ++ label :: rest) := by
          constructor
          · rintro ⟨hFront, -, hBack⟩
            refine ⟨(List.prefix_append _ _).trans hFront, ?_, hBack⟩
            rintro rfl
            have hLe := hFront.length_le
            rw [List.length_append, List.length_singleton] at hLe
            omega
          · rintro ⟨hFront, hNe, hBack⟩
            exact ⟨prefix_next hFront hNe hBack, hNext, hBack⟩
        simp only [List.append_assoc, List.singleton_append, hBetween,
          Std.HashMap.getElem?_insert, beq_iff_eq, hNext, if_false]

/-- Of an ending it is known, once rules have been taken in, what the last rule that ends there
says, if any rule goes on with it. -/
theorem getElem?_ofRules {e : List String} {said : Option SuffixRule} :
    (ofRules rules).endings[e]? = some said ↔
      e ≠ [] ∧ GoesOn rules e ∧ verdict? rules e = said := by
  induction rules using List.reverseRecOn generalizing said with
  | nil => simp [ofRules, GoesOn]
  | append_singleton rules rule ih =>
      have hAdded : ofRules (rules ++ [rule]) = addRule (ofRules rules) rule := by
        rw [ofRules, List.foldl_append]
        rfl
      rw [hAdded, addRule, getElem?_addEndings, goesOn_append_singleton,
        verdict?_append_singleton, List.nil_append]
      by_cases hRule : e ≠ [] ∧ e <+: rule.labels
      · have hKnown : ((ofRules rules).endings[e]?).getD none = verdict? rules e := by
          cases hFound : (ofRules rules).endings[e]? with
          | some known => exact (ih.mp hFound).2.2.symm
          | none =>
              cases hSaid : verdict? rules e with
              | none => rfl
              | some verdict =>
                  have hOn : GoesOn rules e := ⟨_, mem_of_verdict? hSaid, List.prefix_refl _⟩
                  rw [ih.mpr ⟨hRule.1, hOn, hSaid⟩] at hFound
                  cases hFound
        rw [if_pos ⟨List.nil_prefix, hRule.1.symm, hRule.2⟩, hKnown]
        simp [hRule, eq_comm]
      · rw [if_neg fun h => hRule ⟨h.2.1.symm, h.2.2⟩, ih]
        by_cases hNone : e = []
        · simp [hNone]
        · have hNot : ¬e <+: rule.labels := fun h => hRule ⟨hNone, h⟩
          have hOther : rule.labels ≠ e := fun h => hNot (h ▸ List.prefix_refl _)
          simp [hNot, hOther]

theorem getElem?_ofRules_eq_none {e : List String} (hNone : e ≠ []) :
    (ofRules rules).endings[e]? = none ↔ ¬GoesOn rules e := by
  constructor
  · intro hNot hOn
    rw [getElem?_ofRules.mpr ⟨hNone, hOn, rfl⟩] at hNot
    cases hNot
  · intro hNot
    cases hFound : (ofRules rules).endings[e]? with
    | none => rfl
    | some said => exact absurd (getElem?_ofRules.mp hFound).2.1 hNot

/-- One step of the search takes the label that a rule goes on with. -/
theorem step?_eq_some_iff {ending next : List String} {label : String}
    {said : Option SuffixRule} :
    (ofRules rules).step? ending label = some (next, said) ↔
      verdict? rules next = said ∧
        ((GoesOn rules (ending ++ [label]) ∧ next = ending ++ [label]) ∨
          (¬GoesOn rules (ending ++ [label]) ∧ GoesOn rules (ending ++ ["*"]) ∧
            next = ending ++ ["*"])) := by
  unfold step?
  by_cases hLabel : GoesOn rules (ending ++ [label])
  · rw [getElem?_ofRules.mpr ⟨by simp, hLabel, rfl⟩]
    simp only [Option.some.injEq, Prod.mk.injEq, hLabel, true_and, not_true_eq_false, false_and,
      or_false]
    constructor
    · rintro ⟨rfl, rfl⟩
      exact ⟨rfl, rfl⟩
    · rintro ⟨rfl, rfl⟩
      exact ⟨rfl, rfl⟩
  · rw [(getElem?_ofRules_eq_none (by simp)).mpr hLabel]
    simp only [Option.map_eq_some_iff, getElem?_ofRules, Prod.mk.injEq, hLabel, false_and,
      not_false_eq_true, true_and, false_or]
    constructor
    · rintro ⟨_, ⟨-, hAny, rfl⟩, rfl, rfl⟩
      exact ⟨rfl, hAny, rfl⟩
    · rintro ⟨rfl, hAny, rfl⟩
      exact ⟨_, ⟨by simp, hAny, rfl⟩, rfl, rfl⟩

/-- What fits behind an ending is what one step of the search leads to, and what fits behind it. -/
theorem fits_cons_iff {ending path rest : List String} {label : String} (hEnding : ending ≠ []) :
    Fits rules ending path (label :: rest) ↔
      ∃ next said key tail, (ofRules rules).step? ending label = some (next, said) ∧
        next = ending ++ [key] ∧ path = key :: tail ∧ Fits rules next tail rest := by
  constructor
  · intro h
    cases h with
    | same hLabel hRest =>
        exact ⟨_, _, _, _, step?_eq_some_iff.mpr ⟨rfl, .inl ⟨hLabel, rfl⟩⟩, rfl, rfl, hRest⟩
    | any _ hLabel hAny hRest =>
        exact ⟨_, _, _, _, step?_eq_some_iff.mpr ⟨rfl, .inr ⟨hLabel, hAny, rfl⟩⟩, rfl, rfl, hRest⟩
  · rintro ⟨next, said, key, tail, hStep, hNext, rfl, hRest⟩
    rcases (step?_eq_some_iff.mp hStep).2 with ⟨hLabel, rfl⟩ | ⟨hLabel, hAny, rfl⟩
    · obtain rfl : label = key := by simpa using hNext
      exact .same hLabel hRest
    · obtain rfl : "*" = key := by simpa using hNext
      exact .any hEnding hLabel hAny hRest

/-- Whether rules, behind an ending that has been followed, list labels. -/
def Leads (rules : List Rule) (ending labels : List String) : Prop :=
  ∃ path, Fits rules ending path labels ∧ verdict? rules (ending ++ path) = some .listed ∧
    ∀ n, 0 < n → verdict? rules (ending ++ path.take n) ≠ some .exempt

theorem leads_nil {ending : List String} :
    Leads rules ending [] ↔ verdict? rules ending = some .listed := by
  constructor
  · rintro ⟨path, hFits, hListed, -⟩
    cases hFits
    rwa [List.append_nil] at hListed
  · intro hListed
    refine ⟨[], .done _, by rwa [List.append_nil], fun n _ => ?_⟩
    rw [List.take_nil, List.append_nil, hListed]
    simp

/-- Rules list labels if one step of the search is not taken out and they list the rest. -/
theorem leads_cons_of_step {ending next rest : List String} {label : String}
    {said : Option SuffixRule} (hEnding : ending ≠ [])
    (hStep : (ofRules rules).step? ending label = some (next, said)) :
    Leads rules ending (label :: rest) ↔ said ≠ some .exempt ∧ Leads rules next rest := by
  obtain ⟨rfl, hNext⟩ := step?_eq_some_iff.mp hStep
  constructor
  · rintro ⟨path, hFits, hListed, hKept⟩
    obtain ⟨next, said, key, tail, hFound, rfl, rfl, hTail⟩ := (fits_cons_iff hEnding).mp hFits
    obtain ⟨rfl, -⟩ := Prod.mk.inj (Option.some.inj (hStep.symm.trans hFound))
    refine ⟨hKept 1 Nat.one_pos, tail, hTail, ?_, fun n _ => ?_⟩
    · rwa [List.append_assoc]
    · have hLater := hKept (n + 1) (Nat.succ_pos n)
      rwa [List.take_succ_cons, List.append_cons] at hLater
  · rintro ⟨hFirst, tail, hTail, hListed, hKept⟩
    obtain ⟨key, rfl⟩ : ∃ key, next = ending ++ [key] := by
      rcases hNext with ⟨-, rfl⟩ | ⟨-, -, rfl⟩ <;> exact ⟨_, rfl⟩
    refine ⟨key :: tail, ?_, ?_, fun n hPos => ?_⟩
    · exact (fits_cons_iff hEnding).mpr ⟨_, _, key, tail, hStep, rfl, rfl, hTail⟩
    · rwa [List.append_cons]
    · cases n with
      | zero => exact absurd hPos (Nat.lt_irrefl 0)
      | succ n =>
          rw [List.take_succ_cons, List.append_cons]
          cases n with
          | zero => simpa using hFirst
          | succ n => exact hKept (n + 1) (Nat.succ_pos n)

/-- The search comes to the end of the labels with a suffix if the rules list them.  `seen` labels
lie behind, and `best` of them are a suffix; all of them are if the rules say so of the ending. -/
theorem longest_eq_some_iff (labels ending : List String) (seen : Nat) (best : Option Nat)
    (hEnding : ending ≠ []) (hBest : best = some seen ↔ verdict? rules ending = some .listed)
    (hSeen : ∀ n, best = some n → n ≤ seen) :
    (ofRules rules).longest ending seen best labels = some (seen + labels.length) ↔
      Leads rules ending labels := by
  induction labels generalizing ending seen best with
  | nil => rw [longest, List.length_nil, Nat.add_zero, hBest, leads_nil]
  | cons label rest ih =>
      rw [longest, List.length_cons]
      cases hStep : (ofRules rules).step? ending label with
      | none =>
          constructor
          · intro hShort
            have hLe := hSeen _ hShort
            omega
          · rintro ⟨path, hFits, -⟩
            obtain ⟨_, _, _, _, hFound, -⟩ := (fits_cons_iff hEnding).mp hFits
            rw [hStep] at hFound
            cases hFound
      | some found =>
          obtain ⟨next, said⟩ := found
          have hLength : seen + (rest.length + 1) = seen + 1 + rest.length := by omega
          obtain ⟨hSaid, hNext⟩ := step?_eq_some_iff.mp hStep
          have hNonempty : next ≠ [] := by
            rcases hNext with ⟨-, rfl⟩ | ⟨-, -, rfl⟩ <;> simp
          rw [leads_cons_of_step hEnding hStep, hLength]
          cases said with
          | none =>
              have hLater := ih next (seen + 1) best hNonempty ?_ fun n h => (hSeen n h).step
              · simpa using hLater
              · rw [hSaid]
                constructor
                · intro hAll
                  have hLe := hSeen _ hAll
                  omega
                · intro hNot
                  cases hNot
          | some verdict =>
              cases verdict with
              | exempt => simp; omega
              | listed =>
                  have hLater := ih next (seen + 1) (some (seen + 1)) hNonempty (by simp [hSaid])
                    (by simp)
                  simpa using hLater

theorem listed_cons_iff {last : String} {rest : List String} :
    Listed rules (last :: rest) ↔ GoesOn rules [last] ∧ Leads rules [last] rest := by
  constructor
  · rintro ⟨path, -, hFits, hListed, hKept⟩
    cases hFits with
    | same hLast hRest =>
        refine ⟨hLast, _, hRest, hListed, fun n hPos => ?_⟩
        exact hKept (n + 1) (by omega)
    | any hEnding => exact absurd rfl hEnding
  · rintro ⟨hLast, path, hFits, hListed, hKept⟩
    refine ⟨last :: path, by simp, .same hLast hFits, hListed, fun n hPos => ?_⟩
    cases n with
    | zero => omega
    | succ n => exact hKept n (by omega)

/-- A name is a public suffix by explicit rules if the rules list it. -/
theorem isPublic_iff (name : String) :
    (ofRules rules).isPublic name = true ↔ Listed rules (properLabels name) := by
  unfold isPublic suffixLength?
  cases hLabels : properLabels name with
  | nil =>
      constructor
      · intro h
        cases h
      · rintro ⟨path, hNe, hFits, -⟩
        cases hFits
        exact absurd rfl hNe
  | cons last rest =>
      rw [listed_cons_iff, beq_iff_eq]
      simp only
      cases hLast : (ofRules rules).endings[[last]]? with
      | none =>
          have hNot := (getElem?_ofRules_eq_none (by simp)).mp hLast
          simp [hNot]
      | some said =>
          obtain ⟨-, hOn, hSaid⟩ := getElem?_ofRules.mp hLast
          simp only [List.length_cons, hOn, true_and, Nat.add_comm rest.length 1]
          refine longest_eq_some_iff rest [last] 1
            (if said = some .listed then some 1 else none) (by simp) ?_ ?_
          · rw [hSaid]
            split <;> simp_all
          · intro n
            split <;> simp_all

section LastLabel

variable {others : List Rule} {last : String}

/-- What fits behind an ending depends on the rules with its last label only. -/
theorem Fits.congr {ending path labels : List String}
    (hOn : ∀ e, GoesOn rules (last :: e) ↔ GoesOn others (last :: e))
    (h : Fits rules ending path labels) (hLast : ending.head? = some last) :
    Fits others ending path labels := by
  obtain ⟨front, rfl⟩ : ∃ front, ending = last :: front := by
    cases ending with
    | nil => cases hLast
    | cons label front => exact ⟨front, by rw [Option.some.inj hLast]⟩
  clear hLast
  generalize hEnding : last :: front = ending at h
  induction h generalizing front with
  | done ending => exact .done _
  | same hLabel _ ih =>
      subst hEnding
      exact .same ((hOn _).mp hLabel) (ih (front ++ [_]) rfl)
  | any hNe hLabel hAny _ ih =>
      subst hEnding
      exact .any hNe (mt (hOn _).mpr hLabel) ((hOn _).mp hAny) (ih (front ++ ["*"]) rfl)

theorem Leads.congr {front labels : List String}
    (hOn : ∀ e, GoesOn rules (last :: e) ↔ GoesOn others (last :: e))
    (hSaid : ∀ e, verdict? rules (last :: e) = verdict? others (last :: e))
    (h : Leads rules (last :: front) labels) : Leads others (last :: front) labels := by
  obtain ⟨path, hFits, hListed, hKept⟩ := h
  refine ⟨path, hFits.congr hOn rfl, (hSaid _).symm.trans hListed, fun n hPos => ?_⟩
  rw [List.cons_append, ← hSaid]
  exact hKept n hPos

/-- Whether a name is listed depends on the rules with its last label only. -/
theorem listed_filter_iff {rest : List String} :
    Listed (rules.filter fun rule => rule.labels.head? = some last) (last :: rest) ↔
      Listed rules (last :: rest) := by
  have hOn (e : List String) : GoesOn rules (last :: e) ↔
      GoesOn (rules.filter fun rule => rule.labels.head? = some last) (last :: e) := by
    constructor
    · rintro ⟨rule, hMem, hPrefix⟩
      refine ⟨rule, List.mem_filter.mpr ⟨hMem, ?_⟩, hPrefix⟩
      obtain ⟨rest, hRest⟩ := hPrefix
      rw [← hRest]
      simp
    · rintro ⟨rule, hMem, hPrefix⟩
      exact ⟨rule, (List.mem_filter.mp hMem).1, hPrefix⟩
  have hSaid (e : List String) : verdict? rules (last :: e) =
      verdict? (rules.filter fun rule => rule.labels.head? = some last) (last :: e) := by
    unfold verdict?
    rw [← List.filter_reverse, List.find?_filter]
    congr 2
    funext rule
    by_cases hSame : rule.labels = last :: e <;> simp [hSame]
  rw [listed_cons_iff, listed_cons_iff, ← hOn]
  refine and_congr_right fun _ => ⟨?_, ?_⟩
  · exact .congr (fun e => (hOn e).symm) fun e => (hSaid e).symm
  · exact .congr hOn hSaid

/-- The last label of a rule is that of its group. -/
theorem head?_of_mem_rulesOf {group : String × String} {rule : Rule} (h : rule ∈ rulesOf group) :
    rule.labels.head? = some group.1 := by
  obtain ⟨word, -, rfl⟩ := List.mem_map.mp h
  unfold Rule.under
  split <;> rfl

/-- The rules of the list with a last label are those of its groups. -/
theorem filter_listedRules (last : String) :
    listedRules.filter (fun rule => rule.labels.head? = some last) =
      (listedSuffixes.filter fun group => group.1 = last).flatMap rulesOf := by
  unfold listedRules
  induction listedSuffixes with
  | nil => rfl
  | cons group rest ih =>
      rw [List.flatMap_cons, List.filter_append, ih]
      by_cases hGroup : group.1 = last
      · have hAll : (rulesOf group).filter (fun rule => rule.labels.head? = some last) =
            rulesOf group := by
          rw [List.filter_eq_self]
          intro rule hRule
          simp [head?_of_mem_rulesOf hRule, hGroup]
        rw [hAll, List.filter_cons_of_pos (by simpa using hGroup), List.flatMap_cons]
      · have hNone : (rulesOf group).filter (fun rule => rule.labels.head? = some last) = [] := by
          rw [List.filter_eq_nil_iff]
          intro rule hRule
          simp [head?_of_mem_rulesOf hRule, hGroup]
        rw [hNone, List.nil_append, List.filter_cons_of_neg (by simpa using hGroup)]

end LastLabel

end Suffixes
end Cookie
end Wiretap
