import AioHomematic.Store.Visibility.UnIgnored

/-!
# Predefined un-ignore rules

`UN_IGNORE_PARAMETERS_BY_DEVICE` is searched for the first rule whose model
begins with the model of the device, where the rules are meant for the models
that begin with theirs. No model of a rule is a prefix of another one, so the
two agree for a model with a rule of its own, and for another one only about
what neither of them un-ignores (`unIgnoresVariants_iff`).
-/

namespace AioHomematic.Store.Visibility

open Lib

/-- `s.lower()` of ASCII text. -/
structure PyUnicode.LowersAscii (py : PyUnicode) : Prop where
  lower_ascii : ∀ s : String, (∀ c ∈ s.toList, c.toNat < 128) →
    py.lower s = String.ofList (s.toList.map Char.toLower)

/-! ## Tables without a key that begins with another one -/

/-- No key is a prefix of the key of another entry. -/
def PrefixFree {β : Type} (table : List (String × β)) : Prop :=
  ∀ e ∈ table, ∀ e' ∈ table, startsWith e'.1 e.1 = true → e' = e

/-- Neither begins with the other one. -/
def Apart (s t : String) : Prop := ¬s.toList <+: t.toList ∧ ¬t.toList <+: s.toList

theorem Apart.ne {s t : String} (h : Apart s t) : s ≠ t := by
  rintro rfl
  exact h.1 List.prefix_rfl

section PrefixFree

variable {β : Type} {table : List (String × β)} {s : String} {e e' : String × β}

theorem prefixFree_of_apart (h : table.Pairwise fun e e' => Apart e.1 e'.1) :
    PrefixFree table := by
  intro e he e' he' hstarts
  refine List.Pairwise.forall_of_forall_of_flip
    (R := fun e e' => startsWith e'.1 e.1 = true → e' = e) (fun _ _ _ => rfl) (h.imp ?_) (h.imp ?_)
    he he' hstarts
  · exact fun hapart hstarts => absurd (startsWith_iff.mp hstarts) hapart.1
  · exact fun hapart hstarts => absurd (startsWith_iff.mp hstarts) hapart.2

/-- A key is found by itself alone. -/
theorem PrefixFree.find?_self (h : PrefixFree table) (he : e ∈ table) :
    table.find? (startsWith ·.1 e.1) = some e := by
  have hsome : (table.find? (startsWith ·.1 e.1)).isSome = true :=
    List.find?_isSome.mpr ⟨e, he, startsWith_self e.1⟩
  obtain ⟨e', hfind⟩ := Option.isSome_iff_exists.mp hsome
  have hstarts : startsWith e'.1 e.1 = true := by simpa using List.find?_some hfind
  rw [hfind, h e he e' (List.mem_of_find?_eq_some hfind) hstarts]

/-- What begins with a key is no proper beginning of another one. -/
theorem PrefixFree.eq_of_between (h : PrefixFree table) (he : e ∈ table) (he' : e' ∈ table)
    (hlong : startsWith e.1 s = true) (hshort : startsWith s e'.1 = true) : e.1 = s := by
  have heq : e = e' := h e' he' e he (startsWith_trans hlong hshort)
  subst heq
  rw [startsWith_iff] at hlong hshort
  exact String.toList_injective (hshort.eq_of_length_le hlong.length_le)

end PrefixFree

/-! ## The table -/

/-- The rules of a table with their models in lower case. -/
def lowerRules (py : PyUnicode) (table : List (String × List String)) :
    List (String × List String) :=
  table.map fun rule => (py.lower rule.1, rule.2)

variable {py : PyUnicode} {table : List (String × List String)}

theorem lowerRules_eq (hpy : py.LowersAscii) :
    lowerRules py unIgnoreParametersByDevice = lowerRules asciiLower unIgnoreParametersByDevice := by
  have hascii : ∀ rule ∈ unIgnoreParametersByDevice,
      rule.1.toList.all (fun c => decide (c.toNat < 128)) = true := by
    decide
  refine List.map_congr_left fun rule hrule => ?_
  rw [hpy.lower_ascii rule.1 (Support.forall_mem_of_all (hascii rule hrule))]
  rfl

theorem apart_lowerRules (hpy : py.LowersAscii) :
    (lowerRules py unIgnoreParametersByDevice).Pairwise fun e e' => Apart e.1 e'.1 := by
  have hmodels : (unIgnoreParametersByDevice.map fun rule =>
      rule.1.toList.map Char.toLower).Pairwise fun m m' => ¬m <+: m' ∧ ¬m' <+: m := by
    -- The models are taken apart first, for the kernel is slow at decoding strings.
    unfold unIgnoreParametersByDevice
    iterate 15 rw [List.map_cons]
    repeat rw [String.toList_ofList]
    decide +kernel
  rw [lowerRules_eq hpy]
  refine List.pairwise_map.mpr ((List.pairwise_map.mp hmodels).imp fun h => ?_)
  unfold Apart
  rw [toList_asciiLower, toList_asciiLower]
  exact h

section AnyOrder

variable (hpy : py.LowersAscii) (htable : table.Perm unIgnoreParametersByDevice)

include hpy htable

theorem prefixFree_lowerRules : PrefixFree (lowerRules py table) := by
  have hmem : ∀ e, e ∈ lowerRules py table ↔ e ∈ lowerRules py unIgnoreParametersByDevice :=
    fun _ => (htable.map _).mem_iff
  intro e he e' he' hstarts
  exact prefixFree_of_apart (apart_lowerRules hpy) e ((hmem e).mp he) e' ((hmem e').mp he') hstarts

theorem nodup_lowerRules : ((lowerRules py table).map Prod.fst).Nodup :=
  ((htable.map _).map _).nodup_iff.mpr
    (List.pairwise_map.mpr ((apart_lowerRules hpy).imp Apart.ne))

theorem entries_modelsLower : (modelsLower py table).entries = lowerRules py table := by
  have hassign : modelsLower py table = Dict.assign .empty (lowerRules py table) := by
    unfold modelsLower Dict.assign lowerRules
    rw [List.foldl_map]
  rw [hassign, Dict.entries_assign_empty (nodup_lowerRules hpy htable)]

end AnyOrder

namespace Registry

variable (reg : Registry)

/-- A user's rule un-ignores the parameter. -/
def UserRule (model : String) (no : Option Int) (parameter : String) : Prop :=
  ∃ pattern ∈ searchPatterns (reg.py.lower model) no .values,
    reg.rules.customUnIgnoreRules.contains pattern.1 pattern.2 .values parameter = true

/-- A predefined rule for the model, or for a model it is a variant of, has the parameter. -/
def PredefinedRule (model parameter : String) : Prop :=
  ∃ rule ∈ unIgnoreParametersByDevice, parameter ∈ rule.2 ∧
    startsWith (reg.py.lower model) (reg.py.lower rule.1) = true

/-- With this table, the predefined rules hold for their models and the variants of these. -/
def UnIgnoresVariants (table : List (String × List String)) (model : String) (no : Option Int)
    (parameter : String) : Prop :=
  reg.checkParameterIsUnIgnoredIn table ⟨reg.py.lower model, no, .values, parameter, false⟩ =
      true ↔
    reg.UserRule model no parameter ∨ reg.PredefinedRule model parameter

/-- There is a rule for the model itself; or the parameter is neither in the first rule with a model
that begins with this one, nor in a rule with a model that this one begins with. -/
def OwnRuleOrNone (table : List (String × List String)) (model parameter : String) : Prop :=
  (∃ rule ∈ lowerRules reg.py table, rule.1 = reg.py.lower model) ∨
    (∀ rule ∈ (lowerRules reg.py table).find? (startsWith ·.1 (reg.py.lower model)),
      parameter ∉ rule.2) ∧
    ∀ rule ∈ lowerRules reg.py table, startsWith (reg.py.lower model) rule.1 = true →
      parameter ∉ rule.2

variable {reg} (hpy : reg.py.LowersAscii) (htable : table.Perm unIgnoreParametersByDevice)

include htable in
theorem predefinedRule_iff {model parameter : String} :
    reg.PredefinedRule model parameter ↔ ∃ rule ∈ lowerRules reg.py table, parameter ∈ rule.2 ∧
      startsWith (reg.py.lower model) rule.1 = true := by
  unfold PredefinedRule lowerRules
  simp only [List.mem_map, exists_exists_and_eq_and, htable.mem_iff]

include hpy htable

theorem checkParameterIsUnIgnored_iff {model parameter : String} {no : Option Int} :
    reg.checkParameterIsUnIgnoredIn table ⟨reg.py.lower model, no, .values, parameter, false⟩ =
        true ↔
      reg.UserRule model no parameter ∨
        ∃ rule ∈ (lowerRules reg.py table).find? (startsWith ·.1 (reg.py.lower model)),
          parameter ∈ rule.2 := by
  unfold checkParameterIsUnIgnoredIn UserRule getParametersForModelPrefix
  rw [entries_modelsLower hpy htable, Bool.or_eq_true, List.any_eq_true]
  refine or_congr Iff.rfl ?_
  cases (lowerRules reg.py table).find? (startsWith ·.1 (reg.py.lower model)) with
  | none => exact ⟨nofun, nofun⟩
  | some rule => simp

/-- Without a rule for the model itself, not both searches find one. -/
theorem not_found_and_predefined {model : String}
    (hown : ¬∃ rule ∈ lowerRules reg.py table, rule.1 = reg.py.lower model)
    {rule rule' : String × List String}
    (hfound : (lowerRules reg.py table).find? (startsWith ·.1 (reg.py.lower model)) = some rule)
    (hrule' : rule' ∈ lowerRules reg.py table) :
    startsWith (reg.py.lower model) rule'.1 = false := by
  have hrule := List.mem_of_find?_eq_some hfound
  have hlong : startsWith rule.1 (reg.py.lower model) = true := by
    simpa using List.find?_some hfound
  rw [← Bool.not_eq_true]
  intro hshort
  exact hown
    ⟨rule, hrule, (prefixFree_lowerRules hpy htable).eq_of_between hrule hrule' hlong hshort⟩

omit hpy htable

/-- Where no user's rule decides, the predefined rules hold for their models and the variants of
these if and only if the model has a rule of its own, or neither search finds the parameter. That is
so with the rules in any order. -/
theorem unIgnoresVariants_iff (reg : Registry) (hpy : reg.py.LowersAscii)
    (table : List (String × List String)) (htable : table.Perm unIgnoreParametersByDevice)
    (model : String) (no : Option Int) (parameter : String) :
    reg.UnIgnoresVariants table model no parameter ↔
      reg.UserRule model no parameter ∨ reg.OwnRuleOrNone table model parameter := by
  unfold UnIgnoresVariants
  rw [checkParameterIsUnIgnored_iff hpy htable, predefinedRule_iff htable]
  by_cases huser : reg.UserRule model no parameter
  · exact iff_of_true (iff_of_true (.inl huser) (.inl huser)) (.inl huser)
  rw [or_iff_right huser, or_iff_right huser, or_iff_right huser]
  unfold OwnRuleOrNone
  by_cases hown : ∃ rule ∈ lowerRules reg.py table, rule.1 = reg.py.lower model
  · refine iff_of_true ?_ (.inl hown)
    obtain ⟨rule, hrule, hmodel⟩ := hown
    have hfree := prefixFree_lowerRules hpy htable
    rw [← hmodel, hfree.find?_self hrule]
    constructor
    · rintro ⟨rule', heq, hparameter⟩
      cases heq
      exact ⟨rule, hrule, hparameter, startsWith_self rule.1⟩
    · rintro ⟨rule', hrule', hparameter, hstarts⟩
      rw [hfree rule' hrule' rule hrule hstarts]
      exact ⟨rule', rfl, hparameter⟩
  · rw [or_iff_right hown]
    constructor
    · intro hiff
      refine ⟨fun rule hfound hparameter => ?_, fun rule hrule hstarts hparameter => ?_⟩
      · obtain ⟨rule', hrule', -, hstarts⟩ := hiff.mp ⟨rule, hfound, hparameter⟩
        rw [not_found_and_predefined hpy htable hown hfound hrule'] at hstarts
        cases hstarts
      · obtain ⟨rule', hfound, -⟩ := hiff.mpr ⟨rule, hrule, hparameter, hstarts⟩
        rw [not_found_and_predefined hpy htable hown hfound hrule] at hstarts
        cases hstarts
    · rintro ⟨hfound, hpredefined⟩
      refine iff_of_false ?_ ?_
      · rintro ⟨rule, hrule, hparameter⟩
        exact hfound rule hrule hparameter
      · rintro ⟨rule, hrule, hparameter, hstarts⟩
        exact hpredefined rule hrule hstarts hparameter

/-- A model with a rule of its own. -/
theorem unIgnoresVariants_DLD :
    (⟨asciiLower, {}, [], []⟩ : Registry).UnIgnoresVariants unIgnoreParametersByDevice "HmIP-DLD"
      (some 1) "ERROR_JAMMED" := by
  refine (unIgnoresVariants_iff ⟨asciiLower, {}, [], []⟩ ⟨fun _ _ => rfl⟩ _ (.refl _) "HmIP-DLD"
    (some 1) "ERROR_JAMMED").mpr (.inr (.inl ?_))
  exact ⟨_, List.mem_map_of_mem List.mem_cons_self, rfl⟩

theorem mem_SWSD : ("HmIP-SWSD", ["DIRT_LEVEL", "SMOKE_DETECTOR_ALARM_STATUS", "SMOKE_LEVEL"]) ∈
    unIgnoreParametersByDevice := by
  unfold unIgnoreParametersByDevice
  exact List.mem_cons_of_mem _ (List.mem_cons_of_mem _ (List.mem_cons_of_mem _ List.mem_cons_self))

/-- A variant of HmIP-SWSD does not have the rule of its model, and HmIP has that of HmIP-DLD. -/
theorem not_unIgnoresVariants_SWSD_2 :
    ¬(⟨asciiLower, {}, [], []⟩ : Registry).UnIgnoresVariants unIgnoreParametersByDevice
        "HmIP-SWSD-2" (some 1) "SMOKE_LEVEL" ∧
      ¬(⟨asciiLower, {}, [], []⟩ : Registry).UnIgnoresVariants unIgnoreParametersByDevice
        "HmIP" (some 1) "ACCESS_AUTHORIZATION" := by
  have hpy : asciiLower.LowersAscii := ⟨fun _ _ => rfl⟩
  have huser : ∀ model no parameter,
      ¬(⟨asciiLower, {}, [], []⟩ : Registry).UserRule model no parameter := by
    rintro model no parameter ⟨pattern, -, hcontains⟩
    cases hcontains
  have hfree := prefixFree_lowerRules hpy (.refl _)
  unfold UnIgnoresVariants
  rw [checkParameterIsUnIgnored_iff hpy (.refl _), checkParameterIsUnIgnored_iff hpy (.refl _),
    predefinedRule_iff (.refl _), predefinedRule_iff (.refl _), or_iff_right (huser _ _ _),
    or_iff_right (huser _ _ _), or_iff_right (huser _ _ _), or_iff_right (huser _ _ _)]
  constructor
  · intro hiff
    have hlong : startsWith (asciiLower.lower "HmIP-SWSD-2") (asciiLower.lower "HmIP-SWSD") =
        true := by decide +kernel
    obtain ⟨rule, hfound, -⟩ := hiff.mpr ⟨_, List.mem_map_of_mem mem_SWSD, by decide, hlong⟩
    have hstarts : startsWith rule.1 (asciiLower.lower "HmIP-SWSD-2") = true := by
      simpa using List.find?_some hfound
    -- The rule that is found begins with HmIP-SWSD as well.
    obtain rfl := hfree _ (List.mem_map_of_mem mem_SWSD) _ (List.mem_of_find?_eq_some hfound)
      (startsWith_trans hstarts hlong)
    exact absurd hstarts (by decide +kernel)
  · intro hiff
    have hlong : startsWith (asciiLower.lower "HmIP-DLD") (asciiLower.lower "HmIP") = true := by
      decide +kernel
    obtain ⟨rule, hrule, -, hstarts⟩ := hiff.mp
      ⟨_, List.find?_cons_of_pos hlong, List.mem_cons_self⟩
    obtain rfl := hfree rule hrule _ (List.mem_map_of_mem List.mem_cons_self)
      (startsWith_trans hlong hstarts)
    exact absurd hstarts (by decide +kernel)

end Registry

end AioHomematic.Store.Visibility
