import ScopedAccess.Config.Codec
import ScopedAccess.Proofs.Json

/-!
# ScopedAccess.Proofs.Targeting

Which objects are read as targeting, and as which.

* `Written` says what an object stands for: each strategy with its parameters, and where there are
  parameters no other members.
* `ofJson?_eq_some_iff`: an object is read as what it stands for.
* `strict_with_parameters`: so strategies with parameters refuse other members, and policies and
  settings are refused with the targeting they hold.
* `stray_members_dropped`: beside the strategy without parameters any member is passed over.
-/

namespace ScopedAccess.Targeting

open Json

/-- The members that belong to targeting, beside its tag. -/
def parameters : Targeting → List String
  | everyone => []
  | percentage .. => ["percentage", "seed", "otherwise"]
  | listed .. => ["tenants", "otherwise"]

/-- The tag of an object names a strategy. -/
def Names (p : Place) (ms : List (String × Json)) (strategy : String) : Prop :=
  ∃ tag, find? "strategy" ms = some tag ∧ variant? p strategies tag = some strategy

/-- An object holds its tag and nothing but the parameters. -/
def Strict (ms : List (String × Json)) (parameters : List String) : Prop :=
  ∀ m ∈ ms, m.1 = "strategy" ∨ m.1 ∈ parameters

/-- What the members of an object stand for. -/
inductive Written (p : Place) (ms : List (String × Json)) : Targeting → Prop where
  | everyone (names : Names p ms "static") : Written p ms .everyone
  | percentage {percent : UInt8} {seed : UInt64} {otherwise : Mode}
      (names : Names p ms "percentage") (strict : Strict ms ["percentage", "seed", "otherwise"])
      (percent_eq : required (find? · ms) "percentage" (readBelow UInt8.size) = some percent.toNat)
      (seed_eq : defaulted (find? · ms) "seed" (readBelow UInt64.size) 0 = some seed.toNat)
      (otherwise_eq : defaulted (find? · ms) "otherwise" (Mode.ofJson? .besideTag)
        .attributeOnly = some otherwise) : Written p ms (.percentage percent seed otherwise)
  | listed {tenants : NameSet} {otherwise : Mode} (names : Names p ms "tenant_allowlist")
      (strict : Strict ms ["tenants", "otherwise"])
      (tenants_eq : required (find? · ms) "tenants" (NameSet.ofJson? .besideTag) = some tenants)
      (otherwise_eq : defaulted (find? · ms) "otherwise" (Mode.ofJson? .besideTag)
        .attributeOnly = some otherwise) : Written p ms (.listed tenants otherwise)

/-- What stands beside the tag. -/
def beside (ms : List (String × Json)) : List (String × Json) :=
  ms.filter fun m => m.1 != "strategy"

variable {p : Place} {ms : List (String × Json)}

theorem closedRecord?_beside {names : List String} {f : Fields} :
    closedRecord? .besideTag names (.obj (beside ms)) = some f ↔
      Strict ms names ∧ f = fun name => find? name (beside ms) := by
  rw [closedRecord?_obj]
  refine and_congr_left fun _ => forall_congr' fun m => ?_
  rw [beside, List.mem_filter, bne_iff_ne, and_imp]
  exact forall_congr' fun _ => Classical.or_iff_not_imp_left.symm

theorem required_beside {name : String} (h : name ≠ "strategy") (read : Json → Option α) :
    required (fun n => find? n (beside ms)) name read = required (find? · ms) name read := by
  simp only [required, beside, find?_filter_ne h]

theorem defaulted_beside {name : String} (h : name ≠ "strategy") (read : Json → Option α)
    (value : α) :
    defaulted (fun n => find? n (beside ms)) name read value =
      defaulted (find? · ms) name read value := by
  simp only [defaulted, beside, find?_filter_ne h]

/-- Every member belongs to targeting, and its parameters are the ones of the object. -/
theorem percentageOfJson?_beside {t : Targeting} :
    percentageOfJson? (.obj (beside ms)) = some t ↔
      Strict ms ["percentage", "seed", "otherwise"] ∧
        ∃ (percent : UInt8) (seed : UInt64) (otherwise : Mode),
          required (find? · ms) "percentage" (readBelow UInt8.size) = some percent.toNat ∧
          defaulted (find? · ms) "seed" (readBelow UInt64.size) 0 = some seed.toNat ∧
          defaulted (find? · ms) "otherwise" (Mode.ofJson? .besideTag) .attributeOnly =
            some otherwise ∧
          t = .percentage percent seed otherwise := by
  constructor
  · intro h
    unfold percentageOfJson? at h
    split at h
    · cases h
    · rename_i f hf
      obtain ⟨hstrict, rfl⟩ := closedRecord?_beside.1 hf
      rw [required_beside (by decide), defaulted_beside (by decide),
        defaulted_beside (by decide)] at h
      split at h
      · rename_i n k otherwise hn hk hotherwise
        cases h
        refine ⟨hstrict, .ofNat n, .ofNat k, otherwise, ?_, ?_, hotherwise, rfl⟩
        · rw [UInt8.toNat_ofNat_of_lt' (required_lt (by decide) hn), hn]
        · rw [UInt64.toNat_ofNat_of_lt' (defaulted_lt (by decide) hk), hk]
      · cases h
  · rintro ⟨hstrict, percent, seed, otherwise, hpercent, hseed, hotherwise, rfl⟩
    rw [← required_beside (by decide)] at hpercent
    rw [← defaulted_beside (by decide)] at hseed hotherwise
    simp only [percentageOfJson?, closedRecord?_beside.2 ⟨hstrict, rfl⟩, hpercent, hseed,
      hotherwise, UInt8.ofNat_toNat, UInt64.ofNat_toNat]

theorem listedOfJson?_beside {t : Targeting} :
    listedOfJson? (.obj (beside ms)) = some t ↔
      Strict ms ["tenants", "otherwise"] ∧
        ∃ (tenants : NameSet) (otherwise : Mode),
          required (find? · ms) "tenants" (NameSet.ofJson? .besideTag) = some tenants ∧
          defaulted (find? · ms) "otherwise" (Mode.ofJson? .besideTag) .attributeOnly =
            some otherwise ∧
          t = .listed tenants otherwise := by
  constructor
  · intro h
    unfold listedOfJson? at h
    split at h
    · cases h
    · rename_i f hf
      obtain ⟨hstrict, rfl⟩ := closedRecord?_beside.1 hf
      rw [required_beside (by decide), defaulted_beside (by decide)] at h
      split at h
      · rename_i tenants otherwise htenants hotherwise
        cases h
        exact ⟨hstrict, tenants, otherwise, htenants, hotherwise, rfl⟩
      · cases h
  · rintro ⟨hstrict, tenants, otherwise, htenants, hotherwise, rfl⟩
    rw [← required_beside (by decide)] at htenants
    rw [← defaulted_beside (by decide)] at hotherwise
    simp only [listedOfJson?, closedRecord?_beside.2 ⟨hstrict, rfl⟩, htenants, hotherwise]

theorem besideTag?_obj {strategy : String} {rest : Json} :
    besideTag? p "strategy" strategies (.obj ms) = some (strategy, rest) ↔
      (Json.obj (beside ms)).holdsWords = true ∧ Names p ms strategy ∧ rest = .obj (beside ms) := by
  rw [besideTag?, Names]
  cases find? "strategy" ms with
  | none => simp
  | some tag =>
    -- the rest that is looked through is what stands beside the tag
    change (if (Json.obj (beside ms)).holdsWords = true then _ else none) = _ ↔ _
    split
    · rename_i hwords
      simp only [Option.map_eq_some_iff, Prod.mk.injEq, Option.some.injEq, exists_eq_left',
        hwords, true_and]
      constructor
      · rintro ⟨_, hvariant, rfl, hrest⟩
        exact ⟨hvariant, hrest.symm⟩
      · rintro ⟨hvariant, hrest⟩
        exact ⟨_, hvariant, rfl, hrest.symm⟩
    · rename_i hwords
      simp [hwords]

/-- An object is read as targeting if and only if it stands for it. -/
theorem ofJson?_eq_some_iff {t : Targeting} :
    ofJson? p (.obj ms) = some t ↔
      (Json.obj (beside ms)).holdsWords = true ∧ Written p ms t := by
  constructor
  · intro h
    unfold ofJson? at h
    split at h
    · rename_i hbeside
      obtain ⟨hwords, hnames, rfl⟩ := besideTag?_obj.1 hbeside
      cases h
      exact ⟨hwords, .everyone hnames⟩
    · rename_i hbeside
      obtain ⟨hwords, hnames, rfl⟩ := besideTag?_obj.1 hbeside
      obtain ⟨hstrict, percent, seed, otherwise, hpercent, hseed, hotherwise, rfl⟩ :=
        percentageOfJson?_beside.1 h
      exact ⟨hwords, .percentage hnames hstrict hpercent hseed hotherwise⟩
    · rename_i hbeside
      obtain ⟨hwords, hnames, rfl⟩ := besideTag?_obj.1 hbeside
      obtain ⟨hstrict, tenants, otherwise, htenants, hotherwise, rfl⟩ := listedOfJson?_beside.1 h
      exact ⟨hwords, .listed hnames hstrict htenants hotherwise⟩
    · cases h
  · rintro ⟨hwords, h⟩
    cases h with
    | everyone hnames =>
      rw [ofJson?, besideTag?_obj.2 ⟨hwords, hnames, rfl⟩]
      rfl
    | percentage hnames hstrict hpercent hseed hotherwise =>
      rw [ofJson?, besideTag?_obj.2 ⟨hwords, hnames, rfl⟩]
      exact percentageOfJson?_beside.2 ⟨hstrict, _, _, _, hpercent, hseed, hotherwise, rfl⟩
    | listed hnames hstrict htenants hotherwise =>
      rw [ofJson?, besideTag?_obj.2 ⟨hwords, hnames, rfl⟩]
      exact listedOfJson?_beside.2 ⟨hstrict, _, _, htenants, hotherwise, rfl⟩

theorem Written.strict {t : Targeting} (h : Written p ms t) (ht : t ≠ .everyone) :
    Strict ms t.parameters := by
  cases h with
  | everyone => exact absurd rfl ht
  | percentage _ hstrict => exact hstrict
  | listed _ hstrict => exact hstrict

/-! ## Targeting inside policies and settings -/

theorem ofJson?_of_defaulted {f : Fields} {v : Json} {value t : Targeting}
    (h : defaulted f "targeting" (ofJson? p) value = some t) (hv : f "targeting" = some v) :
    ofJson? p v = some t := by
  rw [defaulted, hv] at h
  exact h

/-- A policy that holds targeting is read only if the targeting is, and has it. -/
theorem ofJson?_of_policy {v w : Json} {policy : RolloutPolicy}
    (h : RolloutPolicy.ofJson? v = some policy)
    (hw : fieldOf? ["mode", "targeting"] "targeting" v = some w) :
    ofJson? .message w = some policy.targeting := by
  unfold RolloutPolicy.ofJson? at h
  split at h
  · cases h
  · rename_i f hf
    rw [← eq_fieldOf? hf] at hw
    split at h
    · rename_i htargeting
      cases h
      exact ofJson?_of_defaulted htargeting hw
    · cases h

/-- Settings that hold targeting are read only if the targeting is, and have it. -/
theorem ofJson?_of_config {v w : Json} {c : Config} (h : Config.ofJson? p v = some c)
    (hw : fieldOf? Config.names "targeting" v = some w) : ofJson? p w = some c.targeting := by
  unfold Config.ofJson? at h
  split at h
  · cases h
  · rename_i f hf
    rw [← eq_fieldOf? hf] at hw
    split at h
    · rename_i htargeting _ _ _ _ _ _ _ _ _
      cases h
      exact ofJson?_of_defaulted htargeting hw
    · cases h

/-- An object is read as targeting exactly if it stands for it, so that a strategy with parameters
refuses all other members. Policies and settings have the targeting that their object is read as,
and are refused with it. -/
theorem strict_with_parameters (p : Place) (ms : List (String × Json)) :
    (∀ t, ofJson? p (.obj ms) = some t ↔
      (Json.obj (beside ms)).holdsWords = true ∧ Written p ms t) ∧
    (∀ t, ofJson? p (.obj ms) = some t → t ≠ .everyone → Strict ms t.parameters) ∧
    (∀ v policy, RolloutPolicy.ofJson? v = some policy →
      fieldOf? ["mode", "targeting"] "targeting" v = some (.obj ms) →
      ofJson? .message (.obj ms) = some policy.targeting) ∧
    ∀ v c, Config.ofJson? p v = some c → fieldOf? Config.names "targeting" v = some (.obj ms) →
      ofJson? p (.obj ms) = some c.targeting :=
  ⟨fun _ => ofJson?_eq_some_iff, fun _ h => (ofJson?_eq_some_iff.1 h).2.strict,
    fun _ _ h hw => ofJson?_of_policy h hw, fun _ _ h hw => ofJson?_of_config h hw⟩

/-- A quarter of the tenants, in a policy. -/
theorem strict_with_parameters_of_percentage :
    let ms := [("strategy", Json.str "percentage"), ("percentage", .nat 25)]
    let v := Json.obj [("mode", .str "dual_validate"), ("targeting", .obj ms)]
    RolloutPolicy.ofJson? v = some ⟨.dualValidate, .percentage 25 0 .attributeOnly⟩ ∧
      ofJson? .message (.obj ms) = some (.percentage 25 0 .attributeOnly) ∧
      Strict ms ["percentage", "seed", "otherwise"] := by
  intro ms v
  have hpolicy : RolloutPolicy.ofJson? v = some ⟨.dualValidate, .percentage 25 0 .attributeOnly⟩ :=
    by decide +kernel
  obtain ⟨_, hstrict, hread, _⟩ := strict_with_parameters .message ms
  have htargeting := hread v _ hpolicy rfl
  exact ⟨hpolicy, htargeting, hstrict _ htargeting (by decide)⟩

/-- The strategy without parameters passes over any member beside it: a policy for one listed tenant
whose strategy is written wrong is a policy for all tenants. -/
theorem stray_members_dropped :
    let ms := [("strategy", Json.str "static"), ("tenants", .strings ["1000"])]
    let v := Json.obj [("mode", .str "relationship_only"), ("targeting", .obj ms)]
    ¬ Strict ms (parameters .everyone) ∧ ofJson? .message (.obj ms) = some .everyone ∧
      RolloutPolicy.ofJson? v = some (.fixed .relationshipOnly) ∧
      ∀ tenant, (RolloutPolicy.fixed .relationshipOnly).select tenant = .relationshipOnly := by
  refine ⟨fun h => ?_, by decide +kernel, by decide +kernel, fun _ => rfl⟩
  exact absurd (h ("tenants", .strings ["1000"]) (by simp)) (by simp [parameters])

end ScopedAccess.Targeting
