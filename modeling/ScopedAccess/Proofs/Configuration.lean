import Mathlib.Data.List.Basic
import ScopedAccess.Config.Document
import ScopedAccess.Config.Load

/-!
# ScopedAccess.Proofs.Configuration

What loading makes of a settings file and the variables beside it.

* `Environment.settings_eq_empty`: variables come to no settings at all exactly if none of their
  names stands for one; `Environment.member?_settings_snoc`: of two for one setting the later counts.
* `ConfigSources.load_exact`: however files are read, a refused one loads as the standard settings,
  whatever the variables say, and any other sources load exactly as the section they come to.
* `ConfigSources.broken_file_hides_variables`: so it is for a file that breaks off.
-/

namespace ScopedAccess

namespace Json

@[simp] theorem find?_setMember (name other : String) (v : Json) (ms : List (String × Json)) :
    find? other (setMember name v ms) = if name = other then some v else find? other ms := by
  induction ms with
  | nil => rfl
  | cons m ms ih =>
    obtain ⟨n, w⟩ := m
    by_cases hn : n = name
    · subst hn
      by_cases ho : n = other <;> simp [setMember, find?, ho]
    · rw [setMember, if_neg hn, find?, find?, ih]
      by_cases ho : n = other
      · subst ho
        simp [Ne.symm hn]
      · simp [ho]

theorem setMember_ne_nil (name : String) (v : Json) (ms : List (String × Json)) :
    setMember name v ms ≠ [] := by
  cases ms with
  | nil => simp [setMember]
  | cons m ms =>
    unfold setMember
    split <;> simp

end Json

/-! ## Variables -/

namespace Environment

open Json Text

theorem path?_ne_nil (name : String) : path? name ≠ some [] := by
  simp only [path?]
  split
  · split
    · simp
    · simp [fields, fieldChars_ne_nil]
  · simp

/-- Putting one member over an object. -/
theorem overlay_member (below : List (String × Json)) (name : String) (v : Json) :
    overlay (.obj below) (.obj [(name, v)]) =
      .obj (setMember name (match find? name below with
        | some w => overlay w v
        | none => v) below) := by
  cases hbelow : find? name below <;> simp [overlay, overlayMembers, hbelow]

/-- A variable adds to an object: it stays one, and stays empty only if the variable's name stands
for no setting. -/
theorem addVariable_obj (ms : List (String × Json)) (entry : String × String) :
    ∃ ms', addVariable (.obj ms) entry = .obj ms' ∧
      (ms' = [] ↔ ms = [] ∧ path? entry.1 = none) := by
  unfold addVariable
  cases hp : path? entry.1 with
  | none => exact ⟨ms, rfl, by simp⟩
  | some path =>
    cases path with
    | nil => exact absurd hp (path?_ne_nil entry.1)
    | cons name rest =>
      simp only [nest, overlay_member]
      exact ⟨_, rfl, by simp [setMember_ne_nil]⟩

theorem foldl_addVariable (entries : List (String × String)) (ms : List (String × Json)) :
    ∃ ms', entries.foldl addVariable (.obj ms) = .obj ms' ∧
      (ms' = [] ↔ ms = [] ∧ ∀ name ∈ entries.map Prod.fst, path? name = none) := by
  induction entries generalizing ms with
  | nil => exact ⟨ms, rfl, by simp⟩
  | cons entry entries ih =>
    obtain ⟨ms₁, hadd, hempty₁⟩ := addVariable_obj ms entry
    obtain ⟨ms₂, hfold, hempty₂⟩ := ih ms₁
    refine ⟨ms₂, by rw [List.foldl_cons, hadd, hfold], ?_⟩
    rw [hempty₂, hempty₁, List.map_cons, List.forall_mem_cons, and_assoc]

/-- Variables come to no settings exactly if none of their names stands for a setting. -/
theorem settings_eq_empty {environment : List (String × String)} :
    settings environment = .obj [] ↔ ∀ name ∈ environment.map Prod.fst, path? name = none := by
  obtain ⟨ms, hfold, hempty⟩ := foldl_addVariable environment []
  rw [settings, hfold, Json.obj.injEq, hempty, eq_self_iff_true, true_and]

theorem overlay_of_not_obj {below above : Json} (h : ∀ ms, above ≠ .obj ms) :
    overlay below above = above := by
  unfold overlay
  split
  · rename_i ms
    exact absurd rfl (h ms)
  · rfl

/-- Whatever the variables before it say, the last one for a setting counts. -/
theorem member?_settings_snoc {before : List (String × String)} {entry : String × String}
    {name : String} (hname : path? entry.1 = some [name]) (hvalue : ∀ ms, value entry.2 ≠ .obj ms) :
    (settings (before ++ [entry])).member? name = some (value entry.2) := by
  obtain ⟨ms, hfold, _⟩ := foldl_addVariable before []
  have hlast : addVariable (.obj ms) entry = overlay (.obj ms) (.obj [(name, value entry.2)]) := by
    simp only [addVariable, hname, nest]
  rw [settings, List.foldl_append, hfold, List.foldl_cons, List.foldl_nil, hlast, overlay_member,
    member?, find?_setMember, if_pos rfl]
  cases find? name ms with
  | none => rfl
  | some w => exact congrArg some (overlay_of_not_obj hvalue)

end Environment

/-! ## Files -/

namespace ConfigSources

open Json Environment

variable {reader : FileReader} {s : ConfigSources}

/-- A file is there, and its text is not valid or holds something else than an object. -/
def Refused (reader : FileReader) (s : ConfigSources) : Prop :=
  ∃ text, s.file = some text ∧ ∀ ms, reader text ≠ some (.obj ms)

theorem refused_iff : s.Refused reader ↔ fileObject? reader s.file = none := by
  obtain ⟨file, environment⟩ := s
  unfold Refused fileObject?
  cases file with
  | none => simp
  | some text =>
    constructor
    · rintro ⟨_, ⟨⟩, h⟩
      dsimp only
      split
      · rename_i ms hms
        exact absurd hms (h ms)
      · rfl
    · refine fun h => ⟨text, rfl, fun ms hms => ?_⟩
      simp only [hms] at h
      cases h

/-! ## Sections -/

/-- The section of the settings in the file, if there is a file with one. -/
def fileSection? (reader : FileReader) (s : ConfigSources) : Option Json :=
  (fileObject? reader s.file).bind (member? settingsSection)

/-- Some variable stands for a setting. -/
def HasVariables (s : ConfigSources) : Prop :=
  ∃ name ∈ s.environment.map Prod.fst, path? name ≠ none

/-- There is a readable file or none at all, but no settings. -/
def Silent (reader : FileReader) (s : ConfigSources) : Prop :=
  ¬ s.Refused reader ∧ s.fileSection? reader = none ∧ ¬ s.HasVariables

/-- The section that a readable file, or none, comes to with the variables laid over it. -/
inductive Holds (reader : FileReader) (s : ConfigSources) : Json → Prop where
  | file {v : Json} (readable : ¬ s.Refused reader) (inFile : s.fileSection? reader = some v)
      (alone : ¬ s.HasVariables) : Holds reader s v
  | variables (readable : ¬ s.Refused reader) (notInFile : s.fileSection? reader = none)
      (set : s.HasVariables) : Holds reader s (settings s.environment)
  | both {v : Json} (readable : ¬ s.Refused reader) (inFile : s.fileSection? reader = some v)
      (set : s.HasVariables) : Holds reader s (overlay v (settings s.environment))

theorem settings_eq_empty_iff : settings s.environment = .obj [] ↔ ¬ s.HasVariables := by
  simp [settings_eq_empty, HasVariables]

/-- What is not refused holds an object. -/
theorem exists_fileObject (h : ¬ s.Refused reader) :
    ∃ ms, fileObject? reader s.file = some (.obj ms) := by
  obtain ⟨file, environment⟩ := s
  cases file with
  | none => exact ⟨[], rfl⟩
  | some text =>
    by_contra hnone
    exact h ⟨text, rfl, fun ms hms => hnone ⟨ms, by simp [fileObject?, hms]⟩⟩

theorem section?_of_refused (h : s.Refused reader) : s.section? reader settingsSection = none := by
  rw [section?, refused_iff.1 h]

theorem section?_of_no_variables (h : ¬ s.Refused reader) (hvs : ¬ s.HasVariables) :
    s.section? reader settingsSection = s.fileSection? reader := by
  obtain ⟨ms, hms⟩ := exists_fileObject h
  rw [section?, hms, environmentObject, settings_eq_empty_iff.2 hvs, fileSection?, hms]
  simp only [overlay, overlayMembers, Option.bind_some]

theorem section?_of_variables (h : ¬ s.Refused reader) (hvs : s.HasVariables) :
    s.section? reader settingsSection = some (match s.fileSection? reader with
      | some v => overlay v (settings s.environment)
      | none => settings s.environment) := by
  obtain ⟨ms, hms⟩ := exists_fileObject h
  have henv : environmentObject s.environment =
      .obj [(settingsSection, settings s.environment)] := by
    unfold environmentObject
    split
    · rename_i hempty
      exact absurd hvs (settings_eq_empty_iff.1 hempty)
    · rfl
  simp only [section?, hms, henv, overlay_member, fileSection?, Option.bind_some, member?,
    find?_setMember, if_true]

theorem section?_eq_none :
    s.section? reader settingsSection = none ↔ s.Refused reader ∨ s.Silent reader := by
  by_cases h : s.Refused reader
  · simp [section?_of_refused h, h]
  · by_cases hvs : s.HasVariables
    · simp [section?_of_variables h hvs, Silent, h, hvs]
    · simp [section?_of_no_variables h hvs, Silent, h, hvs]

theorem section?_eq_some {v : Json} :
    s.section? reader settingsSection = some v ↔ s.Holds reader v := by
  constructor
  · intro hsection
    by_cases h : s.Refused reader
    · rw [section?_of_refused h] at hsection
      cases hsection
    · by_cases hvs : s.HasVariables
      · rw [section?_of_variables h hvs, Option.some.injEq] at hsection
        subst hsection
        split
        · rename_i hfile
          exact .both h hfile hvs
        · rename_i hfile
          exact .variables h hfile hvs
      · rw [section?_of_no_variables h hvs] at hsection
        exact .file h hsection hvs
  · rintro (⟨h, hfile, hvs⟩ | ⟨h, hfile, hvs⟩ | ⟨h, hfile, hvs⟩)
    · rw [section?_of_no_variables h hvs, hfile]
    · rw [section?_of_variables h hvs, hfile]
    · rw [section?_of_variables h hvs, hfile]

/-! ## Loading -/

theorem objection?_standard : Config.standard.objection? = none := by decide +kernel

theorem load_of_no_section (h : s.section? reader settingsSection = none) :
    Config.load reader s = .ok .standard := by
  rw [Config.load, h, Config.ofSection, Config.ofSection.checked, objection?_standard]

/-- However files are read, sources load as a configuration in two ways: the standard one where the
file is refused or nothing is set, or the consistent one that their section reads as. A section that
reads as none is unreadable, and one that reads as an inconsistent one is refused with a reason. A
refused file is never reported, and it hides every variable. -/
theorem load_exact (reader : FileReader) (s : ConfigSources) (c : Config) (reason : String) :
    (Config.load reader s = .ok c ↔ (s.Refused reader ∨ s.Silent reader) ∧ c = .standard ∨
      ∃ v, s.Holds reader v ∧ Config.ofJson? .settings v = some c ∧ c.objection? = none) ∧
    (Config.load reader s = .error .unreadable ↔
      ∃ v, s.Holds reader v ∧ Config.ofJson? .settings v = none) ∧
    (Config.load reader s = .error (.inconsistent reason) ↔
      ∃ v d, s.Holds reader v ∧ Config.ofJson? .settings v = some d ∧
        d.objection? = some reason) := by
  simp only [← section?_eq_none, ← section?_eq_some]
  cases hsection : s.section? reader settingsSection with
  | none =>
    rw [load_of_no_section hsection]
    simp [eq_comm]
  | some v =>
    simp only [Config.load, hsection, Config.ofSection, Option.some.injEq, exists_eq_left',
      reduceCtorEq, false_and, false_or]
    cases hread : Config.ofJson? .settings v with
    | none => simp [hread]
    | some d =>
      cases hobjection : d.objection? with
      | none =>
        have hc : d = c → c.objection? = none := by rintro rfl; exact hobjection
        simpa [hread, Config.ofSection.checked, hobjection] using hc
      | some why =>
        have hc : d = c → c.objection? ≠ none := by rintro rfl; simp [hobjection]
        simpa [hread, Config.ofSection.checked, hobjection] using hc

/-- A file that breaks off is not refused with an error: it and the variables beside it load as the
standard settings. -/
theorem broken_file_hides_variables :
    let s : ConfigSources :=
      ⟨some "\x7b\"run_authz\": ", [("RUN_AUTHZ__MODE", "dual_validate")]⟩
    s.Refused Document.ofText? ∧ s.HasVariables ∧
      Config.load Document.ofText? s = .ok .standard := by
  intro s
  have hrefused : s.Refused Document.ofText? :=
    refused_iff.2 (Option.isNone_iff_eq_none.1 (by decide +kernel))
  exact ⟨hrefused, ⟨"RUN_AUTHZ__MODE", by simp [s], by decide +kernel⟩,
    load_of_no_section (section?_of_refused hrefused)⟩

end ConfigSources

end ScopedAccess
