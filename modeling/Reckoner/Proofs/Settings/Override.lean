import Mathlib.Tactic.FinCases
import Reckoner.Settings.Override

/-!
Overrides, and those that are refused. Values are assigned one after the other, those of the voice
channel last, and the first one that does not fit ends the assignment. Those before it stay
assigned, and nothing else has changed: a setting that none of them names has the value it had. So
whatever becomes of them, every setting that overrides change is one that they name.
-/

namespace Reckoner.Settings

section Assignment

variable {σ : Type} {fields : List (Field σ)}

/-- All values are accepted, one after the other; a name that no setting has is passed over. So it
is no error to name one that does not exist. -/
inductive Assigned (fields : List (Field σ)) : List (String × Json) → σ → σ → Prop where
  | nil (settings : σ) : Assigned fields [] settings settings
  | unknown {name : String} {rest : List (String × Json)} {settings after : σ} (json : Json)
      (hname : ∀ field ∈ fields, field.name ≠ name) (hrest : Assigned fields rest settings after) :
      Assigned fields ((name, json) :: rest) settings after
  | known {field : Field σ} {json : Json} {rest : List (String × Json)}
      {settings assigned after : σ} (hfield : field ∈ fields)
      (hassign : field.assign json settings = .ok assigned)
      (hrest : Assigned fields rest assigned after) :
      Assigned fields ((field.name, json) :: rest) settings after

/-- After some of the members were assigned, a setting refuses the next one. What comes behind it is
not looked at. -/
inductive Stops (fields : List (Field σ)) (members : List (String × Json)) (settings after : σ)
    (applied : List (String × Json)) : OverrideError → Prop where
  | refused {field : Field σ} {json : Json} {rest : List (String × Json)} {cause : Refusal}
      (hmembers : members = applied ++ (field.name, json) :: rest)
      (happlied : Assigned fields applied settings after) (hfield : field ∈ fields)
      (hrefused : field.assign json after = .error cause) :
      Stops fields members settings after applied (.refused field.name cause)

theorem Stops.assigned {members applied : List (String × Json)} {settings after : σ}
    {error : OverrideError} (h : Stops fields members settings after applied error) :
    Assigned fields applied settings after := by
  cases h with
  | refused _ happlied => exact happlied

/-- It stops at the same place with a member before that is assigned. This carries the induction
over the members. -/
theorem Stops.cons {member : String × Json} {members applied : List (String × Json)}
    {settings assigned after : σ} {error : OverrideError}
    (h : Stops fields members assigned after applied error)
    (hassigned : Assigned fields (member :: applied) settings after) :
    Stops fields (member :: members) settings after (member :: applied) error := by
  cases h with
  | refused hmembers _ hfield hrefused =>
      exact .refused (by rw [hmembers, List.cons_append]) hassigned hfield hrefused

/-- Either all members are assigned, or one is refused after those before it were assigned. There is
no third way for an assignment to end. -/
theorem assignAll_cases (fields : List (Field σ)) (members : List (String × Json)) (settings : σ) :
    (∃ after, assignAll fields members settings = (after, none) ∧
        Assigned fields members settings after) ∨
      ∃ after applied error, assignAll fields members settings = (after, some error) ∧
        Stops fields members settings after applied error := by
  induction members generalizing settings with
  | nil => exact Or.inl ⟨settings, rfl, .nil settings⟩
  | cons member rest ih =>
      obtain ⟨name, json⟩ := member
      cases hfound : fields.find? (·.name = name) with
      | none =>
          have hname : ∀ field ∈ fields, field.name ≠ name := by simpa using hfound
          simp only [assignAll, hfound]
          rcases ih settings with ⟨after, hall, hassigned⟩ | ⟨after, applied, error, hall, hstops⟩
          · exact Or.inl ⟨after, hall, .unknown json hname hassigned⟩
          · have hassigned := Assigned.unknown json hname hstops.assigned
            exact Or.inr ⟨after, (name, json) :: applied, error, hall, hstops.cons hassigned⟩
      | some field =>
          have hfield := List.mem_of_find?_eq_some hfound
          obtain rfl : field.name = name := by simpa using List.find?_some hfound
          cases hassign : field.assign json settings with
          | error cause =>
              refine Or.inr ⟨settings, [], .refused field.name cause, ?_, ?_⟩
              · simp only [assignAll, hfound, hassign]
              · exact .refused rfl (.nil settings) hfield hassign
          | ok assigned =>
              simp only [assignAll, hfound, hassign]
              rcases ih assigned with
                ⟨after, hall, hassigned⟩ | ⟨after, applied, error, hall, hstops⟩
              · exact Or.inl ⟨after, hall, .known hfield hassign hassigned⟩
              · have hassigned := Assigned.known hfield hassign hstops.assigned
                exact Or.inr
                  ⟨after, (field.name, json) :: applied, error, hall, hstops.cons hassigned⟩

/-- As far as values fit, some of the members are assigned, whether a later one is refused or
not. -/
theorem exists_assigned_assignAll (fields : List (Field σ)) (members : List (String × Json))
    (settings : σ) :
    ∃ applied ⊆ members,
      Assigned fields applied settings (assignAll fields members settings).1 := by
  rcases assignAll_cases fields members settings with
    ⟨after, hall, hassigned⟩ | ⟨after, applied, error, hall, hstops⟩
  · rw [hall]
    exact ⟨members, List.Subset.refl members, hassigned⟩
  · rw [hall]
    refine ⟨applied, ?_, hstops.assigned⟩
    cases hstops with
    | refused hmembers =>
        rw [hmembers]
        exact List.subset_append_left _ _

/-- Assigning to the setting leaves the others of a list alone. Settings are told apart by their
names, for all else that they consist of are functions. -/
def Field.Spares (field : Field σ) (others : List (Field σ)) : Prop :=
  ∀ json settings assigned, field.assign json settings = .ok assigned →
    ∀ other ∈ others, other.name ≠ field.name → other.value assigned = other.value settings

def Separate (fields : List (Field σ)) : Prop := ∀ field ∈ fields, field.Spares fields

/-- Whatever a value is converted to, all that an assignment does with it is to set the one setting.
So the settings it spares are those that an update of this one does not show in. -/
theorem Field.of_spares {α : Type} {name : String} {convert : Json → Except Refusal α}
    {set : α → σ → σ} {value : σ → Value} {others : List (Field σ)}
    (hset : ∀ a settings, ∀ other ∈ others, other.name ≠ name →
      other.value (set a settings) = other.value settings) :
    (Field.of name convert set value).Spares others := by
  intro json settings assigned h
  simp only [Field.of] at h
  cases hconvert : convert json with
  | error cause =>
      rw [hconvert] at h
      cases h
  | ok a =>
      rw [hconvert] at h
      cases h
      exact hset a settings

/-- What no member names keeps its value, whatever is assigned to the others. This is where settings
have to be separate. -/
theorem Assigned.value_eq {members : List (String × Json)} {settings after : σ}
    (h : Assigned fields members settings after) (hseparate : Separate fields) {other : Field σ}
    (hother : other ∈ fields) (hname : other.name ∉ members.map Prod.fst) :
    other.value after = other.value settings := by
  induction h with
  | nil => rfl
  | unknown json _ _ ih => exact ih fun hmem => hname (List.mem_cons_of_mem _ hmem)
  | known hfield hassign _ ih =>
      rw [ih fun hmem => hname (List.mem_cons_of_mem _ hmem)]
      exact hseparate _ hfield _ _ _ hassign other hother
        fun heq => hname (heq ▸ List.mem_cons_self)

end Assignment

theorem separate_fields : Separate fields := by
  intro field hfield
  fin_cases hfield <;> exact Field.of_spares (by
    simp only [fields, Field.of, List.forall_mem_cons, List.not_mem_nil, ne_eq, not_true_eq_false,
      false_implies, implies_true, and_self])

theorem separate_voiceFields : Separate voiceFields := by
  intro field hfield
  fin_cases hfield <;> exact Field.of_spares (by
    simp only [voiceFields, Field.of, List.forall_mem_cons, List.not_mem_nil, ne_eq,
      not_true_eq_false, false_implies, implies_true, and_self])

/-- The overrides of settings other than those of the voice channel. They are assigned first,
wherever they stand among the others. -/
def general (overrides : List (String × Json)) : List (String × Json) :=
  overrides.filter (·.1 ≠ voiceSection)

/-- A setting that two configurations differ in is reported with its new value, under the name that
it has in overrides. -/
theorem mem_changes {before after : Configuration} {name : String} {value : Value}
    (h : (name, value) ∈ changes before after) :
    (∃ field ∈ fields, field.name = name ∧
        field.value before.settings ≠ field.value after.settings) ∨
      ∃ field ∈ voiceFields, voiceSection ++ "." ++ field.name = name ∧
        field.value before.voice ≠ field.value after.voice := by
  unfold changes entries at h
  rw [List.zip_append (by simp), List.zip_map', List.zip_map', List.filterMap_append,
    List.filterMap_map, List.filterMap_map, List.mem_append, List.mem_filterMap,
    List.mem_filterMap] at h
  refine h.imp ?_ ?_
  all_goals
    rintro ⟨field, hfield, hchange⟩
    rw [Function.comp_apply, Option.ite_none_left_eq_some] at hchange
    obtain ⟨hdiffers, hentry⟩ := hchange
    cases hentry
    exact ⟨field, hfield, rfl, hdiffers⟩

/-- Overriding assigns some of the general overrides, and of the voice section, if it is a mapping,
some of the members; nothing else happens to a configuration. -/
theorem assigned_applyOverrides (overrides : List (String × Json)) (before : Configuration) :
    (∃ applied ⊆ general overrides,
        Assigned fields applied before.settings (applyOverrides overrides before).1.settings) ∧
      ((applyOverrides overrides before).1.voice = before.voice ∨
        ∃ members applied, overrides.lookup voiceSection = some (.object members) ∧
          applied ⊆ members ∧
          Assigned voiceFields applied before.voice (applyOverrides overrides before).1.voice) := by
  obtain ⟨applied, hsubset, hassigned⟩ :=
    exists_assigned_assignAll fields (general overrides) before.settings
  simp only [applyOverrides, ← general.eq_def]
  revert hassigned
  rcases assignAll fields (general overrides) before.settings with ⟨settings, _ | error⟩
  · intro hassigned
    dsimp only
    split
    · exact ⟨⟨applied, hsubset, hassigned⟩, Or.inl rfl⟩
    · rename_i members hvoice
      obtain ⟨voiceApplied, hvoiceSubset, hvoiceAssigned⟩ :=
        exists_assigned_assignAll voiceFields members before.voice
      exact ⟨⟨applied, hsubset, hassigned⟩,
        Or.inr ⟨members, voiceApplied, hvoice, hvoiceSubset, hvoiceAssigned⟩⟩
    · split <;> exact ⟨⟨applied, hsubset, hassigned⟩, Or.inl rfl⟩
  · intro hassigned
    exact ⟨⟨applied, hsubset, hassigned⟩, Or.inl rfl⟩

/-- Whether overrides are accepted or refused, every setting that they change is one that they name,
in the mapping itself or in its voice section. -/
theorem named_of_mem_changes {overrides : List (String × Json)} {before : Configuration}
    {name : String} {value : Value}
    (h : (name, value) ∈ changes before (applyOverrides overrides before).1) :
    name ∈ overrides.map Prod.fst ∨
      ∃ members, overrides.lookup voiceSection = some (.object members) ∧
        ∃ key ∈ members.map Prod.fst, voiceSection ++ "." ++ key = name := by
  obtain ⟨⟨applied, hsubset, hassigned⟩, hvoice⟩ := assigned_applyOverrides overrides before
  rcases mem_changes h with ⟨field, hfield, rfl, hchange⟩ | ⟨field, hfield, rfl, hchange⟩
  · left
    by_contra hname
    have hgeneral : applied ⊆ overrides :=
      List.Subset.trans hsubset (List.filter_subset_self _)
    have hunnamed : field.name ∉ applied.map Prod.fst := fun hmem =>
      hname (List.map_subset _ hgeneral hmem)
    exact hchange (hassigned.value_eq separate_fields hfield hunnamed).symm
  · right
    rcases hvoice with hsame | ⟨members, applied, hmembers, hsubset, hassigned⟩
    · exact absurd (congrArg field.value hsame).symm hchange
    · refine ⟨members, hmembers, field.name, ?_, rfl⟩
      by_contra hname
      have hunnamed : field.name ∉ applied.map Prod.fst := fun hmem =>
        hname (List.map_subset _ hsubset hmem)
      exact hchange (hassigned.value_eq separate_voiceFields hfield hunnamed).symm

/-- How overriding a configuration stops: at a setting, after all settings at one of the voice
channel, or there at a section that is no mapping. What was assigned before stays. -/
inductive Rejects (overrides : List (String × Json)) (configuration : Configuration) :
    Configuration → List (String × Json) → List (String × Json) → OverrideError → Prop where
  | setting {settings : Settings} {applied : List (String × Json)} {error : OverrideError}
      (hstops : Stops fields (general overrides) configuration.settings settings applied error) :
      Rejects overrides configuration { configuration with settings } applied [] error
  | voiceSetting {settings : Settings} {voice : VoiceSettings}
      {members applied : List (String × Json)} {error : OverrideError}
      (hgeneral : Assigned fields (general overrides) configuration.settings settings)
      (hvoice : overrides.lookup voiceSection = some (.object members))
      (hstops : Stops voiceFields members configuration.voice voice applied error) :
      Rejects overrides configuration { settings, voice } (general overrides) applied error
  | notMapping {settings : Settings} {value : Json}
      (hgeneral : Assigned fields (general overrides) configuration.settings settings)
      (hvoice : overrides.lookup voiceSection = some value) (hvalue : value.isVacant = false)
      (hmapping : ∀ members, value ≠ .object members) :
      Rejects overrides configuration { configuration with settings } (general overrides) []
        (.voiceNotMapping value)

theorem rejects_of_applyOverrides {overrides : List (String × Json)}
    {configuration after : Configuration} {error : OverrideError}
    (h : applyOverrides overrides configuration = (after, some error)) :
    ∃ applied voiceApplied, Rejects overrides configuration after applied voiceApplied error := by
  simp only [applyOverrides, ← general.eq_def] at h
  rcases assignAll_cases fields (general overrides) configuration.settings with
    ⟨settings, hall, hassigned⟩ | ⟨settings, applied, error', hall, hstops⟩
  · rw [hall] at h
    dsimp only at h
    split at h
    · cases h
    · rename_i members hvoice
      rcases assignAll_cases voiceFields members configuration.voice with
        ⟨voice, hall, -⟩ | ⟨voice, applied, error', hall, hstops⟩
      · rw [hall] at h
        cases h
      · rw [hall] at h
        cases h
        exact ⟨_, _, .voiceSetting hassigned hvoice hstops⟩
    · rename_i value hmapping hvoice
      split at h
      · cases h
      · rename_i hvalue
        cases h
        exact ⟨_, _, .notMapping hassigned hvoice (Bool.not_eq_true _ ▸ hvalue) hmapping⟩
  · rw [hall] at h
    cases h
    exact ⟨_, _, .setting hstops⟩

/-- Overrides that are rejected change nothing but what was assigned before the rejected one. The
settings are taken in the order of the mapping, and when all of them fit, those of the voice channel
in the order of their section. -/
theorem rejected_overrides_keep_rest {overrides : List (String × Json)}
    {configuration after : Configuration} {error : OverrideError}
    (h : applyOverrides overrides configuration = (after, some error)) :
    ∃ applied voiceApplied, Rejects overrides configuration after applied voiceApplied error ∧
      (∀ field ∈ fields, field.name ∉ applied.map Prod.fst →
        field.value after.settings = field.value configuration.settings) ∧
      ∀ field ∈ voiceFields, field.name ∉ voiceApplied.map Prod.fst →
        field.value after.voice = field.value configuration.voice := by
  obtain ⟨applied, voiceApplied, hrejects⟩ := rejects_of_applyOverrides h
  refine ⟨applied, voiceApplied, hrejects, ?_⟩
  cases hrejects with
  | setting hstops =>
      exact ⟨fun field => hstops.assigned.value_eq separate_fields, fun _ _ _ => rfl⟩
  | voiceSetting hgeneral _ hstops =>
      exact ⟨fun field => hgeneral.value_eq separate_fields,
        fun field => hstops.assigned.value_eq separate_voiceFields⟩
  | notMapping hgeneral =>
      exact ⟨fun field => hgeneral.value_eq separate_fields, fun _ _ _ => rfl⟩

/-- A voice setting is refused after all settings, and one of the voice channel, were assigned. The
setting that stands last is assigned before it. -/
def mixedOverrides : List (String × Json) := [
  ("history_limit", .integer 5),
  ("voice", .object [("language", .string "fr"), ("enabled", .string "maybe"),
    ("continuous", .bool true)]),
  ("debug", .bool true)]

def mixedConfiguration : Configuration where
  settings := { historyLimit := 5, debug := true }
  voice := { language := "fr" }

theorem mixed_overrides_keep_rest :
    applyOverrides mixedOverrides {} =
        (mixedConfiguration, some (.refused "enabled" .boolParsing)) ∧
      ∃ applied voiceApplied, Rejects mixedOverrides {} mixedConfiguration applied voiceApplied
          (.refused "enabled" .boolParsing) ∧
        (∀ field ∈ fields, field.name ∉ applied.map Prod.fst →
          field.value mixedConfiguration.settings = field.value {}) ∧
        ∀ field ∈ voiceFields, field.name ∉ voiceApplied.map Prod.fst →
          field.value mixedConfiguration.voice = field.value {} := by
  have hrejected : applyOverrides mixedOverrides {} =
      (mixedConfiguration, some (.refused "enabled" .boolParsing)) := by
    rfl
  exact ⟨hrejected, rejected_overrides_keep_rest hrejected⟩

/-- An override before the rejected one stays. The limit of the history is changed although the
overrides as a whole are refused. -/
theorem earlier_override_stays :
    ∃ after, applyOverrides [("history_limit", .integer 5), ("port", .string "eighty")] {} =
        (after, some (.refused "port" .intParsing)) ∧
      after.settings.historyLimit = 5 ∧ ({} : Configuration).settings.historyLimit = 20 :=
  ⟨_, rfl, rfl, rfl⟩

end Reckoner.Settings
