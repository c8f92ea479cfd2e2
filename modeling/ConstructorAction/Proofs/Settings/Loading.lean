import ConstructorAction.Layout.Formatter
import ConstructorAction.Proofs.Text.Blank
import ConstructorAction.Settings.Loading

namespace ConstructorAction.Settings

open ConstructorAction.Files ConstructorAction.Layout ConstructorAction.Text
  ConstructorAction.Tools

/-!
What can be relied on in settings, whatever the file says that they come from. Every key keeps the
formatter one that can be launched (`launchable_load`).
-/

def NotBlank (line : String) : Prop := ∃ c ∈ line.toList, isBlank c = false

instance (line : String) : Decidable (NotBlank line) :=
  decidable_of_iff (line.toList.any fun c => !isBlank c) (by simp [NotBlank])

/-- The formatter of the settings, if there is one, has a name to be launched by. -/
def Launchable (settings : Settings) : Prop :=
  ∀ line, settings.formatter = some line → NotBlank line

variable {α : Type} {line : String} {settings : Settings}

theorem notBlank_iff : NotBlank line ↔ trim line.toList ≠ [] := by
  rw [Ne, trim_eq_nil_iff, trimStart, List.dropWhile_eq_nil_iff]
  simp [NotBlank]

theorem NotBlank.exists_command (notBlank : NotBlank line) :
    ∃ command, FormatterCommand.parse line = .ok command := by
  obtain ⟨c, member, visible⟩ := notBlank
  have present : words line.toList ≠ [] := words_ne_nil member visible
  unfold FormatterCommand.parse
  split
  · next nothing => exact absurd nothing present
  · exact ⟨_, rfl⟩

theorem Launchable.exists_formatter (launchable : Launchable settings)
    (launch : Launcher) : ∃ formatter, Formatter.ofSettings launch settings = .ok formatter := by
  unfold Formatter.ofSettings
  cases named : settings.formatter with
  | none => exact ⟨_, rfl⟩
  | some line =>
      obtain ⟨command, parsed⟩ := (launchable line named).exists_command
      simp only [parsed]
      exact ⟨_, rfl⟩

theorem formatterOf_string (line : String) :
    formatterOf (.string line) =
      if NotBlank line then .ok (String.ofList (trim line.toList)) else .error none := by
  by_cases blank : trim line.toList = []
  · simp [formatterOf, notBlank_iff, blank]
  · simp [formatterOf, notBlank_iff, blank]

theorem notBlank_of_formatterOf {value : Toml.Value} (read : formatterOf value = .ok line) :
    NotBlank line := by
  cases value with
  | string text =>
      rw [formatterOf_string] at read
      split at read
      · next present =>
          obtain rfl := Except.ok.inj read
          rwa [notBlank_iff, String.toList_ofList, trim_trim, ← notBlank_iff]
      · cases read
  | _ => cases read

theorem launchable_take {table : Toml.Table} {key : String}
    {read : Toml.Value → Except Unused α} {set : α → Settings → Settings} {loaded : Loaded}
    (before : Launchable loaded.settings)
    (keeps : ∀ value setting, read value = .ok setting →
      ∀ s, Launchable s → Launchable (set setting s)) :
    Launchable (loaded.take table key read set).settings := by
  unfold Loaded.take
  split
  · exact before
  · next value _ =>
      split
      · next setting accepted => exact keeps value setting accepted _ before
      · exact before

theorem launchable_default : Launchable {} := by
  intro line named
  cases named

/-- All keys but the last leave the formatter as it is. -/
theorem launchable_ofTable (table : Toml.Table) : Launchable (ofTable table).settings := by
  unfold ofTable
  refine launchable_take ?_ fun value line read s _ other named => ?_
  · iterate 6 refine launchable_take ?_ fun _ _ _ _ kept => kept
    exact launchable_default
  · obtain rfl := Option.some.inj named
    exact notBlank_of_formatterOf read

theorem launchable_load (content : Except FileError (List UInt8)) :
    Launchable (load content).settings := by
  unfold load
  split
  · exact launchable_default
  · exact launchable_default
  · exact launchable_default
  · split
    · exact launchable_default
    · split
      · exact launchable_default
      · next table _ => exact launchable_ofTable table

end ConstructorAction.Settings
