import ConstructorAction.Proofs.Settings.Loading

namespace ConstructorAction.Settings

open ConstructorAction.Layout ConstructorAction.Text ConstructorAction.Tools

/-!
What of a table counts: the known keys whose values are valid for them. The settings are those of
these entries alone, each of which sets its own part, and always name a formatter
(`ofTable_reads_usable`).
-/

def isOneOf (names : List String) : Toml.Value → Bool
  | .string name => names.contains name
  | _ => false

/-- Whether a key is known and a value is valid for it. -/
def usable (key : String) (value : Toml.Value) : Bool :=
  match key with
  | "tab_size" => match value with
    | .integer count => 0 < count
    | _ => false
  | "reformat_after_change" => match value with
    | .boolean _ => true
    | _ => false
  | "variant" => isOneOf ["standard", "legacy"] value
  | "assignment" => isOneOf ["underscore-aware", "always-this"] value
  | "insertion" => isOneOf ["first-member", "cursor"] value
  | "indent" => isOneOf ["flat", "nested"] value
  | "formatter" => match value with
    | .string line => NotBlank line
    | _ => false
  | _ => false

/-- The entries of a table whose keys have usable values in it. -/
def usableEntries (table : Toml.Table) : Toml.Table :=
  table.filter fun entry => (table.lookup entry.1).any (usable entry.1)

/-- What a key sets, if the table has it with a value that is accepted. -/
def accepted? {α : Type} (table : Toml.Table) (key : String)
    (read : Toml.Value → Except Unused α) : Option α :=
  (table.lookup key).bind fun value => (read value).toOption

/-- What a string names in a list of names; none for other values. -/
def named? {α : Type} (names : List (String × α)) : Option Toml.Value → Option α
  | some (.string name) => names.lookup name
  | _ => none

variable {α β : Type} {table other : Toml.Table} {key : String}
  {read : Toml.Value → Except Unused α} {set : α → Settings → Settings}
  {loaded otherLoaded : Loaded}

theorem Loaded.settings_take (table : Toml.Table) (key : String)
    (read : Toml.Value → Except Unused α) (set : α → Settings → Settings) (loaded : Loaded) :
    (loaded.take table key read set).settings =
      match accepted? table key read with
      | none => loaded.settings
      | some setting => set setting loaded.settings := by
  unfold Loaded.take accepted?
  cases table.lookup key with
  | none => rfl
  | some value => cases outcome : read value <;> simp [outcome, Except.toOption]

theorem Loaded.settings_take_congr (same : loaded.settings = otherLoaded.settings)
    (accepted : accepted? table key read = accepted? other key read) :
    (loaded.take table key read set).settings = (otherLoaded.take other key read set).settings := by
  rw [Loaded.settings_take, Loaded.settings_take, same, accepted]

/-- A key leaves what it does not set. -/
theorem Loaded.take_keeps (field : Settings → β)
    (keeps : ∀ setting s, field (set setting s) = field s) :
    field (loaded.take table key read set).settings = field loaded.settings := by
  rw [Loaded.settings_take]
  split
  · rfl
  · exact keeps _ _

theorem Loaded.take_sets (field : Settings → β) (part : α → β)
    (sets : ∀ setting s, field (set setting s) = part setting) :
    field (loaded.take table key read set).settings =
      ((accepted? table key read).map part).getD (field loaded.settings) := by
  rw [Loaded.settings_take]
  cases accepted? table key read with
  | none => rfl
  | some setting => exact sets setting _

/-- The values that are accepted for a key are the usable ones. -/
def AcceptsUsable (key : String) (read : Toml.Value → Except Unused α) : Prop :=
  ∀ value, usable key value = (read value).toOption.isSome

theorem acceptsUsable_tabSizeOf : AcceptsUsable "tab_size" tabSizeOf := by
  intro value
  cases value with
  | integer count =>
      by_cases positive : 0 < count <;> simp [usable, tabSizeOf, positive, Except.toOption]
  | _ => rfl

theorem acceptsUsable_reformatAfterChangeOf :
    AcceptsUsable "reformat_after_change" reformatAfterChangeOf := by
  intro value
  cases value <;> rfl

theorem acceptsUsable_formatterOf : AcceptsUsable "formatter" formatterOf := by
  intro value
  cases value with
  | string line =>
      rw [formatterOf_string]
      by_cases present : NotBlank line <;> simp [usable, present, Except.toOption]
  | _ => rfl

section Choices

variable {ofName : String → Except SettingsError α} {names : List (String × α)}

/-- A choice by name reads the names of its list. -/
def ReadsNames (ofName : String → Except SettingsError α) (names : List (String × α)) : Prop :=
  ∀ name, (ofName name).toOption = names.lookup name

theorem ReadsNames.toOption_choiceOf (reads : ReadsNames ofName names) (value : Toml.Value) :
    (choiceOf ofName value).toOption = named? names (some value) := by
  cases value with
  | string name =>
      rw [named?, ← reads name]
      cases outcome : ofName name <;> simp [choiceOf, outcome, Except.mapError, Except.toOption]
  | _ => rfl

theorem ReadsNames.accepted?_choiceOf (reads : ReadsNames ofName names) (table : Toml.Table)
    (key : String) :
    accepted? table key (choiceOf ofName) = named? names (table.lookup key) := by
  unfold accepted?
  cases table.lookup key with
  | none => rfl
  | some value => exact reads.toOption_choiceOf value

theorem isSome_named? (names : List (String × α)) (value : Toml.Value) :
    (named? names (some value)).isSome = isOneOf (names.map Prod.fst) value := by
  cases value with
  | string name =>
      rw [named?, isOneOf]
      induction names with
      | nil => rfl
      | cons entry later ih =>
          rw [List.lookup_cons, List.map_cons, List.contains_cons, ← ih]
          cases name == entry.1 <;> rfl
  | _ => rfl

theorem ReadsNames.acceptsUsable (reads : ReadsNames ofName names)
    (valid : usable key = isOneOf (names.map Prod.fst)) :
    AcceptsUsable key (choiceOf ofName) := by
  intro value
  rw [reads.toOption_choiceOf, isSome_named?, valid]

theorem readsNames_ofVariant :
    ReadsNames Strategy.ofVariant [("standard", .standard), ("legacy", .legacy)] := by
  intro name
  unfold Strategy.ofVariant
  by_cases standard : name = "standard"
  · subst standard
    rfl
  · by_cases legacy : name = "legacy"
    · subst legacy
      rfl
    · simp [List.lookup_cons, beq_false_of_ne standard, beq_false_of_ne legacy, standard, legacy,
        Except.toOption]

theorem readsNames_assignment :
    ReadsNames AssignmentRule.ofName
      [("underscore-aware", .underscoreAware), ("always-this", .alwaysThis)] := by
  intro name
  change _ = AssignmentRule.names.lookup name
  unfold AssignmentRule.ofName
  cases AssignmentRule.names.lookup name <;> rfl

theorem readsNames_insertion :
    ReadsNames InsertionRule.ofName [("first-member", .firstMember), ("cursor", .cursor)] := by
  intro name
  change _ = InsertionRule.names.lookup name
  unfold InsertionRule.ofName
  cases InsertionRule.names.lookup name <;> rfl

theorem readsNames_indent :
    ReadsNames IndentStyle.ofName [("flat", .flat), ("nested", .nested)] := by
  intro name
  change _ = IndentStyle.names.lookup name
  unfold IndentStyle.ofName
  cases IndentStyle.names.lookup name <;> rfl

end Choices

theorem lookup_filter_key {γ : Type} (p : String → Bool) (entries : List (String × γ)) :
    (entries.filter fun entry => p entry.1).lookup key =
      if p key then entries.lookup key else none := by
  induction entries with
  | nil => simp
  | cons entry later ih =>
      obtain ⟨name, value⟩ := entry
      rw [List.filter_cons, List.lookup_cons]
      by_cases same : key = name
      · subst same
        cases kept : p key <;> simp [kept, ih]
      · have differs := beq_false_of_ne same
        cases kept : p name <;> simp [List.lookup_cons, differs, ih]

theorem lookup_usableEntries (table : Toml.Table) (key : String) :
    (usableEntries table).lookup key = (table.lookup key).filter (usable key) := by
  rw [usableEntries, lookup_filter_key fun key => (table.lookup key).any (usable key)]
  cases table.lookup key with
  | none => rfl
  | some value => rw [Option.filter_some, Option.any_some]

theorem accepted?_usableEntries (accepts : AcceptsUsable key read) (table : Toml.Table) :
    accepted? (usableEntries table) key read = accepted? table key read := by
  unfold accepted?
  rw [lookup_usableEntries]
  cases table.lookup key with
  | none => rfl
  | some value =>
      rw [Option.filter_some]
      cases valid : usable key value with
      | true => rfl
      | false =>
          have rejected : (read value).toOption.isSome = false := (accepts value).symm.trans valid
          rw [Option.isSome_eq_false_iff, Option.isNone_iff_eq_none] at rejected
          exact rejected.symm

/-- A usable value brings no warning. -/
theorem warnings_take_usableEntries (accepts : AcceptsUsable key read) :
    (loaded.take (usableEntries table) key read set).warnings = loaded.warnings := by
  unfold Loaded.take
  rw [lookup_usableEntries]
  cases found : (table.lookup key).filter (usable key) with
  | none => rfl
  | some value =>
      have valid := accepts value
      rw [(Option.filter_eq_some_iff.mp found).2] at valid
      cases outcome : read value with
      | ok setting => simp [outcome]
      | error reason => simp [outcome, Except.toOption] at valid

theorem mem_knownKeys_of_usable {value : Toml.Value} (valid : usable key value = true) :
    key ∈ knownKeys := by
  unfold usable at valid
  split at valid <;> first | decide | cases valid

theorem unknownKeys_usableEntries (table : Toml.Table) :
    unknownKeys (usableEntries table) = [] := by
  unfold unknownKeys
  rw [List.map_eq_nil_iff, List.filter_eq_nil_iff]
  intro entry member
  obtain ⟨-, kept⟩ := List.mem_filter.mp member
  obtain ⟨value, -, valid⟩ := (Option.any_eq_true _ _).mp kept
  simp [mem_knownKeys_of_usable valid]

theorem settings_usableEntries (table : Toml.Table) :
    (ofTable (usableEntries table)).settings = (ofTable table).settings := by
  unfold ofTable
  refine Loaded.settings_take_congr ?_ (accepted?_usableEntries acceptsUsable_formatterOf table)
  refine Loaded.settings_take_congr ?_
    (accepted?_usableEntries (readsNames_indent.acceptsUsable rfl) table)
  refine Loaded.settings_take_congr ?_
    (accepted?_usableEntries (readsNames_insertion.acceptsUsable rfl) table)
  refine Loaded.settings_take_congr ?_
    (accepted?_usableEntries (readsNames_assignment.acceptsUsable rfl) table)
  refine Loaded.settings_take_congr ?_
    (accepted?_usableEntries (readsNames_ofVariant.acceptsUsable rfl) table)
  refine Loaded.settings_take_congr ?_
    (accepted?_usableEntries acceptsUsable_reformatAfterChangeOf table)
  exact Loaded.settings_take_congr rfl (accepted?_usableEntries acceptsUsable_tabSizeOf table)

theorem warnings_usableEntries (table : Toml.Table) :
    (ofTable (usableEntries table)).warnings = [] := by
  rw [ofTable, warnings_take_usableEntries acceptsUsable_formatterOf,
    warnings_take_usableEntries (readsNames_indent.acceptsUsable rfl),
    warnings_take_usableEntries (readsNames_insertion.acceptsUsable rfl),
    warnings_take_usableEntries (readsNames_assignment.acceptsUsable rfl),
    warnings_take_usableEntries (readsNames_ofVariant.acceptsUsable rfl),
    warnings_take_usableEntries acceptsUsable_reformatAfterChangeOf,
    warnings_take_usableEntries acceptsUsable_tabSizeOf, unknownKeys_usableEntries]

theorem tabSize_ofTable (table : Toml.Table) :
    (ofTable table).settings.tabSize = match table.lookup "tab_size" with
      | some (.integer count) => if 0 < count then count.toNat else 4
      | _ => 4 := by
  have read : (ofTable table).settings.tabSize = (accepted? table "tab_size" tabSizeOf).getD 4 := by
    simp [ofTable, Loaded.take_keeps Settings.tabSize, Loaded.take_sets Settings.tabSize id]
  rw [read, accepted?]
  cases table.lookup "tab_size" with
  | none => rfl
  | some value =>
      cases value with
      | integer count =>
          by_cases positive : 0 < count <;> simp [tabSizeOf, positive, Except.toOption]
      | _ => rfl

theorem tabSize_ofTable_pos (table : Toml.Table) : 0 < (ofTable table).settings.tabSize := by
  rw [tabSize_ofTable]
  split
  · next count _ => by_cases positive : 0 < count <;> simp [positive]
  · decide

theorem reformatAfterChange_ofTable (table : Toml.Table) :
    (ofTable table).settings.reformatAfterChange =
      match table.lookup "reformat_after_change" with
      | some (.boolean choice) => choice
      | _ => true := by
  have read : (ofTable table).settings.reformatAfterChange =
      (accepted? table "reformat_after_change" reformatAfterChangeOf).getD true := by
    simp [ofTable, Loaded.take_keeps Settings.reformatAfterChange,
      Loaded.take_sets Settings.reformatAfterChange id]
  rw [read, accepted?]
  cases table.lookup "reformat_after_change" with
  | none => rfl
  | some value => cases value <;> rfl

theorem formatter_ofTable (table : Toml.Table) :
    (ofTable table).settings.formatter = accepted? table "formatter" formatterOf := by
  rw [ofTable, Loaded.settings_take]
  cases accepted? table "formatter" formatterOf with
  | none => simp [Loaded.take_keeps Settings.formatter]
  | some line => rfl

/-- The preset that a table names, or else the standard one. -/
def presetOf (table : Toml.Table) : Strategy :=
  (named? [("standard", .standard), ("legacy", .legacy)] (table.lookup "variant")).getD .standard

theorem assignment_ofTable (table : Toml.Table) :
    (ofTable table).settings.strategy.assignment =
      (named? [("underscore-aware", .underscoreAware), ("always-this", .alwaysThis)]
        (table.lookup "assignment")).getD (presetOf table).assignment := by
  simp [ofTable, Loaded.take_keeps fun s => s.strategy.assignment,
    Loaded.take_sets (fun s => s.strategy.assignment) id,
    Loaded.take_sets (fun s => s.strategy.assignment) Strategy.assignment,
    readsNames_assignment.accepted?_choiceOf, readsNames_ofVariant.accepted?_choiceOf, presetOf]

theorem insertion_ofTable (table : Toml.Table) :
    (ofTable table).settings.strategy.insertion =
      (named? [("first-member", .firstMember), ("cursor", .cursor)]
        (table.lookup "insertion")).getD (presetOf table).insertion := by
  simp [ofTable, Loaded.take_keeps fun s => s.strategy.insertion,
    Loaded.take_sets (fun s => s.strategy.insertion) id,
    Loaded.take_sets (fun s => s.strategy.insertion) Strategy.insertion,
    readsNames_insertion.accepted?_choiceOf, readsNames_ofVariant.accepted?_choiceOf, presetOf]

theorem indent_ofTable (table : Toml.Table) :
    (ofTable table).settings.strategy.indent =
      (named? [("flat", .flat), ("nested", .nested)]
        (table.lookup "indent")).getD (presetOf table).indent := by
  simp [ofTable, Loaded.take_keeps fun s => s.strategy.indent,
    Loaded.take_sets (fun s => s.strategy.indent) id,
    Loaded.take_sets (fun s => s.strategy.indent) Strategy.indent,
    readsNames_indent.accepted?_choiceOf, readsNames_ofVariant.accepted?_choiceOf, presetOf]

/-- The command of a line: its first word, and the words behind it. -/
def commandOf (line : String) : FormatterCommand :=
  let (program, rest) := firstWord (trimStart line.toList)
  ⟨String.ofList program, (words rest).map String.ofList⟩

theorem parse_trim {line : String} (present : NotBlank line) :
    FormatterCommand.parse (String.ofList (trim line.toList)) = .ok (commandOf line) := by
  have start : trimStart line.toList ≠ [] := mt trim_eq_nil_iff.mpr (notBlank_iff.mp present)
  rw [FormatterCommand.parse, String.toList_ofList, words_trim, words_eq_cons start]
  rfl

theorem ofSettings_of_kept {launch : Launcher} {line : String}
    (found : table.lookup "formatter" = some (.string line)) (present : NotBlank line) :
    Formatter.ofSettings launch (ofTable table).settings =
      .ok (.external launch (commandOf line)) := by
  have kept : (ofTable table).settings.formatter = some (String.ofList (trim line.toList)) := by
    rw [formatter_ofTable, accepted?, found, Option.bind_some, formatterOf_string, if_pos present]
    rfl
  simp [Formatter.ofSettings, kept, parse_trim present, Except.map]

theorem ofSettings_of_missing {launch : Launcher}
    (missing : ∀ line, table.lookup "formatter" = some (.string line) → ¬ NotBlank line) :
    Formatter.ofSettings launch (ofTable table).settings =
      .ok (.basic (ofTable table).settings.tabSize) := by
  have dropped : (ofTable table).settings.formatter = none := by
    rw [formatter_ofTable, accepted?]
    cases found : table.lookup "formatter" with
    | none => rfl
    | some value =>
        cases value with
        | string line =>
            rw [Option.bind_some, formatterOf_string, if_neg (missing line found)]
            rfl
        | _ => rfl
  simp [Formatter.ofSettings, dropped]

/-- Whatever a table holds, its settings are those of its usable entries, which bring no warning.
The strategy is a preset with the rules that are named on their own, and there always is a
formatter: the program that the first word of the command line names, or else the basic one. -/
theorem ofTable_reads_usable (launch : Launcher) (table : Toml.Table) :
    let settings := (ofTable table).settings
    (settings = (ofTable (usableEntries table)).settings ∧
        (ofTable (usableEntries table)).warnings = []) ∧
      settings.strategy =
        { assignment :=
            (named? [("underscore-aware", .underscoreAware), ("always-this", .alwaysThis)]
              (table.lookup "assignment")).getD (presetOf table).assignment
          insertion :=
            (named? [("first-member", .firstMember), ("cursor", .cursor)]
              (table.lookup "insertion")).getD (presetOf table).insertion
          indent :=
            (named? [("flat", .flat), ("nested", .nested)]
              (table.lookup "indent")).getD (presetOf table).indent } ∧
      (settings.tabSize = match table.lookup "tab_size" with
        | some (.integer count) => if 0 < count then count.toNat else 4
        | _ => 4) ∧
      0 < settings.tabSize ∧
      (settings.reformatAfterChange = match table.lookup "reformat_after_change" with
        | some (.boolean choice) => choice
        | _ => true) ∧
      ∃ formatter, Formatter.ofSettings launch settings = .ok formatter ∧
        (∀ line, table.lookup "formatter" = some (.string line) → NotBlank line →
          formatter = .external launch (commandOf line)) ∧
        ((∀ line, table.lookup "formatter" = some (.string line) → ¬ NotBlank line) →
          formatter = .basic settings.tabSize) := by
  intro settings
  refine ⟨⟨(settings_usableEntries table).symm, warnings_usableEntries table⟩, ?_,
    tabSize_ofTable table, tabSize_ofTable_pos table, reformatAfterChange_ofTable table, ?_⟩
  · rw [← assignment_ofTable, ← insertion_ofTable, ← indent_ofTable]
  · by_cases kept : ∃ line, table.lookup "formatter" = some (.string line) ∧ NotBlank line
    · obtain ⟨line, found, present⟩ := kept
      refine ⟨_, ofSettings_of_kept found present, fun other foundToo _ => ?_, fun missing => ?_⟩
      · obtain rfl : line = other := by simpa using found.symm.trans foundToo
        rfl
      · exact absurd present (missing line found)
    · have missing : ∀ line, table.lookup "formatter" = some (.string line) → ¬ NotBlank line :=
        fun line found present => kept ⟨line, found, present⟩
      exact ⟨_, ofSettings_of_missing missing, fun line found present =>
        absurd present (missing line found), fun _ => rfl⟩

/-- Blanks of other kinds around a command line, a preset with one rule of its own, and values that
are not valid. -/
theorem ofTable_reads_usable_of_mixed :
    let launch : Launcher := fun _ _ input => .ok ⟨.code 0, input, [], {}⟩
    let line := " \u3000cat\u00A0 -s\t"
    let table : Toml.Table := [("assignment", .boolean true), ("formatter", .string line),
      ("indent", .string "flat"), ("tab_size", .integer (-2)), ("variant", .string "legacy")]
    let settings := (ofTable table).settings
    (table.lookup "formatter" = some (.string line) ∧ NotBlank line) ∧
      Formatter.ofSettings launch settings = .ok (.external launch ⟨"cat", ["-s"]⟩) ∧
        settings.strategy = ⟨.alwaysThis, .firstMember, .flat⟩ ∧ settings.tabSize = 4 := by
  intro launch line table settings
  have found : table.lookup "formatter" = some (.string line) := rfl
  have present : NotBlank line := by decide +kernel
  have command : commandOf line = ⟨"cat", ["-s"]⟩ := by decide +kernel
  obtain ⟨-, strategy, tabSize, -, -, formatter, made, external, -⟩ :=
    ofTable_reads_usable launch table
  refine ⟨⟨found, present⟩, ?_, strategy.trans rfl, tabSize⟩
  rw [made, external line found present, command]

end ConstructorAction.Settings
