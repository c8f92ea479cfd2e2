import ConstructorAction.Proofs.Text.EditDistance
import ConstructorAction.Proofs.Text.Utf8
import ConstructorAction.Settings.Loading

namespace ConstructorAction.Settings

open ConstructorAction.Text

/-!
The known key that is suggested for an unknown one: the first of those with the fewest changes of
bytes in between, if three changes are enough (`unknownKey_suggests_nearest`).
-/

variable {key known : String}

theorem keyDistance_eq_levenshtein (key known : String) :
    keyDistance key known = levenshtein key.toUTF8.data.toList known.toUTF8.data.toList := by
  rw [keyDistance, editDistance_eq_levenshtein, toUtf8_toList, toUtf8_toList]

theorem keyDistance_comm (key known : String) : keyDistance key known = keyDistance known key := by
  rw [keyDistance_eq_levenshtein, levenshtein_comm, ← keyDistance_eq_levenshtein]

theorem keyDistance_eq_zero_iff : keyDistance key known = 0 ↔ key = known := by
  rw [keyDistance, editDistance_eq_levenshtein, levenshtein_eq_zero_iff]
  exact ⟨fun same => String.toList_injective (toUtf8_injective same), fun same => by rw [same]⟩

theorem keyDistance_triangle (key middle known : String) :
    keyDistance key known ≤ keyDistance key middle + keyDistance middle known := by
  simp only [keyDistance_eq_levenshtein]
  exact levenshtein_triangle _ _ _

/-- The first of the keys that have the least distance. -/
def FirstNearest (distance : String → Nat) (keys : List String) (key : String) : Prop :=
  ∃ before after, keys = before ++ key :: after ∧
    (∀ other ∈ before, distance key < distance other) ∧
      ∀ other ∈ after, distance key ≤ distance other

namespace FirstNearest

variable {distance : String → Nat} {keys : List String} {other : String}

theorem mem (nearest : FirstNearest distance keys key) : key ∈ keys := by
  obtain ⟨before, after, rfl, -, -⟩ := nearest
  simp

theorem le (nearest : FirstNearest distance keys key) (member : other ∈ keys) :
    distance key ≤ distance other := by
  obtain ⟨before, after, rfl, nearer, near⟩ := nearest
  rcases List.mem_append.mp member with inBefore | inRest
  · exact Nat.le_of_lt (nearer other inBefore)
  · rcases List.mem_cons.mp inRest with rfl | inAfter
    · exact Nat.le_refl _
    · exact near other inAfter

theorem cons_of_lt (nearest : FirstNearest distance keys key)
    (less : distance key < distance other) :
    FirstNearest distance (other :: keys) key := by
  obtain ⟨before, after, rfl, nearer, near⟩ := nearest
  exact ⟨other :: before, after, rfl, List.forall_mem_cons.mpr ⟨less, nearer⟩, near⟩

/-- The first key is the nearest one if it is as near as the nearest of the others. -/
theorem head (nearest : FirstNearest distance keys key) (least : distance other ≤ distance key) :
    FirstNearest distance (other :: keys) other :=
  ⟨[], keys, rfl, by simp, fun _ member => Nat.le_trans least (nearest.le member)⟩

theorem unique (nearest : FirstNearest distance keys key)
    (nearestToo : FirstNearest distance keys other) : key = other := by
  have least := nearest.le nearestToo.mem
  have leastToo := nearestToo.le nearest.mem
  obtain ⟨before, after, rfl, nearer, -⟩ := nearest
  obtain ⟨beforeToo, afterToo, same, nearerToo, -⟩ := nearestToo
  -- a key that stands in front of the other one would have to be farther away
  rcases List.append_eq_append_iff.mp same with ⟨between, front, rest⟩ | ⟨between, front, rest⟩
  · cases between with
    | nil => exact (List.cons.inj rest).1
    | cons first between =>
        obtain rfl := (List.cons.inj rest).1
        have farther := nearerToo key (by simp [front])
        omega
  · cases between with
    | nil => exact (List.cons.inj rest).1.symm
    | cons first between =>
        obtain rfl := (List.cons.inj rest).1
        have farther := nearer other (by simp [front])
        omega

end FirstNearest

theorem nearestKey_exists (distance : String → Nat) {keys : List String} (present : keys ≠ []) :
    ∃ key, nearestKey distance keys = some key ∧ FirstNearest distance keys key := by
  induction keys with
  | nil => exact absurd rfl present
  | cons key later ih =>
      by_cases last : later = []
      · subst last
        exact ⟨key, rfl, [], [], rfl, by simp, by simp⟩
      · obtain ⟨other, found, nearest⟩ := ih last
        simp only [nearestKey, found]
        by_cases less : distance other < distance key
        · rw [if_pos less]
          exact ⟨other, rfl, nearest.cons_of_lt less⟩
        · rw [if_neg less]
          exact ⟨key, rfl, nearest.head (Nat.le_of_not_lt less)⟩

theorem suggestion?_eq_some_iff :
    suggestion? key = some known ↔
      FirstNearest (keyDistance key) knownKeys known ∧ keyDistance key known ≤ 3 := by
  obtain ⟨nearest, found, first⟩ :=
    nearestKey_exists (keyDistance key) (show knownKeys ≠ [] by decide)
  rw [suggestion?, found, Option.filter_eq_some_iff, Option.some.injEq, decide_eq_true_eq]
  refine and_congr_left fun _ => ⟨?_, first.unique⟩
  rintro rfl
  exact first

theorem suggestion?_eq_none_iff :
    suggestion? key = none ↔ ∀ known ∈ knownKeys, 3 < keyDistance key known := by
  obtain ⟨nearest, found, first⟩ :=
    nearestKey_exists (keyDistance key) (show knownKeys ≠ [] by decide)
  have least : suggestion? key = none ↔ 3 < keyDistance key nearest := by
    simp [suggestion?, found]
  rw [least]
  exact ⟨fun far known member => Nat.lt_of_lt_of_le far (first.le member),
    fun far => far nearest first.mem⟩

variable {table : Toml.Table} {suggestion : Option String}

theorem unknownKey_mem_unknownKeys_iff :
    .unknownKey key suggestion ∈ unknownKeys table ↔
      (key ∈ table.map Prod.fst ∧ key ∉ knownKeys) ∧ suggestion = suggestion? key := by
  simp only [unknownKeys, List.mem_map, List.mem_filter, Warning.unknownKey.injEq,
    Bool.not_eq_true', List.contains_eq_mem, decide_eq_false_iff_not]
  constructor
  · rintro ⟨entry, ⟨member, unknown⟩, rfl, rfl⟩
    exact ⟨⟨⟨entry, member, rfl⟩, unknown⟩, rfl⟩
  · rintro ⟨⟨⟨entry, member, rfl⟩, unknown⟩, rfl⟩
    exact ⟨entry, ⟨member, unknown⟩, rfl, rfl⟩

/-- Reading a value only warns of the value. -/
def WarnsOfValues {α : Type} (read : Toml.Value → Except Unused α) : Prop :=
  ∀ value key suggestion, read value ≠ .error (some (.unknownKey key suggestion))

theorem unknownKey_mem_take_iff {α : Type} {read : Toml.Value → Except Unused α}
    (warns : WarnsOfValues read) {name : String} {set : α → Settings → Settings} {loaded : Loaded} :
    .unknownKey key suggestion ∈ (loaded.take table name read set).warnings ↔
      .unknownKey key suggestion ∈ loaded.warnings := by
  unfold Loaded.take
  split
  · rfl
  · next value _ =>
      split
      · rfl
      · next warning rejected =>
          have other : warning ≠ some (.unknownKey key suggestion) :=
            fun same => warns value key suggestion (same ▸ rejected)
          cases warning <;> simp_all [eq_comm]

theorem warnsOfValues_choiceOf {α : Type} (ofName : String → Except SettingsError α) :
    WarnsOfValues (choiceOf ofName) := by
  intro value key suggestion rejected
  unfold choiceOf at rejected
  split at rejected
  · next name =>
      cases named : ofName name <;> simp [named, Except.mapError] at rejected
  · cases rejected

theorem warnsOfValues_tabSizeOf : WarnsOfValues tabSizeOf := by
  intro value key suggestion rejected
  unfold tabSizeOf at rejected
  split at rejected
  · split at rejected <;> simp at rejected
  · simp at rejected

theorem warnsOfValues_reformatAfterChangeOf : WarnsOfValues reformatAfterChangeOf := by
  intro value key suggestion rejected
  unfold reformatAfterChangeOf at rejected
  split at rejected <;> simp at rejected

theorem warnsOfValues_formatterOf : WarnsOfValues formatterOf := by
  intro value key suggestion rejected
  unfold formatterOf at rejected
  split at rejected
  · dsimp only at rejected
    split at rejected <;> simp at rejected
  · simp at rejected

/-- No other key brings in a warning of an unknown one. -/
theorem unknownKey_mem_warnings_iff :
    .unknownKey key suggestion ∈ (ofTable table).warnings ↔
      (key ∈ table.map Prod.fst ∧ key ∉ knownKeys) ∧ suggestion = suggestion? key := by
  rw [← unknownKey_mem_unknownKeys_iff, ofTable, unknownKey_mem_take_iff warnsOfValues_formatterOf,
    unknownKey_mem_take_iff (warnsOfValues_choiceOf _),
    unknownKey_mem_take_iff (warnsOfValues_choiceOf _),
    unknownKey_mem_take_iff (warnsOfValues_choiceOf _),
    unknownKey_mem_take_iff (warnsOfValues_choiceOf _),
    unknownKey_mem_take_iff warnsOfValues_reformatAfterChangeOf,
    unknownKey_mem_take_iff warnsOfValues_tabSizeOf]

/-- Keys are as far apart as the recursion on their bytes says, two rows in turn compute this, and
an unknown key of a table is warned of with the first of the nearest known keys, or with none if all
are more than three changes away. -/
theorem unknownKey_suggests_nearest :
    (∀ key known : String,
      keyDistance key known = levenshtein key.toUTF8.data.toList known.toUTF8.data.toList ∧
        twoRowDistance? key.toUTF8.data.toList known.toUTF8.data.toList =
          some (keyDistance key known) ∧
        keyDistance key known = keyDistance known key ∧
        (keyDistance key known = 0 ↔ key = known)) ∧
      (∀ key middle known : String,
        keyDistance key known ≤ keyDistance key middle + keyDistance middle known) ∧
      ∀ (table : Toml.Table) (key : String), key ∈ table.map Prod.fst → key ∉ knownKeys →
        let warnings := (ofTable table).warnings
        ((∃ known, .unknownKey key (some known) ∈ warnings) ↔
          ∃ known ∈ knownKeys, keyDistance key known ≤ 3) ∧
          (∀ known, .unknownKey key (some known) ∈ warnings ↔
            FirstNearest (keyDistance key) knownKeys known ∧ keyDistance key known ≤ 3) ∧
          (.unknownKey key none ∈ warnings ↔ ∀ known ∈ knownKeys, 3 < keyDistance key known) := by
  refine ⟨fun key known => ⟨keyDistance_eq_levenshtein key known, ?_, keyDistance_comm key known,
    keyDistance_eq_zero_iff⟩, keyDistance_triangle, fun table key member unknown => ?_⟩
  · rw [twoRowDistance?_eq, ← toUtf8_toList, ← toUtf8_toList]
    rfl
  · intro warnings
    have warned (suggestion : Option String) :
        .unknownKey key suggestion ∈ warnings ↔ suggestion = suggestion? key :=
      unknownKey_mem_warnings_iff.trans (and_iff_right ⟨member, unknown⟩)
    simp only [warned, eq_comm (b := suggestion? key)]
    refine ⟨?_, fun known => suggestion?_eq_some_iff, suggestion?_eq_none_iff⟩
    rw [← Option.ne_none_iff_exists', Ne, suggestion?_eq_none_iff]
    simp

/-- Of two keys that are three changes away each the first one known is suggested. -/
theorem unknownKey_suggests_nearest_of_two :
    let table : Toml.Table := [("vainent", .boolean true)]
    ("vainent" ∈ table.map Prod.fst ∧ "vainent" ∉ knownKeys) ∧
      (keyDistance "vainent" "variant" = 3 ∧ keyDistance "vainent" "indent" = 3) ∧
        .unknownKey "vainent" (some "variant") ∈ (ofTable table).warnings := by
  intro table
  have member : "vainent" ∈ table.map Prod.fst := List.mem_singleton.mpr rfl
  have unknown : "vainent" ∉ knownKeys := by decide
  have first : FirstNearest (keyDistance "vainent") knownKeys "variant" :=
    ⟨["tab_size", "reformat_after_change"], ["assignment", "insertion", "indent", "formatter"], rfl,
      by decide +kernel, by decide +kernel⟩
  have apart : keyDistance "vainent" "variant" = 3 ∧ keyDistance "vainent" "indent" = 3 := by
    decide +kernel
  obtain ⟨-, suggests, -⟩ := unknownKey_suggests_nearest.2.2 table "vainent" member unknown
  exact ⟨⟨member, unknown⟩, apart, (suggests "variant").mpr ⟨first, Nat.le_of_eq apart.1⟩⟩

end ConstructorAction.Settings
