import TriviaStore.Settings.Basic
import Mathlib.Data.List.Nodup
import Mathlib.Logic.Function.Basic

/-! # Which source counts

A setting has the value of the environment's variable, or else of the file's entry, or else its
default. Whether production has its database depends on what is given for it and not on its value, so
a database that is given as the default one will do. Nothing else can go wrong where both sources give
known names only, each once, and values that can be read.
-/

namespace TriviaStore

/-! ## Values -/

inductive Setting.Value
  | text (text : String)
  | number (number : Int)
  | truth (truth : Bool)
  deriving DecidableEq, Repr

/-- What a text means as the value of a setting. -/
def Setting.read? (s : Setting) (text : String) : Option Value :=
  match s with
  | .environment | .projectName | .host | .databaseUrl | .migrationsPath | .logLevel =>
    some (.text text)
  | .port | .poolSize | .maxOverflow | .poolRecycle => (Settings.integer? text).map .number
  | .echo => (Settings.truth? text).map .truth

theorem Setting.mem_all (s : Setting) : s ∈ all := by cases s <;> decide

/-- No two settings have names that differ only in case. -/
theorem Setting.key_injective : Function.Injective key := fun s t h =>
  List.inj_on_of_nodup_map (by decide +kernel : (all.map key).Nodup) s.mem_all t.mem_all h

theorem Setting.lower_eq_key_iff {name : String} {t : Setting} (h : Text.lower name = t.key) (s : Setting) :
    Text.lower name = s.key ↔ t = s := by rw [h, key_injective.eq_iff]

namespace Settings

def value (settings : Settings) : Setting → Setting.Value
  | .environment => .text settings.environment
  | .projectName => .text settings.projectName
  | .host => .text settings.host
  | .port => .number settings.port
  | .databaseUrl => .text settings.databaseUrl
  | .poolSize => .number settings.poolSize
  | .maxOverflow => .number settings.maxOverflow
  | .poolRecycle => .number settings.poolRecycle
  | .echo => .truth settings.echo
  | .migrationsPath => .text settings.migrationsPath
  | .logLevel => .text settings.logLevel

/-- A text that can be read is written into its own setting and no other. -/
theorem exists_assign {s : Setting} {text : String} {v : Setting.Value} (h : s.read? text = some v)
    (settings : Settings) : ∃ settings' : Settings, settings.assign s text = .ok settings' ∧
      settings'.value = Function.update settings.value s v := by
  cases s <;> simp only [Setting.read?, Option.map_eq_some_iff, Option.some.injEq] at h
  case environment | projectName | host | databaseUrl | migrationsPath | logLevel =>
    refine ⟨_, rfl, ?_⟩
    funext t
    cases t <;> simp [value, ← h]
  case port | poolSize | maxOverflow | poolRecycle =>
    obtain ⟨n, hn, rfl⟩ := h
    refine ⟨_, by simp only [assign, hn]; rfl, ?_⟩
    funext t
    cases t <;> simp [value]
  case echo =>
    obtain ⟨b, hb, rfl⟩ := h
    refine ⟨_, by simp only [assign, hb]; rfl, ?_⟩
    funext t
    cases t <;> simp [value]

theorem exists_assignAll {given : List (Setting × String)} (hnodup : (given.map Prod.fst).Nodup)
    (hread : ∀ p ∈ given, (p.1.read? p.2).isSome) (settings : Settings) :
    ∃ settings' : Settings, assignAll given settings = (settings', []) ∧
      (∀ p ∈ given, p.1.read? p.2 = some (settings'.value p.1)) ∧
      ∀ s ∉ given.map Prod.fst, settings'.value s = settings.value s := by
  induction given generalizing settings with
  | nil => exact ⟨settings, rfl, by simp, fun _ _ => rfl⟩
  | cons p given ih =>
    obtain ⟨hp, hnodup⟩ := List.nodup_cons.mp hnodup
    obtain ⟨v, hv⟩ := Option.isSome_iff_exists.mp (hread p List.mem_cons_self)
    obtain ⟨first, hfirst, hvalue⟩ := exists_assign hv settings
    obtain ⟨last, hlast, hgiven, hrest⟩ := ih hnodup (fun q hq => hread q (List.mem_cons_of_mem p hq)) first
    refine ⟨last, by simp only [assignAll, hfirst, hlast], fun q hq => ?_, fun s hs => ?_⟩
    · obtain rfl | hq := List.mem_cons.mp hq
      · rw [hv, hrest _ hp, hvalue, Function.update_self]
      · exact hgiven q hq
    · obtain ⟨hne, hs⟩ := not_or.mp (mt List.mem_cons.mpr hs)
      rw [hrest s hs, hvalue, Function.update_of_ne hne]

/-! ## Sources -/

/-- The entries of an environment file, with their references replaced. -/
def entries (environment : Assoc String) (file : Option String) : Assoc (Option String) :=
  file.elim [] fun f => EnvFile.resolve environment (EnvFile.parse f)

/-- A value stands under a setting's name, in whatever case. -/
def Named {α : Type} (source : Assoc α) (s : Setting) (v : α) : Prop :=
  ∃ n, (n, v) ∈ source ∧ Text.lower n = s.key

theorem not_named_nil {α : Type} {s : Setting} {v : α} : ¬ Named [] s v := by simp [Named]

theorem named_cons {α : Type} {n : String} {v : α} {source : Assoc α} {s : Setting} {w : α} :
    Named ((n, v) :: source) s w ↔ Text.lower n = s.key ∧ v = w ∨ Named source s w := by
  simp only [Named, List.mem_cons, Prod.mk.injEq]
  constructor
  · rintro ⟨m, ⟨rfl, rfl⟩ | hm, hs⟩
    · exact .inl ⟨hs, rfl⟩
    · exact .inr ⟨m, hm, hs⟩
  · rintro (⟨hs, rfl⟩ | ⟨m, hm, hs⟩)
    · exact ⟨n, .inl ⟨rfl, rfl⟩, hs⟩
    · exact ⟨m, .inr hm, hs⟩

variable (environment : Assoc String) (file : Option String)

/-- One of the sources gives a text for the setting. -/
def Given (s : Setting) : Prop :=
  ∃ text, Named environment s text ∨ Named (entries environment file) s (some text)

/-- The value that counts for a setting. -/
inductive Effective (s : Setting) : Setting.Value → Prop
  | ofVariable {text : String} {v : Setting.Value} (h : Named environment s text)
      (hread : s.read? text = some v) : Effective s v
  | ofEntry {text : String} {v : Setting.Value} (hnone : ∀ t, ¬ Named environment s t)
      (h : Named (entries environment file) s (some text)) (hread : s.read? text = some v) :
      Effective s v
  | ofDefault (hnone : ¬ Given environment file s) : Effective s (value {} s)

/-- The sources give known names only, each once in whatever case, and texts that can be read. The
environment may have any other variables as well. -/
structure WellGiven : Prop where
  variable_once : ∀ {s : Setting} {t u : String},
    Named environment s t → Named environment s u → t = u
  entry_once : ∀ {s : Setting} {t u : Option String},
    Named (entries environment file) s t → Named (entries environment file) s u → t = u
  entry_known : ∀ {n text : String}, (n, some text) ∈ entries environment file →
    ∃ s : Setting, Text.lower n = s.key
  readable : ∀ {s : Setting} {text : String},
    Named environment s text ∨ Named (entries environment file) s (some text) →
      (s.read? text).isSome

theorem get?_lower {α : Type} {source : Assoc α} {s : Setting}
    (honce : ∀ {u v}, Named source s u → Named source s v → u = v) {v : α} :
    (Assoc.ofPairs (source.map fun (n, v) => (Text.lower n, v))).get? s.key = some v ↔
      Named source s v := by
  have hmem : ∀ v, (s.key, v) ∈ source.map (fun (n, v) => (Text.lower n, v)) ↔ Named source s v := by
    intro v
    simp only [List.mem_map, Prod.mk.injEq, Named]
    constructor
    · rintro ⟨⟨n, w⟩, hp, hn, rfl⟩
      exact ⟨n, hp, hn⟩
    · rintro ⟨n, hp, hn⟩
      exact ⟨(n, v), hp, hn, rfl⟩
  rw [Assoc.get?_ofPairs_eq_some fun u w hu hw => honce ((hmem u).mp hu) ((hmem w).mp hw), hmem]

theorem fileSource_eq : fileSource environment file =
    .ofPairs ((entries environment file).map fun (n, v) => (Text.lower n, v)) := by
  cases file <;> rfl

theorem mem_givenTexts {environment : Assoc String} {file : Assoc (Option String)} {s : Setting}
    {text : String} : (s, text) ∈ givenTexts environment file ↔ textOf environment file s = some text := by
  simp [givenTexts, Setting.mem_all]

theorem map_fst_givenTexts (environment : Assoc String) (file : Assoc (Option String)) :
    (givenTexts environment file).map Prod.fst =
      Setting.all.filter fun s => (textOf environment file s).isSome := by
  rw [givenTexts, List.map_filterMap, ← List.filterMap_eq_filter]
  congr
  funext s
  cases h : textOf environment file s <;> simp [Option.guard, h]

variable {environment file}

namespace WellGiven

variable (h : WellGiven environment file)
include h

theorem textOf_eq_some {s : Setting} {text : String} :
    textOf (environmentSource environment) (fileSource environment file) s = some text ↔
      Named environment s text ∨
        (∀ t, ¬ Named environment s t) ∧ Named (entries environment file) s (some text) := by
  have hvariable : ∀ t, (environmentSource environment).get? s.key = some t ↔ Named environment s t :=
    fun t => get?_lower h.variable_once
  have hentry : ∀ t, (fileSource environment file).get? s.key = some t ↔
      Named (entries environment file) s t := fun t => by
    rw [fileSource_eq, get?_lower h.entry_once]
  rw [textOf]
  cases hget : (environmentSource environment).get? s.key with
  | some t =>
    have ht := (hvariable t).mp hget
    have hother : ¬ ∀ t, ¬ Named environment s t := fun hnone => hnone t ht
    simp only [Option.orElse_some, Option.some.injEq, hother, false_and, or_false]
    exact ⟨fun heq => heq ▸ ht, h.variable_once ht⟩
  | none =>
    have hnone : ∀ t, ¬ Named environment s t := fun t ht => by simp [(hvariable t).mpr ht] at hget
    simp [hnone, Option.join_eq_some_iff, hentry]

theorem exists_textOf {s : Setting} :
    (∃ text, textOf (environmentSource environment) (fileSource environment file) s = some text) ↔
      Given environment file s := by
  simp only [h.textOf_eq_some]
  constructor
  · rintro ⟨t, ht | ⟨-, ht⟩⟩
    · exact ⟨t, .inl ht⟩
    · exact ⟨t, .inr ht⟩
  · rintro ⟨t, ht⟩
    by_cases hvariable : ∃ u, Named environment s u
    · obtain ⟨u, hu⟩ := hvariable
      exact ⟨u, .inl hu⟩
    · have hnone := not_exists.mp hvariable
      exact ⟨t, .inr ⟨hnone, ht.resolve_left (hnone t)⟩⟩

theorem unknownNames_eq_nil : unknownNames (fileSource environment file) = [] := by
  rw [unknownNames, List.map_eq_nil_iff, List.filter_eq_nil_iff]
  rintro ⟨name, v⟩ hp
  rw [fileSource_eq] at hp
  obtain ⟨⟨n, w⟩, hn, ⟨⟩⟩ := List.mem_map.mp
    ((Assoc.mem_of_mem_foldl_put hp).resolve_right List.not_mem_nil)
  cases v with
  | none => simp
  | some text =>
    obtain ⟨s, hs⟩ := h.entry_known hn
    have hknown : Text.lower n ∈ Setting.all.map Setting.key := hs ▸ List.mem_map_of_mem s.mem_all
    simp [hknown]

/-- What is loaded, unless production lacks its database: the values that count. -/
theorem exists_load : ∃ settings : Settings,
    (∀ s, Effective environment file s (settings.value s)) ∧
    ∃ given : List Setting, (∀ s, s ∈ given ↔ Given environment file s) ∧
      load environment file =
        if settings.environment = "production" ∧ .databaseUrl ∉ given then .error [.databaseUnset]
        else .ok ⟨settings, given⟩ := by
  have hnodup := (map_fst_givenTexts (environmentSource environment) (fileSource environment file)) ▸
    (by decide : Setting.all.Nodup).filter _
  have hreadable : ∀ p ∈ givenTexts (environmentSource environment) (fileSource environment file),
      (p.1.read? p.2).isSome := fun p hp =>
    h.readable ((h.textOf_eq_some.mp (mem_givenTexts.mp hp)).imp_right And.right)
  obtain ⟨settings, hassign, hread, hrest⟩ := exists_assignAll hnodup hreadable {}
  have hgiven : ∀ s, s ∈ (givenTexts (environmentSource environment) (fileSource environment file)).map
      Prod.fst ↔ Given environment file s := fun s => by
    rw [map_fst_givenTexts, List.mem_filter, ← h.exists_textOf, Option.isSome_iff_exists]
    exact and_iff_right s.mem_all
  refine ⟨settings, fun s => ?_, _, hgiven, ?_⟩
  case refine_2 =>
    simp only [load, hassign, h.unknownNames_eq_nil]
    rfl
  by_cases hs : Given environment file s
  · obtain ⟨text, htext⟩ := h.exists_textOf.mpr hs
    have hvalue := hread _ (mem_givenTexts.mpr htext)
    obtain ht | ⟨hnone, ht⟩ := h.textOf_eq_some.mp htext
    · exact .ofVariable ht hvalue
    · exact .ofEntry hnone ht hvalue
  · rw [hrest s (mt (hgiven s).mp hs)]
    exact .ofDefault hs

theorem effective_unique {s : Setting} {v w : Setting.Value}
    (hv : Effective environment file s v) (hw : Effective environment file s w) : v = w := by
  cases hv with
  | ofVariable ht hread =>
    cases hw with
    | ofVariable hu hread' => exact Option.some.inj (hread.symm.trans (h.variable_once ht hu ▸ hread'))
    | ofEntry hnone => exact absurd ht (hnone _)
    | ofDefault hnone => exact absurd ⟨_, .inl ht⟩ hnone
  | ofEntry hnone ht hread =>
    cases hw with
    | ofVariable hu => exact absurd hu (hnone _)
    | ofEntry _ hu hread' =>
      cases h.entry_once ht hu
      exact Option.some.inj (hread.symm.trans hread')
    | ofDefault hnone => exact absurd ⟨_, .inr ht⟩ hnone
  | ofDefault hnone =>
    cases hw with
    | ofVariable hu => exact absurd ⟨_, .inl hu⟩ hnone
    | ofEntry _ hu => exact absurd ⟨_, .inr hu⟩ hnone
    | ofDefault => rfl

end WellGiven

/-- Loading fails exactly when production is not given its database. Otherwise every setting has the
value that counts for it, and those are marked as given that a source gives a text for. -/
theorem load_effective (h : WellGiven environment file) :
    ((∃ problems, load environment file = .error problems) ↔
      Effective environment file .environment (.text "production") ∧
        ¬ Given environment file .databaseUrl) ∧
    (∀ problems, load environment file = .error problems → problems = [.databaseUnset]) ∧
    ∀ loaded, load environment file = .ok loaded →
      (∀ s, Effective environment file s (loaded.settings.value s)) ∧
        ∀ s, s ∈ loaded.given ↔ Given environment file s := by
  obtain ⟨settings, hvalue, given, hgiven, hload⟩ := h.exists_load
  have hproduction : Effective environment file .environment (.text "production") ↔
      settings.environment = "production" := by
    constructor
    · exact fun hp => Setting.Value.text.inj (h.effective_unique (hvalue .environment) hp)
    · exact fun hp => (congrArg Setting.Value.text hp : settings.value .environment = _) ▸ hvalue .environment
  rw [hproduction, ← hgiven, hload]
  split
  case isTrue hguard =>
    exact ⟨iff_of_true ⟨_, rfl⟩ hguard, fun _ hfailed => (Except.error.inj hfailed).symm, nofun⟩
  case isFalse hguard =>
    refine ⟨iff_of_false nofun hguard, nofun, ?_⟩
    rintro _ ⟨⟩
    exact ⟨hvalue, hgiven⟩

theorem load_effective_overridden :
    let environment := [("PATH", "/bin"), ("environment", "production")]
    let file := some "Environment=development\nPORT=0099"
    WellGiven environment file ∧ load environment file = .error [.databaseUnset] := by
  intro environment file
  have hentries : entries environment file =
      [("Environment", some "development"), ("PORT", some "0099")] := by decide +kernel
  have hpath : ∀ s : Setting, ¬ Text.lower "PATH" = s.key := by
    have hlower : Text.lower "PATH" = "path" := by decide +kernel
    intro s
    rw [hlower]
    cases s <;> decide +kernel
  have hsmall : ∀ s : Setting, Text.lower "environment" = s.key ↔ .environment = s :=
    Setting.lower_eq_key_iff (by decide +kernel)
  have hcapital : ∀ s : Setting, Text.lower "Environment" = s.key ↔ .environment = s :=
    Setting.lower_eq_key_iff (by decide +kernel)
  have hport : ∀ s : Setting, Text.lower "PORT" = s.key ↔ .port = s :=
    Setting.lower_eq_key_iff (by decide +kernel)
  have hvariable : ∀ {s text}, Named environment s text ↔ .environment = s ∧ "production" = text := by
    simp [environment, named_cons, not_named_nil, hpath, hsmall]
  have hentry : ∀ {s v}, Named (entries environment file) s v ↔
      .environment = s ∧ some "development" = v ∨ .port = s ∧ some "0099" = v := by
    simp [hentries, named_cons, not_named_nil, hcapital, hport]
  have hgiven : WellGiven environment file := by
    constructor
    case variable_once =>
      intro s t u ht hu
      exact (hvariable.mp ht).2.symm.trans (hvariable.mp hu).2
    case entry_once =>
      intro s t u ht hu
      obtain ⟨rfl, rfl⟩ | ⟨rfl, rfl⟩ := hentry.mp ht <;> simpa using hentry.mp hu
    case entry_known =>
      intro n text hn
      simp only [hentries, List.mem_cons, Prod.mk.injEq, List.not_mem_nil, or_false] at hn
      obtain ⟨rfl, -⟩ | ⟨rfl, -⟩ := hn
      · exact ⟨_, (hcapital _).mpr rfl⟩
      · exact ⟨_, (hport _).mpr rfl⟩
    case readable =>
      rintro s text (h | h)
      · obtain ⟨rfl, rfl⟩ := hvariable.mp h
        rfl
      · obtain ⟨rfl, ⟨⟩⟩ | ⟨rfl, ⟨⟩⟩ := hentry.mp h <;> decide
  have hproduction : Effective environment file .environment (.text "production") :=
    .ofVariable (hvariable.mpr ⟨rfl, rfl⟩) rfl
  have hnone : ¬ Given environment file .databaseUrl := by
    rintro ⟨text, h | h⟩
    · simpa using hvariable.mp h
    · simpa using hentry.mp h
  obtain ⟨problems, hload⟩ := (load_effective hgiven).1.mpr ⟨hproduction, hnone⟩
  exact ⟨hgiven, hload.trans (congrArg _ ((load_effective hgiven).2.1 problems hload))⟩

end Settings

end TriviaStore
