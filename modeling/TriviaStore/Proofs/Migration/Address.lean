import TriviaStore.Migration.Script
import TriviaStore.Proofs.Migration.Options

/-! # The address that migrations run on

The address of a target comes back from its options character for character, whatever it looks like
and whatever the settings hold.
-/

namespace TriviaStore.Migration

/-! ## The place of the scripts -/

theorem mem_intercalate {α : Type} {sep : List α} {ps : List (List α)} {c : α}
    (h : c ∈ sep.intercalate ps) : c ∈ sep ∨ ∃ p ∈ ps, c ∈ p := by
  induction ps with
  | nil => simp at h
  | cons p ps ih =>
    cases ps with
    | nil => simp_all
    | cons q ps =>
      rw [List.intercalate_cons_cons, List.mem_append, List.mem_append] at h
      obtain (h | h) | h := h
      · exact .inr ⟨p, List.mem_cons_self, h⟩
      · exact .inl h
      · exact (ih h).imp_right fun ⟨r, hr, hc⟩ => ⟨r, List.mem_cons_of_mem p hr, hc⟩

theorem mem_intercalate_of_mem {α : Type} {sep p : List α} {ps : List (List α)} {c : α}
    (hp : p ∈ ps) (hc : c ∈ p) : c ∈ sep.intercalate ps := by
  induction ps with
  | nil => cases hp
  | cons q ps ih =>
    cases ps with
    | nil => simp_all
    | cons r ps =>
      rw [List.intercalate_cons_cons, List.mem_append, List.mem_append]
      obtain rfl | hp := List.mem_cons.mp hp
      · exact .inl (.inl hc)
      · exact .inr (ih hp)

theorem mem_of_mem_pathNames {path n : String} (hn : n ∈ pathNames path) {c : Char}
    (hc : c ∈ n.toList) : c ∈ path.toList := by
  obtain ⟨s, hs, rfl⟩ := List.mem_map.mp (List.mem_filter.mp hn).1
  rw [String.toList_ofList] at hc
  have hmem : c ∈ ['/'].intercalate (path.toList.splitOn '/') := mem_intercalate_of_mem hs hc
  rwa [List.intercalate_splitOn] at hmem

/-- A directory is made of the characters of the root, of the place and of slashes. -/
theorem mem_directory {root place : String} {c : Char} (h : c ∈ (directory root place).toList) :
    c = '/' ∨ c ∈ root.toList ∨ c ∈ place.toList := by
  have hnames : ∀ {names : List String}, c ∈ ("/".intercalate names).toList →
      c = '/' ∨ ∃ n ∈ names, c ∈ n.toList := by
    intro names hc
    rw [String.toList_intercalate] at hc
    obtain hc | ⟨_, hs, hc⟩ := mem_intercalate hc
    · exact .inl (List.mem_singleton.mp hc)
    · obtain ⟨n, hn, rfl⟩ := List.mem_map.mp hs
      exact .inr ⟨n, hn, hc⟩
  rw [directory] at h
  split at h
  · rw [String.toList_append, List.mem_append] at h
    obtain hc | hc := h
    · rw [leadingSlashes] at hc
      split at hc <;> simp_all
    · exact (hnames hc).imp_right fun ⟨n, hn, hc⟩ => .inr (mem_of_mem_pathNames hn hc)
  · obtain hc | ⟨n, hn, hc⟩ := hnames h
    · exact .inl hc
    · obtain rfl | hn := List.mem_cons.mp hn
      · exact .inr (.inl hc)
      · exact .inr (.inr (mem_of_mem_pathNames hn hc))

namespace Options

variable {o : Options} {a fallback : String}

/-! ## Addresses among the options -/

theorem addressed_of_own (h : o.read databaseAddress = .ok (some a)) (ha : a ≠ "")
    (fallback : String) : o.addressed fallback = .ok o := by
  rw [addressed, h]
  exact if_neg ha

/-- An empty address counts as none. -/
theorem addressed_of_empty (h : (o.get? databaseAddress).getD "" = "") (fallback : String) :
    o.addressed fallback = o.write databaseAddress fallback := by
  have hown : ∃ own, o.read databaseAddress = .ok own ∧ own.getD "" = "" := by
    cases hget : o.get? databaseAddress with
    | none => exact ⟨none, by rw [read, hget], rfl⟩
    | some v =>
      obtain rfl : v = doubled "" := by simpa [hget, doubled] using h
      exact ⟨some "", read_of_doubled hget, rfl⟩
  obtain ⟨own, hread, hempty⟩ := hown
  rw [addressed, hread]
  exact if_pos hempty

theorem address_eq_ok : o.address fallback = .ok a ↔
    ∃ o' own, o.addressed fallback = .ok o' ∧ o'.read databaseAddress = .ok own ∧
      own.getD "" = a := by
  simp only [address, Except.bind_eq_ok, Except.pure_eq_ok, exists_and_left]

/-- An engine is made for the address that a script is written for, once all options can be read. -/
theorem engineAddress_eq_ok : o.engineAddress fallback = .ok a ↔
    o.address fallback = .ok a ∧
      ∃ o' all, o.addressed fallback = .ok o' ∧ o'.readAll = .ok all := by
  simp only [engineAddress, address_eq_ok, Except.bind_eq_ok, Except.pure_eq_ok]
  constructor
  · rintro ⟨o', hwritten, all, hall, ha⟩
    exact ⟨⟨o', _, hwritten, read_of_readAll hall _, ha⟩, o', all, hwritten, hall⟩
  · rintro ⟨⟨o', own, hwritten, hread, ha⟩, o'', all, hwritten', hall⟩
    cases hwritten.symm.trans hwritten'
    cases hread.symm.trans (read_of_readAll hall _)
    exact ⟨o', hwritten, all, hall, ha⟩

end Options

/-! ## The address of a target -/

section Target

variable {t : Target} {root : String} {o : Options}

theorem Target.options_eq_ok : t.options root = .ok o ↔
    ∃ placed, Options.initial.write Options.scripts (directory root t.location) = .ok placed ∧
      placed.put Options.databaseAddress (Options.doubled t.address) = o := by
  simp only [options, Except.bind_eq_ok, Options.write_doubled, Except.ok.injEq]

theorem Target.exists_options (hroot : '%' ∉ root.toList) (hlocation : '%' ∉ t.location.toList) :
    ∃ o, t.options root = .ok o ∧
      o.read Options.scripts = .ok (some (directory root t.location)) := by
  have hplain : '%' ∉ (directory root t.location).toList := fun h => by
    obtain h | h | h := mem_directory h
    · cases h
    · exact hroot h
    · exact hlocation h
  exact ⟨_, options_eq_ok.mpr ⟨_, Options.write_of_notMem hplain _ _, rfl⟩,
    Options.read_of_notMem hplain rfl⟩

theorem Target.read_address (h : t.options root = .ok o) :
    o.read Options.databaseAddress = .ok (some t.address) := by
  obtain ⟨placed, -, rfl⟩ := options_eq_ok.mp h
  exact Options.read_of_doubled (Assoc.get?_put_self _ _ _)

/-- All options of a target can be read where the place of the scripts can. -/
theorem Target.exists_readAll {place : Option String} (h : t.options root = .ok o)
    (hplace : o.read Options.scripts = .ok place) : ∃ all, o.readAll = .ok all := by
  obtain ⟨placed, hplaced, rfl⟩ := options_eq_ok.mp h
  obtain ⟨-, rfl⟩ := Options.write_eq_ok.mp hplaced
  refine Options.exists_readAll fun p hp => ?_
  obtain rfl | hp := Assoc.eq_or_mem_of_mem_put hp
  · exact ⟨t.address, Options.resolve_doubled _ _ _⟩
  obtain rfl | hp := Assoc.eq_or_mem_of_mem_put hp
  · rw [Options.read_of_get? (by rfl)] at hplace
    obtain ⟨a, ha, -⟩ := Except.map_eq_ok.mp hplace
    exact ⟨a, ha⟩
  · obtain rfl := List.mem_singleton.mp hp
    exact ⟨"", Options.resolve_doubled _ _ ""⟩

theorem Target.address_of_options (h : t.options root = .ok o) (ha : t.address ≠ "")
    (settings : String) : o.address settings = .ok t.address :=
  Options.address_eq_ok.mpr
    ⟨o, _, Options.addressed_of_own (read_address h) ha settings, read_address h, rfl⟩

theorem Target.engineAddress_of_read {place : Option String} (h : t.options root = .ok o)
    (ha : t.address ≠ "") (hplace : o.read Options.scripts = .ok place) (settings : String) :
    o.engineAddress settings = .ok t.address := by
  obtain ⟨all, hall⟩ := exists_readAll h hplace
  exact Options.engineAddress_eq_ok.mpr ⟨address_of_options h ha settings, o, all,
    Options.addressed_of_own (read_address h) ha settings, hall⟩

theorem Project.read_of_checkScripts {p : Project} (h : p.checkScripts o = .ok ()) :
    ∃ place, o.read Options.scripts = .ok place := by
  obtain ⟨place, hplace, -⟩ := Except.bind_eq_ok.mp h
  exact ⟨place, Except.mapError_eq_ok.mp hplace⟩

/-- Beside the options and the place of the scripts, only the destination can be wrong. -/
theorem Target.prepare_eq (ha : t.address ≠ "") (settings destination : String) :
    (⟨root, settings⟩ : Project).prepare t destination = (do
      let o ← (t.options root).mapError .option
      (⟨root, ""⟩ : Project).checkScripts o
      if destination.contains ':' then .error .rangeGiven else .ok t.address) := by
  rw [Project.prepare]
  cases ho : t.options root with
  | error e => rfl
  | ok o =>
    change ((⟨root, ""⟩ : Project).checkScripts o >>= _) =
      ((⟨root, ""⟩ : Project).checkScripts o >>= _)
    cases hchecked : (⟨root, ""⟩ : Project).checkScripts o with
    | error e => rfl
    | ok _ =>
      obtain ⟨place, hplace⟩ := Project.read_of_checkScripts hchecked
      rw [engineAddress_of_read ho ha hplace]
      rfl

/-- What it means that runs on a target work on an address. -/
structure Target.RunsOn (t : Target) (root address : String) : Prop where
  /-- Whether the options are accepted is up to the place of the scripts alone. -/
  accepted : (∃ o, t.options root = .ok o) ↔
    ∃ o, Options.initial.write Options.scripts (directory root t.location) = .ok o
  /-- In a place without percent signs they are accepted, and the place is read as it is. -/
  plain : '%' ∉ root.toList → '%' ∉ t.location.toList →
    ∃ o, t.options root = .ok o ∧
      o.read Options.scripts = .ok (some (directory root t.location))
  /-- A script is written for the address, whatever the settings hold. -/
  script : ∀ o, t.options root = .ok o → ∀ settings, o.address settings = .ok address
  /-- An engine is made for it, if the place of the scripts can be read. -/
  engine : ∀ o, t.options root = .ok o → ∀ place, o.read Options.scripts = .ok place →
    ∀ settings, o.engineAddress settings = .ok address
  /-- A run gets to this address and to no other, once the scripts are found. -/
  reached : ∀ settings destination a, (⟨root, settings⟩ : Project).prepare t destination = .ok a ↔
    a = address ∧ destination.contains ':' = false ∧
      ∃ o, t.options root = .ok o ∧ (⟨root, settings⟩ : Project).checkScripts o = .ok ()
  /-- The settings change nothing of a run. -/
  independent : ∀ settings settings' direction destination files,
    (⟨root, settings⟩ : Project).migrate direction t destination files =
      (⟨root, settings'⟩ : Project).migrate direction t destination files

/-- Migrations work on the address they were given, character for character. -/
theorem Target.runsOn_address (ha : t.address ≠ "") (root : String) :
    t.RunsOn root t.address where
  accepted := by
    simp only [options_eq_ok]
    exact ⟨fun ⟨_, placed, h, _⟩ => ⟨placed, h⟩, fun ⟨placed, h⟩ => ⟨_, placed, h, rfl⟩⟩
  plain := exists_options
  script _ ho := address_of_options ho ha
  engine _ ho _ hplace := engineAddress_of_read ho ha hplace
  reached settings destination a := by
    rw [prepare_eq ha, Except.bind_eq_ok]
    simp only [Except.mapError_eq_ok, Except.bind_eq_ok]
    constructor
    · rintro ⟨o, ho, ⟨⟩, hchecked, h⟩
      split at h
      · cases h
      · exact ⟨(Except.ok.inj h).symm, eq_false_of_ne_true ‹_›, o, ho, hchecked⟩
    · rintro ⟨rfl, hcolon, o, ho, hchecked⟩
      refine ⟨o, ho, (), hchecked, ?_⟩
      rw [hcolon]
      rfl
  independent settings settings' direction destination files := by
    simp only [Project.migrate, prepare_eq ha]

theorem Target.runsOn_address_percent :
    ∃ o, (⟨"sqlite:///50%%(here)s%20%", "alembic"⟩ : Target).options "/srv/trivia" = .ok o ∧
      ∀ settings, o.engineAddress settings = .ok "sqlite:///50%%(here)s%20%" := by
  have h := Target.runsOn_address (t := ⟨"sqlite:///50%%(here)s%20%", "alembic"⟩) (by decide)
    "/srv/trivia"
  obtain ⟨o, ho, hplace⟩ := h.plain (by decide) (by decide)
  exact ⟨o, ho, h.engine o ho _ hplace⟩

end Target

end TriviaStore.Migration
