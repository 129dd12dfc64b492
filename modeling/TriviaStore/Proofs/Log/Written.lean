import TriviaStore.Proofs.Log.Ancestors

/-! # Which records are written

A record is written once or not at all: all configured loggers write to the console, and none hands a
record on to another. It is written if its level reaches that of the console and that of its logger.
The logger's level is told by its name, unless several dots stand right behind the name of a configured
logger; then it also depends on the loggers that exist when the logger decides.
-/

namespace TriviaStore.Log

/-- The level from which on a logger lets records pass, given what is below what. -/
def threshold (below : String → String → Bool) (level : Level) (name : String) : Level :=
  if below "topbanana" name then if level = .unset then .warning else level
  else if below "alembic" name then .info
  else .warning

/-- Whether a record is to be written after others, where other loggers exist as well. -/
def isDue (level : Level) (existing : List String) (sent : List Record) (r : Record) : Bool :=
  let known := Loggers.existingAfter existing (Loggers.beforeFirst sent r)
  decide (level.rank ≤ r.level.rank) &&
    decide ((threshold (isBelow known) level r.logger).rank ≤ r.level.rank)

/-- Whether a record is to be written, going by the name of its logger alone. -/
def isDueByName (level : Level) (r : Record) : Bool :=
  decide (level.rank ≤ r.level.rank) &&
    decide ((threshold namesBelow level r.logger).rank ≤ r.level.rank)

namespace Loggers

/-- The loggers that a level leads to. -/
def standard (level : Level) : Loggers where
  console := level
  root := .warning
  named := [⟨"topbanana", level, false⟩, ⟨"alembic", .info, false⟩]

theorem setup_eq_ok {text : String} {level : Level} (h : levelNamed? (Text.upper text) = some level) :
    setup text = .ok (standard level) := by
  simp only [setup, ofConfig, Config.build, h, List.mapM_cons, List.mapM_nil]
  rfl

variable {existing : List String} {name : String} {level : Level}

/-! ## Levels -/

/-- The names of the configured loggers. -/
def configured : List String := ["topbanana", "alembic"]

theorem uppermost_of_configured {top : String} (h : top ∈ configured) (existing : List String) :
    Uppermost (configured ++ existing) top where
  mem := List.mem_append_left existing h
  dot_notMem := (by decide : ∀ t ∈ configured, '.' ∉ t.toList) top h
  not_isPrefix_root := (by decide : ∀ t ∈ configured, ¬ t.toList <+: rootName.toList) top h

theorem dotted_notMem_configured (top : String) (n : Nat) : dotted top (n + 1) ∉ configured := by
  have hlast : (dotted top (n + 1)).toList.getLast? = some '.' := by
    simp [dotted, List.replicate_succ']
  intro h
  exact absurd hlast ((by decide : ∀ t ∈ configured, t.toList.getLast? ≠ some '.') _ h)

theorem mem_lineage_of_configured {top : String} (h : top ∈ configured) :
    top ∈ lineage (configured ++ existing) name ↔ isBelow existing top name = true := by
  rw [(uppermost_of_configured h existing).mem_lineage_iff, isBelow_append (dotted_notMem_configured top)]

theorem mem_path {g : Logger} : g ∈ (standard level).path existing name ↔
    g = ⟨"topbanana", level, false⟩ ∧ isBelow existing "topbanana" name = true ∨
      g = ⟨"alembic", .info, false⟩ ∧ isBelow existing "alembic" name = true := by
  rw [← mem_lineage_of_configured (by decide), ← mem_lineage_of_configured (by decide), path,
    List.mem_filterMap]
  constructor
  · rintro ⟨n, hn, hg⟩
    have hmem := List.mem_of_find?_eq_some hg
    have hname : g.name = n := by simpa using List.find?_some hg
    simp only [standard, List.mem_cons, List.not_mem_nil, or_false] at hmem
    subst hname
    obtain rfl | rfl := hmem
    · exact .inl ⟨rfl, hn⟩
    · exact .inr ⟨rfl, hn⟩
  · rintro (⟨rfl, hn⟩ | ⟨rfl, hn⟩)
    · exact ⟨_, hn, rfl⟩
    · exact ⟨_, hn, rfl⟩

theorem handlersReached_of_forall {path : List Logger} (h : ∀ g ∈ path, g.propagates = false) :
    handlersReached path = 1 := by
  cases path with
  | nil => rfl
  | cons g path => rw [handlersReached, h g List.mem_cons_self]; rfl

/-- Loggers with the same level on the way give this level, or the root's if it is unset. -/
theorem effectiveLevel_of_forall {l : Loggers} {own : Level} (hne : l.path existing name ≠ [])
    (h : ∀ g ∈ l.path existing name, g.level = own) :
    l.effectiveLevel existing name = if own = .unset then l.root else own := by
  have hall : (l.path existing name).map (·.level) =
      List.replicate (l.path existing name).length own := by
    simpa [List.eq_replicate_iff] using h
  rw [effectiveLevel, hall, List.find?_replicate]
  by_cases hown : own = .unset <;> simp [hown, hne]

theorem not_isBelow_both (h : isBelow existing "topbanana" name = true) :
    isBelow existing "alembic" name ≠ true := fun h' =>
  absurd (List.prefix_of_prefix_length_le (isPrefix_of_isBelow h') (isPrefix_of_isBelow h) (by decide))
    (by decide)

theorem effectiveLevel_eq :
    (standard level).effectiveLevel existing name = threshold (isBelow existing) level name := by
  rw [threshold]
  split
  case isTrue hbelow =>
    have hlevel : ∀ g ∈ (standard level).path existing name, g.level = level := by
      simp [mem_path, not_isBelow_both hbelow]
    exact effectiveLevel_of_forall (List.ne_nil_of_mem (mem_path.mpr (.inl ⟨rfl, hbelow⟩))) hlevel
  case isFalse htop =>
    split
    case isTrue hbelow =>
      have hlevel : ∀ g ∈ (standard level).path existing name, g.level = .info := by
        simp [mem_path, htop]
      exact effectiveLevel_of_forall (List.ne_nil_of_mem (mem_path.mpr (.inr ⟨rfl, hbelow⟩))) hlevel
    case isFalse hother =>
      have hnil : (standard level).path existing name = [] :=
        List.eq_nil_iff_forall_not_mem.mpr fun g => by simp [mem_path, htop, hother]
      rw [effectiveLevel, hnil]
      rfl

/-! ## Records -/

theorem write_eq (sent : List Record) (r : Record) : (standard level).write existing sent r =
    if isDue level existing sent r then [r.line] else [] := by
  have honce : ∀ known, handlersReached ((standard level).path known r.logger) = 1 := fun known =>
    handlersReached_of_forall fun g hg => by
      obtain ⟨rfl, -⟩ | ⟨rfl, -⟩ := mem_path.mp hg <;> rfl
  have hdue : (standard level).lets existing sent r = true ∧ (standard level).console.rank ≤ r.level.rank ↔
      isDue level existing sent r = true := by
    simp only [lets, effectiveLevel_eq, isDue, Bool.and_eq_true, decide_eq_true_eq]
    exact and_comm
  rw [write, honce, List.replicate_one]
  exact if_congr hdue rfl rfl

theorem writeAfter_eq (sent records : List Record) : (standard level).writeAfter existing sent records =
    (records.zipIdx.filter fun (r, i) => isDue level existing (sent ++ records.take i) r).map
      fun (r, _) => r.line := by
  induction records generalizing sent with
  | nil => rfl
  | cons r records ih =>
    have hrest : ∀ p : Record × Nat, isDue level existing (sent ++ (r :: records).take (p.2 + 1)) p.1 =
        isDue level existing (sent ++ [r] ++ records.take p.2) p.1 := fun p => by
      rw [List.take_succ_cons, List.append_assoc, List.singleton_append]
    rw [writeAfter, write_eq, ih, List.zipIdx_cons', List.filter_cons, List.filter_map]
    simp only [Function.comp_def, Prod.map, id_eq, hrest, List.take_zero, List.append_nil]
    split <;> simp

theorem isDue_eq_isDueByName {r : Record}
    (h : ∀ top ∈ configured, ¬ (dotted top 2).toList <+: r.logger.toList) (sent : List Record) :
    isDue level existing sent r = isDueByName level r := by
  rw [isDue, isDueByName, threshold, threshold, isBelow_eq_namesBelow (h "topbanana" (by decide)),
    isBelow_eq_namesBelow (h "alembic" (by decide))]

/-- Whatever loggers exist already, what is due is written, in order and once each. Where no two dots stand
right behind the name of a configured logger, the name alone tells what is due. -/
theorem setup_writes {text : String} {level : Level} (h : levelNamed? (Text.upper text) = some level) :
    ∃ l, setup text = .ok l ∧
      (∀ existing records, l.writeAfter existing [] records =
        (records.zipIdx.filter fun (r, i) => isDue level existing (records.take i) r).map
          fun (r, _) => r.line) ∧
      ∀ existing sent r, (∀ top ∈ configured, ¬ (dotted top 2).toList <+: r.logger.toList) →
        isDue level existing sent r = isDueByName level r :=
  ⟨standard level, setup_eq_ok h, fun _ records => writeAfter_eq [] records,
    fun _ sent _ hfew => isDue_eq_isDueByName hfew sent⟩

theorem setup_writes_grown :
    let records : List Record := [⟨"topbanana.core", .info, "a"⟩, ⟨"topbanana..core", .info, "b"⟩,
      ⟨"topbanana.", .info, "c"⟩, ⟨"topbanana..core", .info, "d"⟩, ⟨"topbanana..seed", .info, "e"⟩,
      ⟨"topbananas", .info, "f"⟩, ⟨"alembic.runtime", .debug, "g"⟩, ⟨"", .warning, "h"⟩]
    levelNamed? (Text.upper "Info") = some .info ∧ ∃ l, setup "Info" = .ok l ∧
      l.writeAll records = ["topbanana.core - INFO - a", "topbanana. - INFO - c",
        "topbanana..seed - INFO - e", "root - WARNING - h"] := by
  intro records
  have hlevel : levelNamed? (Text.upper "Info") = some .info := by decide +kernel
  obtain ⟨l, hsetup, hwrites, -⟩ := setup_writes hlevel
  exact ⟨hlevel, l, hsetup, (hwrites [] records).trans (by decide +kernel)⟩

/-- The name alone does not always tell: with two dots behind `topbanana`, a logger need not be below it. -/
theorem not_always_by_name : ¬ ∀ {text : String} {level : Level} {l : Loggers} (records : List Record),
    levelNamed? (Text.upper text) = some level → setup text = .ok l →
      l.writeAll records = (records.filter (isDueByName level)).map Record.line := by
  intro h
  have hinfo : levelNamed? (Text.upper "INFO") = some .info := by decide +kernel
  exact absurd (h [⟨"topbanana..x", .info, "INFO!"⟩] hinfo (setup_eq_ok hinfo)) (by decide +kernel)

end Loggers

end TriviaStore.Log
