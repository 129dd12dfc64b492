import TriviaStore.Migration.Script
import TriviaStore.Proofs.Migration.Address

/-! # The address from the settings

Options that hold no address are given the one from the settings. Unlike the address of a target it
is written without doubling its percent signs, so it comes back as it was only if it has none. With
a percent sign in it the run fails, or goes on with another address.
-/

namespace TriviaStore.Migration

theorem Project.plain_commandLineOptions {p : Project} (h : '%' ∉ p.root.toList) :
    ∀ q ∈ p.commandLineOptions, '%' ∉ q.2.toList := by
  intro q hq
  simp only [commandLineOptions, List.mem_cons, List.not_mem_nil, or_false] at hq
  obtain rfl | rfl | rfl := hq
  · exact h
  · decide
  · decide

namespace Options

variable {o : Options}

theorem eq_of_get?_put (hplain : ∀ p ∈ o, '%' ∉ p.2.toList) {name other u v : String}
    (h : (o.put name u).get? other = some v) (hv : '%' ∈ v.toList) : v = u := by
  obtain hp | hp := Assoc.eq_or_mem_of_mem_put (Assoc.mem_of_get? h)
  · exact (Prod.mk.inj hp).2
  · exact absurd hv (hplain _ hp)

/-- At most half of the percent signs of the fallback are left. -/
theorem two_mul_count_le_of_address (hplain : ∀ p ∈ o, '%' ∉ p.2.toList)
    (hown : (o.get? databaseAddress).getD "" = "") {u a : String} (h : o.address u = .ok a) :
    2 * a.toList.count '%' ≤ u.toList.count '%' := by
  obtain ⟨o', own, hwritten, hread, rfl⟩ := address_eq_ok.mp h
  rw [addressed_of_empty hown] at hwritten
  obtain ⟨-, rfl⟩ := write_eq_ok.mp hwritten
  rw [read_of_get? (Assoc.get?_put_self _ _ _)] at hread
  obtain ⟨a, ha, rfl⟩ := Except.map_eq_ok.mp hread
  exact two_mul_count_le_of_resolve (fun _ _ => eq_of_get?_put hplain) ha

theorem address_of_notMem (hown : (o.get? databaseAddress).getD "" = "") {u : String}
    (h : '%' ∉ u.toList) : o.address u = .ok u :=
  address_eq_ok.mpr ⟨_, some u, (addressed_of_empty hown u).trans (write_of_notMem h _ _),
    read_of_notMem h (Assoc.get?_put_self _ _ _), rfl⟩

theorem engineAddress_of_notMem (hplain : ∀ p ∈ o, '%' ∉ p.2.toList)
    (hown : (o.get? databaseAddress).getD "" = "") {u : String} (h : '%' ∉ u.toList) :
    o.engineAddress u = .ok u := by
  have hall : ∀ p ∈ o.put databaseAddress u, '%' ∉ p.2.toList := fun p hp => by
    obtain rfl | hp := Assoc.eq_or_mem_of_mem_put hp
    · exact h
    · exact hplain p hp
  obtain ⟨all, hread⟩ := exists_readAll fun p hp => ⟨p.2, resolve_of_notMem (hall p hp) _ _⟩
  exact engineAddress_eq_ok.mpr ⟨address_of_notMem hown h, _, all,
    (addressed_of_empty hown u).trans (write_of_notMem h _ _), hread⟩

/-- A run without an address of its own works on the one from the settings exactly when that has no
percent sign. Otherwise it fails, or works on an address with at most half of them. -/
theorem keeps_fallback_iff (hplain : ∀ p ∈ o, '%' ∉ p.2.toList)
    (hown : (o.get? databaseAddress).getD "" = "") (u : String) :
    (o.address u = .ok u ↔ '%' ∉ u.toList) ∧ (o.engineAddress u = .ok u ↔ '%' ∉ u.toList) ∧
      ∀ a, o.address u = .ok a ∨ o.engineAddress u = .ok a →
        2 * a.toList.count '%' ≤ u.toList.count '%' := by
  have hcount : ∀ a, o.address u = .ok a ∨ o.engineAddress u = .ok a →
      2 * a.toList.count '%' ≤ u.toList.count '%' := by
    rintro a (h | h)
    · exact two_mul_count_le_of_address hplain hown h
    · exact two_mul_count_le_of_address hplain hown (engineAddress_eq_ok.mp h).1
  have hfree : o.address u = .ok u ∨ o.engineAddress u = .ok u → '%' ∉ u.toList := fun h => by
    have := hcount u h
    exact List.count_eq_zero.mp (by omega)
  exact ⟨⟨fun h => hfree (.inl h), address_of_notMem hown⟩,
    ⟨fun h => hfree (.inr h), engineAddress_of_notMem hplain hown⟩, hcount⟩

theorem keeps_fallback_plain :
    let o := Project.commandLineOptions ⟨"/srv/trivia", "sqlite:///a.sqlite"⟩
    (∀ p ∈ o, '%' ∉ p.2.toList) ∧ (o.get? databaseAddress).getD "" = "" ∧
      o.engineAddress "sqlite:///a.sqlite" = .ok "sqlite:///a.sqlite" ∧
      o.engineAddress "sqlite:///a%%b" ≠ .ok "sqlite:///a%%b" := by
  intro o
  have hplain : ∀ p ∈ o, '%' ∉ p.2.toList := Project.plain_commandLineOptions (by decide)
  have hown : (o.get? databaseAddress).getD "" = "" := by decide
  have hkept := fun u => keeps_fallback_iff hplain hown u
  exact ⟨hplain, hown, (hkept _).2.1.mpr (by decide), fun h => (hkept _).2.1.mp h (by decide)⟩

/-- Runs on a target with this address work on it. As a fallback it is written and then cannot be
read again. -/
theorem not_always_keeps_fallback :
    (∃ o, (⟨"sqlite:///%(a)%%s", "alembic"⟩ : Target).options "/srv/trivia" = .ok o ∧
      o.address "sqlite:///%(a)%%s" = .ok "sqlite:///%(a)%%s") ∧
    (Project.commandLineOptions ⟨"/srv/trivia", "sqlite:///%(a)%%s"⟩).address
      "sqlite:///%(a)%%s" = .error (.unclosed "%(a)%%s") := by
  obtain ⟨o, ho, -⟩ := @Target.exists_options ⟨"sqlite:///%(a)%%s", "alembic"⟩ "/srv/trivia"
    (by decide) (by decide)
  exact ⟨⟨o, ho, Target.address_of_options ho (by decide) _⟩, by cbv⟩

end Options

end TriviaStore.Migration
