import TriviaStore.Migration.Options
import TriviaStore.Proofs.Except

/-! # Writing and reading options

A text whose percent signs are doubled is accepted and read as it was before the doubling, whatever
the other options hold. A text that is written without doubling loses half of its percent signs, or
more, when it is read.
-/

namespace TriviaStore.Migration.Options

open Text

variable {meaning : String → Except OptionError (List Char)}

/-! ## Doubling -/

theorem dropDoubled_of_ne {c : Char} (h : c ≠ '%') (s : List Char) :
    dropDoubled (c :: s) = c :: dropDoubled s := by
  rw [dropDoubled]
  rintro _ rfl
  exact absurd rfl h

theorem scan_of_ne {c : Char} (h : c ≠ '%') (s : List Char) :
    scan meaning (c :: s) = (scan meaning s).map (c :: ·) := by
  rw [scan]
  · rintro _ rfl
    exact absurd rfl h
  · rintro _ rfl
    exact absurd rfl h
  · exact h

theorem dropDoubled_doubled (s : List Char) :
    dropDoubled (s.flatMap double) = s.filter (· != '%') := by
  induction s with
  | nil => rfl
  | cons c s ih =>
    by_cases h : c = '%'
    · subst h
      simpa [double, dropDoubled] using ih
    · simp [double, h, dropDoubled_of_ne h, ih]

/-- A doubled text is read as it is, whatever references mean. -/
theorem scan_doubled (s : List Char) : scan meaning (s.flatMap double) = .ok s := by
  induction s with
  | nil => rw [List.flatMap_nil, scan]
  | cons c s ih =>
    by_cases h : c = '%'
    · subst h
      simp [double, scan, ih, Except.map]
    · simp [double, h, scan_of_ne h, ih, Except.map]

theorem doubled_of_notMem {s : String} (h : '%' ∉ s.toList) : doubled s = s := by
  have hsame : ∀ c ∈ s.toList, double c = [c] := fun c hc => if_neg (ne_of_mem_of_not_mem hc h)
  rw [doubled, List.flatMap_def, List.map_congr_left hsame, ← List.flatMap_def,
    List.flatMap_singleton', String.ofList_toList]

/-! ## Writing -/

theorem dropReferences_of_notMem {s : List Char} (h : '%' ∉ s) : dropReferences s = s := by
  induction s with
  | nil => rw [dropReferences]
  | cons c s ih =>
    obtain ⟨hc, hs⟩ := not_or.mp (mt List.mem_cons.mpr h)
    rw [dropReferences, if_neg (Ne.symm hc), ih hs]

theorem write_eq_ok {name value : String} {o o' : Options} :
    o.write name value = .ok o' ↔
      '%' ∉ dropReferences (dropDoubled value.toList) ∧ o.put name value = o' := by
  rw [write]
  split <;> simp_all

/-- A doubled text is accepted, whatever it looks like. -/
theorem write_doubled (name value : String) (o : Options) :
    o.write name (doubled value) = .ok (o.put name (doubled value)) := by
  have hdropped : '%' ∉ dropDoubled (doubled value).toList := by
    simp [doubled, dropDoubled_doubled]
  refine write_eq_ok.mpr ⟨?_, rfl⟩
  rwa [dropReferences_of_notMem hdropped]

theorem write_of_notMem {value : String} (h : '%' ∉ value.toList) (name : String) (o : Options) :
    o.write name value = .ok (o.put name value) := by
  have := write_doubled name value o
  rwa [doubled_of_notMem h] at this

/-! ## Reading -/

theorem resolve_doubled (o : Options) (name value : String) :
    o.resolve name (doubled value) = .ok value := by
  rw [resolve, expand, doubled, String.toList_ofList, scan_doubled, Except.map, String.ofList_toList]

theorem resolve_of_notMem {value : String} (h : '%' ∉ value.toList) (o : Options)
    (name : String) : o.resolve name value = .ok value := by
  have := resolve_doubled o name value
  rwa [doubled_of_notMem h] at this

theorem read_of_get? {o : Options} {name value : String} (h : o.get? name = some value) :
    o.read name = (o.resolve name value).map some := by
  rw [read, h]

theorem read_of_doubled {o : Options} {name value : String}
    (h : o.get? name = some (doubled value)) : o.read name = .ok (some value) := by
  rw [read_of_get? h, resolve_doubled, Except.map]

theorem read_of_notMem {o : Options} {name value : String} (hv : '%' ∉ value.toList)
    (h : o.get? name = some value) : o.read name = .ok (some value) := by
  rw [read_of_get? h, resolve_of_notMem hv, Except.map]

theorem get?_of_mapM {f : String → String → Except OptionError String} {o all : Assoc String}
    (h : o.mapM (fun p => (f p.1 p.2).map (p.1, ·)) = .ok all) (name : String) :
    (match o.get? name with
      | none => .ok none
      | some v => (f name v).map some) = Except.ok (all.get? name) := by
  induction o generalizing all with
  | nil =>
    cases h
    rfl
  | cons p o ih =>
    rw [List.mapM_cons] at h
    obtain ⟨q, hq, h⟩ := Except.bind_eq_ok.mp h
    obtain ⟨rest, hrest, h⟩ := Except.bind_eq_ok.mp h
    obtain ⟨value, hvalue, rfl⟩ := Except.map_eq_ok.mp hq
    cases h
    by_cases hname : p.1 = name
    · subst hname
      simp [Assoc.get?, hvalue, Except.map]
    · simpa [Assoc.get?, hname] using ih hrest

/-- Reading all the options gives for each of them what reading it alone gives. -/
theorem read_of_readAll {o : Options} {all : Assoc String} (h : o.readAll = .ok all)
    (name : String) : o.read name = .ok (all.get? name) :=
  get?_of_mapM h name

theorem exists_readAll {o : Options} (h : ∀ p ∈ o, ∃ a, o.resolve p.1 p.2 = .ok a) :
    ∃ all, o.readAll = .ok all := by
  refine Except.exists_mapM_eq_ok fun p hp => ?_
  obtain ⟨a, ha⟩ := h p hp
  exact ⟨(p.1, a), Except.map_eq_ok.mpr ⟨a, ha, rfl⟩⟩

/-! ## References -/

theorem suffix_of_reference? {s name rest : List Char} (h : reference? s = some (name, rest)) :
    rest <:+ s := by
  unfold reference? at h
  split at h
  · rename_i s
    split at h
    · cases h
    · rename_i rest' hdrop _
      obtain ⟨-, rfl⟩ := Prod.mk.inj (Option.some.inj h)
      have hsuffix : ')' :: 's' :: rest' <:+ s := hdrop ▸ List.dropWhile_suffix (· != ')')
      exact (List.suffix_append [')', 's'] rest').trans (hsuffix.trans (List.suffix_cons '(' s))
    · cases h
  · cases h

theorem scan_of_reference? {s name rest : List Char}
    (h : reference? ('(' :: s) = some (name, rest)) :
    scan meaning ('%' :: '(' :: s) =
      (meaning (lower (String.ofList name))).bind fun v => (scan meaning rest).map (v ++ ·) := by
  rw [scan]
  split
  · simp_all
  · simp_all

/-- What is read of a text has at most half of its percent signs, unless references bring in more. -/
theorem two_mul_count_le_of_scan {s r : List Char}
    (hplain : ∀ name v, meaning name = .ok v → '%' ∉ v) (h : scan meaning s = .ok r) :
    2 * r.count '%' ≤ s.count '%' := by
  -- The text ends, or begins with a doubled percent sign, with a reference that is not closed, with
  -- one that is, with a percent sign alone or with another character.
  fun_induction scan meaning s generalizing r with
  | case1 => simp_all
  | case2 s ih =>
    obtain ⟨r, hr, rfl⟩ := Except.map_eq_ok.mp h
    have := ih hr
    simp only [List.count_cons_self]
    omega
  | case3 => cases h
  | case4 s name rest href _ ih =>
    obtain ⟨v, hv, h⟩ := Except.bind_eq_ok.mp h
    obtain ⟨r, hr, rfl⟩ := Except.map_eq_ok.mp h
    have hrest := (suffix_of_reference? href).sublist.count_le '%'
    have := ih hr
    rw [List.count_append, List.count_eq_zero.mpr (hplain _ v hv), List.count_cons_self]
    omega
  | case5 => cases h
  | case6 c s _ _ hc ih =>
    obtain ⟨r, hr, rfl⟩ := Except.map_eq_ok.mp h
    rw [List.count_cons_of_ne hc, List.count_cons_of_ne hc]
    exact ih hr

/-- Where more references have a meaning, what was read before is still read. -/
theorem scan_mono {meaning' : String → Except OptionError (List Char)} {s r : List Char}
    (hle : ∀ name v, meaning name = .ok v → meaning' name = .ok v) (h : scan meaning s = .ok r) :
    scan meaning' s = .ok r := by
  fun_induction scan meaning s generalizing r with
  | case1 => rwa [scan]
  | case2 s ih =>
    obtain ⟨r, hr, rfl⟩ := Except.map_eq_ok.mp h
    rw [scan, ih hr, Except.map]
  | case3 => cases h
  | case4 s name rest href _ ih =>
    obtain ⟨v, hv, h⟩ := Except.bind_eq_ok.mp h
    obtain ⟨r, hr, rfl⟩ := Except.map_eq_ok.mp h
    rw [scan_of_reference? href, hle _ v hv, ih hr]
    rfl
  | case5 => cases h
  | case6 c s _ _ hc ih =>
    obtain ⟨r, hr, rfl⟩ := Except.map_eq_ok.mp h
    rw [scan_of_ne hc, ih hr, Except.map]

/-- What a reference means when an option is read down to a depth. -/
def meaningAt (o : Options) (option value : String) (depth : Nat) (name : String) :
    Except OptionError (List Char) :=
  match o.get? name with
  | none => .error (.unknownName option name value)
  | some v =>
    if v.toList.contains '%' then
      match depth with
      | 0 => .error (.tooDeep option value)
      | depth + 1 => expand o option value depth v.toList
    else .ok v.toList

theorem expand_eq (o : Options) (option value : String) (depth : Nat) (s : List Char) :
    expand o option value depth s = scan (o.meaningAt option value depth) s := by
  rw [expand]
  rfl

theorem meaningAt_eq_ok {o : Options} {option value : String} {depth : Nat} {name : String}
    {s : List Char} :
    o.meaningAt option value depth name = .ok s ↔ ∃ v, o.get? name = some v ∧
      ('%' ∉ v.toList ∧ v.toList = s ∨
        '%' ∈ v.toList ∧ ∃ d, depth = d + 1 ∧ expand o option value d v.toList = .ok s) := by
  rw [meaningAt]
  cases o.get? name with
  | none => simp
  | some v =>
    by_cases hv : '%' ∈ v.toList
    · cases depth <;> simp [hv]
    · simp [hv]

theorem meaningAt_zero_eq_ok {o : Options} {option value name : String} {s : List Char} :
    o.meaningAt option value 0 name = .ok s ↔
      ∃ v, o.get? name = some v ∧ '%' ∉ v.toList ∧ v.toList = s := by
  simp [meaningAt_eq_ok]

theorem expand_of_expand_zero {o : Options} {option value : String} {depth : Nat} {s r : List Char}
    (h : expand o option value 0 s = .ok r) : expand o option value depth s = .ok r := by
  rw [expand_eq] at h ⊢
  refine scan_mono (fun name s hs => ?_) h
  obtain ⟨v, hv, hplain⟩ := meaningAt_zero_eq_ok.mp hs
  exact meaningAt_eq_ok.mpr ⟨v, hv, .inl hplain⟩

/-! ## Undoubled texts -/

section Undoubled

variable {o : Options} {u : String}
  (hothers : ∀ name v, o.get? name = some v → '%' ∈ v.toList → v = u)
include hothers

/-- Only the option that is read could be followed further down, and that never comes to an end. -/
theorem expand_zero_of_expand {option value : String} {depth : Nat} {r : List Char}
    (h : expand o option value depth u.toList = .ok r) :
    expand o option value 0 u.toList = .ok r := by
  induction depth generalizing r with
  | zero => exact h
  | succ depth ih =>
    by_cases hdeeper : ∃ r', expand o option value depth u.toList = .ok r'
    · obtain ⟨r', hr'⟩ := hdeeper
      have hzero := ih hr'
      rwa [Except.ok.inj (h.symm.trans (expand_of_expand_zero hzero))]
    · -- The option does not refer to itself, since that would have no meaning.
      rw [expand_eq] at h ⊢
      refine scan_mono (fun name s hs => ?_) h
      obtain ⟨v, hv, hplain | ⟨hpercent, d, hd, hs⟩⟩ := meaningAt_eq_ok.mp hs
      · exact meaningAt_zero_eq_ok.mpr ⟨v, hv, hplain⟩
      · cases hd
        obtain rfl := hothers name v hv hpercent
        exact absurd ⟨s, hs⟩ hdeeper

theorem two_mul_count_le_of_resolve {name a : String} (h : o.resolve name u = .ok a) :
    2 * a.toList.count '%' ≤ u.toList.count '%' := by
  obtain ⟨r, hr, rfl⟩ := Except.map_eq_ok.mp h
  have hzero := expand_zero_of_expand hothers hr
  rw [expand_eq] at hzero
  rw [String.toList_ofList]
  refine two_mul_count_le_of_scan (fun n v hv => ?_) hzero
  obtain ⟨_, _, hplain, rfl⟩ := meaningAt_zero_eq_ok.mp hv
  exact hplain

end Undoubled

end TriviaStore.Migration.Options
