/-! # Association lists

Maps from texts to values in the order of first mention. Writing under a name again keeps its place
and takes the new value.
-/

namespace TriviaStore

/-- A map in the order of first mention. -/
abbrev Assoc (α : Type) := List (String × α)

namespace Assoc

variable {α : Type}

def put (name : String) (value : α) : Assoc α → Assoc α
  | [] => [(name, value)]
  | (n, v) :: rest => if n = name then (n, value) :: rest else (n, v) :: put name value rest

/-- The map that writing a list of pairs in turn gives. -/
def ofPairs (pairs : List (String × α)) : Assoc α := pairs.foldl (fun m p => put p.1 p.2 m) []

def names (m : Assoc α) : List String := m.map Prod.fst

def get? (name : String) : Assoc α → Option α
  | [] => none
  | (n, v) :: rest => if n = name then some v else get? name rest

theorem get?_put_self (name : String) (value : α) (m : Assoc α) :
    get? name (put name value m) = some value := by
  induction m with
  | nil => simp [put, get?]
  | cons p m ih => simp only [put]; split <;> simp_all [get?]

theorem get?_put_of_ne {name other : String} (h : name ≠ other) (value : α) (m : Assoc α) :
    get? other (put name value m) = get? other m := by
  induction m with
  | nil => simp [put, get?, h]
  | cons p m ih => simp only [put]; split <;> simp_all [get?]

theorem mem_of_get? {name : String} {v : α} {m : Assoc α} (h : get? name m = some v) :
    (name, v) ∈ m := by
  induction m with
  | nil => cases h
  | cons p m ih =>
    rw [get?] at h
    split at h
    · rename_i hname
      cases h
      exact hname ▸ List.mem_cons_self
    · exact List.mem_cons_of_mem p (ih h)

theorem eq_or_mem_of_mem_put {name : String} {value : α} {m : Assoc α} {p : String × α}
    (h : p ∈ put name value m) : p = (name, value) ∨ p ∈ m := by
  induction m with
  | nil => exact .inl (List.mem_singleton.mp h)
  | cons q m ih =>
    rw [put] at h
    split at h
    · rename_i hname
      subst hname
      exact (List.mem_cons.mp h).imp_right (List.mem_cons_of_mem q)
    · obtain rfl | hp := List.mem_cons.mp h
      · exact .inr List.mem_cons_self
      · exact (ih hp).imp_right (List.mem_cons_of_mem q)

/-! ## Maps from pairs -/

theorem put_ne_nil (name : String) (value : α) (m : Assoc α) : put name value m ≠ [] := by
  cases m with
  | nil => exact List.cons_ne_nil _ _
  | cons p m =>
    rw [put]
    split <;> exact List.cons_ne_nil _ _

theorem foldl_put_ne_nil (pairs : List (String × α)) {m : Assoc α} (h : m ≠ []) :
    pairs.foldl (fun m p => put p.1 p.2 m) m ≠ [] := by
  induction pairs generalizing m with
  | nil => exact h
  | cons p pairs ih => exact ih (put_ne_nil p.1 p.2 m)

theorem ofPairs_eq_nil {pairs : List (String × α)} : ofPairs pairs = [] ↔ pairs = [] := by
  cases pairs with
  | nil => exact iff_of_true rfl rfl
  | cons p pairs =>
    exact iff_of_false (foldl_put_ne_nil pairs (put_ne_nil p.1 p.2 [])) (List.cons_ne_nil _ _)

theorem put_of_notMem {name : String} {m : Assoc α} (h : name ∉ m.names) (value : α) :
    put name value m = m ++ [(name, value)] := by
  induction m with
  | nil => rfl
  | cons p m ih =>
    obtain ⟨hne, hm⟩ := not_or.mp (mt List.mem_cons.mpr h)
    rw [put, if_neg (Ne.symm hne), ih hm, List.cons_append]

theorem foldl_put_of_nodup {pairs : List (String × α)} {m : Assoc α}
    (h : (m ++ pairs).names.Nodup) : pairs.foldl (fun m p => put p.1 p.2 m) m = m ++ pairs := by
  induction pairs generalizing m with
  | nil => exact (List.append_nil m).symm
  | cons p pairs ih =>
    have hnew : p.1 ∉ m.names := by
      rw [names, List.map_append, List.nodup_append] at h
      exact fun hm => h.2.2 p.1 hm p.1 List.mem_cons_self rfl
    have hassoc : m ++ p :: pairs = m ++ [p] ++ pairs := by rw [List.append_assoc, List.singleton_append]
    rw [List.foldl_cons, put_of_notMem hnew, ih (hassoc ▸ h), hassoc]

/-- Pairs under different names are themselves the map that they give. -/
theorem ofPairs_of_nodup {pairs : List (String × α)} (h : (names pairs).Nodup) :
    ofPairs pairs = pairs := foldl_put_of_nodup h

theorem mem_of_mem_foldl_put {pairs : List (String × α)} {m : Assoc α} {p : String × α}
    (h : p ∈ pairs.foldl (fun m p => put p.1 p.2 m) m) : p ∈ pairs ∨ p ∈ m := by
  induction pairs generalizing m with
  | nil => exact .inr h
  | cons q pairs ih =>
    obtain hp | hp := ih h
    · exact .inl (List.mem_cons_of_mem q hp)
    · exact (eq_or_mem_of_mem_put hp).imp_left fun hq => List.mem_cons.mpr (.inl hq)

/-- A name that was written once stays written. -/
theorem isSome_get?_foldl_put {name : String} {pairs : List (String × α)} {m : Assoc α}
    (h : name ∈ names pairs ∨ (m.get? name).isSome) :
    ((pairs.foldl (fun m p => put p.1 p.2 m) m).get? name).isSome := by
  induction pairs generalizing m with
  | nil => exact h.resolve_left List.not_mem_nil
  | cons p pairs ih =>
    refine ih ?_
    by_cases hp : p.1 = name
    · exact .inr (by rw [← hp, get?_put_self]; rfl)
    · rw [get?_put_of_ne hp]
      exact h.imp_left fun hmem => List.mem_of_ne_of_mem (Ne.symm hp) hmem

/-- Where the pairs under a name agree, their map gives what they say. -/
theorem get?_ofPairs_eq_some {name : String} {pairs : List (String × α)}
    (hagree : ∀ u v, (name, u) ∈ pairs → (name, v) ∈ pairs → u = v) {v : α} :
    (ofPairs pairs).get? name = some v ↔ (name, v) ∈ pairs := by
  have hmem : ∀ {w}, (ofPairs pairs).get? name = some w → (name, w) ∈ pairs := fun hw =>
    (mem_of_mem_foldl_put (mem_of_get? hw)).resolve_right List.not_mem_nil
  refine ⟨hmem, fun hv => ?_⟩
  obtain ⟨w, hw⟩ := Option.isSome_iff_exists.mp
    (isSome_get?_foldl_put (m := []) (.inl (List.mem_map_of_mem hv : name ∈ names pairs)))
  exact hw.trans (congrArg some (hagree w v (hmem hw) hv))

end Assoc

end TriviaStore
