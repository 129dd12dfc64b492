import TriviaStore.Ids

/-! # Rows by id

A table is a list of rows in strictly ascending order of ids, so a row is known by its id. The
changes that statements make to such a list are seen through looking up ids: a row is added under a
fresh id, rows are overwritten in place, and rows are taken out.
-/

namespace TriviaStore

variable {α : Type} {key : α → Int} {l : List α}

/-- The rows are in strictly ascending order of their ids. -/
def Ascending (key : α → Int) (l : List α) : Prop := l.Pairwise fun a b => key a < key b

/-- The row with an id. -/
def rowAt (key : α → Int) (l : List α) (id : Int) : Option α := l.find? fun r => key r == id

theorem key_of_rowAt {id : Int} {r : α} (h : rowAt key l id = some r) : key r = id := by
  simpa using List.find?_some h

theorem mem_of_rowAt {id : Int} {r : α} (h : rowAt key l id = some r) : r ∈ l :=
  List.mem_of_find?_eq_some h

theorem rowAt_eq_none {id : Int} : rowAt key l id = none ↔ ∀ r ∈ l, key r ≠ id := by
  simp [rowAt]

theorem any_key_iff {id : Int} : l.any (key · == id) = true ↔ ∃ r ∈ l, key r = id := by simp

namespace Ascending

theorem nil : Ascending key [] := List.Pairwise.nil

theorem rowAt_of_mem (h : Ascending key l) {r : α} (hr : r ∈ l) : rowAt key l (key r) = some r := by
  induction l with
  | nil => cases hr
  | cons a l ih =>
    obtain ⟨ha, hl⟩ := List.pairwise_cons.mp h
    rcases List.mem_cons.mp hr with rfl | hr
    · simp [rowAt]
    · have hne : key a ≠ key r := by have := ha r hr; omega
      rw [rowAt, List.find?_cons_of_neg (by simpa using hne)]
      exact ih hl hr

theorem eq_of_key (h : Ascending key l) {a b : α} (ha : a ∈ l) (hb : b ∈ l)
    (hk : key a = key b) : a = b := by
  have hat := h.rowAt_of_mem ha
  rw [hk, h.rowAt_of_mem hb] at hat
  exact (Option.some.inj hat).symm

/-- Looking up an id finds the one row that has it. -/
theorem rowAt_eq_some (h : Ascending key l) {id : Int} {r : α} :
    rowAt key l id = some r ↔ r ∈ l ∧ key r = id := by
  constructor
  · exact fun hr => ⟨mem_of_rowAt hr, key_of_rowAt hr⟩
  · rintro ⟨hr, rfl⟩
    exact h.rowAt_of_mem hr

theorem filter (h : Ascending key l) (p : α → Bool) : Ascending key (l.filter p) :=
  List.Pairwise.filter p h

theorem map (h : Ascending key l) {f : α → α} (hf : ∀ r, key (f r) = key r) :
    Ascending key (l.map f) := by
  refine List.pairwise_map.mpr (h.imp fun {a b} hab => ?_)
  rwa [hf a, hf b]

/-- Looking up among some of the rows. -/
theorem rowAt_filter (h : Ascending key l) (p : α → Bool) (id : Int) :
    rowAt key (l.filter p) id = (rowAt key l id).filter p := by
  ext r
  simp only [(h.filter p).rowAt_eq_some, Option.filter_eq_some_iff, h.rowAt_eq_some,
    List.mem_filter]
  exact ⟨fun ⟨⟨hr, hp⟩, hk⟩ => ⟨⟨hr, hk⟩, hp⟩, fun ⟨⟨hr, hk⟩, hp⟩ => ⟨⟨hr, hp⟩, hk⟩⟩

/-- There is one row with an id, or none. -/
theorem filter_key (h : Ascending key l) (p : α → Bool) (id : Int) :
    l.filter (fun r => p r && key r == id) = ((rowAt key l id).filter p).toList := by
  induction l with
  | nil => rfl
  | cons a l ih =>
    obtain ⟨ha, hl⟩ := List.pairwise_cons.mp h
    by_cases hk : key a = id
    · have hnil : l.filter (fun r => p r && key r == id) = [] := by
        refine List.filter_eq_nil_iff.mpr fun r hr => ?_
        have hne : key r ≠ id := by have := ha r hr; omega
        simp [hne]
      rw [List.filter_cons, hnil, ← hk, h.rowAt_of_mem List.mem_cons_self, Option.filter_some]
      by_cases hp : p a = true <;> simp [hp]
    · rw [List.filter_cons_of_neg (by simp [hk]), ih hl, rowAt, rowAt,
        List.find?_cons_of_neg (by simpa using hk)]

end Ascending

theorem rowAt_map {f : α → α} (hf : ∀ r, key (f r) = key r) (id : Int) :
    rowAt key (l.map f) id = (rowAt key l id).map f := by
  simp only [rowAt, List.find?_map, Function.comp_def, hf]

/-- Looking up after the rows that have one id, and possibly more in common, were overwritten. -/
theorem Ascending.rowAt_overwrite (h : Ascending key l) {p : α → Bool} {f : α → α}
    (hf : ∀ r, key (f r) = key r) {r : α} (hr : r ∈ l) (hp : p r = true)
    (hk : ∀ x, p x = true → key x = key r) (id : Int) :
    rowAt key (l.map fun x => if p x then f x else x) id =
      if id = key r then some (f r) else rowAt key l id := by
  rw [rowAt_map fun x => by split <;> simp [hf]]
  split
  · subst id
    rw [h.rowAt_of_mem hr, Option.map_some, if_pos hp]
  · cases hx : rowAt key l id with
    | none => rfl
    | some x =>
      have hne : p x ≠ true := fun hpx => ‹¬id = key r› (by rw [← key_of_rowAt hx, hk x hpx])
      rw [Option.map_some, if_neg hne]

theorem Ascending.rowAt_delete (h : Ascending key l) (gone id : Int) :
    rowAt key (l.filter (key · != gone)) id = if id = gone then none else rowAt key l id := by
  rw [h.rowAt_filter]
  cases hx : rowAt key l id with
  | none => split <;> rfl
  | some x =>
    have hk := key_of_rowAt hx
    by_cases hi : id = gone <;> simp [hi, hk]

/-! ## Fresh ids -/

theorem le_foldl_max (ids : List Int) (a : Int) :
    a ≤ ids.foldl max a ∧ ∀ x ∈ ids, x ≤ ids.foldl max a := by
  induction ids generalizing a with
  | nil => simp
  | cons y ys ih =>
    obtain ⟨h₁, h₂⟩ := ih (max a y)
    rw [List.foldl_cons]
    refine ⟨by omega, fun x hx => ?_⟩
    rcases List.mem_cons.mp hx with rfl | hx
    · omega
    · exact h₂ x hx

theorem lt_freshId {ids : List Int} {x : Int} (h : x ∈ ids) : x < freshId ids := by
  cases ids with
  | nil => cases h
  | cons y ys =>
    have hm : x ≤ ys.foldl max y := by
      rcases List.mem_cons.mp h with rfl | h
      · exact (le_foldl_max ys x).1
      · exact (le_foldl_max ys y).2 x h
    exact Int.lt_add_one_of_le hm

theorem freshId_pos {ids : List Int} (h : ∀ x ∈ ids, 0 < x) : 0 < freshId ids := by
  cases ids with
  | nil => decide
  | cons y ys =>
    have h₁ := lt_freshId (List.mem_cons_self (a := y) (l := ys))
    have h₂ := h y List.mem_cons_self
    omega

theorem freshId_concat (ids : List Int) : freshId (ids ++ [freshId ids]) = freshId ids + 1 := by
  cases ids with
  | nil => rfl
  | cons i ids =>
    simp only [freshId, List.cons_append, List.foldl_append, List.foldl_cons, List.foldl_nil]
    omega

theorem foldl_max_le {ids : List Int} {a b : Int} (ha : a ≤ b) (h : ∀ x ∈ ids, x ≤ b) :
    ids.foldl max a ≤ b := by
  induction ids generalizing a with
  | nil => exact ha
  | cons i ids ih =>
    have hi := h i List.mem_cons_self
    exact ih (by omega) fun x hx => h x (List.mem_cons_of_mem _ hx)

/-- Fewer ids leave no less room. -/
theorem freshId_le_of_subset {ids js : List Int} (hpos : ∀ i ∈ ids, 0 < i) (h : js ⊆ ids) :
    freshId js ≤ freshId ids := by
  cases js with
  | nil => exact freshId_pos hpos
  | cons j js =>
    have hlt : ∀ x ∈ j :: js, x ≤ freshId ids - 1 := fun x hx =>
      Int.le_sub_one_of_lt (lt_freshId (h hx))
    have hmax := foldl_max_le (hlt j List.mem_cons_self) fun x hx => hlt x (List.mem_cons_of_mem _ hx)
    calc freshId (j :: js) = js.foldl max j + 1 := rfl
      _ ≤ freshId ids := by omega

theorem lt_fresh_of_mem {r : α} (h : r ∈ l) : key r < freshId (l.map key) :=
  lt_freshId (List.mem_map_of_mem h)

theorem Ascending.append (h : Ascending key l) {r : α} (hr : key r = freshId (l.map key)) :
    Ascending key (l ++ [r]) := by
  refine List.pairwise_append.mpr ⟨h, List.pairwise_singleton _ _, fun a ha b hb => ?_⟩
  obtain rfl := List.mem_singleton.mp hb
  rw [hr]
  exact lt_fresh_of_mem ha

theorem rowAt_fresh : rowAt key l (freshId (l.map key)) = none :=
  rowAt_eq_none.mpr fun _ hr => Int.ne_of_lt (lt_fresh_of_mem hr)

/-- Looking up after a row was added. -/
theorem rowAt_append (key : α → Int) {r : α} (hr : rowAt key l (key r) = none) (id : Int) :
    rowAt key (l ++ [r]) id = if id = key r then some r else rowAt key l id := by
  unfold rowAt at *
  rw [List.find?_append]
  split
  · subst id
    rw [hr]
    simp
  · rename_i hne
    have hs : ([r].find? fun r => key r == id) = none := by simpa using Ne.symm hne
    rw [hs, Option.or_none]

end TriviaStore
