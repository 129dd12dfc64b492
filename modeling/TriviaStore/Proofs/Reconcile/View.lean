import TriviaStore.Proofs.Reconcile.Success

/-! # What a reconciliation leaves

A view of a table gives the row stored under each id and the parent that owns a row, and says of each
step of a reconciliation that succeeds how it changes the rows: placing a child sets the row under
the child's id and no other, and discarding an id removes that row and no other. From this follows
what a whole reconciliation leaves: under the parent, for every id that the children carry in the
end, the row of the last child carrying it, and nothing else; under other parents, what was there.
-/

namespace TriviaStore

open Attempt

variable {σ C Row : Type}

/-- The last child with an id. -/
def lastWith (id : C → Int) (i : Int) : List C → Option C
  | [] => none
  | c :: cs => (lastWith id i cs).or (if id c = i then some c else none)

theorem mem_of_lastWith {id : C → Int} {i : Int} {cs : List C} {c : C}
    (h : lastWith id i cs = some c) : c ∈ cs ∧ id c = i := by
  induction cs with
  | nil => cases h
  | cons d cs ih =>
    rw [lastWith, Option.or_eq_some_iff] at h
    rcases h with h | ⟨_, h⟩
    · exact ⟨List.mem_cons_of_mem _ (ih h).1, (ih h).2⟩
    · split at h
      · cases h
        exact ⟨List.mem_cons_self, ‹_›⟩
      · cases h

theorem lastWith_eq_none {id : C → Int} {i : Int} {cs : List C} :
    lastWith id i cs = none ↔ ∀ c ∈ cs, id c ≠ i := by
  induction cs with
  | nil => simp [lastWith]
  | cons d cs ih => by_cases h : id d = i <;> simp [lastWith, ih, h]

/-- An id has been given, before a position, to a child that had none. -/
def GivenBefore (id : C → Int) (cs cs' : List C) (k : Nat) (i : Int) : Prop :=
  ∃ j < k, ∃ c c', cs[j]? = some c ∧ cs'[j]? = some c' ∧ id c = 0 ∧ id c' = i

namespace GivenBefore

variable {id : C → Int} {cs cs' : List C} {k : Nat} {i : Int} {c c' : C}

theorem head (hc : id c = 0) (hi : id c' = i) :
    GivenBefore id (c :: cs) (c' :: cs') (k + 1) i := ⟨0, Nat.succ_pos k, c, c', rfl, rfl, hc, hi⟩

theorem tail (h : GivenBefore id cs cs' k i) : GivenBefore id (c :: cs) (c' :: cs') (k + 1) i := by
  obtain ⟨j, hj, d, d', hd, hd', h₀, hi⟩ := h
  exact ⟨j + 1, Nat.succ_lt_succ hj, d, d', hd, hd', h₀, hi⟩

theorem mono (h : GivenBefore id cs cs' k i) {l : Nat} (hkl : k ≤ l) : GivenBefore id cs cs' l i := by
  obtain ⟨j, hj, h⟩ := h
  exact ⟨j, Nat.lt_of_lt_of_le hj hkl, h⟩

end GivenBefore

/-- A member of a list stands across from a member of any list of the same length. -/
theorem exists_across {α β : Type} {l : List α} {l' : List β} (hl : l'.length = l.length) {a : α}
    (ha : a ∈ l) : ∃ (k : Nat) (b : β), l[k]? = some a ∧ l'[k]? = some b ∧ b ∈ l' := by
  obtain ⟨k, hk⟩ := List.mem_iff_getElem?.mp ha
  have hlt : k < l'.length := by
    rw [hl]
    exact (List.getElem?_eq_some_iff.mp hk).1
  exact ⟨k, l'[k], hk, List.getElem?_eq_getElem hlt, List.getElem_mem hlt⟩

/-- What placing a child under a parent has done, when it succeeds. -/
structure Reconciler.Placed (t : Reconciler σ C) (rows : σ → Int → Option Row) (owner : Row → Int)
    (stored : C → Option Row) (p : Int) (c : C) (s : σ) (c' : C) (s' : σ) : Prop where
  /-- The row under the child's id is set, and no other. -/
  row : ∃ r, stored c' = some r ∧ owner r = p ∧
    ∀ i, rows s' i = if i = t.id c' then some r else rows s i
  /-- A new child gets an id above all others. -/
  fresh : t.id c = 0 → ∀ i r, rows s i = some r → i < t.id c'
  /-- A child that has an id keeps it, and was stored under the parent. -/
  owned : t.id c ≠ 0 → t.id c' = t.id c ∧ ∃ r, rows s (t.id c) = some r ∧ owner r = p

/-- A view of the rows behind a reconciler. -/
structure Reconciler.View (t : Reconciler σ C) (Row : Type) where
  /-- What holds of the state throughout. -/
  Inv : σ → Prop
  /-- The row under an id. -/
  rows : σ → Int → Option Row
  /-- The parent that a row is stored under. -/
  owner : Row → Int
  /-- The row that a child is stored as. -/
  stored : C → Option Row
  existing {p : Int} {s s' : σ} {ids : List Int} : Inv s → t.existing p s = (.ok ids, s') →
    Inv s' ∧ rows s' = rows s ∧ ∀ i, i ∈ ids ↔ ∃ r, rows s i = some r ∧ owner r = p
  place {p : Int} {c c' : C} {s s' : σ} : Inv s → t.place p (c, s) = (.ok (), (c', s')) →
    Inv s' ∧ t.Placed rows owner stored p c s c' s'
  discard {p i : Int} {s s' : σ} : Inv s → t.discard p i s = (.ok (), s') →
    Inv s' ∧ ∀ j, rows s' j = if j = i then none else rows s j

namespace Reconciler.View

variable {t : Reconciler σ C} (v : t.View Row) {p : Int} {cs cs' : List C} {s s' : σ}

/-- What placing a list of children has done, when it succeeds. -/
structure PlacedAll (p : Int) (cs : List C) (s : σ) (cs' : List C) (s' : σ) : Prop where
  inv : v.Inv s'
  /-- The last child with an id determines the row under it. -/
  last : ∀ i c', lastWith t.id i cs' = some c' → v.rows s' i = v.stored c'
  /-- Rows under ids that no child carries are as before. -/
  other : ∀ i, (∀ c' ∈ cs', t.id c' ≠ i) → v.rows s' i = v.rows s i
  stored : ∀ c' ∈ cs', ∃ r, v.stored c' = some r ∧ v.owner r = p
  /-- No row of another parent was under an id that a child carries. -/
  claimed : ∀ c' ∈ cs', ∀ r, v.rows s (t.id c') = some r → v.owner r = p
  length : cs'.length = cs.length
  fresh : ∀ (k : Nat) c c', cs[k]? = some c → cs'[k]? = some c' → t.id c = 0 →
    ∀ i r, v.rows s i = some r → i < t.id c'
  /-- A new child gets an id above those of the children before it, too. -/
  above : (cs.zip cs').Pairwise fun a b => t.id b.1 = 0 → t.id a.2 < t.id b.2
  kept : ∀ (k : Nat) c c', cs[k]? = some c → cs'[k]? = some c' → t.id c ≠ 0 → t.id c' = t.id c
  /-- A child that had an id was stored under the parent, if not with an id given on the way. -/
  owned : ∀ (k : Nat) c, cs[k]? = some c → t.id c ≠ 0 →
    (∃ r, v.rows s (t.id c) = some r ∧ v.owner r = p) ∨ GivenBefore t.id cs cs' k (t.id c)

theorem placedAll_nil (hs : v.Inv s) : v.PlacedAll p [] s [] s where
  inv := hs
  last _ _ h := by cases h
  other _ _ := rfl
  stored _ h := by cases h
  claimed _ h := by cases h
  length := rfl
  fresh _ _ _ h := by simp at h
  above := .nil
  kept _ _ _ h := by simp at h
  owned _ _ h := by simp at h

variable {v}

/-- One child more at the front of the list. -/
theorem PlacedAll.cons {c c' : C} {s₁ : σ} (hc : t.Placed v.rows v.owner v.stored p c s c' s₁)
    (h : v.PlacedAll p cs s₁ cs' s') : v.PlacedAll p (c :: cs) s (c' :: cs') s' := by
  obtain ⟨r₀, hr₀, ho₀, hrows⟩ := hc.row
  refine
    { inv := h.inv, last := fun i d hd => ?_, other := fun i hi => ?_, stored := fun d hd => ?_
      claimed := fun d hd r hr => ?_, length := by simp [h.length]
      fresh := fun k d d' hd hd' h₀ i r hr => ?_, above := .cons (fun d hd h₀ => ?_) h.above
      kept := fun k d d' hd hd' h₀ => ?_, owned := fun k d hd h₀ => ?_ }
  · rw [lastWith, Option.or_eq_some_iff] at hd
    rcases hd with hd | ⟨hn, hd⟩
    · exact h.last i d hd
    · split at hd
      · cases hd
        rw [h.other i (lastWith_eq_none.mp hn), hrows i, if_pos (Eq.symm ‹_›), hr₀]
      · cases hd
  · rw [h.other i fun d hd => hi d (List.mem_cons_of_mem _ hd), hrows i,
      if_neg (Ne.symm (hi c' List.mem_cons_self))]
  · rcases List.mem_cons.mp hd with rfl | hd
    · exact ⟨r₀, hr₀, ho₀⟩
    · exact h.stored d hd
  · by_cases he : t.id d = t.id c'
    · rw [he] at hr
      by_cases h₀ : t.id c = 0
      · have := hc.fresh h₀ _ r hr; omega
      · obtain ⟨hk, r₁, hr₁, ho₁⟩ := hc.owned h₀
        rw [hk, hr₁] at hr
        cases hr
        exact ho₁
    · rcases List.mem_cons.mp hd with rfl | hd
      · exact absurd rfl he
      · refine h.claimed d hd r ?_
        rw [hrows, if_neg he, hr]
  · cases k with
    | zero => cases hd; cases hd'; exact hc.fresh h₀ i r hr
    | succ k =>
      by_cases he : i = t.id c'
      · exact h.fresh k d d' hd hd' h₀ i r₀ (by rw [hrows, if_pos he])
      · exact h.fresh k d d' hd hd' h₀ i r (by rw [hrows, if_neg he, hr])
  · obtain ⟨k, hk⟩ := List.mem_iff_getElem?.mp hd
    obtain ⟨hk, hk'⟩ := List.getElem?_zip_eq_some.mp hk
    exact h.fresh k d.1 d.2 hk hk' h₀ _ r₀ (by rw [hrows, if_pos rfl])
  · cases k with
    | zero => cases hd; cases hd'; exact (hc.owned h₀).1
    | succ k => exact h.kept k d d' hd hd' h₀
  · cases k with
    | zero => cases hd; exact .inl (hc.owned h₀).2
    | succ k =>
      rcases h.owned k d hd h₀ with ⟨r, hr, ho⟩ | hg
      · by_cases he : t.id d = t.id c'
        · by_cases hc₀ : t.id c = 0
          · exact .inr (.head hc₀ he.symm)
          · rw [he, (hc.owned hc₀).1]
            exact .inl (hc.owned hc₀).2
        · rw [hrows, if_neg he] at hr
          exact .inl ⟨r, hr, ho⟩
      · exact .inr hg.tail

/-- An id that was not stored under the parent, and was not given on the way, is not stored under
the parent in the end. -/
theorem PlacedAll.unowned (h : v.PlacedAll p cs s cs' s') {i : Int}
    (hun : ∀ r, v.rows s i = some r → v.owner r ≠ p)
    (hnew : ¬ GivenBefore t.id cs cs' cs.length i) :
    ∀ r, v.rows s' i = some r → v.owner r ≠ p := by
  by_cases hi : ∃ c' ∈ cs', t.id c' = i
  · obtain ⟨c', hc', rfl⟩ := hi
    obtain ⟨k, c, hk', hk, _⟩ := exists_across h.length.symm hc'
    have hlt := (List.getElem?_eq_some_iff.mp hk).1
    by_cases h₀ : t.id c = 0
    · exact absurd ⟨k, hlt, c, c', hk, hk', h₀, rfl⟩ hnew
    · have hkept := h.kept k c c' hk hk' h₀
      rw [hkept] at hun hnew
      rcases h.owned k c hk h₀ with ⟨r, hr, ho⟩ | hg
      · exact absurd ho (hun r hr)
      · exact absurd (hg.mono (Nat.le_of_lt hlt)) hnew
  · have hno : ∀ c' ∈ cs', t.id c' ≠ i := fun c' hc' he => hi ⟨c', hc', he⟩
    rwa [h.other i hno]

variable (v)

theorem eachOf_place (hs : v.Inv s) (h : eachOf (t.place p) cs s = (.ok (), (cs', s'))) :
    v.PlacedAll p cs s cs' s' := by
  induction cs generalizing s cs' with
  | nil => cases h; exact v.placedAll_nil hs
  | cons c cs ih =>
    obtain ⟨c', s₁, cs₁, hc, hr, rfl⟩ := eachOf_cons_eq_ok.mp h
    obtain ⟨hs₁, hp⟩ := v.place hs hc
    exact .cons hp (ih hs₁ hr)

/-- What placing makes of every single child, in whatever state it is placed. -/
theorem eachOf_pairs {R : C → C → Prop}
    (hR : ∀ {c s c' s'}, v.Inv s → t.place p (c, s) = (.ok (), (c', s')) → R c c')
    (hs : v.Inv s) (h : eachOf (t.place p) cs s = (.ok (), (cs', s'))) {k : Nat} {c c' : C}
    (hc : cs[k]? = some c) (hc' : cs'[k]? = some c') : R c c' := by
  induction cs generalizing s cs' k with
  | nil => simp at hc
  | cons d cs ih =>
    obtain ⟨d', s₁, cs₁, hd, hr, rfl⟩ := eachOf_cons_eq_ok.mp h
    cases k with
    | zero => cases hc; cases hc'; exact hR hs hd
    | succ k => exact ih (v.place hs hd).1 hr hc hc'

theorem forAll_discard {ids : List Int} (hs : v.Inv s)
    (h : forAll (t.discard p) ids s = (.ok (), s')) :
    v.Inv s' ∧ ∀ i, v.rows s' i = if i ∈ ids then none else v.rows s i := by
  induction ids generalizing s with
  | nil => cases h; exact ⟨hs, fun i => by simp⟩
  | cons j ids ih =>
    obtain ⟨s₁, hj, hr⟩ := forAll_cons_eq_ok.mp h
    obtain ⟨hs₁, hrows⟩ := v.discard hs hj
    obtain ⟨hs', hrest⟩ := ih hs₁ hr
    refine ⟨hs', fun i => ?_⟩
    rw [hrest i, hrows i]
    by_cases h₁ : i ∈ ids <;> by_cases h₂ : i = j <;> simp [h₁, h₂]

/-! ## Whole reconciliations -/

/-- What a reconciliation has done, when it succeeds. -/
structure Reconciled (p : Int) (cs : List C) (s : σ) (cs' : List C) (s' : σ) : Prop where
  inv : v.Inv s'
  /-- Under the parent there are the rows of the last children with their ids. -/
  mine : ∀ i, (v.rows s' i).filter (v.owner · == p) = (lastWith t.id i cs').bind v.stored
  /-- Under other parents nothing has changed. -/
  others : ∀ q, q ≠ p → ∀ i,
    (v.rows s' i).filter (v.owner · == q) = (v.rows s i).filter (v.owner · == q)
  stored : ∀ c' ∈ cs', ∃ r, v.stored c' = some r ∧ v.owner r = p
  length : cs'.length = cs.length
  fresh : ∀ (k : Nat) c c', cs[k]? = some c → cs'[k]? = some c' → t.id c = 0 →
    ∀ i r, v.rows s i = some r → i < t.id c'
  above : (cs.zip cs').Pairwise fun a b => t.id b.1 = 0 → t.id a.2 < t.id b.2
  kept : ∀ (k : Nat) c c', cs[k]? = some c → cs'[k]? = some c' → t.id c ≠ 0 → t.id c' = t.id c
  owned : ∀ (k : Nat) c, cs[k]? = some c → t.id c ≠ 0 →
    (∃ r, v.rows s (t.id c) = some r ∧ v.owner r = p) ∨ GivenBefore t.id cs cs' k (t.id c)

variable {v}

/-- What is stale at the end was not placed. -/
theorem PlacedAll.not_stale (h : v.PlacedAll p cs s cs' s') {c' : C} (hc : c' ∈ cs')
    {ids : List Int} (he : ∀ i, i ∈ ids ↔ ∃ r, v.rows s i = some r ∧ v.owner r = p) :
    t.id c' ∉ staleIds ids (t.kept cs) := by
  intro hst
  obtain ⟨hids, hk⟩ := mem_staleIds.mp hst
  obtain ⟨r, hr, _⟩ := (he _).mp hids
  obtain ⟨k, c, hck', hck, hc⟩ := exists_across h.length.symm hc
  by_cases h₀ : t.id c = 0
  · have := h.fresh k _ _ hck hck' h₀ _ r hr
    omega
  · refine hk ?_
    rw [h.kept k _ _ hck hck' h₀]
    exact mem_kept.mpr ⟨h₀, c, hc, rfl⟩

/-- What was stored under the parent and is carried by no child is stale. -/
theorem PlacedAll.stale (h : v.PlacedAll p cs s cs' s') {i : Int} (hn : ∀ c' ∈ cs', t.id c' ≠ i)
    {ids : List Int} (hi : i ∈ ids) : i ∈ staleIds ids (t.kept cs) := by
  refine mem_staleIds.mpr ⟨hi, fun hk => ?_⟩
  obtain ⟨h₀, c, hc, rfl⟩ := mem_kept.mp hk
  obtain ⟨k, c', hck, hck', hc'⟩ := exists_across h.length hc
  exact hn c' hc' (h.kept k _ _ hck hck' h₀)

/-- What is stale is stored as it was before the children were placed. -/
theorem PlacedAll.stored_of_stale (h : v.PlacedAll p cs s cs' s') {ids : List Int}
    (he : ∀ i, i ∈ ids ↔ ∃ r, v.rows s i = some r ∧ v.owner r = p) {i : Int}
    (hi : i ∈ staleIds ids (t.kept cs)) : ∃ r, v.rows s' i = some r ∧ v.owner r = p := by
  have hcarried : ∀ c' ∈ cs', t.id c' ≠ i := fun c' hc' hid => h.not_stale hc' he (hid ▸ hi)
  rw [h.other i hcarried]
  exact (he i).mp (mem_staleIds.mp hi).1

theorem filter_owner_eq_none {r? : Option Row} {q : Int} (h : ∀ r, r? = some r → v.owner r ≠ q) :
    r?.filter (v.owner · == q) = none := by
  cases r? with
  | none => rfl
  | some r => simpa using h r rfl

variable (v)

theorem reconcile {ids : List Int} (hs : v.Inv s)
    (h : t.reconcile p (cs, s) = (.ok ids, (cs', s'))) : v.Reconciled p cs s cs' s' := by
  obtain ⟨existing, s₁, s₂, he, hp, rfl, hd⟩ := reconcile_eq_ok.mp h
  obtain ⟨hs₁, hrows, he⟩ := v.existing hs he
  have hall := v.eachOf_place hs₁ hp
  obtain ⟨hs', hdel⟩ := v.forAll_discard hall.inv hd
  have he₁ : ∀ i, i ∈ existing ↔ ∃ r, v.rows s₁ i = some r ∧ v.owner r = p := by rwa [hrows]
  have hfresh := hall.fresh
  have howned := hall.owned
  rw [hrows] at hfresh howned
  refine
    { inv := hs', mine := fun i => ?_, others := fun q hq i => ?_, stored := hall.stored
      length := hall.length, fresh := hfresh, above := hall.above, kept := hall.kept
      owned := howned }
  · cases hl : lastWith t.id i cs' with
    | some c' =>
      obtain ⟨hc, rfl⟩ := mem_of_lastWith hl
      obtain ⟨r, hr, ho⟩ := hall.stored c' hc
      rw [hdel, if_neg (hall.not_stale hc he₁), hall.last _ c' hl]
      simp [hr, ho]
    | none =>
      have hn := lastWith_eq_none.mp hl
      refine filter_owner_eq_none fun r hr ho => ?_
      rw [hdel, hall.other i hn] at hr
      split at hr
      · cases hr
      · exact absurd (hall.stale hn ((he₁ i).mpr ⟨r, hr, ho⟩)) ‹_›
  · rw [hdel]
    split
    · obtain ⟨r, hr, ho⟩ := (he i).mp (mem_staleIds.mp ‹_›).1
      refine (filter_owner_eq_none fun r' hr' => ?_).symm
      rw [hr] at hr'
      cases hr'
      omega
    · cases hl : lastWith t.id i cs' with
      | some c' =>
        obtain ⟨hc, rfl⟩ := mem_of_lastWith hl
        obtain ⟨r, hr, ho⟩ := hall.stored c' hc
        have hnew : (v.rows s₂ (t.id c')).filter (v.owner · == q) = none := by
          refine filter_owner_eq_none fun r' hr' => ?_
          rw [hall.last _ c' hl, hr] at hr'
          cases hr'
          omega
        have hold : (v.rows s (t.id c')).filter (v.owner · == q) = none := by
          refine filter_owner_eq_none fun r' hr' => ?_
          have := hall.claimed c' hc r' (hrows ▸ hr')
          omega
        rw [hnew, hold]
      | none => rw [hall.other i (lastWith_eq_none.mp hl), hrows]

theorem reconcile_pairs {ids : List Int} {R : C → C → Prop}
    (hR : ∀ {c s c' s'}, v.Inv s → t.place p (c, s) = (.ok (), (c', s')) → R c c')
    (hs : v.Inv s) (h : t.reconcile p (cs, s) = (.ok ids, (cs', s'))) {k : Nat} {c c' : C}
    (hc : cs[k]? = some c) (hc' : cs'[k]? = some c') : R c c' := by
  obtain ⟨existing, s₁, s₂, he, hp, rfl, _⟩ := reconcile_eq_ok.mp h
  exact v.eachOf_pairs hR (v.existing hs he).1 hp hc hc'

end Reconciler.View

end TriviaStore
