import Mathlib.Data.List.Sort
import TriviaStore.Proofs.Reconcile.Accepts

/-! # Reconciliations of different parents

A table is local for some children if a call about one parent depends on what is stored under that parent
and on nothing else. Children that all have ids are then reconciled in the same way in any two states with
the same rows under the parent, whatever is stored under other parents. Since a reconciliation leaves
other parents' rows as they are, the reconciliations of two parents can be made in either order.
-/

namespace TriviaStore

open Attempt

variable {σ C Row : Type}

/-- What is stale depends on which ids are stored, not on the order in which they are read. -/
theorem staleIds_congr {is js kept : List Int} (h : ∀ i, i ∈ is ↔ i ∈ js) :
    staleIds is kept = staleIds js kept := by
  have ascends (l : List Int) : (staleIds l kept).SortedLT := (pairwise_staleIds _ _).sortedLT
  refine (ascends is).eq_of_mem_iff (ascends js) fun i => ?_
  rw [mem_staleIds, mem_staleIds, h]

namespace Reconciler.View

variable {t : Reconciler σ C} (v : t.View Row) {Named : C → Prop} {p q : Int} {ids jds : List Int}
  {cs cs' ds ds' : List C} {s s' s₁ s₂ d d' : σ}

/-- Two states have the same rows under a parent. -/
def SameUnder (p : Int) (s d : σ) : Prop :=
  ∀ i, (v.rows s i).filter (v.owner · == p) = (v.rows d i).filter (v.owner · == p)

variable {v}

namespace SameUnder

theorem symm (h : v.SameUnder p s d) : v.SameUnder p d s := fun i => (h i).symm

theorem rows_eq (h : v.SameUnder p s d) {i : Int} {r : Row} (hr : v.rows s i = some r)
    (ho : v.owner r = p) : v.rows d i = some r := by
  have hd := h i
  rw [hr, Option.filter_some, if_pos (by simpa using ho), eq_comm, Option.filter_eq_some_iff] at hd
  exact hd.1

theorem owned_iff (h : v.SameUnder p s d) {i : Int} :
    (∃ r, v.rows s i = some r ∧ v.owner r = p) ↔ ∃ r, v.rows d i = some r ∧ v.owner r = p := by
  constructor
  · rintro ⟨r, hr, ho⟩
    exact ⟨r, h.rows_eq hr ho, ho⟩
  · rintro ⟨r, hr, ho⟩
    exact ⟨r, h.symm.rows_eq hr ho, ho⟩

theorem of_rows (hs : v.rows s' = v.rows s) (hd : v.rows d' = v.rows d) (h : v.SameUnder p s d) :
    v.SameUnder p s' d' := fun i => by rw [hs, hd, h i]

/-- Setting the same row in both states keeps them the same. -/
theorem set (h : v.SameUnder p s d) {j : Int} {r : Row}
    (hs : ∀ i, v.rows s' i = if i = j then some r else v.rows s i)
    (hd : ∀ i, v.rows d' i = if i = j then some r else v.rows d i) : v.SameUnder p s' d' := by
  intro i
  rw [hs i, hd i]
  split
  · rfl
  · exact h i

end SameUnder

/-- States whose rows are the same under every parent have the same rows. -/
theorem rows_ext (h : ∀ p, v.SameUnder p s d) : v.rows s = v.rows d := by
  funext i
  ext r
  constructor
  · exact fun hr => (h _).rows_eq hr rfl
  · exact fun hr => (h _).symm.rows_eq hr rfl

/-- Whatever succeeds about a parent and its children does so in every state with the same rows under
the parent, and leaves the children alike. -/
structure Local (v : t.View Row) (Named : C → Prop) : Prop where
  existing {p : Int} {s s' d : σ} {ids : List Int} :
    v.Inv d → t.existing p s = (.ok ids, s') → ∃ jds d', t.existing p d = (.ok jds, d')
  place {p : Int} {c c' : C} {s s' d : σ} : Named c → v.Inv s → v.Inv d → v.SameUnder p s d →
    t.place p (c, s) = (.ok (), (c', s')) → ∃ d', t.place p (c, d) = (.ok (), (c', d'))
  discard {p i : Int} {r : Row} {s : σ} :
    v.Inv s → v.rows s i = some r → ∃ s', t.discard p i s = (.ok (), s')

namespace Local

variable (h : v.Local Named)

include h

theorem eachOf (hcs : ∀ c ∈ cs, Named c) (hs : v.Inv s) (hd : v.Inv d) (hsame : v.SameUnder p s d)
    (hr : eachOf (t.place p) cs s = (.ok (), (cs', s'))) :
    ∃ d', eachOf (t.place p) cs d = (.ok (), (cs', d')) := by
  induction cs generalizing s d cs' with
  | nil => cases hr; exact ⟨d, rfl⟩
  | cons c cs ih =>
    obtain ⟨c', s₁, cs₁, hplace, hrest, rfl⟩ := eachOf_cons_eq_ok.mp hr
    have hc := hcs c List.mem_cons_self
    obtain ⟨d₁, hplaced⟩ := h.place hc hs hd hsame hplace
    obtain ⟨hs₁, hps⟩ := v.place hs hplace
    obtain ⟨hd₁, hpd⟩ := v.place hd hplaced
    obtain ⟨r, hr, -, hrows⟩ := hps.row
    obtain ⟨r', hr', -, hrows'⟩ := hpd.row
    obtain rfl : r = r' := Option.some.inj (hr.symm.trans hr')
    obtain ⟨d', hrest'⟩ := ih (fun c hc => hcs c (List.mem_cons_of_mem _ hc)) hs₁ hd₁
      (hsame.set hrows hrows') hrest
    exact ⟨d', eachOf_cons_eq_ok.mpr ⟨c', d₁, cs₁, hplaced, hrest', rfl⟩⟩

/-- Children that have ids are reconciled in the same way wherever the rows under the parent are the
same. -/
theorem reconcile (hcs : ∀ c ∈ cs, Named c) (hs : v.Inv s) (hd : v.Inv d)
    (hsame : v.SameUnder p s d) (hr : t.reconcile p (cs, s) = (.ok ids, (cs', s'))) :
    ∃ d', t.reconcile p (cs, d) = (.ok ids, (cs', d')) := by
  obtain ⟨existing, s₁, s₂, he, hplace, rfl, -⟩ := reconcile_eq_ok.mp hr
  obtain ⟨existing', d₁, he'⟩ := h.existing hd he
  obtain ⟨hs₁, hrows, hids⟩ := v.existing hs he
  obtain ⟨hd₁, hrows', hids'⟩ := v.existing hd he'
  have hstale : staleIds existing (t.kept cs) = staleIds existing' (t.kept cs) :=
    staleIds_congr fun i => (hids i).trans (hsame.owned_iff.trans (hids' i).symm)
  obtain ⟨d₂, hplace'⟩ := h.eachOf hcs hs₁ hd₁ (hsame.of_rows hrows hrows') hplace
  have hall := v.eachOf_place hd₁ hplace'
  rw [← hrows'] at hids'
  have hstored : ∀ i ∈ staleIds existing' (t.kept cs), ∃ r, v.rows d₂ i = some r := by
    intro i hi
    obtain ⟨r, hr, -⟩ := hall.stored_of_stale hids' hi
    exact ⟨r, hr⟩
  obtain ⟨d', hdiscard⟩ := v.forAll_ok (Q := v.Inv) (fun hs => hs)
    (fun hs hd => (v.discard hs hd).1) h.discard hall.inv (pairwise_staleIds _ _) hstored
  rw [← hstale] at hdiscard
  exact ⟨d', reconcile_eq_ok.mpr ⟨existing', d₁, d₂, he', hplace', hstale, hdiscard⟩⟩

/-- A reconciliation that succeeds from a state still does so after that of another parent. -/
theorem reconcile_after (hpq : p ≠ q) (hds : ∀ c ∈ ds, Named c) (hs : v.Inv s)
    (hp : t.reconcile p (cs, s) = (.ok ids, (cs', s₁)))
    (hq : t.reconcile q (ds, s) = (.ok jds, (ds', s₂))) :
    ∃ s', t.reconcile q (ds, s₁) = (.ok jds, (ds', s')) := by
  have hrec := v.reconcile hs hp
  exact h.reconcile hds hs hrec.inv (fun i => (hrec.others q hpq.symm i).symm) hq

end Local

/-- Reconciling two parents one after the other leaves the same rows in both orders. -/
theorem reconcile_comm (hpq : p ≠ q) (hs : v.Inv s)
    (hp : t.reconcile p (cs, s) = (.ok ids, (cs', s₁)))
    (hpq' : t.reconcile q (ds, s₁) = (.ok jds, (ds', s')))
    (hq : t.reconcile q (ds, s) = (.ok jds, (ds', s₂)))
    (hqp' : t.reconcile p (cs, s₂) = (.ok ids, (cs', d'))) :
    v.Inv s' ∧ v.Inv d' ∧ v.rows s' = v.rows d' := by
  have h₁ := v.reconcile hs hp
  have h₂ := v.reconcile hs hq
  have h₁₂ := v.reconcile h₁.inv hpq'
  have h₂₁ := v.reconcile h₂.inv hqp'
  refine ⟨h₁₂.inv, h₂₁.inv, rows_ext fun o i => ?_⟩
  by_cases hop : o = p
  · subst hop
    rw [h₁₂.others o hpq i, h₁.mine i, h₂₁.mine i]
  · by_cases hoq : o = q
    · subst hoq
      rw [h₁₂.mine i, h₂₁.others o hop i, h₂.mine i]
    · rw [h₁₂.others o hoq i, h₁.others o hop i, h₂₁.others o hop i, h₂.others o hoq i]

end Reconciler.View

end TriviaStore
