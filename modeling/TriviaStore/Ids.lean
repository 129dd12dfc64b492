/-! # Ids

Ids are integers that fit into 64 bits. A new id is one more than the largest in its table, so the
ids of deleted last rows are given out again.
-/

namespace TriviaStore

/-- Whether the database can take an integer. -/
def fits (n : Int) : Bool := -9223372036854775808 ≤ n && n ≤ 9223372036854775807

/-- One more than the largest id of a list, 1 if it is empty. -/
def freshId : List Int → Int
  | [] => 1
  | id :: ids => ids.foldl max id + 1

/-! ## Ascending lists -/

def insertAscending (x : Int) : List Int → List Int
  | [] => [x]
  | y :: ys => if x < y then x :: y :: ys else if x = y then y :: ys else y :: insertAscending x ys

/-- The members of a list in ascending order, once each. -/
def ascending : List Int → List Int
  | [] => []
  | x :: xs => insertAscending x (ascending xs)

/-- What is stored and not kept, in ascending order. -/
def staleIds (existing kept : List Int) : List Int :=
  ascending (existing.filter fun id => !kept.contains id)

/-! ## Laws -/

theorem mem_insertAscending {x y : Int} {l : List Int} :
    y ∈ insertAscending x l ↔ y = x ∨ y ∈ l := by
  induction l with
  | nil => simp [insertAscending]
  | cons z zs ih =>
    simp only [insertAscending]
    split
    · simp
    · split
      · subst x; simp
      · simp only [List.mem_cons, ih]; grind

theorem pairwise_insertAscending {x : Int} {l : List Int} (h : l.Pairwise (· < ·)) :
    (insertAscending x l).Pairwise (· < ·) := by
  induction l with
  | nil => simp [insertAscending]
  | cons z zs ih =>
    have hz := List.pairwise_cons.mp h
    simp only [insertAscending]
    split
    · rename_i hx
      refine List.pairwise_cons.mpr ⟨fun y hy => ?_, h⟩
      rcases List.mem_cons.mp hy with rfl | hy
      · exact hx
      · exact Int.lt_trans hx (hz.1 y hy)
    · split
      · exact h
      · refine List.pairwise_cons.mpr ⟨fun y hy => ?_, ih hz.2⟩
        rcases mem_insertAscending.mp hy with rfl | hy
        · omega
        · exact hz.1 y hy

theorem mem_ascending {y : Int} {l : List Int} : y ∈ ascending l ↔ y ∈ l := by
  induction l with
  | nil => simp [ascending]
  | cons x xs ih => simp [ascending, mem_insertAscending, ih]

theorem pairwise_ascending (l : List Int) : (ascending l).Pairwise (· < ·) := by
  induction l with
  | nil => exact .nil
  | cons x xs ih => exact pairwise_insertAscending ih

theorem mem_staleIds {id : Int} {existing kept : List Int} :
    id ∈ staleIds existing kept ↔ id ∈ existing ∧ id ∉ kept := by
  simp [staleIds, mem_ascending]

end TriviaStore
