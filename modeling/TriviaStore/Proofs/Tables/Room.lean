import TriviaStore.Proofs.Tables.Sound

/-! # Room for new rows

A table has room for some more rows if all the ids that they would be given fit. Adding a row takes
up room for one. Taking rows out never takes up any, though it gives some back only at the end of
the table.
-/

namespace TriviaStore

variable {ids js : List Int} {m n : Nat}

/-- Beside the ids of a table there are some more to give. -/
def Room (ids : List Int) (n : Nat) : Prop := freshId ids + n ≤ 9223372036854775808

instance : Decidable (Room ids n) := inferInstanceAs (Decidable (_ ≤ _))

namespace Room

theorem concat (h : Room ids (n + 1)) : Room (ids ++ [freshId ids]) n := by
  unfold Room at *
  rw [freshId_concat]
  omega

theorem of_subset (h : Room ids n) (hpos : ∀ i ∈ ids, 0 < i) (hsub : js ⊆ ids) : Room js n := by
  have hle := freshId_le_of_subset hpos hsub
  unfold Room at *
  omega

theorem mono (h : Room ids n) (hmn : m ≤ n) : Room ids m := by
  unfold Room at *
  omega

theorem fits_freshId (h : Room ids (n + 1)) (hpos : ∀ i ∈ ids, 0 < i) :
    fits (freshId ids) = true := by
  have hfresh := freshId_pos hpos
  unfold Room at h
  simp only [fits, Bool.and_eq_true, decide_eq_true_eq]
  omega

end Room

namespace Tables

/-- Each table has room for some more rows. -/
structure HasRoom (t : Tables) (quizzes questions choices : Nat) : Prop where
  quizzes : Room (t.quizzes.map (·.id)) quizzes
  questions : Room (t.questions.map (·.id)) questions
  choices : Room (t.choices.map (·.id)) choices

variable {t : Tables} {p : Int}

theorem hasRoom_iff {k : Nat} : t.HasRoom k m n ↔ Room (t.quizzes.map (·.id)) k ∧
    Room (t.questions.map (·.id)) m ∧ Room (t.choices.map (·.id)) n :=
  ⟨fun ⟨hv, hq, hx⟩ => ⟨hv, hq, hx⟩, fun ⟨hv, hq, hx⟩ => ⟨hv, hq, hx⟩⟩

theorem HasRoom.mono {k k' m' n' : Nat} (h : t.HasRoom k' m' n') (hk : k ≤ k') (hm : m ≤ m')
    (hn : n ≤ n') : t.HasRoom k m n :=
  ⟨h.quizzes.mono hk, h.questions.mono hm, h.choices.mono hn⟩

instance {k : Nat} : Decidable (t.HasRoom k m n) := decidable_of_iff _ hasRoom_iff.symm

namespace Sound

variable (ht : t.Sound)

include ht

theorem quiz_ids_pos : ∀ i ∈ t.quizzes.map (·.id), 0 < i := by
  intro i hi
  obtain ⟨r, hr, rfl⟩ := List.mem_map.mp hi
  exact ht.quizzes_pos r hr

theorem question_ids_pos : ∀ i ∈ t.questions.map (·.id), 0 < i := by
  intro i hi
  obtain ⟨r, hr, rfl⟩ := List.mem_map.mp hi
  exact ht.questions_pos r hr

theorem choice_ids_pos : ∀ i ∈ t.choices.map (·.id), 0 < i := by
  intro i hi
  obtain ⟨r, hr, rfl⟩ := List.mem_map.mp hi
  exact ht.choices_pos r hr

end Sound

/-! ## Statements -/

section Statements

variable {t' : Tables} {id : Int} {text imageUrl : Option String} {position : Option Int}
  {correct : Option Bool}

theorem insertQuiz_room {title slug description : Option String} {createdAt : Int}
    (h : t.insertQuiz title slug description createdAt = .ok (id, t'))
    (hr : Room (t.quizzes.map (·.id)) (n + 1)) : Room (t'.quizzes.map (·.id)) n := by
  obtain ⟨_, _, _, _, _, _, rfl, _, rfl⟩ := insertQuiz_eq_ok.mp h
  rw [List.map_append]
  exact hr.concat

theorem insertQuestion_room (h : t.insertQuestion p text imageUrl position = .ok (id, t'))
    (hr : Room (t.questions.map (·.id)) (n + 1)) : Room (t'.questions.map (·.id)) n := by
  obtain ⟨_, _, _, _, _, rfl, _, rfl⟩ := insertQuestion_eq_ok.mp h
  rw [List.map_append]
  exact hr.concat

theorem insertChoice_room (h : t.insertChoice p text correct = .ok (id, t'))
    (hr : Room (t.choices.map (·.id)) (n + 1)) : Room (t'.choices.map (·.id)) n := by
  obtain ⟨_, _, _, _, _, _, rfl, _, rfl⟩ := insertChoice_eq_ok.mp h
  rw [List.map_append]
  exact hr.concat

/-- Overwriting a question leaves the ids as they are. -/
theorem updateQuestion_ids {parent : Option Int}
    (h : t.updateQuestion id parent text imageUrl position = .ok (n, t')) :
    t'.questions.map (·.id) = t.questions.map (·.id) := by
  obtain ⟨_, ⟨_, _, rfl⟩ | ⟨_, _, _, _, _, _, _, _, rfl⟩⟩ := updateQuestion_eq_ok.mp h
  · rfl
  rw [List.map_map]
  refine List.map_congr_left fun r _ => ?_
  simp only [Function.comp_apply]
  split <;> rfl

theorem updateChoice_ids {parent : Option Int}
    (h : t.updateChoice id parent text correct = .ok (n, t')) :
    t'.choices.map (·.id) = t.choices.map (·.id) := by
  obtain ⟨_, ⟨_, _, rfl⟩ | ⟨_, _, _, _, _, _, rfl⟩⟩ := updateChoice_eq_ok.mp h
  · rfl
  rw [List.map_map]
  refine List.map_congr_left fun r _ => ?_
  simp only [Function.comp_apply]
  split <;> rfl

theorem deleteQuestion_subset (h : t.deleteQuestion id = .ok (n, t')) :
    t'.questions ⊆ t.questions ∧ t'.choices ⊆ t.choices := by
  obtain ⟨_, ⟨_, _, rfl⟩ | ⟨_, _, rfl⟩⟩ := deleteQuestion_eq_ok.mp h
  · exact ⟨List.Subset.refl _, List.Subset.refl _⟩
  · exact ⟨List.filter_sublist.subset, List.filter_sublist.subset⟩

theorem deleteChoice_subset (h : t.deleteChoice id = .ok (n, t')) : t'.choices ⊆ t.choices := by
  obtain ⟨_, ⟨_, _, rfl⟩ | ⟨_, _, rfl⟩⟩ := deleteChoice_eq_ok.mp h
  · exact List.Subset.refl _
  · exact List.filter_sublist.subset

end Statements

end Tables

end TriviaStore
