import TriviaStore.Quiz.Problems
import Mathlib.Algebra.GroupWithZero.Nat
import Mathlib.Data.List.Basic
import Mathlib.Data.List.Nodup

/-! # What a report says

Every place of a quiz has a path of its own, whatever the indices in it. So nothing is lost when the
gaps of all levels are put into one map: a path is in the report exactly if the field is missing that it
leads to, and there are as many entries as missing fields.
-/

namespace TriviaStore

/-! ## Paths -/

/-- The number in front of a closing bracket can be read again, and so can what follows it. -/
theorem toDigits_bracket_inj {i j : Nat} {s t : List Char}
    (h : Nat.toDigits 10 i ++ ']' :: s = Nat.toDigits 10 j ++ ']' :: t) : i = j ∧ s = t := by
  have hread : ∀ (n : Nat) (rest : List Char),
      (Nat.toDigits 10 n ++ ']' :: rest).takeWhile Char.isDigit = Nat.toDigits 10 n := by
    intro n rest
    rw [List.takeWhile_append_of_pos fun c hc => Nat.isDigit_of_mem_toDigits (by decide) (by decide) hc,
      List.takeWhile_cons_of_neg (by decide), List.append_nil]
  have hdigits : Nat.toDigits 10 i = Nat.toDigits 10 j := by
    rw [← hread i s, h, hread]
  have hij : i = j := by
    rw [← Nat.ofDigitChars_ten_toDigits (n := i), hdigits, Nat.ofDigitChars_ten_toDigits]
  rw [hdigits] at h
  exact ⟨hij, (List.cons.inj (List.append_cancel_left h)).2⟩

theorem QuestionGap.path_injective : Function.Injective QuestionGap.path := by
  intro g h heq
  cases g <;> cases h
  case text.text => rfl
  case choices.choices => rfl
  all_goals exact absurd heq (by decide)

namespace Gap

theorem toList_path_question (i : Nat) (g : QuestionGap) : (question i g).path.toList =
    "questions[".toList ++ (Nat.toDigits 10 i ++ ']' :: '[' :: (g.path.toList ++ [']'])) := by
  simp [path, toString]

theorem toList_path_choice (i j : Nat) : (choice i j).path.toList = "questions[".toList ++
    (Nat.toDigits 10 i ++ ']' :: (".options[".toList ++ (Nat.toDigits 10 j ++ ']' :: "[text]".toList))) := by
  simp [path, toString]

theorem question_inj {i k : Nat} {a b : QuestionGap} (h : (question i a).path = (question k b).path) :
    i = k ∧ a = b := by
  have hlist := congrArg String.toList h
  simp only [toList_path_question] at hlist
  obtain ⟨hindex, hrest⟩ := toDigits_bracket_inj (List.append_cancel_left hlist)
  have hpath := List.append_cancel_right (List.cons.inj hrest).2
  exact ⟨hindex, QuestionGap.path_injective (String.toList_inj.mp hpath)⟩

theorem choice_inj {i j k l : Nat} (h : (choice i j).path = (choice k l).path) : i = k ∧ j = l := by
  have hlist := congrArg String.toList h
  simp only [toList_path_choice] at hlist
  obtain ⟨hindex, hrest⟩ := toDigits_bracket_inj (List.append_cancel_left hlist)
  exact ⟨hindex, (toDigits_bracket_inj (List.append_cancel_left hrest)).1⟩

/-- Behind the index, a bracket leads to a field of the question, and a dot to its choices. -/
theorem question_ne_choice {i k l : Nat} {a : QuestionGap} : (question i a).path ≠ (choice k l).path := by
  intro h
  have hlist := congrArg String.toList h
  simp only [toList_path_question, toList_path_choice] at hlist
  obtain ⟨-, hrest⟩ := toDigits_bracket_inj (List.append_cancel_left hlist)
  cases hrest

theorem head?_path (g : Gap) : g.path.toList.head? =
    match g with
    | title => some 't'
    | slug => some 's'
    | description => some 'd'
    | question .. | choice .. => some 'q' := by
  cases g with
  | title | slug | description => rfl
  | question i g => rw [toList_path_question]; rfl
  | choice i j => rw [toList_path_choice]; rfl

theorem path_injective : Function.Injective path := by
  intro g h heq
  cases g <;> cases h
  case question.question =>
    obtain ⟨rfl, rfl⟩ := question_inj heq
    rfl
  case choice.choice =>
    obtain ⟨rfl, rfl⟩ := choice_inj heq
    rfl
  case question.choice => exact absurd heq question_ne_choice
  case choice.question => exact absurd heq.symm question_ne_choice
  -- Any two others are one path or begin with different letters.
  all_goals
    first
    | rfl
    | have hhead := congrArg (fun path => path.toList.head?) heq
      simp only [head?_path, Option.some.injEq, Char.reduceEq] at hhead

theorem path_text (i : Nat) : (question i .text).path = s!"questions[{i}][text]" := by
  rw [← String.toList_inj]
  simp [path, QuestionGap.path, toString]

theorem path_choices (i : Nat) : (question i .choices).path = s!"questions[{i}][options]" := by
  rw [← String.toList_inj]
  simp [path, QuestionGap.path, toString]

end Gap

/-! ## Gaps -/

/-- There is no text, or an empty one. -/
def Absent (text : Option String) : Prop := text = none ∨ text = some ""

theorem isMissing_iff {text : Option String} : isMissing text = true ↔ Absent text := by
  cases text <;> simp [isMissing, Absent]

variable {i j : Nat} {g : Gap}

theorem Question.mem_gaps {q : Question} {a : QuestionGap} : a ∈ q.gaps ↔
    match a with
    | .text => Absent q.text
    | .choices => q.choices = [] := by
  rw [← isMissing_iff]
  cases a <;> by_cases ht : isMissing q.text = true <;> by_cases hc : q.choices = [] <;>
    simp [Question.gaps, ht, hc]

theorem mem_choiceGaps {xs : List Choice} : g ∈ choiceGaps i j xs ↔
    ∃ k x, xs[k]? = some x ∧ x.lacksText = true ∧ g = .choice i (j + k) := by
  induction xs generalizing j with
  | nil => simp [choiceGaps]
  | cons x xs ih =>
    rw [choiceGaps, List.mem_append, ih]
    constructor
    · rintro (h | ⟨k, y, hy, hlacks, rfl⟩)
      · split at h
        · exact ⟨0, x, rfl, ‹_›, List.mem_singleton.mp h⟩
        · cases h
      · exact ⟨k + 1, y, hy, hlacks, by congr 1; omega⟩
    · rintro ⟨k, y, hy, hlacks, rfl⟩
      cases k with
      | zero =>
        obtain rfl := Option.some.inj hy
        rw [if_pos hlacks]
        exact .inl (List.mem_singleton_self _)
      | succ k => exact .inr ⟨k, y, hy, hlacks, by congr 1; omega⟩

theorem mem_questionGaps {qs : List Question} : g ∈ questionGaps i qs ↔
    ∃ k q, qs[k]? = some q ∧
      ((∃ a ∈ q.gaps, .question (i + k) a = g) ∨ g ∈ choiceGaps (i + k) 0 q.choices) := by
  induction qs generalizing i with
  | nil => simp [questionGaps]
  | cons q qs ih =>
    rw [questionGaps, List.mem_append, List.mem_append, List.mem_map, ih]
    constructor
    · rintro (h | ⟨k, d, hd, h⟩)
      · exact ⟨0, q, rfl, h⟩
      · rw [Nat.add_right_comm] at h
        exact ⟨k + 1, d, hd, h⟩
    · rintro ⟨k, d, hd, h⟩
      cases k with
      | zero =>
        obtain rfl := Option.some.inj hd
        exact .inl h
      | succ k =>
        refine .inr ⟨k, d, hd, ?_⟩
        rwa [Nat.add_right_comm]

namespace Quiz

variable {q : Quiz}

theorem mem_gaps : g ∈ q.gaps ↔
    match g with
    | .title => Absent q.title
    | .slug => Absent q.slug
    | .description => Absent q.description
    | .question i a => ∃ x, q.questions[i]? = some x ∧ a ∈ x.gaps
    | .choice i j => ∃ x c, q.questions[i]? = some x ∧ x.choices[j]? = some c ∧ Absent c.text := by
  have hite : ∀ (text : Option String) (g' : Gap),
      g ∈ (if isMissing text then [g'] else []) ↔ Absent text ∧ g = g' := by
    intro text g'
    rw [← isMissing_iff]
    split <;> simp_all
  simp only [gaps, List.mem_append, hite, mem_questionGaps, mem_choiceGaps, Nat.zero_add]
  cases g <;> simp [← isMissing_iff, Choice.lacksText]

end Quiz

/-! ## Counting gaps -/

theorem nodup_choiceGaps (xs : List Choice) : (choiceGaps i j xs).Nodup := by
  induction xs generalizing j with
  | nil => exact List.nodup_nil
  | cons x xs ih =>
    rw [choiceGaps, List.nodup_append]
    refine ⟨by split <;> simp, ih, fun a ha b hb he => ?_⟩
    obtain ⟨k, _, _, _, rfl⟩ := mem_choiceGaps.mp hb
    split at ha
    · rw [List.mem_singleton.mp ha, Gap.choice.injEq] at he
      omega
    · cases ha

theorem Question.nodup_gaps (q : Question) : q.gaps.Nodup := by
  unfold gaps
  split <;> split <;> decide

theorem nodup_questionGaps (qs : List Question) : (questionGaps i qs).Nodup := by
  induction qs generalizing i with
  | nil => exact List.nodup_nil
  | cons q qs ih =>
    have hown : (q.gaps.map (Gap.question i)).Nodup :=
      q.nodup_gaps.map fun a b h => (Gap.question.inj h).2
    rw [questionGaps, List.nodup_append, List.nodup_append]
    refine ⟨⟨hown, nodup_choiceGaps q.choices, ?_⟩, ih, ?_⟩
    · intro a ha b hb he
      obtain ⟨_, _, rfl⟩ := List.mem_map.mp ha
      obtain ⟨_, _, _, _, rfl⟩ := mem_choiceGaps.mp hb
      cases he
    · -- Later questions have later indices.
      rintro a ha b hb rfl
      obtain ⟨k, _, _, hk⟩ := mem_questionGaps.mp hb
      rcases List.mem_append.mp ha with ha | ha
      · obtain ⟨_, _, rfl⟩ := List.mem_map.mp ha
        rcases hk with ⟨_, _, he⟩ | hk
        · rw [Gap.question.injEq] at he
          omega
        · obtain ⟨_, _, _, _, he⟩ := mem_choiceGaps.mp hk
          cases he
      · obtain ⟨_, _, _, _, rfl⟩ := mem_choiceGaps.mp ha
        rcases hk with ⟨_, _, he⟩ | hk
        · cases he
        · obtain ⟨_, _, _, _, he⟩ := mem_choiceGaps.mp hk
          rw [Gap.choice.injEq] at he
          omega

/-- How many fields are missing in a question and its choices. -/
def Question.missingFields (q : Question) : Nat :=
  [q.text].countP isMissing + (if q.choices = [] then 1 else 0) +
    (q.choices.map (·.text)).countP isMissing

/-- How many fields are missing in a whole quiz. -/
def Quiz.missingFields (q : Quiz) : Nat :=
  [q.title, q.slug, q.description].countP isMissing + (q.questions.map Question.missingFields).sum

theorem length_choiceGaps (xs : List Choice) :
    (choiceGaps i j xs).length = (xs.map (·.text)).countP isMissing := by
  induction xs generalizing j with
  | nil => rfl
  | cons x xs ih =>
    rw [choiceGaps, List.length_append, ih, List.map_cons, List.countP_cons, Nat.add_comm]
    congr 1
    unfold Choice.lacksText
    split <;> rfl

theorem length_questionGaps (qs : List Question) :
    (questionGaps i qs).length = (qs.map Question.missingFields).sum := by
  induction qs generalizing i with
  | nil => rfl
  | cons q qs ih =>
    have hown : q.gaps.length = [q.text].countP isMissing + if q.choices = [] then 1 else 0 := by
      by_cases ht : isMissing q.text = true <;> by_cases hc : q.choices = [] <;>
        simp [Question.gaps, ht, hc]
    rw [questionGaps, List.length_append, List.length_append, List.length_map, length_choiceGaps, ih,
      hown, List.map_cons, List.sum_cons, Question.missingFields]

namespace Quiz

theorem nodup_gaps (q : Quiz) : q.gaps.Nodup := by
  unfold gaps
  rw [List.nodup_append]
  refine ⟨by split <;> split <;> split <;> decide, nodup_questionGaps q.questions, ?_⟩
  rintro a ha b hb rfl
  have hown : a = .title ∨ a = .slug ∨ a = .description := by
    simp only [List.mem_append, or_assoc] at ha
    refine ha.imp ?_ (.imp ?_ ?_)
    all_goals
      intro h
      split at h
      · exact List.mem_singleton.mp h
      · cases h
  rcases hown with rfl | rfl | rfl <;> simp [mem_questionGaps, mem_choiceGaps] at hb

theorem length_gaps (q : Quiz) : q.gaps.length = q.missingFields := by
  have hown : ∀ (text : Option String) (g : Gap),
      (if isMissing text then [g] else []).length = [text].countP isMissing := by
    intro text g
    by_cases h : isMissing text = true <;> simp [h]
  rw [gaps, missingFields, List.length_append, List.length_append, List.length_append,
    length_questionGaps, hown, hown, hown, ← List.countP_append, ← List.countP_append]
  rfl

end Quiz

/-! ## Reports -/

namespace Quiz

variable {q : Quiz}

/-- No gap is lost in the report. -/
theorem problems_eq (q : Quiz) : q.problems = q.gaps.map fun g => (g.path, g.requirement) := by
  refine Assoc.ofPairs_of_nodup ?_
  rw [Assoc.names, List.map_map]
  exact q.nodup_gaps.map Gap.path_injective

theorem names_problems (q : Quiz) : q.problems.names = q.gaps.map Gap.path := by
  rw [problems_eq, Assoc.names, List.map_map]
  rfl

theorem path_mem_names : g.path ∈ q.problems.names ↔ g ∈ q.gaps := by
  rw [names_problems, List.mem_map_of_injective Gap.path_injective]

end Quiz

theorem Question.problems_eq_nil {q : Question} : q.problems = [] ↔ q.gaps = [] := by
  rw [problems, Assoc.ofPairs_eq_nil, List.map_eq_nil_iff]

theorem Choice.problems_eq_nil {x : Choice} : x.problems = [] ↔ ¬Absent x.text := by
  rw [problems, Assoc.ofPairs_eq_nil, ← isMissing_iff, lacksText]
  split <;> simp_all

theorem choiceGaps_eq_nil {xs : List Choice} :
    choiceGaps i j xs = [] ↔ ∀ x ∈ xs, x.problems = [] := by
  induction xs generalizing j with
  | nil => simp [choiceGaps]
  | cons x xs ih =>
    rw [choiceGaps, List.append_eq_nil_iff, ih, List.forall_mem_cons, Choice.problems_eq_nil,
      ← isMissing_iff, Choice.lacksText]
    simp

theorem questionGaps_eq_nil {qs : List Question} : questionGaps i qs = [] ↔
    ∀ q ∈ qs, q.problems = [] ∧ ∀ x ∈ q.choices, x.problems = [] := by
  induction qs generalizing i with
  | nil => simp [questionGaps]
  | cons q qs ih =>
    rw [questionGaps, List.append_eq_nil_iff, List.append_eq_nil_iff, List.map_eq_nil_iff,
      choiceGaps_eq_nil, ih, List.forall_mem_cons, Question.problems_eq_nil]

theorem Quiz.problems_eq_nil {q : Quiz} : q.problems = [] ↔
    ¬Absent q.title ∧ ¬Absent q.slug ∧ ¬Absent q.description ∧
      ∀ x ∈ q.questions, x.problems = [] ∧ ∀ c ∈ x.choices, c.problems = [] := by
  rw [problems, Assoc.ofPairs_eq_nil, List.map_eq_nil_iff, gaps]
  simp only [List.append_eq_nil_iff, questionGaps_eq_nil, ← isMissing_iff, and_assoc]
  simp

/-- A report names every field of the quiz that is missing, under a path of its own. -/
structure Quiz.ReportedBy (q : Quiz) (r : Report) : Prop where
  title : "title" ∈ r.names ↔ Absent q.title
  slug : "slug" ∈ r.names ↔ Absent q.slug
  description : "description" ∈ r.names ↔ Absent q.description
  questionText (i : Nat) : s!"questions[{i}][text]" ∈ r.names ↔
    ∃ x, q.questions[i]? = some x ∧ Absent x.text
  questionChoices (i : Nat) : s!"questions[{i}][options]" ∈ r.names ↔
    ∃ x, q.questions[i]? = some x ∧ x.choices = []
  choiceText (i j : Nat) : s!"questions[{i}].options[{j}][text]" ∈ r.names ↔
    ∃ x c, q.questions[i]? = some x ∧ x.choices[j]? = some c ∧ Absent c.text
  nothingElse : ∀ path ∈ r.names, path = "title" ∨ path = "slug" ∨ path = "description" ∨
    ∃ i : Nat, path = s!"questions[{i}][text]" ∨ path = s!"questions[{i}][options]" ∨
      ∃ j : Nat, path = s!"questions[{i}].options[{j}][text]"
  nodup : r.names.Nodup
  length : r.length = q.missingFields
  /-- Only a quiz is without problems whose own fields are there and whose questions and choices are
  without problems, each by itself. -/
  empty : r = [] ↔ ¬Absent q.title ∧ ¬Absent q.slug ∧ ¬Absent q.description ∧
    ∀ x ∈ q.questions, x.problems = [] ∧ ∀ c ∈ x.choices, c.problems = []

/-- Different gaps have different paths, and the report of a quiz has one entry for each field that is
missing and nothing else. -/
theorem Quiz.problems_report :
    Function.Injective Gap.path ∧ ∀ q : Quiz, q.ReportedBy q.problems := by
  refine ⟨Gap.path_injective, fun q => ?_⟩
  have hpath (g : Gap) : g.path ∈ q.problems.names ↔ g ∈ q.gaps := path_mem_names
  refine
    { title := (hpath .title).trans mem_gaps
      slug := (hpath .slug).trans mem_gaps
      description := (hpath .description).trans mem_gaps
      questionText := fun i => ?_, questionChoices := fun i => ?_
      choiceText := fun i j => (hpath (.choice i j)).trans mem_gaps
      nothingElse := ?_
      nodup := by rw [names_problems]; exact q.nodup_gaps.map Gap.path_injective
      length := by rw [problems_eq, List.length_map, length_gaps]
      empty := problems_eq_nil }
  · rw [← Gap.path_text, hpath, mem_gaps]
    simp only [Question.mem_gaps]
  · rw [← Gap.path_choices, hpath, mem_gaps]
    simp only [Question.mem_gaps]
  · intro path hmem
    obtain ⟨g, -, rfl⟩ := List.mem_map.mp (q.names_problems ▸ hmem)
    cases g with
    | title => exact .inl rfl
    | slug => exact .inr (.inl rfl)
    | description => exact .inr (.inr (.inl rfl))
    | question i a =>
      cases a with
      | text => exact .inr (.inr (.inr ⟨i, .inl (Gap.path_text i)⟩))
      | choices => exact .inr (.inr (.inr ⟨i, .inr (.inl (Gap.path_choices i))⟩))
    | choice i j => exact .inr (.inr (.inr ⟨i, .inr (.inr ⟨j, rfl⟩)⟩))

end TriviaStore
