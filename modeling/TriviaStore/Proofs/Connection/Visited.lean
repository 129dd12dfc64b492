import Mathlib.Data.List.Forall2
import TriviaStore.Proofs.Attempt.Keeps
import TriviaStore.Proofs.Connection.Deletions

/-! # Visited nodes

A write visits the nodes of an aggregate in order, a quiz before its questions and a question before its
choices, and issues one insert or update for each node that it gets to. A node that has an id when it is
visited keeps everything but the parent that it names, and nodes that are not visited are not touched, but
for the ids that are forgotten under a new question.
-/

namespace TriviaStore

open Attempt

variable {σ τ α β : Type}

/-! ## Nodes -/

/-- A part of an aggregate by itself, without what is below it. -/
inductive Node
  | quiz (v : Quiz)
  | question (q : Question)
  | choice (x : Choice)
  deriving DecidableEq, Repr

namespace Node

def id : Node → Int
  | .quiz v => v.id
  | .question q => q.id
  | .choice x => x.id

def table : Node → Table
  | .quiz _ => .quizzes
  | .question _ => .questions
  | .choice _ => .choices

/-- The statement that stores a node: nodes without an id are inserted, and the others are updated. -/
def statement (n : Node) : Statement := if n.id = 0 then .insert n.table else .update n.table

/-- The node without the parent that it names. -/
def detached : Node → Node
  | .quiz v => .quiz v
  | .question q => .question { q with quizId := 0 }
  | .choice x => .choice { x with questionId := 0 }

@[simp] theorem id_detached (n : Node) : n.detached.id = n.id := by cases n <;> rfl

@[simp] theorem table_detached (n : Node) : n.detached.table = n.table := by cases n <;> rfl

variable {n m : Node}

theorem id_of_detached (h : n.detached = m.detached) : n.id = m.id := by
  rw [← n.id_detached, h, m.id_detached]

theorem statement_of_detached (h : n.detached = m.detached) : n.statement = m.statement := by
  have htable : n.table = m.table := by rw [← n.table_detached, h, m.table_detached]
  rw [statement, statement, id_of_detached h, htable]

end Node

/-- The question by itself. -/
def Question.node (q : Question) : Node := .question { q with choices := [] }

/-- The quiz by itself. -/
def Quiz.node (v : Quiz) : Node := .quiz { v with questions := [] }

def Choice.nodes (x : Choice) : List Node := [.choice x]

/-- The question and its choices. -/
def Question.nodes (q : Question) : List Node := q.node :: q.choices.flatMap Choice.nodes

/-- The quiz, and every question with its choices after it. -/
def Quiz.nodes (v : Quiz) : List Node := v.node :: v.questions.flatMap Question.nodes

/-! ## Visiting in order -/

/-- Some nodes have been visited one after the other, each by its statement. A node with an id is left as it
was but for its parent; from the first node on that is not visited, every node is as it was passed or as it
was prepared. -/
inductive Visited : (prepared passed left : List Node) → List Statement → Prop
  | nil : Visited [] [] [] []
  | visit {r n n' : Node} {rs ns ns' : List Node} {w : List Statement}
      (kept : r.id ≠ 0 → n'.detached = r.detached) (rest : Visited rs ns ns' w) :
      Visited (r :: rs) (n :: ns) (n' :: ns') (r.statement :: w)
  | spare {r n n' : Node} {rs ns ns' : List Node} (same : n' = n ∨ n' = r)
      (kept : r.id ≠ 0 → n'.detached = r.detached) (rest : Visited rs ns ns' []) :
      Visited (r :: rs) (n :: ns) (n' :: ns') []

/-- Preparing nodes changes only such as are to be inserted. -/
abbrev Prepared : (prepared passed : List Node) → Prop :=
  List.Forall₂ fun r n => r.id ≠ 0 → n = r

theorem prepared_self (ns : List Node) : Prepared ns ns := List.forall₂_same.mpr fun _ _ _ => rfl

namespace Visited

variable {rs ns ns' rs₂ ns₂ ns₂' : List Node} {w w₂ : List Statement} {k : Nat}

/-- Nothing has been visited. -/
theorem passed (h : Prepared rs ns) : Visited rs ns ns [] := by
  induction h with
  | nil => exact .nil
  | cons hn _ ih => exact .spare (.inl rfl) (fun hr => by rw [hn hr]) ih

/-- Nothing has been visited, but the nodes have been prepared. -/
theorem prepared (h : Prepared rs ns) : Visited rs ns rs [] := by
  induction h with
  | nil => exact .nil
  | cons _ _ ih => exact .spare (.inr rfl) (fun _ => rfl) ih

/-- What was passed matters only where it was not prepared. -/
theorem of_prepared (h : Visited rs rs ns' w) (hns : Prepared rs ns) : Visited rs ns ns' w := by
  induction hns generalizing ns' w with
  | nil => exact h
  | cons _ _ ih =>
    cases h with
    | visit kept rest => exact .visit kept (ih rest)
    | spare same kept rest => exact .spare (.inr (or_self_iff.mp same)) kept (ih rest)

/-- The nodes of two lists are visited in turn, those of the second once all of the first are visited. -/
theorem append (h : Visited rs ns ns' w) (h₂ : Visited rs₂ ns₂ ns₂' w₂)
    (hw : w.length = rs.length ∨ w₂ = []) :
    Visited (rs ++ rs₂) (ns ++ ns₂) (ns' ++ ns₂') (w ++ w₂) := by
  induction h with
  | nil => exact h₂
  | visit kept _ ih => exact .visit kept (ih (hw.imp_left Nat.succ.inj))
  | spare same kept _ ih =>
    obtain rfl := hw.resolve_left (by simp)
    exact .spare same kept (ih (.inr rfl))

/-- Nodes are visited in order from the first one on. -/
theorem statements (h : Visited rs ns ns' w) : w <+: rs.map Node.statement := by
  induction h with
  | nil => exact List.prefix_refl _
  | visit _ _ ih => exact List.cons_prefix_cons.mpr ⟨rfl, ih⟩
  | spare _ _ _ _ => exact List.nil_prefix

theorem kept (h : Visited rs ns ns' w) :
    List.Forall₂ (fun r n => r.id ≠ 0 → n.detached = r.detached) rs ns' := by
  induction h with
  | nil => exact .nil
  | visit kept _ ih | spare _ kept _ ih => exact .cons kept ih

theorem spared (h : Visited rs ns ns' w) (hk : w.length ≤ k) : ns'[k]? = ns[k]? ∨ ns'[k]? = rs[k]? := by
  induction h generalizing k with
  | nil => exact .inl rfl
  | visit _ _ ih =>
    cases k with
    | zero => cases hk
    | succ k => exact ih (Nat.le_of_succ_le_succ hk)
  | spare same _ _ ih =>
    cases k with
    | zero => exact same.imp (congrArg some) (congrArg some)
    | succ k => exact ih (Nat.zero_le k)

end Visited

/-! ## Statements that store nodes -/

/-- Inserts and updates are the statements that store nodes. -/
def Statement.stores : Statement → Bool
  | .insert _ => true
  | .update _ => true
  | _ => false

namespace Connection

variable {plan : Plan Statement} {c c' : Connection} {table : Table} {s : Statement}

/-- The statements that have been issued to store nodes. -/
def stores (c : Connection) : List Statement := c.issued.filter Statement.stores

theorem stores_of_issued (h : c'.issued = c.issued ++ [s]) (hs : s.stores = true) :
    c'.stores = c.stores ++ [s] := by
  rw [stores, stores, h, List.filter_append, List.filter_cons_of_pos hs, List.filter_nil]

theorem stores_of_other (h : c'.issued = c.issued ++ [s]) (hs : s.stores = false) :
    c'.stores = c.stores := by
  rw [stores, stores, h, List.filter_append, List.filter_cons_of_neg (by simp [hs]), List.filter_nil,
    List.append_nil]

theorem stores_issue {act : Connection → Except Failure α × Connection}
    (hact : ∀ c, (act c).2.issued = c.issued) (hs : s.stores = false) (l : List Statement) :
    (issue plan s act).Keeps (·.stores = l) :=
  fun _ hc => (stores_of_other (issue_issued hact rfl) hs).trans hc

theorem stores_query {read : Tables → Except Failure α} :
    (query plan table read c).2.stores = c.stores :=
  stores_of_other (issue_issued (fun _ => rfl) rfl) rfl

theorem stores_insert {change : Tables → Except Failure (Int × Tables)} :
    (insert plan table change c).2.stores = c.stores ++ [.insert table] :=
  stores_of_issued (issue_issued apply_issued rfl) rfl

theorem stores_update {change : Tables → Except Failure (Nat × Tables)} :
    (write plan (.update table) change c).2.stores = c.stores ++ [.update table] :=
  stores_of_issued write_issued rfl

theorem stores_delete {change : Tables → Except Failure (Nat × Tables)} :
    (write plan (.delete table) change c).2.stores = c.stores :=
  stores_of_other write_issued rfl

end Connection

/-! ## Traversals -/

/-- The entity of a run, and the statements issued so far to store nodes. -/
def traced (y : τ × Connection) : τ × List Statement := (y.1, y.2.stores)

/-- Whatever the outcome, the entity is left as it is and no node is stored. -/
def Attempt.Silent (a : Attempt (τ × Connection) α) : Prop := ∀ x, a.Keeps (traced · = x)

theorem silent_pure (b : α) : (pure b : Attempt (τ × Connection) α).Silent := fun _ => keeps_pure b

theorem silent_onSecond {a : Attempt Connection α} (h : ∀ l, a.Keeps (·.stores = l)) :
    (a.onSecond : Attempt (τ × Connection) α).Silent := by
  rintro x y rfl
  exact congrArg (y.1, ·) (h y.2.stores y.2 rfl)

theorem Attempt.Silent.bind {a : Attempt (τ × Connection) α} {f : α → Attempt (τ × Connection) β}
    (ha : a.Silent) (hf : ∀ b, (f b).Silent) : (a >>= f).Silent :=
  fun x => (ha x).bind fun b => hf b x

theorem Attempt.Silent.mapFailure {a : Attempt (τ × Connection) α}
    {g : τ × Connection → Failure → Failure} (ha : a.Silent) : (a.mapFailure g).Silent :=
  fun x => (ha x).mapFailure

/-- Whatever the outcome of a run on an entity, it has visited nodes of the entity in order, and all of them
if it has succeeded. -/
def Traverses (nodes : τ → List Node) (rs ns : List Node) (before : List Statement)
    (y : Except Failure α × (τ × Connection)) : Prop :=
  ∃ w, y.2.2.stores = before ++ w ∧ Visited rs ns (nodes y.2.1) w ∧
    (y.1.isOk = true → w.length = rs.length)

/-- A run has visited a node of an entity first, and then nodes below it. -/
structure Enters (own : τ → Node) (below : τ → List Node) (r : Node) (rs ns : List Node)
    (before : List Statement) (y : Except Failure α × (τ × Connection)) : Prop where
  traverses : Traverses below rs ns (before ++ [r.statement]) y
  kept : r.id ≠ 0 → (own y.2.1).detached = r.detached

section Traverses

variable {nodes prepared : τ → List Node} {own : τ → Node} {below : τ → List Node} {r r' : Node}
  {rs ns : List Node} {before : List Statement} {x : τ × Connection} {a : Attempt (τ × Connection) α}
  {f : α → Attempt (τ × Connection) β} {y : Except Failure α × (τ × Connection)}

theorem traverses_passed {t : τ} (h : Prepared rs (nodes t)) (ht : traced y.2 = (t, before))
    (hr : y.1.isOk = false) : Traverses nodes rs (nodes t) before y := by
  obtain ⟨rfl, rfl⟩ := Prod.mk.inj ht
  exact ⟨[], (List.append_nil _).symm, .passed h, fun hok => by simp [hr] at hok⟩

/-- Of a run only the nodes and the statements matter that it leaves, and whether it has succeeded. -/
theorem Traverses.transfer {ρ : Type} {nodes' : ρ → List Node} {z : Except Failure β × (ρ × Connection)}
    (h : Traverses nodes rs ns before y) (hnodes : nodes' z.2.1 = nodes y.2.1)
    (hstores : z.2.2.stores = y.2.2.stores) (hok : z.1.isOk = true → y.1.isOk = true) :
    Traverses nodes' rs ns before z := by
  obtain ⟨w, hw, hvisited, hall⟩ := h
  refine ⟨w, hstores.trans hw, ?_, fun hz => hall (hok hz)⟩
  rwa [hnodes]

theorem Traverses.mapFailure {g : τ × Connection → Failure → Failure}
    (h : Traverses nodes rs ns before (a x)) : Traverses nodes rs ns before (a.mapFailure g x) := by
  rcases ha : a x with ⟨e | b, y⟩ <;> rw [ha] at h
  · rwa [mapFailure_eq_error.mpr ⟨e, ha, rfl⟩]
  · rwa [mapFailure_eq_ok.mpr ha]

/-- A traversal may be silent at first. -/
theorem traverses_after {y : τ × Connection} (ha : a.Silent) (hprepared : Prepared rs (nodes y.1))
    (hf : ∀ b c, Traverses nodes rs (nodes y.1) c.stores (f b (y.1, c))) :
    Traverses nodes rs (nodes y.1) y.2.stores ((a >>= f) y) := by
  have htraced := ha (traced y) y rfl
  rcases h : a y with ⟨e | b, t, c⟩ <;> rw [h] at htraced
  · rw [bind_of_error h]
    exact traverses_passed hprepared htraced rfl
  · obtain ⟨rfl, hc⟩ := Prod.mk.inj htraced
    rw [bind_of_ok h, ← hc]
    exact hf b c

/-- A traversal may end in silence. -/
theorem Traverses.bind (h : Traverses nodes rs ns before (a x)) (hf : ∀ b, (f b).Silent) :
    Traverses nodes rs ns before ((a >>= f) x) := by
  rcases ha : a x with ⟨e | b, y⟩ <;> rw [ha] at h
  · rw [bind_of_error ha]
    exact h.transfer rfl rfl nofun
  · rw [bind_of_ok ha]
    obtain ⟨ht, hc⟩ := Prod.mk.inj (hf b (traced y) y rfl)
    exact h.transfer (congrArg nodes ht) hc fun _ => rfl

theorem Enters.whole (h : Enters own below r rs ns before y) (n : Node) :
    Traverses (fun t => own t :: below t) (r :: rs) (n :: ns) before y := by
  obtain ⟨w, hw, hvisited, hall⟩ := h.traverses
  refine ⟨r.statement :: w, ?_, .visit h.kept hvisited, fun hok => congrArg Nat.succ (hall hok)⟩
  rw [hw, List.append_assoc]
  rfl

/-- The parent that a node names does not matter. -/
theorem Enters.of_detached (h : Enters own below r rs ns before y) (hr : r.detached = r'.detached) :
    Enters own below r' rs ns before y where
  traverses := by
    rw [← Node.statement_of_detached hr]
    exact h.traverses
  kept hid := by
    rw [← Node.id_of_detached hr] at hid
    exact (h.kept hid).trans hr

theorem enters_of_error {e : Failure} (hstores : x.2.stores = before ++ [r.statement])
    (hspared : Visited rs ns (below x.1) []) (hkept : r.id ≠ 0 → (own x.1).detached = r.detached) :
    Enters own below r rs ns before ((.error e, x) : Except Failure α × (τ × Connection)) :=
  ⟨⟨[], hstores.trans (List.append_nil _).symm, hspared, nofun⟩, hkept⟩

/-- Once a node is stored, a run either stops there or goes on. -/
theorem enters_bind (hstores : (a x).2.2.stores = before ++ [r.statement])
    (hspared : Visited rs ns (below (a x).2.1) [])
    (hkept : r.id ≠ 0 → (own (a x).2.1).detached = r.detached)
    (hok : ∀ b y, a x = (.ok b, y) → Enters own below r rs ns before (f b y)) :
    Enters own below r rs ns before ((a >>= f) x) := by
  rcases h : a x with ⟨e | b, y⟩ <;> rw [h] at hstores hspared hkept
  · rw [bind_of_error h]
    exact enters_of_error hstores hspared hkept
  · rw [bind_of_ok h]
    exact hok b y h

theorem prepared_flatMap (h : ∀ t, Prepared (prepared t) (nodes t)) (ts : List τ) :
    Prepared (ts.flatMap prepared) (ts.flatMap nodes) := by
  induction ts with
  | nil => exact .nil
  | cons t ts ih =>
    rw [List.flatMap_cons, List.flatMap_cons]
    exact List.rel_append (h t) ih

/-- The members of a list are traversed one after the other. -/
theorem traverses_eachOf {a : Attempt (τ × Connection) Unit}
    (hprepared : ∀ t, Prepared (prepared t) (nodes t))
    (ha : ∀ t c, Traverses nodes (prepared t) (nodes t) c.stores (a (t, c))) (ts : List τ) (c : Connection) :
    Traverses (List.flatMap nodes) (ts.flatMap prepared) (ts.flatMap nodes) c.stores (eachOf a ts c) := by
  induction ts generalizing c with
  | nil => exact ⟨[], (List.append_nil _).symm, .nil, fun _ => rfl⟩
  | cons t ts ih =>
    obtain ⟨w, hw, hvisited, hall⟩ := ha t c
    rcases h : a (t, c) with ⟨e | _, u, c₁⟩ <;> rw [h] at hw hvisited hall
    · rw [eachOf_cons_of_error h]
      have hrest := hvisited.append (.passed (prepared_flatMap hprepared ts)) (.inr rfl)
      rw [List.append_nil] at hrest
      exact ⟨w, hw, hrest, nofun⟩
    · rw [eachOf_cons_of_ok h]
      obtain ⟨w₂, hw₂, hvisited₂, hall₂⟩ := ih c₁
      have hw : c₁.stores = c.stores ++ w := hw
      refine ⟨w ++ w₂, ?_, hvisited.append hvisited₂ (.inl (hall rfl)), fun hok => ?_⟩
      · rw [← List.append_assoc, ← hw]
        exact hw₂
      · rw [List.length_append, hall rfl, hall₂ hok, List.flatMap_cons, List.length_append]

end Traverses

end TriviaStore
