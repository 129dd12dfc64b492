import TriviaStore.Log.Routing
import Mathlib.Data.List.Induction
import Mathlib.Data.List.Infix
import Mathlib.Data.List.TakeWhile

/-! # Who is above a logger

Every ancestor of a logger is a beginning of its name. Whether a beginning is an ancestor depends on
the dots right behind it alone: after one dot it is one, and after several that depends on whether there
are loggers named like it with some of these dots.
-/

namespace TriviaStore.Log

/-- A name with dots behind it. -/
def dotted (top : String) (dots : Nat) : String :=
  String.ofList (top.toList ++ List.replicate dots '.')

/-- Whether a logger whose name goes on behind `top` with this many dots is found to be below it. The
last of several dots leads to the logger named with the others, if there is one, and otherwise past
the dot before it. -/
def linked (existing : List String) (top : String) : Nat → Bool
  | 0 => false
  | 1 => true
  | n + 2 =>
    if dotted top (n + 1) ∈ existing then linked existing top (n + 1) else linked existing top n

/-- The dots right behind `top` in a name that begins with it. -/
def dotsBehind (top name : String) : Nat :=
  ((name.toList.drop top.toList.length).takeWhile (· == '.')).length

/-- Whether a name is `top` or found to be below it. -/
def isBelow (existing : List String) (top name : String) : Bool :=
  name == top || (top.toList.isPrefixOf name.toList && linked existing top (dotsBehind top name))

/-- Whether a name is `top` or goes on behind it with a dot. -/
def namesBelow (top name : String) : Bool :=
  name == top || (dotted top 1).toList.isPrefixOf name.toList

variable {existing : List String} {top name : String}

/-! ## Names -/

theorem replicate_isPrefix_iff {c : Char} {n : Nat} {s : List Char} :
    List.replicate n c <+: s ↔ n ≤ (s.takeWhile (· == c)).length := by
  induction s generalizing n with
  | nil => simp
  | cons d s ih =>
    cases n with
    | zero => simp
    | succ n =>
      by_cases hd : d = c
      · subst hd
        simp [List.replicate_succ, List.cons_prefix_cons, ih]
      · simp [List.replicate_succ, List.cons_prefix_cons, hd, Ne.symm hd]

theorem dotted_isPrefix_iff {n : Nat} : (dotted top n).toList <+: name.toList ↔
    top.toList <+: name.toList ∧ n ≤ dotsBehind top name := by
  rw [dotted, String.toList_ofList, dotsBehind]
  constructor
  · intro h
    obtain ⟨rest, hrest⟩ := (List.prefix_append _ _).trans h
    rw [← hrest] at h ⊢
    rw [List.drop_left]
    exact ⟨List.prefix_append _ _, replicate_isPrefix_iff.mp ((List.prefix_append_right_inj _).mp h)⟩
  · rintro ⟨⟨rest, hrest⟩, h⟩
    rw [← hrest] at h ⊢
    rw [List.drop_left] at h
    exact (List.prefix_append_right_inj _).mpr (replicate_isPrefix_iff.mpr h)

theorem isBelow_iff : isBelow existing top name = true ↔
    name = top ∨ top.toList <+: name.toList ∧ linked existing top (dotsBehind top name) = true := by
  simp [isBelow]

theorem isPrefix_of_isBelow (h : isBelow existing top name = true) : top.toList <+: name.toList := by
  obtain rfl | ⟨hbegins, -⟩ := isBelow_iff.mp h
  · exact List.prefix_rfl
  · exact hbegins

/-- Where no two dots stand right behind `top`, the name tells whether a logger is below it. -/
theorem isBelow_eq_namesBelow (h : ¬ (dotted top 2).toList <+: name.toList) :
    isBelow existing top name = namesBelow top name := by
  rw [Bool.eq_iff_iff, isBelow_iff, namesBelow, Bool.or_eq_true, beq_iff_eq, List.isPrefixOf_iff_prefix,
    dotted_isPrefix_iff]
  refine or_congr_right (and_congr_right fun hbegins => ?_)
  have hfew : ¬ 2 ≤ dotsBehind top name := fun hdots => h (dotted_isPrefix_iff.mpr ⟨hbegins, hdots⟩)
  match hdots : dotsBehind top name, hfew with
  | 0, _ => simp [linked]
  | 1, _ => simp [linked]
  | n + 2, hfew => exact absurd (Nat.le_add_left 2 n) hfew

/-- Loggers whose names do not end in dots are of no account. -/
theorem linked_append {others : List String} (h : ∀ n, dotted top (n + 1) ∉ others) (n : Nat) :
    linked (others ++ existing) top n = linked existing top n := by
  fun_induction linked existing top n with
  | case1 => rfl
  | case2 => rfl
  | case3 n hexists ih => rw [linked, if_pos (List.mem_append_right _ hexists), ih]
  | case4 n hexists ih =>
    rw [linked, if_neg fun hmem => (List.mem_append.mp hmem).elim (h n) hexists, ih]

theorem isBelow_append {others : List String} (h : ∀ n, dotted top (n + 1) ∉ others) (name : String) :
    isBelow (others ++ existing) top name = isBelow existing top name := by
  rw [isBelow, isBelow, linked_append h]

namespace Loggers

/-! ## Ancestors -/

variable {s t : List Char}

theorem ancestors_dot (existing : List String) (c : Char) (s : List Char) :
    ancestors existing ('.' :: c :: s) =
      if String.ofList (c :: s).reverse ∈ existing then
        String.ofList (c :: s).reverse :: ancestors existing (c :: s)
      else ancestors existing s := rfl

theorem ancestors_of_ne {c : Char} (h : c ≠ '.') :
    ancestors existing (c :: s) = ancestors existing s := by
  rw [ancestors]
  exact fun _ _ hc => absurd hc h

theorem ancestors_of_notMem (h : '.' ∉ s) : ancestors existing s = [] := by
  induction s with
  | nil => rfl
  | cons c s ih =>
    obtain ⟨hc, hs⟩ := not_or.mp (mt List.mem_cons.mpr h)
    rw [ancestors_of_ne (Ne.symm hc), ih hs]

theorem isSuffix_of_mem_ancestors {n : String} (h : n ∈ ancestors existing s) :
    n.toList.reverse <:+ s := by
  fun_induction ancestors existing s with
  | case1 c s beginning _ ih =>
    obtain rfl | hn := List.mem_cons.mp h
    · simp only [beginning, String.toList_ofList, List.reverse_reverse]
      exact List.suffix_cons _ _
    · exact (ih hn).trans (List.suffix_cons _ _)
  | case2 c s beginning _ ih =>
    exact (ih h).trans ((List.suffix_cons c s).trans (List.suffix_cons _ _))
  | case3 c s hdot ih => exact (ih h).trans (List.suffix_cons _ _)
  | case4 => cases h

/-- A beginning that is longer than `top` is not `top`. -/
theorem ofList_reverse_ne {c : Char} (h : top.toList.length ≤ s.length) :
    String.ofList (c :: s).reverse ≠ top := by
  rintro rfl
  simp only [String.toList_ofList, List.length_reverse, List.length_cons] at h
  omega

/-- What stands behind the dots does not matter. -/
theorem mem_ancestors_append (ht : top.toList.length ≤ t.length) (hs : s.getLast? ≠ some '.') :
    top ∈ ancestors existing (s ++ t) ↔ top ∈ ancestors existing t := by
  -- A dot may lead past the next character, so two of them are taken at a time.
  induction s using List.twoStepInduction with
  | nil => rfl
  | singleton c => rw [List.singleton_append, ancestors_of_ne (by simpa using hs)]
  | cons_cons c d s ih ih' =>
    have hd : (d :: s).getLast? ≠ some '.' := by rwa [List.getLast?_cons_cons] at hs
    by_cases hc : c = '.'
    · subst hc
      have hlonger : String.ofList (d :: (s ++ t)).reverse ≠ top :=
        ofList_reverse_ne (ht.trans (by simp))
      rw [List.cons_append, List.cons_append, ancestors_dot]
      split
      · rw [List.mem_cons, or_iff_right hlonger.symm]
        exact ih' d hd
      · refine ih ?_
        cases s with
        | nil => simp
        | cons => rwa [List.getLast?_cons_cons] at hd
    · rw [List.cons_append, ancestors_of_ne hc]
      exact ih' d hd

theorem mem_ancestors_dots (htop : '.' ∉ top.toList) (hne : top.toList ≠ []) (hexists : top ∈ existing)
    (n : Nat) : top ∈ ancestors existing (List.replicate n '.' ++ top.toList.reverse) ↔
      linked existing top n := by
  have hnodot : '.' ∉ top.toList.reverse := by simpa using htop
  have hdotted : ∀ n, String.ofList ('.' :: (List.replicate n '.' ++ top.toList.reverse)).reverse =
      dotted top (n + 1) := fun n => by simp [dotted, List.replicate_succ']
  have hlonger : ∀ n, top ≠ dotted top (n + 1) := fun n =>
    (hdotted n ▸ ofList_reverse_ne (by simp)).symm
  fun_induction linked existing top n with
  | case1 => simp [ancestors_of_notMem hnodot]
  | case2 =>
    obtain ⟨c, s, hcs⟩ := List.exists_cons_of_ne_nil (List.reverse_ne_nil_iff.mpr hne)
    have hself : String.ofList (c :: s).reverse = top := by rw [← hcs]; simp
    rw [hcs, List.replicate_one, List.singleton_append, ancestors_dot, if_pos (hself ▸ hexists)]
    exact iff_of_true (hself ▸ List.mem_cons_self) rfl
  | case3 n h ih =>
    rw [List.replicate_succ, List.replicate_succ, List.cons_append, List.cons_append, ancestors_dot,
      hdotted, if_pos h, List.mem_cons, or_iff_right (hlonger n)]
    exact ih
  | case4 n h ih =>
    rw [List.replicate_succ, List.replicate_succ, List.cons_append, List.cons_append, ancestors_dot,
      hdotted, if_neg h]
    exact ih

/-- A logger that exists, with nothing but the root above it. -/
structure Uppermost (existing : List String) (top : String) : Prop where
  mem : top ∈ existing
  dot_notMem : '.' ∉ top.toList
  not_isPrefix_root : ¬ top.toList <+: rootName.toList

theorem Uppermost.ne_nil (h : Uppermost existing top) : top.toList ≠ [] := fun hnil =>
  h.not_isPrefix_root (hnil ▸ List.nil_prefix)

theorem Uppermost.mem_ancestors_iff (h : Uppermost existing top) (hbegins : top.toList <+: name.toList) :
    top ∈ ancestors existing name.toList.reverse ↔ linked existing top (dotsBehind top name) = true := by
  obtain ⟨rest, hrest⟩ := hbegins
  have hdots : rest.takeWhile (· == '.') = List.replicate (dotsBehind top name) '.' := by
    rw [dotsBehind, ← hrest, List.drop_left]
    exact List.eq_replicate_iff.mpr ⟨rfl, fun c hc => by simpa using List.mem_takeWhile_imp hc⟩
  have hreverse : name.toList.reverse = (rest.dropWhile (· == '.')).reverse ++
      (List.replicate (dotsBehind top name) '.' ++ top.toList.reverse) := by
    have hsplit : rest.reverse = (rest.dropWhile (· == '.')).reverse ++ (rest.takeWhile (· == '.')).reverse := by
      rw [← List.reverse_append, List.takeWhile_append_dropWhile]
    rw [← hrest, List.reverse_append, hsplit, hdots, List.reverse_replicate, List.append_assoc]
  have hbehind : (rest.dropWhile (· == '.')).reverse.getLast? ≠ some '.' := by
    intro hdot
    rw [List.getLast?_reverse] at hdot
    have := List.head?_dropWhile_not (· == '.') rest
    simp [hdot] at this
  rw [hreverse, mem_ancestors_append (by simp) hbehind,
    mem_ancestors_dots h.dot_notMem h.ne_nil h.mem]

theorem isPrefix_of_mem_ancestors (h : top ∈ ancestors existing name.toList.reverse) :
    top.toList <+: name.toList := List.reverse_suffix.mp (isSuffix_of_mem_ancestors h)

/-- A logger is among the ancestors of those that are found to be below it. -/
theorem Uppermost.mem_lineage_iff (h : Uppermost existing top) :
    top ∈ lineage existing name ↔ isBelow existing top name = true := by
  rw [lineage]
  split
  case isTrue hroot =>
    have hbegins : ¬ top.toList <+: name.toList := by
      obtain rfl | rfl := hroot
      · exact fun hnil => h.ne_nil (List.prefix_nil.mp hnil)
      · exact h.not_isPrefix_root
    exact iff_of_false List.not_mem_nil (mt isPrefix_of_isBelow hbegins)
  case isFalse =>
    rw [List.mem_cons, isBelow_iff, eq_comm (a := top)]
    refine or_congr_right ⟨fun hmem => ?_, fun hlinked => (h.mem_ancestors_iff hlinked.1).mpr hlinked.2⟩
    have hbegins := isPrefix_of_mem_ancestors hmem
    exact ⟨hbegins, (h.mem_ancestors_iff hbegins).mp hmem⟩

end Loggers

end TriviaStore.Log
