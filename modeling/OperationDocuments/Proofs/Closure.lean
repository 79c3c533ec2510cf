import Mathlib.Logic.Relation
import Mathlib.Data.List.Induction
import Mathlib.Data.List.Nodup
import OperationDocuments.Split

/-! # Closures and their order

A closure holds what can be reached, each name once, and lists it level by level. -/
namespace OperationDocuments.ReferenceMap

/-! ## What a closure holds

The closure of a name holds, each once, the names that can be reached from it in one or more
steps of the reference map. Cycles, references of a name to itself and names without an entry
are allowed. The search keeps one invariant: a reference out of a name that it has reached leads
to a name that it has reached or that waits in the frontier. -/

open Relation

variable {map : ReferenceMap} {reached frontier : List String} {a b : String}

def Refers (map : ReferenceMap) (a b : String) : Prop := b ∈ map.references a

/-- No reference out of the names reached so far is forgotten. -/
def Covered (map : ReferenceMap) (reached frontier : List String) : Prop :=
  ∀ a ∈ reached, ∀ b, map.Refers a b → b ∈ reached ∨ b ∈ frontier

theorem covered_next (h : map.Covered reached frontier) :
    map.Covered (reached ++ Names.fresh reached frontier)
      ((Names.fresh reached frontier).flatMap map.references) := by
  intro a ha b hb
  rcases List.mem_append.mp ha with ha | ha
  · rcases h a ha b hb with hr | hf
    · exact Or.inl (List.mem_append_left _ hr)
    · by_cases hr : b ∈ reached
      · exact Or.inl (List.mem_append_left _ hr)
      · exact Or.inl (List.mem_append_right _ (Names.mem_fresh.mpr ⟨hf, hr⟩))
  · exact Or.inr (List.mem_flatMap.mpr ⟨a, ha, hb⟩)

private theorem mem_level (h : a ∈ reached ∨ a ∈ frontier) :
    a ∈ reached ++ Names.fresh reached frontier := by
  by_cases hr : a ∈ reached
  · exact List.mem_append_left _ hr
  · exact List.mem_append_right _ (Names.mem_fresh.mpr ⟨h.resolve_left hr, hr⟩)

theorem mem_closeFrom_of_mem (h : a ∈ reached ∨ a ∈ frontier) :
    a ∈ map.closeFrom reached frontier := by
  fun_induction closeFrom map reached frontier with
  | case1 reached frontier level next done => exact mem_level h
  | case2 reached frontier level next more ih => exact ih (Or.inl (mem_level h))

theorem reachable_of_mem_closeFrom (h : b ∈ map.closeFrom reached frontier) :
    b ∈ reached ∨ ∃ a ∈ frontier, ReflTransGen map.Refers a b := by
  fun_induction closeFrom map reached frontier with
  | case1 reached frontier level next done =>
    rcases List.mem_append.mp h with hr | hl
    · exact Or.inl hr
    · exact Or.inr ⟨b, (Names.mem_fresh.mp hl).1, .refl⟩
  | case2 reached frontier level next more ih =>
    rcases ih h with h | ⟨c, hc, path⟩
    · rcases List.mem_append.mp h with hr | hl
      · exact Or.inl hr
      · exact Or.inr ⟨b, (Names.mem_fresh.mp hl).1, .refl⟩
    · obtain ⟨a, ha, edge⟩ := List.mem_flatMap.mp hc
      exact Or.inr ⟨a, (Names.mem_fresh.mp ha).1, .head edge path⟩

theorem closeFrom_closed (h : map.Covered reached frontier)
    (ha : a ∈ map.closeFrom reached frontier) (hb : map.Refers a b) :
    b ∈ map.closeFrom reached frontier := by
  fun_induction closeFrom map reached frontier with
  | case1 reached frontier level next done =>
    rcases covered_next h a ha b hb with hr | hf
    · exact hr
    · have hn : b ∈ next := hf
      rw [done] at hn
      exact absurd hn List.not_mem_nil
  | case2 reached frontier level next more ih => exact ih (covered_next h) ha

theorem nodup_closeFrom (h : reached.Nodup) : (map.closeFrom reached frontier).Nodup := by
  have level_nodup : ∀ {reached frontier : List String}, reached.Nodup →
      (reached ++ Names.fresh reached frontier).Nodup := by
    intro reached frontier h
    refine List.nodup_append.mpr ⟨h, Names.nodup_fresh _ _, ?_⟩
    intro a ha b hb hab
    exact (Names.mem_fresh.mp hb).2 (hab ▸ ha)
  fun_induction closeFrom map reached frontier with
  | case1 reached frontier level next done => exact level_nodup h
  | case2 reached frontier level next more ih => exact ih (level_nodup h)

theorem nodup_closure (map : ReferenceMap) (name : String) : (map.closure name).Nodup :=
  nodup_closeFrom List.nodup_nil

theorem mem_closure : b ∈ map.closure a ↔ TransGen map.Refers a b := by
  constructor
  · intro h
    rcases reachable_of_mem_closeFrom h with h | ⟨c, edge, path⟩
    · exact absurd h List.not_mem_nil
    · exact TransGen.head' edge path
  · intro h
    induction h with
    | single edge => exact mem_closeFrom_of_mem (Or.inr edge)
    | tail _ edge ih =>
      exact closeFrom_closed (fun a ha => absurd ha List.not_mem_nil) ih edge

end OperationDocuments.ReferenceMap

namespace OperationDocuments

/-! ## The order of a closure

A closure lists nearer names first. Names that are equally far away stand in the order in which
the names one step nearer, taken as they are listed, first mention them. A distance counts the
references on a shortest way and is one at least, so that the start has a distance of its own if it
lies on a cycle. The search keeps one invariant from round to round: what it has reached are the
names within a distance, in this order, and the frontier is what the last of them refer to. -/

theorem Names.fresh_concat (known names : List String) (last : String) :
    fresh known (names ++ [last]) =
      if last ∈ known then fresh known names else add (fresh known names) last := by
  unfold fresh
  rw [List.filter_append, List.foldl_append]
  by_cases h : last ∈ known <;> simp [h]

theorem Names.fresh_pairwise (known names : List String) :
    (fresh known names).Pairwise fun b c => names.idxOf b < names.idxOf c := by
  -- on the end of the list, since a name is new or not by what stands in front of it
  induction names using List.reverseRecOn with
  | nil => exact List.Pairwise.nil
  | append_singleton names last ih =>
    have mentioned : ∀ b ∈ fresh known names, b ∈ names := fun b hb => (mem_fresh.mp hb).1
    have kept : (fresh known names).Pairwise fun b c =>
        (names ++ [last]).idxOf b < (names ++ [last]).idxOf c := by
      refine ih.imp_of_mem fun {b c} hb hc before => ?_
      rwa [List.idxOf_append_of_mem (mentioned b hb), List.idxOf_append_of_mem (mentioned c hc)]
    rw [fresh_concat]
    split
    · exact kept
    · next unknown =>
      unfold add
      split
      · exact kept
      · next absent =>
        have new : last ∉ names := by
          intro before
          exact absent (by simpa using mem_fresh.mpr ⟨before, unknown⟩)
        refine List.pairwise_append.mpr ⟨kept, List.pairwise_singleton _ _, ?_⟩
        intro b hb c hc
        obtain rfl := List.mem_singleton.mp hc
        rw [List.idxOf_append_of_mem (mentioned b hb), List.idxOf_append_of_notMem new]
        have := List.idxOf_lt_length_of_mem (mentioned b hb)
        omega

namespace ReferenceMap

open Relation

def ends (map : ReferenceMap) (start : String) : Nat → List String
  | 0 => [start]
  | n + 1 => (map.ends start n).flatMap map.references

/-- The least number of references, one at least, that lead to a name. -/
def IsDistance (map : ReferenceMap) (start name : String) (n : Nat) : Prop :=
  0 < n ∧ name ∈ map.ends start n ∧ ∀ m < n, 0 < m → name ∉ map.ends start m

instance (map : ReferenceMap) (start name : String) (n : Nat) :
    Decidable (map.IsDistance start name n) :=
  inferInstanceAs (Decidable (_ ∧ _ ∧ _))

def level (map : ReferenceMap) (start : String) (names : List String) : Nat → List String
  | 0 => [start]
  | n + 1 => names.filter (map.IsDistance start · (n + 1))

/-- What a level mentions, its names taken in order. -/
def mentions (map : ReferenceMap) (start : String) (names : List String) (n : Nat) :
    List String :=
  (map.level start names n).flatMap map.references

/-- The names that a start leads to, each once, nearer ones first, and of those at one distance the
one first that is mentioned first. -/
structure IsBreadthFirst (map : ReferenceMap) (start : String) (names : List String) : Prop where
  distinct : names.Nodup
  reachable : ∀ b, b ∈ names ↔ TransGen map.Refers start b
  distant : ∀ b, b ∈ names ↔ ∃ n, map.IsDistance start b n
  nearer_first : names.Pairwise fun b c =>
    ∀ m n, map.IsDistance start b m → map.IsDistance start c n → m ≤ n
  mentioned : ∀ n, ∀ b ∈ map.level start names (n + 1), b ∈ map.mentions start names n
  mentioned_first : ∀ n, (map.level start names (n + 1)).Pairwise fun b c =>
    (map.mentions start names n).idxOf b < (map.mentions start names n).idxOf c

/-- A name is nearer than another, or as far away and mentioned earlier. -/
def Precedes (map : ReferenceMap) (start : String) (names : List String) (b c : String) : Prop :=
  (∀ m n, map.IsDistance start b m → map.IsDistance start c n → m ≤ n) ∧
    ∀ n, map.IsDistance start b (n + 1) → map.IsDistance start c (n + 1) →
      (map.mentions start names n).idxOf b < (map.mentions start names n).idxOf c

variable {map : ReferenceMap} {start b c : String} {names reached frontier : List String}
  {m n : Nat}

theorem IsDistance.unique (h : map.IsDistance start b m) (k : map.IsDistance start b n) :
    m = n := by
  obtain ⟨posm, walkm, leastm⟩ := h
  obtain ⟨posn, walkn, leastn⟩ := k
  rcases Nat.lt_trichotomy m n with lt | eq | gt
  · exact absurd walkm (leastn m lt posm)
  · exact eq
  · exact absurd walkn (leastm n gt posn)

theorem exists_isDistance (pos : 0 < n) (h : b ∈ map.ends start n) :
    ∃ m ≤ n, map.IsDistance start b m := by
  induction n using Nat.strongRecOn with
  | ind n ih =>
    by_cases shorter : ∃ m < n, 0 < m ∧ b ∈ map.ends start m
    · obtain ⟨m, lt, posm, walk⟩ := shorter
      obtain ⟨k, le, dist⟩ := ih m lt posm walk
      exact ⟨k, by omega, dist⟩
    · refine ⟨n, Nat.le_refl n, pos, h, fun m lt posm walk => ?_⟩
      exact shorter ⟨m, lt, posm, walk⟩

theorem transGen_of_mem_ends (pos : 0 < n) (h : b ∈ map.ends start n) :
    TransGen map.Refers start b := by
  induction n generalizing b with
  | zero => exact absurd pos (Nat.lt_irrefl 0)
  | succ n ih =>
    obtain ⟨a, ha, edge⟩ := List.mem_flatMap.mp h
    rcases Nat.eq_zero_or_pos n with rfl | more
    · obtain rfl := List.mem_singleton.mp ha
      exact .single edge
    · exact .tail (ih more ha) edge

theorem mem_level_succ : b ∈ map.level start names (n + 1) ↔
    b ∈ names ∧ map.IsDistance start b (n + 1) := by
  simp [level]

theorem mem_ends_of_mem_level (h : b ∈ map.level start names n) : b ∈ map.ends start n := by
  cases n with
  | zero => exact h
  | succ n => exact (mem_level_succ.mp h).2.2.1

theorem IsDistance.mem_mentions (h : map.IsDistance start b (n + 1))
    (listed : ∀ a, map.IsDistance start a n → a ∈ names) : b ∈ map.mentions start names n := by
  obtain ⟨-, walk, least⟩ := h
  obtain ⟨a, ha, edge⟩ := List.mem_flatMap.mp walk
  refine List.mem_flatMap.mpr ⟨a, ?_, edge⟩
  cases n with
  | zero => exact ha
  | succ n =>
    have nearer : map.IsDistance start a (n + 1) := by
      refine ⟨Nat.succ_pos n, ha, fun m lt pos shorter => ?_⟩
      exact least (m + 1) (by omega) (by omega) (List.mem_flatMap.mpr ⟨a, shorter, edge⟩)
    exact mem_level_succ.mpr ⟨listed a nearer, nearer⟩

/-- What the search knows after `n` rounds. -/
structure Searched (map : ReferenceMap) (start : String) (n : Nat)
    (reached frontier : List String) : Prop where
  within : ∀ b, b ∈ reached ↔ ∃ m ≤ n, map.IsDistance start b m
  waiting : frontier = map.mentions start reached n
  nearer_first : reached.Pairwise fun b c =>
    ∀ m n, map.IsDistance start b m → map.IsDistance start c n → m ≤ n
  mentioned_first : ∀ m < n, (map.level start reached (m + 1)).Pairwise fun b c =>
    (map.mentions start reached m).idxOf b < (map.mentions start reached m).idxOf c

namespace Searched

theorem begin (map : ReferenceMap) (start : String) :
    Searched map start 0 [] (map.references start) where
  within b := by
    constructor
    · intro h
      cases h
    · rintro ⟨m, le, pos, -⟩
      omega
  waiting := by simp [mentions, level]
  nearer_first := List.Pairwise.nil
  mentioned_first m lt := absurd lt (Nat.not_lt_zero m)

theorem mem_fresh_iff (h : Searched map start n reached frontier) :
    b ∈ Names.fresh reached frontier ↔ map.IsDistance start b (n + 1) := by
  rw [Names.mem_fresh, h.waiting, h.within]
  constructor
  · rintro ⟨waits, new⟩
    obtain ⟨a, ha, edge⟩ := List.mem_flatMap.mp waits
    refine ⟨by omega, List.mem_flatMap.mpr ⟨a, mem_ends_of_mem_level ha, edge⟩, ?_⟩
    intro m lt pos walk
    obtain ⟨k, le, dist⟩ := exists_isDistance pos walk
    exact new ⟨k, by omega, dist⟩
  · intro dist
    refine ⟨dist.mem_mentions fun a nearer => (h.within a).mpr ⟨n, Nat.le_refl n, nearer⟩, ?_⟩
    rintro ⟨m, le, nearer⟩
    have := nearer.unique dist
    omega

theorem level_next (h : Searched map start n reached frontier) (le : m ≤ n) :
    map.level start (reached ++ Names.fresh reached frontier) m = map.level start reached m := by
  cases m with
  | zero => rfl
  | succ m =>
    have apart : ∀ b ∈ Names.fresh reached frontier, ¬map.IsDistance start b (m + 1) := by
      intro b hb nearer
      have := nearer.unique (h.mem_fresh_iff.mp hb)
      omega
    have none : (Names.fresh reached frontier).filter (map.IsDistance start · (m + 1)) = [] :=
      List.filter_eq_nil_iff.mpr (by simpa using apart)
    rw [level, List.filter_append, none, List.append_nil, level]

theorem level_new (h : Searched map start n reached frontier) :
    map.level start (reached ++ Names.fresh reached frontier) (n + 1) =
      Names.fresh reached frontier := by
  have apart : ∀ b ∈ reached, ¬map.IsDistance start b (n + 1) := by
    intro b hb farther
    obtain ⟨m, le, nearer⟩ := (h.within b).mp hb
    have := nearer.unique farther
    omega
  have all : ∀ b ∈ Names.fresh reached frontier, map.IsDistance start b (n + 1) :=
    fun b hb => h.mem_fresh_iff.mp hb
  have none : reached.filter (map.IsDistance start · (n + 1)) = [] :=
    List.filter_eq_nil_iff.mpr (by simpa using apart)
  rw [level, List.filter_append, none, List.nil_append]
  exact List.filter_eq_self.mpr (by simpa using all)

theorem next (h : Searched map start n reached frontier) :
    Searched map start (n + 1) (reached ++ Names.fresh reached frontier)
      ((Names.fresh reached frontier).flatMap map.references) where
  within b := by
    rw [List.mem_append, h.within, h.mem_fresh_iff]
    constructor
    · rintro (⟨m, le, dist⟩ | dist)
      · exact ⟨m, by omega, dist⟩
      · exact ⟨n + 1, Nat.le_refl _, dist⟩
    · rintro ⟨m, le, dist⟩
      rcases Nat.lt_or_eq_of_le le with lt | rfl
      · exact Or.inl ⟨m, by omega, dist⟩
      · exact Or.inr dist
  waiting := by rw [mentions, h.level_new]
  nearer_first := by
    refine List.pairwise_append.mpr ⟨h.nearer_first, ?_, ?_⟩
    · refine (Names.nodup_fresh _ _).pairwise_of_forall_ne fun b hb c hc _ k l distb distc => ?_
      have := distb.unique (h.mem_fresh_iff.mp hb)
      have := distc.unique (h.mem_fresh_iff.mp hc)
      omega
    · intro b hb c hc k l distb distc
      obtain ⟨m, le, nearer⟩ := (h.within b).mp hb
      have := distb.unique nearer
      have := distc.unique (h.mem_fresh_iff.mp hc)
      omega
  mentioned_first m lt := by
    have before : map.mentions start (reached ++ Names.fresh reached frontier) m =
        map.mentions start reached m := by
      rw [mentions, h.level_next (by omega), mentions]
    rw [before]
    rcases Nat.lt_or_eq_of_le (Nat.le_of_lt_succ lt) with earlier | rfl
    · rw [h.level_next earlier]
      exact h.mentioned_first m earlier
    · rw [h.level_new, ← h.waiting]
      exact Names.fresh_pairwise reached frontier

theorem closeFrom (reached frontier : List String) :
    ∀ n, Searched map start n reached frontier →
      ∃ m, Searched map start m (map.closeFrom reached frontier) [] := by
  fun_induction ReferenceMap.closeFrom map reached frontier with
  | case1 reached frontier level next done =>
    intro n h
    have last : Searched map start (n + 1) (reached ++ level) next := h.next
    rw [done] at last
    exact ⟨n + 1, last⟩
  | case2 reached frontier level next more ih =>
    intro n h
    exact ih (n + 1) h.next

end Searched

namespace IsBreadthFirst

variable {other : List String}

theorem level_eq (h : map.IsBreadthFirst start names) (k : map.IsBreadthFirst start other)
    (n : Nat) : map.level start names n = map.level start other n := by
  induction n with
  | zero => rfl
  | succ n ih =>
    have same : map.mentions start names n = map.mentions start other n := by
      rw [mentions, ih, mentions]
    have distinct : ∀ {list : List String}, list.Nodup →
        (map.level start list (n + 1)).Nodup := fun d => d.filter _
    have members : (map.level start names (n + 1)).Perm (map.level start other (n + 1)) := by
      refine (List.perm_ext_iff_of_nodup (distinct h.distinct) (distinct k.distinct)).mpr ?_
      intro b
      rw [mem_level_succ, mem_level_succ, h.reachable, k.reachable]
    refine members.eq_of_pairwise ?_ (h.mentioned_first n) (same ▸ k.mentioned_first n)
    intro b c _ _ before after
    exact absurd before (Nat.lt_asymm after)

theorem pairwise_precedes (h : map.IsBreadthFirst start names)
    (k : map.IsBreadthFirst start other) : other.Pairwise (map.Precedes start names) := by
  refine k.nearer_first.and (List.pairwise_iff_forall_sublist.mpr ?_)
  intro b c inside n distb distc
  have both : [b, c].Sublist (map.level start other (n + 1)) := by
    simpa [level, distb, distc] using inside.filter (map.IsDistance start · (n + 1))
  have same : map.mentions start names n = map.mentions start other n := by
    rw [mentions, h.level_eq k, mentions]
  rw [same]
  exact List.pairwise_iff_forall_sublist.mp (k.mentioned_first n) both

/-- No other list is in this order. -/
theorem unique (h : map.IsBreadthFirst start names) (k : map.IsBreadthFirst start other) :
    names = other := by
  have members : names.Perm other :=
    (List.perm_ext_iff_of_nodup h.distinct k.distinct).mpr fun b => by
      rw [h.reachable, k.reachable]
  refine members.eq_of_pairwise ?_ (h.pairwise_precedes h) (h.pairwise_precedes k)
  intro b c hb hc before after
  obtain ⟨m, distb⟩ := (h.distant b).mp hb
  obtain ⟨n, distc⟩ := (k.distant c).mp hc
  obtain rfl : m = n := Nat.le_antisymm (before.1 m n distb distc) (after.1 n m distc distb)
  obtain ⟨m, rfl⟩ := Nat.exists_eq_succ_of_ne_zero (Nat.ne_of_gt distb.1)
  exact absurd (before.2 m distb distc) (Nat.lt_asymm (after.2 m distc distb))

end IsBreadthFirst

theorem isBreadthFirst_closure (map : ReferenceMap) (start : String) :
    map.IsBreadthFirst start (map.closure start) := by
  obtain ⟨rounds, searched⟩ := Searched.closeFrom [] (map.references start) 0 (.begin map start)
  have listed : ∀ {b n}, map.IsDistance start b n → b ∈ map.closure start :=
    fun dist => mem_closure.mpr (transGen_of_mem_ends dist.1 dist.2.1)
  refine ⟨nodup_closure map start, fun b => mem_closure, fun b => ?_, searched.nearer_first,
    fun n b hb => (mem_level_succ.mp hb).2.mem_mentions fun a => listed, fun n => ?_⟩
  · constructor
    · intro hb
      obtain ⟨n, -, dist⟩ := (searched.within b).mp hb
      exact ⟨n, dist⟩
    · rintro ⟨n, dist⟩
      exact listed dist
  · by_cases searchedFor : n < rounds
    · exact searched.mentioned_first n searchedFor
    · -- no name is that far away
      have empty : map.level start (map.closure start) (n + 1) = [] := by
        refine List.eq_nil_iff_forall_not_mem.mpr fun b hb => ?_
        obtain ⟨inside, dist⟩ := mem_level_succ.mp hb
        obtain ⟨m, le, nearer⟩ := (searched.within b).mp inside
        have := nearer.unique dist
        omega
      rw [empty]
      exact List.Pairwise.nil

/-- A closure is found for every map, with cycles, repetitions and names without an entry, and it
is the one list that is in breadth-first order. -/
theorem isBreadthFirst_iff_closure (map : ReferenceMap) (start : String) (names : List String) :
    map.IsBreadthFirst start names ↔ map.closure start = names := by
  constructor
  · intro h
    exact (isBreadthFirst_closure map start).unique h
  · rintro rfl
    exact isBreadthFirst_closure map start

example : ReferenceMap.closure
    [("a", ["c", "b", "c"]), ("b", ["d", "a"]), ("c", ["x", "d"]), ("d", ["d"])] "a" =
      ["c", "b", "x", "d", "a"] := by
  decide +kernel

end ReferenceMap

end OperationDocuments
