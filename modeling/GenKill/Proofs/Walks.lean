import GenKill.Proofs.Solution
import Mathlib.Data.List.Chain

/-!
# Out sets and walks

A fact is missing from an out set for a reason that shows on a walk against the
flow: the walk ends where the fact is lost or where nothing flows in, and the
fact is made nowhere on it.  A fact that was missing at first is also kept out
by a walk that turns in a circle without passing a node that makes it.
-/

namespace GenKill

namespace Strand

variable (strand : Strand)

/-- A walk against the flow: each node is followed by one that flows into it. -/
def IsWalk (start : Nat) (walk : List Nat) : Prop :=
  walk.head? = some start ∧ walk.IsChain fun node next =>
    next ∈ strand.sources node

def GenFree (walk : List Nat) : Prop := ∀ node ∈ walk, strand.made node = false

/-- The fact is made nowhere on the walk, and does not flow out of its last
node. -/
def Blocking (walk : List Nat) : Prop :=
  strand.GenFree walk ∧
    ∃ last,
      walk.getLast? = some last ∧
        (strand.lost last = true ∨ strand.sources last = [])

/-- A walk from the node blocks the fact. -/
def Blocked (start : Nat) : Prop :=
  ∃ walk, strand.IsWalk start walk ∧ strand.Blocking walk

/-- A walk from the node visits some node twice without making the fact. -/
def Circling (start : Nat) : Prop :=
  ∃ walk, strand.IsWalk start walk ∧ strand.GenFree walk ∧ ¬ walk.Nodup

variable {strand} {start other : Nat} {walk : List Nat}

theorem isWalk_singleton (start : Nat) : strand.IsWalk start [start] :=
  ⟨rfl, .singleton start⟩

theorem IsWalk.ne_nil (hwalk : strand.IsWalk start walk) : walk ≠ [] := by
  rintro rfl
  simp [IsWalk] at hwalk

theorem IsWalk.cons (hwalk : strand.IsWalk other walk)
    (hother : other ∈ strand.sources start) :
    strand.IsWalk start (start :: walk) := by
  refine ⟨rfl, hwalk.2.cons fun node hnode => ?_⟩
  rw [hwalk.1, Option.mem_some_iff] at hnode
  rwa [← hnode]

/-- A walk is its first node, or goes on from a node that flows into it. -/
theorem IsWalk.cases_on (hwalk : strand.IsWalk start walk) :
    walk = [start] ∨
      ∃ next rest, walk = start :: rest ∧ next ∈ strand.sources start ∧
        strand.IsWalk next rest := by
  obtain ⟨rest, rfl⟩ := List.head?_eq_some_iff.mp hwalk.1
  cases rest with
  | nil => exact .inl rfl
  | cons next tail =>
      have hchain := List.isChain_cons_cons.mp hwalk.2
      exact .inr ⟨next, next :: tail, rfl, hchain.1, rfl, hchain.2⟩

theorem IsWalk.lt_size (hwalk : strand.IsWalk start walk)
    (hstart : start < strand.size) : ∀ node ∈ walk, node < strand.size := by
  induction walk generalizing start with
  | nil => simp
  | cons head tail ih =>
      intro node hnode
      rcases hwalk.cases_on with hsingle | ⟨next, rest, hcons, hnext, hrest⟩
      · rw [hsingle, List.mem_singleton] at hnode
        exact hnode ▸ hstart
      · obtain ⟨rfl, rfl⟩ := List.cons.inj hcons
        rcases List.mem_cons.mp hnode with rfl | hnode
        · exact hstart
        · exact ih hrest (strand.sources_lt hnext) node hnode

theorem genFree_cons (node : Nat) (walk : List Nat) :
    strand.GenFree (node :: walk) ↔
      strand.made node = false ∧ strand.GenFree walk :=
  List.forall_mem_cons

theorem blocking_cons (node : Nat) (hwalk : walk ≠ []) :
    strand.Blocking (node :: walk) ↔
      strand.made node = false ∧ strand.Blocking walk := by
  obtain ⟨head, tail, rfl⟩ := List.exists_cons_of_ne_nil hwalk
  rw [Blocking, Blocking, genFree_cons, List.getLast?_cons_cons, and_assoc]

/-! ### Reasons one step further -/

/-- A node that does not make the fact is blocked if it loses it, if nothing
flows into it, or if one of its sources is blocked. -/
theorem blocked_iff (start : Nat) :
    strand.Blocked start ↔
      strand.made start = false ∧
        (strand.lost start = true ∨ strand.sources start = [] ∨
          ∃ next ∈ strand.sources start, strand.Blocked next) := by
  constructor
  · rintro ⟨walk, hwalk, hblocking⟩
    rcases hwalk.cases_on with rfl | ⟨next, rest, rfl, hnext, hrest⟩
    · obtain ⟨hfree, last, hlast, hend⟩ := hblocking
      cases hlast
      exact ⟨hfree start (by simp), hend.imp_right .inl⟩
    · obtain ⟨hmade, hblocking⟩ :=
        (blocking_cons start hrest.ne_nil).mp hblocking
      exact ⟨hmade, .inr (.inr ⟨next, hnext, rest, hrest, hblocking⟩)⟩
  · have hhere : strand.made start = false →
        (strand.lost start = true ∨ strand.sources start = []) →
        strand.Blocked start :=
      fun hmade hend =>
        ⟨[start], isWalk_singleton start, by simpa [GenFree] using hmade,
          start, rfl, hend⟩
    rintro ⟨hmade, hlost | hsources | ⟨next, hnext, walk, hwalk, hblocking⟩⟩
    · exact hhere hmade (.inl hlost)
    · exact hhere hmade (.inr hsources)
    · exact ⟨start :: walk, hwalk.cons hnext,
        (blocking_cons start hwalk.ne_nil).mpr ⟨hmade, hblocking⟩⟩

/-- A walk that comes back to where it left from can turn in the circle once
more. -/
theorem circling_of_mem {next : Nat} (hwalk : strand.IsWalk next walk)
    (hnext : next ∈ strand.sources start) (hfree : strand.GenFree walk)
    (hstart : start ∈ walk) : strand.Circling next := by
  obtain ⟨before, after, rfl⟩ := List.append_of_mem hstart
  have hsplit : before ++ start :: after = before ++ [start] ++ after := by simp
  have hround : (before ++ [start]).IsChain fun node next =>
      next ∈ strand.sources node :=
    List.IsChain.left_of_append (hsplit ▸ hwalk.2)
  have hhead : (before ++ [start]).head? = some next := by
    rw [← hwalk.1]
    cases before <;> rfl
  refine ⟨before ++ [start] ++ [next], ⟨?_, ?_⟩, ?_, ?_⟩
  · rw [List.head?_append, hhead, Option.some_or]
  · apply hround.append (.singleton next)
    intro last hlast node hnode
    rw [List.getLast?_append, List.getLast?_singleton, Option.some_or,
      Option.mem_some_iff] at hlast
    rw [List.head?_cons, Option.mem_some_iff] at hnode
    rwa [← hlast, ← hnode]
  · intro node hnode
    rcases List.mem_append.mp hnode with hnode | hnode
    · exact hfree node (hsplit ▸ List.mem_append_left after hnode)
    · rw [List.mem_singleton] at hnode
      exact hfree node (hnode ▸ List.mem_of_mem_head? hwalk.1)
  · intro hnodup
    exact (List.nodup_append.mp hnodup).2.2 next (List.mem_of_mem_head? hhead)
      next (by simp) rfl

/-- A node that does not make the fact is on its way to a circle if one of its
sources is. -/
theorem circling_iff (start : Nat) :
    strand.Circling start ↔
      strand.made start = false ∧
        ∃ next ∈ strand.sources start, strand.Circling next := by
  constructor
  · rintro ⟨walk, hwalk, hfree, hrepeats⟩
    rcases hwalk.cases_on with rfl | ⟨next, rest, rfl, hnext, hrest⟩
    · exact absurd (List.nodup_singleton start) hrepeats
    · obtain ⟨hmade, hfree⟩ := (genFree_cons start rest).mp hfree
      refine ⟨hmade, next, hnext, ?_⟩
      rw [List.nodup_cons, not_and_or, not_not] at hrepeats
      rcases hrepeats with hstart | hrepeats
      · exact circling_of_mem hrest hnext hfree hstart
      · exact ⟨rest, hrest, hfree, hrepeats⟩
  · rintro ⟨hmade, next, hnext, walk, hwalk, hfree, hrepeats⟩
    refine ⟨start :: walk, hwalk.cons hnext,
      (genFree_cons start walk).mpr ⟨hmade, hfree⟩, ?_⟩
    exact fun hnodup => hrepeats (List.nodup_cons.mp hnodup).2

/-! ### Walks as solutions -/

theorem next_eq_false_iff (state : Nat → Bool) (index : Nat) :
    strand.next state index = false ↔
      strand.made index = false ∧
        (strand.lost index = true ∨ strand.sources index = [] ∨
          ∃ source ∈ strand.sources index, state source = false) := by
  rw [← Bool.not_eq_true, next_eq_true_iff]
  push Not
  simp only [ne_eq, Bool.not_eq_true]
  cases strand.lost index <;> by_cases hsources : strand.sources index = [] <;>
    simp [hsources]

open Classical in
/-- The nodes that are not blocked are a solution. -/
theorem stable_not_blocked (strand : Strand) :
    strand.Stable fun index => decide (¬ strand.Blocked index) := by
  intro index _
  rw [Bool.eq_iff_iff, not_iff_not.symm]
  simp only [Bool.not_eq_true, next_eq_false_iff, decide_eq_false_iff_not,
    not_not]
  exact (blocked_iff index).symm

open Classical in
theorem stable_not_blocked_not_circling (strand : Strand) :
    strand.Stable fun index =>
      decide (¬ (strand.Blocked index ∨ strand.Circling index)) := by
  intro index _
  rw [Bool.eq_iff_iff, not_iff_not.symm]
  simp only [Bool.not_eq_true, next_eq_false_iff, decide_eq_false_iff_not,
    not_not]
  rw [blocked_iff index, circling_iff index]
  constructor
  · rintro ⟨hmade, hlost | hsources | ⟨source, hsource, hblocked | hcircling⟩⟩
    · exact .inl ⟨hmade, .inl hlost⟩
    · exact .inl ⟨hmade, .inr (.inl hsources)⟩
    · exact .inl ⟨hmade, .inr (.inr ⟨source, hsource, hblocked⟩)⟩
    · exact .inr ⟨hmade, source, hsource, hcircling⟩
  · rintro (⟨hmade, hlost | hsources | ⟨source, hsource, hblocked⟩⟩ |
      ⟨hmade, source, hsource, hcircling⟩)
    · exact ⟨hmade, .inl hlost⟩
    · exact ⟨hmade, .inr (.inl hsources)⟩
    · exact ⟨hmade, .inr (.inr ⟨source, hsource, .inl hblocked⟩)⟩
    · exact ⟨hmade, .inr (.inr ⟨source, hsource, .inr hcircling⟩)⟩

/-- In a solution no blocked node has the fact. -/
theorem Stable.eq_false_of_blocked {state : Nat → Bool}
    (hstable : strand.Stable state) (hstart : start < strand.size)
    (hblocked : strand.Blocked start) : state start = false := by
  obtain ⟨walk, hwalk, hblocking⟩ := hblocked
  induction walk generalizing start with
  | nil => exact absurd rfl hwalk.ne_nil
  | cons head tail ih =>
      rw [← hstable start hstart, next_eq_false_iff]
      rcases hwalk.cases_on with hsingle | ⟨next, rest, hcons, hnext, hrest⟩
      · rw [hsingle] at hblocking
        obtain ⟨hfree, last, hlast, hend⟩ := hblocking
        cases hlast
        exact ⟨hfree start (by simp), hend.imp_right .inl⟩
      · obtain ⟨rfl, rfl⟩ := List.cons.inj hcons
        obtain ⟨hmade, hblocking⟩ :=
          (blocking_cons head hrest.ne_nil).mp hblocking
        exact ⟨hmade,
          .inr (.inr
            ⟨next, hnext, ih (strand.sources_lt hnext) hrest hblocking⟩)⟩

/-- In a solution, a node that lacks the fact is blocked or starts arbitrarily
long walks on which the fact is not made. -/
theorem Stable.blocked_or_exists_walk {state : Nat → Bool}
    (hstable : strand.Stable state) (length : Nat)
    (hstart : start < strand.size) (hfalse : state start = false) :
    strand.Blocked start ∨
      ∃ walk,
        strand.IsWalk start walk ∧ strand.GenFree walk ∧
          walk.length = length + 1 := by
  induction length generalizing start with
  | zero =>
      rw [← hstable start hstart, next_eq_false_iff] at hfalse
      exact .inr ⟨[start], isWalk_singleton start,
        by simpa [GenFree] using hfalse.1, rfl⟩
  | succ length ih =>
      rw [← hstable start hstart, next_eq_false_iff] at hfalse
      obtain ⟨hmade, hlost | hsources | ⟨next, hnext, hfalse⟩⟩ := hfalse
      · exact .inl ((blocked_iff start).mpr ⟨hmade, .inl hlost⟩)
      · exact .inl ((blocked_iff start).mpr ⟨hmade, .inr (.inl hsources)⟩)
      · rcases ih (strand.sources_lt hnext) hfalse with
          hblocked | ⟨walk, hwalk, hfree, hlength⟩
        · exact .inl
            ((blocked_iff start).mpr
              ⟨hmade, .inr (.inr ⟨next, hnext, hblocked⟩)⟩)
        · exact .inr ⟨start :: walk, hwalk.cons hnext,
            (genFree_cons start walk).mpr ⟨hmade, hfree⟩, by
              rw [List.length_cons, hlength]⟩

/-- A walk with more nodes than there are visits one twice. -/
theorem IsWalk.not_nodup (hwalk : strand.IsWalk start walk)
    (hstart : start < strand.size) (hlength : strand.size < walk.length) :
    ¬ walk.Nodup := by
  intro hnodup
  have hsubset : walk ⊆ List.range strand.size := fun node hnode =>
    List.mem_range.mpr (hwalk.lt_size hstart node hnode)
  have hle := (hnodup.subperm hsubset).length_le
  rw [List.length_range] at hle
  omega

/-- A node that lacks the fact in some solution is blocked, or walks from it go
in circles. -/
theorem Stable.blocked_or_circling {state : Nat → Bool}
    (hstable : strand.Stable state) (hstart : start < strand.size)
    (hfalse : state start = false) :
    strand.Blocked start ∨ strand.Circling start := by
  rcases hstable.blocked_or_exists_walk strand.size hstart hfalse with
    hblocked | ⟨walk, hwalk, hfree, hlength⟩
  · exact .inl hblocked
  · exact .inr ⟨walk, hwalk, hfree, hwalk.not_nodup hstart (by omega)⟩

end Strand

namespace System

variable {facts : Universe} {initial : FactSet} {system : System}

/-- After a run over untouched nodes, a fact of the initial set is in an out set
unless a walk from the node blocks it.  Any other fact is in an out set unless a
walk from the node blocks it, or visits some node twice without passing one that
makes the fact. -/
theorem mem_outs_iff_walks (hreached : Reached facts initial system)
    (graph : Graph) (direction : Direction)
    (huntouched : system.Untouched graph) :
    ∀ index < graph.size, ∀ fact,
      (initial.contains fact = true →
        (fact ∈ (system.solve graph direction).system.outs graph index ↔
          ¬ ∃ walk, (system.strand graph direction fact).IsWalk index walk ∧
            (system.strand graph direction fact).Blocking walk)) ∧
      (initial.contains fact = false →
        (fact ∈ (system.solve graph direction).system.outs graph index ↔
          (¬ ∃ walk, (system.strand graph direction fact).IsWalk index walk ∧
            (system.strand graph direction fact).Blocking walk) ∧
          ¬ ∃ walk, (system.strand graph direction fact).IsWalk index walk ∧
            (system.strand graph direction fact).GenFree walk ∧
            ¬ walk.Nodup)) := by
  classical
  obtain ⟨hspec, -, -⟩ := hreached.solve_spec huntouched direction
  intro index hindex fact
  have hstable := hspec.stable hreached.wellFormed fact
  constructor
  · -- the greatest solution: what no walk blocks is a solution, and every
    -- solution is so blocked
    intro hinitial
    have htoward := hreached.toward_solution huntouched hspec
      (Strand.stable_not_blocked (system.strand graph direction fact))
    rw [hinitial] at htoward
    constructor
    · intro hmem hblocked
      exact Bool.noConfusion
        (hmem.symm.trans (hstable.eq_false_of_blocked hindex hblocked))
    · intro hblocked
      by_contra hmem
      have hfalse := htoward index hindex (Bool.eq_false_of_not_eq_true hmem)
      exact of_decide_eq_false hfalse hblocked
  · -- the least solution: circles keep out what was missing at first
    intro hinitial
    have htoward := hreached.toward_solution huntouched hspec
      (Strand.stable_not_blocked_not_circling
        (system.strand graph direction fact))
    rw [hinitial] at htoward
    rw [← not_or]
    constructor
    · intro hmem
      exact of_decide_eq_true (htoward index hindex hmem)
    · intro hreasons
      by_contra hmem
      exact hreasons
        (hstable.blocked_or_circling hindex (Bool.eq_false_of_not_eq_true hmem))

theorem mem_outs_iff_walks_ring :
    Reached ringFacts ringFacts.full ringSystem ∧ ringSystem.Untouched ring ∧
      (Text.ofString "x" ∈ (ringSystem.solve ring .forward).system.outs ring 0 ↔
        ¬ ∃ walk, (ringSystem.strand ring .forward "x").IsWalk 0 walk ∧
          (ringSystem.strand ring .forward "x").Blocking walk) := by
  have hwalks :=
    mem_outs_iff_walks reached_ringSystem ring .forward untouched_ringSystem 0
      (by decide) "x"
  exact ⟨reached_ringSystem, untouched_ringSystem, hwalks.1 rfl⟩

end System

end GenKill
