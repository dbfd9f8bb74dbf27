import Mathlib
import CyberAssess.Support.Transition

/-!
# Support — breadth-first search

A queue of nodes with their depths, and the keys of all nodes that were ever queued. A node is taken
from the front; what it leads to is offered one deeper, and queued unless its key is known.

* `Search` is the state, `Search.offer` and `Search.visit` its operations, `Search.Step` a visit in which
  nothing is offered from the depth limit on.
* `Search.Fair`: the keys are those of the nodes, each once, and the queue is in the order of depths with
  at most two depths in it. `Fair.step` keeps it.
* `step_wellFounded`: there is no endless sequence of visits, whatever they offer.
* `Arrives` is a way along links. `Search.Explores` says that visits offer the links;
  `Explores.shortest` that recorded depths are least, `Explores.complete` that an empty queue leaves
  nothing out.
-/

namespace Breadth

open Transition (Run)

variable {α κ : Type*}

/-- Nodes that wait with their depths, the keys of all nodes so far, and the nodes taken. -/
structure Search (α κ : Type*) where
  queue : List (α × Nat)
  seen : List κ
  taken : List (α × Nat)

namespace Search

/-- The nodes so far, with their depths. -/
def nodes (s : Search α κ) : List (α × Nat) := s.taken ++ s.queue

section Operations

variable [DecidableEq κ] (key : α → κ)

/-- A node is queued at a depth, unless its key is known. -/
def offer (depth : Nat) (s : Search α κ) (x : α) : Search α κ :=
  if key x ∈ s.seen then s
  else { s with queue := s.queue ++ [(x, depth)], seen := s.seen ++ [key x] }

/-- Nodes are offered in turn. -/
def offers (depth : Nat) (s : Search α κ) (xs : List α) : Search α κ := xs.foldl (offer key depth) s

/-- The front of the queue is taken, and nodes are offered one deeper. -/
def visit (s : Search α κ) (xs : List α) : Search α κ :=
  match s.queue with
  | [] => s
  | (x, depth) :: rest =>
      offers key (depth + 1) { s with queue := rest, taken := s.taken ++ [(x, depth)] } xs

/-- A search that has its root. -/
def start (x : α) : Search α κ := ⟨[(x, 0)], [key x], []⟩

/-- A visit that offers nothing from the limit on. -/
def Step (limit : Nat) (s : Search α κ) (xs : List α) (t : Search α κ) : Prop :=
  ∃ p rest, s.queue = p :: rest ∧ (limit ≤ p.2 → xs = []) ∧ t = s.visit key xs

end Operations

/-! ### Keys and depths -/

variable {key : α → κ} {s t : Search α κ} {limit depth : Nat}

/-- The keys are those of the nodes, each once; depths do not fall along the nodes, and at most two of
them wait. -/
structure Fair (key : α → κ) (s : Search α κ) : Prop where
  keys : s.seen = s.nodes.map fun p => key p.1
  nodup : s.seen.Nodup
  sorted : (s.nodes.map (·.2)).Pairwise (· ≤ ·)
  spread : ∀ p ∈ s.queue, ∀ q ∈ s.queue, q.2 ≤ p.2 + 1

theorem fair_start (x : α) : Fair key (start key x) where
  keys := rfl
  nodup := List.nodup_singleton _
  sorted := List.pairwise_singleton _ _
  spread := by
    rintro p hp q hq
    obtain rfl := List.mem_singleton.mp hp
    obtain rfl := List.mem_singleton.mp hq
    exact Nat.le_succ _

/-- The front is taken: no node is lost. -/
theorem nodes_take {p : α × Nat} {rest : List (α × Nat)} (front : s.queue = p :: rest) :
    ({ s with queue := rest, taken := s.taken ++ [p] } : Search α κ).nodes = s.nodes := by
  simp [nodes, front]

/-- Every depth is at most one more than that of the front. -/
theorem Fair.below (h : Fair key s) {p : α × Nat} {rest : List (α × Nat)}
    (front : s.queue = p :: rest) : ∀ q ∈ s.nodes, q.2 ≤ p.2 + 1 := by
  intro q hq
  rcases List.mem_append.mp hq with hq | hq
  · have sorted := h.sorted
    rw [nodes, List.map_append, List.pairwise_append] at sorted
    refine (sorted.2.2 _ (List.mem_map_of_mem hq) p.2 ?_).trans (Nat.le_succ _)
    rw [front]
    exact List.mem_cons_self
  · exact h.spread p (by rw [front]; exact List.mem_cons_self) q hq

/-- Nothing that waits is less deep than the front. -/
theorem Fair.front_le (h : Fair key s) {p : α × Nat} {rest : List (α × Nat)}
    (front : s.queue = p :: rest) : ∀ q ∈ s.queue, p.2 ≤ q.2 := by
  intro q hq
  have sorted := h.sorted
  rw [nodes, List.map_append, List.pairwise_append, front, List.map_cons, List.pairwise_cons] at sorted
  rw [front] at hq
  rcases List.mem_cons.mp hq with rfl | hq
  · exact le_refl _
  · exact sorted.2.1.1 _ (List.mem_map_of_mem hq)

/-! ### What is offered -/

variable [DecidableEq κ]

@[simp] theorem offers_nil (s : Search α κ) : s.offers key depth [] = s := rfl

@[simp] theorem offers_cons (s : Search α κ) (x : α) (xs : List α) :
    s.offers key depth (x :: xs) = (s.offer key depth x).offers key depth xs := rfl

/-- Offering nodes appends those that are new. -/
theorem offers_queue (key : α → κ) (depth : Nat) (xs : List α) : ∀ s : Search α κ, ∃ new : List α,
    (s.offers key depth xs).queue = s.queue ++ new.map (·, depth) ∧
      (s.offers key depth xs).taken = s.taken ∧ new.Sublist xs := by
  induction xs with
  | nil => exact fun s => ⟨[], by simp, rfl, List.Sublist.refl _⟩
  | cons x xs ih =>
      intro s
      obtain ⟨new, queue, taken, sub⟩ := ih (s.offer key depth x)
      rw [offers_cons, queue, taken]
      by_cases known : key x ∈ s.seen
      · rw [offer, if_pos known]
        exact ⟨new, rfl, rfl, sub.cons x⟩
      · rw [offer, if_neg known]
        exact ⟨x :: new, by simp, rfl, sub.cons_cons x⟩

/-- What has been seen stays so, and what was offered has been seen. -/
theorem mem_seen_offers {k : κ} (xs : List α) : ∀ s : Search α κ,
    k ∈ (s.offers key depth xs).seen ↔ k ∈ s.seen ∨ ∃ x ∈ xs, key x = k := by
  induction xs with
  | nil => simp
  | cons x xs ih =>
      intro s
      rw [offers_cons, ih, offer]
      split
      · rename_i known
        constructor
        · rintro (seen | ⟨y, member, same⟩)
          · exact .inl seen
          · exact .inr ⟨y, List.mem_cons_of_mem x member, same⟩
        · rintro (seen | ⟨y, member, same⟩)
          · exact .inl seen
          · rcases List.mem_cons.mp member with rfl | member
            · exact .inl (same ▸ known)
            · exact .inr ⟨y, member, same⟩
      · simp [or_assoc, eq_comm]

/-! ### Visits keep the order -/

/-- A node is offered at a depth that fits. -/
theorem Fair.offer (h : Fair key s) (above : ∀ p ∈ s.nodes, p.2 ≤ depth)
    (near : ∀ p ∈ s.queue, depth ≤ p.2 + 1) (x : α) : Fair key (s.offer key depth x) := by
  rw [Search.offer]
  split
  · exact h
  · rename_i new
    refine ⟨?_, ?_, ?_, ?_⟩
    · simp [nodes, h.keys]
    · rw [List.nodup_append]
      refine ⟨h.nodup, List.nodup_singleton _, ?_⟩
      rintro k hk l hl rfl
      exact new (List.mem_singleton.mp hl ▸ hk)
    · have split : (s.taken ++ (s.queue ++ [(x, depth)])).map (·.2) =
          s.nodes.map (·.2) ++ [depth] := by
        simp [nodes]
      rw [nodes, split, List.pairwise_append]
      refine ⟨h.sorted, List.pairwise_singleton _ _, ?_⟩
      intro d hd e he
      obtain ⟨p, hp, rfl⟩ := List.mem_map.mp hd
      obtain rfl := List.mem_singleton.mp he
      exact above p hp
    · simp only [List.mem_append, List.mem_singleton]
      rintro p (hp | rfl) q (hq | rfl)
      · exact h.spread p hp q hq
      · exact near p hp
      · exact (above q (List.mem_append_right _ hq)).trans (Nat.le_succ _)
      · exact Nat.le_succ _

theorem Fair.offers (xs : List α) : ∀ {s : Search α κ}, Fair key s →
    (∀ p ∈ s.nodes, p.2 ≤ depth) → (∀ p ∈ s.queue, depth ≤ p.2 + 1) →
    Fair key (s.offers key depth xs) := by
  induction xs with
  | nil => exact fun h _ _ => h
  | cons x xs ih =>
      intro s h above near
      refine ih (h.offer above near x) ?_ ?_
      · rw [Search.offer]
        split
        · exact above
        · intro p hp
          rw [nodes, ← List.append_assoc, List.mem_append, List.mem_singleton] at hp
          rcases hp with hp | rfl
          · exact above p hp
          · exact le_refl _
      · rw [Search.offer]
        split
        · exact near
        · intro p hp
          rcases List.mem_append.mp hp with hp | hp
          · exact near p hp
          · obtain rfl := List.mem_singleton.mp hp
            exact Nat.le_succ _

theorem Fair.visit (h : Fair key s) (xs : List α) : Fair key (s.visit key xs) := by
  rw [Search.visit]
  split
  · exact h
  · rename_i x depth rest front
    have taken := nodes_take front
    refine Fair.offers xs ⟨?_, h.nodup, ?_, ?_⟩ ?_ ?_
    · rw [taken]
      exact h.keys
    · rw [taken]
      exact h.sorted
    · intro p hp q hq
      exact h.spread p (by rw [front]; exact List.mem_cons_of_mem _ hp) q
        (by rw [front]; exact List.mem_cons_of_mem _ hq)
    · rw [taken]
      exact h.below front
    · intro p hp
      have low := h.front_le front p (by rw [front]; exact List.mem_cons_of_mem _ hp)
      exact Nat.succ_le_succ low

theorem Fair.step {xs : List α} (h : Fair key s) (step : Step key limit s xs t) : Fair key t := by
  obtain ⟨p, rest, -, -, rfl⟩ := step
  exact h.visit xs

/-- The nodes after a visit are those before it, and offered ones one deeper than the front. -/
theorem nodes_visit (key : α → κ) {p : α × Nat} {rest : List (α × Nat)} (front : s.queue = p :: rest)
    (xs : List α) : ∃ new : List α, new.Sublist xs ∧
      (s.visit key xs).nodes = s.nodes ++ new.map (·, p.2 + 1) ∧
      (s.visit key xs).queue = rest ++ new.map (·, p.2 + 1) ∧
      (s.visit key xs).taken = s.taken ++ [p] := by
  obtain ⟨x, depth⟩ := p
  rw [visit, front]
  obtain ⟨new, queue, taken, sub⟩ := offers_queue key (depth + 1) xs
    { s with queue := rest, taken := s.taken ++ [(x, depth)] }
  refine ⟨new, sub, ?_, queue, taken⟩
  simp only [nodes, queue, taken, front]
  simp

/-! ### No endless search -/

/-- What waits, by how far each is from the limit. -/
def weight (limit : Nat) (s : Search α κ) : Multiset Nat :=
  Multiset.ofList (s.queue.map fun p => limit + 1 - p.2)

/-- A visit takes one node and queues nodes that are nearer to the limit. -/
theorem weight_step {xs : List α} (step : Step key limit s xs t) :
    (t.weight limit).IsDershowitzMannaLT (s.weight limit) := by
  obtain ⟨p, rest, front, shallow, rfl⟩ := step
  obtain ⟨new, sub, -, queue, -⟩ := nodes_visit key front xs
  refine ⟨Multiset.ofList (rest.map fun q => limit + 1 - q.2),
    Multiset.ofList (new.map fun _ => limit + 1 - (p.2 + 1)), {limit + 1 - p.2}, ?_, ?_, ?_, ?_⟩
  · exact Multiset.singleton_ne_zero _
  · rw [weight, queue, List.map_append, List.map_map, Multiset.coe_add]
    rfl
  · rw [weight, front, List.map_cons, ← Multiset.cons_coe, ← Multiset.singleton_add, add_comm]
  · intro n hn
    obtain ⟨y, member, rfl⟩ := List.mem_map.mp (Multiset.mem_coe.mp hn)
    refine ⟨_, Multiset.mem_singleton_self _, ?_⟩
    have deep : p.2 < limit := by
      by_contra far
      rw [shallow (Nat.le_of_not_lt far), List.sublist_nil] at sub
      rw [sub] at member
      cases member
    omega

/-- There is no endless sequence of visits, whatever they offer. -/
theorem step_wellFounded (key : α → κ) (limit : Nat) :
    WellFounded fun t s : Search α κ => ∃ xs, Step key limit s xs t := by
  refine Subrelation.wf ?_
    (InvImage.wf (weight limit) (Multiset.wellFounded_isDershowitzMannaLT (α := Nat)))
  rintro t s ⟨xs, step⟩
  exact weight_step step

end Search

/-! ### Links -/

section Links

variable {key : α → κ} {link : α → α → Prop} {root : α → Nat → Prop} {limit : Nat}

/-- A way from a root along links, none of them taken from the limit on. -/
inductive Arrives (link : α → α → Prop) (root : α → Nat → Prop) (limit : Nat) : α → Nat → Prop where
  | root {x : α} {d : Nat} (h : root x d) : Arrives link root limit x d
  | hop {x y : α} {d : Nat} (h : Arrives link root limit x d) (near : d < limit) (l : link x y) :
      Arrives link root limit y (d + 1)

namespace Search

variable {s t : Search α κ}

/-- A visit that offers the links of the front, unless it is at the limit. -/
def Explores [DecidableEq κ] (key : α → κ) (link : α → α → Prop) (limit : Nat) (s : Search α κ) (xs : List α)
    (t : Search α κ) : Prop :=
  ∃ p rest, s.queue = p :: rest ∧ (limit ≤ p.2 → xs = []) ∧
    (p.2 < limit → ∀ y, y ∈ xs ↔ link p.1 y) ∧ t = s.visit key xs

/-- The key is that of a node, at most so deep. -/
def Has (key : α → κ) (s : Search α κ) (k : κ) (depth : Nat) : Prop :=
  ∃ q ∈ s.nodes, key q.1 = k ∧ q.2 ≤ depth

/-- Roots and the links of what was taken are among the nodes, and nothing else is. -/
structure Explored (key : α → κ) (link : α → α → Prop) (root : α → Nat → Prop) (limit : Nat)
    (s : Search α κ) : Prop extends Fair key s where
  rooted : ∀ x d, root x d → s.Has key (key x) d
  closed : ∀ p ∈ s.taken, p.2 < limit → ∀ y, link p.1 y → s.Has key (key y) (p.2 + 1)
  arrived : ∀ p ∈ s.nodes, Arrives link root limit p.1 p.2

/-- A key that has been seen is that of a node. -/
theorem Fair.has (h : Fair key s) {k : κ} (seen : k ∈ s.seen) {depth : Nat}
    (below : ∀ q ∈ s.nodes, q.2 ≤ depth) : s.Has key k depth := by
  rw [h.keys] at seen
  obtain ⟨q, hq, rfl⟩ := List.mem_map.mp seen
  exact ⟨q, hq, rfl, below q hq⟩

section Distances

variable (h : Explored key link root limit s)
  (apart : ∀ x n y m, Arrives link root limit x n → Arrives link root limit y m →
    key x = key y → x = y)

include h apart

/-- What is arrived at is a node at most so deep, or something less deep still waits. -/
theorem Explored.has_or_waits {x : α} {n : Nat} (way : Arrives link root limit x n) :
    (∃ d ≤ n, (x, d) ∈ s.nodes) ∨ ∃ q ∈ s.queue, q.2 < n := by
  have node {y : α} {m depth : Nat} (at' : Arrives link root limit y m)
      (has : s.Has key (key y) depth) : ∃ d ≤ depth, (y, d) ∈ s.nodes := by
    obtain ⟨⟨z, d⟩, hq, same, le⟩ := has
    obtain rfl := apart z d y m (h.arrived (z, d) hq) at' same
    exact ⟨d, le, hq⟩
  induction way with
  | root r => exact .inl (node (.root r) (h.rooted _ _ r))
  | hop way near l ih =>
      rcases ih with ⟨d, le, hx⟩ | ⟨q, hq, lt⟩
      · rcases List.mem_append.mp hx with hx | hx
        · have close := h.closed _ hx (lt_of_le_of_lt le near) _ l
          obtain ⟨e, le', hy⟩ := node (.hop way near l) close
          exact .inl ⟨e, le'.trans (Nat.succ_le_succ le), hy⟩
        · exact .inr ⟨_, hx, Nat.lt_succ_of_le le⟩
      · exact .inr ⟨q, hq, Nat.lt_succ_of_lt lt⟩

omit apart in
/-- A node has one depth. -/
theorem Explored.depth_unique {x : α} {d e : Nat} (hd : (x, d) ∈ s.nodes) (he : (x, e) ∈ s.nodes) :
    d = e := by
  have distinct := h.nodup
  rw [h.keys] at distinct
  have same := List.inj_on_of_nodup_map distinct hd he rfl
  exact (Prod.mk.inj same).2

/-- Depths are least. -/
theorem Explored.shortest {x : α} {d n : Nat} (hx : (x, d) ∈ s.nodes)
    (way : Arrives link root limit x n) : d ≤ n := by
  rcases h.has_or_waits apart way with ⟨e, le, he⟩ | ⟨q, hq, lt⟩
  · rw [h.depth_unique hx he]
    exact le
  · cases front : s.queue with
    | nil =>
        rw [front] at hq
        cases hq
    | cons p rest =>
        have low := h.toFair.front_le front q hq
        have high := h.toFair.below front (x, d) hx
        simp only at high
        omega

/-- With an empty queue everything that can be arrived at was taken. -/
theorem Explored.complete (done : s.queue = []) {x : α} {n : Nat}
    (way : Arrives link root limit x n) : ∃ d ≤ n, (x, d) ∈ s.taken := by
  rcases h.has_or_waits apart way with ⟨d, le, hx⟩ | ⟨q, hq, -⟩
  · rw [nodes, done, List.append_nil] at hx
    exact ⟨d, le, hx⟩
  · rw [done] at hq
    cases hq

end Distances

variable [DecidableEq κ]

/-- What a search had, it has after a visit. -/
theorem Has.visit {k : κ} {depth : Nat} (h : s.Has key k depth) (xs : List α) :
    (s.visit key xs).Has key k depth := by
  obtain ⟨q, hq, same, le⟩ := h
  refine ⟨q, ?_, same, le⟩
  cases front : s.queue with
  | nil =>
      rw [Search.visit, front]
      exact hq
  | cons p rest =>
      obtain ⟨new, -, nodes, -⟩ := nodes_visit key front xs
      rw [nodes]
      exact List.mem_append_left _ hq

theorem Explored.step {xs : List α} (h : Explored key link root limit s)
    (step : Explores key link limit s xs t) : Explored key link root limit t := by
  obtain ⟨p, rest, front, far, links, rfl⟩ := step
  have fair := h.toFair.visit xs
  obtain ⟨new, sub, nodes, queue, taken⟩ := nodes_visit key front xs
  have below : ∀ q ∈ (s.visit key xs).nodes, q.2 ≤ p.2 + 1 := by
    intro q hq
    rw [nodes] at hq
    rcases List.mem_append.mp hq with hq | hq
    · exact h.toFair.below front q hq
    · obtain ⟨y, -, rfl⟩ := List.mem_map.mp hq
      exact le_refl _
  refine ⟨fair, fun x d hx => (h.rooted x d hx).visit xs, ?_, ?_⟩
  · intro q hq near y hy
    rw [taken] at hq
    rcases List.mem_append.mp hq with hq | hq
    · exact (h.closed q hq near y hy).visit xs
    · obtain rfl := List.mem_singleton.mp hq
      refine fair.has ?_ below
      obtain ⟨x, depth⟩ := q
      rw [Search.visit, front]
      exact (mem_seen_offers xs _).mpr (.inr ⟨y, (links near y).mpr hy, rfl⟩)
  · intro q hq
    rw [nodes] at hq
    rcases List.mem_append.mp hq with hq | hq
    · exact h.arrived q hq
    · obtain ⟨y, member, rfl⟩ := List.mem_map.mp hq
      have offered := sub.subset member
      have near : p.2 < limit := by
        by_contra deep
        rw [far (Nat.le_of_not_lt deep)] at offered
        cases offered
      have waits : p ∈ s.nodes := List.mem_append_right _ (by rw [front]; exact List.mem_cons_self)
      exact .hop (h.arrived p waits) near ((links near y).mp offered)

/-- The search that starts from a root and other nodes beside its links. -/
theorem explored_start (key : α → κ) (link : α → α → Prop) (limit : Nat) (x : α) (seeds : List α) :
    Explored key link (fun y d => y = x ∧ d = 0 ∨ y ∈ seeds ∧ d = 1) limit
      ((start key x).offers key 1 seeds) := by
  have zero : ∀ p ∈ (start key x).nodes, p = (x, 0) := fun p hp => List.mem_singleton.mp hp
  have fair : Fair key ((start key x).offers key 1 seeds) := by
    refine Fair.offers seeds (fair_start x) ?_ ?_
    · intro p hp
      rw [zero p hp]
      exact Nat.zero_le 1
    · intro p hp
      exact Nat.succ_le_succ (Nat.zero_le _)
  obtain ⟨new, queue, taken, sub⟩ := offers_queue key 1 seeds (start key x)
  have nodes : ((start key x).offers key 1 seeds).nodes = (x, 0) :: new.map (·, 1) := by
    rw [Search.nodes, queue, taken]
    rfl
  have below : ∀ q ∈ ((start key x).offers key 1 seeds).nodes, q.2 ≤ 1 := by
    intro q hq
    rw [nodes] at hq
    rcases List.mem_cons.mp hq with rfl | hq
    · exact Nat.zero_le 1
    · obtain ⟨y, -, rfl⟩ := List.mem_map.mp hq
      exact le_refl 1
  refine ⟨fair, ?_, ?_, ?_⟩
  · rintro y d (⟨rfl, rfl⟩ | ⟨member, rfl⟩)
    · exact ⟨(y, 0), by rw [nodes]; exact List.mem_cons_self, rfl, le_refl 0⟩
    · exact fair.has ((mem_seen_offers seeds _).mpr (.inr ⟨y, member, rfl⟩)) below
  · intro p hp
    rw [taken] at hp
    cases hp
  · intro q hq
    rw [nodes] at hq
    rcases List.mem_cons.mp hq with rfl | hq
    · exact .root (.inl ⟨rfl, rfl⟩)
    · obtain ⟨y, member, rfl⟩ := List.mem_map.mp hq
      exact .root (.inr ⟨sub.subset member, rfl⟩)

end Search

end Links

end Breadth
