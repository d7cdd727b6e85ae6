import Mathlib.Data.Fintype.Card
import Mathlib.Data.List.Chain

/-!
# Trees given by their edges, and messages forwarded along them

A tree is given by its edges: each edge has two ends and divides the nodes into two sides, and a
node other than the target has exactly one edge with the target on the far side. Distances are
numbers of dividing edges.

- `existsUnique_path`: between two nodes there is one path that repeats no node.
- `relay`, `visited`, `heard`: a message put on a node is handed to the edges there, each of which
  may forward it to its other end.
- `visited_eq_path`: if every edge forwards exactly what has its target on the far side, the message
  visits the nodes of the path and no others, each once.
- `heard_eq_singleton`: an edge at the target that the message does not cross hears it once.
-/

set_option autoImplicit false

namespace KnxStack.Lib

universe u v w

/-- A tree with nodes `N` and edges `E`. The two ends and the two sides of an edge are named by
`Bool`. -/
structure EdgeTree (N : Type u) (E : Type v) where
  ends : E → Bool → N
  side : E → N → Bool
  attached : N → List (E × Bool)
  mem_attached : ∀ n e p, (e, p) ∈ attached n ↔ ends e p = n
  nodup_attached : ∀ n, (attached n).Nodup
  side_ends : ∀ e p, side e (ends e p) = p
  side_ends_of_ne : ∀ e e' p, e ≠ e' → side e (ends e' p) = side e (ends e' (!p))
  exists_toward : ∀ s t, s ≠ t → ∃ e p, ends e p = s ∧ side e t ≠ p
  toward_unique : ∀ e p e' p' t, ends e p = ends e' p' → side e t ≠ p → side e' t ≠ p' → e = e'

namespace EdgeTree

variable {N : Type u} {E : Type v} (T : EdgeTree N E)

/-! ## Paths -/

/-- Two nodes are the ends of one edge. -/
def Adj (a b : N) : Prop := ∃ e p, T.ends e p = a ∧ T.ends e (!p) = b

/-- A path without repetition from `s` to `t`. -/
structure IsPath (s t : N) (l : List N) : Prop where
  head : l.head? = some s
  last : l.getLast? = some t
  chain : l.IsChain T.Adj
  nodup : l.Nodup

/-- The walk that crosses, at each node, the edge with `t` on the far side. -/
inductive Toward (t : N) : N → List N → Prop where
  | here : Toward t t [t]
  | step {e : E} {p : Bool} {l : List N} (hside : T.side e t ≠ p)
      (hrest : Toward t (T.ends e (!p)) l) : Toward t (T.ends e p) (T.ends e p :: l)

variable {T}

theorem side_far {e : E} {p : Bool} {t : N} (h : T.side e t ≠ p) :
    T.side e (T.ends e (!p)) = T.side e t := by
  rw [T.side_ends]
  revert h
  cases T.side e t <;> cases p <;> simp

theorem side_crossed {e e' : E} {p : Bool} (h : e ≠ e') :
    T.side e (T.ends e' (!p)) = T.side e (T.ends e' p) := (T.side_ends_of_ne e e' p h).symm

theorem Toward.side_eq {s t : N} {l : List N} (h : T.Toward t s l) {e : E}
    (he : T.side e s = T.side e t) : ∀ n ∈ l, T.side e n = T.side e t := by
  induction h with
  | here =>
    intro n hn
    rw [List.mem_singleton.mp hn]
  | @step e' p l hside hrest ih =>
    have hne : e ≠ e' := by
      rintro rfl
      rw [T.side_ends] at he
      exact hside he.symm
    intro n hn
    rcases List.mem_cons.mp hn with rfl | hmem
    · exact he
    · exact ih ((side_crossed hne).trans he) n hmem

theorem Toward.ne_nil {s t : N} {l : List N} (h : T.Toward t s l) : l ≠ [] := by
  cases h <;> simp

theorem Toward.isPath {s t : N} {l : List N} (h : T.Toward t s l) : T.IsPath s t l := by
  induction h with
  | here => exact ⟨rfl, rfl, List.IsChain.singleton _, List.nodup_singleton _⟩
  | @step e p l hside hrest ih =>
    obtain ⟨b, rest, rfl⟩ := List.exists_cons_of_ne_nil hrest.ne_nil
    have hb : b = T.ends e (!p) := Option.some.inj ih.head
    refine ⟨rfl, ?_, ?_, ?_⟩
    · rw [List.getLast?_cons_cons]
      exact ih.last
    · exact List.isChain_cons_cons.mpr ⟨⟨e, p, rfl, hb.symm⟩, ih.chain⟩
    · -- every later node is on the far side of the edge that was crossed first
      refine List.nodup_cons.mpr ⟨?_, ih.nodup⟩
      intro hmem
      have hfar := hrest.side_eq (side_far hside) _ hmem
      rw [T.side_ends] at hfar
      exact hside hfar.symm

/-- A chain of nodes that begins on one side of an edge and ends on the other goes through its end
on the other side. -/
theorem mem_of_crosses {e : E} {t : N} (l : List N) :
    ∀ b, (b :: l).IsChain T.Adj → (b :: l).getLast? = some t → T.side e b ≠ T.side e t →
      T.ends e (T.side e t) ∈ b :: l := by
  induction l with
  | nil =>
    intro b _ hlast hne
    cases hlast
    exact absurd rfl hne
  | cons c l ih =>
    intro b hchain hlast hne
    obtain ⟨⟨e', p, hb, hc⟩, hrest⟩ := List.isChain_cons_cons.mp hchain
    rw [List.getLast?_cons_cons] at hlast
    by_cases hcross : T.side e c = T.side e t
    · -- the edge is crossed here
      have heq : e = e' := by
        by_contra hne'
        apply hne
        rw [← hb, T.side_ends_of_ne e e' p hne', hc, hcross]
      subst heq
      have hp : T.side e t = !p := by rw [← hcross, ← hc, T.side_ends]
      rw [hp, hc]
      exact List.mem_cons_of_mem _ List.mem_cons_self
    · exact List.mem_cons_of_mem _ (ih c hrest hlast hcross)

theorem IsPath.toward {t : N} (l : List N) : ∀ {s : N}, T.IsPath s t l → T.Toward t s l := by
  induction l with
  | nil =>
    intro s h
    cases h.head
  | cons a l ih =>
    intro s h
    have hs : a = s := Option.some.inj h.head
    subst hs
    cases l with
    | nil =>
      have ht : a = t := Option.some.inj h.last
      rw [ht]
      exact Toward.here
    | cons b l =>
      obtain ⟨⟨e, p, rfl, rfl⟩, hrest⟩ := List.isChain_cons_cons.mp h.chain
      obtain ⟨hnotin, hnodup⟩ := List.nodup_cons.mp h.nodup
      have hlast : (T.ends e (!p) :: l).getLast? = some t := by
        have hlast := h.last
        rwa [List.getLast?_cons_cons] at hlast
      have hside : T.side e t ≠ p := by
        intro hp
        apply hnotin
        have hcross : T.side e (T.ends e (!p)) ≠ T.side e t := by
          rw [T.side_ends, hp]
          cases p <;> simp
        have hmem := mem_of_crosses l _ hrest hlast hcross
        rwa [hp] at hmem
      exact Toward.step hside (ih ⟨rfl, hlast, hrest, hnodup⟩)

theorem Toward.unique {s t : N} {l : List N} (h : T.Toward t s l) :
    ∀ {l' : List N}, T.Toward t s l' → l' = l := by
  induction h with
  | here =>
    intro l' h'
    generalize hs : t = s at h'
    cases h' with
    | here => rfl
    | @step e p l hside hrest =>
      exact absurd (T.side_ends e p) hside
  | @step e p l hside hrest ih =>
    intro l' h'
    generalize hs : T.ends e p = s at h'
    cases h' with
    | here =>
      exact absurd (hs ▸ T.side_ends e p) hside
    | @step e' p' l' hside' hrest' =>
      have he : e = e' := T.toward_unique e p e' p' t hs hside hside'
      subst he
      have hp : p = p' := by rw [← T.side_ends e p, hs, T.side_ends]
      subst hp
      rw [ih hrest']

/-! ## Every two nodes have a path -/

section Finite

variable [Fintype E] [DecidableEq E]

variable (T) in
/-- The edges that divide two nodes. -/
def apart (s t : N) : Finset E := Finset.univ.filter fun e => T.side e s ≠ T.side e t

theorem card_apart_lt {e : E} {p : Bool} {t : N} (hside : T.side e t ≠ p) :
    (T.apart (T.ends e (!p)) t).card < (T.apart (T.ends e p) t).card := by
  apply Finset.card_lt_card
  rw [Finset.ssubset_iff_of_subset]
  · refine ⟨e, ?_, ?_⟩
    · rw [apart, Finset.mem_filter, T.side_ends]
      exact ⟨Finset.mem_univ e, hside.symm⟩
    · rw [apart, Finset.mem_filter, side_far hside]
      simp
  · intro e' he'
    rw [apart, Finset.mem_filter] at he' ⊢
    by_cases heq : e' = e
    · subst heq
      exact absurd (side_far hside) he'.2
    · rw [side_crossed heq] at he'
      exact he'

theorem exists_walk (t : N) : ∀ (k : Nat) (s : N), (T.apart s t).card < k → ∃ l, T.Toward t s l := by
  intro k
  induction k with
  | zero =>
    intro s hlt
    exact absurd hlt (Nat.not_lt_zero _)
  | succ k ih =>
    intro s hlt
    by_cases hst : s = t
    · subst hst
      exact ⟨_, Toward.here⟩
    · obtain ⟨e, p, rfl, hside⟩ := T.exists_toward s t hst
      have hless := card_apart_lt hside
      obtain ⟨l, hl⟩ := ih (T.ends e (!p)) (by omega)
      exact ⟨_, Toward.step hside hl⟩

theorem existsUnique_path (s t : N) : ∃! l, T.IsPath s t l := by
  obtain ⟨l, hl⟩ := exists_walk (T := T) t _ s (Nat.lt_succ_self _)
  refine ⟨l, hl.isPath, ?_⟩
  intro l' hl'
  exact hl.unique (IsPath.toward l' hl')

end Finite

/-! ## A message handed from node to node -/

/-- A message on a node, and the edge that put it there. -/
structure Placed (N : Type u) (E : Type v) (H : Type w) where
  node : N
  content : H
  via : Option E

section Messages

variable {H : Type w} [DecidableEq E] (T) (forward : E → Bool → H → Option H)

/-- The edges that hear a message on a node, each with the end at which it does. An edge does not
hear what it has put there itself. -/
def hears (m : Placed N E H) : List (E × Bool × H) :=
  ((T.attached m.node).filter fun port => some port.1 ≠ m.via).map
    fun port => (port.1, port.2, m.content)

/-- What one edge that hears a message does with it. -/
def relayAt (d : E × Bool × H) : Option (Placed N E H) :=
  (forward d.1 d.2.1 d.2.2).map fun content => ⟨T.ends d.1 (!d.2.1), content, some d.1⟩

/-- What all the edges that hear a message put on their other ends. -/
def relay (m : Placed N E H) : List (Placed N E H) :=
  (T.hears m).filterMap (T.relayAt forward)

/-- The nodes that get a message, with repetition, in `n` rounds. -/
def visited : Nat → List (Placed N E H) → List N
  | 0, ms => ms.map (·.node)
  | n + 1, ms => ms.map (·.node) ++ visited n (ms.flatMap (T.relay forward))

/-- What the edges hear in `n` rounds. -/
def heard : Nat → List (Placed N E H) → List (E × Bool × H)
  | 0, ms => ms.flatMap T.hears
  | n + 1, ms => ms.flatMap T.hears ++ heard n (ms.flatMap (T.relay forward))

/-- A content survives `n` crossings. -/
def Survives (pass : H → Option H) : Nat → H → Prop
  | 0, _ => True
  | n + 1, content => ∃ next, pass content = some next ∧ Survives pass n next

/-- The rule of every edge for a message from `s` to `t`: what has the target on the far side is
passed on, what has it on the near side is not. Only the edges that divide the two have to pass it
on. -/
structure Routes (pass : H → Option H) (s t : N) : Prop where
  pass : ∀ e p content, T.side e s ≠ T.side e t → T.side e t ≠ p →
    forward e p content = pass content
  keep : ∀ e p content, T.side e t = p → forward e p content = none

variable {T forward} {pass : H → Option H}

@[simp]
theorem visited_nil (n : Nat) : T.visited forward n [] = [] := by
  induction n with
  | zero => rfl
  | succ n ih => exact ih

@[simp]
theorem heard_nil (n : Nat) : T.heard forward n [] = [] := by
  induction n with
  | zero => rfl
  | succ n ih => exact ih

theorem mem_hears {node : N} {via : Option E} {e : E} {p : Bool} {content content' : H} :
    (e, p, content') ∈ T.hears ⟨node, content, via⟩
      ↔ T.ends e p = node ∧ some e ≠ via ∧ content' = content := by
  simp only [hears, List.mem_map, List.mem_filter, decide_eq_true_eq, Prod.mk.injEq]
  constructor
  · rintro ⟨⟨e', p'⟩, ⟨hmem, hvia⟩, rfl, rfl, rfl⟩
    exact ⟨(T.mem_attached _ _ _).mp hmem, hvia, rfl⟩
  · rintro ⟨hends, hvia, rfl⟩
    exact ⟨(e, p), ⟨(T.mem_attached _ _ _).mpr hends, hvia⟩, rfl, rfl, rfl⟩

theorem nodup_hears (m : Placed N E H) : (T.hears m).Nodup := by
  apply List.Nodup.map _ ((T.nodup_attached m.node).filter _)
  rintro ⟨e, p⟩ ⟨e', p'⟩ heq
  simp only [Prod.mk.injEq] at heq
  exact Prod.ext heq.1 heq.2.1

theorem Routes.next {e : E} {p : Bool} {t : N} (h : T.Routes forward pass (T.ends e p) t)
    (hside : T.side e t ≠ p) : T.Routes forward pass (T.ends e (!p)) t := by
  refine ⟨?_, h.keep⟩
  intro e' p' content hdivides hfar
  by_cases heq : e' = e
  · subst heq
    exact absurd (side_far hside) hdivides
  · rw [side_crossed heq] at hdivides
    exact h.pass e' p' content hdivides hfar

theorem Routes.relay_target {s t : N} (h : T.Routes forward pass s t) (content : H)
    (via : Option E) : T.relay forward ⟨t, content, via⟩ = [] := by
  rw [relay, List.filterMap_eq_nil_iff]
  rintro ⟨e, p, content'⟩ hmem
  have hends : T.ends e p = t := (mem_hears.mp hmem).1
  have hkeep : forward e p content' = none := h.keep e p content' (by rw [← hends, T.side_ends])
  rw [relayAt, hkeep]
  rfl

theorem filterMap_eq_singleton {α β : Type*} {f : α → Option β} {a : α} {b : β}
    {l : List α} (hmem : a ∈ l) (hnodup : l.Nodup) (ha : f a = some b)
    (hother : ∀ x ∈ l, x ≠ a → f x = none) : l.filterMap f = [b] := by
  induction l with
  | nil => cases hmem
  | cons x l ih =>
    obtain ⟨hnotin, hnodup'⟩ := List.nodup_cons.mp hnodup
    by_cases hx : x = a
    · subst hx
      rw [List.filterMap_cons_some ha, List.filterMap_eq_nil_iff.mpr]
      intro y hy
      exact hother y (List.mem_cons_of_mem _ hy) (by rintro rfl; exact hnotin hy)
    · rw [List.filterMap_cons_none (hother x List.mem_cons_self hx)]
      refine ih ?_ hnodup' ?_
      · rcases List.mem_cons.mp hmem with rfl | h
        · exact absurd rfl hx
        · exact h
      · intro y hy
        exact hother y (List.mem_cons_of_mem _ hy)

theorem Routes.relay_step {e : E} {p : Bool} {t : N}
    (h : T.Routes forward pass (T.ends e p) t) (hside : T.side e t ≠ p) {content next : H}
    {via : Option E} (hvia : some e ≠ via) (hpass : pass content = some next) :
    T.relay forward ⟨T.ends e p, content, via⟩ = [⟨T.ends e (!p), next, some e⟩] := by
  have hdivides : T.side e (T.ends e p) ≠ T.side e t := by
    rw [T.side_ends]
    exact hside.symm
  apply filterMap_eq_singleton (a := (e, p, content))
  · exact mem_hears.mpr ⟨rfl, hvia, rfl⟩
  · exact nodup_hears _
  · rw [relayAt, h.pass e p content hdivides hside, hpass]
    rfl
  · rintro ⟨e', p', content'⟩ hmem hne
    obtain ⟨hends, -, rfl⟩ := mem_hears.mp hmem
    -- another edge at this node has the target on the near side
    have hnear : T.side e' t = p' := by
      by_contra hfar
      have heq : e' = e := T.toward_unique e' p' e p t hends hfar hside
      subst heq
      apply hne
      rw [← T.side_ends e' p', hends, T.side_ends]
    rw [relayAt, h.keep e' p' content' hnear]
    rfl

omit [DecidableEq E] in
theorem Toward.not_via {s t : N} {e : E} {p : Bool} (hside : T.side e t ≠ p) (hs : T.ends e p = s)
    {via : Option E} (hvia : ∀ c ∈ via, T.side c s = T.side c t) : some e ≠ via := by
  rintro rfl
  apply hside
  rw [← hvia e rfl, ← hs, T.side_ends]

/-- A message that every edge routes visits the nodes of the walk toward its target and no others,
each once, however long it is watched. -/
theorem visited_eq_path {s t : N} {l : List N} (hwalk : T.Toward t s l) :
    ∀ {content : H} {via : Option E} {n : Nat}, T.Routes forward pass s t →
      (∀ c ∈ via, T.side c s = T.side c t) → Survives pass (l.length - 1) content →
      l.length - 1 ≤ n → T.visited forward n [⟨s, content, via⟩] = l := by
  induction hwalk with
  | here =>
    intro content via n hroutes _ _ _
    cases n with
    | zero => rfl
    | succ n => simp [visited, hroutes.relay_target]
  | @step e p l hside hrest ih =>
    intro content via n hroutes hvia hsurvives hn
    obtain ⟨b, rest, rfl⟩ := List.exists_cons_of_ne_nil hrest.ne_nil
    obtain ⟨next, hpass, hsurvives'⟩ := hsurvives
    obtain ⟨n, rfl⟩ : ∃ k, n = k + 1 := ⟨n - 1, by simp at hn; omega⟩
    have hrelay := hroutes.relay_step hside (Toward.not_via hside rfl hvia) hpass
    have hvia' : ∀ c ∈ some e, T.side c (T.ends e (!p)) = T.side c t := by
      intro c hc
      cases hc
      exact side_far hside
    have hlater := ih (hroutes.next hside) hvia' hsurvives' (n := n) (by simp at hn ⊢; omega)
    simp only [visited, List.map_cons, List.map_nil, List.flatMap_cons, List.flatMap_nil,
      List.append_nil, hrelay, hlater, List.singleton_append]

theorem heard_eq_singleton {s t : N} {l : List N} (hwalk : T.Toward t s l) {c : E}
    (hc : T.ends c (T.side c t) = t) :
    ∀ {content : H} {via : Option E} {n : Nat}, T.Routes forward pass s t →
      T.side c s = T.side c t → some c ≠ via →
      (∀ c ∈ via, T.side c s = T.side c t) → Survives pass (l.length - 1) content →
      l.length - 1 ≤ n →
      ∃ last, (T.heard forward n [⟨s, content, via⟩]).filter (fun d => d.1 = c)
        = [(c, T.side c t, last)] := by
  induction hwalk with
  | here =>
    intro content via n hroutes _ hnot _ _ _
    refine ⟨content, ?_⟩
    have hheard : T.heard forward n [⟨t, content, via⟩] = T.hears ⟨t, content, via⟩ := by
      cases n with
      | zero => simp [heard]
      | succ n => simp [heard, hroutes.relay_target]
    rw [hheard, ← List.filterMap_eq_filter]
    apply filterMap_eq_singleton (a := (c, T.side c t, content))
    · exact mem_hears.mpr ⟨hc, hnot, rfl⟩
    · exact nodup_hears _
    · simp
    · rintro ⟨e, p, content'⟩ hmem hne
      obtain ⟨hends, -, rfl⟩ := mem_hears.mp hmem
      have hec : e ≠ c := by
        rintro rfl
        apply hne
        rw [← hends, T.side_ends]
      simpa using hec
  | @step e p l hside hrest ih =>
    intro content via n hroutes hcs _ hvia hsurvives hn
    obtain ⟨b, rest, rfl⟩ := List.exists_cons_of_ne_nil hrest.ne_nil
    obtain ⟨next, hpass, hsurvives'⟩ := hsurvives
    obtain ⟨n, rfl⟩ : ∃ k, n = k + 1 := ⟨n - 1, by simp at hn; omega⟩
    have hrelay := hroutes.relay_step hside (Toward.not_via hside rfl hvia) hpass
    have hce : c ≠ e := by
      rintro rfl
      rw [T.side_ends] at hcs
      exact hside hcs.symm
    have hvia' : ∀ c ∈ some e, T.side c (T.ends e (!p)) = T.side c t := by
      intro c hc
      cases hc
      exact side_far hside
    obtain ⟨last, hlast⟩ := ih (hroutes.next hside) ((side_crossed hce).trans hcs)
      (by simpa using hce) hvia' hsurvives' (n := n) (by simp at hn ⊢; omega)
    refine ⟨last, ?_⟩
    -- the edge is not at this node, which is not the target
    have hnone : (T.hears ⟨T.ends e p, content, via⟩).filter (fun d => d.1 = c) = [] := by
      rw [List.filter_eq_nil_iff]
      rintro ⟨e', p', content'⟩ hmem heq
      obtain ⟨hends, -, -⟩ := mem_hears.mp hmem
      have heq' : e' = c := by simpa using heq
      subst heq'
      have hp' : p' = T.side e' t := by rw [← hcs, ← hends, T.side_ends]
      apply hside
      rw [← hc, ← hp', hends, T.side_ends]
    simp only [heard, List.flatMap_cons, List.flatMap_nil, List.append_nil, hrelay,
      List.filter_append, hnone, hlast, List.nil_append]

end Messages

end EdgeTree

end KnxStack.Lib
