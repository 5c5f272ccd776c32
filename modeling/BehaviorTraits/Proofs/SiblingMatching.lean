import BehaviorTraits.Proofs.LoweredLines
import BehaviorTraits.Proofs.OpposedTexts
import BehaviorTraits.Proofs.Outline
import Mathlib.Data.List.FinRange
import Mathlib.Data.List.Forall2

/-!
# The matching of siblings

Pairing hands each item on to the earliest one that waits for it.  Seen from the front of the list
this is a greedy choice: the first item takes the first later one that it opposes, both are done
with, and the rest is paired in the same way (`greedy_pairUp`).

By induction on the choices, an item that is opposed by an earlier head stands behind the partner of
that head, or is this partner, or was taken by a head before it (`Greedy.taken`).  So the pairs are
a maximal matching of the places in the list (`matching_pairUp`), and the code of siblings follows
these pairs one by one (`siblings_matched`).
-/

namespace BehaviorTraits.Hook

/-! ## The greedy choice -/

section

variable {α : Type} {opposes : α → α → Bool}

/-- From the front of the list, each item that is still there takes the first later one that it
opposes; an item that opposes none of them stays alone. -/
inductive Greedy (opposes : α → α → Bool) : List α → List (α × Option α) → Prop
  | nil : Greedy opposes [] []
  | alone {x : α} {rest : List α} {pairs : List (α × Option α)}
      (hnone : ∀ y ∈ rest, opposes x y = false) (hrest : Greedy opposes rest pairs) :
      Greedy opposes (x :: rest) ((x, none) :: pairs)
  | paired {x y : α} {before after : List α} {pairs : List (α × Option α)}
      (hbefore : ∀ z ∈ before, opposes x z = false) (hy : opposes x y = true)
      (hrest : Greedy opposes (before ++ after) pairs) :
      Greedy opposes (x :: (before ++ y :: after)) ((x, some y) :: pairs)

/-- Settles items one after the other. -/
def settleAll (opposes : α → α → Bool) (items : List α) (pairs : List (α × Option α)) :
    List (α × Option α) :=
  items.foldl (fun pairs x => settle opposes x pairs) pairs

theorem settleAll_cons (x : α) (items : List α) (pairs : List (α × Option α)) :
    settleAll opposes (x :: items) pairs = settleAll opposes items (settle opposes x pairs) := rfl

/-- Items can be settled in two goes. -/
theorem settleAll_append (first second : List α) (pairs : List (α × Option α)) :
    settleAll opposes (first ++ second) pairs =
      settleAll opposes second (settleAll opposes first pairs) :=
  List.foldl_append

/-- A head with a partner lets every item pass. -/
theorem settleAll_some (head partner : α) (items : List α) (pairs : List (α × Option α)) :
    settleAll opposes items ((head, some partner) :: pairs) =
      (head, some partner) :: settleAll opposes items pairs := by
  induction items generalizing pairs with
  | nil => rfl
  | cons x items ih =>
      rw [settleAll_cons, settleAll_cons]
      exact ih (settle opposes x pairs)

/-- A head without a partner lets the items pass that it does not oppose. -/
theorem settleAll_none {head : α} {items : List α} (h : ∀ x ∈ items, opposes head x = false)
    (pairs : List (α × Option α)) :
    settleAll opposes items ((head, none) :: pairs) =
      (head, none) :: settleAll opposes items pairs := by
  induction items generalizing pairs with
  | nil => rfl
  | cons x items ih =>
      have hx : opposes head x = false := h x List.mem_cons_self
      have hpass : settle opposes x ((head, none) :: pairs) =
          (head, none) :: settle opposes x pairs := by
        simp [settle, hx]
      rw [settleAll_cons, settleAll_cons, hpass]
      exact ih (fun y hy => h y (List.mem_cons_of_mem _ hy)) (settle opposes x pairs)

/-- **The first item takes its partner, and the others are paired as if both were not there.** -/
theorem pairUp_paired {head partner : α} {before after : List α}
    (hbefore : ∀ x ∈ before, opposes head x = false) (hpartner : opposes head partner = true) :
    pairUp opposes (head :: (before ++ partner :: after)) =
      (head, some partner) :: pairUp opposes (before ++ after) := by
  have htake : settle opposes partner ((head, none) :: settleAll opposes before []) =
      (head, some partner) :: settleAll opposes before [] := by
    simp [settle, hpartner]
  calc pairUp opposes (head :: (before ++ partner :: after))
      = settleAll opposes (before ++ partner :: after) [(head, none)] := rfl
    _ = settleAll opposes after
          (settle opposes partner (settleAll opposes before [(head, none)])) := by
        rw [settleAll_append, settleAll_cons]
    _ = (head, some partner) ::
          settleAll opposes after (settleAll opposes before []) := by
        rw [settleAll_none hbefore, htake, settleAll_some]
    _ = (head, some partner) :: pairUp opposes (before ++ after) := by
        rw [← settleAll_append]
        rfl

/-- **Pairing is greedy.** -/
theorem greedy_pairUp (items : List α) : Greedy opposes items (pairUp opposes items) := by
  induction hlength : items.length using Nat.strongRecOn generalizing items with
  | ind n ih =>
      cases items with
      | nil => exact .nil
      | cons x rest =>
          rw [List.length_cons] at hlength
          by_cases hnone : ∀ y ∈ rest, opposes x y = false
          · have hpairs : pairUp opposes (x :: rest) = (x, none) :: pairUp opposes rest :=
              settleAll_none hnone []
            rw [hpairs]
            exact .alone hnone (ih rest.length (by omega) rest rfl)
          · obtain ⟨before, y, after, hbefore, hy, rfl⟩ : ∃ before y after,
                (∀ z ∈ before, opposes x z = false) ∧ opposes x y = true ∧
                  rest = before ++ y :: after := by
              cases hfind : rest.find? (opposes x) with
              | none =>
                  refine absurd (fun y hy => ?_) hnone
                  simpa using List.find?_eq_none.mp hfind y hy
              | some y =>
                  obtain ⟨hy, before, after, hrest, hbefore⟩ :=
                    List.find?_eq_some_iff_append.mp hfind
                  exact ⟨before, y, after, by simpa using hbefore, hy, hrest⟩
            rw [pairUp_paired hbefore hy]
            rw [List.length_append, List.length_cons] at hlength
            refine .paired hbefore hy (ih (before ++ after).length ?_ _ rfl)
            rw [List.length_append]
            omega

/-- The heads are items, in the order of the list. -/
theorem Greedy.heads_sublist {items : List α} {pairs : List (α × Option α)}
    (h : Greedy opposes items pairs) : (pairs.map (·.1)).Sublist items := by
  induction h with
  | nil => exact List.Sublist.refl _
  | alone _ _ ih => exact ih.cons_cons _
  | paired _ _ _ ih =>
      apply List.Sublist.cons_cons
      exact ih.trans ((List.sublist_cons_self _ _).append_left _)

end

/-! ## Pairs of places -/

section

variable {n : Nat} {opposes : Fin n → Fin n → Bool} {places : List (Fin n)}
  {pairs : List (Fin n × Option (Fin n))}

/-- A partner stands behind its head. -/
theorem Greedy.lt_partner (h : Greedy opposes places pairs) (hsorted : places.Pairwise (· < ·)) :
    ∀ i j, (i, some j) ∈ pairs → i < j := by
  induction h with
  | nil =>
      intro i j hmem
      cases hmem
  | alone _ _ ih =>
      rw [List.pairwise_cons] at hsorted
      intro i j hmem
      rcases List.mem_cons.mp hmem with heq | hmem
      · cases heq
      · exact ih hsorted.2 i j hmem
  | @paired x y before after pairs _ _ _ ih =>
      rw [List.pairwise_cons] at hsorted
      have hrest : (before ++ after).Pairwise (· < ·) :=
        hsorted.2.sublist ((List.sublist_cons_self y after).append_left before)
      intro i j hmem
      rcases List.mem_cons.mp hmem with heq | hmem
      · cases heq
        exact hsorted.1 y (List.mem_append_right _ List.mem_cons_self)
      · exact ih hrest i j hmem

/-- **What becomes of an opposite.**  A place that an earlier head opposes is its partner, or
stands behind the partner, or was taken by a head still earlier. -/
theorem Greedy.taken (h : Greedy opposes places pairs) (hsorted : places.Pairwise (· < ·)) :
    ∀ i partner, (i, partner) ∈ pairs → ∀ k ∈ places, i < k → opposes i k = true →
      (∃ j, partner = some j ∧ j ≤ k) ∨ ∃ first, first < i ∧ (first, some k) ∈ pairs := by
  induction h with
  | nil =>
      intro i partner hmem
      cases hmem
  | @alone x rest pairs hnone hrest ih =>
      rw [List.pairwise_cons] at hsorted
      intro i partner hmem k hk hik hopposes
      rcases List.mem_cons.mp hmem with heq | hmem
      · cases heq
        rcases List.mem_cons.mp hk with rfl | hk
        · omega
        · rw [hnone k hk] at hopposes
          cases hopposes
      · have hi : i ∈ rest := hrest.heads_sublist.subset (List.mem_map_of_mem hmem)
        have hxi : x < i := hsorted.1 i hi
        rcases List.mem_cons.mp hk with rfl | hk
        · omega
        · rcases ih hsorted.2 i partner hmem k hk hik hopposes with hown | ⟨first, hfirst, hpair⟩
          · exact .inl hown
          · exact .inr ⟨first, hfirst, List.mem_cons_of_mem _ hpair⟩
  | @paired x y before after pairs hbefore hy hrest ih =>
      rw [List.pairwise_cons] at hsorted
      have hsub : (before ++ after).Sublist (before ++ y :: after) :=
        (List.sublist_cons_self y after).append_left before
      intro i partner hmem k hk hik hopposes
      rcases List.mem_cons.mp hmem with heq | hmem
      · -- the first place: nothing before its partner is opposed by it
        cases heq
        refine .inl ⟨y, rfl, ?_⟩
        rcases List.mem_cons.mp hk with rfl | hk
        · omega
        · rcases List.mem_append.mp hk with hk | hk
          · rw [hbefore k hk] at hopposes
            cases hopposes
          · rcases List.mem_cons.mp hk with rfl | hk
            · exact Nat.le_refl _
            · have hafter := (List.pairwise_append.mp hsorted.2).2.1
              exact Nat.le_of_lt ((List.pairwise_cons.mp hafter).1 k hk)
      · have hi : i ∈ before ++ after := hrest.heads_sublist.subset (List.mem_map_of_mem hmem)
        have hxi : x < i := hsorted.1 i (hsub.subset hi)
        by_cases hky : k = y
        · -- taken by the first place
          exact .inr ⟨x, hxi, hky ▸ List.mem_cons_self⟩
        · have hk' : k ∈ before ++ after := by
            have hkx : k ≠ x := by omega
            simpa [hky, hkx] using hk
          rcases ih (hsorted.2.sublist hsub) i partner hmem k hk' hik hopposes with
            hown | ⟨first, hfirst, hpair⟩
          · exact .inl hown
          · exact .inr ⟨first, hfirst, List.mem_cons_of_mem _ hpair⟩

end

section

variable {α : Type}

/-- **A maximal matching of opposites**, by the places of the items in their list. -/
structure Matching (opposes : α → α → Bool) (items : List α)
    (pairs : List (Fin items.length × Option (Fin items.length))) : Prop where
  /-- Each place is a head or a partner, and only once. -/
  once : (members pairs).Perm (List.finRange items.length)
  /-- The heads are in the order of the list. -/
  ascending : (pairs.map (·.1)).Pairwise (· < ·)
  /-- A partner stands behind its head. -/
  later : ∀ i j, (i, some j) ∈ pairs → i < j
  /-- A head opposes its partner. -/
  opposed : ∀ i j, (i, some j) ∈ pairs → opposes (items.get i) (items.get j) = true
  /-- What a head opposes between itself and its partner was taken by an earlier head. -/
  earliest : ∀ i j, (i, some j) ∈ pairs → ∀ k, i < k → k < j →
    opposes (items.get i) (items.get k) = true → ∃ first, first < i ∧ (first, some k) ∈ pairs
  /-- What an item that stays alone opposes behind it was taken by an earlier head. -/
  alone : ∀ i, (i, none) ∈ pairs → ∀ k, i < k → opposes (items.get i) (items.get k) = true →
    ∃ first, first < i ∧ (first, some k) ∈ pairs
  /-- Items that stay alone do not oppose each other. -/
  maximal : ∀ i k, (i, none) ∈ pairs → (k, none) ∈ pairs →
    opposes (items.get i) (items.get k) = false

/-- A place that is a head is nobody's partner. -/
theorem not_partner_of_head {pairs : List (α × Option α)} (hnodup : (members pairs).Nodup)
    {i k : α} {partner : Option α} (hhead : (k, partner) ∈ pairs) : (i, some k) ∉ pairs := by
  induction pairs with
  | nil => simp
  | cons pair pairs ih =>
      rw [members_cons, List.nodup_append] at hnodup
      obtain ⟨hpair, hrest, hapart⟩ := hnodup
      have hlater : ∀ {head partner x}, (head, partner) ∈ pairs → x ∈ head :: partner.toList →
          x ∈ members pairs := fun hmem hx => List.mem_flatMap.mpr ⟨_, hmem, hx⟩
      intro hpartner
      rcases List.mem_cons.mp hhead with rfl | hhead'
      · rcases List.mem_cons.mp hpartner with heq | hpartner'
        · cases heq
          simp at hpair
        · exact hapart k (by simp) k (hlater hpartner' (by simp)) rfl
      · rcases List.mem_cons.mp hpartner with rfl | hpartner'
        · exact hapart k (by simp) k (hlater hhead' (by simp)) rfl
        · exact ih hrest hhead' hpartner'

/-- **Pairing makes a maximal matching.** -/
theorem matching_pairUp {opposes : α → α → Bool} (hsymm : ∀ a b, opposes a b = opposes b a)
    (hself : ∀ a, opposes a a = false) (items : List α) :
    Matching opposes items
      (pairUp (fun i j => opposes (items.get i) (items.get j)) (List.finRange items.length)) := by
  let opposed := fun i j => opposes (items.get i) (items.get j)
  have hsorted : (List.finRange items.length).Pairwise (· < ·) := List.pairwise_lt_finRange _
  have hgreedy : Greedy opposed _ (pairUp opposed (List.finRange items.length)) := greedy_pairUp _
  have honce := members_pairUp opposed (List.finRange items.length)
  have hopposed : ∀ i j, (i, some j) ∈ pairUp opposed (List.finRange items.length) →
      opposed i j = true := fun i j => pairUp_opposes
  change Matching opposes items (pairUp opposed (List.finRange items.length))
  generalize pairUp opposed (List.finRange items.length) = pairs at *
  have hnodup : (members pairs).Nodup := honce.nodup_iff.mpr (List.nodup_finRange _)
  have halone : ∀ i, (i, none) ∈ pairs → ∀ k, i < k → opposed i k = true →
      ∃ first, first < i ∧ (first, some k) ∈ pairs := by
    intro i hi k hik hopposes
    rcases hgreedy.taken hsorted i none hi k (List.mem_finRange k) hik hopposes with
      ⟨j, hnone, -⟩ | hfirst
    · cases hnone
    · exact hfirst
  have hfree : ∀ i k, (i, none) ∈ pairs → (k, none) ∈ pairs → i < k → opposed i k = false := by
    intro i k hi hk hik
    by_contra hopposes
    rw [Bool.not_eq_false] at hopposes
    obtain ⟨first, -, hpair⟩ := halone i hi k hik hopposes
    exact not_partner_of_head hnodup hk hpair
  constructor
  · exact honce
  · exact hsorted.sublist hgreedy.heads_sublist
  · exact hgreedy.lt_partner hsorted
  · exact hopposed
  · intro i j hij k hik hkj hopposes
    rcases hgreedy.taken hsorted i (some j) hij k (List.mem_finRange k) hik hopposes with
      ⟨j', heq, hle⟩ | hfirst
    · cases heq
      omega
    · exact hfirst
  · exact halone
  · intro i k hi hk
    rcases Nat.lt_trichotomy i k with hlt | heq | hgt
    · exact hfree i k hi hk hlt
    · rw [Fin.ext heq]
      exact hself _
    · rw [hsymm]
      exact hfree k i hk hi hgt

end

/-! ## The code of a pair -/

/-- The lines are the code of the plan, as it is written behind other code. -/
def IsCodeOf (env : Env) (depth : Nat) (plan : Plan) (lines : List Line) : Prop :=
  ∃ b, ((lowerAll env depth plan).run b).1 = lines

/-- The code tests the condition. -/
def IsTestOf (env : Env) (condition : String) (code : Code) : Prop :=
  ∃ b, .branch ((testOf env.lookup condition).run b).1.1 ((testOf env.lookup condition).run b).1.2 =
    code

/-- How a sibling stands in the code, with its partner if it has one. -/
inductive Placed (env : Env) (depth : Nat) : Node → Option Node → List Line → Prop
  /-- Without a condition there is no test. -/
  | plain {node : Node} {lines : List Line} (hguard : node.guard? = none)
      (hlines : IsCodeOf env depth (outline node).bare lines) : Placed env depth node none lines
  /-- A test and its block. -/
  | branch {node : Node} {condition : String} {test : Code} {yes : List Line}
      (hguard : node.guard? = some condition) (htest : IsTestOf env condition test)
      (hyes : IsCodeOf env (depth + 1) (outline node).yes yes) (hnone : node.negating = []) :
      Placed env depth node none
        (linesAt depth (nodeMark env.comments node.id) ++ ⟨depth, test⟩ :: braced depth yes)
  /-- A test with its block and an `else` with another.  In this one stand the children that oppose
  the node, and behind them the partner without its condition. -/
  | branchElse {node : Node} {partner : Option Node} {condition : String} {test : Code}
      {yes no other : List Line}
      (hguard : node.guard? = some condition) (htest : IsTestOf env condition test)
      (hyes : IsCodeOf env (depth + 1) (outline node).yes yes)
      (hno : IsCodeOf env (depth + 1) ((node.negating.map outline).flatMap Outline.bare) no)
      (hother : IsCodeOf env (depth + 1) ((partner.toList.map outline).flatMap Outline.bare) other)
      (hsome : node.negating ≠ [] ∨ partner.isSome = true) :
      Placed env depth node partner
        (linesAt depth (nodeMark env.comments node.id) ++ (⟨depth, test⟩ :: braced depth yes ++
          ⟨depth, .otherwise⟩ :: braced depth (no ++ other)))

/-- Plans can be lowered in two goes, the second from the builder that the first leaves. -/
theorem run_lowerAll_append (env : Env) (depth : Nat) (first second : Plan) (b : Builder) :
    (lowerAll env depth (first ++ second)).run b =
      let before := (lowerAll env depth first).run b
      let after := (lowerAll env depth second).run before.2
      (before.1 ++ after.1, after.2) := by
  induction first generalizing b with
  | nil => rfl
  | cons step rest ih =>
      rw [List.cons_append, run_lowerAll_cons, ih, run_lowerAll_cons]
      simp

/-- The code of a plan in pieces is the code of the pieces. -/
theorem lowerAll_flatMap {α : Type} (env : Env) (depth : Nat) (f : α → Plan) (items : List α)
    (b : Builder) :
    ∃ codes : List (List Line),
      ((lowerAll env depth (items.flatMap f)).run b).1 = codes.flatten ∧
      List.Forall₂ (fun item code => IsCodeOf env depth (f item) code) items codes := by
  induction items generalizing b with
  | nil => exact ⟨[], rfl, .nil⟩
  | cons item items ih =>
      obtain ⟨codes, hcodes, hall⟩ := ih ((lowerAll env depth (f item)).run b).2
      refine ⟨((lowerAll env depth (f item)).run b).1 :: codes, ?_, .cons ⟨b, rfl⟩ hall⟩
      rw [List.flatMap_cons, run_lowerAll_append, List.flatten_cons, ← hcodes]

/-- The place where a node begins, and then one step. -/
theorem code_of_entered (env : Env) (depth : Nat) (id : String) (step : Step) (b : Builder) :
    ∃ b', ((lowerAll env depth [.enter id, step]).run b).1 =
      linesAt depth (nodeMark env.comments id) ++ ((lower env depth step).run b').1 := by
  refine ⟨((lower env depth (.enter id)).run b).2, ?_⟩
  rw [run_lowerAll_cons, run_lowerAll_cons]
  change _ ++ (_ ++ []) = _
  rw [List.append_nil]
  rfl

section

variable {env : Env} {depth : Nat}

/-- The code of two plans in a row can be cut between them. -/
theorem IsCodeOf.append {first second : Plan} {lines : List Line}
    (h : IsCodeOf env depth (first ++ second) lines) :
    ∃ before after, IsCodeOf env depth first before ∧ IsCodeOf env depth second after ∧
      lines = before ++ after := by
  obtain ⟨b, rfl⟩ := h
  rw [run_lowerAll_append]
  exact ⟨_, _, ⟨b, rfl⟩, ⟨_, rfl⟩, rfl⟩

/-- The code of a node that asks for its condition. -/
theorem placed_of_guard {node : Node} {condition : String} (hguard : node.guard? = some condition)
    (partner : Option Node) (b : Builder) :
    Placed env depth node partner
      ((lowerAll env depth ((outline node).place (partner.map outline))).run b).1 := by
  rw [place_guarded hguard]
  by_cases hside : node.negating ++ partner.toList = []
  · obtain ⟨hnone, hpartner⟩ := List.append_eq_nil_iff.mp hside
    obtain rfl : partner = none := by simpa using hpartner
    rw [if_pos hside]
    obtain ⟨b', hcode⟩ := code_of_entered env depth node.id
      (.guarded condition (outline node).yes) b
    rw [hcode, run_lower_guarded]
    exact .branch hguard ⟨b', rfl⟩ ⟨_, rfl⟩ hnone
  · rw [if_neg hside]
    obtain ⟨b', hcode⟩ := code_of_entered env depth node.id
      (.either condition (outline node).yes (otherSide node partner)) b
    rw [hcode, run_lower_either]
    dsimp only
    generalize hother : ((lowerAll env (depth + 1) (otherSide node partner)).run _).1 = lines
    have hlines : IsCodeOf env (depth + 1) (otherSide node partner) lines := ⟨_, hother⟩
    rw [otherSide, List.map_append, List.flatMap_append] at hlines
    obtain ⟨no, other, hno, hpartner, rfl⟩ := hlines.append
    have hsome : node.negating ≠ [] ∨ partner.isSome = true := by
      by_contra hnone
      rw [not_or, not_not, Bool.not_eq_true, Option.isSome_eq_false_iff,
        Option.isNone_iff_eq_none] at hnone
      apply hside
      rw [hnone.1, hnone.2]
      rfl
    exact .branchElse hguard ⟨b', rfl⟩ ⟨_, rfl⟩ hno hpartner hsome

/-- **How a pair stands in the code.** -/
theorem placed_pair {node : Node} {partner : Option Node}
    (hopposes : ∀ other ∈ partner, node.opposes other = true) {lines : List Line}
    (hlines : IsCodeOf env depth (Outline.placePair (mapPair outline (node, partner))) lines) :
    Placed env depth node partner lines := by
  obtain ⟨b, rfl⟩ := hlines
  cases partner with
  | none =>
      change Placed env depth node none
        ((lowerAll env depth ((outline node).place (Option.map outline none))).run b).1
      cases hguard : node.guard? with
      | none =>
          rw [place_unguarded hguard]
          exact .plain hguard ⟨b, rfl⟩
      | some condition => exact placed_of_guard hguard none b
  | some partner =>
      have hboth := hopposes partner rfl
      unfold Node.opposes at hboth
      cases hguard : node.guard? with
      | none =>
          rw [hguard] at hboth
          cases hboth
      | some condition => exact placed_of_guard hguard (some partner) _

end

/-- Opposition of nodes goes both ways. -/
theorem opposes_comm (a b : Node) : a.opposes b = b.opposes a := by
  unfold Node.opposes
  cases a.guard? <;> cases b.guard? <;> simp [Condition.opposed_comm]

/-- No node opposes itself. -/
theorem opposes_self (a : Node) : a.opposes a = false := by
  unfold Node.opposes
  cases a.guard? <;> simp [Condition.opposed_self]

/-- **The matching of siblings.**  The code of siblings is made of pieces, one for each pair of a
maximal matching of opposed conditions.  A head with a condition has one test, with the partner on
its other side if it has one, and a sibling without a condition has no test. -/
theorem siblings_matched (env : Env) (depth : Nat) (nodes : List Node) (b : Builder) :
    ∃ (pairs : List (Fin nodes.length × Option (Fin nodes.length))) (codes : List (List Line)),
      Matching Node.opposes nodes pairs ∧
      ((lowerAll env depth (Outline.siblings (outlines nodes))).run b).1 = codes.flatten ∧
      List.Forall₂ (fun pair code =>
        Placed env depth (nodes.get pair.1) (pair.2.map nodes.get) code) pairs codes := by
  let pairs := pairUp (fun i j => (nodes.get i).opposes (nodes.get j))
    (List.finRange nodes.length)
  have hmatching : Matching Node.opposes nodes pairs :=
    matching_pairUp opposes_comm opposes_self nodes
  have hpairs : pairUp Node.opposes nodes = pairs.map (mapPair nodes.get) := by
    have hget : (List.finRange nodes.length).map nodes.get = nodes := List.map_get_finRange nodes
    nth_rewrite 1 [← hget]
    exact pairUp_map nodes.get (fun _ _ => rfl) (List.finRange nodes.length)
  obtain ⟨codes, hcodes, hall⟩ := lowerAll_flatMap env depth
    (fun pair => Outline.placePair (mapPair outline (mapPair nodes.get pair))) pairs b
  refine ⟨pairs, codes, hmatching, ?_, ?_⟩
  · rw [outlines_eq_map, siblings_outline, hpairs, List.flatMap_map]
    exact hcodes
  · have hopposes : ∀ pair ∈ pairs, ∀ partner ∈ pair.2.map nodes.get,
        (nodes.get pair.1).opposes partner = true := by
      rintro ⟨i, partner⟩ hpair other hother
      obtain ⟨j, hj, rfl⟩ := Option.map_eq_some_iff.mp hother
      exact hmatching.opposed i j (hj ▸ hpair)
    refine ((List.forall₂_and_left _ _).mpr ⟨hopposes, hall⟩).imp ?_
    intro pair code hpair
    exact placed_pair hpair.1 hpair.2

/-- Wait, whatever is the case. -/
def idle : Node := { id := "idle", action := some "Wait(1)" }

/-- **A sibling without a condition has no test**, and is on nobody's other side. -/
theorem unguarded_sibling_has_no_test :
    let code := ((lowerAll ⟨fun _ => none, true⟩ 0 (Outline.siblings (outlines [idle]))).run
      { fields := [] }).1
    code = [⟨0, .remark (.node "idle")⟩, ⟨0, .queue (.wait (.count "1"))⟩] ∧
      ∀ line ∈ code, line.code.shape ≠ .test ∧ line.code.shape ≠ .otherwise := by
  intro code
  have hcode : code = [⟨0, .remark (.node "idle")⟩, ⟨0, .queue (.wait (.count "1"))⟩] := by decide
  refine ⟨hcode, ?_⟩
  rw [hcode]
  decide

end BehaviorTraits.Hook
