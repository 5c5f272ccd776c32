import BehaviorTraits.Hook.Pairing
import Mathlib.Data.List.Perm.Basic

/-!
# What pairing does to a list

`pairUp` hands each item to the earliest item that still waits for an opposite, or lets it wait
itself.  Three facts about it hold whatever the relation is, and all that is said about merged
siblings rests on them:

* `members_pairUp` — the heads and partners together are the items, each one once;
* `pairUp_opposes` — a head opposes the partner it was given;
* `pairUp_map` — pairing sees nothing of the items but the relation between them.
-/

namespace BehaviorTraits.Hook

variable {α β : Type}

/-- The heads of a list of pairs, each followed by its partner if it has one. -/
def members (pairs : List (α × Option α)) : List α :=
  pairs.flatMap fun pair => pair.1 :: pair.2.toList

/-- Both sides of a pair under a map. -/
def mapPair (f : α → β) : α × Option α → β × Option β := Prod.map f (Option.map f)

/-- The members of a pair come before those of the others. -/
theorem members_cons (pair : α × Option α) (pairs : List (α × Option α)) :
    members (pair :: pairs) = pair.1 :: pair.2.toList ++ members pairs := by
  simp [members]

/-- Settling an item adds this item and nothing else. -/
theorem members_settle (opposes : α → α → Bool) (x : α) (pairs : List (α × Option α)) :
    (members (settle opposes x pairs)).Perm (x :: members pairs) := by
  induction pairs with
  | nil => simp [settle, members]
  | cons pair pairs ih =>
      obtain ⟨head, partner⟩ := pair
      cases partner with
      | none =>
          by_cases h : opposes head x = true
          · simpa [settle, h, members_cons] using List.Perm.swap x head (members pairs)
          · have hkeep : (head :: members (settle opposes x pairs)).Perm
                (head :: x :: members pairs) := ih.cons head
            simpa [settle, h, members_cons] using hkeep.trans (List.Perm.swap x head _)
      | some partner =>
          have hkeep : (head :: partner :: members (settle opposes x pairs)).Perm
              (head :: partner :: x :: members pairs) := (ih.cons partner).cons head
          have hswap : (head :: partner :: x :: members pairs).Perm
              (x :: head :: partner :: members pairs) :=
            ((List.Perm.swap x partner _).cons head).trans (List.Perm.swap x head _)
          simpa [settle, members_cons] using hkeep.trans hswap

/-- **Nothing is lost or doubled.**  Heads and partners together are the items. -/
theorem members_pairUp (opposes : α → α → Bool) (items : List α) :
    (members (pairUp opposes items)).Perm items := by
  have hfold : ∀ (items : List α) (pairs : List (α × Option α)),
      (members (items.foldl (fun pairs x => settle opposes x pairs) pairs)).Perm
        (members pairs ++ items) := by
    intro items
    induction items with
    | nil => intro pairs; simp
    | cons x items ih =>
        intro pairs
        have hsettle : (members (settle opposes x pairs) ++ items).Perm
            (x :: members pairs ++ items) := (members_settle opposes x pairs).append_right items
        exact (ih (settle opposes x pairs)).trans (hsettle.trans List.perm_middle.symm)
  simpa [pairUp, members] using hfold items []

/-- Both members of a pair are items. -/
theorem mem_of_mem_pairUp {opposes : α → α → Bool} {items : List α} {pair : α × Option α}
    {member : α} (hpair : pair ∈ pairUp opposes items) (hmember : member ∈ pair.1 :: pair.2.toList) :
    member ∈ items :=
  (members_pairUp opposes items).mem_iff.mp (List.mem_flatMap.mpr ⟨pair, hpair, hmember⟩)

/-- Settling an item makes no pair that does not oppose. -/
theorem settle_opposes {opposes : α → α → Bool} {x : α} {pairs : List (α × Option α)}
    (hpairs : ∀ head partner, (head, some partner) ∈ pairs → opposes head partner = true) :
    ∀ head partner, (head, some partner) ∈ settle opposes x pairs →
      opposes head partner = true := by
  induction pairs with
  | nil => simp [settle]
  | cons pair pairs ih =>
      have htail := ih fun head partner hmem =>
        hpairs head partner (List.mem_cons_of_mem _ hmem)
      obtain ⟨first, waiting⟩ := pair
      intro head partner hmem
      cases waiting with
      | none =>
          by_cases h : opposes first x = true
          · simp only [settle, h, if_true, List.mem_cons, Prod.mk.injEq, Option.some.injEq] at hmem
            rcases hmem with ⟨rfl, rfl⟩ | hmem
            · exact h
            · exact hpairs head partner (List.mem_cons_of_mem _ hmem)
          · have hlater : (head, some partner) ∈ settle opposes x pairs := by
              simpa [settle, h] using hmem
            exact htail head partner hlater
      | some other =>
          simp only [settle, List.mem_cons] at hmem
          rcases hmem with heq | hmem
          · exact hpairs head partner (heq ▸ List.mem_cons_self)
          · exact htail head partner hmem

/-- **A partner is an opposite.** -/
theorem pairUp_opposes {opposes : α → α → Bool} {items : List α} {head partner : α}
    (hmem : (head, some partner) ∈ pairUp opposes items) : opposes head partner = true := by
  have hfold : ∀ (items : List α) (pairs : List (α × Option α)),
      (∀ head partner, (head, some partner) ∈ pairs → opposes head partner = true) →
      ∀ head partner, (head, some partner) ∈
        items.foldl (fun pairs x => settle opposes x pairs) pairs →
        opposes head partner = true := by
    intro items
    induction items with
    | nil => intro pairs hpairs; exact hpairs
    | cons x items ih =>
        intro pairs hpairs
        exact ih (settle opposes x pairs) (settle_opposes hpairs)
  exact hfold items [] (by simp) head partner hmem

/-- Settling an item sees nothing of it but the relation to the heads. -/
theorem settle_map {opposes : α → α → Bool} {opposes' : β → β → Bool} (f : α → β)
    (hf : ∀ a b, opposes' (f a) (f b) = opposes a b) (x : α) (pairs : List (α × Option α)) :
    settle opposes' (f x) (pairs.map (mapPair f)) =
      (settle opposes x pairs).map (mapPair f) := by
  induction pairs with
  | nil => rfl
  | cons pair pairs ih =>
      obtain ⟨head, partner⟩ := pair
      cases partner with
      | none =>
          by_cases h : opposes head x = true
          · simp [settle, mapPair, hf, h]
          · simpa [settle, mapPair, hf, h] using ih
      | some partner => simpa [settle, mapPair] using ih

/-- **Pairing is blind to everything but the relation.**  A map that keeps the relation between
items can be made before or after pairing. -/
theorem pairUp_map {opposes : α → α → Bool} {opposes' : β → β → Bool} (f : α → β)
    (hf : ∀ a b, opposes' (f a) (f b) = opposes a b) (items : List α) :
    pairUp opposes' (items.map f) = (pairUp opposes items).map (mapPair f) := by
  have hfold : ∀ (items : List α) (pairs : List (α × Option α)),
      (items.map f).foldl (fun pairs x => settle opposes' x pairs) (pairs.map (mapPair f)) =
        (items.foldl (fun pairs x => settle opposes x pairs) pairs).map (mapPair f) := by
    intro items
    induction items with
    | nil => intro pairs; rfl
    | cons x items ih =>
        intro pairs
        simp only [List.map_cons, List.foldl_cons, settle_map f hf]
        exact ih (settle opposes x pairs)
  exact hfold items []

end BehaviorTraits.Hook
