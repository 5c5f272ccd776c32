import BehaviorTraits.Proofs.LiveNodes

/-!
# Where events come from

A plan mixes the texts of many nodes.  Still each of its events has one node that it comes from: the
node that begins, the one whose condition is tested, the one whose action is carried out.  All these
nodes are live (`events_from_live`), so what is true of the texts of live nodes is true of all texts
that lowering ever sees.
-/

namespace BehaviorTraits.Hook

/-- The texts of the event are those of the node. -/
def Event.ComesFrom (node : Node) : Event → Prop
  | .enter id _ => id = node.id
  | .merge head _ => head = node.id
  | .decide condition => node.guard? = some condition
  | .perform id action dropped =>
    id = node.id ∧ node.task? = some action ∧ dropped = node.children.length

/-- Each event of the plan comes from one of the nodes. -/
def Draws (nodes : List Node) (plan : Plan) : Prop :=
  ∀ depth, ∀ event ∈ eventsOf depth plan, ∃ node ∈ nodes, event.ComesFrom node

section

variable {nodes : List Node} {node : Node}

namespace Draws

/-- An empty plan draws on nothing. -/
theorem nil : Draws nodes [] := by
  intro depth event hevent
  cases hevent

/-- Plans in a row draw on the nodes that each of them draws on. -/
theorem append {first second : Plan} (hfirst : Draws nodes first) (hsecond : Draws nodes second) :
    Draws nodes (first ++ second) := by
  intro depth event hevent
  rw [eventsOf_append] at hevent
  exact (List.mem_append.mp hevent).elim (hfirst depth event) (hsecond depth event)

theorem flatMap {α : Type} {f : α → Plan} {items : List α}
    (hitems : ∀ item ∈ items, Draws nodes (f item)) : Draws nodes (items.flatMap f) := by
  induction items with
  | nil => exact nil
  | cons item items ih =>
      rw [List.flatMap_cons]
      refine (hitems item List.mem_cons_self).append (ih ?_)
      intro other hother
      exact hitems other (List.mem_cons_of_mem _ hother)

theorem enter (hnode : node ∈ nodes) : Draws nodes [.enter node.id] := by
  intro depth event hevent
  rw [List.mem_singleton.mp hevent]
  exact ⟨node, hnode, rfl⟩

theorem merge (hnode : node ∈ nodes) (partner : String) :
    Draws nodes [.merge node.id partner] := by
  intro depth event hevent
  rw [List.mem_singleton.mp hevent]
  exact ⟨node, hnode, rfl⟩

/-- The task of a leaf is drawn from that leaf. -/
theorem taskPlan (hnode : node ∈ nodes) : Draws nodes (taskPlan node) := by
  rw [Hook.taskPlan]
  cases htask : node.task? with
  | none => exact nil
  | some action =>
      intro depth event hevent
      rw [List.mem_singleton.mp hevent]
      exact ⟨node, hnode, rfl, htask, rfl⟩

/-- A test is drawn from the node that has its condition. -/
theorem guarded {condition : String} (hnode : node ∈ nodes)
    (hguard : node.guard? = some condition) {yes : Plan} (hyes : Draws nodes yes) :
    Draws nodes [.guarded condition yes] := by
  intro depth event hevent
  have hmem : event ∈ .decide condition :: eventsOf (depth + 1) yes := by
    simpa [eventsOf, Step.events] using hevent
  rcases List.mem_cons.mp hmem with rfl | hmem
  · exact ⟨node, hnode, hguard⟩
  · exact hyes (depth + 1) event hmem

/-- A test with two sides is drawn from the node of its condition, if both sides draw on the
nodes. -/
theorem either {condition : String} (hnode : node ∈ nodes)
    (hguard : node.guard? = some condition) {yes no : Plan} (hyes : Draws nodes yes)
    (hno : Draws nodes no) : Draws nodes [.either condition yes no] := by
  intro depth event hevent
  have hmem : event ∈ .decide condition ::
      (eventsOf (depth + 1) yes ++ eventsOf (depth + 1) no) := by
    simpa [eventsOf, Step.events] using hevent
  rcases List.mem_cons.mp hmem with rfl | hmem
  · exact ⟨node, hnode, hguard⟩
  · exact (List.mem_append.mp hmem).elim (hyes (depth + 1) event) (hno (depth + 1) event)

end Draws

/-- The node draws on the nodes, with and without its guard, and whatever partner it is given. -/
structure Drawn (nodes : List Node) (node : Node) : Prop where
  listed : node ∈ nodes
  bare : Draws nodes (outline node).bare
  place : ∀ partner : Option Node, (∀ p ∈ partner, Draws nodes (outline p).bare) →
    Draws nodes ((outline node).place (partner.map outline))

/-- **Siblings draw on the nodes that each of them draws on**, paired or not. -/
theorem draws_siblings {children : List Node} (hchildren : ∀ child ∈ children, Drawn nodes child) :
    Draws nodes (Outline.siblings (children.map outline)) := by
  rw [siblings_outline]
  refine .flatMap ?_
  rintro ⟨head, partner⟩ hpair
  have hmem : ∀ child ∈ head :: partner.toList, Drawn nodes child := fun child hchild =>
    hchildren child (mem_of_mem_pairUp hpair hchild)
  have hhead : Drawn nodes head := hmem head List.mem_cons_self
  cases partner with
  | none => exact hhead.place none (by simp)
  | some partner =>
      have hpartner : Drawn nodes partner := hmem partner (by simp)
      have hplace : Draws nodes ((outline head).place (some (outline partner))) :=
        hhead.place (some partner) (by simpa using hpartner.bare)
      have hmerge := Draws.merge hhead.listed (outline partner).id
      rw [← outline_id head] at hmerge
      exact hmerge.append hplace

/-- **What a node draws on.**  If the children that count draw on the nodes, so does the node. -/
theorem drawn_of_openChildren (hnode : node ∈ nodes)
    (hchildren : ∀ child ∈ node.openChildren, Drawn nodes child) : Drawn nodes node := by
  have henter : Draws nodes [.enter node.id] := .enter hnode
  have hbare : Draws nodes (outline node).bare := by
    rw [outline_bare]
    exact henter.append ((Draws.taskPlan hnode).append (draws_siblings hchildren))
  refine ⟨hnode, hbare, fun partner hpartner => ?_⟩
  cases hguard : node.guard? with
  | none =>
      rw [place_unguarded hguard]
      exact hbare
  | some condition =>
      have hyes : Draws nodes (outline node).yes := by
        rw [(outline_sides node).1]
        refine (Draws.taskPlan hnode).append (draws_siblings fun child hchild => ?_)
        exact hchildren child (List.mem_of_mem_filter hchild)
      have hother : Draws nodes (otherSide node partner) := by
        rw [otherSide, List.flatMap_map]
        refine .flatMap fun child hchild => ?_
        rcases List.mem_append.mp hchild with hchild | hchild
        · exact (hchildren child (List.mem_of_mem_filter hchild)).bare
        · exact hpartner child (Option.mem_toList.mp hchild)
      rw [place_guarded hguard]
      split
      · exact henter.append (.guarded hnode hguard hyes)
      · exact henter.append (.either hnode hguard hyes hother)

end

/-- **A node draws on the live nodes below it**, itself included. -/
theorem drawn_of_live (node : Node) :
    ∀ nodes : List Node, node.live ⊆ nodes → Drawn nodes node := by
  -- The nodes stay the same all the way down: those of a child are among those of its parent.
  induction node using Node.induct_openChildren with
  | step node ih =>
    intro nodes hlive
    rw [Node.live_eq] at hlive
    obtain ⟨hnode, hbelow⟩ := List.cons_subset.mp hlive
    refine drawn_of_openChildren hnode fun child hchild => ih child hchild nodes ?_
    intro other hother
    exact hbelow (List.mem_flatMap.mpr ⟨child, hchild, hother⟩)

/-- **Every event comes from a live node.** -/
theorem events_from_live (root : Node) : Draws root.live (plan root) :=
  (drawn_of_live root root.live fun _ h => h).place none (by simp)

end BehaviorTraits.Hook
