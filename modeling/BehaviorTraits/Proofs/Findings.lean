import BehaviorTraits.Proofs.LiveNodes
import BehaviorTraits.Validation

/-!
# Findings, node by node

Validation threads a report through the tree.  `preorder` lists the nodes in the order of the visit,
the ones below a leaf too, and marks those that a leaf stands above.

* `validate_eq`: the report has the findings on these nodes, one node after the other.
* `length_nodes`: these are all nodes of the tree.
* `live_preorder`: the live nodes are those without a mark.
-/

namespace BehaviorTraits.Node

mutual

/-- The nodes of a tree, each before its children and marked if a leaf stands above it; `below` says
whether one stands above the whole tree. -/
def preorder (below : Bool) : Node → List (Node × Bool)
  | n@⟨_, _, _, children⟩ => (n, below) :: preorderAll (below || n.isLeaf) children

def preorderAll (below : Bool) : List Node → List (Node × Bool)
  | [] => []
  | n :: ns => preorder below n ++ preorderAll below ns

end

/-- Several nodes are gone through one after the other. -/
theorem preorderAll_eq_flatMap (below : Bool) (ns : List Node) :
    preorderAll below ns = ns.flatMap (preorder below) := by
  induction ns with
  | nil => rfl
  | cons n ns ih => rw [preorderAll, ih, List.flatMap_cons]

/-- A node comes before its children, and these are below a leaf if it is one or is below one. -/
theorem preorder_eq (below : Bool) (n : Node) :
    n.preorder below = (n, below) :: n.children.flatMap (preorder (below || n.isLeaf)) := by
  obtain ⟨id, condition, action, children⟩ := n
  rw [preorder, preorderAll_eq_flatMap]

/-- All nodes of a tree, each before its children. -/
def nodes (n : Node) : List Node := (n.preorder false).map (·.1)

/-- Apart from where they stand, the nodes are those of the tree. -/
theorem map_fst_preorder (below : Bool) (n : Node) : (n.preorder below).map (·.1) = n.nodes := by
  induction n using induct_children generalizing below with
  | step n ih =>
      rw [nodes, preorder_eq, preorder_eq, List.map_cons, List.map_cons, List.map_flatMap,
        List.map_flatMap]
      refine congrArg (n :: ·) (List.flatMap_congr fun child hchild => ?_)
      rw [ih child hchild, ih child hchild]

/-- The nodes of a tree are its root and then those of its children. -/
theorem nodes_eq (n : Node) : n.nodes = n :: n.children.flatMap nodes := by
  rw [nodes, preorder_eq, List.map_cons, List.map_flatMap]
  refine congrArg (n :: ·) (List.flatMap_congr fun child _ => ?_)
  exact map_fst_preorder _ child

/-- **A visit meets all nodes.** -/
theorem length_nodes (n : Node) : n.nodes.length = n.count := by
  induction n using induct_children with
  | step n ih =>
      have hall : ∀ ns : List Node, (∀ child ∈ ns, child.nodes.length = child.count) →
          (ns.flatMap nodes).length = countAll ns := by
        intro ns hns
        induction ns with
        | nil => rfl
        | cons child ns ihns =>
            rw [List.forall_mem_cons] at hns
            rw [List.flatMap_cons, List.length_append, hns.1, ihns hns.2, countAll_cons]
      rw [nodes_eq, List.length_cons, hall _ ih, Nat.add_comm]
      cases n
      rfl

/-! ## Validation -/

/-- The findings on the node itself, under its id. -/
def issues (n : Node) : List Issue := n.findings.map (Issue.mk n.id)

/-- Visiting several nodes reports on each of them, if visiting one does. -/
theorem visitAll_eq {ns : List Node}
    (hns : ∀ n ∈ ns, ∀ r : Report, n.visit r =
      ⟨r.issues ++ n.nodes.flatMap issues, r.nodesChecked + n.nodes.length⟩) (r : Report) :
    visitAll ns r = ⟨r.issues ++ (ns.flatMap nodes).flatMap issues,
      r.nodesChecked + (ns.flatMap nodes).length⟩ := by
  induction ns generalizing r with
  | nil =>
      rw [visitAll, List.flatMap_nil, List.flatMap_nil, List.append_nil]
      rfl
  | cons n ns ih =>
      rw [List.forall_mem_cons] at hns
      rw [visitAll, hns.1, ih hns.2, List.flatMap_cons, List.flatMap_append, List.length_append,
        List.append_assoc, Nat.add_assoc]

/-- A visit adds the findings on all nodes to the report. -/
theorem visit_eq (n : Node) (r : Report) :
    n.visit r = ⟨r.issues ++ n.nodes.flatMap issues, r.nodesChecked + n.nodes.length⟩ := by
  induction n using induct_children generalizing r with
  | step n ih =>
      have hvisit : n.visit r = visitAll n.children (n.check r) := by
        cases n
        rfl
      rw [hvisit, visitAll_eq ih, check, nodes_eq, List.flatMap_cons, List.length_cons]
      dsimp only
      rw [List.append_assoc, Nat.add_assoc, Nat.add_comm 1]
      rfl

/-- **A report has the findings on all nodes in order.** -/
theorem validate_eq (n : Node) : n.validate = ⟨n.nodes.flatMap issues, n.nodes.length⟩ := by
  rw [validate, visit_eq, List.nil_append, Nat.zero_add]

/-! ## Live nodes -/

/-- Below a leaf all nodes are marked. -/
theorem preorder_below (n : Node) : ∀ place ∈ n.preorder true, place.2 = true := by
  induction n using induct_children with
  | step n ih =>
      intro place hplace
      rw [preorder_eq, Bool.true_or] at hplace
      rcases List.mem_cons.mp hplace with rfl | hplace
      · rfl
      · obtain ⟨child, hchild, hplace⟩ := List.mem_flatMap.mp hplace
        exact ih child hchild place hplace

/-- **The live nodes are those without a leaf above them.** -/
theorem live_preorder (n : Node) :
    ((n.preorder false).filter (!·.2)).map (·.1) = n.live := by
  induction n using induct_children with
  | step n ih =>
      rw [preorder_eq, live_eq, Bool.false_or, List.filter_cons_of_pos rfl, List.map_cons,
        List.filter_flatMap, List.map_flatMap, openChildren]
      refine congrArg (n :: ·) ?_
      by_cases hleaf : n.isLeaf = true
      · rw [if_pos hleaf, hleaf, List.flatMap_nil]
        refine List.flatMap_eq_nil_iff.mpr fun child _ => ?_
        rw [List.filter_eq_nil_iff.mpr, List.map_nil]
        intro place hplace
        rw [preorder_below child place hplace]
        decide
      · rw [if_neg hleaf, Bool.eq_false_iff.mpr hleaf]
        exact List.flatMap_congr fun child hchild => ih child hchild

/-- When no leaf has children, all nodes are live. -/
theorem live_eq_nodes {n : Node} (h : ∀ m ∈ n.nodes, m.isLeaf = true → m.children = []) :
    n.live = n.nodes := by
  induction n using induct_children with
  | step n ih =>
      rw [nodes_eq, List.forall_mem_cons] at h
      obtain ⟨hself, hbelow⟩ := h
      have hopen : n.openChildren = n.children := by
        rw [openChildren]
        split
        · rename_i hleaf
          exact (hself hleaf).symm
        · rfl
      rw [live_eq, nodes_eq, hopen]
      refine congrArg (n :: ·) (List.flatMap_congr fun child hchild => ih child hchild ?_)
      exact fun m hm => hbelow m (List.mem_flatMap.mpr ⟨child, hchild, hm⟩)

end BehaviorTraits.Node
