import BehaviorTraits.Proofs.Faults

/-!
# Dead ends

A node that neither acts nor has children leads nowhere.  Validation reports such a node wherever it
stands, with one exception: the entry of a tree may be empty.  The entry is known by its name and
not by its place, so the exception holds for every node that is named `root`, in any ASCII case.

* `mem_nodes_iff`: the visit meets the top of the tree and all that stands below it.
* `filter_issues`: the dead ends in a report are the nodes that lead nowhere, one by one.
* `dead_ends_reported` says which dead ends are reported, and `nested_entry_passes` has a tree where
  one is not.
-/

namespace BehaviorTraits.Node

open Text

/-! ## The nodes of a tree -/

/-- The second node stands below the first, at any depth. -/
inductive Below : Node → Node → Prop
  | child {n child : Node} (hchild : child ∈ n.children) : Below n child
  | deeper {n child m : Node} (hchild : child ∈ n.children) (hm : Below child m) : Below n m

/-- **A visit meets the top and what stands below it**, and no other node. -/
theorem mem_nodes_iff (n m : Node) : m ∈ n.nodes ↔ m = n ∨ Below n m := by
  induction n using induct_children with
  | step n ih =>
      rw [nodes_eq, List.mem_cons]
      apply or_congr_right
      constructor
      · intro hmem
        obtain ⟨child, hchild, hm⟩ := List.mem_flatMap.mp hmem
        rcases (ih child hchild).mp hm with rfl | hbelow
        · exact .child hchild
        · exact .deeper hchild hbelow
      · intro hbelow
        apply List.mem_flatMap.mpr
        cases hbelow with
        | child hchild => exact ⟨m, hchild, (ih m hchild).mpr (.inl rfl)⟩
        | @deeper _ child _ hchild hm => exact ⟨child, hchild, (ih child hchild).mpr (.inr hm)⟩

/-! ## Which nodes lead nowhere -/

/-- Does the node have neither an action nor children? -/
def leadsNowhere (n : Node) : Bool := !n.acts && n.children.isEmpty

/-- Is the node named as the entry of a tree is, in any ASCII case? -/
def namedAsEntry (n : Node) : Bool := n.id.toList.map Char.toLower == "root".toList

/-- A node is found to be a dead end once, if it leads nowhere and is not named as an entry. -/
theorem filter_findings (n : Node) :
    n.findings.filter (· = .deadEnd) =
      if n.leadsNowhere && !n.namedAsEntry then [.deadEnd] else [] := by
  have hother : ∀ (p : Prop) [Decidable p] (f : Finding), f ≠ .deadEnd →
      (if p then [f] else []).filter (· = .deadEnd) = [] := by
    intro p _ f hf
    by_cases hp : p <;> simp [hp, hf]
  have hcheck : (!n.acts && n.children.isEmpty && n.id.toList.map Char.toLower != "root".toList) =
      (n.leadsNowhere && !n.namedAsEntry) := rfl
  rw [findings_eq_faults, faults, List.filter_append, List.filter_append, List.filter_append,
    hother _ .missingId (by simp), hother _ (.ambiguousLeaf _) (by simp),
    hother _ (.unusableCondition _) (by simp), hcheck]
  by_cases hdead : (n.leadsNowhere && !n.namedAsEntry) = true <;> simp [hdead]

/-- **The dead ends in a report** are the nodes that lead nowhere and are not named as entries, one
after the other. -/
theorem filter_issues (top : Node) :
    top.validate.issues.filter (·.finding = .deadEnd) =
      (top.nodes.filter fun n => n.leadsNowhere && !n.namedAsEntry).map fun n =>
        ⟨n.id, .deadEnd⟩ := by
  have hnode : ∀ n : Node, n.issues.filter (·.finding = .deadEnd) =
      if n.leadsNowhere && !n.namedAsEntry then [⟨n.id, .deadEnd⟩] else [] := by
    intro n
    have hmap : n.issues.filter (·.finding = .deadEnd) =
        (n.findings.filter (· = .deadEnd)).map (Issue.mk n.id) := List.filter_map
    rw [hmap, filter_findings]
    by_cases hdead : (n.leadsNowhere && !n.namedAsEntry) = true <;> simp [hdead]
  rw [validate_eq]
  induction top.nodes with
  | nil => rfl
  | cons n ns ih =>
      rw [List.flatMap_cons, List.filter_append, hnode, ih]
      by_cases hdead : (n.leadsNowhere && !n.namedAsEntry) = true <;> simp [hdead]

/-- **Dead ends are reported, entries apart.**  Let a node of the tree lead nowhere, be it the top
or below it.  The report has it as a dead end just if it is not named as an entry.  All dead ends
of the report come about in this way, one for each such node, in the order of the visit. -/
theorem dead_ends_reported (top : Node) :
    (∀ n, n = top ∨ Below top n → n.leadsNowhere = true →
      (⟨n.id, .deadEnd⟩ ∈ top.validate.issues ↔ n.namedAsEntry = false)) ∧
    top.validate.issues.filter (·.finding = .deadEnd) =
      (top.nodes.filter fun n => n.leadsNowhere && !n.namedAsEntry).map fun n =>
        ⟨n.id, .deadEnd⟩ := by
  refine ⟨fun n hn hdead => ?_, filter_issues top⟩
  have hfilter : ⟨n.id, .deadEnd⟩ ∈ top.validate.issues ↔
      ⟨n.id, .deadEnd⟩ ∈ top.validate.issues.filter (·.finding = .deadEnd) := by
    simp [List.mem_filter]
  rw [hfilter, filter_issues, List.mem_map]
  constructor
  · -- whichever node the report has in mind, its name is this one
    rintro ⟨m, hm, hissue⟩
    have hid : m.id = n.id := congrArg Issue.nodeId hissue
    have hentry : m.namedAsEntry = n.namedAsEntry := by rw [namedAsEntry, namedAsEntry, hid]
    have hm' := (List.mem_filter.mp hm).2
    rw [hentry] at hm'
    simpa using (Bool.and_eq_true_iff.mp hm').2
  · intro hentry
    refine ⟨n, List.mem_filter.mpr ⟨(mem_nodes_iff top n).mpr hn, ?_⟩, rfl⟩
    rw [hdead, hentry]
    rfl

/-- **An entry below the top is let pass.**  The node leads nowhere, and the report is empty. -/
theorem nested_entry_passes :
    let stub : Node := { id := "Root" }
    let camp : Node := { id := "camp", children := [stub] }
    Below camp stub ∧ stub.leadsNowhere = true ∧ camp.validate = ⟨[], 2⟩ :=
  ⟨.child List.mem_cons_self, rfl, by decide⟩

end BehaviorTraits.Node
