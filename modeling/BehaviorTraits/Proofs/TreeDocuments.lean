import BehaviorTraits.Proofs.JsonReading
import BehaviorTraits.Tree.Document

/-!
# Trees and their documents

A tree is printed as a document and read from it.  Printing leaves out what a node does not have;
reading gets the entries in the order of their keys, takes each part from the entry of its name and
makes the rest absent again.  So reading gives back the tree (`ofDocument_sorted_toJson`).

A node below another is two arrays or objects further in, so the limit of the reader allows for 64
levels of nodes (`ofTexts_toJson`).
-/

namespace BehaviorTraits.Node

open Json

mutual

/-- The levels of nodes in the tree. -/
def levels : Node → Nat
  | ⟨_, _, _, children⟩ => levelsAll children + 1

def levelsAll : List Node → Nat
  | [] => 0
  | n :: ns => max (levels n) (levelsAll ns)

end

/-! ## The entries of a node -/

/-- The entry of a text that may be absent. -/
def textEntries (key : String) (part : Option String) : List (String × Json) :=
  part.toList.map fun s => (key, .str s)

/-- The entry of the subtrees, if there are any. -/
def childEntries : List Json → List (String × Json)
  | [] => []
  | item :: items => [("children", .arr (item :: items))]

theorem allToJson_eq (ns : List Node) : allToJson ns = ns.map toJson := by
  induction ns with
  | nil => rw [allToJson, List.map_nil]
  | cons n ns ih => rw [allToJson, ih, List.map_cons]

/-- A node is written as an object of its parts, those that are absent left out. -/
theorem toJson_eq (id : String) (condition action : Option String) (children : List Node) :
    toJson ⟨id, condition, action, children⟩ = .obj (("id", .str id) ::
      textEntries "condition" condition ++ textEntries "action" action ++
        childEntries (children.map toJson)) := by
  cases children with
  | nil => rw [toJson]; rfl
  | cons n ns => rw [toJson, allToJson_eq]; rfl

theorem sortedItems_eq (items : List Json) : sortedItems items = items.map sorted := by
  induction items with
  | nil => rw [sortedItems, List.map_nil]
  | cons item items ih => rw [sortedItems, ih, List.map_cons]

/-- A reader has the entries of a node in the order of their keys. -/
theorem sorted_toJson (id : String) (condition action : Option String) (children : List Node) :
    sorted (toJson ⟨id, condition, action, children⟩) = .obj (textEntries "action" action ++
      childEntries (children.map fun n => sorted n.toJson) ++ textEntries "condition" condition ++
        [("id", .str id)]) := by
  have hcondition : "condition" < "id" := by decide
  have haction : "action" < "id" ∧ "action" < "condition" := by decide
  have hchildren : "children" < "id" ∧ "children" < "condition" ∧ ¬ "children" < "action" ∧
      "children" ≠ "action" := by decide
  rw [toJson_eq, sorted]
  cases condition <;> cases action <;> cases children <;>
    simp only [textEntries, childEntries, Option.toList, List.map_nil, List.map_cons,
      List.cons_append, List.nil_append, List.append_nil, sortedEntries, insertEntry, sorted,
      sortedItems_eq, List.map_map, Function.comp_def, hcondition, haction, hchildren, if_true,
      if_false]

/-! ## Reading the entries -/

/-- The parts of a node are read from the entries of their names, and what has none is absent. -/
theorem ofEntries_parts (id : String) (condition action : Option String) (items : List Json) :
    ofEntries (withNodes (textEntries "action" action ++ childEntries items ++
      textEntries "condition" condition ++ [("id", .str id)])) =
        (allOfJson items).map fun children => ⟨id, condition, action, children⟩ := by
  have haction : Text.lower "action" = "action" := by decide
  have hchildren : Text.lower "children" = "children" := by decide
  have hcondition : Text.lower "condition" = "condition" := by decide
  have hid : Text.lower "id" = "id" := by decide
  cases items with
  | nil =>
      rw [allOfJson]
      cases condition <;> cases action <;>
        simp [textEntries, childEntries, withNodes, ofEntries, winner?, haction, hcondition, hid,
          isNull, readOptionalText, readText] <;> rfl
  | cons item items =>
      cases condition <;> cases action <;>
        simp [textEntries, childEntries, withNodes, ofEntries, winner?, haction, hchildren,
          hcondition, hid, isNull, readOptionalText, readText, listOfJson] <;>
        cases allOfJson (item :: items) <;> rfl

mutual

/-- **Reading gives back what was printed**, for a node below the root and for its subtrees. -/
theorem ofJson_sorted_toJson (n : Node) : ofJson (sorted n.toJson) = .ok n := by
  obtain ⟨id, condition, action, children⟩ := n
  rw [sorted_toJson, ofJson, ofEntries_parts, allOfJson_sorted_toJson children]
  rfl

theorem allOfJson_sorted_toJson (ns : List Node) :
    allOfJson (ns.map fun n => sorted n.toJson) = .ok ns := by
  match ns with
  | [] => rw [List.map_nil, allOfJson]
  | n :: ns =>
      rw [List.map_cons, allOfJson, ofJson_sorted_toJson n, allOfJson_sorted_toJson ns]
      rfl

end

/-- **A tree is read back from its value**, as its root is an object. -/
theorem ofDocument_sorted_toJson (n : Node) : ofDocument (sorted n.toJson) = .ok n := by
  rw [← ofJson_sorted_toJson n]
  obtain ⟨id, condition, action, children⟩ := n
  rw [sorted_toJson]
  rfl

/-! ## Levels -/

/-- A tree has a level. -/
theorem levels_pos (n : Node) : 0 < n.levels := by
  obtain ⟨id, condition, action, children⟩ := n
  rw [levels]
  exact Nat.succ_pos _

/-- A text needs no room to nest in. -/
theorem ofTexts_textEntries {key : String} {part : Option String} {entry : String × Json}
    (room : Nat) (h : entry ∈ textEntries key part) : OfTexts room entry.2 := by
  obtain ⟨s, _, rfl⟩ := List.mem_map.mp h
  exact .str room s

mutual

/-- **A node below another is two arrays or objects further in.** -/
theorem ofTexts_toJson (n : Node) (k : Nat) (h : n.levels ≤ k + 1) :
    OfTexts (2 * k + 1) n.toJson := by
  obtain ⟨id, condition, action, children⟩ := n
  rw [levels] at h
  rw [toJson_eq]
  refine .obj fun entry hentry => ?_
  rcases List.mem_append.mp hentry with hentry | hentry
  · rcases List.mem_append.mp hentry with hentry | hentry
    · rcases List.mem_cons.mp hentry with rfl | hentry
      · exact .str _ id
      · exact ofTexts_textEntries _ hentry
    · exact ofTexts_textEntries _ hentry
  · match children, hentry with
    | child :: others, hentry =>
        rw [List.mem_singleton.mp hentry]
        have hone : 1 ≤ levelsAll (child :: others) := by
          rw [levelsAll]
          have hpos := levels_pos child
          omega
        -- a child takes one level, and its array and its object take the two that this leaves
        obtain ⟨j, rfl⟩ : ∃ j, k = j + 1 := ⟨k - 1, by omega⟩
        exact .arr (ofTexts_map_toJson (child :: others) j (by omega))

/-- The values of several trees nest no deeper than their levels allow. -/
theorem ofTexts_map_toJson (ns : List Node) (k : Nat) (h : levelsAll ns ≤ k + 1) :
    ∀ item ∈ ns.map toJson, OfTexts (2 * k + 1) item := by
  match ns with
  | [] => simp
  | n :: ns =>
      rw [levelsAll] at h
      exact List.forall_mem_cons.mpr
        ⟨ofTexts_toJson n k (by omega), ofTexts_map_toJson ns k (by omega)⟩

end

/-! ## The round trip -/

/-- A tree over several lines is read back. -/
theorem parse_prettyText {n : Node} (hn : n.levels ≤ 64) : parse n.prettyText = .ok n := by
  rw [parse, prettyText, parse?_pretty (ofTexts_toJson n 63 hn)]
  exact ofDocument_sorted_toJson n

/-- A tree on one line is read back. -/
theorem parse_compactText {n : Node} (hn : n.levels ≤ 64) : parse n.compactText = .ok n := by
  rw [parse, compactText, parse?_compact (ofTexts_toJson n 63 hn)]
  exact ofDocument_sorted_toJson n

/-- One text is read as one tree. -/
theorem eq_of_parse {text : String} {m n : Node} (hm : parse text = .ok m)
    (hn : parse text = .ok n) : m = n :=
  Except.ok.inj (hm.symm.trans hn)

/-- **A tree of up to 64 levels is read from its text**, over several lines or on one, so different
trees have different texts. -/
theorem tree_read_from_text (n : Node) (hn : n.levels ≤ 64) :
    parse n.prettyText = .ok n ∧ parse n.compactText = .ok n ∧
      ∀ m : Node, m.levels ≤ 64 →
        (m.prettyText = n.prettyText → m = n) ∧ (m.compactText = n.compactText → m = n) := by
  refine ⟨parse_prettyText hn, parse_compactText hn, fun m hm => ⟨fun htext => ?_, fun htext => ?_⟩⟩
  · exact eq_of_parse (htext ▸ parse_prettyText hm) (parse_prettyText hn)
  · exact eq_of_parse (htext ▸ parse_compactText hm) (parse_compactText hn)

/-- Nodes one below the other, with all kinds of characters and with blank parts. -/
def chain : Nat → Node
  | 0 => { id := "\"\\/\x01\n\x7fé😀", condition := some "" }
  | k + 1 => { id := "link", action := some " ", children := [chain k] }

/-- A chain has one level for each node. -/
theorem levels_chain (k : Nat) : (chain k).levels = k + 1 := by
  induction k with
  | zero => rfl
  | succ k ih => rw [chain, levels, levelsAll, levelsAll, ih, Nat.max_zero]

/-- A chain as deep as is allowed, and one that is less deep. -/
theorem tree_read_from_text_chain :
    (chain 63).levels = 64 ∧ parse (chain 63).prettyText = .ok (chain 63) ∧
      parse (chain 63).compactText = .ok (chain 63) ∧
      (chain 62).compactText ≠ (chain 63).compactText := by
  have hlevels : (chain 63).levels ≤ 64 := Nat.le_of_eq (levels_chain 63)
  have hlevels' : (chain 62).levels ≤ 64 := by
    rw [levels_chain]
    decide
  obtain ⟨hpretty, hcompact, hinjective⟩ := tree_read_from_text (chain 63) hlevels
  refine ⟨levels_chain 63, hpretty, hcompact, fun htext => ?_⟩
  have hsame := congrArg levels ((hinjective (chain 62) hlevels').2 htext)
  rw [levels_chain, levels_chain] at hsame
  exact absurd hsame (by decide)

end BehaviorTraits.Node
