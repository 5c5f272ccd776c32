import BehaviorTraits.Proofs.ConditionGrammar
import BehaviorTraits.Proofs.Findings

/-!
# Faulty nodes

Validation decides what is odd about a node by the same readers that lowering uses.  `faults` says
it without them, by the characters of the id, the action and the condition alone.  Both agree on
every node (`findings_eq_faults`).  The one point that is not plain is the condition: of all texts
with something in them, only a lone `!` reduces to no subject (`subject_blank_iff`).

`faulty_nodes_reported` puts this together with the visit of a whole tree.
-/

namespace BehaviorTraits

open Text

namespace Condition

/-- Behind a mark there is something, unless the mark is all there is. -/
theorem Marked.blank_iff {text rest : List Char} (h : Marked text rest) (htext : Trimmed text) :
    (∀ c ∈ rest, isBlank c = true) ↔ text = ['!'] := by
  cases h with
  | sign hrest =>
      have hsplit : Trimmed (['!'] ++ rest) := htext
      constructor
      · intro hblank
        rw [hsplit.eq_nil_of_blank hblank]
      · intro hmark c hc
        rw [(List.cons.inj hmark).2] at hc
        cases hc
  | @word n o t blank rest hword hblank =>
      have hsplit : Trimmed ([n, o, t] ++ blank :: rest) := htext
      constructor
      · intro hall
        cases hsplit.eq_nil_of_blank hall
      · intro hmark
        cases (List.cons.inj hmark).2

/-- **A condition without body** is blank or a lone mark. -/
theorem bodyOf_eq_nil_iff (raw : String) :
    bodyOf raw = [] ↔ trimChars raw.toList = [] ∨ trimChars raw.toList = ['!'] := by
  have hbody := (hasBody_iff raw _ _).mpr ⟨rfl, rfl⟩
  generalize (parse raw).negated = marked at hbody
  generalize bodyOf raw = body at hbody ⊢
  cases hbody with
  | plain hplain =>
      -- a lone mark would be a mark
      have hlone : trimChars raw.toList ≠ ['!'] := by
        intro hmark
        apply hplain []
        rw [hmark]
        exact .sign (by simp)
      rw [or_iff_left hlone]
  | marked hmark =>
      have hsome : trimChars raw.toList ≠ [] := by
        intro hnil
        rw [hnil] at hmark
        cases hmark
      rw [trimChars_eq_nil_iff, hmark.blank_iff (trimmed_trimChars _), or_iff_right hsome]

/-- **Only a lone mark names nothing.**  A condition with something in it reduces to no subject just
if it is a `!` and nothing else. -/
theorem subject_blank_iff (raw : String) :
    trim (parse raw).subject = "" ↔ trim raw = "" ∨ trim raw = "!" := by
  have hempty : trim raw = "" ↔ trimChars raw.toList = [] := by
    rw [← toList_trim, String.toList_eq_nil_iff]
  have hmark : trim raw = "!" ↔ trimChars raw.toList = ['!'] := by
    rw [← toList_trim, ← String.toList_inj]
    rfl
  have hsubject : trim (parse raw).subject = "" ↔ trimChars (parse raw).subject.toList = [] := by
    rw [← toList_trim, String.toList_eq_nil_iff]
  rw [hempty, hmark, ← bodyOf_eq_nil_iff, hsubject, parse_eq]
  cases hread : comparison? (bodyOf raw) with
  | none =>
      rw [ofBody_of_none hread, String.toList_ofList, (trimmed_bodyOf raw).trimChars_eq]
  | some found =>
      obtain ⟨s, op, literal⟩ := found
      obtain ⟨hnamed, hs, -⟩ := comparison?_eq_some hread
      rw [ofBody_of_some hread, String.toList_ofList]
      constructor
      · -- the first character of a subject is no blank
        intro hblank
        rw [trimChars_eq_nil_iff] at hblank
        obtain ⟨c, cs, rfl⟩ := List.exists_cons_of_ne_nil hnamed
        have hc : isSubjectChar c = true := List.mem_takeWhile_imp (hs ▸ List.mem_cons_self)
        rw [not_isSubjectChar_of_isBlank (hblank c List.mem_cons_self)] at hc
        cases hc
      · intro hnil
        rw [hnil] at hs
        exact absurd hs.symm hnamed

end Condition

/-! ## What is wrong with a node -/

/-- Is there nothing but blanks in the text? -/
def Text.isAllBlank (s : String) : Bool := s.toList.all isBlank

/-- Trimming leaves nothing of a text just if it is blank. -/
theorem Text.trim_eq_empty_iff (s : String) : trim s = "" ↔ isAllBlank s = true := by
  rw [← String.toList_eq_nil_iff, toList_trim, trimChars_eq_nil_iff, isAllBlank, List.all_eq_true]

/-- A text counts, without the blanks around it, unless it is blank. -/
theorem Text.nonBlank?_eq (s : String) :
    nonBlank? s = if isAllBlank s then none else some (trim s) := by
  unfold nonBlank?
  by_cases hblank : trim s = ""
  · rw [if_pos hblank, if_pos ((trim_eq_empty_iff s).mp hblank)]
  · rw [if_neg hblank, if_neg (mt (trim_eq_empty_iff s).mpr hblank)]

/-- A second trimming finds nothing left to do. -/
theorem Text.trim_trim (s : String) : trim (trim s) = trim s := by
  rw [← String.toList_inj, toList_trim, toList_trim]
  exact (trimmed_trimChars s.toList).trimChars_eq

namespace Node

/-- Does the node have an action that is not blank? -/
def acts (n : Node) : Bool := n.action.any (!isAllBlank ·)

/-- **What is wrong with a node**, by its texts and the number of its children alone. -/
def faults (n : Node) : List Finding :=
  (if isAllBlank n.id then [.missingId] else []) ++
  (if n.acts && !n.children.isEmpty then [.ambiguousLeaf n.children.length] else []) ++
  (if !n.acts && n.children.isEmpty && n.id.toList.map Char.toLower != "root".toList
    then [.deadEnd] else []) ++
  (if n.condition.map trim = some "!" then [.unusableCondition "!"] else [])

/-- A leaf is a node that acts. -/
theorem isLeaf_eq_acts (n : Node) : n.isLeaf = n.acts := by
  unfold isLeaf task? acts
  cases n.action with
  | none => rfl
  | some action =>
      rw [Option.bind_some, Option.any_some, nonBlank?_eq]
      cases isAllBlank action <;> rfl

/-- The root is told by its name, whatever its case. -/
theorem isRoot_eq (n : Node) : n.isRoot = (n.id.toList.map Char.toLower == "root".toList) := by
  unfold isRoot eqIgnoringAsciiCase lowerAscii
  rw [Bool.eq_iff_iff, beq_iff_eq, beq_iff_eq, String.ofList_inj]
  rfl

/-- The condition of a guarded node is not blank, and guards only by what is left when trimmed. -/
theorem guard?_eq_some {n : Node} {condition : String} (h : n.guard? = some condition) :
    n.condition.map trim = some condition ∧ trim condition = condition ∧ condition ≠ "" := by
  obtain ⟨raw, hraw, hsome⟩ := Option.bind_eq_some_iff.mp h
  unfold nonBlank? at hsome
  by_cases hblank : trim raw = ""
  · rw [if_pos hblank] at hsome
    cases hsome
  · rw [if_neg hblank] at hsome
    cases hsome
    exact ⟨by rw [hraw]; rfl, trim_trim raw, hblank⟩

/-- A node without guard has no condition, or a blank one. -/
theorem guard?_eq_none {n : Node} (h : n.guard? = none) :
    n.condition.map trim = none ∨ n.condition.map trim = some "" := by
  unfold guard? at h
  cases hraw : n.condition with
  | none => exact .inl rfl
  | some raw =>
      rw [hraw, Option.bind_some] at h
      unfold nonBlank? at h
      by_cases hblank : trim raw = ""
      · exact .inr (congrArg some hblank)
      · rw [if_neg hblank] at h
        cases h

/-- **Validation finds just the faults of a node.** -/
theorem findings_eq_faults (n : Node) : n.findings = n.faults := by
  have hid : (trim n.id = "") = (isAllBlank n.id = true) := propext (trim_eq_empty_iff n.id)
  unfold findings faults
  rw [isLeaf_eq_acts, isRoot_eq]
  simp only [hid]
  apply congrArg
  cases hguard : n.guard? with
  | none =>
      have hno : n.condition.map trim ≠ some "!" := by
        rcases guard?_eq_none hguard with h | h <;> simp [h]
      rw [if_neg hno]
  | some condition =>
      obtain ⟨hcondition, htrim, hne⟩ := guard?_eq_some hguard
      dsimp only
      rw [hcondition]
      have hblank := Condition.subject_blank_iff condition
      rw [htrim, or_iff_right hne] at hblank
      by_cases hmark : condition = "!"
      · rw [if_pos (hblank.mpr hmark), if_pos (congrArg some hmark), hmark]
      · rw [if_neg (mt hblank.mp hmark), if_neg (mt Option.some.inj hmark)]

/-- **Validation reports just the faulty nodes**, in the order of the visit.  It counts all nodes,
and the tree is valid if there is nothing to report.  The report lists the faults of all nodes, a
node before those below it, and also those below a leaf. -/
theorem faulty_nodes_reported (root : Node) :
    root.validate.nodesChecked = root.count ∧
      (root.validate.isValid = true ↔ root.validate.issues = []) ∧
      root.validate.issues = root.nodes.flatMap fun n => n.faults.map (Issue.mk n.id) := by
  rw [validate_eq]
  refine ⟨root.length_nodes, List.isEmpty_iff, ?_⟩
  apply List.flatMap_congr
  intro n _
  rw [issues, findings_eq_faults]

-- A leaf with a child that is named as an entry, and one that leads nowhere.
example :
    validate { id := " ", condition := some " ! ", action := some "Attack"
               children := [{ id := "ROOT" }, { id := "stub" }] } =
      ⟨[⟨" ", .missingId⟩, ⟨" ", .ambiguousLeaf 2⟩, ⟨" ", .unusableCondition "!"⟩,
        ⟨"stub", .deadEnd⟩], 3⟩ := by decide

end Node

end BehaviorTraits
