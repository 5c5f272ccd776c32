import BehaviorTraits.Actor
import BehaviorTraits.Proofs.FieldUses
import BehaviorTraits.Proofs.LogBlind
import BehaviorTraits.Proofs.LoweredLines
import BehaviorTraits.Proofs.Outline

/-!
# Names of nodes and comments do not matter

The names of nodes get into the log and into two kinds of comments: the one where a node begins and
the one on the left-out children of a leaf.  Nothing else depends on them, nor on whether nodes are
marked by comments at all.

Two runs are compared by way of a third, that of the tree without any names.

* `plan_anonymous`: the plan of a tree without names is its plan without names.
* `lowerAll_anonymous`: lowering a plan and lowering it without names go side by side.  The builders
  differ in their logs only, and the lines in these comments only.
* `ids_and_comments_inert`: so all that is generated, but for these comments, is the same for trees
  that differ in the names of their nodes.
-/

namespace BehaviorTraits

namespace Node

mutual

/-- The tree with the names of its nodes taken away. -/
def anonymous : Node → Node
  | ⟨_, condition, action, children⟩ => ⟨"", condition, action, anonymousAll children⟩

def anonymousAll : List Node → List Node
  | [] => []
  | n :: ns => n.anonymous :: anonymousAll ns

end

theorem anonymousAll_eq_map (ns : List Node) : anonymousAll ns = ns.map anonymous := by
  induction ns with
  | nil => rfl
  | cons n ns ih => rw [anonymousAll, ih, List.map_cons]

/-- A tree without names has the children without names. -/
theorem anonymous_children (n : Node) : n.anonymous.children = n.children.map anonymous := by
  obtain ⟨id, condition, action, children⟩ := n
  rw [anonymous, anonymousAll_eq_map]

/-- Names do not matter for conditions. -/
theorem anonymous_guard (n : Node) : n.anonymous.guard? = n.guard? := by
  obtain ⟨id, condition, action, children⟩ := n
  rw [anonymous]
  rfl

theorem anonymous_task (n : Node) : n.anonymous.task? = n.task? := by
  obtain ⟨id, condition, action, children⟩ := n
  rw [anonymous]
  rfl

theorem anonymous_id (n : Node) : n.anonymous.id = "" := by
  obtain ⟨id, condition, action, children⟩ := n
  rw [anonymous]

/-- Whether two nodes oppose each other does not depend on their names. -/
theorem anonymous_opposes (a b : Node) : a.anonymous.opposes b.anonymous = a.opposes b := by
  rw [opposes, anonymous_guard, anonymous_guard, opposes]

/-- The children that are lowered are the same ones, without names. -/
theorem anonymous_openChildren (n : Node) :
    n.anonymous.openChildren = n.openChildren.map anonymous := by
  rw [openChildren, openChildren, isLeaf, isLeaf, anonymous_task, anonymous_children]
  split <;> rfl

/-- Children stand on the other side of a condition whatever their names. -/
theorem anonymous_negating (n : Node) : n.anonymous.negating = n.negating.map anonymous := by
  rw [negating, negating, anonymous_openChildren, List.filter_map]
  refine congrArg _ (List.filter_congr fun child _ => ?_)
  exact anonymous_opposes n child

theorem anonymous_agreeing (n : Node) : n.anonymous.agreeing = n.agreeing.map anonymous := by
  rw [agreeing, agreeing, anonymous_openChildren, List.filter_map]
  refine congrArg _ (List.filter_congr fun child _ => ?_)
  exact congrArg (!·) (anonymous_opposes n child)

end Node

namespace Hook

open Build Text

/-! ## Plans without names -/

mutual

/-- The step without the names in it. -/
def Step.anonymous : Step → Step
  | .enter _ => .enter ""
  | .merge _ _ => .merge "" ""
  | .perform _ action dropped => .perform "" action dropped
  | .guarded condition yes => .guarded condition (anonymousPlan yes)
  | .either condition yes no => .either condition (anonymousPlan yes) (anonymousPlan no)

/-- The plan without the names in it. -/
def anonymousPlan : Plan → Plan
  | [] => []
  | step :: rest => step.anonymous :: anonymousPlan rest

end

theorem anonymousPlan_eq_map (plan : Plan) : anonymousPlan plan = plan.map Step.anonymous := by
  induction plan with
  | nil => rfl
  | cons step rest ih => rw [anonymousPlan, ih, List.map_cons]

/-- Plans in a row lose their names one by one. -/
theorem anonymousPlan_append (first second : Plan) :
    anonymousPlan (first ++ second) = anonymousPlan first ++ anonymousPlan second := by
  rw [anonymousPlan_eq_map, anonymousPlan_eq_map, anonymousPlan_eq_map, List.map_append]

theorem anonymousPlan_flatMap {α : Type} (f : α → Plan) (items : List α) :
    anonymousPlan (items.flatMap f) = items.flatMap fun item => anonymousPlan (f item) := by
  induction items with
  | nil => rfl
  | cons item items ih => rw [List.flatMap_cons, anonymousPlan_append, ih, List.flatMap_cons]

namespace Outline

/-- The outline without names. -/
def anonymous (o : Outline) : Outline where
  id := ""
  guard? := o.guard?
  bare := anonymousPlan o.bare
  yes := anonymousPlan o.yes
  no := o.no.map anonymousPlan

/-- **Placing a node does not look at its name**, nor at that of its partner. -/
theorem place_anonymous (o : Outline) (partner : Option Outline) :
    o.anonymous.place (partner.map anonymous) = anonymousPlan (o.place partner) := by
  obtain ⟨id, guard?, bare, yes, no⟩ := o
  cases guard? with
  | none => rfl
  | some condition =>
      cases no with
      | none =>
          cases partner with
          | none => rfl
          | some partner => rfl
      | some no =>
          cases partner with
          | none =>
              simp [place, anonymous, anonymousPlan, Step.anonymous]
          | some partner =>
              simp [place, anonymous, anonymousPlan, Step.anonymous, anonymousPlan_append]

theorem placePair_anonymous (pair : Outline × Option Outline) :
    placePair (mapPair anonymous pair) = anonymousPlan (placePair pair) := by
  obtain ⟨o, partner⟩ := pair
  cases partner with
  | none => exact place_anonymous o none
  | some partner =>
      change Step.merge "" "" :: o.anonymous.place (some partner.anonymous) = _
      rw [placePair, anonymousPlan, ← place_anonymous]
      rfl

/-- Names play no part in merging siblings. -/
theorem siblings_anonymous (nodes : List Outline) :
    siblings (nodes.map anonymous) = anonymousPlan (siblings nodes) := by
  have hopposes : ∀ a b : Outline, a.anonymous.opposes b.anonymous = a.opposes b := fun _ _ => rfl
  rw [siblings, siblings, pairUp_map anonymous hopposes, List.flatMap_map, anonymousPlan_flatMap]
  exact List.flatMap_congr fun pair _ => placePair_anonymous pair

end Outline

/-- The task of a leaf is the same without its name. -/
theorem taskPlan_anonymous (node : Node) :
    taskPlan node.anonymous = anonymousPlan (taskPlan node) := by
  rw [taskPlan, taskPlan, Node.anonymous_task, Node.anonymous_id, Node.anonymous_children,
    List.length_map]
  cases node.task? <;> rfl

/-- **The outline of a node without names** is its outline without names. -/
theorem outline_anonymous (node : Node) : outline node.anonymous = (outline node).anonymous := by
  induction node using Node.induct_openChildren with
  | step node ih =>
    have hmap : ∀ children ⊆ node.openChildren,
        (children.map Node.anonymous).map outline =
          (children.map outline).map Outline.anonymous := by
      intro children hchildren
      rw [List.map_map, List.map_map]
      exact List.map_congr_left fun child hchild => ih child (hchildren hchild)
    have hagreeing : node.agreeing ⊆ node.openChildren := fun _ => List.mem_of_mem_filter
    have hnegating : node.negating ⊆ node.openChildren := fun _ => List.mem_of_mem_filter
    have hid : (outline node.anonymous).id = "" := by rw [outline_id, Node.anonymous_id]
    have hguard : (outline node.anonymous).guard? = (outline node).guard? := by
      rw [outline_guard, outline_guard, Node.anonymous_guard]
    have hbare : (outline node.anonymous).bare = anonymousPlan (outline node).bare := by
      rw [outline_bare, outline_bare, Node.anonymous_id, taskPlan_anonymous,
        Node.anonymous_openChildren, hmap _ fun _ h => h, Outline.siblings_anonymous,
        anonymousPlan, anonymousPlan_append]
      rfl
    have hyes : (outline node.anonymous).yes = anonymousPlan (outline node).yes := by
      rw [(outline_sides _).1, (outline_sides _).1, taskPlan_anonymous, Node.anonymous_agreeing,
        hmap _ hagreeing, Outline.siblings_anonymous, anonymousPlan_append]
    have hno : (outline node.anonymous).no = (outline node).no.map anonymousPlan := by
      rw [(outline_sides _).2, (outline_sides _).2, Node.anonymous_negating, hmap _ hnegating]
      by_cases hnone : node.negating = []
      · simp [hnone]
      · simp [hnone, List.flatMap_map, anonymousPlan_flatMap, Outline.anonymous]
    generalize outline node.anonymous = o at hid hguard hbare hyes hno
    obtain ⟨id, guard?, bare, yes, no⟩ := o
    simp only at hid hguard hbare hyes hno
    rw [hid, hguard, hbare, hyes, hno]
    rfl

/-- **The plan of a tree without names** is its plan without names. -/
theorem plan_anonymous (root : Node) : plan root.anonymous = anonymousPlan (plan root) := by
  rw [plan, outline_anonymous]
  exact Outline.place_anonymous (outline root) none

/-! ## Lowering with and without names -/

/-- Is the code a comment that tells where a node is? -/
def Code.isMark (code : Code) : Bool := code.shape == .nodeMark || code.shape == .droppedMark

/-- The lines without the comments that tell where nodes are. -/
def unmarked (lines : List Line) : List Line := lines.filter fun line => !line.code.isMark

/-- Lines in a row lose their marks one by one. -/
theorem unmarked_append (first second : List Line) :
    unmarked (first ++ second) = unmarked first ++ unmarked second :=
  List.filter_append first second

/-- A line that is no mark stays. -/
theorem unmarked_cons {line : Line} (hline : line.code.isMark = false) (rest : List Line) :
    unmarked (line :: rest) = line :: unmarked rest :=
  List.filter_cons_of_pos (by simp [hline])

/-- Braces stay, with what is left between them. -/
theorem unmarked_braced (depth : Nat) (inner : List Line) :
    unmarked (braced depth inner) = braced depth (unmarked inner) := by
  rw [braced, unmarked_append, unmarked_cons rfl]
  rfl

/-- Nothing is left of the comment where a node begins. -/
theorem unmarked_nodeMark (env : Env) (depth : Nat) (id : String) :
    unmarked (linesAt depth (nodeMark env.comments id)) = [] := by
  rw [nodeMark]
  split <;> rfl

/-- Nothing is left of the comment about dropped children. -/
theorem unmarked_droppedMark (depth : Nat) (id : String) (dropped : Nat) (b : Builder) :
    unmarked (linesAt depth ((droppedMark id dropped).run b).1) = [] := by
  rw [droppedMark_code]
  split <;> rfl

/-- From builders that differ in their logs, both give the same lines but for the comments that tell
where nodes are, and go on differing in their logs only. -/
def SameCode (m m' : Build (List Line)) : Prop :=
  ∀ b b' : Builder, Alike b b' →
    unmarked (m.run b).1 = unmarked (m'.run b').1 ∧ Alike (m.run b).2 (m'.run b').2

theorem SameCode.symm {m m' : Build (List Line)} (h : SameCode m m') : SameCode m' m := by
  intro b b' hb
  obtain ⟨hlines, halike⟩ := h b' b hb.symm
  exact ⟨hlines.symm, halike.symm⟩

theorem SameCode.trans {m m' m'' : Build (List Line)} (h : SameCode m m') (h' : SameCode m' m'') :
    SameCode m m'' := by
  intro b b' hb
  obtain ⟨hlines, halike⟩ := h b b' hb
  obtain ⟨hlines', halike'⟩ := h' b' b' (.refl b')
  exact ⟨hlines.trans hlines', halike.trans halike'⟩

section

variable {env env' : Env} {depth : Nat}

/-- Steps with the same code can be put in front of plans with the same code. -/
theorem SameCode.cons {step step' : Step} {rest rest' : Plan}
    (hstep : SameCode (lower env depth step) (lower env' depth step'))
    (hrest : SameCode (lowerAll env depth rest) (lowerAll env' depth rest')) :
    SameCode (lowerAll env depth (step :: rest)) (lowerAll env' depth (step' :: rest')) := by
  intro b b' hb
  obtain ⟨hlines, halike⟩ := hstep b b' hb
  obtain ⟨hlines', halike'⟩ := hrest _ _ halike
  rw [run_lowerAll_cons, run_lowerAll_cons, unmarked_append, unmarked_append, hlines, hlines']
  exact ⟨rfl, halike'⟩

/-- Entering a node leads to the same code under any name, with comments or without. -/
theorem sameCode_enter (id id' : String) :
    SameCode (lower env depth (.enter id)) (lower env' depth (.enter id')) := by
  intro b b' hb
  have hlines : ∀ (e : Env) (name : String) (s : Builder),
      unmarked ((lower e depth (.enter name)).run s).1 = [] :=
    fun e name s => unmarked_nodeMark e depth name
  rw [hlines, hlines]
  exact ⟨rfl, hb.fields, hb.needs, hb.resolved⟩

/-- Merging two siblings leads to the same code, none, under any names. -/
theorem sameCode_merge (head partner head' partner' : String) :
    SameCode (lower env depth (.merge head partner)) (lower env' depth (.merge head' partner')) :=
  fun _ _ hb => ⟨rfl, hb.fields, hb.needs, hb.resolved⟩

/-- An action leads to the same code whatever the name of its leaf. -/
theorem sameCode_perform (id id' action : String) (dropped : Nat) :
    SameCode (lower env depth (.perform id action dropped))
      (lower env' depth (.perform id' action dropped)) := by
  intro b b' hb
  obtain ⟨hcodes, halike⟩ := LogBlind.codeOf action b b' hb
  have hlines : ∀ (e : Env) (name : String) (s : Builder),
      unmarked ((lower e depth (.perform name action dropped)).run s).1 =
        unmarked (linesAt depth ((codeOf action).run s).1) := by
    intro e name s
    change unmarked (linesAt depth (((codeOf action).run s).1 ++
      ((droppedMark name dropped).run ((codeOf action).run s).2).1)) = _
    rw [linesAt, List.map_append, unmarked_append]
    exact (congrArg _ (unmarked_droppedMark depth name dropped _)).trans (List.append_nil _)
  rw [hlines, hlines, hcodes]
  refine ⟨rfl, ?_⟩
  exact (alike_droppedMark id dropped _).trans
    (halike.trans (alike_droppedMark id' dropped _).symm)

/-- A test leads to the same code if what it guards does. -/
theorem sameCode_guarded (hlookup : env.lookup = env'.lookup) (condition : String)
    {yes yes' : Plan}
    (hyes : SameCode (lowerAll env (depth + 1) yes) (lowerAll env' (depth + 1) yes')) :
    SameCode (lower env depth (.guarded condition yes))
      (lower env' depth (.guarded condition yes')) := by
  intro b b' hb
  obtain ⟨htest, halike⟩ := LogBlind.testOf env.lookup condition b b' hb
  obtain ⟨hlines, halike'⟩ := hyes _ _ halike
  rw [run_lower_guarded, run_lower_guarded, ← hlookup]
  dsimp only
  rw [unmarked_cons rfl, unmarked_cons rfl, unmarked_braced, unmarked_braced, htest, hlines]
  exact ⟨rfl, halike'⟩

theorem sameCode_either (hlookup : env.lookup = env'.lookup) (condition : String)
    {yes yes' no no' : Plan}
    (hyes : SameCode (lowerAll env (depth + 1) yes) (lowerAll env' (depth + 1) yes'))
    (hno : SameCode (lowerAll env (depth + 1) no) (lowerAll env' (depth + 1) no')) :
    SameCode (lower env depth (.either condition yes no))
      (lower env' depth (.either condition yes' no')) := by
  intro b b' hb
  obtain ⟨htest, halike⟩ := LogBlind.testOf env.lookup condition b b' hb
  obtain ⟨hlines, halike'⟩ := hyes _ _ halike
  obtain ⟨hlines', halike''⟩ := hno _ _ halike'
  rw [run_lower_either, run_lower_either, ← hlookup]
  dsimp only
  rw [unmarked_append, unmarked_append, unmarked_cons rfl, unmarked_cons rfl, unmarked_cons rfl,
    unmarked_cons rfl, unmarked_braced, unmarked_braced, unmarked_braced, unmarked_braced, htest,
    hlines, hlines']
  exact ⟨rfl, halike''⟩

end

/-- **Lowering is blind to names**, and comments on or off change comments only. -/
theorem lowerAll_anonymous {env env' : Env} (hlookup : env.lookup = env'.lookup) (plan : Plan) :
    ∀ depth, SameCode (lowerAll env depth plan) (lowerAll env' depth (anonymousPlan plan)) := by
  induction plan using Plan.induct with
  | nil => exact fun depth b b' hb => ⟨rfl, hb⟩
  | enter id rest ih => exact fun depth => (sameCode_enter id "").cons (ih depth)
  | merge head partner rest ih =>
      exact fun depth => (sameCode_merge head partner "" "").cons (ih depth)
  | perform id action dropped rest ih =>
      exact fun depth => (sameCode_perform id "" action dropped).cons (ih depth)
  | guarded condition yes rest ihyes ih =>
      exact fun depth => (sameCode_guarded hlookup condition (ihyes (depth + 1))).cons (ih depth)
  | either condition yes no rest ihyes ihno ih =>
      exact fun depth => (sameCode_either hlookup condition (ihyes (depth + 1))
        (ihno (depth + 1))).cons (ih depth)

/-- Trees that differ in names only are lowered to the same code. -/
theorem lowerTree_sameCode {root root' : Node} (h : root.anonymous = root'.anonymous)
    {env env' : Env} (hlookup : env.lookup = env'.lookup) :
    SameCode (lowerTree env root) (lowerTree env' root') := by
  have hplan : anonymousPlan (plan root) = anonymousPlan (plan root') := by
    rw [← plan_anonymous, ← plan_anonymous, h]
  have hfirst := lowerAll_anonymous hlookup (plan root) 0
  have hsecond := lowerAll_anonymous (rfl : env'.lookup = env'.lookup) (plan root') 0
  rw [hplan] at hfirst
  exact hfirst.trans hsecond.symm

end Hook

/-! ## Generated files -/

open Hook Text

/-- Is the line a comment that tells where a node is? -/
def Statement.isMark (line : Statement) : Bool :=
  decide (Opens "// node: " line.text) || decide (Opens "// NOTE: " line.text)

def MethodDecl.withoutMarks (m : MethodDecl) : MethodDecl :=
  { m with body := m.body.filter fun line => !line.isMark }

/-- The class without the comments that tell where nodes are. -/
def ClassDecl.withoutMarks (c : ClassDecl) : ClassDecl :=
  { c with methods := c.methods.map MethodDecl.withoutMarks }

namespace Hook

/-- The beginning of a line tells what code it is. -/
theorem shape_of_opens {opening : String} {shape : Shape}
    (hmem : (opening, shape) ∈ Shape.openings) {line : Line}
    (h : Opens opening line.statement.text) : line.code.shape = shape := by
  have hsame : singleLine line.statement.text = line.statement.text := by
    refine singleLine_of_unbroken ?_
    rw [Line.statement, toList_singleLine]
    exact unbroken_singleLineChars _
  rw [← shapeOf_statement, ← hsame]
  exact shapeOf_opening hmem h

/-- The comments that tell where nodes are can be told by how they begin. -/
theorem isMark_statement (line : Line) : line.statement.isMark = line.code.isMark := by
  have hnode : Opens "// node: " line.statement.text ↔ line.code.shape = .nodeMark := by
    constructor
    · intro h
      have hshort : Opens "// node:" "// node: " := by decide
      exact shape_of_opens (by decide) (hshort.trans h)
    · obtain ⟨depth, code⟩ := line
      intro hshape
      cases code with
      | remark r =>
          cases r with
          | node id => exact Opens.singleLine (by decide) (opens_append _ _)
          | _ => cases hshape
      | _ => cases hshape
  have hdropped : Opens "// NOTE: " line.statement.text ↔ line.code.shape = .droppedMark := by
    constructor
    · intro h
      have hshort : Opens "// NOTE:" "// NOTE: " := by decide
      exact shape_of_opens (by decide) (hshort.trans h)
    · obtain ⟨depth, code⟩ := line
      intro hshape
      cases code with
      | remark r =>
          cases r with
          | dropped children id =>
              have h : Opens "// NOTE: " "// NOTE: " := by decide
              exact Opens.singleLine (by decide) ((((h.append _).append _).append _).append _)
          | _ => cases hshape
      | _ => cases hshape
  rw [Statement.isMark, Code.isMark, Bool.eq_iff_iff]
  simp [hnode, hdropped]

/-- **Marks can be told from the text of a line**, so they can be taken out of the finished hook. -/
theorem statements_unmarked (lines : List Line) :
    (statements lines).filter (fun line => !line.isMark) = statements (unmarked lines) := by
  rw [statements, List.filter_map, statements, unmarked]
  refine congrArg _ (List.filter_congr fun line _ => ?_)
  rw [Function.comp_apply, isMark_statement]

end Hook

/-- Without its comments on nodes, the update hook shows nothing but the other lines. -/
theorem tickMethod_withoutMarks (options : HookOptions) (lines : List Line) :
    (tickMethod (hookPreamble options ++ lines.map Line.statement)).withoutMarks =
      tickMethod ((hookPreamble options).filter (fun line => !line.isMark) ++
        statements (unmarked lines)) := by
  rw [← statements_unmarked, statements]
  exact congrArg tickMethod (List.filter_append _ _)

/-- The companion class, the traits needed and, but for comments on nodes, the logic class do not
depend on names and comments. -/
theorem traitOf_sameCode {root root' : Node} (h : root.anonymous = root'.anonymous)
    (lookup : Lookup) (options : HookOptions) (comments : Bool) (name : String) :
    let t := traitOf lookup options root name
    let t' := traitOf lookup { options with nodeComments := comments } root' name
    t.info = t'.info ∧ t.needs = t'.needs ∧ t.logic.withoutMarks = t'.logic.withoutMarks := by
  intro t t'
  have hsame : SameCode (lowerTree ⟨lookup, options.nodeComments⟩ root)
      (lowerTree ⟨lookup, comments⟩ root') := lowerTree_sameCode h rfl
  obtain ⟨hlines, halike⟩ := hsame { fields := initialFields options } _ (.refl _)
  have hfields : t.info.fields = t'.info.fields := halike.fields
  have hneeds : t.needs = t'.needs := halike.needs
  have hmethods : t.logic.withoutMarks.methods = t'.logic.withoutMarks.methods := by
    have htick := congrArg (fun lines => tickMethod
      ((hookPreamble options).filter (fun line => !line.isMark) ++ statements lines)) hlines
    rw [← tickMethod_withoutMarks, ← tickMethod_withoutMarks] at htick
    exact congrArg (fun tick => [(constructorMethod name (name ++ "Info")).withoutMarks,
      createdMethod.withoutMarks, tick]) htick
  refine ⟨?_, hneeds, ?_⟩
  · change { t.info with fields := t.info.fields } = { t.info with fields := t'.info.fields }
    rw [hfields]
  · change
      { t.logic with methods := t.logic.withoutMarks.methods, needs := t.needs } =
        { t.logic with methods := t'.logic.withoutMarks.methods, needs := t'.needs }
    rw [hmethods, hneeds]

/-- The document of an actor depends on the name and the Info class of the trait only. -/
theorem actorDocument_congr {t t' : Trait} (hname : t.name = t'.name) (hinfo : t.info = t'.info)
    (entity : String) (defaults : ActorDefaults) :
    actorDocument t entity defaults = actorDocument t' entity defaults := by
  have hblock : traitBlock t = traitBlock t' := by
    rw [traitBlock, traitBlock, hname, Trait.exposedFields, Trait.exposedFields, hinfo]
  rw [actorDocument, actorDocument, hblock]

/-- **Names of nodes and comments do not matter.**  For trees that differ in the names of their nodes
only, with comments on or off, synthesis either refuses the name of the trait or gives traits with
the same Info class and the same needs.  The actor definitions are the same, and so are the logic
classes, once the lines of their methods that begin as comments on nodes are taken away. -/
theorem ids_and_comments_inert {root root' : Node} (h : root.anonymous = root'.anonymous)
    (lookup : Lookup) (options : HookOptions) (comments : Bool) (name : String) :
    let options' := { options with nodeComments := comments }
    (∃ e, synthesize lookup options root name = .error e ∧
      synthesize lookup options' root' name = .error e) ∨
    ∃ t t', synthesize lookup options root name = .ok t ∧
      synthesize lookup options' root' name = .ok t' ∧
      t.info = t'.info ∧ t.needs = t'.needs ∧
      (∀ entity defaults, (actorDocument t entity defaults).render =
        (actorDocument t' entity defaults).render) ∧
      t.logic.withoutMarks = t'.logic.withoutMarks := by
  intro options'
  rw [synthesize_eq, synthesize_eq]
  cases className name with
  | error e => exact .inl ⟨e, rfl, rfl⟩
  | ok letters =>
      obtain ⟨hinfo, hneeds, hlogic⟩ := traitOf_sameCode h lookup options comments letters
      have hname : (traitOf lookup options root letters).name =
          (traitOf lookup options' root' letters).name := rfl
      refine .inr ⟨_, _, rfl, rfl, hinfo, hneeds, ?_, hlogic⟩
      intro entity defaults
      exact congrArg MiniYaml.render (actorDocument_congr hname hinfo entity defaults)

/-- A watch with a leaf that has a child, and with opposed siblings, under the given names. -/
def watch (root hunter idler waiter : String) : Node :=
  { id := root
    children :=
      [{ id := hunter, condition := some "Alarm", action := some "Attack"
         children := [{ id := idler }] },
        { id := waiter, condition := some "Not Alarm", action := some "Wait(Pause)" }] }

theorem ids_and_comments_inert_watch :
    (watch "root" "hunt" "idle" "wait").anonymous = (watch "" "self.Kill();" "b" "").anonymous ∧
    ∃ t t', synthesize (fun _ => none) {} (watch "root" "hunt" "idle" "wait") "watch" = .ok t ∧
      synthesize (fun _ => none) { nodeComments := false } (watch "" "self.Kill();" "b" "") "watch" =
        .ok t' ∧
      t.info = t'.info ∧ t.needs = t'.needs ∧
      (actorDocument t "e1" {}).render = (actorDocument t' "e1" {}).render ∧
      t.logic.withoutMarks = t'.logic.withoutMarks := by
  have hname : className "watch" = .ok "Watch" := rfl
  have hanonymous : (watch "root" "hunt" "idle" "wait").anonymous =
      (watch "" "self.Kill();" "b" "").anonymous := rfl
  refine ⟨hanonymous, ?_⟩
  rcases ids_and_comments_inert hanonymous (fun _ => none) {} false "watch" with
    ⟨e, herror, -⟩ | ⟨t, t', ht, ht', hinfo, hneeds, hactor, hlogic⟩
  · rw [synthesize_eq, hname] at herror
    cases herror
  · exact ⟨t, t', ht, ht', hinfo, hneeds, hactor "e1" {}, hlogic⟩

end BehaviorTraits
