import BehaviorTraits.Proofs.Events
import BehaviorTraits.Proofs.Execution

/-!
# The lines of a plan

The code that lowering writes for a plan, read back as statements.  It is well nested
(`lowerAll_block`), and each line that does not only serve the nesting comes from one event
(`texts_of_events`).  A comment on a node or on left-out children does nothing when executed
(`effect_nodeMark`), the lines of an action carry out this one action (`effect_perform`), and a
branch carries out the side that its test chooses (`effect_guarded`, `effect_either`).
-/

namespace BehaviorTraits.Hook

open Event

/-- The lines as statements of a method body. -/
def statements (lines : List Line) : List Statement := lines.map Line.statement

@[simp] theorem statements_append (first second : List Line) :
    statements (first ++ second) = statements first ++ statements second :=
  List.map_append

/-- A line stands at its depth, with the shape of its code. -/
theorem stands (depth : Nat) (code : Code) :
    Stands (Line.statement ⟨depth, code⟩) depth code.shape :=
  ⟨rfl, shapeOf_statement _⟩

/-- A guarded plan: a test and a block in braces. -/
theorem statements_guarded (env : Env) (depth : Nat) (condition : String) (yes : Plan)
    (b : Builder) :
    statements ((lower env depth (.guarded condition yes)).run b).1 =
      let tested := (testOf env.lookup condition).run b
      let inner := (lowerAll env (depth + 1) yes).run tested.2
      Line.statement ⟨depth, .branch tested.1.1 tested.1.2⟩ :: Line.statement ⟨depth, .opening⟩ ::
        statements inner.1 ++ [Line.statement ⟨depth, .closing⟩] := by
  rw [run_lower_guarded]
  simp [statements, braced]

/-- A plan with two sides: a test and two blocks in braces. -/
theorem statements_either (env : Env) (depth : Nat) (condition : String) (yes no : Plan)
    (b : Builder) :
    statements ((lower env depth (.either condition yes no)).run b).1 =
      let tested := (testOf env.lookup condition).run b
      let inner := (lowerAll env (depth + 1) yes).run tested.2
      let inner' := (lowerAll env (depth + 1) no).run inner.2
      Line.statement ⟨depth, .branch tested.1.1 tested.1.2⟩ :: Line.statement ⟨depth, .opening⟩ ::
        statements inner.1 ++ Line.statement ⟨depth, .closing⟩ ::
        Line.statement ⟨depth, .otherwise⟩ :: Line.statement ⟨depth, .opening⟩ ::
        statements inner'.1 ++ [Line.statement ⟨depth, .closing⟩] := by
  rw [run_lower_either]
  simp [statements, braced]

/-- A plain statement is an activity or a comment. -/
theorem shape_of_isPlain {code : Code} (hplain : code.isPlain = true) :
    code.shape = .activity ∨ code.shape.isComment = true := by
  cases code with
  | remark r => cases r <;> exact .inr rfl
  | queue activity => exact .inl rfl
  | branch negated test => cases hplain
  | otherwise => cases hplain
  | opening => cases hplain
  | closing => cases hplain

/-- Plain statements at one depth are a block. -/
theorem block_linesAt (depth : Nat) {codes : List Code}
    (hplain : ∀ code ∈ codes, code.isPlain = true) :
    Block depth (statements (linesAt depth codes)) := by
  induction codes with
  | nil => exact .nil depth
  | cons code codes ih =>
      refine Block.plain rfl ?_ (ih fun other hmem => hplain other (List.mem_cons_of_mem _ hmem))
      rw [shapeOf_statement]
      exact shape_of_isPlain (hplain code List.mem_cons_self)

/-- **The lines of a plan are well nested.** -/
theorem lowerAll_block (env : Env) (plan : Plan) : ∀ (depth : Nat) (b : Builder),
    Block depth (statements ((lowerAll env depth plan).run b).1) := by
  induction plan using Plan.induct with
  | nil => exact fun depth b => .nil depth
  | enter id rest ih =>
      intro depth b
      rw [run_lowerAll_cons, statements_append]
      exact (block_linesAt depth (emit_isPlain env (.enter id depth) rfl b)).append (ih depth _)
  | merge head partner rest ih =>
      intro depth b
      rw [run_lowerAll_cons, statements_append]
      exact (Block.nil depth).append (ih depth _)
  | perform id action dropped rest ih =>
      intro depth b
      rw [run_lowerAll_cons, statements_append]
      exact (block_linesAt depth (emit_isPlain env (.perform id action dropped) rfl b)).append
        (ih depth _)
  | guarded condition yes rest ihyes ih =>
      intro depth b
      rw [run_lowerAll_cons, statements_append]
      refine Block.append ?_ (ih depth _)
      rw [statements_guarded]
      exact .branch (stands depth (.branch _ _)) (stands depth .opening) (ihyes (depth + 1) _)
        (stands depth .closing) (.nil depth)
  | either condition yes no rest ihyes ihno ih =>
      intro depth b
      rw [run_lowerAll_cons, statements_append]
      refine Block.append ?_ (ih depth _)
      rw [statements_either]
      exact .branchElse (stands depth (.branch _ _)) (stands depth .opening) (ihyes (depth + 1) _)
        (stands depth .closing) (stands depth .otherwise) (stands depth .opening)
        (ihno (depth + 1) _) (stands depth .closing) (.nil depth)

/-- **Where a line comes from.**  The lines of shapes that do not only serve the nesting are those
of the events, each made from the builder as it was when the event came up. -/
theorem texts_of_events (env : Env) (depth : Nat) (plan : Plan) (b : Builder) (p : Shape → Bool)
    (hframe : p .otherwise = false ∧ p .opening = false ∧ p .closing = false) :
    ((statements ((lowerAll env depth plan).run b).1).map (·.text)).filter (fun text =>
        p (shapeOf text)) =
      (met env b (eventsOf depth plan)).flatMap fun m =>
        (((m.1.emit env).run m.2).1.filter fun code => p code.shape).map fun code =>
          Text.singleLine code.text := by
  have hshape : ∀ code : Code, code.isFrame = true → p code.shape = false := by
    intro code hcode
    cases code with
    | otherwise => exact hframe.1
    | opening => exact hframe.2.1
    | closing => exact hframe.2.2
    | _ => cases hcode
  have hcarried : ∀ lines : List Line,
      ((statements lines).map (·.text)).filter (fun text => p (shapeOf text)) =
        ((carried lines).filter fun code => p code.shape).map fun code =>
          Text.singleLine code.text := by
    intro lines
    simp only [carried, statements, List.filter_filter, List.filter_map, List.map_map]
    refine congrArg _ (List.filter_congr fun line _ => ?_)
    cases hcode : line.code.isFrame <;> simp [hcode, hshape]
  rw [hcarried, (lowerAll_emits env plan depth b).1, emitAll_eq_met, List.filter_flatMap,
    List.map_flatMap]

/-! ## Executing the lines of one event -/

variable {verdicts : Nat → Bool} {t k : Nat}

/-- A remark that stands for no action does nothing. -/
theorem effect_remark (depth : Nat) {r : Remark} (hr : r.shape.isAction = false) :
    Effect verdicts [Line.statement ⟨depth, .remark r⟩] t k t k [] := by
  refine Effect.comment ?_ ?_
  · rw [shapeOf_statement]
    cases r <;> rfl
  · rw [shapeOf_statement]
    exact hr

/-- Marking the place where a node begins does nothing. -/
theorem effect_nodeMark (env : Env) (depth : Nat) (id : String) :
    Effect verdicts (statements (linesAt depth (nodeMark env.comments id))) t k t k [] := by
  rw [nodeMark]
  split
  · exact effect_remark depth rfl
  · exact .nil

/-- The comment about dropped children does nothing. -/
theorem effect_droppedMark (depth : Nat) (id : String) (dropped : Nat) (b : Builder) :
    Effect verdicts (statements (linesAt depth ((droppedMark id dropped).run b).1)) t k t k [] := by
  rw [droppedMark_code]
  split
  · exact .nil
  · exact effect_remark depth rfl

/-- The lines among those of some code that give the actor something to do. -/
def activityLines (codes : List Code) : List String :=
  (codes.map fun code => Text.singleLine code.text).filter isActivity

/-- The lines of an action stand for one action. -/
theorem effect_codeOf (depth : Nat) (action : String) (b : Builder) :
    ∃ text, Effect verdicts (statements (linesAt depth ((codeOf action).run b).1)) t k t (k + 1)
        [(k, text)] ∧
      [text].filter isActivity = activityLines ((codeOf action).run b).1 := by
  have hline : ∀ code : Code, code.shape.isAction = true →
      Effect verdicts [Line.statement ⟨depth, code⟩] t k t (k + 1)
        [(k, Text.singleLine code.text)] := by
    intro code hcode
    exact Effect.action (by rw [shapeOf_statement]; exact hcode)
  rcases codeOf_cases action b with ⟨activity, h⟩ | ⟨rawArgs, h⟩ | ⟨unmapped, h⟩ <;> rw [h]
  · exact ⟨_, hline (.queue activity) rfl, rfl⟩
  · refine ⟨_, (effect_remark depth rfl).append (hline (.queue .stay) rfl), ?_⟩
    simp [activityLines, isActivity, shapeOf_text, Code.shape, Remark.shape]
  · exact ⟨_, hline (.remark (.unmapped unmapped)) rfl, rfl⟩

/-- **An action is carried out once.** -/
theorem effect_perform (env : Env) (depth : Nat) (id action : String) (dropped : Nat)
    (b : Builder) :
    ∃ text, Effect verdicts
        (statements (linesAt depth (((Event.perform id action dropped).emit env).run b).1))
        t k t (k + 1) [(k, text)] ∧
      [text].filter isActivity = activityLines ((codeOf action).run b).1 := by
  obtain ⟨text, heffect, htext⟩ := effect_codeOf (t := t) (k := k) depth action b
  refine ⟨text, ?_, htext⟩
  rw [run_emit_perform, linesAt, List.map_append, statements_append]
  exact heffect.append (effect_droppedMark depth id dropped _)

/-- A guarded plan is carried out if its test holds. -/
theorem effect_guarded {env : Env} {depth t' k' : Nat} {condition : String} {yes : Plan}
    {b : Builder} {out : List (Nat × String)}
    (hyes : Effect verdicts
      (statements ((lowerAll env (depth + 1) yes).run ((testOf env.lookup condition).run b).2).1)
      (t + 1) k t' k' out) :
    Effect verdicts (statements ((lower env depth (.guarded condition yes)).run b).1) t k t' k'
      (if verdicts t then out else []) := by
  rw [statements_guarded]
  exact Effect.branch (shapeOf_statement _) (shapeOf_statement _) (shapeOf_statement _) hyes

/-- The test of a plan with two sides decides which of them is carried out. -/
theorem effect_either {env : Env} {depth t' k' t'' k'' : Nat} {condition : String}
    {yes no : Plan} {b : Builder} {out out' : List (Nat × String)}
    (hyes : Effect verdicts
      (statements ((lowerAll env (depth + 1) yes).run ((testOf env.lookup condition).run b).2).1)
      (t + 1) k t' k' out)
    (hno : Effect verdicts
      (statements ((lowerAll env (depth + 1) no).run
        ((lowerAll env (depth + 1) yes).run ((testOf env.lookup condition).run b).2).2).1)
      t' k' t'' k'' out') :
    Effect verdicts (statements ((lower env depth (.either condition yes no)).run b).1) t k t'' k''
      (if verdicts t then out else out') := by
  rw [statements_either]
  exact Effect.branchElse (shapeOf_statement _) (shapeOf_statement _) (shapeOf_statement _)
    (shapeOf_statement _) (shapeOf_statement _) (shapeOf_statement _) hyes hno

end BehaviorTraits.Hook
