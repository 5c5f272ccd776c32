import BehaviorTraits.Hook.Code
import BehaviorTraits.Proofs.Unbroken

/-!
# Executing flat code

The body of an update hook is a flat list of lines.  Nothing but their texts and depths says how
they nest, so this file reads them back the way a compiler would:

* `shapeOf` tells from its text what a line does;
* `Block` is the grammar of well-nested code: a test at a depth is followed by a block in braces at
  the same depth, an `else` stands right behind the brace that closes the block of its test, and
  all lines between two braces are deeper than these;
* `execute` goes through the lines once, from the first to the last.  It knows the tests by their
  number only, keeps one frame for each open brace, and notes each action that it carries out.

`Effect` says what executing a piece of code does, whatever surrounds it.  Pieces compose
(`Effect.append`), and a test with its blocks runs one of the two (`Effect.branch`,
`Effect.branchElse`).
-/

namespace BehaviorTraits.Hook

open Text

/-! ## What a line does -/

inductive Shape where
  | test
  | otherwise
  | opening
  | closing
  /-- The actor is given something to do. -/
  | activity
  | nodeMark
  | droppedMark
  | warning
  /-- An action has no code of its own. -/
  | unmapped
  | other
  deriving DecidableEq, Repr

namespace Shape

/-- The texts that lines of a shape begin with. -/
def openings : List (String × Shape) :=
  [("if (", test), ("self.QueueActivity(", activity), ("// node:", nodeMark),
    ("// NOTE:", droppedMark), ("// WARNING:", warning), ("// Unmapped action:", unmapped)]

/-- Does the line stand for an action of the tree? -/
def isAction : Shape → Bool
  | activity | unmapped => true
  | _ => false

/-- Is the line a comment? -/
def isComment : Shape → Bool
  | nodeMark | droppedMark | warning | unmapped => true
  | _ => false

end Shape

/-- What a line does, by its text. -/
def shapeOf (text : String) : Shape :=
  if text.toList = "else".toList then .otherwise
  else if text.toList = "\x7b".toList then .opening
  else if text.toList = "\x7d".toList then .closing
  else
    match Shape.openings.find? fun opening => opening.1.toList.isPrefixOf text.toList with
    | some (_, shape) => shape
    | none => .other

def Remark.shape : Remark → Shape
  | node _ => .nodeMark
  | dropped _ _ => .droppedMark
  | notACell _ => .warning
  | unmapped _ => .unmapped

def Code.shape : Code → Shape
  | remark r => r.shape
  | queue _ => .activity
  | branch _ _ => .test
  | otherwise => .otherwise
  | opening => .opening
  | closing => .closing

/-- The text begins with the opening. -/
def Opens (opening text : String) : Prop := opening.toList <+: text.toList

instance (opening text : String) : Decidable (Opens opening text) :=
  inferInstanceAs (Decidable (opening.toList <+: text.toList))

/-- A text still begins in the same way when more is put behind it. -/
theorem Opens.append {opening text : String} (h : Opens opening text) (rest : String) :
    Opens opening (text ++ rest) := by
  unfold Opens
  rw [String.toList_append]
  exact h.trans (List.prefix_append _ _)

/-- What follows its opening does not change the shape of a line. -/
theorem shapeOf_opening {opening text : String} {shape : Shape}
    (hmem : (opening, shape) ∈ Shape.openings) (hopens : Opens opening text) :
    shapeOf (singleLine text) = shape := by
  have hunbroken : ∀ o ∈ Shape.openings, Unbroken o.1.toList := by decide
  obtain ⟨rest, hrest⟩ := hopens
  have htext : (singleLine text).toList = opening.toList ++ singleLineChars rest := by
    rw [toList_singleLine, ← hrest, singleLineChars_append (hunbroken _ hmem)]
  simp only [Shape.openings, List.mem_cons, Prod.mk.injEq, List.not_mem_nil, or_false] at hmem
  rcases hmem with ⟨rfl, rfl⟩ | ⟨rfl, rfl⟩ | ⟨rfl, rfl⟩ | ⟨rfl, rfl⟩ | ⟨rfl, rfl⟩ | ⟨rfl, rfl⟩
  all_goals simp [shapeOf, htext, Shape.openings]

/-- **The shape of a remark can be read off its line**, whatever texts it quotes. -/
theorem shapeOf_remark (r : Remark) : shapeOf (singleLine r.text) = r.shape := by
  cases r with
  | node id =>
      have h : Opens "// node:" "// node: " := by decide
      exact shapeOf_opening (by decide : (_, Shape.nodeMark) ∈ _) (h.append _)
  | dropped children id =>
      have h : Opens "// NOTE:" "// NOTE: " := by decide
      exact shapeOf_opening (by decide : (_, Shape.droppedMark) ∈ _)
        ((((h.append _).append _).append _).append _)
  | notACell rawArgs =>
      have h : Opens "// WARNING:" "// WARNING: move target '" := by decide
      exact shapeOf_opening (by decide : (_, Shape.warning) ∈ _) ((h.append _).append _)
  | unmapped action =>
      have h : Opens "// Unmapped action:" "// Unmapped action: " := by decide
      exact shapeOf_opening (by decide : (_, Shape.unmapped) ∈ _) (h.append _)

/-- Every remark is a comment. -/
theorem opens_remark (r : Remark) : Opens "//" r.text := by
  cases r with
  | node id =>
      have h : Opens "//" "// node: " := by decide
      exact h.append _
  | dropped children id =>
      have h : Opens "//" "// NOTE: " := by decide
      exact (((h.append _).append _).append _).append _
  | notACell rawArgs =>
      have h : Opens "//" "// WARNING: move target '" := by decide
      exact (h.append _).append _
  | unmapped action =>
      have h : Opens "//" "// Unmapped action: " := by decide
      exact h.append _

/-- Whatever the actor is to do, its line begins by queueing it. -/
theorem opens_activity (activity : Activity) : Opens "self.QueueActivity(" activity.text := by
  cases activity with
  | wait ticks =>
      have h : Opens "self.QueueActivity(" "self.QueueActivity(new Wait(" := by decide
      exact (h.append _).append _
  | hunt => decide
  | move x y =>
      have h : Opens "self.QueueActivity(" "self.QueueActivity(new Move(self, new CPos(" := by
        decide
      exact (((h.append _).append _).append _).append _
  | stay => decide

/-- **Reading back.**  The text of code shows what the code does, whatever names and free text the
tree has put into it. -/
theorem shapeOf_text (code : Code) : shapeOf (singleLine code.text) = code.shape := by
  cases code with
  | remark r => exact shapeOf_remark r
  | queue activity =>
      exact shapeOf_opening (by decide : (_, Shape.activity) ∈ _) (opens_activity activity)
  | branch negated test =>
      have hplain : Opens "if (" "if (" := by decide
      have hnegated : Opens "if (" "if (!(" := by decide
      cases negated with
      | false =>
          exact shapeOf_opening (by decide : (_, Shape.test) ∈ _) ((hplain.append _).append _)
      | true =>
          exact shapeOf_opening (by decide : (_, Shape.test) ∈ _) ((hnegated.append _).append _)
  | otherwise => decide
  | opening => decide
  | closing => decide

/-- **The shape of a line can be read off its text.** -/
@[simp] theorem shapeOf_statement (l : Line) : shapeOf l.statement.text = l.code.shape :=
  shapeOf_text l.code

/-! ## Well-nested code -/

/-- The line stands at the depth and does what the shape says. -/
def Stands (line : Statement) (depth : Nat) (shape : Shape) : Prop :=
  line.depth = depth ∧ shapeOf line.text = shape

/-- The lines are well nested, the outermost ones standing at `depth`. -/
inductive Block : Nat → List Statement → Prop
  | nil (depth : Nat) : Block depth []
  | plain {depth : Nat} {line : Statement} {rest : List Statement}
      (hdepth : line.depth = depth)
      (hshape : shapeOf line.text = .activity ∨ (shapeOf line.text).isComment = true)
      (hrest : Block depth rest) : Block depth (line :: rest)
  | branch {depth : Nat} {test opening closing : Statement} {yes rest : List Statement}
      (htest : Stands test depth .test) (hopening : Stands opening depth .opening)
      (hyes : Block (depth + 1) yes) (hclosing : Stands closing depth .closing)
      (hrest : Block depth rest) :
      Block depth (test :: opening :: yes ++ closing :: rest)
  | branchElse {depth : Nat} {test opening closing otherwise opening' closing' : Statement}
      {yes no rest : List Statement}
      (htest : Stands test depth .test) (hopening : Stands opening depth .opening)
      (hyes : Block (depth + 1) yes) (hclosing : Stands closing depth .closing)
      (hotherwise : Stands otherwise depth .otherwise)
      (hopening' : Stands opening' depth .opening)
      (hno : Block (depth + 1) no) (hclosing' : Stands closing' depth .closing)
      (hrest : Block depth rest) :
      Block depth (test :: opening :: yes ++ closing :: otherwise :: opening' :: no ++
        closing' :: rest)

/-- Well-nested pieces at one depth make a well-nested whole. -/
theorem Block.append {depth : Nat} {first second : List Statement}
    (hfirst : Block depth first) (hsecond : Block depth second) :
    Block depth (first ++ second) := by
  induction hfirst with
  | nil => exact hsecond
  | plain hdepth hshape _ ih => exact .plain hdepth hshape (ih hsecond)
  | branch htest hopening hyes hclosing _ _ ih =>
      simpa using Block.branch htest hopening hyes hclosing (ih hsecond)
  | branchElse htest hopening hyes hclosing hotherwise hopening' hno hclosing' _ _ _ ih =>
      simpa using Block.branchElse htest hopening hyes hclosing hotherwise hopening' hno
        hclosing' (ih hsecond)

/-! ## Execution -/

/-- Where execution stands between two lines. -/
structure Control where
  /-- How many tests have been met. -/
  tests : Nat := 0
  /-- How many lines that stand for an action have been met. -/
  tasks : Nat := 0
  /-- Is the block that comes next to be executed, as far as its test goes? -/
  verdict : Bool := true
  /-- Is the present block executed? -/
  live : Bool := true
  /-- `live` and `verdict` as they were before each open brace, the innermost first. -/
  frames : List (Bool × Bool) := []
  /-- The actions carried out, each with its number among all actions and its line. -/
  reached : List (Nat × String) := []

namespace Control

/-- Meets a line that stands for an action. -/
def act (c : Control) (text : String) : Control :=
  { c with
    tasks := c.tasks + 1
    reached := c.reached ++ if c.live then [(c.tasks, text)] else [] }

/-- Executes one line; `verdicts` says which tests hold. -/
def step (verdicts : Nat → Bool) (c : Control) (line : Statement) : Control :=
  match shapeOf line.text with
  | .test => { c with tests := c.tests + 1, verdict := verdicts c.tests }
  | .otherwise => { c with verdict := !c.verdict }
  | .opening =>
    { c with live := c.live && c.verdict, frames := (c.live, c.verdict) :: c.frames }
  | .closing =>
    match c.frames with
    | [] => c
    | (live, verdict) :: frames => { c with live, verdict, frames }
  | .activity | .unmapped => c.act line.text
  | .nodeMark | .droppedMark | .warning | .other => c

/-- Executes lines one after the other. -/
def run (verdicts : Nat → Bool) (c : Control) (body : List Statement) : Control :=
  body.foldl (step verdicts) c

end Control

/-- The actions that executing the lines carries out, each with its number and its line. -/
def execute (verdicts : Nat → Bool) (body : List Statement) : List (Nat × String) :=
  (Control.run verdicts {} body).reached

/-- Does the line give the actor something to do? -/
def isActivity (text : String) : Bool := shapeOf text == .activity

/-- The lines by which executing a body gives the actor something to do, in order. -/
def queued (verdicts : Nat → Bool) (body : List Statement) : List String :=
  ((execute verdicts body).map (·.2)).filter isActivity

/-- **What a piece of code does.**  Met behind `t` tests and `k` actions, it ends behind `t'` tests
and `k'` actions, carries out `out` if it is executed and nothing if not, and leaves all open
blocks as they were. -/
def Effect (verdicts : Nat → Bool) (body : List Statement) (t k t' k' : Nat)
    (out : List (Nat × String)) : Prop :=
  ∀ c : Control, c.tests = t → c.tasks = k → ∃ w, Control.run verdicts c body =
    { c with
      tests := t', tasks := k', verdict := w
      reached := c.reached ++ if c.live then out else [] }

namespace Effect

variable {verdicts : Nat → Bool} {t k t' k' t'' k'' : Nat} {out out' : List (Nat × String)}

/-- No code does nothing. -/
theorem nil : Effect verdicts [] t k t k [] := by
  rintro ⟨_, _, verdict, _, _, _⟩ rfl rfl
  exact ⟨verdict, by simp [Control.run]⟩

/-- Pieces of code run one after the other. -/
theorem append {first second : List Statement} (hfirst : Effect verdicts first t k t' k' out)
    (hsecond : Effect verdicts second t' k' t'' k'' out') :
    Effect verdicts (first ++ second) t k t'' k'' (out ++ out') := by
  intro c ht hk
  obtain ⟨w, hw⟩ := hfirst c ht hk
  obtain ⟨w', hw'⟩ := hsecond (Control.run verdicts c first) (by rw [hw]) (by rw [hw])
  refine ⟨w', ?_⟩
  rw [Control.run, List.foldl_append, ← Control.run, ← Control.run, hw', hw]
  cases c.live <;> simp

/-- A comment that stands for no action does nothing. -/
theorem comment {line : Statement} (hcomment : (shapeOf line.text).isComment = true)
    (haction : (shapeOf line.text).isAction = false) : Effect verdicts [line] t k t k [] := by
  rintro ⟨_, _, verdict, _, _, _⟩ rfl rfl
  refine ⟨verdict, ?_⟩
  cases hshape : shapeOf line.text <;> simp_all [Control.run, Control.step, Shape.isComment,
    Shape.isAction]

/-- A line that stands for an action carries out this action. -/
theorem action {line : Statement} (haction : (shapeOf line.text).isAction = true) :
    Effect verdicts [line] t k t (k + 1) [(k, line.text)] := by
  rintro ⟨_, _, verdict, _, _, _⟩ rfl rfl
  refine ⟨verdict, ?_⟩
  cases hshape : shapeOf line.text <;> simp_all [Control.run, Control.step, Control.act,
    Shape.isAction]

/-- A block in braces runs if the verdict before it is good, and gives this verdict back. -/
theorem run_braced {opening closing : Statement} {inner : List Statement}
    (hopening : shapeOf opening.text = .opening) (hclosing : shapeOf closing.text = .closing)
    (hinner : Effect verdicts inner t k t' k' out) {c : Control}
    (ht : c.tests = t) (hk : c.tasks = k) :
    Control.run verdicts c (opening :: inner ++ [closing]) =
      { c with
        tests := t', tasks := k'
        reached := c.reached ++ if c.live && c.verdict then out else [] } := by
  let opened : Control :=
    { c with live := c.live && c.verdict, frames := (c.live, c.verdict) :: c.frames }
  obtain ⟨w, hw⟩ := hinner opened ht hk
  have hrun : Control.run verdicts c (opening :: inner ++ [closing]) =
      Control.step verdicts (Control.run verdicts opened inner) closing := by
    simp only [Control.run, List.cons_append, List.foldl_cons, List.foldl_append, List.foldl_nil]
    rw [show Control.step verdicts c opening = opened by simp [Control.step, hopening, opened]]
  rw [hrun, hw]
  simp [Control.step, hclosing, opened]

/-- A test lets its block run or not. -/
theorem branch {test opening closing : Statement} {yes : List Statement}
    (htest : shapeOf test.text = .test) (hopening : shapeOf opening.text = .opening)
    (hclosing : shapeOf closing.text = .closing)
    (hyes : Effect verdicts yes (t + 1) k t' k' out) :
    Effect verdicts (test :: opening :: yes ++ [closing]) t k t' k'
      (if verdicts t then out else []) := by
  intro c ht hk
  let tested : Control := { c with tests := c.tests + 1, verdict := verdicts c.tests }
  have hstep : Control.run verdicts c (test :: opening :: yes ++ [closing]) =
      Control.run verdicts tested (opening :: yes ++ [closing]) := by
    simp [Control.run, Control.step, htest, tested]
  refine ⟨verdicts t, ?_⟩
  rw [hstep, run_braced hopening hclosing hyes (c := tested) (congrArg (· + 1) ht) hk]
  cases c.live <;> simp [tested, ht]

/-- A test decides which of its two blocks runs. -/
theorem branchElse {test opening closing otherwise opening' closing' : Statement}
    {yes no : List Statement}
    (htest : shapeOf test.text = .test) (hopening : shapeOf opening.text = .opening)
    (hclosing : shapeOf closing.text = .closing)
    (hotherwise : shapeOf otherwise.text = .otherwise)
    (hopening' : shapeOf opening'.text = .opening)
    (hclosing' : shapeOf closing'.text = .closing)
    (hyes : Effect verdicts yes (t + 1) k t' k' out)
    (hno : Effect verdicts no t' k' t'' k'' out') :
    Effect verdicts
      (test :: opening :: yes ++ closing :: otherwise :: opening' :: no ++ [closing']) t k t'' k''
      (if verdicts t then out else out') := by
  intro c ht hk
  let tested : Control := { c with tests := c.tests + 1, verdict := verdicts c.tests }
  -- behind the first block the verdict is that of the test again; `else` turns it round
  let turned : Control :=
    { c with
      tests := t', tasks := k', verdict := !verdicts t
      reached := c.reached ++ if c.live && verdicts t then out else [] }
  have hfirst : Control.run verdicts tested (opening :: yes ++ [closing]) =
      { turned with verdict := verdicts t } := by
    rw [run_braced hopening hclosing hyes (c := tested) (congrArg (· + 1) ht) hk]
    simp [tested, turned, ht]
  have hstep : Control.run verdicts c
      (test :: opening :: yes ++ closing :: otherwise :: opening' :: no ++ [closing']) =
      Control.run verdicts turned (opening' :: no ++ [closing']) := by
    have hsplit : test :: opening :: yes ++ closing :: otherwise :: opening' :: no ++ [closing'] =
        test :: (opening :: yes ++ [closing]) ++ otherwise :: (opening' :: no ++ [closing']) := by
      simp
    rw [hsplit, Control.run, List.foldl_append, List.foldl_cons, List.foldl_cons, ← Control.run,
      ← Control.run, show Control.step verdicts c test = tested by
        simp [Control.step, htest, tested], hfirst]
    simp [Control.step, hotherwise, turned]
  refine ⟨!verdicts t, ?_⟩
  rw [hstep, run_braced hopening' hclosing' hno (c := turned) rfl rfl]
  cases hlive : c.live <;> cases hv : verdicts t <;> simp [turned, hlive, hv]

end Effect

/-- What a piece of code does is what executing it alone carries out. -/
theorem Effect.execute_eq {verdicts : Nat → Bool} {body : List Statement} {t k : Nat}
    {out : List (Nat × String)} (h : Effect verdicts body 0 0 t k out) :
    execute verdicts body = out := by
  obtain ⟨w, hw⟩ := h {} rfl rfl
  simp [execute, hw]

end BehaviorTraits.Hook
