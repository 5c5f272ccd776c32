import BehaviorTraits.Proofs.ConditionGrammar
import BehaviorTraits.Proofs.SubjectCache

/-!
# Where the same text becomes the same code

A condition or an action is turned into code with a builder at hand, which other conditions and
actions have changed.  All that the code can take from it is the number of fields (`testOf_result`,
`codeOf_result`): what has been looked up before gives the same answers, and the log is not read.
The number matters for the name of a field that is to be made from a text without any ASCII letter
or digit (`nameFor_eq_iff`), and for nothing else.

So it can be told from a text alone whether it becomes the same code everywhere (`code_steady_iff`).
-/

namespace BehaviorTraits

open Text

/-- A comparison has something on its right-hand side. -/
theorem Condition.literal_ne_empty {raw literal : String} {comparison : Comparison}
    (h : (parse raw).comparison = some (comparison, literal)) : literal ≠ "" := by
  rw [parse_eq] at h
  cases hread : comparison? (bodyOf raw) with
  | none =>
      rw [ofBody_of_none hread] at h
      cases h
  | some read =>
      obtain ⟨s, op, right⟩ := read
      rw [ofBody_of_some hread] at h
      obtain ⟨before, behind, hsplits⟩ := (comparison?_reads (trimmed_bodyOf raw) hread).split
      cases h
      intro hempty
      exact hsplits.present (by simpa using congrArg String.toList hempty)

namespace Hook

open Build

/-! ## What is taken from a builder -/

/-- The test that a condition becomes when there are so many fields, and whether it is negated. -/
def testFor (lookup : Lookup) (count : Nat) (raw : String) : Bool × Test :=
  let condition := Condition.parse raw
  (condition.negated,
    match Subject.ofLookup condition.subject (lookup condition.subject) with
    | .capability record => .carries record.name
    | .health =>
      let (comparison, literal) := condition.comparison.getD (.less, "")
      .health comparison (thresholdFor count literal)
    | .enemy => .enemyInCell
    | .flag => .flag (FieldDecl.nameFor count condition.subject))

/-- The ticks of a wait when there are so many fields. -/
def ticksFor (count : Nat) : List String → Ticks
  | [] => .field (FieldDecl.nameFor count "WaitTicks")
  | arg :: _ => if Action.isTickCount arg then .count arg else .field (FieldDecl.nameFor count arg)

/-- The code that an action becomes when there are so many fields. -/
def codeFor (count : Nat) (raw : String) : List Code :=
  let action := Action.parse raw
  match action.kind with
  | .wait => [.queue (.wait (ticksFor count action.args))]
  | .attack => [.queue .hunt]
  | .move =>
    match Action.target? action.rawArgs with
    | some (x, y) => [.queue (.move x y)]
    | none => [.remark (.notACell action.rawArgs), .queue .stay]
  | .unmapped => [.remark (.unmapped (trim raw))]

/-- **What a condition becomes** depends on the number of fields only. -/
theorem testOf_result {lookup : Lookup} {b : Builder} (hb : b.Faithful lookup) (raw : String) :
    ((testOf lookup raw).run b).1 = testFor lookup b.fields.length raw := by
  rw [testOf_eq]
  unfold testAbout testFor
  generalize Condition.parse raw = condition
  obtain ⟨hfound, hfields, -⟩ := resolve_faithful hb condition.subject
  dsimp only
  rw [run_bind, hfound, ← hfields]
  generalize ((resolve lookup condition.subject).run b).2 = known
  cases Subject.ofLookup condition.subject (lookup condition.subject) with
  | capability record => rfl
  | health =>
      simp only [run_bind, run_pure, run_need, thresholdOf_result]
  | enemy => rfl
  | flag =>
      simp only [run_bind, run_pure, field_name]

/-- **What ticks become** depends on the number of fields only. -/
theorem ticksOf_result (args : List String) (b : Builder) :
    ((ticksOf args).run b).1 = ticksFor b.fields.length args := by
  cases args with
  | nil =>
      rw [ticksOf, run_bind, field_name]
      rfl
  | cons arg rest =>
      rw [ticksOf, ticksFor]
      by_cases hcount : Action.isTickCount arg = true
      · rw [if_pos hcount, if_pos hcount]
        rfl
      · rw [if_neg hcount, if_neg hcount, run_bind, field_name]
        rfl

/-- **What an action becomes** depends on the number of fields only. -/
theorem codeOf_result (raw : String) (b : Builder) :
    ((codeOf raw).run b).1 = codeFor b.fields.length raw := by
  unfold codeOf codeFor
  dsimp only
  cases (Action.parse raw).kind with
  | wait =>
      simp only [run_bind, run_pure, ticksOf_result]
  | attack => rfl
  | move =>
      simp only [run_bind]
      cases Action.target? (Action.parse raw).rawArgs with
      | some cell => rfl
      | none => rfl
  | unmapped => rfl

/-! ## Steady texts -/

/-- Does the condition become the same test whatever fields there are?  A flag does if its subject
has an ASCII letter or digit, and a comparison of health if its literal is a percentage or has one.
-/
def isSteadyCondition (lookup : Lookup) (raw : String) : Bool :=
  let condition := Condition.parse raw
  match Subject.ofLookup condition.subject (lookup condition.subject) with
  | .capability _ | .enemy => true
  | .health => condition.comparison.all fun (_, literal) =>
    (Number.percentFraction? literal).isSome || isNameable literal
  | .flag => isNameable condition.subject

/-- Does the action become the same code whatever fields there are?  A wait does unless its first
argument is no number of ticks and has no ASCII letter or digit. -/
def isSteadyAction (raw : String) : Bool :=
  let action := Action.parse raw
  match action.kind with
  | .wait => action.args.head?.all fun arg => Action.isTickCount arg || isNameable arg
  | _ => true

/-- Lines of tests are the same just if the tests are written in the same way. -/
theorem branch_text_inj {negated : Bool} {test test' : Test} :
    (Code.branch negated test).text = (Code.branch negated test').text ↔
      test.text = test'.text := by
  unfold Code.text
  cases negated <;> dsimp only <;> rw [String.append_left_inj, String.append_right_inj] <;> rfl

/-- Health tests are written in the same way just if their thresholds are. -/
theorem health_text_inj {comparison : Comparison} {threshold threshold' : Threshold} :
    (Test.health comparison threshold).text = (Test.health comparison threshold').text ↔
      threshold.text = threshold'.text := by
  unfold Test.text
  dsimp only
  rw [String.append_right_inj]
  rfl

/-- Waits are written in the same way just if their ticks are. -/
theorem wait_text_inj {ticks ticks' : Ticks} :
    (Activity.wait ticks).text = (Activity.wait ticks').text ↔ ticks.text = ticks'.text := by
  unfold Activity.text
  dsimp only
  rw [String.append_left_inj, String.append_right_inj]
  rfl

/-- A comparison with nothing takes its threshold from a field of its own. -/
theorem thresholdFor_absent (m n : Nat) : thresholdFor m "" = thresholdFor n "" := by
  have hname : FieldDecl.nameFor m "HealthThreshold" = FieldDecl.nameFor n "HealthThreshold" :=
    FieldDecl.nameFor_of_nameable (by decide) m n
  unfold thresholdFor
  rw [if_pos rfl, hname]

section

variable {m n : Nat} (hne : m ≠ n)

include hne

/-- A threshold is steady just if it is a percentage or has a letter or digit to be named after. -/
theorem thresholdFor_text_eq_iff {literal : String} (hliteral : literal ≠ "") :
    (thresholdFor m literal).text = (thresholdFor n literal).text ↔
      ((Number.percentFraction? literal).isSome || isNameable literal) = true := by
  unfold thresholdFor
  cases Number.percentFraction? literal with
  | some fraction => simp
  | none =>
      rw [if_neg hliteral, Option.isSome_none, Bool.false_or, ← FieldDecl.nameFor_eq_iff hne]
      unfold Threshold.text
      dsimp only
      rw [String.append_left_inj, String.append_right_inj]
      rfl

/-- **A condition with other fields** becomes another text, unless it is steady. -/
theorem testFor_text_eq_iff (lookup : Lookup) (raw : String) :
    (Code.branch (testFor lookup m raw).1 (testFor lookup m raw).2).text =
        (Code.branch (testFor lookup n raw).1 (testFor lookup n raw).2).text ↔
      isSteadyCondition lookup raw = true := by
  have hliteral := @Condition.literal_ne_empty raw
  unfold testFor isSteadyCondition
  generalize Condition.parse raw = condition at hliteral ⊢
  dsimp only
  rw [branch_text_inj]
  cases Subject.ofLookup condition.subject (lookup condition.subject) with
  | capability record => exact iff_of_true rfl rfl
  | health =>
      dsimp only
      rw [health_text_inj]
      cases hcomparison : condition.comparison with
      | none => exact iff_of_true (congrArg Threshold.text (thresholdFor_absent m n)) rfl
      | some compared =>
          obtain ⟨comparison, literal⟩ := compared
          rw [Option.getD_some, Option.all_some]
          exact thresholdFor_text_eq_iff hne (hliteral hcomparison)
  | enemy => exact iff_of_true rfl rfl
  | flag =>
      dsimp only
      rw [← FieldDecl.nameFor_eq_iff hne]
      unfold Test.text
      dsimp only
      rw [String.append_right_inj]
      rfl

/-- Ticks are steady just if they are counted or have a letter or digit to be named after. -/
theorem ticksFor_text_eq_iff (args : List String) :
    (ticksFor m args).text = (ticksFor n args).text ↔
      args.head?.all (fun arg => Action.isTickCount arg || isNameable arg) = true := by
  cases args with
  | nil =>
      have hname : FieldDecl.nameFor m "WaitTicks" = FieldDecl.nameFor n "WaitTicks" :=
        FieldDecl.nameFor_of_nameable (by decide) m n
      rw [ticksFor, ticksFor, hname]
      exact iff_of_true rfl rfl
  | cons arg rest =>
      rw [ticksFor, ticksFor, List.head?_cons, Option.all_some]
      by_cases hcount : Action.isTickCount arg = true
      · rw [if_pos hcount, if_pos hcount, hcount]
        exact iff_of_true rfl rfl
      · rw [if_neg hcount, if_neg hcount, Bool.eq_false_iff.mpr hcount, Bool.false_or,
          ← FieldDecl.nameFor_eq_iff hne]
        unfold Ticks.text
        dsimp only
        rw [String.append_right_inj]
        rfl

/-- **An action with other fields** becomes another text, unless it is steady. -/
theorem codeFor_text_eq_iff (raw : String) :
    (codeFor m raw).map Code.text = (codeFor n raw).map Code.text ↔
      isSteadyAction raw = true := by
  unfold codeFor isSteadyAction
  dsimp only
  cases (Action.parse raw).kind with
  | wait =>
      dsimp only
      rw [← ticksFor_text_eq_iff hne]
      rw [← wait_text_inj]
      exact List.singleton_inj
  | attack => exact iff_of_true rfl rfl
  | move => exact iff_of_true rfl rfl
  | unmapped => exact iff_of_true rfl rfl

end

/-! ## The same text, the same code -/

/-- What depends on the number of fields only is the same everywhere, just if it is the same for
any two numbers. -/
theorem steady_iff {α : Type} {lookup : Lookup} {f : Builder → α} {g : Nat → α} {p : Bool}
    (hf : ∀ b, Reached lookup b → f b = g b.fields.length)
    (hg : ∀ m n, m ≠ n → (g m = g n ↔ p = true)) :
    (∀ b b', Reached lookup b → Reached lookup b' → f b = f b') ↔ p = true := by
  constructor
  · -- a synthesis starts with one field, or with two if it scans at intervals
    intro h
    have hone : Reached lookup { fields := initialFields {} } := .start {}
    have htwo : Reached lookup { fields := initialFields { scanInterval := some 1 } } := .start _
    have hsame := h _ _ hone htwo
    rw [hf _ hone, hf _ htwo] at hsame
    exact (hg 1 2 (by decide)).mp hsame
  · intro hp b b' hb hb'
    rw [hf b hb, hf b' hb']
    by_cases hlength : b.fields.length = b'.fields.length
    · rw [hlength]
    · exact (hg _ _ hlength).mpr hp

/-- The text of the test that a condition becomes. -/
def testText (lookup : Lookup) (raw : String) (b : Builder) : String :=
  let (negated, test) := ((testOf lookup raw).run b).1
  (Code.branch negated test).text

/-- The texts of the lines that an action becomes. -/
def codeTexts (raw : String) (b : Builder) : List String :=
  ((codeOf raw).run b).1.map Code.text

/-- **The same text becomes the same code everywhere.**  Lowering goes through builders that are
reached, whatever the options and the tree are.  In any two of them a condition becomes the same
test just if it names a capability or an enemy, if it compares health with nothing, with a
percentage or with something that has an ASCII letter or digit, or if it is a flag that has one.
An action becomes the same lines just if it is no wait, or one whose first argument is missing, is a
number of ticks or has a letter or digit. -/
theorem code_steady_iff (lookup : Lookup) :
    (∀ options root, ∀ b ∈ passed lookup options root, Reached lookup b) ∧
    (∀ raw, (∀ b b', Reached lookup b → Reached lookup b' →
        testText lookup raw b = testText lookup raw b') ↔ isSteadyCondition lookup raw = true) ∧
    ∀ raw, (∀ b b', Reached lookup b → Reached lookup b' → codeTexts raw b = codeTexts raw b') ↔
      isSteadyAction raw = true := by
  refine ⟨passed_reached lookup, fun raw => ?_, fun raw => ?_⟩
  · refine steady_iff (fun b hb => ?_) fun m n hne => testFor_text_eq_iff hne lookup raw
    rw [testText, testOf_result hb.faithful]
  · refine steady_iff (fun b _ => ?_) fun m n hne => codeFor_text_eq_iff hne raw
    rw [codeTexts, codeOf_result]

example : isSteadyCondition (fun _ => none) "Health < ?" = false ∧
    isSteadyCondition (fun _ => none) "Health" = true ∧
    isSteadyAction "Wait(?)" = false ∧ isSteadyAction "Wait(5, ?)" = true := by
  decide

end Hook

end BehaviorTraits
