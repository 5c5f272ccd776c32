import BehaviorTraits.Proofs.ConfigValues
import BehaviorTraits.Proofs.DeclaredFields
import BehaviorTraits.Proofs.Dependencies
import BehaviorTraits.Proofs.LineNumbers

/-!
# Integer literals

Numbers of a tree and of a configuration are copied into code where an `int` of 32 bits is expected:
as the ticks of a wait, as the coordinates of a cell, and as the initial values of fields
(`Trait.IntLiteral`).  Ticks are checked for 64 bits, the interval of a configuration for 32 bits
without a sign, and coordinates for being digits of any script.  So what gets into the code has a
sign and digits, but may be no `int` (`oversized_literals`); `int_literals_fit_iff` says when all
of it is.
-/

namespace BehaviorTraits

open Text

namespace Number

/-! ## Numbers of 32 bits -/

/-- The number that ASCII digits write; there is at least one. -/
def natural? (digits : List Char) : Option Nat :=
  if digits ≠ [] ∧ digits.all Char.isDigit then some (Nat.ofDigitChars 10 digits 0) else none

/-- The number that a literal denotes: ASCII digits, with a sign or without. -/
def literal? (s : String) : Option Int :=
  let cs := s.toList
  if cs.head? = some '-' then (natural? cs.tail).map fun n => -(n : Int)
  else (natural? (if cs.head? = some '+' then cs.tail else cs)).map Int.ofNat

/-- Does the literal denote a number of 32 bits with its sign? -/
def isInt (s : String) : Bool :=
  (literal? s).any fun n => decide (-2147483648 ≤ n) && decide (n ≤ 2147483647)

/-- A number that is written out is read back. -/
theorem literal?_toString (n : Nat) : literal? (toString n) = some (n : Int) := by
  have hlist : (toString n).toList = Nat.toDigits 10 n := Nat.toList_repr
  have hsign : ∀ sign : Char, sign.isDigit = false → (toString n).toList.head? ≠ some sign := by
    intro sign hsign hhead
    rw [isDigit_of_mem_toString (List.mem_of_head? hhead)] at hsign
    cases hsign
  have hdigits : (toString n).toList.all Char.isDigit = true :=
    List.all_eq_true.mpr fun c => isDigit_of_mem_toString
  have hne : (toString n).toList ≠ [] := by
    rw [hlist]
    exact Nat.toDigits_ne_nil
  unfold literal?
  dsimp only
  rw [if_neg (hsign '-' (by decide)), if_neg (hsign '+' (by decide)), natural?,
    if_pos ⟨hne, hdigits⟩, hlist, Nat.ofDigitChars_ten_toDigits]
  rfl

/-- A printed number is an `int` unless it is too large. -/
theorem isInt_toString (n : Nat) : isInt (toString n) = true ↔ n ≤ 2147483647 := by
  rw [isInt, literal?_toString, Option.any_some, Bool.and_eq_true, decide_eq_true_eq,
    decide_eq_true_eq]
  omega

/-- ASCII digits are decimal digits. -/
theorem isDecimalDigit_of_isDigit {c : Char} (h : c.isDigit = true) : isDecimalDigit c = true := by
  apply CodeRanges.holds_iff.mpr
  refine ⟨(0x30, 0x39), by decide, ?_⟩
  delta Char.isDigit at h
  simpa [UInt32.le_iff_toNat_le] using h

/-- A number that is written out is made of digits. -/
theorem signed_toString (n : Nat) : Signed ['-', '+'] isDecimalDigit (toString n) := by
  refine ⟨(toString n).toList, ?_, ?_, .inl rfl⟩
  · have hword := word_repr n
    exact fun hnil => hword.1 (String.toList_eq_nil_iff.mp hnil)
  · exact fun c hc => isDecimalDigit_of_isDigit (isDigit_of_mem_toString hc)

end Number

namespace Hook

open Event

/-! ## Numbers of actions -/

/-- The numbers that an action brings into code: the ticks of a wait, if they are counted, and the
coordinates of a move to a cell. -/
def actionInts (raw : String) : List String :=
  let action := Action.parse raw
  match action.kind with
  | .wait => (action.args.head?.filter Action.isTickCount).toList
  | .move => ((Action.target? action.rawArgs).map fun cell => [cell.1, cell.2]).getD []
  | .attack | .unmapped => []

/-- The numbers that an event brings into code. -/
def Event.ints : Event → List String := fromText (fun _ => []) actionInts

/-- The code of an action has the numbers that the action brings. -/
theorem codeFor_ints (count : Nat) (raw : String) :
    (codeFor count raw).flatMap Code.ints = actionInts raw := by
  unfold codeFor actionInts
  generalize Action.parse raw = action
  dsimp only
  cases action.kind with
  | wait =>
      dsimp only
      cases action.args with
      | nil => rfl
      | cons arg rest =>
          rw [ticksFor, List.head?_cons]
          by_cases hcount : Action.isTickCount arg = true
          · rw [if_pos hcount, Option.filter_some_pos hcount]
            rfl
          · rw [if_neg hcount, Option.filter_some_neg (Bool.eq_false_iff.mpr hcount)]
            rfl
  | attack => rfl
  | move =>
      cases Action.target? action.rawArgs with
      | none => rfl
      | some cell => rfl
  | unmapped => rfl

/-- **Only actions bring numbers into code.** -/
theorem emit_ints (env : Env) (event : Event) (b : Builder) :
    ((event.emit env).run b).1.flatMap Code.ints = event.ints := by
  cases event with
  | enter id depth =>
      rw [run_emit_enter, nodeMark]
      split <;> rfl
  | merge head partner => rfl
  | decide condition => rfl
  | perform id action dropped =>
      have hmark : ((droppedMark id dropped).run ((codeOf action).run b).2).1.flatMap Code.ints =
          [] := by
        rw [droppedMark_code]
        split <;> rfl
      rw [run_emit_perform, List.flatMap_append, hmark, List.append_nil, codeOf_result,
        codeFor_ints]
      rfl

/-- The code of events has the numbers that they bring, one after the other. -/
theorem emitAll_ints (env : Env) (events : List Event) (b : Builder) :
    ((emitAll env events).run b).1.flatMap Code.ints = events.flatMap Event.ints := by
  induction events generalizing b with
  | nil => rfl
  | cons event events ih =>
      rw [run_emitAll_cons, List.flatMap_append, emit_ints, ih, List.flatMap_cons]

/-- **The numbers in the code of a tree** are those of the actions of its live leaves. -/
theorem mem_lowered_ints (lookup : Lookup) (options : HookOptions) (root : Node) (s : String) :
    s ∈ (carried (lowered lookup options root).1).flatMap Code.ints ↔
      ∃ node ∈ root.live, ∃ action, node.task? = some action ∧ s ∈ actionInts action := by
  have hcode : carried (lowered lookup options root).1 = _ :=
    (lowerAll_emits ⟨lookup, options.nodeComments⟩ (plan root) 0
      { fields := initialFields options }).1
  rw [hcode, emitAll_ints, Event.ints, mem_plan_fromText]
  simp

/-! ## Numbers of a trait -/

/-- What only serves the nesting has no number. -/
theorem not_putsInt_frame {code : Code} (hframe : code.isFrame = true) (s : String) :
    ¬ PutsInt (singleLine code.text) s := by
  cases code with
  | otherwise => exact not_putsInt (by decide) (by decide : Opens "e" (singleLine "else"))
  | opening => exact not_putsInt (by decide) (by decide : Opens "\x7b" (singleLine "\x7b"))
  | closing => exact not_putsInt (by decide) (by decide : Opens "\x7d" (singleLine "\x7d"))
  | remark r => cases hframe
  | queue activity => cases hframe
  | branch negated test => cases hframe

/-- The lines of a tree have the numbers of their code. -/
theorem putsInt_statements_iff (lookup : Lookup) (options : HookOptions) (root : Node)
    (s : String) :
    (∃ line ∈ statements (lowered lookup options root).1, PutsInt line.text s) ↔
      s ∈ (carried (lowered lookup options root).1).flatMap Code.ints := by
  have hcodes : ∀ code ∈ carried (lowered lookup options root).1,
      (PutsInt (singleLine code.text) s ↔ s ∈ code.ints) :=
    (lowered_writes lookup options root).forall_code fun hcode _ => hcode.putsInt_iff
  generalize (lowered lookup options root).1 = lines at hcodes
  rw [List.mem_flatMap]
  constructor
  · rintro ⟨_, hstatement, hputs⟩
    obtain ⟨line, hline, rfl⟩ := List.mem_map.mp hstatement
    have hcode : line.code ∈ carried lines := by
      refine List.mem_filter.mpr ⟨List.mem_map_of_mem hline, ?_⟩
      by_cases hframe : line.code.isFrame = true
      · exact absurd hputs (not_putsInt_frame hframe s)
      · simp [hframe]
    exact ⟨line.code, hcode, (hcodes _ hcode).mp hputs⟩
  · rintro ⟨code, hcode, hs⟩
    obtain ⟨line, hline, rfl⟩ := List.mem_map.mp (List.mem_filter.mp hcode).1
    exact ⟨line.statement, List.mem_map_of_mem hline, (hcodes _ hcode).mpr hs⟩

/-- The lines before those of the tree have no number in them. -/
theorem not_putsInt_preamble (options : HookOptions) (s : String) :
    ∀ line ∈ hookPreamble options, ¬ PutsInt line.text s := by
  have hopens : ∀ line ∈ hookPreamble options,
      Opens "if (" line.text ∨ Opens "ticksUntilNextScan" line.text := by
    have hall : ∀ idle : Bool,
        (∀ line ∈ hookPreamble { idleGuard := idle },
          Opens "if (" line.text ∨ Opens "ticksUntilNextScan" line.text) ∧
        ∀ line ∈ hookPreamble { idleGuard := idle, scanInterval := some 1 },
          Opens "if (" line.text ∨ Opens "ticksUntilNextScan" line.text := by
      decide
    rw [hookPreamble]
    cases options.scanInterval with
    | none => exact (hall options.idleGuard).1
    | some interval => exact (hall options.idleGuard).2
  intro line hline
  rcases hopens line hline with htext | htext
  · exact not_putsInt (by decide) htext
  · exact not_putsInt (by decide) htext

end Hook

/-- The text stands in the classes of the trait where an `int` is expected: in a line of a method,
or as the initial value of a field of the Info class. -/
inductive Trait.IntLiteral (t : Trait) (s : String) : Prop
  | operand {m : MethodDecl} {line : Statement} (hm : m ∈ t.logic.methods ++ t.info.methods)
      (hline : line ∈ m.body) (hputs : Hook.PutsInt line.text s)
  | initial {f : FieldDecl} (hf : f ∈ t.info.fields) (htype : f.type = "int")
      (hvalue : f.default? = some s)

namespace Hook

variable {lookup : Lookup} {options : HookOptions} {root : Node} {name : String} {t : Trait}

/-- **The numbers in the methods of a trait** come from its tree. -/
theorem putsInt_methods_iff (ht : synthesize lookup options root name = .ok t) (s : String) :
    (∃ m ∈ t.logic.methods ++ t.info.methods, ∃ line ∈ m.body, PutsInt line.text s) ↔
      ∃ node ∈ root.live, ∃ action, node.task? = some action ∧ s ∈ actionInts action := by
  rw [← mem_lowered_ints lookup options, ← putsInt_statements_iff, (synthesize_eq_ok ht).2]
  let tick := tickMethod (hookPreamble options ++ statements (lowered lookup options root).1)
  constructor
  · rintro ⟨m, hm, line, hline, hputs⟩
    change m ∈ [constructorMethod t.name (t.name ++ "Info"), createdMethod, tick,
      createMethod t.name] at hm
    simp only [List.mem_cons, List.not_mem_nil, or_false] at hm
    rcases hm with rfl | rfl | rfl | rfl
    · cases hline
    · rw [List.mem_singleton.mp hline] at hputs
      have hopens : Opens "//" "// Resolve trait references here." := by decide
      exact absurd hputs (not_putsInt (by decide) hopens)
    · rcases List.mem_append.mp hline with hline | hline
      · exact absurd hputs (not_putsInt_preamble options s line hline)
      · exact ⟨line, hline, hputs⟩
    · rw [List.mem_singleton.mp hline] at hputs
      have hopens : Opens "return new " ("return new " ++ t.name ++ "(init.Self, this);") :=
        (opens_append _ _).append _
      exact absurd hputs (not_putsInt (by decide) hopens)
  · rintro ⟨line, hline, hputs⟩
    have htick : tick ∈ (traitOf lookup options root t.name).logic.methods ++
        (traitOf lookup options root t.name).info.methods := by
      simp [traitOf, traitWith, tick, statements]
    exact ⟨tick, htick, line, List.mem_append_right _ hline, hputs⟩

/-- The initial value of a field that is an `int` is small, or it is the scan interval. -/
theorem initial_cases (lookup : Lookup) (options : HookOptions) (root : Node) :
    ∀ f ∈ (lowered lookup options root).2.fields, f.type = "int" → ∀ s, f.default? = some s →
      ∃ n : Nat, s = toString n ∧ (n ≤ 50 ∨ options.scanInterval = some n) := by
  let p (f : FieldDecl) : Prop := f.type = "int" → ∀ s, f.default? = some s →
    ∃ n : Nat, s = toString n ∧ (n ≤ 50 ∨ options.scanInterval = some n)
  have hgate : ∀ f ∈ [gateField], p f := by
    intro f hf htype
    rw [List.mem_singleton.mp hf] at htype
    exact absurd htype (by decide)
  refine lowered_fields_keep (fun fields => ∀ f ∈ fields, p f) ?_ lookup options root ?_
  · intro r hr fields hfields
    apply FieldRequest.forall_ensured hfields
    intro htype s hs
    cases hr with
    | flag subject => exact absurd htype (by decide : "bool" ≠ "int")
    | threshold name raw => exact ⟨50, (Option.some.inj hs).symm, .inl (by omega)⟩
    | ticks name => exact ⟨25, (Option.some.inj hs).symm, .inl (by omega)⟩
  · cases hinterval : options.scanInterval with
    | none =>
        rw [initialFields, hinterval]
        exact hgate
    | some interval =>
        let request : FieldRequest := ⟨"ScanInterval", "int", toString interval,
          "Ticks between evaluations of the behavior tree."⟩
        have hrequest : initialFields options = request.ensured [gateField] := by
          rw [initialFields, hinterval]
          rfl
        rw [hrequest]
        apply FieldRequest.forall_ensured hgate
        intro _ s hs
        exact ⟨interval, (Option.some.inj hs).symm, .inr hinterval⟩

/-- The scan interval is the initial value of a field. -/
theorem exists_interval_field (lookup : Lookup) (root : Node) {n : Nat}
    (hinterval : options.scanInterval = some n) :
    ∃ f ∈ (lowered lookup options root).2.fields,
      f.type = "int" ∧ f.default? = some (toString n) := by
  have hfield : ∃ f ∈ initialFields options, f.type = "int" ∧ f.default? = some (toString n) := by
    rw [initialFields, hinterval]
    exact ⟨_, List.mem_cons_of_mem _ List.mem_cons_self, rfl, rfl⟩
  obtain ⟨f, hf, hvalue⟩ := hfield
  exact ⟨f, (lowered_writes lookup options root).subset hf, hvalue⟩

/-- A number of an action that is carried out gets into the code. -/
theorem intLiteral_of_action (ht : synthesize lookup options root name = .ok t) {node : Node}
    {action s : String} (hnode : node ∈ root.live) (haction : node.task? = some action)
    (hs : s ∈ actionInts action) : t.IntLiteral s := by
  obtain ⟨m, hm, line, hline, hputs⟩ :=
    (putsInt_methods_iff ht s).mpr ⟨node, hnode, action, haction, hs⟩
  exact .operand hm hline hputs

/-- And so does the scan interval. -/
theorem intLiteral_interval (ht : synthesize lookup options root name = .ok t) {n : Nat}
    (hn : options.scanInterval = some n) : t.IntLiteral (toString n) := by
  obtain ⟨f, hf, htype, hvalue⟩ := exists_interval_field lookup root hn
  rw [← (synthesized_parts ht).2] at hf
  exact .initial hf htype hvalue

/-- **Where integer literals come from**: from the actions, from the scan interval, or they are
small. -/
theorem intLiteral_cases (ht : synthesize lookup options root name = .ok t) {s : String}
    (hs : t.IntLiteral s) :
    (∃ node ∈ root.live, ∃ action, node.task? = some action ∧ s ∈ actionInts action) ∨
      ∃ n : Nat, s = toString n ∧ (n ≤ 50 ∨ options.scanInterval = some n) := by
  cases hs with
  | operand hm hline hputs =>
      exact .inl ((putsInt_methods_iff ht s).mp ⟨_, hm, _, hline, hputs⟩)
  | initial hf htype hvalue =>
      rw [(synthesized_parts ht).2] at hf
      exact .inr (initial_cases lookup options root _ hf htype s hvalue)

/-! ## What is an `int` -/

/-- A number that an action brings is made of digits, with a sign or without. -/
theorem signed_of_mem_actionInts {raw s : String} (h : s ∈ actionInts raw) :
    Signed ['-', '+'] isDecimalDigit s := by
  unfold actionInts at h
  generalize Action.parse raw = action at h
  dsimp only at h
  cases hkind : action.kind with
  | wait =>
      rw [hkind] at h
      obtain ⟨-, hcount⟩ := Option.filter_eq_some_iff.mp (Option.mem_toList.mp h)
      exact (Action.isTickCount_signed hcount).mono (by simp)
        fun _ => Number.isDecimalDigit_of_isDigit
  | move =>
      rw [hkind] at h
      cases htarget : Action.target? action.rawArgs with
      | none =>
          rw [htarget] at h
          cases h
      | some cell =>
          rw [htarget] at h
          obtain ⟨hx, hy⟩ := Action.target?_signed htarget
          rcases List.mem_cons.mp h with rfl | h
          · exact hx.mono (by simp) fun _ hd => hd
          · rw [List.mem_singleton.mp h]
            exact hy.mono (by simp) fun _ hd => hd
  | attack =>
      rw [hkind] at h
      cases h
  | unmapped =>
      rw [hkind] at h
      cases h

/-- **When all integer literals are numbers of 32 bits.**  They are if and only if the scan interval
and the numbers of all actions that are carried out are.  In any case they are digits, perhaps of
other scripts, with a sign or without, and an interval has 32 bits if no sign is counted. -/
theorem int_literals_fit_iff {yaml : String} {config : Config}
    (hconfig : Config.parse yaml = .ok config)
    (ht : synthesize lookup config.hookOptions root name = .ok t) :
    ((∀ s, t.IntLiteral s → Number.isInt s = true) ↔
      (∀ n, config.hook.scanInterval = some n → n ≤ 2147483647) ∧
      ∀ node ∈ root.live, ∀ action ∈ node.task?, ∀ s ∈ actionInts action,
        Number.isInt s = true) ∧
    (∀ s, t.IntLiteral s → Signed ['-', '+'] isDecimalDigit s) ∧
    ∀ n, config.hook.scanInterval = some n → 1 ≤ n ∧ n ≤ 4294967295 := by
  refine ⟨⟨fun hall => ⟨fun n hn => ?_, fun node hnode action haction s hs => ?_⟩, ?_⟩, ?_,
    fun n hn => Config.interval_bounds hconfig hn⟩
  · exact (Number.isInt_toString n).mp (hall _ (intLiteral_interval ht hn))
  · exact hall s (intLiteral_of_action ht hnode haction hs)
  · rintro ⟨hinterval, hactions⟩ s hs
    rcases intLiteral_cases ht hs with ⟨node, hnode, action, haction, hs⟩ | ⟨n, rfl, hn⟩
    · exact hactions node hnode action haction s hs
    · apply (Number.isInt_toString n).mpr
      rcases hn with hn | hn
      · omega
      · exact hinterval n hn
  · intro s hs
    rcases intLiteral_cases ht hs with ⟨node, hnode, action, haction, hs⟩ | ⟨n, rfl, -⟩
    · exact signed_of_mem_actionInts hs
    · exact Number.signed_toString n

/-- A configuration with a scan interval. -/
def unhurried : String := "version: 1\ntrait:\n  scan_interval: 2147483647\n"

/-- A patrol between two cells. -/
def beat : Node :=
  { id := "root"
    children := [{ id := "there", action := some "Move(-2147483648, 7)" },
      { id := "pause", action := some "Wait(+25)" }, { id := "back", action := some "Move(0, 7)" }] }

theorem int_literals_fit_iff_beat :
    ∃ config t, Config.parse unhurried = .ok config ∧
      synthesize (fun _ => none) config.hookOptions beat "beat" = .ok t ∧
      ∀ s, t.IntLiteral s → Number.isInt s = true := by
  have hconfig : Config.parse unhurried = .ok { hook := { scanInterval := some 2147483647 } } := by
    decide +kernel
  obtain ⟨t, ht⟩ : ∃ t, synthesize (fun _ => none) { scanInterval := some 2147483647 } beat "beat" =
      .ok t := ⟨_, synthesize_of_className rfl⟩
  refine ⟨_, t, hconfig, ht, (int_literals_fit_iff hconfig ht).1.mpr ⟨?_, by decide +kernel⟩⟩
  intro n hn
  rw [← Option.some.inj hn]

/-- A tree that is one leaf. -/
def leaf (action : String) : Node := { id := "root", action := some action }

/-- Under the configuration, the action of a tree that is one leaf brings the text into a place
where an `int` is expected. -/
def BringsInt (yaml action s : String) : Prop :=
  ∃ config t, Config.parse yaml = .ok config ∧
    synthesize (fun _ => none) config.hookOptions (leaf action) "Guard" = .ok t ∧ t.IntLiteral s

section

variable {yaml action : String} {config : Config} (hconfig : Config.parse yaml = .ok config)

include hconfig

/-- An action brings its own numbers into the trait of its leaf. -/
theorem bringsInt_of_mem {s : String} (htask : (leaf action).task? = some action)
    (hs : s ∈ actionInts action) : BringsInt yaml action s := by
  obtain ⟨t, ht⟩ : ∃ t, synthesize (fun _ => none) config.hookOptions (leaf action) "Guard" =
      .ok t := ⟨_, synthesize_of_className rfl⟩
  exact ⟨config, t, hconfig, ht, intLiteral_of_action ht (leaf action).mem_live htask hs⟩

/-- A scan interval brings itself. -/
theorem bringsInt_interval {n : Nat} (hn : config.hookOptions.scanInterval = some n) :
    BringsInt yaml action (toString n) := by
  obtain ⟨t, ht⟩ : ∃ t, synthesize (fun _ => none) config.hookOptions (leaf action) "Guard" =
      .ok t := ⟨_, synthesize_of_className rfl⟩
  exact ⟨config, t, hconfig, ht, intLiteral_interval ht hn⟩

end

/-- **Literals that are no numbers of 32 bits**: ticks that need more, coordinates that need more or
are digits of another script, and a scan interval that leaves no room for a sign. -/
theorem oversized_literals :
    BringsInt "version: 1" "Wait(3000000000)" "3000000000" ∧
    BringsInt "version: 1" "Move(٣, 99999999999)" "٣" ∧
    BringsInt "version: 1" "Move(٣, 99999999999)" "99999999999" ∧
    BringsInt "version: 1\ntrait:\n  scan_interval: 4294967295" "Attack" "4294967295" ∧
    ∀ s ∈ ["3000000000", "٣", "99999999999", "4294967295"], Number.isInt s = false := by
  have hplain : Config.parse "version: 1" = .ok {} := by decide +kernel
  have hinterval : Config.parse "version: 1\ntrait:\n  scan_interval: 4294967295" =
      .ok { hook := { scanInterval := some 4294967295 } } := by
    decide +kernel
  have htext : "4294967295" = toString 4294967295 := by decide +kernel
  refine ⟨bringsInt_of_mem hplain (by decide +kernel) (by decide +kernel),
    bringsInt_of_mem hplain (by decide +kernel) (by decide +kernel),
    bringsInt_of_mem hplain (by decide +kernel) (by decide +kernel), ?_, by decide +kernel⟩
  rw [htext]
  exact bringsInt_interval hinterval rfl

end Hook

end BehaviorTraits
