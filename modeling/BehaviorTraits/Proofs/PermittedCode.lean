import BehaviorTraits.Proofs.CapabilityRecords
import BehaviorTraits.Proofs.InfoFields
import BehaviorTraits.Proofs.LoweredLines
import BehaviorTraits.Proofs.NumberTexts

/-!
# What may stand in an update hook

The texts of a tree are free, the code is not.  `PermittedTest` and `PermittedLine` list the
texts that lines may have: comments, braces, a handful of activities, and tests.  Only four things
in them vary: names of known traits, names of fields, printed numbers, and signs with digits.

Every line of the code of a tree is one of these, on one line (`lowered_lines_permitted`).
-/

namespace BehaviorTraits.Hook

open Text

/-- A field has the name. -/
def Declared (fields : List FieldDecl) (name : String) : Prop := ∃ f ∈ fields, f.name = name

/-- The expressions that may be tested, when there are the given traits and fields. -/
inductive PermittedTest (traitNames : List String) (fields : List FieldDecl) : String → Prop
  | carries {traitName : String} (hname : traitName ∈ traitNames) :
      PermittedTest traitNames fields ("self.TraitsImplementing<" ++ traitName ++
        ">().Any(t => !t.IsTraitDisabled && !t.IsTraitPaused)")
  | enemyInCell :
      PermittedTest traitNames fields ("self.World.ActorMap.GetActorsAt(self.Location)" ++
        ".Any(a => a.Owner.RelationshipWith(self.Owner) == PlayerRelationship.Enemy)")
  | flag {name : String} (hname : Declared fields name) :
      PermittedTest traitNames fields ("Info." ++ name)
  | fraction {operator literal text : String}
      (hoperator : operator ∈ ["<", ">", "<=", ">=", "==", "!="])
      (htext : Number.percentFraction? literal = some text)
      (hplain : text.toList.all Number.isNumeralChar = true) :
      PermittedTest traitNames fields ("self.Trait<Health>().HP " ++ operator ++
        " self.Trait<Health>().MaxHP * " ++ text)
  | threshold {operator name : String}
      (hoperator : operator ∈ ["<", ">", "<=", ">=", "==", "!="])
      (hname : Declared fields name) :
      PermittedTest traitNames fields ("self.Trait<Health>().HP " ++ operator ++
        " self.Trait<Health>().MaxHP * " ++ ("(Info." ++ name ++ " / 100f)"))

/-- The lines that may stand in an update hook. -/
inductive PermittedLine (traitNames : List String) (fields : List FieldDecl) : String → Prop
  | comment {text : String} (htext : Opens "//" text) : PermittedLine traitNames fields text
  | opening : PermittedLine traitNames fields "\x7b"
  | closing : PermittedLine traitNames fields "\x7d"
  | otherwise : PermittedLine traitNames fields "else"
  | hunt : PermittedLine traitNames fields "self.QueueActivity(new Hunt(self));"
  | stay : PermittedLine traitNames fields "self.QueueActivity(new Move(self, self.Location));"
  | move {x y : String} (hx : Signed ['-'] isDecimalDigit x) (hy : Signed ['-'] isDecimalDigit y) :
      PermittedLine traitNames fields
        ("self.QueueActivity(new Move(self, new CPos(" ++ x ++ ", " ++ y ++ ")));")
  | waitTicks {ticks : String} (hticks : Signed ['-', '+'] Char.isDigit ticks) :
      PermittedLine traitNames fields ("self.QueueActivity(new Wait(" ++ ticks ++ "));")
  | waitField {name : String} (hname : Declared fields name) :
      PermittedLine traitNames fields ("self.QueueActivity(new Wait(" ++ ("Info." ++ name) ++ "));")
  | test {expression : String} (htest : PermittedTest traitNames fields expression) :
      PermittedLine traitNames fields ("if (" ++ expression ++ ")")
  | negatedTest {expression : String} (htest : PermittedTest traitNames fields expression) :
      PermittedLine traitNames fields ("if (!(" ++ expression ++ "))")

variable {lookup : Lookup} {traitNames : List String} {fields before after : List FieldDecl}

/-- There are six operators. -/
theorem mem_operators (comparison : Comparison) :
    comparison.symbol ∈ ["<", ">", "<=", ">=", "==", "!="] := by
  cases comparison <;> decide

/-- A permitted expression makes a permitted line, negated or not. -/
theorem permitted_branch (negated : Bool) {test : Test}
    (htest : PermittedTest traitNames fields test.text) :
    PermittedLine traitNames fields (Code.branch negated test).text := by
  cases negated with
  | false => exact .test htest
  | true => exact .negatedTest htest

/-- **A line that is written is permitted**, then and when there are more fields. -/
theorem Written.permitted {code : Code} (h : Written lookup before code after)
    (hnames : ∀ subject record, lookup subject = some record → record.name ∈ traitNames)
    (hafter : after ⊆ fields) : PermittedLine traitNames fields code.text := by
  have hdeclared : ∀ r : FieldRequest, after = r.ensured before →
      Declared fields (r.name before) := by
    intro r hr
    obtain ⟨f, hf, hname⟩ := r.exists_ensured before
    exact ⟨f, hafter (hr ▸ hf), hname⟩
  cases h with
  | remark r => exact .comment (opens_remark r)
  | carries negated hrecord => exact permitted_branch negated (.carries (hnames _ _ hrecord))
  | enemyInCell negated => exact permitted_branch negated .enemyInCell
  | fraction negated comparison htext =>
      exact permitted_branch negated
        (.fraction (mem_operators comparison) htext (Number.percentFraction?_plain htext))
  | threshold negated comparison name raw =>
      exact permitted_branch negated (.threshold (mem_operators comparison) (hdeclared _ rfl))
  | flag negated subject => exact permitted_branch negated (.flag (hdeclared _ rfl))
  | count htext => exact .waitTicks (Action.isTickCount_signed htext)
  | ticks name => exact .waitField (hdeclared _ rfl)
  | hunt => exact .hunt
  | move htarget =>
      obtain ⟨hx, hy⟩ := Action.target?_signed htarget
      exact .move hx hy
  | stay => exact .stay

/-- **Code that is written piece by piece is permitted**, if the lookup gives listed names only. -/
theorem Writes.permitted {codes : List Code} (h : Writes lookup before codes after)
    (hnames : ∀ subject record, lookup subject = some record → record.name ∈ traitNames) :
    ∀ code ∈ codes, PermittedLine traitNames after code.text :=
  h.forall_code fun hcode hafter => hcode.permitted hnames hafter

/-- What only serves the nesting is permitted. -/
theorem permitted_frame {code : Code} (h : code.isFrame = true) :
    PermittedLine traitNames fields code.text := by
  cases code with
  | otherwise => exact .otherwise
  | opening => exact .opening
  | closing => exact .closing
  | remark r => cases h
  | queue activity => cases h
  | branch negated test => cases h

/-- **Text of a tree does not become code.**  Whatever the tree, the table and the options, every
line of the update hook is a permitted one, written on one line, and the names of fields in it
consist of ASCII letters and digits. -/
theorem lowered_lines_permitted (records : List Capability) (options : HookOptions) (root : Node) :
    let table := CapabilityTable.ofRecords records
    let fields := (lowered table.getFolded? options root).2.fields
    (∀ line ∈ statements (lowered table.getFolded? options root).1,
      ∃ text, PermittedLine table.names fields text ∧ line.text = singleLine text) ∧
    ∀ f ∈ fields, Word f.name := by
  intro table fields
  refine ⟨fun line hline => ?_, fun f hf => ?_⟩
  · obtain ⟨written, hwritten, rfl⟩ := List.mem_map.mp hline
    refine ⟨written.code.text, ?_, rfl⟩
    cases hframe : written.code.isFrame with
    | true => exact permitted_frame hframe
    | false =>
        have hmem : written.code ∈ carried (lowered table.getFolded? options root).1 := by
          refine List.mem_filter.mpr ⟨List.mem_map_of_mem hwritten, ?_⟩
          simp [hframe]
        exact (lowered_writes table.getFolded? options root).permitted
          (fun _ _ => CapabilityTable.getFolded?_name) _ hmem
  · exact ((lowered_fields_proper table.getFolded? options root).2 f hf).name

end BehaviorTraits.Hook
