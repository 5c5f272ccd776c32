import BehaviorTraits.Proofs.InfoFields
import BehaviorTraits.Proofs.LoweredLines
import BehaviorTraits.Proofs.NumberTexts
import Mathlib.Data.List.Basic

/-!
# Fields in code

The lines of an update hook refer to fields of the Info class in three ways: a test asks for a
flag, a health test computes with a threshold, and a wait takes its ticks from a field.
`fieldUse?` reads such a reference from the text of a line: what stands before and behind the name
is fixed for each form of line (`Form`), and the name between them is a word.

No line that lowering writes can be read in two ways, whatever names and free text the tree has put
into it: `Written.fieldUse?_text` says that reading finds just the field that the code names.
-/

namespace BehaviorTraits.Hook

open Text

/-- A field that code names, with the type that it must have there. -/
@[ext] structure FieldUse where
  name : String
  type : String
  deriving DecidableEq, Repr

/-! ## Reading a line -/

/-- The forms of the lines that refer to a field `F`. -/
inductive Form where
  /-- `self.QueueActivity(new Wait(Info.F));` -/
  | wait
  /-- `if (Info.F)`, or negated -/
  | flag (negated : Bool)
  /-- `if (self.Trait<Health>().HP < self.Trait<Health>().MaxHP * (Info.F / 100f))`, with any
  comparison, or negated -/
  | threshold (negated : Bool) (comparison : Comparison)
  deriving DecidableEq

namespace Form

def all : List Form :=
  wait :: [false, true].flatMap fun negated =>
    flag negated :: Comparison.all.map (threshold negated)

/-- How a test begins. -/
def ifOpening : Bool → String
  | false => "if ("
  | true => "if (!("

/-- How a test ends. -/
def ifClosing : Bool → String
  | false => ")"
  | true => "))"

/-- What stands before the operand that names the field. -/
def trunk : Form → String
  | wait => "self.QueueActivity(new Wait("
  | flag negated => ifOpening negated ++ "Info."
  | threshold negated comparison =>
    ifOpening negated ++ "self.Trait<Health>().HP " ++
      (comparison.symbol ++ " self.Trait<Health>().MaxHP * ")

/-- How the operand begins. -/
def operand : Form → String
  | wait => "Info."
  | flag _ => ""
  | threshold _ _ => "(Info."

/-- What stands before the name of the field. -/
def front (form : Form) : String := form.trunk ++ form.operand

/-- What stands behind the name of the field. -/
def back : Form → String
  | wait => "));"
  | flag negated => ifClosing negated
  | threshold negated _ => " / 100f)" ++ ifClosing negated

/-- The type that the field must have. -/
def type : Form → String
  | flag _ => "bool"
  | wait | threshold _ _ => "int"

/-- Reads the name of the field from a line of the form. -/
def read? (form : Form) (text : List Char) : Option FieldUse :=
  if form.front.toList <+: text then
    let rest := text.drop form.front.toList.length
    let name := rest.takeWhile Char.isAlphanum
    if name ≠ [] ∧ rest.dropWhile Char.isAlphanum = form.back.toList then
      some ⟨String.ofList name, form.type⟩
    else none
  else none

end Form

/-- The field that a line refers to. -/
def fieldUse? (text : String) : Option FieldUse := Form.all.findSome? (·.read? text.toList)

/-- The fields that lines refer to, in order. -/
def fieldUses (body : List Statement) : List FieldUse :=
  body.filterMap fun line => fieldUse? line.text

/-! ## Lines of different forms -/

/-- Nothing begins with both texts. -/
def Apart (a b : String) : Prop := ¬ a.toList <+: b.toList ∧ ¬ b.toList <+: a.toList

instance (a b : String) : Decidable (Apart a b) := inferInstanceAs (Decidable (_ ∧ _))

/-- A text that begins with one of them does not begin with the other. -/
theorem Apart.not_opens {a b text : String} (h : Apart a b) (hb : Opens b text) :
    ¬ Opens a text := by
  intro ha
  rcases List.prefix_or_prefix_of_prefix ha hb with hab | hba
  · exact h.1 hab
  · exact h.2 hba

theorem Opens.trans {a b c : String} (hab : Opens a b) (hbc : Opens b c) : Opens a c :=
  List.IsPrefix.trans hab hbc

/-- A text begins with each of its beginnings. -/
theorem opens_append (a b : String) : Opens a (a ++ b) :=
  Opens.append (List.prefix_refl _) b

/-- A common beginning does not matter. -/
theorem opens_append_left {a b c : String} : Opens (a ++ b) (a ++ c) ↔ Opens b c := by
  unfold Opens
  rw [String.toList_append, String.toList_append]
  exact List.prefix_append_right_inj _

/-- Texts that begin apart stay apart, whatever they go on with. -/
theorem Apart.mono {a b a' b' : String} (h : Apart a b) (ha : Opens a a') (hb : Opens b b') :
    Apart a' b' := by
  refine ⟨fun hopens => ?_, fun hopens => ?_⟩
  · exact h.not_opens hb (ha.trans hopens)
  · exact h.not_opens (hb.trans hopens) ha

/-- A common beginning does not bring texts together. -/
theorem Apart.append_left {a b : String} (h : Apart a b) (front : String) :
    Apart (front ++ a) (front ++ b) :=
  ⟨fun hopens => h.1 (opens_append_left.mp hopens), fun hopens => h.2 (opens_append_left.mp hopens)⟩

namespace Form

/-- The first characters of lines of a form, as many as tell it from other lines. -/
def stem : Form → String
  | wait => "self.QueueActivity(new W"
  | flag negated => ifOpening negated ++ "I"
  | threshold negated _ => ifOpening negated ++ "self.Trait<"

def stems : List String :=
  "self.QueueActivity(new W" :: [false, true].flatMap fun negated =>
    [ifOpening negated ++ "I", ifOpening negated ++ "self.Trait<"]

/-- The stem of a form is one of the listed ones. -/
theorem stem_mem (form : Form) : form.stem ∈ stems := by
  cases form with
  | wait => simp [stems, stem]
  | flag negated => cases negated <;> simp [stems, stem]
  | threshold negated comparison => cases negated <;> simp [stems, stem]

/-- A trunk begins with its stem. -/
theorem stem_opens (form : Form) : Opens form.stem form.trunk := by
  cases form with
  | wait => decide
  | flag negated => exact opens_append_left.mpr (by decide)
  | threshold negated comparison =>
      have h : Opens "self.Trait<" "self.Trait<Health>().HP " := by decide
      exact (opens_append_left.mpr h).append _

/-- Behind a comparison there is a blank, so none is read as another. -/
theorem symbols_apart {c d : Comparison} : c ≠ d → Apart (c.symbol ++ " ") (d.symbol ++ " ") := by
  cases c <;> cases d <;> decide

/-- All forms are listed. -/
theorem mem_all (form : Form) : form ∈ all := by
  cases form with
  | wait => decide
  | flag negated => cases negated <;> decide
  | threshold negated comparison => cases negated <;> cases comparison <;> decide

/-- No line begins with two stems. -/
theorem stems_apart : ∀ s ∈ stems, ∀ t ∈ stems, s ≠ t → Apart s t := by
  decide

/-- Only health tests of different comparisons have the same stem. -/
theorem stem_inj {f g : Form} (h : f.stem = g.stem) :
    f = g ∨ ∃ negated c d, f = threshold negated c ∧ g = threshold negated d := by
  rcases f with _ | ⟨_ | _⟩ | ⟨_ | _, c⟩ <;> rcases g with _ | ⟨_ | _⟩ | ⟨_ | _, d⟩
  all_goals simp_all [stem, ifOpening]

/-- Lines of different forms begin differently. -/
theorem trunk_apart {f g : Form} (h : f ≠ g) : Apart f.trunk g.trunk := by
  -- stems tell all forms apart but health tests, which differ only in the comparison
  by_cases hstem : f.stem = g.stem
  · rcases stem_inj hstem with heq | ⟨negated, c, d, rfl, rfl⟩
    · exact absurd heq h
    · have hne : c ≠ d := fun heq => h (by rw [heq])
      have hblank : ∀ symbol : String,
          Opens (symbol ++ " ") (symbol ++ " self.Trait<Health>().MaxHP * ") :=
        fun symbol => opens_append_left.mpr (by decide)
      exact ((symbols_apart hne).mono (hblank _) (hblank _)).append_left _
  · exact (stems_apart _ f.stem_mem _ g.stem_mem hstem).mono f.stem_opens g.stem_opens

/-- A line that begins with none of the stems is of no form. -/
theorem fieldUse?_of_apart {opening text : String} (hstems : ∀ s ∈ stems, Apart s opening)
    (htext : Opens opening text) : fieldUse? text = none := by
  refine List.findSome?_eq_none_iff.mpr fun form _ => if_neg fun hfront => ?_
  have hstem : Opens form.stem text := (form.stem_opens.trans (opens_append _ _)).trans hfront
  exact (hstems _ form.stem_mem).not_opens htext hstem

/-- A line that goes on differently behind the trunk of a form is of no form. -/
theorem fieldUse?_of_operand (form : Form) {rest : String} (hrest : ¬ Opens form.operand rest) :
    fieldUse? (form.trunk ++ rest) = none := by
  refine List.findSome?_eq_none_iff.mpr fun other _ => if_neg fun hfront => ?_
  by_cases hother : other = form
  · rw [hother] at hfront
    exact hrest (opens_append_left.mp hfront)
  · have htrunk : Opens other.trunk (form.trunk ++ rest) := (opens_append _ _).trans hfront
    exact (trunk_apart hother).not_opens (opens_append _ _) htrunk

/-- Behind the name of a field stands no letter or digit, so the name ends there. -/
theorem back_head (form : Form) : (form.back.toList.head?.map Char.isAlphanum) = some false := by
  cases form with
  | wait => decide
  | flag negated => cases negated <;> decide
  | threshold negated comparison => cases negated <;> simp [back, ifClosing]

/-- The name between front and back is read. -/
theorem read?_line (form : Form) {name : String} (hname : Word name) :
    form.read? (form.front ++ name ++ form.back).toList = some ⟨name, form.type⟩ := by
  obtain ⟨c, back, hback, hc⟩ : ∃ c back, form.back.toList = c :: back ∧ c.isAlphanum = false := by
    have hhead := form.back_head
    cases hback : form.back.toList with
    | nil => simp [hback] at hhead
    | cons c back => exact ⟨c, back, rfl, by simpa [hback] using hhead⟩
  have hne : name.toList ≠ [] := fun hnil => hname.1 (String.toList_eq_nil_iff.mp hnil)
  rw [read?, String.toList_append, String.toList_append, List.append_assoc,
    if_pos (List.prefix_append _ _), List.drop_left]
  dsimp only
  rw [List.takeWhile_append_of_pos hname.2, List.dropWhile_append_of_pos hname.2, hback,
    List.takeWhile_cons_of_neg (by simp [hc]), List.dropWhile_cons_of_neg (by simp [hc]),
    List.append_nil, if_pos ⟨hne, rfl⟩, String.ofList_toList]

/-- **A line of a form is read as one**, and as no other. -/
theorem fieldUse?_line (form : Form) {name : String} (hname : Word name) :
    fieldUse? (form.front ++ name ++ form.back) = some ⟨name, form.type⟩ := by
  have hopens : Opens form.front (form.front ++ name ++ form.back) :=
    (opens_append _ _).append _
  have hother : ∀ other : Form, other ≠ form →
      other.read? (form.front ++ name ++ form.back).toList = none := by
    intro other hne
    refine if_neg fun hfront => ?_
    exact (trunk_apart hne).not_opens ((opens_append _ _).trans hopens)
      ((opens_append _ _).trans hfront)
  have hfind : ∀ forms : List Form, form ∈ forms →
      forms.findSome? (·.read? (form.front ++ name ++ form.back).toList) =
        some ⟨name, form.type⟩ := by
    intro forms
    induction forms with
    | nil => intro hmem; cases hmem
    | cons other forms ih =>
        intro hmem
        by_cases hform : other = form
        · rw [List.findSome?_cons, hform, read?_line form hname]
        · rw [List.findSome?_cons, hother other hform]
          exact ih (List.mem_of_ne_of_mem (Ne.symm hform) hmem)
  exact hfind all form.mem_all

end Form

/-! ## Reading written code -/

/-- The field that code names. -/
def Code.use? : Code → Option FieldUse
  | queue (.wait (.field name)) => some ⟨name, "int"⟩
  | branch _ (.health _ (.field name)) => some ⟨name, "int"⟩
  | branch _ (.flag name) => some ⟨name, "bool"⟩
  | _ => none

/-- Putting a text on one line keeps a beginning without line breaks. -/
theorem Opens.singleLine {opening text : String} (hopening : Unbroken opening.toList)
    (h : Opens opening text) : Opens opening (singleLine text) := by
  obtain ⟨rest, hrest⟩ := h
  unfold Opens
  rw [toList_singleLine, ← hrest, singleLineChars_append hopening]
  exact List.prefix_append _ _

/-- A text without line breaks is on one line as it is. -/
theorem singleLine_of_unbroken {s : String} (h : Unbroken s.toList) : singleLine s = s := by
  rw [singleLine, singleLineChars_of_unbroken h, String.ofList_toList]

namespace Form

/-- What stands before a name has no line break. -/
theorem unbroken_front (form : Form) : Unbroken form.front.toList := by
  have hopening : ∀ negated, Unbroken (ifOpening negated).toList := by
    intro negated
    cases negated <;> decide
  have hsymbol : ∀ comparison : Comparison, Unbroken comparison.symbol.toList := by
    intro comparison
    cases comparison <;> decide
  cases form with
  | wait => decide
  | flag negated =>
      simp only [front, trunk, operand, String.toList_append, unbroken_append]
      exact ⟨⟨hopening negated, by decide⟩, by decide⟩
  | threshold negated comparison =>
      simp only [front, trunk, operand, String.toList_append, unbroken_append]
      exact ⟨⟨⟨hopening negated, by decide⟩, hsymbol comparison, by decide⟩, by decide⟩

theorem unbroken_back (form : Form) : Unbroken form.back.toList := by
  cases form with
  | wait => decide
  | flag negated => cases negated <;> decide
  | threshold negated comparison =>
      rw [back, String.toList_append, unbroken_append]
      exact ⟨by decide, by cases negated <;> decide⟩

/-- A line of a form is read as it is written. -/
theorem fieldUse?_of_eq (form : Form) {name text : String} (hname : Word name)
    (htext : text = form.front ++ name ++ form.back) :
    fieldUse? (singleLine text) = some ⟨name, form.type⟩ := by
  have hunbroken : Unbroken text.toList := by
    rw [htext, String.toList_append, String.toList_append, unbroken_append, unbroken_append]
    exact ⟨⟨form.unbroken_front, hname.unbroken⟩, form.unbroken_back⟩
  rw [singleLine_of_unbroken hunbroken, htext, fieldUse?_line form hname]

/-- A line that begins with none of the stems is of no form, whatever it goes on with. -/
theorem fieldUse?_of_opens {opening text : String} (hunbroken : Unbroken opening.toList)
    (hstems : ∀ s ∈ stems, Apart s opening) (htext : Opens opening text) :
    fieldUse? (singleLine text) = none :=
  fieldUse?_of_apart hstems (htext.singleLine hunbroken)

/-- A line whose operand begins differently is of no form. -/
theorem fieldUse?_of_head (form : Form) {rest : String} {c d : Char} {cs : List Char}
    (hrest : rest.toList = c :: cs) (hc : c ≠ '\r' ∧ c ≠ '\n')
    (hoperand : form.operand.toList.head? = some d) (hne : d ≠ c) :
    fieldUse? (singleLine (form.trunk ++ rest)) = none := by
  have htrunk : Unbroken form.trunk.toList := by
    have hfront := form.unbroken_front
    rw [front, String.toList_append, unbroken_append] at hfront
    exact hfront.1
  have htext : singleLine (form.trunk ++ rest) = form.trunk ++ singleLine rest := by
    rw [← String.toList_inj, toList_singleLine, String.toList_append, singleLineChars_append htrunk,
      String.toList_append, toList_singleLine]
  rw [htext]
  -- the first character of the rest is no line break, so it is still the first of the line's rest
  refine fieldUse?_of_operand form fun hopens => ?_
  obtain ⟨operand, hd⟩ := List.head?_eq_some_iff.mp hoperand
  unfold Opens at hopens
  rw [hd, toList_singleLine, hrest, singleLineChars_cons hc.1 hc.2] at hopens
  exact hne (List.cons_prefix_cons.mp hopens).1

end Form

/-- A test stands in the parentheses of its `if`. -/
theorem text_branch (negated : Bool) (test : Test) :
    (Code.branch negated test).text =
      Form.ifOpening negated ++ test.text ++ Form.ifClosing negated := by
  cases negated <;> rfl

/-- A health test compares hit points with a share of their maximum. -/
theorem text_health (comparison : Comparison) (threshold : Threshold) :
    (Test.health comparison threshold).text = "self.Trait<Health>().HP " ++ comparison.symbol ++
      " self.Trait<Health>().MaxHP * " ++ threshold.text := rfl

/-! Code that names a field. -/

/-- A wait for the ticks of a field refers to it as a number. -/
theorem fieldUse?_ticks {name : String} (hname : Word name) :
    fieldUse? (singleLine (Code.queue (.wait (.field name))).text) = some ⟨name, "int"⟩ := by
  refine Form.wait.fieldUse?_of_eq hname ?_
  change "self.QueueActivity(new Wait(" ++ ("Info." ++ name) ++ "));" =
    "self.QueueActivity(new Wait(" ++ "Info." ++ name ++ "));"
  rw [← String.append_assoc]

/-- A flag refers to its field as a truth value. -/
theorem fieldUse?_flag (negated : Bool) {name : String} (hname : Word name) :
    fieldUse? (singleLine (Code.branch negated (.flag name)).text) = some ⟨name, "bool"⟩ := by
  refine (Form.flag negated).fieldUse?_of_eq hname ?_
  rw [text_branch]
  change Form.ifOpening negated ++ ("Info." ++ name) ++ Form.ifClosing negated =
    Form.ifOpening negated ++ "Info." ++ "" ++ name ++ Form.ifClosing negated
  rw [String.append_empty, ← String.append_assoc]

/-- A health test with a field refers to it as a number. -/
theorem fieldUse?_threshold (negated : Bool) (comparison : Comparison) {name : String}
    (hname : Word name) :
    fieldUse? (singleLine (Code.branch negated (.health comparison (.field name))).text) =
      some ⟨name, "int"⟩ := by
  refine (Form.threshold negated comparison).fieldUse?_of_eq hname ?_
  have hfield : (Threshold.field name).text = "(Info." ++ name ++ " / 100f)" := rfl
  rw [text_branch, text_health, hfield]
  simp only [Form.front, Form.trunk, Form.operand, Form.back, String.append_assoc]

/-! Code that names none. -/

/-- A test that begins differently from those with a field. -/
theorem fieldUse?_test (negated : Bool) {opening : String} {test : Test}
    (hunbroken : Unbroken opening.toList)
    (hstems : ∀ s ∈ Form.stems, Apart s (Form.ifOpening negated ++ opening))
    (hopens : Opens opening test.text) :
    fieldUse? (singleLine (Code.branch negated test).text) = none := by
  have hif : Unbroken (Form.ifOpening negated).toList := by cases negated <;> decide
  refine Form.fieldUse?_of_opens ?_ hstems ?_
  · rw [String.toList_append, unbroken_append]
    exact ⟨hif, hunbroken⟩
  · rw [text_branch, String.append_assoc]
    exact opens_append_left.mpr (hopens.append _)

/-- A test for a trait refers to no field, whatever the name of the trait. -/
theorem fieldUse?_carries (negated : Bool) (traitName : String) :
    fieldUse? (singleLine (Code.branch negated (.carries traitName)).text) = none := by
  have h : Opens "self.Traits" "self.TraitsImplementing<" := by decide
  refine fieldUse?_test negated (by decide) ?_ ((h.append _).append _)
  cases negated <;> decide

/-- Looking around refers to no field. -/
theorem fieldUse?_enemyInCell (negated : Bool) :
    fieldUse? (singleLine (Code.branch negated .enemyInCell).text) = none := by
  have h : Opens "self.W" "self.World.ActorMap.GetActorsAt(self.Location)" := by decide
  refine fieldUse?_test negated (by decide) ?_ (h.append _)
  cases negated <;> decide

/-- A health test with a number refers to no field. -/
theorem fieldUse?_fraction (negated : Bool) (comparison : Comparison) {text : String}
    (htext : text.toList.all Number.isNumeralChar = true) :
    fieldUse? (singleLine (Code.branch negated (.health comparison (.fraction text))).text) =
      none := by
  have hline : (Code.branch negated (.health comparison (.fraction text))).text =
      (Form.threshold negated comparison).trunk ++ (text ++ Form.ifClosing negated) := by
    have hfraction : (Threshold.fraction text).text = text := rfl
    rw [text_branch, text_health, hfraction]
    simp only [Form.trunk, String.append_assoc]
  have hoperand : (Form.threshold negated comparison).operand.toList.head? = some '(' := by
    change "(Info.".toList.head? = some '('
    decide
  rw [hline]
  cases hchars : text.toList with
  | nil =>
      obtain ⟨cs, hcs⟩ : ∃ cs, (text ++ Form.ifClosing negated).toList = ')' :: cs := by
        rw [String.toList_append, hchars]
        cases negated <;> exact ⟨_, rfl⟩
      exact Form.fieldUse?_of_head _ hcs (by decide) hoperand (by decide)
  | cons c cs =>
      have hc : Number.isNumeralChar c = true := by
        rw [hchars, List.all_cons, Bool.and_eq_true] at htext
        exact htext.1
      have hrest : (text ++ Form.ifClosing negated).toList =
          c :: (cs ++ (Form.ifClosing negated).toList) := by
        rw [String.toList_append, hchars, List.cons_append]
      refine Form.fieldUse?_of_head _ hrest ⟨?_, ?_⟩ hoperand ?_ <;> rintro rfl
      all_goals exact absurd hc (by decide)

/-- A wait for a number of ticks refers to no field. -/
theorem fieldUse?_count {ticks : String} (hticks : Signed ['-', '+'] Char.isDigit ticks) :
    fieldUse? (singleLine (Code.queue (.wait (.count ticks))).text) = none := by
  have hline : (Code.queue (.wait (.count ticks))).text = Form.wait.trunk ++ (ticks ++ "));") := by
    change "self.QueueActivity(new Wait(" ++ ticks ++ "));" = _
    rw [String.append_assoc]
    rfl
  have hoperand : Form.wait.operand.toList.head? = some 'I' := by decide
  obtain ⟨c, cs, hchars, hc⟩ : ∃ c cs, ticks.toList = c :: cs ∧
      (c.isDigit = true ∨ c ∈ ['-', '+']) := by
    obtain ⟨digits, hne, hdigits, hticks | ⟨sign, hsign, hticks⟩⟩ := hticks
    · obtain ⟨d, ds, rfl⟩ := List.exists_cons_of_ne_nil hne
      exact ⟨d, ds, hticks, .inl (hdigits d List.mem_cons_self)⟩
    · exact ⟨sign, digits, hticks, .inr hsign⟩
  have hrest : (ticks ++ "));").toList = c :: (cs ++ "));".toList) := by
    rw [String.toList_append, hchars, List.cons_append]
  rw [hline]
  refine Form.fieldUse?_of_head _ hrest ⟨?_, ?_⟩ hoperand ?_ <;> rintro rfl
  all_goals exact absurd hc (by decide)

theorem fieldUse?_hunt : fieldUse? (singleLine (Code.queue .hunt).text) = none := by
  have h : Opens "self.QueueActivity(new H" "self.QueueActivity(new Hunt(self));" := by decide
  exact Form.fieldUse?_of_opens (by decide) (by decide) h

/-- A move refers to no field, whatever its coordinates. -/
theorem fieldUse?_move (x y : String) :
    fieldUse? (singleLine (Code.queue (.move x y)).text) = none := by
  have h : Opens "self.QueueActivity(new M" "self.QueueActivity(new Move(self, new CPos(" := by
    decide
  exact Form.fieldUse?_of_opens (by decide) (by decide)
    ((((h.append _).append _).append _).append _)

theorem fieldUse?_stay : fieldUse? (singleLine (Code.queue .stay).text) = none := by
  have h : Opens "self.QueueActivity(new M"
      "self.QueueActivity(new Move(self, self.Location));" := by
    decide
  exact Form.fieldUse?_of_opens (by decide) (by decide) h

/-- **Reading written code.**  The text of a line refers to the field that the code names. -/
theorem Written.fieldUse?_text {lookup : Lookup} {before after : List FieldDecl} {code : Code}
    (h : Written lookup before code after) : fieldUse? (singleLine code.text) = code.use? := by
  cases h with
  | remark r => exact Form.fieldUse?_of_opens (by decide) (by decide) (opens_remark r)
  | carries negated hrecord => exact fieldUse?_carries negated _
  | enemyInCell negated => exact fieldUse?_enemyInCell negated
  | fraction negated comparison htext =>
      exact fieldUse?_fraction negated comparison (Number.percentFraction?_plain htext)
  | threshold negated comparison name raw =>
      exact fieldUse?_threshold negated comparison (FieldRequest.word_name _ _)
  | flag negated subject => exact fieldUse?_flag negated (FieldRequest.word_name _ _)
  | count htext => exact fieldUse?_count (Action.isTickCount_signed htext)
  | ticks name => exact fieldUse?_ticks (FieldRequest.word_name _ _)
  | hunt => exact fieldUse?_hunt
  | move htarget => exact fieldUse?_move _ _
  | stay => exact fieldUse?_stay

end BehaviorTraits.Hook
