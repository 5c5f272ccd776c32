import BehaviorTraits.Proofs.SourceReading
import BehaviorTraits.Proofs.StreamDepth

/-!
# Margins of method bodies

A file may be put together from any names, types and texts, empty ones and broken ones among them.
Whatever they are, they do not move a method: the depth at which a stream goes on is the sum of its
changes of the indentation (`Stream.depth`), and this sum is zero for every field, method and class.

So a file with one method left open is a `Slot`.  Below the method the stream waits for a row two
levels in; above it the stream goes on with a break and a text.  Neither depends on the method.
`Slot.print_fill` gives the text of the file with the method put in, and `bodies_indented_by_depth`
says what lines this text has, one for each statement of the body.
-/

namespace BehaviorTraits

namespace CSharp

open Layout Text

/-! ## Depths of the parts -/

/-- A shift moves the depth from the old level to the new one. -/
theorem depth_shift (old new : Nat) : Stream.depth (shift old new) = (new : Int) - old := by
  rw [shift, Stream.depth_above, Stream.depth_replicate, Stream.depth_replicate, Token.levels,
    Token.levels]
  omega

/-- **A body comes back to where it began**, whatever its depths. -/
theorem depth_bodyTokens (depth : Nat) (body : List Statement) :
    Stream.depth (bodyTokens depth body) = -(depth : Int) := by
  induction body generalizing depth with
  | nil =>
      rw [bodyTokens, depth_shift]
      omega
  | cons line body ih =>
      rw [bodyTokens, Stream.depth_above, depth_shift, Stream.depth, Stream.depth, ih, Token.levels,
        Token.levels]
      omega

/-- A field leaves the depth as it was. -/
theorem depth_fieldStream (f : FieldDecl) : (fieldStream f).depth = 0 := by
  rw [fieldStream]
  split <;> simp

theorem depth_chainedCallStream (m : MethodDecl) : (chainedCallStream m).depth = 0 := by
  rw [chainedCallStream]
  split <;> simp

/-- A method leaves the depth as it was, whatever the depths in its body. -/
theorem depth_methodStream (m : MethodDecl) : (methodStream m).depth = 0 := by
  simp [methodStream, bodyStream, depth_chainedCallStream, depth_bodyTokens]

/-- The fields of a class lead no further in. -/
theorem depth_appendJoined_fields (s : Stream) (fields : List FieldDecl) :
    (s.appendJoined .newLine (fields.map fieldStream)).depth = s.depth :=
  Stream.depth_appendJoined rfl (List.forall_mem_map.mpr fun f _ => depth_fieldStream f) s

/-- A class leaves the depth as it was. -/
theorem depth_classStream (c : ClassDecl) : (classStream c).depth = 0 := by
  have hmethods : ∀ s ∈ c.methods.map methodStream, s.depth = 0 :=
    List.forall_mem_map.mpr fun m _ => depth_methodStream m
  rw [classStream, Stream.depth_addAll, Stream.depth_appendJoined rfl hmethods, Stream.depth_add]
  split <;> simp [depth_appendJoined_fields]

/-- A field ends its line. -/
theorem ended_fieldStream (f : FieldDecl) : (fieldStream f).Ended := by
  rw [fieldStream_eq]
  split
  · exact ⟨";", _, by decide, rfl⟩
  · exact ⟨";", _, by decide, rfl⟩

/-- A method ends its line. -/
theorem ended_methodStream (m : MethodDecl) : (methodStream m).Ended :=
  ⟨"\x7d", _, by decide, rfl⟩

/-! ## A file with one method left open -/

/-- A stream with one method left open, at the depth.  Below the method, the stream waits for a row;
above it, the stream goes on with a break and a text. -/
structure Slot (depth : Int) where
  below : Stream
  /-- The break behind the method. -/
  gap : Token
  /-- The text behind the break: the next signature, or the end of the class. -/
  text : String
  /-- Adds all that follows the text. -/
  above : Stream → Stream
  waits : Waits below
  depth_below : below.depth = depth
  breaks : gap = .emptyLine ∨ gap = .indent (-1)
  text_ne : text ≠ ""
  adds : Stream.Adds above

namespace Slot

variable {depth : Int}

/-- The stream with a method in its place. -/
def fill (slot : Slot depth) (m : MethodDecl) : Stream :=
  slot.above (.literal slot.text :: (slot.below.append (methodStream m)).add slot.gap)

/-- The slot in a larger stream. -/
def within (slot : Slot depth) {f : Stream → Stream} (hf : Stream.Adds f) : Slot depth :=
  { slot with above := fun s => f (slot.above s), adds := hf.comp slot.adds }

/-- A break behind a row leads to the next row, in the same way behind every row. -/
theorem exists_break (slot : Slot depth) :
    ∃ next blank, ∀ (s : Stream) (rows : List Row), Lays s rows depth →
      Awaits (s.add slot.gap) rows depth next blank := by
  rcases slot.breaks with hgap | hgap
  · rw [hgap]
    exact ⟨_, _, fun s rows h => h.add_emptyLine⟩
  · rw [hgap]
    exact ⟨_, _, fun s rows h => h.add_indent (-1) (by decide)⟩

/-- The text of the row that follows a break, and of what follows this row. -/
theorem printChars_break {text : String} (htext : text ≠ "") (blank : Bool) (next : Int)
    (rest : List Token) :
    printChars ⟨if blank then .emptyLine else .newLine, 0, next⟩ (.literal text :: rest) =
      '\n' :: (Row.chars ⟨blank, next, text.toList⟩ ++ printChars ⟨.none, 0, next⟩ rest) := by
  rw [printChars, if_neg htext]
  cases blank <;> simp [Cursor.before, Row.chars, margin]

/-- **The text with a method in its place.**  It consists of the rows of the method, between a text
before them and one behind them that are the same for all methods. -/
theorem print_fill (slot : Slot depth) :
    ∃ (row : Row) (blank : Bool) (rest : List Char), ∀ m : MethodDecl,
      (∀ line ∈ m.body, line.text ≠ "") →
        (slot.fill m).print.toList = rowsChars (row :: methodRows depth blank m) ++ rest := by
  obtain ⟨row, last, blank, hbelow⟩ := slot.waits
  rw [slot.depth_below] at hbelow
  obtain ⟨next, blank', hbreak⟩ := slot.exists_break
  let rest := (slot.above []).reverse
  refine ⟨row, blank, Row.chars ⟨blank', next, slot.text.toList⟩ ++
    printChars ⟨.none, 0, next⟩ rest ++ ['\n'], fun m hbody => ?_⟩
  have hfill : slot.fill m =
      slot.above [] ++ .literal slot.text :: (slot.below.append (methodStream m)).add slot.gap :=
    slot.adds [] _ _
  obtain ⟨printed, hrows, hprint⟩ := (hbreak _ _ (awaits_method hbody hbelow)).prints
  have hnext := hprint (.literal slot.text :: rest)
  rw [printChars_break slot.text_ne] at hnext
  rw [Stream.print, String.toList_ofList, hfill, List.reverse_append, List.reverse_cons,
    List.append_assoc, List.singleton_append, hnext]
  rw [List.singleton_append] at hrows
  rw [hrows]
  simp only [List.append_assoc, List.cons_append, List.nil_append]

end Slot

/-! ## Slots in classes and files -/

/-- What a method adds behind its signature. -/
def addBehindSignature (m : MethodDecl) (s : Stream) : Stream :=
  (((((s.add .newLine).append (chainedCallStream m)).addAll
    [.newLine, .literal "\x7b", .indent 1]).append (bodyStream m.body)).addAll
      [.indent (-1), .literal "\x7d"])

/-- What follows a signature is only added to the stream. -/
theorem adds_behindSignature (m : MethodDecl) : Stream.Adds (addBehindSignature m) :=
  (Stream.adds_addAll _).comp ((Stream.adds_append _).comp ((Stream.adds_addAll _).comp
    ((Stream.adds_append _).comp (Stream.adds_add .newLine))))

/-- A class up to the place of its first method. -/
def addFront (s : Stream) (c : ClassDecl) : Stream :=
  (if c.fields = [] then addFields s c else (addFields s c).add .emptyLine).add .newLine

/-- The front of a class stands one level in. -/
theorem depth_addFront (s : Stream) (c : ClassDecl) : (addFront s c).depth = s.depth + 1 := by
  have hadd : (addFields s c).depth = s.depth + 1 := by
    simp [addFields, depth_appendJoined_fields, classHeadTokens]
  rw [addFront]
  split <;> simp [hadd]

/-- Behind the front of a class a new line is due. -/
theorem waits_addFront (s : Stream) (c : ClassDecl) : Waits (addFront s c) := by
  rw [addFront]
  refine Waits.add_newLine ?_
  by_cases hnone : c.fields = []
  · have hbrace : (s.addAll (classHeadTokens c ++ [.newLine, .literal "\x7b"])).Ended := by
      rw [Stream.addAll_append]
      exact ⟨"\x7b", _, by decide, rfl⟩
    rw [if_pos hnone, addFields, hnone]
    exact (waits_indent hbrace (by decide : (1 : Int) ≠ 0)).add_newLine
  · have hfields := Stream.ended_appendJoined (by simpa using hnone)
      (List.forall_mem_map.mpr fun f _ => ended_fieldStream f)
      (s.addAll (classHeadTokens c ++ [.newLine, .literal "\x7b", .indent 1])) .newLine
    rw [if_neg hnone, addFields, hfields.add_emptyLine]
    exact waits_emptyLine hfields

/-- **A class has a slot** in the place of each of its methods, one level further in. -/
theorem exists_slot_class (s : Stream) (c : ClassDecl) (before after : List MethodDecl)
    {depth : Int} (hdepth : s.depth + 1 = depth) :
    ∃ slot : Slot depth, ∀ m : MethodDecl,
      s.append (classStream { c with methods := before ++ m :: after }) = slot.fill m := by
  let below := (addFront s c).joinedBefore .emptyLine (before.map methodStream)
  have hbelow : Waits below := (waits_addFront s c).joinedBefore
    (List.forall_mem_map.mpr fun m _ => ended_methodStream m)
  have hlevel : below.depth = depth := by
    rw [Stream.depth_joinedBefore rfl (List.forall_mem_map.mpr fun m _ => depth_methodStream m),
      depth_addFront, hdepth]
  have hclass : ∀ m : MethodDecl,
      s.append (classStream { c with methods := before ++ m :: after }) =
        ((below.append (methodStream m)).joinedAfter .emptyLine (after.map methodStream)).addAll
          [.indent (-1), .literal "\x7d"] := by
    intro m
    rw [append_classStream s (by simp), addMethods, List.map_append, List.map_cons,
      Stream.appendJoined_around]
    rfl
  cases after with
  | nil =>
      exact ⟨⟨below, .indent (-1), "\x7d", id, hbelow, hlevel, .inr rfl, by decide,
        fun _ _ _ => rfl⟩, hclass⟩
  | cons next after =>
      have hadds := (Stream.adds_addAll [.indent (-1), .literal "\x7d"]).comp
        ((Stream.adds_joinedAfter .emptyLine (after.map methodStream)).comp
          (adds_behindSignature next))
      refine ⟨⟨below, .emptyLine, signature next, _, hbelow, hlevel, .inl rfl,
        signature_ne_empty next, hadds⟩, fun m => ?_⟩
      have hnext := append_methodStream ((below.append (methodStream m)).add .emptyLine) next
      have hjoined := Stream.appendJoined_around ((below.append (methodStream m)).add .emptyLine)
        .emptyLine [] (methodStream next) (after.map methodStream)
      rw [List.nil_append] at hjoined
      rw [hclass, List.map_cons, Stream.joinedAfter, hjoined, Stream.joinedBefore,
        List.foldl_nil, hnext]
      rfl

/-- A file up to the place of its first class. -/
def frontStream (logic : ClassDecl) (provenance : Option Provenance) : Stream :=
  (((headerStream provenance).add .newLine).appendJoined .newLine
    ((usedNamespaces logic).map usingStream)).addAll
      [.newLine, .emptyLine, .newLine, .literal "namespace", .space,
        .literal logic.namespaceName, .newLine, .literal "\x7b", .indent 1]

/-- The front of a file leads into its namespace, one level in. -/
theorem depth_frontStream (logic : ClassDecl) (provenance : Option Provenance) :
    (frontStream logic provenance).depth = 1 := by
  have hheader : (headerStream provenance).depth = 0 := by
    cases provenance with
    | none => rfl
    | some p =>
        have hlines : ∀ s ∈ p.header.map fun line => [Token.literal line], Stream.depth s = 0 :=
          List.forall_mem_map.mpr fun line _ => rfl
        rw [headerStream, Stream.depth_addAll, Stream.depth_appendJoined rfl hlines]
        rfl
  have husings : ∀ s ∈ (usedNamespaces logic).map usingStream, s.depth = 0 :=
    List.forall_mem_map.mpr fun name _ => rfl
  rw [frontStream, Stream.depth_addAll, Stream.depth_appendJoined rfl husings, Stream.depth_add,
    hheader]
  rfl

/-- **A file has a slot** in the place of each method of each of its classes. -/
theorem exists_slot_classes {front : Stream} (hfront : front.depth = 1)
    (first : List ClassDecl) (c : ClassDecl) (before after : List MethodDecl)
    (others : List ClassDecl) :
    ∃ slot : Slot 2, ∀ m : MethodDecl,
      (front.appendJoined .emptyLine
        ((first ++ { c with methods := before ++ m :: after } :: others).map classStream)).addAll
          [.indent (-1), .literal "\x7d"] = slot.fill m := by
  let below := front.joinedBefore .emptyLine (first.map classStream)
  have hbelow : below.depth + 1 = 2 := by
    rw [Stream.depth_joinedBefore rfl (List.forall_mem_map.mpr fun c _ => depth_classStream c),
      hfront]
    rfl
  obtain ⟨slot, hslot⟩ := exists_slot_class below c before after hbelow
  have hadds := (Stream.adds_addAll [.indent (-1), .literal "\x7d"]).comp
    (Stream.adds_joinedAfter .emptyLine (others.map classStream))
  refine ⟨slot.within hadds, fun m => ?_⟩
  rw [List.map_append, List.map_cons, Stream.appendJoined_around, hslot]
  rfl

end CSharp

/-! ## Bodies of methods -/

/-- Where a method of a file stands: in the class itself or in its companion, by number. -/
inductive MethodPlace where
  | own (i : Nat)
  | companion (i : Nat)

namespace ClassDecl

/-- The class with another body in one of its methods. -/
def setBody (c : ClassDecl) (i : Nat) (body : List Statement) : ClassDecl :=
  { c with methods := c.methods.modify i fun m => { m with body } }

/-- The method in a place. -/
def methodAt? (logic : ClassDecl) : MethodPlace → Option MethodDecl
  | .own i => logic.methods[i]?
  | .companion i => logic.companion.bind (·.methods[i]?)

/-- The classes with another body for the method in a place. -/
def withBody (logic : ClassDecl) (body : List Statement) : MethodPlace → ClassDecl
  | .own i => logic.setBody i body
  | .companion i => { logic with companion := logic.companion.map (·.setBody i body) }

/-- Setting a body takes one method out of the row and puts the changed one in its place. -/
theorem setBody_eq {c : ClassDecl} {i : Nat} {m : MethodDecl} (hm : c.methods[i]? = some m)
    (body : List Statement) :
    c.setBody i body =
      { c with methods := c.methods.take i ++ { m with body } :: c.methods.drop (i + 1) } := by
  obtain ⟨hi, rfl⟩ := List.getElem?_eq_some_iff.mp hm
  rw [setBody, List.modify_eq_take_cons_drop hi]

/-- Setting the body that is there changes nothing. -/
theorem setBody_self {c : ClassDecl} {i : Nat} {m : MethodDecl} (hm : c.methods[i]? = some m) :
    c.setBody i m.body = c := by
  obtain ⟨hi, rfl⟩ := List.getElem?_eq_some_iff.mp hm
  have hmethods : c.methods.take i ++ c.methods[i] :: c.methods.drop (i + 1) = c.methods := by
    rw [← List.drop_eq_getElem_cons hi, List.take_append_drop]
  rw [setBody_eq hm]
  cases c
  exact congrArg (ClassDecl.mk _ _ _ _ _ _ · _ _) hmethods

/-- A file in which a method gets the body it has is the same file. -/
theorem withBody_self {logic : ClassDecl} {place : MethodPlace} {m : MethodDecl}
    (hm : logic.methodAt? place = some m) : logic.withBody m.body place = logic := by
  cases place with
  | own i => exact setBody_self hm
  | companion i =>
      obtain ⟨info, hinfo, hm⟩ := Option.bind_eq_some_iff.mp hm
      rw [withBody, hinfo, Option.map_some, setBody_self hm, ← hinfo]
      cases logic
      rfl

end ClassDecl

namespace CSharp

open Layout Text

/-- The namespaces that a file uses do not depend on any body. -/
theorem usedNamespaces_withBody (logic : ClassDecl) (body : List Statement) (place : MethodPlace) :
    usedNamespaces (logic.withBody body place) = usedNamespaces logic := by
  cases place with
  | own i => simp [usedNamespaces, classesOf, ClassDecl.withBody, ClassDecl.setBody]
  | companion i =>
      cases hinfo : logic.companion <;>
        simp [usedNamespaces, classesOf, ClassDecl.withBody, ClassDecl.setBody, hinfo]

/-- What stands above the classes does not depend on any body. -/
theorem frontStream_withBody (logic : ClassDecl) (body : List Statement) (place : MethodPlace)
    (provenance : Option Provenance) :
    frontStream (logic.withBody body place) provenance = frontStream logic provenance := by
  have hnamespace : (logic.withBody body place).namespaceName = logic.namespaceName := by
    cases place <;> rfl
  rw [frontStream, frontStream, usedNamespaces_withBody, hnamespace]

/-- **A file has a slot** in the place of each of its methods. -/
theorem exists_slot_file {logic : ClassDecl} {place : MethodPlace} {m : MethodDecl}
    (hm : logic.methodAt? place = some m) (provenance : Option Provenance) :
    ∃ slot : Slot 2, ∀ body : List Statement,
      fileStream (logic.withBody body place) provenance = slot.fill { m with body } := by
  have hfront := depth_frontStream logic provenance
  have hfile : ∀ body, fileStream (logic.withBody body place) provenance =
      ((frontStream logic provenance).appendJoined .emptyLine
        ((classesOf (logic.withBody body place)).map classStream)).addAll
          [.indent (-1), .literal "\x7d"] := by
    intro body
    rw [fileStream_eq, ← frontStream_withBody logic body place]
    rfl
  cases place with
  | own i =>
      obtain ⟨slot, hslot⟩ := exists_slot_classes hfront logic.companion.toList logic
        (logic.methods.take i) (logic.methods.drop (i + 1)) []
      refine ⟨slot, fun body => ?_⟩
      rw [hfile, ← hslot, ClassDecl.withBody, ClassDecl.setBody_eq hm]
      rfl
  | companion i =>
      obtain ⟨info, hinfo, hm⟩ := Option.bind_eq_some_iff.mp hm
      obtain ⟨slot, hslot⟩ := exists_slot_classes hfront [] info (info.methods.take i)
        (info.methods.drop (i + 1)) [logic]
      refine ⟨slot, fun body => ?_⟩
      rw [hfile, ← hslot, ClassDecl.withBody, hinfo, Option.map_some, ClassDecl.setBody_eq hm]
      rfl

/-- A text this many levels in. -/
def indented (levels : Nat) (text : String) : List Char :=
  List.replicate (4 * levels) ' ' ++ text.toList

/-- The lines of a method above its block: the signature, and the call that a constructor makes
first.  A line break in a name gives more lines. -/
def headLines (m : MethodDecl) : List (List Char) :=
  splitAtChar '\n' (indented 2 (signature m)) ++
    m.chainedCall.toList.flatMap fun call => splitAtChar '\n' (indented 3 (": " ++ call))

/-- The lines of a method from its opening brace to its closing one.  The braces of an empty body
share a line. -/
def blockLines (body : List Statement) : List (List Char) :=
  if body = [] then [indented 2 "\x7b\x7d"]
  else indented 2 "\x7b" :: body.map (fun line => indented (3 + line.depth) line.text) ++
    [indented 2 "\x7d"]

/-- Each statement of a body is one line, as far in as its own depth says. -/
theorem lines_bodyRows (depth : Nat) (body : List Statement) :
    (bodyRows depth body).flatMap Row.lines =
      body.map fun line => indented (depth + line.depth) line.text := by
  rw [bodyRows, List.flatMap_map, List.map_eq_flatMap]
  rfl

/-- **The lines of a block.** -/
theorem lines_blockRows (body : List Statement) :
    (blockRows 2 body).flatMap Row.lines = blockLines body := by
  rw [blockRows, blockLines]
  split
  · rfl
  · have hbody : (bodyRows (2 + 1) body).flatMap Row.lines =
        body.map fun line => indented (3 + line.depth) line.text := lines_bodyRows 3 body
    rw [List.flatMap_append, List.flatMap_cons, hbody]
    rfl

/-- The lines of a row with an empty line before it or none, whatever is in its text. -/
theorem lines_chars (blank : Bool) (levels : Nat) (text : String) :
    splitAtChar '\n' (Row.chars ⟨blank, levels, text.toList⟩) =
      (if blank then [[]] else []) ++ splitAtChar '\n' (indented levels text) := by
  cases blank with
  | false => rfl
  | true => exact splitAtChar_line List.not_mem_nil (indented levels text)

/-- A chained call stands one level further in than the signature. -/
theorem lines_chainedRows (m : MethodDecl) :
    (chainedRows 2 m).flatMap (fun r => splitAtChar '\n' r.chars) =
      m.chainedCall.toList.flatMap fun call => splitAtChar '\n' (indented 3 (": " ++ call)) := by
  rw [chainedRows, List.flatMap_map]
  rfl

/-- **The lines of a method** in the middle of a file. -/
theorem lines_methodRows {m : MethodDecl} (hbody : LegibleBody m.body) (row : Row) (blank : Bool)
    (rest : List Char) :
    splitAtChar '\n' (rowsChars (row :: methodRows 2 blank m) ++ rest) =
      splitAtChar '\n' row.chars ++ (if blank then [[]] else []) ++ headLines m ++
        blockLines m.body ++ splitAtChar '\n' rest := by
  have hblock : splitAtChar '\n' (rowsChars (blockRows 2 m.body) ++ rest) =
      blockLines m.body ++ splitAtChar '\n' rest := by
    have hunbroken : ∀ r ∈ blockRows 2 m.body, '\n' ∉ r.text := fun r hr =>
      (mem_blockRows hbody hr).2.newLine_not_mem
    rw [lines_rowsChars_append, flatMap_lines hunbroken, lines_blockRows]
  have hhead : splitAtChar '\n' (Row.chars ⟨blank, 2, (signature m).toList⟩) =
      (if blank then [[]] else []) ++ splitAtChar '\n' (indented 2 (signature m)) :=
    lines_chars blank 2 (signature m)
  have hrows : rowsChars (row :: methodRows 2 blank m) ++ rest =
      rowsChars (row :: ⟨blank, 2, (signature m).toList⟩ :: chainedRows 2 m) ++
        (rowsChars (blockRows 2 m.body) ++ rest) := by
    rw [← List.append_assoc, ← rowsChars_append]
    rfl
  rw [hrows, lines_rowsChars_append, hblock, List.flatMap_cons, List.flatMap_cons, hhead,
    lines_chainedRows, headLines]
  simp only [List.append_assoc]

end CSharp

open Layout Text CSharp

/-- **Bodies are indented by depth.**  Whatever stands in the classes of a file, if the texts of a
method's statements are not empty and have no line break in them: behind the lines of its head come
an opening brace, one line for each statement with a margin of four blanks for each of three levels
and of the statement's own depth, and a closing brace below the opening one.  Any such body may take
the place of the method's body, the empty one among them: the lines above and below stay as they
are. -/
theorem bodies_indented_by_depth {logic : ClassDecl} {place : MethodPlace} {m : MethodDecl}
    (hm : logic.methodAt? place = some m) (hbody : LegibleBody m.body)
    (provenance : Option Provenance) :
    ∃ above below : List (List Char),
      splitAtChar '\n' (render logic provenance).toList =
        above ++ headLines m ++ blockLines m.body ++ below ∧
      ∀ body : List Statement, LegibleBody body →
        splitAtChar '\n' (render (logic.withBody body place) provenance).toList =
          above ++ headLines m ++ blockLines body ++ below := by
  obtain ⟨slot, hslot⟩ := exists_slot_file hm provenance
  obtain ⟨row, blank, rest, hprint⟩ := slot.print_fill
  have hlines : ∀ body : List Statement, LegibleBody body →
      splitAtChar '\n' (render (logic.withBody body place) provenance).toList =
        splitAtChar '\n' row.chars ++ (if blank then [[]] else []) ++ headLines m ++
          blockLines body ++ splitAtChar '\n' rest := by
    intro body hbody
    have htexts : ∀ line ∈ body, line.text ≠ "" := fun line hline => (hbody line hline).1
    rw [render, hslot, hprint { m with body } htexts]
    exact lines_methodRows (m := { m with body }) hbody row blank rest
  have hself := hlines m.body hbody
  rw [ClassDecl.withBody_self hm] at hself
  exact ⟨_, _, hself, hlines⟩

/-- A body that begins two levels in, falls back and ends three levels in. -/
def leapingTick : MethodDecl :=
  { name := "Tick"
    returnType := some "void"
    implements := some "ITick"
    body := [⟨2, "if (ready)"⟩, ⟨0, "return;"⟩, ⟨3, "Move();"⟩] }

/-- A class that has this body in its second method, and a companion. -/
def lookout : ClassDecl :=
  { name := "Lookout"
    baseType := "ConditionalTrait<LookoutInfo>"
    methods := [{ name := "Lookout", returnType := none, chainedCall := some "base(info)" },
      leapingTick]
    companion := some { name := "LookoutInfo", baseType := "ConditionalTraitInfo" } }

theorem bodies_indented_by_depth_lookout :
    lookout.methodAt? (.own 1) = some leapingTick ∧ LegibleBody leapingTick.body ∧
    ∃ above below : List (List Char),
      splitAtChar '\n' (render lookout none).toList =
        above ++ headLines leapingTick ++ blockLines leapingTick.body ++ below ∧
      ∀ body : List Statement, LegibleBody body →
        splitAtChar '\n' (render (lookout.withBody body (.own 1)) none).toList =
          above ++ headLines leapingTick ++ blockLines body ++ below := by
  have hplace : lookout.methodAt? (.own 1) = some leapingTick := rfl
  have hbody : LegibleBody leapingTick.body := by decide
  exact ⟨hplace, hbody, bodies_indented_by_depth hplace hbody none⟩

end BehaviorTraits
