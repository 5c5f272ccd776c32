import BehaviorTraits.Proofs.MiniYamlReading
import Mathlib.Data.List.Forall2

/-!
# The shape of a document

A rendered document is flat: what is left of the tree are the tabs at the start of each line.  They
are enough, as long as no key begins with a tab itself.

* `linesOf_places`: the lines are those of the entries, each entry before its children and these in
  order.
* `parentLines_places`: the parent of a line is the last line before it that has fewer tabs.
* `foldr_grow_places`: reading the tabs from the last line to the first puts the tree together
  again.

`text_tells_shape` joins these: documents with the same text have the same shape.
-/

namespace BehaviorTraits.MiniYaml

open Text

/-! ## Entries in their places -/

/-- An entry, its depth, and the number of the line of its parent. -/
structure Place where
  parent : Option Nat
  depth : Nat
  entry : MiniYaml

mutual

/-- The places of an entry and of all below it, when the entry is on the line of this number. -/
def placesFrom (parent : Option Nat) (depth line : Nat) : MiniYaml → List Place
  | d@⟨_, _, children, _⟩ =>
    ⟨parent, depth, d⟩ :: placesAllFrom (some line) (depth + 1) (line + 1) children

def placesAllFrom (parent : Option Nat) (depth line : Nat) : List MiniYaml → List Place
  | [] => []
  | d :: ds =>
    let first := placesFrom parent depth line d
    first ++ placesAllFrom parent depth (line + first.length) ds

end

/-- The places of all entries of a document. -/
def places (d : MiniYaml) : List Place := placesFrom none 0 0 d

/-- No key of the document begins with a tab. -/
def Untabbed (d : MiniYaml) : Prop := ∀ p ∈ d.places, p.entry.key.toList.head? ≠ some '\t'

instance (d : MiniYaml) : Decidable d.Untabbed :=
  List.decidableBAll (fun p : Place => p.entry.key.toList.head? ≠ some '\t') d.places

mutual

/-- Nothing in an entry stands further out than the entry. -/
theorem depth_le_of_mem_placesFrom (parent : Option Nat) (depth line : Nat) (d : MiniYaml) :
    ∀ p ∈ placesFrom parent depth line d, depth ≤ p.depth := by
  obtain ⟨key, value, children, comment⟩ := d
  intro p hp
  rcases List.mem_cons.mp hp with rfl | hp
  · exact Nat.le_refl depth
  · have hbelow := depth_le_of_mem_placesAllFrom (some line) (depth + 1) (line + 1) children p hp
    omega

theorem depth_le_of_mem_placesAllFrom (parent : Option Nat) (depth line : Nat)
    (ds : List MiniYaml) : ∀ p ∈ placesAllFrom parent depth line ds, depth ≤ p.depth := by
  match ds with
  | [] =>
      intro p hp
      cases hp
  | d :: ds =>
      intro p hp
      rcases List.mem_append.mp hp with hp | hp
      · exact depth_le_of_mem_placesFrom parent depth line d p hp
      · exact depth_le_of_mem_placesAllFrom parent depth _ ds p hp

end

/-! ## Their lines -/

/-- How a value or a comment stands on its line: behind its lead, or not at all if it is absent or
empty. -/
inductive Shown (lead : List Char) : Option String → List Char → Prop
  | absent : Shown lead none []
  | empty : Shown lead (some "") []
  | present {s : String} (hs : s ≠ "") : Shown lead (some s) (lead ++ singleLineChars s.toList)

/-- A value or comment is shown as it should be. -/
theorem shown_partChars (lead : List Char) (part : Option String) :
    Shown lead part (partChars lead part) := by
  cases part with
  | none => exact .absent
  | some s =>
      rw [partChars]
      split
      · rename_i hempty
        rw [hempty]
        exact .empty
      · rename_i hsome
        exact .present hsome

namespace Place

/-- What the line of an entry consists of: a tab for each level, the key, a colon, and then value
and comment where there are any. -/
def HasLine (p : Place) (line : List Char) : Prop :=
  ∃ value comment, Shown [' '] p.entry.value value ∧ Shown [' ', '#', ' '] p.entry.comment comment ∧
    line = List.replicate p.depth '\t' ++ singleLineChars p.entry.key.toList ++ ':' :: value ++
      comment

/-- The line of the entry. -/
def line (p : Place) : List Char := entryLine p.depth p.entry.key p.entry.value p.entry.comment

/-- The line of an entry has the form that it should have. -/
theorem hasLine_line (p : Place) : p.HasLine p.line :=
  ⟨_, _, shown_partChars _ _, shown_partChars _ _, rfl⟩

end Place

mutual

/-- **One line for each entry**, in the order of their places. -/
theorem linesOf_places (parent : Option Nat) (depth line : Nat) (d : MiniYaml) :
    linesOf depth d = (placesFrom parent depth line d).map Place.line := by
  obtain ⟨key, value, children, comment⟩ := d
  rw [linesOf, placesFrom, List.map_cons,
    linesOfAll_places (some line) (depth + 1) (line + 1) children]
  rfl

/-- Several entries have their lines in a row: the places go on where those before end. -/
theorem linesOfAll_places (parent : Option Nat) (depth line : Nat) (ds : List MiniYaml) :
    linesOfAll depth ds = (placesAllFrom parent depth line ds).map Place.line := by
  match ds with
  | [] => rfl
  | d :: ds =>
      rw [linesOfAll, placesAllFrom, List.map_append, linesOf_places parent depth line d,
        linesOfAll_places parent depth _ ds]

end

mutual

/-- The text of a document is that of its lines, each with a line break behind it. -/
theorem renderChars_lines (depth : Nat) (d : MiniYaml) :
    renderChars depth d = (linesOf depth d).flatMap (· ++ ['\n']) := by
  obtain ⟨key, value, children, comment⟩ := d
  rw [renderChars, linesOf, List.flatMap_cons, renderAllChars_lines (depth + 1) children]
  rfl

/-- Several entries are rendered line by line. -/
theorem renderAllChars_lines (depth : Nat) (ds : List MiniYaml) :
    renderAllChars depth ds = (linesOfAll depth ds).flatMap (· ++ ['\n']) := by
  match ds with
  | [] => rfl
  | d :: ds =>
      rw [renderAllChars, linesOfAll, List.flatMap_append, renderChars_lines depth d,
        renderAllChars_lines depth ds]

end

/-- The lines of a text, without their line breaks. -/
def textLines (text : String) : List (List Char) := (splitAtChar '\n' text.toList).dropLast

/-- **The lines of a text are those of its entries**, and no others. -/
theorem textLines_render (d : MiniYaml) : textLines d.render = d.places.map Place.line := by
  have hlines := lines_renderChars 0 d []
  rw [List.append_nil, linesOf_places none 0 0 d] at hlines
  rw [textLines, render, String.toList_ofList, hlines]
  exact List.dropLast_concat

/-! ## The tabs of a line -/

/-- The number of tabs that a line begins with. -/
def tabs (line : List Char) : Nat := (line.takeWhile (· == '\t')).length

/-- On one line a text begins with a tab only if it did so before. -/
theorem head?_singleLineChars {cs : List Char} (h : cs.head? ≠ some '\t') :
    (singleLineChars cs).head? ≠ some '\t' := by
  fun_cases singleLineChars cs with
  | case1 => exact h
  | case2 cs =>
      rw [List.head?_cons]
      decide
  | case3 c cs _ =>
      rw [List.head?_cons] at h ⊢
      split
      · decide
      · exact h

/-- **A line begins with a tab for each level**, and no more. -/
theorem tabs_line {p : Place} (hkey : p.entry.key.toList.head? ≠ some '\t') :
    tabs p.line = p.depth := by
  obtain ⟨c, cs, hrest, hc⟩ : ∃ c cs, p.line = List.replicate p.depth '\t' ++ c :: cs ∧
      c ≠ '\t' := by
    rw [Place.line, entryLine, List.append_assoc, List.append_assoc]
    have hhead := head?_singleLineChars hkey
    cases hchars : singleLineChars p.entry.key.toList with
    | nil => exact ⟨':', _, rfl, by decide⟩
    | cons c cs =>
        refine ⟨c, _, rfl, fun htab => hhead ?_⟩
        rw [hchars, htab, List.head?_cons]
  have htabs : ∀ c ∈ List.replicate p.depth '\t', (c == '\t') = true := by
    intro c hc
    rw [List.eq_of_mem_replicate hc]
    rfl
  rw [tabs, hrest, List.takeWhile_append_of_pos htabs,
    List.takeWhile_cons_of_neg (by simpa using hc), List.append_nil, List.length_replicate]

/-- **The tabs of a line tell the depth of its entry**, if no key brings in tabs of its own. -/
theorem tabs_textLines {d : MiniYaml} (hd : d.Untabbed) :
    (textLines d.render).map tabs = d.places.map (·.depth) := by
  rw [textLines_render, List.map_map]
  apply List.map_congr_left
  intro p hp
  exact tabs_line (hd p hp)

/-! ## Parents from depths -/

/-- The number of the last line that is less deep.  The depths of the lines so far come last one
first, so a line has the number of those behind it in the list. -/
def nearestAbove (depth : Nat) : List Nat → Option Nat
  | [] => none
  | d :: before => if d < depth then some before.length else nearestAbove depth before

/-- For each line the last one before it that is less deep, when there are lines before all. -/
def parentLines (before : List Nat) : List Nat → List (Option Nat)
  | [] => []
  | depth :: later => nearestAbove depth before :: parentLines (depth :: before) later

/-- Lines that are as deep do not come between a line and its parent. -/
theorem nearestAbove_append {depth : Nat} {deeper : List Nat} (h : ∀ d ∈ deeper, depth ≤ d)
    (before : List Nat) : nearestAbove depth (deeper ++ before) = nearestAbove depth before := by
  induction deeper with
  | nil => rfl
  | cons d deeper ih =>
      obtain ⟨hd, hdeeper⟩ := List.forall_mem_cons.mp h
      rw [List.cons_append, nearestAbove, if_neg (Nat.not_lt.mpr hd), ih hdeeper]

/-- The depths of places, last one first. -/
def depthsBack (ps : List Place) : List Nat := (ps.map (·.depth)).reverse

/-- What comes later stands in front. -/
theorem depthsBack_append (ps qs : List Place) :
    depthsBack (ps ++ qs) = depthsBack qs ++ depthsBack ps := by
  rw [depthsBack, List.map_append, List.reverse_append]
  rfl

theorem length_depthsBack (ps : List Place) : (depthsBack ps).length = ps.length := by
  rw [depthsBack, List.length_reverse, List.length_map]

mutual

/-- **Parents are found again.**  Behind the lines of an entry, and of all below it, the search goes
on as if they were not there. -/
theorem parentLines_places {parent : Option Nat} {depth : Nat} (d : MiniYaml) {before : List Nat}
    (hparent : nearestAbove depth before = parent) (rest : List Nat) :
    let ps := placesFrom parent depth before.length d
    parentLines before (ps.map (·.depth) ++ rest) =
      ps.map (·.parent) ++ parentLines (depthsBack ps ++ before) rest := by
  obtain ⟨key, value, children, comment⟩ := d
  have hchild : nearestAbove (depth + 1) (depth :: before) = some before.length :=
    if_pos (Nat.lt_succ_self depth)
  have hchildren := parentLines_placesAll children hchild rest
  intro ps
  have hback : depthsBack ps ++ before =
      depthsBack (placesAllFrom (some before.length) (depth + 1) (before.length + 1) children) ++
        depth :: before := by
    simp [ps, placesFrom, depthsBack]
  rw [hback]
  simp only [ps, placesFrom, List.map_cons, List.cons_append, parentLines, hparent]
  exact congrArg (parent :: ·) hchildren

/-- Of several entries of one depth, none hides the parent of the next. -/
theorem parentLines_placesAll {parent : Option Nat} {depth : Nat} (ds : List MiniYaml)
    {before : List Nat} (hparent : nearestAbove depth before = parent) (rest : List Nat) :
    let ps := placesAllFrom parent depth before.length ds
    parentLines before (ps.map (·.depth) ++ rest) =
      ps.map (·.parent) ++ parentLines (depthsBack ps ++ before) rest := by
  match ds with
  | [] => rfl
  | d :: ds =>
      intro ps
      let first := placesFrom parent depth before.length d
      -- the lines of the first entry hide none that is less deep
      have hbefore : nearestAbove depth (depthsBack first ++ before) = parent := by
        rw [nearestAbove_append _ before, hparent]
        intro n hn
        obtain ⟨p, hp, rfl⟩ := List.mem_map.mp (List.mem_reverse.mp hn)
        exact depth_le_of_mem_placesFrom parent depth before.length d p hp
      have hothers := parentLines_placesAll ds hbefore rest
      rw [List.length_append, length_depthsBack, Nat.add_comm] at hothers
      have hps : ps = first ++ placesAllFrom parent depth (before.length + first.length) ds := rfl
      rw [hps, List.map_append, List.map_append, List.append_assoc,
        parentLines_places d hparent, hothers, depthsBack_append, List.append_assoc,
        List.append_assoc]

end

/-! ## Trees from depths -/

/-- A tree with nothing on its nodes. -/
inductive Shape where
  | node (children : List Shape)

mutual

/-- The shape of a document. -/
def shape : MiniYaml → Shape
  | ⟨_, _, children, _⟩ => .node (shapes children)

def shapes : List MiniYaml → List Shape
  | [] => []
  | d :: ds => d.shape :: shapes ds

end

/-- The shapes of several documents are the shapes of each. -/
theorem shapes_eq_map (ds : List MiniYaml) : shapes ds = ds.map shape := by
  induction ds with
  | nil => rfl
  | cons d ds ih => rw [shapes, ih, List.map_cons]

/-- Puts a node before trees whose roots have the given depths.  Those that are deeper, up to the
first that is not, become its children. -/
def grow (depth : Nat) (later : List (Nat × Shape)) : List (Nat × Shape) :=
  (depth, .node ((later.takeWhile (depth < ·.1)).map (·.2))) :: later.dropWhile (depth < ·.1)

/-- Trees that are deeper become children, if the first of the others is not. -/
theorem grow_append {depth : Nat} {deeper later : List (Nat × Shape)}
    (hdeeper : ∀ tree ∈ deeper, depth < tree.1) (hlater : ∀ tree ∈ later.head?, tree.1 ≤ depth) :
    grow depth (deeper ++ later) = (depth, .node (deeper.map (·.2))) :: later := by
  have hpos : ∀ tree ∈ deeper, decide (depth < tree.1) = true := fun tree htree =>
    decide_eq_true (hdeeper tree htree)
  rw [grow, List.takeWhile_append_of_pos hpos, List.dropWhile_append_of_pos hpos]
  cases later with
  | nil => rw [List.takeWhile_nil, List.dropWhile_nil, List.append_nil]
  | cons tree later =>
      have hfirst : ¬ depth < tree.1 := Nat.not_lt.mpr (hlater tree rfl)
      simp [hfirst]

mutual

/-- **The tree is put together again** from the depths, last one first. -/
theorem foldr_grow_places (parent : Option Nat) {depth : Nat} (line : Nat) (d : MiniYaml)
    {later : List (Nat × Shape)} (hlater : ∀ tree ∈ later.head?, tree.1 ≤ depth) :
    ((placesFrom parent depth line d).map (·.depth)).foldr grow later =
      (depth, d.shape) :: later := by
  obtain ⟨key, value, children, comment⟩ := d
  have hdeeper : ∀ tree ∈ children.map fun child => (depth + 1, child.shape), depth < tree.1 := by
    intro tree htree
    obtain ⟨child, -, rfl⟩ := List.mem_map.mp htree
    exact Nat.lt_succ_self depth
  have hbelow : ∀ tree ∈ later.head?, tree.1 ≤ depth + 1 := fun tree htree =>
    Nat.le_succ_of_le (hlater tree htree)
  rw [placesFrom, List.map_cons, List.foldr_cons,
    foldr_grow_placesAll (some line) (line + 1) children hbelow, grow_append hdeeper hlater,
    List.map_map, shape, shapes_eq_map]
  rfl

/-- Entries of one depth grow into trees side by side, in front of what is there. -/
theorem foldr_grow_placesAll (parent : Option Nat) {depth : Nat} (line : Nat)
    (ds : List MiniYaml) {later : List (Nat × Shape)}
    (hlater : ∀ tree ∈ later.head?, tree.1 ≤ depth) :
    ((placesAllFrom parent depth line ds).map (·.depth)).foldr grow later =
      (ds.map fun d => (depth, d.shape)) ++ later := by
  match ds with
  | [] => rfl
  | d :: ds =>
      have hfirst : ∀ tree ∈ ((ds.map fun d => (depth, d.shape)) ++ later).head?,
          tree.1 ≤ depth := by
        cases ds with
        | nil => exact hlater
        | cons other ds =>
            intro tree htree
            cases htree
            exact Nat.le_refl depth
      rw [placesAllFrom, List.map_append, List.foldr_append,
        foldr_grow_placesAll parent _ ds hlater, foldr_grow_places parent line d hfirst]
      rfl

end

/-- **The text of a document tells its shape.**  It consists of one line for each entry, in order,
each ended by a line feed, and has no other line break in it.

If no key begins with a tab, the parent of each line is the last one before it with fewer tabs, and
another such document with the same text has the same shape. -/
theorem text_tells_shape (d : MiniYaml) :
    d.render.toList = (textLines d.render).flatMap (· ++ ['\n']) ∧
      (∀ line ∈ textLines d.render, Unbroken line) ∧
      List.Forall₂ Place.HasLine d.places (textLines d.render) ∧
      (d.Untabbed →
        parentLines [] ((textLines d.render).map tabs) = d.places.map (·.parent) ∧
        ∀ e : MiniYaml, e.Untabbed → e.render = d.render → e.shape = d.shape) := by
  have hlines := textLines_render d
  refine ⟨?_, ?_, ?_, fun hd => ⟨?_, fun e he htext => ?_⟩⟩
  · rw [hlines, render, String.toList_ofList, renderChars_lines, linesOf_places none 0 0]
    rfl
  · intro line hline
    rw [hlines] at hline
    obtain ⟨p, -, rfl⟩ := List.mem_map.mp hline
    exact unbroken_entryLine _ _ _ _
  · rw [hlines, List.forall₂_map_right_iff]
    exact List.forall₂_same.mpr fun p _ => p.hasLine_line
  · have hparents := parentLines_places d (rfl : nearestAbove 0 [] = none) []
    dsimp only at hparents
    rw [List.append_nil] at hparents
    rw [tabs_textLines hd]
    exact hparents.trans (List.append_nil _)
  · have hdepths : e.places.map (·.depth) = d.places.map (·.depth) := by
      rw [← tabs_textLines hd, ← tabs_textLines he, htext]
    have hfold : ∀ f : MiniYaml, (f.places.map (·.depth)).foldr grow [] = [(0, f.shape)] :=
      fun f => foldr_grow_places none 0 f (by simp)
    have hsame := hfold e
    rw [hdepths, hfold d] at hsame
    exact (congrArg Prod.snd (List.singleton_inj.mp hsame)).symm

/-- A scout with a comment on its range. -/
def scoutEntry : MiniYaml :=
  { key := "E1"
    children := [.entry "Inherits" "^Soldier",
      { key := "Scout", children := [(entry "Range" "5").withComment "Cells\r\nscanned."] }] }

/-- The same text, with the comment taken for a part of the value. -/
def scoutValue : MiniYaml :=
  { key := "E1"
    children := [.entry "Inherits" "^Soldier",
      { key := "Scout", children := [.entry "Range" "5 # Cells scanned."] }] }

theorem text_tells_shape_scout :
    scoutEntry.Untabbed ∧ scoutValue.Untabbed ∧ scoutValue.render = scoutEntry.render ∧
      parentLines [] ((textLines scoutEntry.render).map tabs) =
        [none, some 0, some 0, some 2] ∧
      scoutValue.shape = scoutEntry.shape := by
  have hentry : scoutEntry.Untabbed := by decide
  have hvalue : scoutValue.Untabbed := by decide
  have htext : scoutValue.render = scoutEntry.render :=
    congrArg String.ofList (by decide : renderChars 0 scoutValue = renderChars 0 scoutEntry)
  obtain ⟨hparents, hshape⟩ := (text_tells_shape scoutEntry).2.2.2 hentry
  refine ⟨hentry, hvalue, htext, ?_, hshape scoutValue hvalue htext⟩
  rw [hparents]
  decide

/-- With a tab before a key, a sibling looks like a child. -/
example : render { key := "E1", children := [block "Scout", block "\tRange"] } =
    render { key := "E1", children := [{ key := "Scout", children := [block "Range"] }] } := by
  decide

end BehaviorTraits.MiniYaml
