import BehaviorTraits.Proofs.TokenStream

/-!
# Rows of printed text

Printed text is a list of rows: a margin by the depth, a text, and perhaps an empty line before
them.  While tokens are added, a stream either stands at the end of its last row (`Lays`), or it has
left that row and waits for the next one at a depth (`Awaits`).

Each kind of token takes a stream from one of these states to the other.  So the rows of a file are
found by going through its tokens once, and `Lays.print` gives the text.
-/

namespace BehaviorTraits.Layout

structure Row where
  /-- Does an empty line stand before the row? -/
  blank : Bool
  depth : Int
  text : List Char
  deriving DecidableEq, Repr

/-- The blanks before the text of a row. -/
def margin (depth : Int) : List Char := List.replicate (4 * depth.toNat) ' '

def Row.chars (r : Row) : List Char :=
  (if r.blank then ['\n'] else []) ++ margin r.depth ++ r.text

/-- The rows one below the other, each with a line break behind it. -/
def rowsChars (rows : List Row) : List Char := rows.flatMap fun r => r.chars ++ ['\n']

/-- Rows below each other are printed one after the other. -/
theorem rowsChars_append (rows rows' : List Row) :
    rowsChars (rows ++ rows') = rowsChars rows ++ rowsChars rows' :=
  List.flatMap_append

/-! ## Texts of rows -/

/-- The tokens collapse nowhere, end with a literal, and print a text wherever a row begins; `n`
blanks are still to be printed behind it. -/
structure Writes (tokens : List Token) (text : List Char) (n : Nat) : Prop where
  settled : ∀ s : Stream, s.addAll tokens = tokens.reverse ++ s
  topped : ∃ last rest, tokens.reverse = .literal last :: rest
  prints : ∀ (c : Cursor) (rest : List Token), c.spaces = 0 →
    printChars c (tokens ++ rest) = c.before ++ text ++ printChars ⟨.none, n, c.indent⟩ rest

namespace Writes

/-- A text that is not empty writes itself. -/
theorem literal {text : String} (htext : text ≠ "") :
    Writes [.literal text] text.toList 0 where
  settled _ := rfl
  topped := ⟨text, [], rfl⟩
  prints c rest _ := by simp [printChars, htext]

variable {tokens : List Token} {text : List Char}

/-- A literal goes on in the same row. -/
theorem more (h : Writes tokens text 0) (next : String) :
    Writes (tokens ++ [.literal next]) (text ++ next.toList) 0 where
  settled s := by
    rw [Stream.addAll_append, h.settled s, List.reverse_append]
    rfl
  topped := ⟨next, tokens.reverse, by simp⟩
  prints c rest hspaces := by
    rw [List.append_assoc, h.prints c _ hspaces]
    by_cases hnext : next = ""
    · simp [printChars, hnext]
    · simp [printChars, hnext, Cursor.before]

/-- A literal behind a blank; if it is empty, the blank is still to be printed. -/
theorem spaced (h : Writes tokens text 0) (next : String) :
    Writes (tokens ++ [.space, .literal next])
      (text ++ if next = "" then [] else ' ' :: next.toList) (if next = "" then 1 else 0) where
  settled s := by
    obtain ⟨last, rest, hlast⟩ := h.topped
    rw [Stream.addAll_append, h.settled s, List.reverse_append, hlast]
    rfl
  topped := ⟨next, .space :: tokens.reverse, by simp⟩
  prints c rest hspaces := by
    rw [List.append_assoc, h.prints c _ hspaces]
    by_cases hnext : next = ""
    · simp [printChars, hnext]
    · simp [printChars, hnext, Cursor.before]

/-- An empty literal before the others prints nothing. -/
theorem unmarked (h : Writes tokens text 0) : Writes (.literal "" :: tokens) text 0 where
  settled s := by
    rw [Stream.addAll_cons, h.settled, List.reverse_cons, List.append_assoc]
    rfl
  topped := by
    obtain ⟨last, rest, hlast⟩ := h.topped
    exact ⟨last, rest ++ [.literal ""], by simp [hlast]⟩
  prints c rest hspaces := by
    rw [List.cons_append, printChars, if_pos rfl, h.prints c rest hspaces]

end Writes

/-! ## Between and at the end of rows -/

/-- The stream stands at the end of its last row, which is at the depth. -/
def Lays (s : Stream) (rows : List Row) (depth : Int) : Prop :=
  (∃ last rest, s = .literal last :: rest) ∧
    ∃ n printed, rowsChars rows = printed ++ ['\n'] ∧
      ∀ rest, printChars {} (s.reverse ++ rest) = printed ++ printChars ⟨.none, n, depth⟩ rest

/-- The stream has left its last row, at depth `last`, and the next row will be at `depth`;
`blank` says whether it will have an empty line before it. -/
inductive Awaits : Stream → List Row → (last depth : Int) → (blank : Bool) → Prop
  | newLine {s : Stream} {rows : List Row} {last : Int} (h : Lays s rows last) :
      Awaits (.newLine :: s) rows last last false
  | emptyLine {s : Stream} {rows : List Row} {last : Int} (h : Lays s rows last) :
      Awaits (.emptyLine :: s) rows last last true
  | indent {s : Stream} {rows : List Row} {last levels : Int} (hlevels : levels ≠ 0)
      (h : Lays s rows last) : Awaits (.indent levels :: s) rows last (last + levels) false
  | indentLine {s : Stream} {rows : List Row} {last levels : Int} (hlevels : levels ≠ 0)
      (h : Lays s rows last) :
      Awaits (.newLine :: .indent levels :: s) rows last (last + levels) false

/-- **The text of a page.** -/
theorem Lays.print {s : Stream} {rows : List Row} {depth : Int} (h : Lays s rows depth) :
    s.print = String.ofList (rowsChars rows) := by
  obtain ⟨_, n, printed, hrows, hprint⟩ := h
  have hall := hprint []
  rw [List.append_nil] at hall
  rw [Stream.print, hall, hrows, printChars, List.append_nil]

/-- The first row of a file. -/
theorem Writes.first {tokens : List Token} {text : List Char} {n : Nat}
    (h : Writes tokens text n) :
    Lays (Stream.addAll [] tokens) [⟨false, 0, text⟩] 0 ∧
      Lays (Stream.addAll [.newLine] tokens) [⟨false, 0, text⟩] 0 := by
  obtain ⟨last, rest, hlast⟩ := h.topped
  have hrows : rowsChars [⟨false, 0, text⟩] = text ++ ['\n'] := by
    simp [rowsChars, Row.chars, margin]
  rw [h.settled, h.settled]
  refine ⟨⟨⟨last, rest, by rw [hlast]; simp⟩, n, text, hrows, fun others => ?_⟩,
    ⟨last, rest ++ [.newLine], by rw [hlast]; simp⟩, n, text, hrows, fun others => ?_⟩
  · have hprints := h.prints {} others rfl
    simpa [Cursor.before] using hprints
  · have hprints := h.prints {} others rfl
    simpa [Cursor.before, printChars, Cursor.toNewLine] using hprints

/-! ## What tokens do -/

section

variable {s : Stream} {rows : List Row} {last depth : Int} {blank : Bool}

/-- A line break leaves a row to be expected at the same depth. -/
theorem Lays.add_newLine (h : Lays s rows depth) :
    Awaits (s.add .newLine) rows depth depth false := by
  obtain ⟨last, rest, rfl⟩ := h.1
  exact .newLine h

/-- An empty line leaves one to be expected below a blank line. -/
theorem Lays.add_emptyLine (h : Lays s rows depth) :
    Awaits (s.add .emptyLine) rows depth depth true := by
  obtain ⟨last, rest, rfl⟩ := h.1
  exact .emptyLine h

/-- Behind a text, a change of the indentation has nothing to merge with. -/
theorem Lays.addIndent (h : Lays s rows depth) {levels : Int} (hlevels : levels ≠ 0) :
    Stream.addIndent levels s = .indent levels :: s := by
  obtain ⟨⟨last, rest, rfl⟩, _⟩ := h
  rw [Stream.addIndent, if_neg hlevels]
  all_goals simp

/-- A change of the indentation leaves a row to be expected at the new depth. -/
theorem Lays.add_indent (h : Lays s rows depth) (levels : Int) (hlevels : levels ≠ 0) :
    Awaits (s.add (.indent levels)) rows depth (depth + levels) false := by
  rw [Stream.add, h.addIndent hlevels]
  exact .indent hlevels h

/-- A new line more changes nothing between rows. -/
theorem Awaits.add_newLine (h : Awaits s rows last depth blank) :
    Awaits (s.add .newLine) rows last depth blank := by
  cases h with
  | newLine h => exact h.add_newLine
  | emptyLine h => exact .emptyLine h
  | indent hlevels h => exact .indentLine hlevels h
  | indentLine hlevels h => exact .indentLine hlevels h

/-- An empty line turns a line break into a blank line. -/
theorem Awaits.add_emptyLine (h : Awaits s rows last depth blank) (hdepth : depth = last) :
    Awaits (s.add .emptyLine) rows last depth true := by
  cases h with
  | newLine h => exact h.add_emptyLine
  | emptyLine h => exact h.add_emptyLine
  | indent hlevels h => exact absurd hdepth (by omega)
  | indentLine hlevels h => exact absurd hdepth (by omega)

/-- A change of the indentation takes the place of the white space before it, if it does not lead
back to the depth of the last row. -/
theorem Awaits.add_indent (h : Awaits s rows last depth blank) (levels : Int)
    (hdepth : depth + levels ≠ last) :
    Awaits (s.add (.indent levels)) rows last (depth + levels) false := by
  cases h with
  | newLine h => exact h.add_indent levels (by omega)
  | emptyLine h => exact h.add_indent levels (by omega)
  | @indent s _ _ n hn h =>
      have hadd := h.add_indent (levels + n) (by omega)
      rw [show last + n + levels = last + (levels + n) by omega]
      exact hadd
  | @indentLine s _ _ n hn h =>
      have hadd := h.add_indent (levels + n) (by omega)
      rw [show last + n + levels = last + (levels + n) by omega]
      exact hadd

/-- The margin and the breaks before the next row. -/
theorem Awaits.prints (h : Awaits s rows last depth blank) :
    ∃ printed, rowsChars rows = printed ++ ['\n'] ∧
      ∀ rest, printChars {} (s.reverse ++ rest) =
        printed ++ printChars ⟨if blank then .emptyLine else .newLine, 0, depth⟩ rest := by
  cases h with
  | newLine h =>
      obtain ⟨_, n, printed, hrows, hprint⟩ := h
      refine ⟨printed, hrows, fun rest => ?_⟩
      rw [List.reverse_cons, List.append_assoc, hprint]
      rfl
  | emptyLine h =>
      obtain ⟨_, n, printed, hrows, hprint⟩ := h
      refine ⟨printed, hrows, fun rest => ?_⟩
      rw [List.reverse_cons, List.append_assoc, hprint]
      rfl
  | indent hlevels h =>
      obtain ⟨_, n, printed, hrows, hprint⟩ := h
      refine ⟨printed, hrows, fun rest => ?_⟩
      rw [List.reverse_cons, List.append_assoc, hprint]
      rfl
  | indentLine hlevels h =>
      obtain ⟨_, n, printed, hrows, hprint⟩ := h
      refine ⟨printed, hrows, fun rest => ?_⟩
      rw [List.reverse_cons, List.reverse_cons, List.append_assoc, List.append_assoc, hprint]
      rfl

/-- **The next row.** -/
theorem Awaits.write {tokens : List Token} {text : List Char} {n : Nat}
    (h : Awaits s rows last depth blank) (htext : Writes tokens text n) :
    Lays (s.addAll tokens) (rows ++ [⟨blank, depth, text⟩]) depth := by
  obtain ⟨printed, hrows, hprint⟩ := h.prints
  obtain ⟨top, below, htop⟩ := htext.topped
  rw [htext.settled]
  refine ⟨⟨top, below ++ s, by rw [htop]; rfl⟩, n,
    printed ++ '\n' :: Row.chars ⟨blank, depth, text⟩, ?_, fun rest => ?_⟩
  · rw [rowsChars_append, hrows]
    simp [rowsChars]
  · rw [List.reverse_append, List.reverse_reverse, List.append_assoc, hprint,
      htext.prints _ rest rfl]
    cases blank <;> simp [Cursor.before, Row.chars, margin]

/-- The rows of items one after the other; `apart` says whether an empty line stands between each
two. -/
def joinedRows {α : Type} (itemRows : Bool → α → List Row) (apart : Bool) :
    (blank : Bool) → List α → List Row
  | _, [] => []
  | blank, item :: items => itemRows blank item ++ joinedRows itemRows apart apart items

/-- The token between two items. -/
def separator (apart : Bool) : Token := if apart then .emptyLine else .newLine

/-- A separator leaves a row to be expected, below a blank line if items stand apart. -/
theorem Lays.add_separator (h : Lays s rows depth) (apart : Bool) :
    Awaits (s.add (separator apart)) rows depth depth apart := by
  cases apart with
  | false => exact h.add_newLine
  | true => exact h.add_emptyLine

/-- The stream of an item lays out its rows wherever they begin at the depth. -/
def LaysOut (stream : Stream) (itemRows : Bool → List Row) (depth : Int) : Prop :=
  ∀ (s : Stream) (rows : List Row) (last : Int) (blank : Bool), Awaits s rows last depth blank →
    Lays (s.append stream) (rows ++ itemRows blank) depth

/-- **Items one after the other.**  Behind a first item, the others follow with new lines or empty
lines between them. -/
theorem Lays.appendJoined {α : Type} {stream : α → Stream} {itemRows : Bool → α → List Row}
    {item : α} {items : List α}
    (hitems : ∀ other ∈ items, LaysOut (stream other) (itemRows · other) depth) (apart : Bool)
    (hfirst : Lays (s.append (stream item)) rows depth) :
    Lays (s.appendJoined (separator apart) ((item :: items).map stream))
      (rows ++ joinedRows itemRows apart apart items) depth := by
  induction items generalizing s rows item with
  | nil => simpa [joinedRows, Stream.appendJoined] using hfirst
  | cons next items ih =>
      have hnext := hitems next List.mem_cons_self _ _ _ _ (hfirst.add_separator apart)
      have hrest := ih (fun other hmem => hitems other (List.mem_cons_of_mem _ hmem)) hnext
      rw [List.append_assoc] at hrest
      exact hrest

/-- Where a row is expected, the first of the joined items takes its place. -/
theorem Awaits.appendJoined {α : Type} {stream : α → Stream} {itemRows : Bool → α → List Row}
    {items : List α} (hitems : ∀ item ∈ items, LaysOut (stream item) (itemRows · item) depth)
    (hne : items ≠ []) (apart : Bool) (h : Awaits s rows last depth blank) :
    Lays (s.appendJoined (separator apart) (items.map stream))
      (rows ++ joinedRows itemRows apart blank items) depth := by
  obtain ⟨item, items, rfl⟩ := List.exists_cons_of_ne_nil hne
  have hfirst := hitems item List.mem_cons_self s rows last blank h
  have hall := Lays.appendJoined (fun other hmem => hitems other (List.mem_cons_of_mem _ hmem))
    apart hfirst
  rw [List.append_assoc] at hall
  exact hall

end

end BehaviorTraits.Layout
