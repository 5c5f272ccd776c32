import BehaviorTraits.Proofs.Rows

/-!
# Depth of a stream

Each change of the indentation leads some levels further in or out.  White space collapses as tokens
are added, but the sum of these levels stays (`Stream.depth_add`), and printing goes on at the depth
that the sum gives (`exists_printed`).  So where a stream stands can be told without a look at its
texts: behind a text, all that was printed before counts as one row (`Stream.Ended.lays`), and a
break behind it waits for the next row at the depth of the stream (`Waits`).

Of joined streams one is singled out by `Stream.appendJoined_around`.
-/

namespace BehaviorTraits.Layout

/-! ## Depth -/

/-- How many levels further in the token leads. -/
@[simp] def Token.levels : Token → Int
  | .indent levels => levels
  | .literal _ | .space | .newLine | .emptyLine => 0

namespace Stream

/-- How many levels further in the tokens lead together. -/
@[simp] def depth : Stream → Int
  | [] => 0
  | token :: s => token.levels + depth s

/-- Depths add up. -/
@[simp] theorem depth_above (t s : List Token) : depth (t ++ s) = depth t + depth s := by
  induction t with
  | nil => simp
  | cons token t ih =>
      rw [List.cons_append, depth, depth, ih]
      omega

/-- The order of tokens does not matter for the depth. -/
@[simp] theorem depth_reverse (s : List Token) : depth s.reverse = depth s := by
  induction s with
  | nil => rfl
  | cons token s ih =>
      rw [List.reverse_cons, depth_above, ih, depth, depth, depth]
      omega

theorem depth_replicate (n : Nat) (token : Token) :
    depth (List.replicate n token) = n * token.levels := by
  induction n with
  | zero => simp
  | succ n ih =>
      rw [List.replicate_succ, depth, ih, Int.natCast_succ, Int.add_mul]
      omega

/-- A line break does not change the depth. -/
theorem depth_addNewLine (s : Stream) : depth (addNewLine s) = depth s := by
  fun_induction addNewLine s with
  | case1 s => rfl
  | case2 s ih | case3 s ih => simp [ih]
  | case4 s => simp

theorem depth_addEmptyLine (s : Stream) : depth (addEmptyLine s) = depth s := by
  fun_induction addEmptyLine s with
  | case1 s ih | case2 s ih => simp [ih]
  | case3 s => simp

/-- **A change of the indentation changes the depth by as much**, whatever it merges with. -/
theorem depth_addIndent (levels : Int) (s : Stream) :
    depth (addIndent levels s) = depth s + levels := by
  fun_induction addIndent levels s with
  | case1 levels s ih | case2 levels s ih | case3 levels s ih => simp [ih]
  | case4 levels n s ih =>
      rw [ih, depth, Token.levels]
      omega
  | case5 s => simp
  | case6 levels s => simp [Int.add_comm]

/-- A space does not change the depth. -/
theorem depth_addSpace (s : Stream) : depth (addSpace s) = depth s := by
  fun_cases addSpace s <;> simp

/-- **Collapsing keeps the depth.** -/
@[simp] theorem depth_add (s : Stream) (token : Token) :
    depth (s.add token) = depth s + token.levels := by
  cases token with
  | literal text => simp [add]
  | space => simp [add, depth_addSpace]
  | newLine => simp [add, depth_addNewLine]
  | emptyLine => simp [add, depth_addEmptyLine]
  | indent levels => exact depth_addIndent levels s

/-- Tokens lead in as far as they do by themselves. -/
@[simp] theorem depth_addAll (s : Stream) (tokens : List Token) :
    depth (s.addAll tokens) = depth s + depth tokens := by
  induction tokens generalizing s with
  | nil => simp [addAll]
  | cons token tokens ih =>
      rw [addAll_cons, ih, depth_add, depth]
      omega

@[simp] theorem depth_append (s other : Stream) :
    depth (s.append other) = depth s + depth other := by
  rw [append, depth_addAll, depth_reverse]

/-! ## Joined streams -/

/-- The items before another one, each with a separator behind it. -/
def joinedBefore (s : Stream) (separator : Token) (others : List Stream) : Stream :=
  others.foldl (fun s other => (s.append other).add separator) s

/-- The items behind another one, each with a separator before it. -/
def joinedAfter (s : Stream) (separator : Token) : List Stream → Stream
  | [] => s
  | other :: others => (s.add separator).appendJoined separator (other :: others)

/-- One item, between those before it and those behind it. -/
theorem appendJoined_around (s : Stream) (separator : Token) (before : List Stream) (item : Stream)
    (after : List Stream) :
    s.appendJoined separator (before ++ item :: after) =
      joinedAfter ((joinedBefore s separator before).append item) separator after := by
  induction before generalizing s with
  | nil => cases after <;> rfl
  | cons other before ih =>
      have hnext : s.appendJoined separator (other :: (before ++ item :: after)) =
          ((s.append other).add separator).appendJoined separator (before ++ item :: after) := by
        cases before <;> rfl
      rw [List.cons_append, hnext, ih]
      rfl

/-- Items behind another one are only added to the stream. -/
theorem adds_joinedAfter (separator : Token) (others : List Stream) :
    Adds (joinedAfter · separator others) := by
  cases others with
  | nil => exact fun _ _ _ => rfl
  | cons other others => exact (adds_appendJoined separator _).comp (adds_add separator)

/-- Items that lead no further in, with separators that do not either. -/
theorem depth_joinedBefore {separator : Token} (hseparator : separator.levels = 0)
    {others : List Stream} (hothers : ∀ other ∈ others, depth other = 0) (s : Stream) :
    depth (joinedBefore s separator others) = depth s := by
  induction others generalizing s with
  | nil => rfl
  | cons other others ih =>
      rw [List.forall_mem_cons] at hothers
      have hrest := ih hothers.2 ((s.append other).add separator)
      rw [depth_add, depth_append, hothers.1, hseparator, Int.add_zero, Int.add_zero] at hrest
      exact hrest

/-- Joined items leave the depth as it was, if each of them does. -/
theorem depth_appendJoined {separator : Token} (hseparator : separator.levels = 0)
    {others : List Stream} (hothers : ∀ other ∈ others, depth other = 0) (s : Stream) :
    depth (s.appendJoined separator others) = depth s := by
  rcases List.eq_nil_or_concat others with rfl | ⟨others, last, rfl⟩
  · rfl
  · rw [List.concat_eq_append, List.forall_mem_append, List.forall_mem_singleton] at hothers
    rw [List.concat_eq_append, appendJoined_around, joinedAfter, depth_append,
      depth_joinedBefore hseparator hothers.1, hothers.2, Int.add_zero]

/-! ## Where a text ends -/

/-- The last token is a text that prints something. -/
def Ended (s : Stream) : Prop := ∃ text below, text ≠ "" ∧ s = .literal text :: below

/-- A stream ends like the one that is put on top of it. -/
theorem Ended.append {other : Stream} (h : Ended other) (s : Stream) : Ended (s.append other) := by
  obtain ⟨text, below, htext, rfl⟩ := h
  refine ⟨text, s.append below, htext, ?_⟩
  rw [Stream.append, List.reverse_cons, addAll_append]
  rfl

/-- Joined items end like the last of them. -/
theorem ended_appendJoined {others : List Stream} (hne : others ≠ [])
    (hothers : ∀ other ∈ others, other.Ended) (s : Stream) (separator : Token) :
    (s.appendJoined separator others).Ended := by
  rcases List.eq_nil_or_concat others with rfl | ⟨others, last, rfl⟩
  · exact absurd rfl hne
  · rw [List.concat_eq_append, List.forall_mem_append, List.forall_mem_singleton] at hothers
    rw [List.concat_eq_append, appendJoined_around]
    exact hothers.2.append _

/-- A new line before an empty line does nothing. -/
theorem Ended.add_emptyLine {s : Stream} (h : Ended s) :
    (s.add .newLine).add .emptyLine = s.add .emptyLine := by
  obtain ⟨text, below, -, rfl⟩ := h
  rfl

end Stream

@[simp] theorem Cursor.indent_toNewLine (c : Cursor) : c.toNewLine.indent = c.indent := by
  rw [Cursor.toNewLine]
  split <;> rfl

@[simp] theorem Cursor.indent_toEmptyLine (c : Cursor) : c.toEmptyLine.indent = c.indent := by
  rw [Cursor.toEmptyLine]
  split <;> rfl

/-- Printing goes on behind some tokens at the depth to which they lead. -/
theorem exists_printed (c : Cursor) (tokens : List Token) :
    ∃ (printed : List Char) (c' : Cursor), c'.indent = c.indent + Stream.depth tokens ∧
      ∀ rest, printChars c (tokens ++ rest) = printed ++ printChars c' rest := by
  induction tokens generalizing c with
  | nil => exact ⟨[], c, by simp, fun _ => rfl⟩
  | cons token tokens ih =>
      cases token with
      | literal text =>
          by_cases htext : text = ""
          · obtain ⟨printed, c', hindent, hprint⟩ := ih c
            refine ⟨printed, c', by simpa using hindent, fun rest => ?_⟩
            rw [List.cons_append, printChars, if_pos htext, hprint]
          · obtain ⟨printed, c', hindent, hprint⟩ := ih { c with gap := .none, spaces := 0 }
            refine ⟨c.before ++ text.toList ++ printed, c', by simpa using hindent,
              fun rest => ?_⟩
            rw [List.cons_append, printChars, if_neg htext, hprint, ← List.append_assoc]
      | space =>
          obtain ⟨printed, c', hindent, hprint⟩ := ih { c with spaces := c.spaces + 1 }
          exact ⟨printed, c', by simpa using hindent, hprint⟩
      | newLine =>
          obtain ⟨printed, c', hindent, hprint⟩ := ih c.toNewLine
          exact ⟨printed, c', by simpa using hindent, hprint⟩
      | emptyLine =>
          obtain ⟨printed, c', hindent, hprint⟩ := ih c.toEmptyLine
          exact ⟨printed, c', by simpa using hindent, hprint⟩
      | indent levels =>
          obtain ⟨printed, c', hindent, hprint⟩ :=
            ih { c.toNewLine with indent := c.indent + levels }
          exact ⟨printed, c', by simpa [Int.add_assoc] using hindent, hprint⟩

/-- **All that has been printed counts as one row**, whatever is in it. -/
theorem Stream.Ended.lays {s : Stream} (h : s.Ended) : ∃ row, Lays s [row] s.depth := by
  obtain ⟨text, below, htext, rfl⟩ := h
  obtain ⟨printed, c, hindent, hprint⟩ := exists_printed {} below.reverse
  have hdepth : c.indent = Stream.depth (.literal text :: below) := by
    rw [hindent]
    simp
  refine ⟨⟨false, 0, printed ++ c.before ++ text.toList⟩, ⟨text, below, rfl⟩, 0,
    printed ++ c.before ++ text.toList, by simp [rowsChars, Row.chars, margin], fun rest => ?_⟩
  rw [List.reverse_cons, List.append_assoc, hprint, List.singleton_append, printChars,
    if_neg htext, hdepth]
  simp only [List.append_assoc]

/-- The stream waits for a row at its depth. -/
def Waits (s : Stream) : Prop := ∃ row last blank, Awaits s [row] last s.depth blank

/-- A stream that waits goes on waiting behind a line break. -/
theorem Waits.add_newLine {s : Stream} (h : Waits s) : Waits (s.add .newLine) := by
  obtain ⟨row, last, blank, h⟩ := h
  have hdepth : (s.add .newLine).depth = s.depth := Stream.depth_addNewLine s
  rw [← hdepth] at h
  exact ⟨row, last, blank, h.add_newLine⟩

section

variable {s : Stream} (h : s.Ended)

include h

/-- Behind an empty line, a stream waits for a row. -/
theorem waits_emptyLine : Waits (s.add .emptyLine) := by
  obtain ⟨row, hlays⟩ := h.lays
  have hdepth : (s.add .emptyLine).depth = s.depth := Stream.depth_addEmptyLine s
  rw [Waits, hdepth]
  exact ⟨row, _, _, hlays.add_emptyLine⟩

theorem waits_indent {levels : Int} (hlevels : levels ≠ 0) : Waits (s.add (.indent levels)) := by
  obtain ⟨row, hlays⟩ := h.lays
  rw [Waits, Stream.depth_add]
  exact ⟨row, _, _, hlays.add_indent levels hlevels⟩

end

/-- Behind the items before another one, a stream waits as it waited before them. -/
theorem Waits.joinedBefore {s : Stream} (h : Waits s) {others : List Stream}
    (hothers : ∀ other ∈ others, other.Ended) : Waits (s.joinedBefore .emptyLine others) := by
  induction others generalizing s with
  | nil => exact h
  | cons other others ih =>
      rw [List.forall_mem_cons] at hothers
      exact ih (waits_emptyLine (hothers.1.append s)) hothers.2

end BehaviorTraits.Layout
