import BehaviorTraits.Layout

/-!
# Streams of tokens

White space collapses as tokens are added to a stream, but never across a literal (`adds_add`).  So
what stands below a literal does not matter for what is added above it (`Adds.above`).  A stream
that begins with a literal and in which nothing is left to collapse is put on top of another one as
it is (`Normal.append_eq`), and adding to it commutes with putting it there (`Adds.append_apply`).
This lets a stream that was put together from parts be read as if its tokens had been added one by
one from the start.
-/

namespace BehaviorTraits.Layout.Stream

/-- Tokens are added from the first one on. -/
theorem addAll_cons (s : Stream) (token : Token) (tokens : List Token) :
    s.addAll (token :: tokens) = (s.add token).addAll tokens := rfl

/-- Tokens can be added in two goes. -/
theorem addAll_append (s : Stream) (first second : List Token) :
    s.addAll (first ++ second) = (s.addAll first).addAll second :=
  List.foldl_append

/-! ## A literal as floor -/

/-- The function only adds to a stream: a literal in the stream is a floor, on which it adds as it
would with nothing below. -/
def Adds (f : Stream → Stream) : Prop :=
  ∀ (t s : Stream) (text : String), f (t ++ .literal text :: s) = f t ++ .literal text :: s

/-- What only adds to a stream does so in any composition. -/
theorem Adds.comp {f g : Stream → Stream} (hf : Adds f) (hg : Adds g) : Adds fun s => f (g s) :=
  fun t s text => (congrArg f (hg t s text)).trans (hf (g t) s text)

/-- A line break collapses with what stands on the floor, and not below. -/
theorem adds_newLine : Adds addNewLine := by
  intro t s text
  induction t with
  | nil => rfl
  | cons token t ih =>
      cases token with
      | space | newLine => exact ih
      | literal _ | emptyLine | indent _ => rfl

theorem adds_emptyLine : Adds addEmptyLine := by
  intro t s text
  induction t with
  | nil => rfl
  | cons token t ih =>
      cases token with
      | newLine | emptyLine => exact ih
      | literal _ | space | indent _ => rfl

theorem adds_indent (levels : Int) : Adds (addIndent levels) := by
  intro t s text
  induction t generalizing levels with
  | nil => by_cases hzero : levels = 0 <;> simp [addIndent, hzero]
  | cons token t ih =>
      cases token with
      | space | newLine | emptyLine => exact ih levels
      | indent n => exact ih (levels + n)
      | literal _ => by_cases hzero : levels = 0 <;> simp [addIndent, hzero]

theorem adds_space : Adds addSpace := by
  intro t s text
  cases t with
  | nil => rfl
  | cons token t => cases token <;> rfl

/-- **Nothing collapses across a literal.** -/
theorem adds_add (token : Token) : Adds (·.add token) := by
  cases token with
  | literal _ => exact fun _ _ _ => rfl
  | space => exact adds_space
  | newLine => exact adds_newLine
  | emptyLine => exact adds_emptyLine
  | indent levels => exact adds_indent levels

/-- **Adding tokens only adds to a stream.** -/
theorem adds_addAll (tokens : List Token) : Adds (·.addAll tokens) := by
  induction tokens with
  | nil => exact fun _ _ _ => rfl
  | cons token tokens ih => exact ih.comp (adds_add token)

theorem adds_append (other : Stream) : Adds (·.append other) := adds_addAll other.reverse

theorem adds_appendJoined (separator : Token) (others : List Stream) :
    Adds (·.appendJoined separator others) := by
  induction others with
  | nil => exact fun _ _ _ => rfl
  | cons other others ih =>
      cases others with
      | nil => exact adds_append other
      | cons next others => exact (ih.comp (adds_add separator)).comp (adds_append other)

/-- There is a literal in the stream. -/
def Solid (s : Stream) : Prop := ∃ text, Token.literal text ∈ s

theorem solid_literal (text : String) (s : Stream) : Solid (.literal text :: s) :=
  ⟨text, List.mem_cons_self⟩

theorem Solid.cons {s : Stream} (h : Solid s) (token : Token) : Solid (token :: s) := by
  obtain ⟨text, hmem⟩ := h
  exact ⟨text, List.mem_cons_of_mem token hmem⟩

/-- What stands below a literal does not matter for what is added above it. -/
theorem Adds.above {f : Stream → Stream} (hf : Adds f) {u : Stream} (hu : Solid u) (s : Stream) :
    f (u ++ s) = f u ++ s := by
  obtain ⟨text, hmem⟩ := hu
  obtain ⟨top, bottom, rfl⟩ := List.append_of_mem hmem
  rw [List.append_assoc, List.cons_append, hf, hf, List.append_assoc, List.cons_append]

/-! ## Normal streams -/

/-- The stream begins with a literal, and adding its tokens once more one by one would collapse
nothing. -/
inductive Normal : Stream → Prop
  | literal (text : String) : Normal [.literal text]
  | cons {s : Stream} {token : Token} (hs : Normal s) (hadd : Stream.add s token = token :: s) :
      Normal (token :: s)

namespace Normal

/-- A normal stream has a literal in it, as it begins with one. -/
theorem solid {s : Stream} (h : Normal s) : Solid s := by
  induction h with
  | literal text => exact solid_literal text []
  | cons _ _ ih => exact ih.cons _

/-- A line break keeps a stream normal. -/
theorem addNewLine {s : Stream} (h : Normal s) : Normal (Stream.addNewLine s) := by
  induction h with
  | literal text => exact .cons (.literal text) rfl
  | @cons s token hs hadd ih =>
      cases token with
      | literal text => exact .cons (.cons hs hadd) rfl
      | space => exact ih
      | newLine => exact ih
      | emptyLine => exact .cons hs hadd
      | indent n => exact .cons (.cons hs hadd) rfl

theorem addEmptyLine {s : Stream} (h : Normal s) : Normal (Stream.addEmptyLine s) := by
  induction h with
  | literal text => exact .cons (.literal text) rfl
  | @cons s token hs hadd ih =>
      cases token with
      | literal text => exact .cons (.cons hs hadd) rfl
      | space => exact .cons (.cons hs hadd) rfl
      | newLine => exact ih
      | emptyLine => exact ih
      | indent n => exact .cons (.cons hs hadd) rfl

theorem addIndent {s : Stream} (h : Normal s) (levels : Int) :
    Normal (Stream.addIndent levels s) := by
  have hliteral : ∀ (text : String) (s : Stream) (levels : Int), Normal (.literal text :: s) →
      Normal (Stream.addIndent levels (.literal text :: s)) := by
    intro text s levels hs
    by_cases hzero : levels = 0
    · simpa only [Stream.addIndent, if_pos hzero] using hs
    · simp only [Stream.addIndent, if_neg hzero]
      exact .cons hs (by simp only [add, Stream.addIndent, if_neg hzero])
  induction h generalizing levels with
  | literal text => exact hliteral text [] levels (.literal text)
  | @cons s token hs hadd ih =>
      cases token with
      | literal text => exact hliteral text s levels (.cons hs hadd)
      | space => exact ih levels
      | newLine => exact ih levels
      | emptyLine => exact ih levels
      | indent n => exact ih (levels + n)

theorem addSpace {s : Stream} (h : Normal s) : Normal (Stream.addSpace s) := by
  cases h with
  | literal text => exact .cons (.literal text) rfl
  | @cons s token hs hadd =>
      cases token with
      | space => exact .cons hs hadd
      | literal text => exact .cons (.cons hs hadd) rfl
      | newLine => exact .cons (.cons hs hadd) rfl
      | emptyLine => exact .cons (.cons hs hadd) rfl
      | indent n => exact .cons (.cons hs hadd) rfl

/-- Adding keeps a stream normal. -/
theorem add {s : Stream} (h : Normal s) (token : Token) : Normal (s.add token) := by
  cases token with
  | literal text => exact .cons h rfl
  | space => exact h.addSpace
  | newLine => exact h.addNewLine
  | emptyLine => exact h.addEmptyLine
  | indent levels => exact h.addIndent levels

theorem addAll {s : Stream} (h : Normal s) (tokens : List Token) : Normal (s.addAll tokens) := by
  induction tokens generalizing s with
  | nil => exact h
  | cons token tokens ih => exact ih (h.add token)

theorem append {s : Stream} (h : Normal s) (other : Stream) : Normal (s.append other) :=
  h.addAll other.reverse

theorem appendJoined {s : Stream} (h : Normal s) (separator : Token) (others : List Stream) :
    Normal (s.appendJoined separator others) := by
  induction others generalizing s with
  | nil => exact h
  | cons other others ih =>
      cases others with
      | nil => exact h.append other
      | cons next others => exact ih ((h.append other).add separator)

/-- **A normal stream is put on top of another as it is.** -/
theorem append_eq {u : Stream} (h : Normal u) (s : Stream) : s.append u = u ++ s := by
  induction h with
  | literal text => rfl
  | @cons u token hu hadd ih =>
      have hlast : s.append (token :: u) = (s.append u).add token := by
        rw [Stream.append, List.reverse_cons, addAll_append]
        rfl
      have habove := (adds_add token).above hu.solid s
      rw [hlast, ih, habove, hadd, List.cons_append]

end Normal

/-- **Adding to a part** comes to the same as adding to the whole. -/
theorem Adds.append_apply {f : Stream → Stream} (hf : Adds f) {u : Stream} (hu : Normal u)
    (hfu : Normal (f u)) (s : Stream) : s.append (f u) = f (s.append u) := by
  rw [hfu.append_eq, hu.append_eq, hf.above hu.solid]

section

variable {u : Stream} (hu : Normal u) (s : Stream)

include hu

/-- A token may be added to the part before it is put on top of the whole. -/
theorem append_add (token : Token) : s.append (u.add token) = (s.append u).add token :=
  (adds_add token).append_apply hu (hu.add token) s

theorem append_addAll (tokens : List Token) :
    s.append (u.addAll tokens) = (s.append u).addAll tokens :=
  (adds_addAll tokens).append_apply hu (hu.addAll tokens) s

theorem append_append (other : Stream) : s.append (u.append other) = (s.append u).append other :=
  append_addAll hu s other.reverse

theorem append_appendJoined (separator : Token) (others : List Stream) :
    s.append (u.appendJoined separator others) = (s.append u).appendJoined separator others :=
  (adds_appendJoined separator others).append_apply hu (hu.appendJoined separator others) s

end

/-- Tokens that begin with a literal can be gathered before they are added. -/
theorem append_gathered (s : Stream) (text : String) (tokens : List Token) :
    s.append (addAll [] (.literal text :: tokens)) = s.addAll (.literal text :: tokens) :=
  append_addAll (.literal text) s tokens

/-- Changes of the indentation add up. -/
theorem addIndent_addIndent (a b : Int) (s : Stream) :
    addIndent a (addIndent b s) = addIndent (a + b) s := by
  -- where the walk down the stream ends, the sum so far is left or vanishes
  have hend : ∀ (b : Int) (s : Stream), (∀ c, addIndent c s = if c = 0 then s else .indent c :: s) →
      addIndent a (addIndent b s) = addIndent (a + b) s := by
    intro b s hs
    by_cases hzero : b = 0
    · rw [hs b, if_pos hzero, hzero, Int.add_zero]
    · rw [hs b, if_neg hzero]
      rfl
  induction s generalizing b with
  | nil => exact hend b [] fun c => rfl
  | cons token s ih =>
      cases token with
      | literal text => exact hend b _ fun c => rfl
      | space => exact ih b
      | newLine => exact ih b
      | emptyLine => exact ih b
      | indent n =>
          have hsum := ih (b + n)
          rw [← Int.add_assoc] at hsum
          exact hsum

end BehaviorTraits.Layout.Stream
