import BehaviorTraits.Json.Printer
import BehaviorTraits.Json.Reader
import Mathlib.Data.List.Basic

/-!
# Reading printed JSON

A value is printed on one line or over several lines.  Both are the same tokens with other blanks
between them (`spells_compactChars`, `spells_prettyChars`).  From the tokens of a value the reader
makes this value again, with the entries of every object in the order of their keys (`run_tokens`),
as long as no more arrays and objects are inside one another than may be open at once.

This is about values that are built of texts only; words would need something behind them to end.
-/

namespace BehaviorTraits.Json

/-- Built of texts, with at most so many arrays and objects inside one another. -/
inductive OfTexts : Nat → Json → Prop
  | str (room : Nat) (s : String) : OfTexts room (.str s)
  | arr {room : Nat} {items : List Json} (hitems : ∀ item ∈ items, OfTexts room item) :
      OfTexts (room + 1) (.arr items)
  | obj {room : Nat} {entries : List (String × Json)}
      (hentries : ∀ entry ∈ entries, OfTexts room entry.2) : OfTexts (room + 1) (.obj entries)

/-! ## Tokens of a value -/

mutual

/-- The tokens of a value. -/
def tokens : Json → List Token
  | str s => [.text s]
  | arr items => .openArray :: itemTokens items ++ [.closeArray]
  | obj entries => .openObject :: entryTokens entries ++ [.closeObject]
  | value => [.word value]

def itemTokens : List Json → List Token
  | [] => []
  | [item] => tokens item
  | item :: items => tokens item ++ .comma :: itemTokens items

def entryTokens : List (String × Json) → List Token
  | [] => []
  | [(key, value)] => .text key :: .colon :: tokens value
  | (key, value) :: entries => .text key :: .colon :: tokens value ++ .comma :: entryTokens entries

end

/-- Lists are printed with something between their members. -/
theorem eq_intercalate {α β : Type} {join : List α → List β} {print : α → List β} {sep : List β}
    (hnil : join [] = []) (hone : ∀ a, join [a] = print a)
    (hmore : ∀ a b rest, join (a :: b :: rest) = print a ++ sep ++ join (b :: rest)) :
    ∀ members, join members = sep.intercalate (members.map print)
  | [] => hnil.trans List.intercalate_nil.symm
  | [a] => (hone a).trans List.intercalate_singleton.symm
  | a :: b :: rest => by
      rw [hmore, eq_intercalate hnil hone hmore (b :: rest)]
      exact List.intercalate_cons_cons.symm

/-- The tokens of items have commas between them. -/
theorem itemTokens_eq (items : List Json) :
    itemTokens items = [Token.comma].intercalate (items.map tokens) := by
  refine eq_intercalate (by rw [itemTokens]) (fun item => by rw [itemTokens]) ?_ items
  intro item next items
  rw [itemTokens, List.append_assoc]
  · rfl
  · simp

theorem entryTokens_eq (entries : List (String × Json)) :
    entryTokens entries = [Token.comma].intercalate
      (entries.map fun entry => .text entry.1 :: .colon :: tokens entry.2) := by
  refine eq_intercalate (by rw [entryTokens]) (fun entry => by rw [entryTokens]) ?_ entries
  intro entry next entries
  rw [entryTokens, List.append_assoc]
  · rfl
  · simp

/-- Items on one line are written with commas between them. -/
theorem compactItems_eq (items : List Json) :
    compactItems items = [','].intercalate (items.map compactChars) := by
  refine eq_intercalate (by rw [compactItems]) (fun item => by rw [compactItems]) ?_ items
  intro item next items
  rw [compactItems, List.append_assoc]
  · rfl
  · simp

theorem compactEntries_eq (entries : List (String × Json)) :
    compactEntries entries = [','].intercalate
      (entries.map fun entry => quotedChars entry.1 ++ ':' :: compactChars entry.2) := by
  refine eq_intercalate (by rw [compactEntries]) (fun entry => by rw [compactEntries]) ?_ entries
  intro entry next entries
  rw [compactEntries]
  all_goals simp

/-- Items over several lines have a comma and a line break between them. -/
theorem prettyItems_eq (level : Nat) (items : List Json) :
    prettyItems level items =
      (',' :: newLine level).intercalate (items.map (prettyChars level)) := by
  refine eq_intercalate (by rw [prettyItems]) (fun item => by rw [prettyItems]) ?_ items
  intro item next items
  rw [prettyItems]
  all_goals simp

theorem prettyEntries_eq (level : Nat) (entries : List (String × Json)) :
    prettyEntries level entries = (',' :: newLine level).intercalate (entries.map fun entry =>
      quotedChars entry.1 ++ ':' :: ' ' :: prettyChars level entry.2) := by
  refine eq_intercalate (by rw [prettyEntries]) (fun entry => by rw [prettyEntries]) ?_ entries
  intro entry next entries
  rw [prettyEntries]
  all_goals simp

namespace Token

/-- A text is scanned character by character, and the tokens come in the same order. -/
theorem scan_cons (mode : Mode) (c : Char) (cs : List Char) :
    scan mode (c :: cs) = (step? mode c).bind fun p => (scan p.2 cs).map (p.1 ++ ·) := by
  rw [scan]
  cases step? mode c with
  | none => rfl
  | some p =>
      cases hscan : scan p.2 cs <;> simp [hscan]

/-- The characters are read as the tokens, whatever follows. -/
def Spells (cs : List Char) (tokens : List Token) : Prop :=
  ∀ rest, scan .between (cs ++ rest) = (scan .between rest).map (tokens ++ ·)

theorem spells_nil : Spells [] [] := by
  intro rest
  simp

/-- Texts that spell tokens can be put one behind the other. -/
theorem Spells.append {cs ds : List Char} {front back : List Token} (hcs : Spells cs front)
    (hds : Spells ds back) : Spells (cs ++ ds) (front ++ back) := by
  intro rest
  rw [List.append_assoc, hcs, hds, Option.map_map]
  simp [Function.comp_def]

/-- A mark or a blank is read at once. -/
theorem spells_char {c : Char} {read : List Token} (h : start? c = some (read, .between)) :
    Spells [c] read := by
  intro rest
  have hstep : step? .between c = some (read, .between) := h
  rw [List.cons_append, List.nil_append, scan_cons, hstep]
  rfl

/-- Blanks spell nothing. -/
theorem spells_blanks {cs : List Char} (h : ∀ c ∈ cs, isBlank c = true) : Spells cs [] := by
  induction cs with
  | nil => exact spells_nil
  | cons c cs ih =>
      have hc : start? c = some ([], .between) := if_pos (h c List.mem_cons_self)
      exact (spells_char hc).append (ih fun d hd => h d (List.mem_cons_of_mem _ hd))

theorem spells_newLine (level : Nat) : Spells (newLine level) [] := by
  refine spells_blanks fun c hc => ?_
  rcases List.mem_cons.mp hc with rfl | hc
  · decide
  · rw [List.eq_of_mem_replicate hc]
    decide

/-! ## Texts -/

/-- A character that only changes the mode is skipped. -/
theorem scan_step {mode next : Mode} {c : Char} (h : step? mode c = some ([], next))
    (cs : List Char) : scan mode (c :: cs) = scan next cs := by
  rw [scan_cons, h]
  simp

/-- A backslash inside a text begins an escape. -/
theorem step?_backslash (read : List Char) :
    step? (.inText read) '\\' = some ([], .escape read) := by
  simp [step?]

/-- An escape of one letter. -/
theorem scan_letter {letter meant : Char} (hletter : escape? letter = some meant)
    (hu : letter ≠ 'u') (read rest : List Char) :
    scan (.inText read) ('\\' :: letter :: rest) = scan (.inText (meant :: read)) rest := by
  have hstep : step? (.escape read) letter = some ([], .inText (meant :: read)) := by
    simp [step?, hu, hletter]
  rw [scan_step (step?_backslash read), scan_step hstep]

/-- The digits that are written are read. -/
theorem hexDigit?_digitChar : ∀ d < 16, hexDigit? (Nat.digitChar d) = some d := by
  decide

/-- A digit of a code point is taken in, if more are to come. -/
theorem scan_digit {d left : Nat} (hd : d < 16) (hleft : 1 < left) (read rest : List Char)
    (code : Nat) : scan (.digits read none left code) (Nat.digitChar d :: rest) =
      scan (.digits read none (left - 1) (code * 16 + d)) rest := by
  have hmore : ¬ left ≤ 1 := by omega
  refine scan_step ?_ rest
  simp [step?, hexDigit?_digitChar d hd, hmore]

/-- A control character, written by its code. -/
theorem scan_control {c : Char} (hc : c.toNat < 0x20) (read rest : List Char) :
    scan (.inText read) (['\\', 'u', '0', '0', Nat.digitChar (c.toNat / 16),
        Nat.digitChar (c.toNat % 16)] ++ rest) = scan (.inText (c :: read)) rest := by
  have hu : step? (.escape read) 'u' = some ([], .digits read none 4 0) := rfl
  have hlast : step? (.digits read none 1 (c.toNat / 16)) (Nat.digitChar (c.toNat % 16)) =
      some ([], .inText (c :: read)) := by
    have hcode : c.toNat / 16 * 16 + c.toNat % 16 = c.toNat := by omega
    have hleads : ¬ 0xD800 ≤ c.toNat := by omega
    have htrails : ¬ 0xDC00 ≤ c.toNat := by omega
    have hdigit : c.toNat % 16 < 16 := by omega
    simp [step?, hexDigit?_digitChar _ hdigit, hcode, afterDigits?, hleads, htrails]
  have hzero : '0' = Nat.digitChar 0 := rfl
  rw [List.cons_append, List.cons_append, List.cons_append, List.cons_append, List.cons_append,
    List.cons_append, List.nil_append, scan_step (step?_backslash read), scan_step hu, hzero,
    scan_digit (by decide) (by decide), scan_digit (by decide) (by decide),
    scan_digit (by omega) (by decide)]
  simpa using scan_step hlast rest

/-- **A character is read as it was.** -/
theorem scan_escapedChar (c : Char) (read rest : List Char) :
    scan (.inText read) (escapedChar c ++ rest) = scan (.inText (c :: read)) rest := by
  unfold escapedChar
  split
  · rename_i hself
    rcases hself with rfl | rfl
    · exact scan_letter rfl (by decide) read rest
    · exact scan_letter rfl (by decide) read rest
  · rename_i hself
    rw [not_or] at hself
    split_ifs with hnewLine hreturn htab hback hfeed hcontrol
    · exact hnewLine ▸ scan_letter rfl (by decide) read rest
    · exact hreturn ▸ scan_letter rfl (by decide) read rest
    · exact htab ▸ scan_letter rfl (by decide) read rest
    · exact hback ▸ scan_letter rfl (by decide) read rest
    · exact hfeed ▸ scan_letter rfl (by decide) read rest
    · exact scan_control hcontrol read rest
    · refine scan_step ?_ rest
      simp [step?, hself.1, hself.2, hcontrol]

/-- A text up to its closing quote. -/
theorem scan_text (cs : List Char) : ∀ read rest : List Char,
    scan (.inText read) (cs.flatMap escapedChar ++ '"' :: rest) =
      (scan .between rest).map ([text (String.ofList (read.reverse ++ cs))] ++ ·) := by
  induction cs with
  | nil =>
      intro read rest
      have hquote : step? (.inText read) '"' =
          some ([text (String.ofList read.reverse)], .between) := rfl
      rw [List.flatMap_nil, List.nil_append, scan_cons, hquote, List.append_nil]
      rfl
  | cons c cs ih =>
      intro read rest
      rw [List.flatMap_cons, List.append_assoc, scan_escapedChar, ih, List.reverse_cons,
        List.append_assoc]
      rfl

/-- **A quoted text spells that text**, whatever characters it has. -/
theorem spells_quotedChars (s : String) : Spells (quotedChars s) [text s] := by
  intro rest
  have hquote : step? .between '"' = some ([], .inText []) := rfl
  rw [quotedChars, List.cons_append, List.cons_append, scan_step hquote, List.append_assoc]
  have htext := scan_text s.toList [] rest
  rw [List.reverse_nil, List.nil_append, String.ofList_toList] at htext
  exact htext

/-! ## Values -/

/-- What is spelled piece by piece is spelled as a whole. -/
theorem spells_intercalate {α : Type} {print : α → List Char} {read : α → List Token}
    {sep : List Char} {mark : List Token} (hsep : Spells sep mark) :
    ∀ members : List α, (∀ a ∈ members, Spells (print a) (read a)) →
      Spells (sep.intercalate (members.map print)) (mark.intercalate (members.map read))
  | [], _ => by
      rw [List.map_nil, List.map_nil, List.intercalate_nil, List.intercalate_nil]
      exact spells_nil
  | [a], h => by
      rw [List.map_singleton, List.map_singleton, List.intercalate_singleton,
        List.intercalate_singleton]
      exact h a List.mem_cons_self
  | a :: b :: rest, h => by
      obtain ⟨ha, hrest⟩ := List.forall_mem_cons.mp h
      have hmore := (ha.append hsep).append (spells_intercalate hsep (b :: rest) hrest)
      rw [List.map_cons, List.map_cons] at hmore
      rw [List.map_cons, List.map_cons, List.map_cons, List.map_cons, List.intercalate_cons_cons,
        List.intercalate_cons_cons]
      exact hmore

theorem spells_comma : Spells [','] [comma] := spells_char rfl

theorem spells_colon : Spells [':'] [colon] := spells_char rfl

/-- Brackets make an array of what is between them. -/
theorem Spells.inArray {cs : List Char} {inner : List Token} (h : Spells cs inner) :
    Spells ('[' :: cs ++ [']']) (openArray :: inner ++ [closeArray]) := by
  have hopen : Spells ['['] [openArray] := spells_char rfl
  have hclose : Spells [']'] [closeArray] := spells_char rfl
  exact (hopen.append h).append hclose

/-- Braces make an object of it. -/
theorem Spells.inObject {cs : List Char} {inner : List Token} (h : Spells cs inner) :
    Spells ('\x7b' :: cs ++ ['\x7d']) (openObject :: inner ++ [closeObject]) := by
  have hopen : Spells ['\x7b'] [openObject] := spells_char rfl
  have hclose : Spells ['\x7d'] [closeObject] := spells_char rfl
  exact (hopen.append h).append hclose

/-- **The value on one line is its tokens.** -/
theorem spells_compactChars {room : Nat} {value : Json} (h : OfTexts room value) :
    Spells (compactChars value) (tokens value) := by
  induction h with
  | str room s =>
      rw [compactChars, scalarChars, tokens]
      · exact spells_quotedChars s
      all_goals simp
  | arr _ ih =>
      rw [compactChars, tokens, compactItems_eq, itemTokens_eq]
      exact (spells_intercalate spells_comma _ ih).inArray
  | obj _ ih =>
      rw [compactChars, tokens, compactEntries_eq, entryTokens_eq]
      refine (spells_intercalate spells_comma _ fun entry hentry => ?_).inObject
      exact (spells_quotedChars entry.1).append (spells_colon.append (ih entry hentry))

/-- Blanks around what is spelled. -/
theorem Spells.onLines {cs before behind : List Char} {inner : List Token} (h : Spells cs inner)
    (hbefore : Spells before []) (hbehind : Spells behind []) :
    Spells (before ++ cs ++ behind) inner := by
  have hlines := (hbefore.append h).append hbehind
  rwa [List.nil_append, List.append_nil] at hlines

/-- **The value over several lines is its tokens.** -/
theorem spells_prettyChars {room : Nat} {value : Json} (h : OfTexts room value) :
    ∀ level, Spells (prettyChars level value) (tokens value) := by
  have hsep : ∀ level, Spells (',' :: newLine level) [comma] := fun level =>
    spells_comma.append (spells_newLine level)
  have hblank : Spells [' '] [] := spells_char rfl
  induction h with
  | str room s =>
      intro level
      rw [prettyChars, scalarChars, tokens]
      · exact spells_quotedChars s
      all_goals simp
  | @arr room items _ ih =>
      intro level
      cases items with
      | nil =>
          rw [prettyChars, scalarChars, tokens, itemTokens]
          · exact spells_nil.inArray
          all_goals simp
      | cons item items =>
          rw [prettyChars, tokens, prettyItems_eq, itemTokens_eq]
          have hinner := (spells_intercalate (hsep (level + 1)) (item :: items) fun other hother =>
            ih other hother (level + 1)).onLines (spells_newLine (level + 1)) (spells_newLine level)
          simpa using hinner.inArray
  | @obj room entries _ ih =>
      intro level
      cases entries with
      | nil =>
          rw [prettyChars, scalarChars, tokens, entryTokens]
          · exact spells_nil.inObject
          all_goals simp
      | cons entry entries =>
          rw [prettyChars, tokens, prettyEntries_eq, entryTokens_eq]
          have hinner := (spells_intercalate (hsep (level + 1)) (entry :: entries)
            fun other hother => (spells_quotedChars other.1).append (spells_colon.append
              (hblank.append (ih other hother (level + 1))))).onLines
                (spells_newLine (level + 1)) (spells_newLine level)
          simpa using hinner.inObject

end Token

/-! ## Reading the tokens -/

mutual

/-- The value with the entries of its objects in the order of their keys, as a reader has them. -/
def sorted : Json → Json
  | arr items => arr (sortedItems items)
  | obj entries => obj (sortedEntries [] entries)
  | value => value

def sortedItems : List Json → List Json
  | [] => []
  | item :: items => sorted item :: sortedItems items

/-- The entries put one after the other among those that have been read. -/
def sortedEntries (read : List (String × Json)) : List (String × Json) → List (String × Json)
  | [] => read
  | (key, value) :: entries => sortedEntries (insertEntry key (sorted value) read) entries

end

/-- A token that is expected is taken in. -/
theorem run_cons {state next : Expecting} {token : Token} (h : next? state token = some next)
    (rest : List Token) : run state (token :: rest) = run next rest := by
  rw [run, h]
  · rfl

/-- With room for so many more open arrays and objects, the value is read from its tokens. -/
def ReadBack (room : Nat) (value : Json) : Prop :=
  ∀ (stack : List Frame) (rest : List Token), stack.length + room ≤ nestingLimit →
    run (.value stack) (tokens value ++ rest) = run (.more (sorted value) stack) rest

section Containers

variable {room : Nat} {stack : List Frame} (hroom : stack.length + 1 + room ≤ nestingLimit)
include hroom

/-- The items of an array and its end. -/
theorem run_items (rest : List Token) : ∀ (items : List Json) (item : Json) (read : List Json),
    (∀ value ∈ item :: items, ReadBack room value) →
      run (.value (.items read :: stack)) (itemTokens (item :: items) ++ .closeArray :: rest) =
        run (.more (.arr (read.reverse ++ sortedItems (item :: items))) stack) rest := by
  intro items
  induction items with
  | nil =>
      intro item read hitems
      have hclose : next? (.more (sorted item) (.items read :: stack)) .closeArray =
          some (.more (.arr (sorted item :: read).reverse) stack) := rfl
      rw [itemTokens, hitems item List.mem_cons_self (.items read :: stack) _ hroom,
        run_cons hclose, List.reverse_cons, sortedItems, sortedItems]
  | cons next items ih =>
      intro item read hitems
      obtain ⟨hitem, hrest⟩ := List.forall_mem_cons.mp hitems
      have htokens : itemTokens (item :: next :: items) =
          tokens item ++ .comma :: itemTokens (next :: items) := by
        rw [itemTokens]
        simp
      have hsorted : sortedItems (item :: next :: items) =
          sorted item :: sortedItems (next :: items) := by
        rw [sortedItems]
      let behind := itemTokens (next :: items) ++ .closeArray :: rest
      calc
        run (.value (.items read :: stack))
            (itemTokens (item :: next :: items) ++ .closeArray :: rest)
          = run (.value (.items read :: stack)) (tokens item ++ .comma :: behind) := by
            rw [htokens, List.append_assoc, List.cons_append]
        _ = run (.more (sorted item) (.items read :: stack)) (.comma :: behind) :=
            hitem (.items read :: stack) _ hroom
        _ = run (.value (.items (sorted item :: read) :: stack)) behind := run_cons rfl behind
        _ = run (.more (.arr ((sorted item :: read).reverse ++ sortedItems (next :: items))) stack)
              rest := ih next _ hrest
        _ = _ := by rw [hsorted, List.reverse_cons, List.append_assoc]; rfl

/-- The entries of an object and its end, where a key may come. -/
theorem run_entries (rest : List Token) :
    ∀ (entries : List (String × Json)) (entry : String × Json) (read : List (String × Json))
      (state : Expecting), (∀ key, next? state (.text key) = some (.colon read key stack)) →
      (∀ other ∈ entry :: entries, ReadBack room other.2) →
        run state (entryTokens (entry :: entries) ++ .closeObject :: rest) =
          run (.more (.obj (sortedEntries read (entry :: entries))) stack) rest := by
  intro entries
  induction entries with
  | nil =>
      rintro ⟨key, value⟩ read state hkey hentries
      have hcolon : next? (.colon read key stack) .colon =
          some (.value (.entries read key :: stack)) := rfl
      have hclose : next? (.more (sorted value) (.entries read key :: stack)) .closeObject =
          some (.more (.obj (insertEntry key (sorted value) read)) stack) := rfl
      rw [entryTokens, List.cons_append, List.cons_append, run_cons (hkey key), run_cons hcolon,
        hentries _ List.mem_cons_self (.entries read key :: stack) _ hroom, run_cons hclose,
        sortedEntries, sortedEntries]
  | cons next entries ih =>
      rintro ⟨key, value⟩ read state hkey hentries
      obtain ⟨hentry, hrest⟩ := List.forall_mem_cons.mp hentries
      have htokens : entryTokens ((key, value) :: next :: entries) =
          .text key :: .colon :: (tokens value ++ .comma :: entryTokens (next :: entries)) := by
        rw [entryTokens]
        all_goals simp
      have hsorted : sortedEntries read ((key, value) :: next :: entries) =
          sortedEntries (insertEntry key (sorted value) read) (next :: entries) := by
        rw [sortedEntries]
      let behind := entryTokens (next :: entries) ++ .closeObject :: rest
      calc
        run state (entryTokens ((key, value) :: next :: entries) ++ .closeObject :: rest)
          = run state (.text key :: .colon :: (tokens value ++ .comma :: behind)) := by
            rw [htokens, List.cons_append, List.cons_append, List.append_assoc, List.cons_append]
        _ = run (.colon read key stack) (.colon :: (tokens value ++ .comma :: behind)) :=
            run_cons (hkey key) _
        _ = run (.value (.entries read key :: stack)) (tokens value ++ .comma :: behind) :=
            run_cons rfl _
        _ = run (.more (sorted value) (.entries read key :: stack)) (.comma :: behind) :=
            hentry (.entries read key :: stack) _ hroom
        _ = run (.key (insertEntry key (sorted value) read) stack) behind := run_cons rfl behind
        _ = _ := by rw [ih next _ _ (fun _ => rfl) hrest, hsorted]

end Containers

/-- Where an array may end, a value begins its first item. -/
theorem run_firstItem {room : Nat} {value : Json} (h : OfTexts room value) (stack : List Frame)
    (rest : List Token) : run (.firstItem stack) (tokens value ++ rest) =
      run (.value (.items [] :: stack)) (tokens value ++ rest) := by
  cases h with
  | str => simp only [tokens, List.cons_append, run, next?]
  | arr => simp only [tokens, List.cons_append, run, next?]
  | obj => simp only [tokens, List.cons_append, run, next?]

/-- The tokens of items begin with those of the first one. -/
theorem exists_itemTokens (item : Json) (items : List Json) :
    ∃ more, itemTokens (item :: items) = tokens item ++ more := by
  cases items with
  | nil => exact ⟨[], by rw [itemTokens, List.append_nil]⟩
  | cons next items =>
      refine ⟨.comma :: itemTokens (next :: items), ?_⟩
      rw [itemTokens]
      simp

/-- **A value is read from its tokens**, whatever follows and whatever is open, if there is room. -/
theorem run_tokens {room : Nat} {value : Json} (h : OfTexts room value) : ReadBack room value := by
  induction h with
  | str room s =>
      intro stack rest _
      rw [tokens, sorted]
      · exact run_cons rfl rest
      all_goals simp
  | @arr room items hitems ih =>
      intro stack rest hroom
      have hopen : next? (.value stack) .openArray = some (.firstItem stack) :=
        if_pos (by omega)
      rw [tokens, sorted, List.append_assoc, List.cons_append, run_cons hopen]
      cases items with
      | nil =>
          rw [itemTokens, sortedItems]
          exact run_cons rfl rest
      | cons item items =>
          -- behind the bracket the array might end, but a value never begins with its end
          have hfirst : run (.firstItem stack) (itemTokens (item :: items) ++ .closeArray :: rest) =
              run (.value (.items [] :: stack))
                (itemTokens (item :: items) ++ .closeArray :: rest) := by
            obtain ⟨more, hmore⟩ := exists_itemTokens item items
            rw [hmore, List.append_assoc]
            exact run_firstItem (hitems item List.mem_cons_self) stack _
          exact hfirst.trans (run_items (by omega) rest items item [] ih)
  | @obj room entries _ ih =>
      intro stack rest hroom
      have hopen : next? (.value stack) .openObject = some (.firstKey stack) :=
        if_pos (by omega)
      rw [tokens, sorted, List.append_assoc, List.cons_append, run_cons hopen]
      cases entries with
      | nil =>
          rw [entryTokens, sortedEntries]
          exact run_cons rfl rest
      | cons entry entries =>
          exact run_entries (by omega) rest entries entry [] _ (fun _ => rfl) ih

/-- What is read from a text that spells a value. -/
theorem parse?_of_spells {value : Json} (h : OfTexts nestingLimit value) {cs : List Char}
    (hcs : Token.Spells cs (tokens value)) : parse? (String.ofList cs) = some (sorted value) := by
  have hscan := hcs []
  have hrun := run_tokens h [] [] (Nat.le_of_eq (Nat.zero_add _))
  rw [List.append_nil] at hscan
  rw [parse?, String.toList_ofList, hscan]
  exact hrun

/-- **Reading what was printed**, on one line or over several. -/
theorem parse?_compact {value : Json} (h : OfTexts nestingLimit value) :
    parse? value.compact = some (sorted value) :=
  parse?_of_spells h (Token.spells_compactChars h)

/-- **A value over several lines is read back**, with the entries of its objects in order. -/
theorem parse?_pretty {value : Json} (h : OfTexts nestingLimit value) :
    parse? value.pretty = some (sorted value) :=
  parse?_of_spells h (Token.spells_prettyChars h 0)

end BehaviorTraits.Json
