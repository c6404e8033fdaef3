import SemanticLayer.Yaml.Token.Scan
import SemanticLayer.Proofs.Yaml.Quoted
import SemanticLayer.Proofs.Yaml.PlainText
import SemanticLayer.Proofs.Yaml.Blocks

/-! The rounds of the walk over a text in block style, one lemma for each piece that the writer puts
down: the gap before a token, the end of a block, a dash, a key with its colon, a scalar and an empty
sequence. Each lemma leads from one place between tokens to the next one. -/
namespace SemanticLayer.Yaml

/-! ### Styles -/

/-- What a text is like that is written in a style. -/
def Style.Fits (value : String) : Style → Prop
  | .plain => Plain.resolve value = .str ∧ plainAllowed value.toList = true
  | .single => '\n' ∉ value.toList ∧ singleAllowed value.toList = true
  | .literal => literalAllowed value.toList = true
  | .double => True
  | .folded => False

theorem styleOf_fits (value : String) : Style.Fits value (styleOf value) := by
  by_cases feed : value.toList.contains '\n' = true
  · by_cases literal : literalAllowed value.toList = true
    · simp only [styleOf, feed, literal]
      exact literal
    · simp only [styleOf, feed, literal]
      trivial
  · by_cases plain : (!Plain.isAmbiguous value && plainAllowed value.toList) = true
    · have facts := plain
      simp only [Bool.and_eq_true, Bool.not_eq_true', Plain.isAmbiguous, Bool.or_eq_false_iff,
        bne_eq_false_iff_eq] at facts
      simp only [styleOf, feed, plain]
      exact ⟨facts.1.1, facts.2⟩
    · by_cases single : singleAllowed value.toList = true
      · simp only [styleOf, feed, plain, single]
        exact ⟨by simpa using feed, single⟩
      · simp only [styleOf, feed, plain, single]
        trivial

namespace Scan

/-! ### Runs -/

/-- What a round does before it takes its token: it steps over what stands before the token, and
closes the blocks that end there. -/
def settle (s : Scan) : Except Fault Scan := do
  let s := toNextToken s.cursor.rest s
  let s ← s.dropStaleKeys
  return s.closeBlocks s.cursor.mark.column

/-- A round on a state that is settled. -/
def round (fuel : Nat) (s : Scan) : Except Fault (List Token) :=
  match s.cursor.rest with
  | [] => do return (← s.finish).tokens.reverse
  | x :: rest => do run fuel (← s.next x rest)

theorem run_succ (fuel : Nat) (s : Scan) : run (fuel + 1) s = s.settle >>= round fuel := by
  simp only [run, settle, bind_assoc, pure_bind]
  rfl

/-- The walk comes from one state to another, in at most as many rounds as it takes characters. -/
def Leads (s t : Scan) : Prop :=
  ∃ rounds, t.cursor.rest.length + rounds ≤ s.cursor.rest.length ∧
    ∀ fuel, run (fuel + 1 + rounds) s = run (fuel + 1) t

theorem leads_trans {s t u : Scan} (first : Leads s t) (second : Leads t u) : Leads s u := by
  obtain ⟨before, beforeBound, beforeRun⟩ := first
  obtain ⟨after, afterBound, afterRun⟩ := second
  refine ⟨after + before, by omega, fun fuel => ?_⟩
  have together : fuel + 1 + (after + before) = fuel + after + 1 + before := by omega
  rw [together, beforeRun, Nat.add_right_comm, afterRun]

theorem settle_congr {s t : Scan}
    (same : toNextToken s.cursor.rest s = toNextToken t.cursor.rest t) : s.settle = t.settle := by
  simp only [settle, same]

/-- States that settle in the same way are as good as equal. -/
theorem leads_settle {s t : Scan} (same : s.settle = t.settle)
    (shorter : t.cursor.rest.length ≤ s.cursor.rest.length) : Leads s t :=
  ⟨0, by omega, fun fuel => by rw [Nat.add_zero, run_succ, run_succ, same]⟩

theorem leads_round {s settled t : Scan} {x : Char} {rest : List Char}
    (settles : s.settle = .ok settled) (going : settled.cursor.rest = x :: rest)
    (next : settled.next x rest = .ok t) (shorter : t.cursor.rest.length < s.cursor.rest.length) :
    Leads s t := by
  refine ⟨1, by omega, fun fuel => ?_⟩
  rw [run_succ, settles]
  simp [bind, Except.bind, round, going, next]

/-- The walk comes from a state to one of a kind. -/
def Reaches (s : Scan) (kind : Scan → Prop) : Prop := ∃ t, Leads s t ∧ kind t

theorem Reaches.bind {s : Scan} {kind other : Scan → Prop} (first : Reaches s kind)
    (second : ∀ t, kind t → Reaches t other) : Reaches s other := by
  obtain ⟨t, leads, isKind⟩ := first
  obtain ⟨u, further, isOther⟩ := second t isKind
  exact ⟨u, leads_trans leads further, isOther⟩

/-! ### Places between tokens -/

/-- A place between tokens in a block: what is left of the text and the column where it starts, the
columns of the blocks, and the tokens before it, the last first. The key that may have started before
it is not one that is needed. -/
inductive At (allowed : Bool) (rest : List Char) (column : Nat) (block : Int) (outer : List Int)
    (before : List Lexeme) : Scan → Prop
  | place {mark : Mark} {key : Option KeyStart} {tokens : List Token}
      (stands : mark.column = column) (loose : ∀ k ∈ key, k.required = false)
      (read : tokens.map (·.lexeme) = before) :
      At allowed rest column block outer before
        ⟨⟨rest, mark⟩, 0, block, outer, allowed, [key], tokens⟩

section Places
variable {s : Scan} {allowed : Bool} {text rest fuel : List Char} {column depth : Nat}
  {block parent : Int} {outer : List Int} {before : List Lexeme} {mark : Mark}
  {key : Option KeyStart} {tokens : List Token}

/-- Spaces before a token are stepped over, and nothing of the token. -/
theorem toNextToken_spaces (count : Nat) (opens : Opens rest) (enough : count ≤ fuel.length) :
    toNextToken fuel
      ⟨⟨indentation count ++ rest, mark⟩, 0, block, outer, allowed, [key], tokens⟩ =
      ⟨⟨rest, mark.forward count⟩, 0, block, outer, allowed, [key], tokens⟩ := by
  cases fuel with
  | nil =>
    obtain rfl : count = 0 := by simpa using enough
    rfl
  | cons _ fuel =>
    have stop (tabs : Bool) : rest.head?.any (fun x => x = ' ' || (tabs && x = '\t')) = false := by
      refine opens_none opens fun x blank => .inl ?_
      simp only [Bool.or_eq_true, Bool.and_eq_true, decide_eq_true_eq] at blank
      rcases blank with rfl | ⟨_, rfl⟩ <;> rfl
    have skipped (tabs : Bool) :
        Cursor.skipWhile (fun x => x = ' ' || (tabs && x = '\t')) ⟨indentation count ++ rest, mark⟩ =
          ⟨rest, mark.forward (indentation count).length⟩ :=
      Cursor.skipWhile_append (fun x member => by simp [mem_indentation member]) (stop tabs) mark
    have noSign (m : Mark) : Cursor.at? (· = '#') ⟨rest, m⟩ = false := by
      rw [Cursor.at?_eq]
      exact opens_none opens fun x sign => .inr (by simpa using sign)
    have noBreak (m : Mark) : Cursor.at? isBreak ⟨rest, m⟩ = false := by
      rw [Cursor.at?_eq]
      exact opens_none opens fun x breaks => .inl (by rw [isSpacing, breaks, Bool.or_true])
    simp [toNextToken, skipped, noSign, noBreak]

theorem toNextToken_stop (opens : Opens rest) :
    toNextToken fuel ⟨⟨rest, mark⟩, 0, block, outer, allowed, [key], tokens⟩ =
      ⟨⟨rest, mark⟩, 0, block, outer, allowed, [key], tokens⟩ :=
  toNextToken_spaces 0 opens (Nat.zero_le _)

/-- At the end of a line the walk goes to the token on the next one, and a key may start there. -/
theorem toNextToken_line (opens : Opens rest) (enough : depth < fuel.length) :
    toNextToken fuel
      ⟨⟨'\n' :: (indentation depth ++ rest), mark⟩, 0, block, outer, allowed, [key], tokens⟩ =
      ⟨⟨rest, (mark.nextLine 1).forward depth⟩, 0, block, outer, true, [key], tokens⟩ := by
  cases fuel with
  | nil => simp at enough
  | cons _ fuel =>
    have feed : isBreak '\n' = true := rfl
    simp [toNextToken, Cursor.skipWhile, Cursor.span, feed, lineBreak_printable (x := '\n') rfl rfl,
      toNextToken_spaces depth opens (Nat.le_of_lt_succ enough)]

/-! ### Between tokens -/

theorem at_space (place : At allowed (' ' :: rest) column block outer before s) (opens : Opens rest) :
    Reaches s (At allowed rest (column + 1) block outer before) := by
  obtain @⟨mark, key, tokens, stands, loose, read⟩ := place
  refine ⟨⟨⟨rest, mark.forward 1⟩, 0, block, outer, allowed, [key], tokens⟩,
    leads_settle (settle_congr ?_) (by simp), .place (by simp [stands]) loose read⟩
  exact (toNextToken_spaces 1 opens (by simp)).trans (toNextToken_stop opens).symm

theorem at_line (place : At allowed ('\n' :: (indentation depth ++ rest)) column block outer before s)
    (opens : Opens rest) : Reaches s (At true rest depth block outer before) := by
  obtain @⟨mark, key, tokens, stands, loose, read⟩ := place
  have enough : depth < ('\n' :: (indentation depth ++ rest)).length := by
    simp only [List.length_cons, List.length_append, indentation_length]
    omega
  refine ⟨⟨⟨rest, (mark.nextLine 1).forward depth⟩, 0, block, outer, true, [key], tokens⟩,
    leads_settle (settle_congr ?_) ?_, .place (by simp) loose read⟩
  · exact (toNextToken_line opens enough).trans (toNextToken_stop opens).symm
  · simp only [List.length_cons, List.length_append]
    omega

/-- A place for a key, unless it is on an earlier line or too far back. -/
def unlessStale (mark : Mark) (key : Option KeyStart) : Option KeyStart :=
  key.filter fun k => mark.line ≤ k.mark.line ∧ mark.index ≤ k.mark.index + 1024

theorem unlessStale_loose (mark : Mark) (loose : ∀ k ∈ key, k.required = false) :
    ∀ k ∈ unlessStale mark key, k.required = false :=
  fun k member => loose k (Option.mem_filter_iff.mp member).1

theorem mapM_ok {α β : Type} {f : α → Except Fault β} {g : α → β} {xs : List α}
    (all : ∀ x ∈ xs, f x = .ok (g x)) : xs.mapM f = .ok (xs.map g) := by
  induction xs with
  | nil => rfl
  | cons x xs ih =>
    obtain ⟨here, later⟩ := List.forall_mem_cons.mp all
    rw [List.mapM_cons, here, ih later]
    rfl

theorem dropStaleKeys_all {s : Scan} (loose : ∀ key ∈ s.keys, ∀ k ∈ key, k.required = false) :
    s.dropStaleKeys = .ok { s with keys := s.keys.map (unlessStale s.cursor.mark) } := by
  simp only [dropStaleKeys]
  rw [mapM_ok (g := unlessStale s.cursor.mark) fun key member => ?_]
  · rfl
  cases key with
  | none => rfl
  | some k =>
    by_cases stale : k.mark.line < s.cursor.mark.line ∨ k.mark.index + 1024 < s.cursor.mark.index
    · have gone : unlessStale s.cursor.mark (some k) = none := by
        rw [unlessStale, Option.filter_some, if_neg (by simpa using fun line => by omega)]
      simp [gone, stale, loose _ member k rfl]
    · have stays : unlessStale s.cursor.mark (some k) = some k := by
        rw [unlessStale, Option.filter_some, if_pos (by simp; omega)]
      simp [stays, stale]

theorem dropStaleKeys_loose (loose : ∀ k ∈ key, k.required = false) :
    dropStaleKeys ⟨⟨rest, mark⟩, 0, block, outer, allowed, [key], tokens⟩ =
      .ok ⟨⟨rest, mark⟩, 0, block, outer, allowed, [unlessStale mark key], tokens⟩ :=
  dropStaleKeys_all (by simpa using loose)

/-- Closing blocks looks at nothing but the cursor and the blocks. -/
theorem closeBlocks_go_congr {s t : Scan} (same : s.cursor = t.cursor) (column innermost : Int)
    (outer : List Int) (tokens : List Token) :
    closeBlocks.go s column innermost outer tokens = closeBlocks.go t column innermost outer tokens := by
  induction outer generalizing innermost tokens with
  | nil => rfl
  | cons next outer ih => simp only [closeBlocks.go, same, ih]

theorem closeBlocks_right {left : Int} (right : left < block) :
    closeBlocks ⟨⟨rest, mark⟩, 0, block, parent :: outer, allowed, [key], tokens⟩ left =
      closeBlocks ⟨⟨rest, mark⟩, 0, parent, outer, allowed, [key], ⟨.blockEnd, mark, mark⟩ :: tokens⟩
        left := by
  have same := closeBlocks_go_congr
    (s := ⟨⟨rest, mark⟩, 0, block, parent :: outer, allowed, [key], tokens⟩)
    (t := ⟨⟨rest, mark⟩, 0, parent, outer, allowed, [key], ⟨.blockEnd, mark, mark⟩ :: tokens⟩)
    rfl left parent outer (⟨.blockEnd, mark, mark⟩ :: tokens)
  simp [closeBlocks, closeBlocks.go, right, same]

theorem closeBlocks_here {left : Int} (here : block ≤ left) :
    closeBlocks ⟨⟨rest, mark⟩, 0, block, outer, allowed, [key], tokens⟩ left =
      ⟨⟨rest, mark⟩, 0, block, outer, allowed, [key], tokens⟩ := by
  have notRight : ¬left < block := by omega
  cases outer <;> simp [closeBlocks, closeBlocks.go, notRight]

/-- A block ends where the text goes on left of it. -/
theorem at_end (place : At allowed rest column block (parent :: outer) before s) (opens : Opens rest)
    (right : (column : Int) < block) :
    Reaches s (At allowed rest column parent outer (.blockEnd :: before)) := by
  obtain @⟨mark, key, tokens, stands, loose, read⟩ := place
  refine ⟨⟨⟨rest, mark⟩, 0, parent, outer, allowed, [key], ⟨.blockEnd, mark, mark⟩ :: tokens⟩,
    leads_settle ?_ le_rfl, .place stands loose (by simp [read])⟩
  simp only [settle, toNextToken_stop opens, dropStaleKeys_loose loose]
  exact congrArg Except.ok (closeBlocks_right (stands ▸ right))

/-- What is settled at a token that belongs to the innermost block. -/
theorem settle_here (opens : Opens rest) (loose : ∀ k ∈ key, k.required = false)
    (here : block ≤ mark.column) :
    settle ⟨⟨rest, mark⟩, 0, block, outer, allowed, [key], tokens⟩ =
      .ok ⟨⟨rest, mark⟩, 0, block, outer, allowed, [unlessStale mark key], tokens⟩ := by
  simp only [settle, toNextToken_stop opens, dropStaleKeys_loose loose]
  exact congrArg Except.ok (closeBlocks_here here)

/-- A round takes a token from one place to the next. -/
theorem at_round {x : Char} {kind : Scan → Prop}
    (place : At allowed (x :: rest) column block outer before s) (opens : Opens (x :: rest))
    (here : block ≤ column)
    (step : ∀ t, At allowed (x :: rest) column block outer before t →
      ∃ u, t.next x rest = .ok u ∧ u.cursor.rest.length ≤ rest.length ∧ kind u) :
    Reaches s kind := by
  obtain @⟨mark, key, tokens, stands, loose, read⟩ := place
  obtain ⟨u, next, shorter, isKind⟩ := step
    ⟨⟨x :: rest, mark⟩, 0, block, outer, allowed, [unlessStale mark key], tokens⟩
    (.place stands (unlessStale_loose mark loose) read)
  exact ⟨u, leads_round (settle_here opens loose (stands ▸ here)) rfl next
    (Nat.lt_succ_of_le shorter), isKind⟩

/-! ### Tokens -/

theorem dropKey_loose (loose : ∀ k ∈ key, k.required = false) :
    dropKey ⟨⟨rest, mark⟩, 0, block, outer, allowed, [key], tokens⟩ =
      .ok ⟨⟨rest, mark⟩, 0, block, outer, allowed, [none], tokens⟩ := by
  cases key with
  | none => rfl
  | some k => simp [dropKey, loose k rfl]

/-- The dash of an item at the column of the block. -/
theorem at_dash (place : At true ('-' :: ' ' :: text) column column outer before s) :
    Reaches s (At true (' ' :: text) (column + 1) column outer (.blockEntry :: before)) := by
  have opens : Opens ('-' :: ' ' :: text) := opens_cons rfl (by decide)
  refine at_round place opens le_rfl fun t settled => ?_
  obtain @⟨mark, key, tokens, stands, loose, read⟩ := settled
  refine ⟨⟨⟨' ' :: text, mark.forward 1⟩, 0, column, outer, true, [none],
    ⟨.blockEntry, mark, mark.forward 1⟩ :: tokens⟩, ?_, by simp, .place (by simp [stands]) (by simp)
      (by simp [read])⟩
  have noMarker : atDocumentMarker ('-' :: ' ' :: text) = false := by simp [atDocumentMarker]
  have spacing : atSpacing (' ' :: text) = true := rfl
  simp [next, noMarker, spacing, dash, openBlock, stands, dropKey_loose loose, take, emit, Cursor.steps,
    Cursor.step, next_eq_forward, pure, Except.pure, bind, Except.bind]

/-- What can start a plain scalar is dispatched as one. -/
theorem next_plain {x : Char} (flow : s.flow = 0) (quiet : isSpacing x = false)
    (opening : isOpeningIndicator x = false)
    (leading : x = '?' ∨ x = ':' ∨ x = '-' → atSpacing rest = false)
    (inLine : s.cursor.mark.column = 0 → x ≠ '-' ∧ x ≠ '.') : s.next x rest = s.plain := by
  simp only [isOpeningIndicator, List.contains_cons, List.contains_nil, Bool.or_false,
    Bool.or_eq_false_iff, beq_eq_false_iff_ne] at opening
  have noGap (dash : x = '-') : rest.head?.any isGap = false := by
    have noSpacing := leading (.inr (.inr dash))
    cases rest with
    | nil => rfl
    | cons y rest =>
      have noSpace : isSpacing y = false := noSpacing
      rw [isSpacing, Bool.or_eq_false_iff] at noSpace
      exact noSpace.1
  by_cases dash : x = '-'
  · subst dash
    have notFirst : s.cursor.mark.column ≠ 0 := fun first => (inLine first).1 rfl
    simp [next, flow, quiet, notFirst, leading, noGap, isIndicator]
  · have spacedMark (mark : x = '?' ∨ x = ':') : atSpacing rest = false :=
      leading (mark.imp_right .inl)
    have notPoint (first : s.cursor.mark.column = 0) : x ≠ '.' := (inLine first).2
    by_cases question : x = '?'
    · simp [next, flow, question, spacedMark]
    · by_cases colon : x = ':'
      · simp [next, flow, colon, spacedMark]
      · have noDocument : (decide (s.cursor.mark.column = 0) && decide (x = '.') &&
            atDocumentMarker (x :: rest)) = false := by
          simpa using fun first point => absurd point (notPoint first)
        simp only [next, noDocument]
        simp [flow, quiet, opening, dash, question, colon, isIndicator]

section Key
variable {word : List Char} {outer' : List Int} {before' : List Lexeme}

/-- The innermost blocks where a mapping is that stands at a column: it is there already, or its first
key opens it. -/
inductive Enters (column : Nat) : Int → List Int → List Lexeme → List Int → List Lexeme → Prop
  | stays {outer : List Int} {before : List Lexeme} : Enters column column outer before outer before
  | opens {block : Int} {outer : List Int} {before : List Lexeme} (right : block < column) :
      Enters column block outer before (block :: outer) (.blockMappingStart :: before)

theorem settle_fresh {k : KeyStart} (opens : Opens rest) (sameLine : mark.line ≤ k.mark.line)
    (near : mark.index ≤ k.mark.index + 1024) (here : block ≤ mark.column) :
    settle ⟨⟨rest, mark⟩, 0, block, outer, allowed, [some k], tokens⟩ =
      .ok ⟨⟨rest, mark⟩, 0, block, outer, allowed, [some k], tokens⟩ := by
  have fresh : ¬(k.mark.line < mark.line ∨ k.mark.index + 1024 < mark.index) := by omega
  have kept : dropStaleKeys ⟨⟨rest, mark⟩, 0, block, outer, allowed, [some k], tokens⟩ =
      .ok ⟨⟨rest, mark⟩, 0, block, outer, allowed, [some k], tokens⟩ := by
    simp [dropStaleKeys, fresh, pure, Except.pure, bind, Except.bind]
  simp only [settle, toNextToken_stop opens, kept]
  exact congrArg Except.ok (closeBlocks_here here)

/-- At the colon behind a word the tokens of its key, and of the mapping that it may open, are put in
front of it. -/
theorem next_colon (token : Token) (stop : Mark) (required : Bool) (spacing : atSpacing rest = true)
    (enters : Enters mark.column block outer (tokens.map (·.lexeme)) outer' before') :
    ∃ read, next ⟨⟨':' :: rest, stop⟩, 0, block, outer, false,
        [some ⟨required, tokens.length, mark⟩], token :: tokens⟩ ':' rest =
      .ok ⟨⟨rest, stop.next⟩, 0, mark.column, outer', false, [none], read⟩ ∧
        read.map (·.lexeme) = .value :: token.lexeme :: .key :: before' := by
  have one : tokens.length + 1 - tokens.length = 1 := by omega
  have two : tokens.length + 1 + 1 - tokens.length = 2 := by omega
  cases enters with
  | stays =>
    refine ⟨⟨.value, stop, stop.next⟩ :: token :: ⟨.key, mark, mark⟩ :: tokens, ?_, by simp⟩
    simp [next, spacing, colon, insert, openBlock, take, emit, Cursor.steps, Cursor.step, one]
  | opens right =>
    refine ⟨⟨.value, stop, stop.next⟩ :: token :: ⟨.key, mark, mark⟩ ::
      ⟨.blockMappingStart, mark, mark⟩ :: tokens, ?_, by simp⟩
    simp [next, spacing, colon, insert, openBlock, take, emit, Cursor.steps, Cursor.step, one, two, right]

theorem saveKey_loose (rest : List Char) (mark : Mark) (block : Int) (outer : List Int)
    (tokens : List Token) (loose : ∀ k ∈ key, k.required = false) :
    saveKey ⟨⟨rest, mark⟩, 0, block, outer, true, [key], tokens⟩ =
      .ok ⟨⟨rest, mark⟩, 0, block, outer, true,
        [some ⟨decide (block = mark.column), tokens.length, mark⟩], tokens⟩ := by
  simp [saveKey, dropKey_loose loose, pure, Except.pure, bind, Except.bind]

theorem plain_read {s t : Scan} {chars : List Char} {broken : Bool} {cursor : Cursor}
    (saved : s.saveKey = .ok t) (flow : t.flow = 0)
    (read : readPlain false (t.column + 1).toNat t.cursor = .ok (chars, broken, cursor)) :
    s.plain = .ok { t with
      keyAllowed := broken, cursor,
      tokens := ⟨.scalar (String.ofList chars) .plain, t.cursor.mark, cursor.mark⟩ :: t.tokens } := by
  simp [plain, saved, flow, read, emit, pure, Except.pure, bind, Except.bind]

theorem nameChar_opening {x : Char} (name : isNameChar x = true) : isOpeningIndicator x = false := by
  refine Bool.eq_false_of_not_eq_true fun opening => ?_
  simp only [isOpeningIndicator, List.contains_iff_mem, List.mem_cons, List.not_mem_nil, or_false]
    at opening
  rcases opening with rfl | rfl | rfl | rfl | rfl | rfl | rfl | rfl | rfl | rfl | rfl | rfl | rfl | rfl |
    rfl | rfl <;> cases name

/-- A word before a colon is read as a scalar, and its place is kept. -/
theorem next_word {x : Char} (loose : ∀ k ∈ key, k.required = false)
    (name : ∀ y ∈ x :: word, isNameChar y = true) (spacing : atSpacing text = true) :
    Scan.next ⟨⟨x :: (word ++ ':' :: text), mark⟩, 0, block, outer, true, [key], tokens⟩ x
        (word ++ ':' :: text) =
      .ok ⟨⟨':' :: text, mark.forward (x :: word).length⟩, 0, block, outer, false,
        [some ⟨decide (block = mark.column), tokens.length, mark⟩],
        ⟨.scalar (String.ofList (x :: word)) .plain, mark, mark.forward (x :: word).length⟩ :: tokens⟩ := by
  have isName := name x List.mem_cons_self
  have leading : x = '?' ∨ x = ':' ∨ x = '-' → atSpacing (word ++ ':' :: text) = false := by
    rintro (rfl | rfl | rfl) <;> cases isName
  rw [next_plain rfl (nameChar_spacing isName) (nameChar_opening isName) leading
    fun _ => ⟨nameChar_ne isName rfl, nameChar_ne isName rfl⟩]
  exact plain_read (saveKey_loose _ mark block outer tokens loose) rfl
    (readPlain_key (List.cons_ne_nil x word) name spacing)

/-- A key and its colon, of which the walk knows only at the colon that it is one. -/
theorem at_key (text : List Char) (place : At true (word ++ ':' :: text) column block outer before s)
    (nonempty : word ≠ []) (name : ∀ x ∈ word, isNameChar x = true) (short : word.length ≤ 1024)
    (spacing : atSpacing text = true) (enters : Enters column block outer before outer' before') :
    Reaches s (At false text (column + word.length + 1) column outer'
      (.value :: .scalar (String.ofList word) .plain :: .key :: before')) := by
  obtain ⟨x, tail, rfl⟩ := List.exists_cons_of_ne_nil nonempty
  have isName := name x List.mem_cons_self
  obtain @⟨mark, key, tokens, rfl, loose, rfl⟩ := place
  have here : block ≤ mark.column := by
    cases enters with
    | stays => exact le_rfl
    | opens right => exact right.le
  have opensWord : Opens (x :: (tail ++ ':' :: text)) :=
    opens_cons (nameChar_spacing isName) (nameChar_ne isName rfl)
  have opensColon : Opens (':' :: text) := opens_cons rfl (by decide)
  have near : (mark.forward (x :: tail).length).index ≤ mark.index + 1024 := by
    rw [forward_index]
    omega
  have further : block ≤ (mark.forward (x :: tail).length).column := by
    rw [forward_column]
    omega
  obtain ⟨read, dispatched, lexemes⟩ := next_colon
    ⟨.scalar (String.ofList (x :: tail)) .plain, mark, mark.forward (x :: tail).length⟩
    (mark.forward (x :: tail).length) (decide (block = mark.column)) spacing enters
  refine ⟨_, leads_trans (leads_round (settle_here opensWord loose here) rfl
    (next_word (unlessStale_loose mark loose) name spacing) ?_) (leads_round
      (settle_fresh opensColon le_rfl near further) rfl dispatched ?_), ?_⟩
  · simp
  · simp
  · rw [← lexemes]
    exact .place (by simp [Mark.next]) (by simp) rfl

end Key
section Scalar
variable {t : Scan} {chars : List Char} {cursor : Cursor} {value : String}

/-- Right of the block no key is needed, so a place for one is kept loosely or not at all. -/
theorem saveKey_right (rest : List Char) (outer : List Int) (allowed : Bool) (tokens : List Token)
    (right : block < mark.column) (loose : ∀ k ∈ key, k.required = false) :
    ∃ key', saveKey ⟨⟨rest, mark⟩, 0, block, outer, allowed, [key], tokens⟩ =
      .ok ⟨⟨rest, mark⟩, 0, block, outer, allowed, [key'], tokens⟩ ∧ ∀ k ∈ key', k.required = false := by
  cases allowed with
  | false => exact ⟨key, rfl, loose⟩
  | true =>
    refine ⟨_, saveKey_loose rest mark block outer tokens loose, ?_⟩
    have elsewhere : block ≠ mark.column := right.ne
    simp [elsewhere]

theorem quoted_read {single : Bool} (saved : s.saveKey = .ok t)
    (read : readQuoted single t.cursor = .ok (chars, cursor)) :
    s.quoted single = .ok { t with
      keyAllowed := false, cursor,
      tokens := ⟨.scalar (String.ofList chars) (if single then .single else .double),
        t.cursor.mark, cursor.mark⟩ :: t.tokens } := by
  simp [quoted, content, saved, read, emit, pure, Except.pure, bind, Except.bind]

theorem block_read (dropped : s.dropKey = .ok t)
    (read : readBlock true t.column t.cursor = .ok (chars, cursor)) :
    s.block true = .ok { t with
      keyAllowed := true, cursor,
      tokens := ⟨.scalar (String.ofList chars) .literal, t.cursor.mark, cursor.mark⟩ :: t.tokens } := by
  simp [Scan.block, dropped, read, emit, pure, Except.pure, bind, Except.bind]

/-- A scalar in quotes and the end of its line. -/
theorem at_quoted (single : Bool) (right : block < column) (opens : Opens rest)
    (shorter : ('\n' :: (indentation depth ++ rest)).length ≤ text.length)
    (read : ∀ m, ∃ after, readQuoted single ⟨closingQuote single :: text, m⟩ =
      .ok (value.toList, ⟨'\n' :: (indentation depth ++ rest), after⟩))
    (place : At allowed (closingQuote single :: text) column block outer before s) :
    Reaches s (At true rest depth block outer
      (.scalar value (if single then .single else .double) :: before)) := by
  have opensQuote : Opens (closingQuote single :: text) := by
    cases single <;> exact opens_cons rfl (by decide)
  have behind : Reaches s fun u => ∃ stop, At false ('\n' :: (indentation depth ++ rest)) stop block outer
      (.scalar value (if single then .single else .double) :: before) u := by
    refine at_round place opensQuote right.le fun t settled => ?_
    obtain @⟨mark, key, tokens, stands, loose, rfl⟩ := settled
    obtain ⟨key', saved, loose'⟩ := saveKey_right (closingQuote single :: text) outer allowed tokens
      (stands ▸ right) loose
    obtain ⟨after, scalar⟩ := read mark
    have dispatched : Scan.next ⟨⟨closingQuote single :: text, mark⟩, 0, block, outer, allowed, [key],
        tokens⟩ (closingQuote single) text = quoted ⟨⟨closingQuote single :: text, mark⟩, 0, block,
          outer, allowed, [key], tokens⟩ single := by
      cases single <;> simp [Scan.next, closingQuote]
    rw [dispatched, quoted_read saved scalar]
    exact ⟨_, rfl, shorter, after.column, .place rfl loose' (by simp)⟩
  refine behind.bind fun t isBehind => ?_
  obtain ⟨stop, placed⟩ := isBehind
  exact at_line placed opens

/-- A literal block, up to the token that stands left of its lines. -/
theorem at_literal {block : Nat} (right : block < column) (left : depth ≤ block) (opens : Opens rest)
    (printable : ∀ x ∈ value.toList, isPrintable x = true) (nonempty : value.toList ≠ [])
    (place : At allowed ('|' :: (literalHeader value.toList ++ '\n' ::
      (literalChars (block + 2) true value.toList ++ (closingBreak value.toList ++
        (indentation depth ++ rest))))) column block outer before s) :
    Reaches s (At true rest depth block outer (.scalar value .literal :: before)) := by
  refine at_round place (opens_cons rfl (by decide)) (by omega) fun t settled => ?_
  obtain @⟨mark, key, tokens, stands, loose, rfl⟩ := settled
  obtain ⟨after, scalar, reaches⟩ := readBlock_literal printable nonempty opens left mark
  have dispatched (text : List Char) : Scan.next ⟨⟨'|' :: text, mark⟩, 0, block, outer, allowed, [key],
      tokens⟩ '|' text = Scan.block ⟨⟨'|' :: text, mark⟩, 0, block, outer, allowed, [key], tokens⟩ true := by
    simp [Scan.next]
  rw [dispatched, block_read (dropKey_loose loose) scalar]
  refine ⟨_, rfl, ?_, .place reaches (by simp) (by simp)⟩
  simp only [List.length_append, List.length_cons]
  omega

/-- A plain scalar, up to the token that stands left of where its lines may start. -/
theorem at_plain {block : Nat} (right : block < column) (left : depth ≤ block) (opens : Opens rest)
    (fits : plainAllowed value.toList = true) (nonempty : value.toList ≠ [])
    (place : At allowed (value.toList ++ '\n' :: (indentation depth ++ rest)) column block outer before
      s) :
    Reaches s (At true rest depth block outer (.scalar value .plain :: before)) := by
  obtain ⟨plain, x, tail, eq, opening, leading⟩ := plain_of_allowed fits nonempty
  have shape (text : List Char) : value.toList ++ text = x :: (tail ++ text) := by rw [eq]; rfl
  have opensWord (text : List Char) : Opens (x :: (tail ++ text)) := shape text ▸ plain_opens plain text
  have quiet : isSpacing x = false := (opensWord [] x rfl).1
  have leadingLine (text : List Char) (mark : x = '?' ∨ x = ':' ∨ x = '-') :
      atSpacing (tail ++ text) = false := by
    have noSpacing := leading mark
    cases tail with
    | nil => cases noSpacing
    | cons y tail => exact noSpacing
  rw [shape] at place
  refine at_round place (opensWord _) (by omega) fun t settled => ?_
  obtain @⟨mark, key, tokens, stands, loose, rfl⟩ := settled
  have notFirst : mark.column ≠ 0 := by omega
  obtain ⟨key', saved, loose'⟩ := saveKey_right (x :: (tail ++ '\n' :: (indentation depth ++ rest))) outer
    allowed tokens (show (block : Int) < mark.column by omega) loose
  obtain ⟨after, scalar, reaches⟩ := readPlain_line (m := mark) plain opens
    (show depth < ((block : Int) + 1).toNat by omega) (by omega)
  rw [shape] at scalar
  rw [next_plain rfl quiet opening (leadingLine _) (absurd · notFirst), plain_read saved rfl scalar]
  refine ⟨_, rfl, ?_, .place reaches loose' (by simp)⟩
  simp only [List.length_append, List.length_cons]
  omega

theorem nonempty_of_resolve (resolves : Plain.resolve value = .str) : value.toList ≠ [] := by
  intro empty
  obtain rfl : value = "" := by simpa using empty
  cases resolves

theorem opens_scalar (column : Nat) (value : String) (text : List Char) :
    Opens (scalarChars column value ++ text) := by
  have fits := styleOf_fits value
  unfold scalarChars
  cases style : styleOf value with
  | plain =>
    rw [style] at fits
    obtain ⟨plain, _⟩ := plain_of_allowed fits.2 (nonempty_of_resolve fits.1)
    have opens := plain_opens plain ('\n' :: text)
    simpa [style] using opens
  | single => exact opens_cons rfl (by decide)
  | double => exact opens_cons rfl (by decide)
  | literal => exact opens_cons rfl (by decide)
  | folded => exact opens_cons rfl (by decide)

/-- A scalar in the style of the writer, right of the block that it belongs to; the next token stands
on a line of its own and not right of the block. -/
theorem at_scalar {block : Nat} (value : String) (right : block < column) (left : depth ≤ block)
    (opens : Opens rest)
    (place : At allowed (scalarChars (block + 2) value ++ (indentation depth ++ rest)) column block
      outer before s) :
    Reaches s (At true rest depth block outer (.scalar value (styleOf value) :: before)) := by
  have fits := styleOf_fits value
  unfold scalarChars at place
  have rightInt : (block : Int) < column := by omega
  cases style : styleOf value with
  | plain =>
    rw [style] at fits
    obtain ⟨resolves, allowed⟩ := fits
    exact at_plain right left opens allowed (nonempty_of_resolve resolves) (by simpa [style] using place)
  | single =>
    rw [style] at fits
    have written : At allowed ('\'' :: (singleChars (block + 2) false value.toList ++
        '\'' :: '\n' :: (indentation depth ++ rest))) column block outer before s := by
      simpa [style] using place
    exact at_quoted true rightInt opens (by simp; omega)
      (fun m => readQuoted_single m fits.2 fits.1 (Nat.succ_ne_zero (block + 1)) (by simp)) written
  | double =>
    have written : At allowed ('"' :: (doubleChars value.toList ++
        '"' :: '\n' :: (indentation depth ++ rest))) column block outer before s := by
      simpa [style] using place
    exact at_quoted false rightInt opens (by simp; omega)
      (fun m => readQuoted_double value.toList _ m) written
  | literal =>
    rw [style] at fits
    simp only [Style.Fits, literalAllowed, Bool.and_eq_true, Bool.not_eq_true', List.all_eq_true] at fits
    exact at_literal right left opens fits.1.1.2 (by simpa using fits.1.1.1)
      (by simpa [style, closingBreak] using place)
  | folded =>
    rw [style] at fits
    exact fits.elim

end Scalar

/-- The opening bracket of a sequence, in which a new key may start. -/
theorem bracket_opened (loose : ∀ k ∈ key, k.required = false) (here : block ≤ mark.column) :
    Leads ⟨⟨'[' :: text, mark⟩, 0, block, outer, false, [key], tokens⟩
      ⟨⟨text, mark.next⟩, 1, block, outer, true, [none, unlessStale mark key],
        ⟨.flowSequenceStart, mark, mark.next⟩ :: tokens⟩ := by
  refine leads_round (settle_here (opens_cons rfl (by decide)) loose here) rfl ?_ (by simp)
  simp [Scan.next, openFlow, saveKey, take, emit, Cursor.steps, Cursor.step, pure, Except.pure, bind,
    Except.bind]

/-- The closing bracket of a sequence in which no key has started. -/
theorem bracket_closed (loose : ∀ k ∈ key, k.required = false) :
    Leads ⟨⟨']' :: text, mark⟩, 1, block, outer, true, [none, key], tokens⟩
      ⟨⟨text, mark.next⟩, 0, block, outer, false, [unlessStale mark key],
        ⟨.flowSequenceEnd, mark, mark.next⟩ :: tokens⟩ := by
  have settled : settle ⟨⟨']' :: text, mark⟩, 1, block, outer, true, [none, key], tokens⟩ =
      .ok ⟨⟨']' :: text, mark⟩, 1, block, outer, true, [none, unlessStale mark key], tokens⟩ := by
    have stays : toNextToken (']' :: text) ⟨⟨']' :: text, mark⟩, 1, block, outer, true, [none, key], tokens⟩ =
        ⟨⟨']' :: text, mark⟩, 1, block, outer, true, [none, key], tokens⟩ := by
      simp [toNextToken, Cursor.skipWhile, Cursor.span, isBreak]
    rw [settle, stays, dropStaleKeys_all (by simpa using loose)]
    simp [closeBlocks, unlessStale, pure, Except.pure, bind, Except.bind]
  refine leads_round settled rfl ?_ (by simp)
  simp [Scan.next, closeFlow, dropKey, take, emit, Cursor.steps, Cursor.step, pure, Except.pure, bind,
    Except.bind]

/-- The brackets of an empty sequence behind its key, and the end of their line. -/
theorem at_empty (place : At false ('[' :: ']' :: '\n' :: (indentation depth ++ rest)) column block outer
      before s) (here : block ≤ column) (opens : Opens rest) :
    Reaches s (At true rest depth block outer (.flowSequenceEnd :: .flowSequenceStart :: before)) := by
  obtain @⟨mark, key, tokens, rfl, loose, rfl⟩ := place
  have looseInside := unlessStale_loose mark loose
  have brackets : Reaches
      ⟨⟨'[' :: ']' :: '\n' :: (indentation depth ++ rest), mark⟩, 0, block, outer, false, [key], tokens⟩
      (At false ('\n' :: (indentation depth ++ rest)) mark.next.next.column block outer
        (.flowSequenceEnd :: .flowSequenceStart :: tokens.map (·.lexeme))) :=
    ⟨_, leads_trans (bracket_opened loose here) (bracket_closed looseInside),
      .place rfl (unlessStale_loose mark.next looseInside) rfl⟩
  exact brackets.bind fun t placed => at_line placed opens

/-- At the end of a text all blocks end. -/
theorem at_stop (place : At true [] 0 0 [-1] before s) (fuel : Nat) :
    ∃ tokens, run (fuel + 1) s = .ok tokens ∧
      tokens.map (·.lexeme) = before.reverse ++ [.blockEnd, .streamEnd] := by
  obtain @⟨mark, key, tokens, stands, loose, rfl⟩ := place
  have opens : Opens [] := by simp [Opens]
  rw [run_succ, settle_here opens loose (by omega)]
  have ends : finish ⟨⟨[], mark⟩, 0, 0, [-1], true, [unlessStale mark key], tokens⟩ =
      .ok ⟨⟨[], mark⟩, 0, -1, [], true, [none],
        ⟨.streamEnd, mark, mark⟩ :: ⟨.blockEnd, mark, mark⟩ :: tokens⟩ := by
    have right : (-1 : Int) < 0 := by decide
    simp only [finish, stands, ↓reduceIte, closeBlocks_right right, closeBlocks_here le_rfl,
      dropKey_loose (unlessStale_loose mark loose)]
    rfl
  refine ⟨tokens.reverse ++ [⟨.blockEnd, mark, mark⟩, ⟨.streamEnd, mark, mark⟩], ?_, by simp⟩
  simp [bind, Except.bind, round, ends, pure, Except.pure]

end Places

end Scan
end SemanticLayer.Yaml
