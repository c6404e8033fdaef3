import SemanticLayer.Proofs.Yaml.Rounds

/-! The tokens of a written tree. They are stated by recursion on the tree, without the walk over its
text, and the walk is then shown to find them: what follows a key or a dash, then the items of a
sequence and the entries of a mapping, each by induction on the tree. -/
namespace SemanticLayer.Yaml
open Scan

/-! ### Trees of records -/

/-- Whether a word is a name of a field that is short enough to be found to be a key. -/
def isName (word : String) : Bool :=
  !word.toList.isEmpty && word.toList.all isNameChar && decide (word.toList.length ≤ 1024)

theorem isName_iff {word : String} : isName word = true ↔ word.toList ≠ [] ∧
    (∀ x ∈ word.toList, isNameChar x = true) ∧ word.toList.length ≤ 1024 := by
  simp only [isName, Bool.and_eq_true, Bool.not_eq_true', List.isEmpty_eq_false_iff, List.all_eq_true,
    decide_eq_true_eq, and_assoc, ne_eq]

def Tree.isSeq : Tree → Bool
  | .seq _ => true
  | _ => false

/-- Trees of records and lists: no record is without fields, and no item of a list is a list. -/
inductive Tree.Regular : Tree → Prop
  | scalar (text : String) : Regular (.scalar text)
  | seq {items : List Tree} (each : ∀ item ∈ items, Regular item)
      (flat : ∀ item ∈ items, item.isSeq = false) : Regular (.seq items)
  | map {entries : List (String × Tree)} (nonempty : entries ≠ [])
      (names : ∀ entry ∈ entries, isName entry.1 = true)
      (each : ∀ entry ∈ entries, Regular entry.2) : Regular (.map entries)

mutual
/-- The tokens of a tree, an empty sequence being in brackets. -/
def Tree.lexemes : Tree → List Lexeme
  | .scalar text => [.scalar text (styleOf text)]
  | .seq [] => [.flowSequenceStart, .flowSequenceEnd]
  | .seq items => Tree.itemLexemes items
  | .map entries => .blockMappingStart :: (Tree.entryLexemes entries ++ [.blockEnd])
/-- The tokens of items at the column of their key. -/
def Tree.itemLexemes : List Tree → List Lexeme
  | [] => []
  | item :: rest => .blockEntry :: (Tree.lexemes item ++ Tree.itemLexemes rest)
/-- The tokens of entries. -/
def Tree.entryLexemes : List (String × Tree) → List Lexeme
  | [] => []
  | (key, value) :: rest =>
    .key :: .scalar key .plain :: .value :: (Tree.lexemes value ++ Tree.entryLexemes rest)
end

/-! ### The walk over a tree -/

/-- The walk finds the tokens of a tree behind a key and, unless it is a sequence, behind a dash. -/
structure Tree.Scans (tree : Tree) : Prop where
  afterKey {column depth place : Nat} {outer : List Int} {before : List Lexeme} {rest : List Char}
    {s : Scan} (left : depth ≤ column) (opens : Opens rest) (right : column < place)
    (stands : At false (tree.afterKey column ++ (indentation depth ++ rest)) place column outer before s) :
    Reaches s (At true rest depth column outer (tree.lexemes.reverse ++ before))
  afterDash {column depth : Nat} {outer : List Int} {before : List Lexeme} {rest : List Char}
    {s : Scan} (flat : tree.isSeq = false) (left : depth ≤ column) (opens : Opens rest)
    (stands : At true (' ' :: (tree.afterDash (column + 2) ++ (indentation depth ++ rest))) (column + 1)
      column outer before s) :
    Reaches s (At true rest depth column outer (tree.lexemes.reverse ++ before))

section Walk
variable {column depth place : Nat} {block : Int} {outer outer' : List Int}
  {before before' : List Lexeme} {rest : List Char} {s : Scan} {items : List Tree}
  {entries : List (String × Tree)}

theorem afterKey_spacing (column : Nat) (tree : Tree) (text : List Char) :
    atSpacing (tree.afterKey column ++ text) = true := by
  cases tree with
  | scalar value => simp [Tree.afterKey, atSpacing, isSpacing, isGap]
  | seq items => cases items <;> simp [Tree.afterKey, atSpacing, isSpacing, isGap, isBreak]
  | map entries => cases entries <;> simp [Tree.afterKey, atSpacing, isSpacing, isGap, isBreak]

theorem entries_first (nonempty : entries ≠ []) (names : ∀ entry ∈ entries, isName entry.1 = true)
    (column : Nat) : ∃ x tail, Tree.entryChars column entries = x :: tail ∧ isNameChar x = true := by
  obtain ⟨⟨key, value⟩, others, rfl⟩ := List.exists_cons_of_ne_nil nonempty
  obtain ⟨keyNonempty, keyName, _⟩ := isName_iff.mp (names (key, value) List.mem_cons_self)
  obtain ⟨x, tail, eq⟩ := List.exists_cons_of_ne_nil keyNonempty
  have isChar : isNameChar x = true := keyName x (by simp [eq])
  cases others with
  | nil => exact ⟨x, _, by simp [Tree.entryChars, eq]; rfl, isChar⟩
  | cons other others => exact ⟨x, _, by simp [Tree.entryChars, eq]; rfl, isChar⟩

theorem opens_entries (nonempty : entries ≠ []) (names : ∀ entry ∈ entries, isName entry.1 = true)
    (column : Nat) (text : List Char) : Opens (Tree.entryChars column entries ++ text) := by
  obtain ⟨x, tail, eq, isChar⟩ := entries_first nonempty names column
  rw [eq, List.cons_append]
  exact opens_cons (nameChar_spacing isChar) (nameChar_ne isChar rfl)

/-- The entries of a mapping, the first of which may open it. -/
theorem entries_scan (nonempty : entries ≠ [])
    (names : ∀ entry ∈ entries, isName entry.1 = true) (each : ∀ entry ∈ entries, entry.2.Scans)
    (left : depth ≤ column) (opens : Opens rest) (enters : Enters column block outer before outer' before')
    (stands : At true (Tree.entryChars column entries ++ (indentation depth ++ rest)) column block outer
      before s) :
    Reaches s (At true rest depth column outer' ((Tree.entryLexemes entries).reverse ++ before')) := by
  induction entries generalizing s block outer before before' with
  | nil => exact absurd rfl nonempty
  | cons entry others ih =>
    obtain ⟨key, value⟩ := entry
    obtain ⟨keyNonempty, keyName, short⟩ := isName_iff.mp (names (key, value) List.mem_cons_self)
    obtain ⟨valueScans, otherScans⟩ := List.forall_mem_cons.mp each
    by_cases last : others = []
    · subst last
      have keyed := at_key (value.afterKey column ++ (indentation depth ++ rest))
        (by simpa [Tree.entryChars] using stands) keyNonempty keyName short
        (afterKey_spacing column value _) enters
      refine keyed.bind fun t placed => ?_
      have valued := valueScans.afterKey left opens (by omega) placed
      simpa [Tree.entryLexemes] using valued
    · have opensOthers : Opens (Tree.entryChars column others ++ (indentation depth ++ rest)) :=
        opens_entries last (fun entry member => names entry (List.mem_cons_of_mem _ member)) column _
      have keyed := at_key (value.afterKey column ++ (indentation column ++
          (Tree.entryChars column others ++ (indentation depth ++ rest))))
        (by simpa [Tree.entryChars, last] using stands) keyNonempty keyName short
        (afterKey_spacing column value _) enters
      refine keyed.bind fun t placed => ?_
      refine (valueScans.afterKey le_rfl opensOthers (by omega) placed).bind fun u behind => ?_
      have further := ih last (fun entry member => names entry (List.mem_cons_of_mem _ member))
        otherScans .stays behind
      simpa [Tree.entryLexemes] using further

/-- The items of a sequence, from the place where the first dash stands or, without any, the token
behind them. -/
theorem items_scan (each : ∀ item ∈ items, item.Scans)
    (flat : ∀ item ∈ items, item.isSeq = false) (left : depth ≤ column) (opens : Opens rest) :
    ∃ first follows, Tree.itemChars column items ++ (indentation depth ++ rest) =
        indentation first ++ follows ∧ first ≤ column ∧ Opens follows ∧
      ∀ {outer before s}, At true follows first column outer before s →
        Reaches s (At true rest depth column outer ((Tree.itemLexemes items).reverse ++ before)) := by
  induction items with
  | nil => exact ⟨depth, rest, rfl, left, opens, fun stands => ⟨_, ⟨0, le_rfl, fun _ => rfl⟩, stands⟩⟩
  | cons item others ih =>
    obtain ⟨itemScans, otherScans⟩ := List.forall_mem_cons.mp each
    obtain ⟨itemFlat, otherFlat⟩ := List.forall_mem_cons.mp flat
    obtain ⟨first, follows, written, firstLeft, opensFollows, further⟩ := ih otherScans otherFlat
    have opensDash : Opens ('-' :: ' ' :: (item.afterDash (column + 2) ++
        (indentation first ++ follows))) := opens_cons rfl (by decide)
    refine ⟨column, _, by simp [Tree.itemChars, written], le_rfl, opensDash, fun stands => ?_⟩
    refine (at_dash stands).bind fun t dashed => ?_
    refine (itemScans.afterDash itemFlat firstLeft opensFollows dashed).bind fun u behind => ?_
    simpa [Tree.itemLexemes] using further behind

/-- A mapping in a block of its own. -/
theorem mapping_scan (nonempty : entries ≠ [])
    (names : ∀ entry ∈ entries, isName entry.1 = true) (each : ∀ entry ∈ entries, entry.2.Scans)
    (left : depth ≤ column) (opens : Opens rest)
    (stands : At true (Tree.entryChars (column + 2) entries ++ (indentation depth ++ rest)) (column + 2)
      column outer before s) :
    Reaches s (At true rest depth column outer ((Tree.map entries).lexemes.reverse ++ before)) := by
  have right : (column : Int) < (column + 2 : Nat) := by omega
  refine (entries_scan nonempty names each (by omega) opens (.opens right) stands).bind fun t inside => ?_
  have ended := at_end inside opens (by omega)
  simpa [Tree.lexemes] using ended

theorem afterKey_items (nonempty : items ≠ []) (column : Nat) :
    (Tree.seq items).afterKey column = '\n' :: Tree.itemChars column items := by
  obtain ⟨item, others, rfl⟩ := List.exists_cons_of_ne_nil nonempty
  rfl

theorem lexemes_items (nonempty : items ≠ []) : (Tree.seq items).lexemes = Tree.itemLexemes items := by
  obtain ⟨item, others, rfl⟩ := List.exists_cons_of_ne_nil nonempty
  rfl

theorem afterKey_entries (nonempty : entries ≠ []) (column : Nat) :
    (Tree.map entries).afterKey column =
      '\n' :: (indentation (column + 2) ++ Tree.entryChars (column + 2) entries) := by
  obtain ⟨entry, others, rfl⟩ := List.exists_cons_of_ne_nil nonempty
  rfl

theorem afterDash_entries (nonempty : entries ≠ []) (column : Nat) :
    (Tree.map entries).afterDash column = Tree.entryChars column entries := by
  obtain ⟨entry, others, rfl⟩ := List.exists_cons_of_ne_nil nonempty
  rfl

theorem Tree.Regular.scans {tree : Tree} (regular : tree.Regular) : tree.Scans := by
  induction regular with
  | scalar value =>
    refine ⟨fun left opens right stands => ?_, fun _ left opens stands => ?_⟩
    · refine (at_space stands (opens_scalar _ value _)).bind fun t placed => ?_
      simpa [Tree.lexemes] using at_scalar value (by omega) left opens placed
    · refine (at_space stands (opens_scalar _ value _)).bind fun t placed => ?_
      simpa [Tree.lexemes] using at_scalar value (by omega) left opens placed
  | @seq items each flat ih =>
    refine ⟨fun {column depth place outer before rest s} left opens right stands => ?_,
      fun isFlat => Bool.noConfusion isFlat⟩
    by_cases empty : items = []
    · subst empty
      have brackets : At false (' ' :: '[' :: ']' :: '\n' :: (indentation depth ++ rest)) place column
          outer before s := stands
      refine (at_space brackets (opens_cons rfl (by decide))).bind fun t placed => ?_
      simpa [Tree.lexemes] using at_empty placed (by omega) opens
    · obtain ⟨first, follows, written, firstLeft, opensFollows, further⟩ :=
        items_scan ih flat left opens
      have line : At false ('\n' :: (indentation first ++ follows)) place column outer before s := by
        rw [← written]
        simpa [afterKey_items empty] using stands
      rw [lexemes_items empty]
      exact (at_line line opensFollows).bind fun t placed => further placed
  | @map entries nonempty names each ih =>
    refine ⟨fun {column depth place outer before rest s} left opens right stands => ?_,
      fun {column depth outer before rest s} _ left opens stands => ?_⟩
    · have line : At false ('\n' :: (indentation (column + 2) ++ (Tree.entryChars (column + 2) entries ++
          (indentation depth ++ rest)))) place column outer before s := by
        simpa [afterKey_entries nonempty] using stands
      exact (at_line line (opens_entries nonempty names _ _)).bind fun t placed =>
        mapping_scan nonempty names ih left opens placed
    · have entry : At true (' ' :: (Tree.entryChars (column + 2) entries ++ (indentation depth ++ rest)))
          (column + 1) column outer before s := by
        simpa [afterDash_entries nonempty] using stands
      exact (at_space entry (opens_entries nonempty names _ _)).bind fun t placed =>
        mapping_scan nonempty names ih left opens placed

end Walk

/-! ### Characters -/

/-- All characters may occur in a text. -/
def Clean (cs : List Char) : Prop := ∀ x ∈ cs, isAllowed x = true

section Clean
variable {cs ds : List Char} {x : Char}

theorem clean_append : Clean (cs ++ ds) ↔ Clean cs ∧ Clean ds := List.forall_mem_append

theorem clean_cons : Clean (x :: cs) ↔ isAllowed x = true ∧ Clean cs := List.forall_mem_cons

theorem clean_nil : Clean [] := List.forall_mem_nil _

theorem clean_printable (printable : ∀ x ∈ cs, isPrintable x = true) : Clean cs :=
  fun x member => printable_allowed (printable x member)

theorem clean_indentation (column : Nat) : Clean (indentation column) := by
  intro x member
  obtain rfl := mem_indentation member
  rfl

theorem clean_single (column : Nat) (broken : Bool) (clean : Clean cs) :
    Clean (singleChars column broken cs) := by
  induction cs generalizing broken with
  | nil =>
    rw [singleChars]
    split
    · exact clean_indentation column
    · exact clean_nil
  | cons x cs ih =>
    obtain ⟨first, later⟩ := clean_cons.mp clean
    rw [singleChars]
    split
    · exact clean_cons.mpr ⟨first, ih true later⟩
    · have quote : isAllowed '\'' = true := rfl
      refine clean_append.mpr ⟨clean_append.mpr ⟨?_, ?_⟩, ih false later⟩
      · split
        · exact clean_indentation column
        · exact clean_nil
      · split <;> simp [Clean, quote, first]

theorem clean_literal (column : Nat) (broken : Bool) (clean : Clean cs) :
    Clean (literalChars column broken cs) := by
  induction cs generalizing broken with
  | nil => exact clean_nil
  | cons x cs ih =>
    obtain ⟨first, later⟩ := clean_cons.mp clean
    rw [literalChars]
    split
    · exact clean_cons.mpr ⟨first, ih true later⟩
    · refine clean_append.mpr ⟨?_, clean_cons.mpr ⟨first, ih false later⟩⟩
      split
      · exact clean_indentation column
      · exact clean_nil

theorem upper_hex_allowed : ∀ n < 16, isAllowed (upperHex n) = true := by decide

theorem clean_hex (count n : Nat) : Clean (hexDigits count n) := by
  induction count generalizing n with
  | zero => exact clean_nil
  | succ count ih =>
    have digit := upper_hex_allowed (n % 16) (Nat.mod_lt n (by decide))
    exact clean_append.mpr ⟨ih (n / 16), clean_cons.mpr ⟨digit, clean_nil⟩⟩

theorem clean_ite {p : Prop} [Decidable p] (yes : Clean cs) (no : Clean ds) :
    Clean (if p then cs else ds) := by
  split
  · exact yes
  · exact no

theorem clean_escape (x : Char) : Clean (escape x) := by
  refine clean_cons.mpr ⟨rfl, ?_⟩
  repeat' apply clean_ite
  all_goals first
    | exact clean_cons.mpr ⟨rfl, clean_nil⟩
    | exact clean_cons.mpr ⟨rfl, clean_hex _ _⟩

theorem clean_double (cs : List Char) : Clean (doubleChars cs) := by
  intro y member
  obtain ⟨x, _, inside⟩ := List.mem_flatMap.mp member
  split at inside
  · exact clean_escape x y inside
  · rename_i plain
    obtain rfl : y = x := by simpa using inside
    simp only [Bool.or_eq_true, Bool.not_eq_true', not_or, Bool.not_eq_false] at plain
    exact printable_allowed plain.1.1.1

theorem clean_header (cs : List Char) : Clean (literalHeader cs) := by
  rw [literalHeader_eq]
  refine clean_append.mpr ⟨clean_ite (clean_cons.mpr ⟨rfl, clean_nil⟩) clean_nil, ?_⟩
  cases chompingOf cs with
  | strip => exact clean_cons.mpr ⟨rfl, clean_nil⟩
  | clip => exact clean_nil
  | keep => exact clean_cons.mpr ⟨rfl, clean_nil⟩

theorem clean_scalar (column : Nat) (value : String) : Clean (scalarChars column value) := by
  have fits := styleOf_fits value
  have feed : Clean ['\n'] := clean_cons.mpr ⟨rfl, clean_nil⟩
  unfold scalarChars
  cases style : styleOf value with
  | plain =>
    rw [style] at fits
    have allowed := fits.2
    simp only [plainAllowed, Bool.and_eq_true, List.all_eq_true] at allowed
    exact clean_append.mpr ⟨clean_printable allowed.1.1.1, feed⟩
  | single =>
    rw [style] at fits
    have allowed := fits.2
    simp only [singleAllowed, Bool.and_eq_true, List.all_eq_true] at allowed
    exact clean_append.mpr ⟨clean_cons.mpr ⟨rfl, clean_single column false (clean_printable allowed.1.1)⟩,
      clean_cons.mpr ⟨rfl, feed⟩⟩
  | double =>
    exact clean_append.mpr ⟨clean_cons.mpr ⟨rfl, clean_double _⟩, clean_cons.mpr ⟨rfl, feed⟩⟩
  | literal =>
    rw [style] at fits
    simp only [Style.Fits, literalAllowed, Bool.and_eq_true, List.all_eq_true] at fits
    have lines := clean_literal column true (clean_printable fits.1.1.2)
    exact clean_append.mpr ⟨clean_append.mpr ⟨clean_cons.mpr ⟨rfl, clean_header _⟩,
      clean_cons.mpr ⟨rfl, lines⟩⟩, clean_ite clean_nil feed⟩
  | folded =>
    rw [style] at fits
    exact fits.elim

theorem clean_name {word : String} (name : isName word = true) : Clean word.toList := by
  obtain ⟨_, isChar, _⟩ := isName_iff.mp name
  exact clean_printable fun x member => nameChar_printable (isChar x member)

theorem clean_entries {entries : List (String × Tree)} (column : Nat)
    (names : ∀ entry ∈ entries, isName entry.1 = true)
    (each : ∀ entry ∈ entries, Clean (entry.2.afterKey column)) :
    Clean (Tree.entryChars column entries) := by
  induction entries with
  | nil => exact clean_nil
  | cons entry others ih =>
    obtain ⟨key, value⟩ := entry
    obtain ⟨name, otherNames⟩ := List.forall_mem_cons.mp names
    obtain ⟨clean, otherClean⟩ := List.forall_mem_cons.mp each
    have first : Clean (key.toList ++ ':' :: value.afterKey column) :=
      clean_append.mpr ⟨clean_name name, clean_cons.mpr ⟨rfl, clean⟩⟩
    cases others with
    | nil => exact first
    | cons other others =>
      exact clean_append.mpr ⟨first, clean_append.mpr ⟨clean_indentation column, ih otherNames otherClean⟩⟩

theorem clean_items {items : List Tree} (column : Nat)
    (each : ∀ item ∈ items, Clean (item.afterDash (column + 2))) : Clean (Tree.itemChars column items) := by
  induction items with
  | nil => exact clean_nil
  | cons item others ih =>
    obtain ⟨clean, otherClean⟩ := List.forall_mem_cons.mp each
    exact clean_append.mpr ⟨clean_append.mpr ⟨clean_indentation column,
      clean_cons.mpr ⟨rfl, clean_cons.mpr ⟨rfl, clean⟩⟩⟩, ih otherClean⟩

theorem Tree.Regular.clean {tree : Tree} (regular : tree.Regular) :
    ∀ column, Clean (tree.afterKey column) ∧ (tree.isSeq = false → Clean (tree.afterDash column)) := by
  induction regular with
  | scalar value =>
    exact fun column => ⟨clean_cons.mpr ⟨rfl, clean_scalar (column + 2) value⟩,
      fun _ => clean_scalar column value⟩
  | @seq items each flat ih =>
    refine fun column => ⟨?_, fun isFlat => Bool.noConfusion isFlat⟩
    by_cases empty : items = []
    · subst empty
      have brackets : Clean [' ', '[', ']', '\n'] := by simp [Clean, isAllowed]
      exact brackets
    · rw [afterKey_items empty]
      exact clean_cons.mpr ⟨rfl, clean_items column fun item member =>
        (ih item member (column + 2)).2 (flat item member)⟩
  | @map entries nonempty names each ih =>
    have entriesClean (column : Nat) : Clean (Tree.entryChars column entries) :=
      clean_entries column names fun entry member => (ih entry member column).1
    refine fun column => ⟨?_, fun _ => ?_⟩
    · rw [afterKey_entries nonempty]
      exact clean_cons.mpr ⟨rfl, clean_append.mpr ⟨clean_indentation _, entriesClean _⟩⟩
    · rw [afterDash_entries nonempty]
      exact entriesClean column

end Clean

/-! ### Whole texts -/

/-- The tokens of the text of a mapping are those of the tree, and the end of the text. -/
theorem tokens_render {entries : List (String × Tree)} (regular : (Tree.map entries).Regular) :
    ∃ found, tokens (Tree.map entries).render = .ok found ∧
      found.map (·.lexeme) = (Tree.map entries).lexemes ++ [.streamEnd] := by
  obtain _ | _ | ⟨nonempty, names, each⟩ := regular
  have written : (Tree.map entries).render = String.ofList (Tree.entryChars 0 entries) := by
    obtain ⟨entry, others, rfl⟩ := List.exists_cons_of_ne_nil nonempty
    rfl
  have clean : Clean (Tree.entryChars 0 entries) :=
    clean_entries 0 names fun entry member => ((each entry member).clean 0).1
  have begins : At true (Tree.entryChars 0 entries ++ (indentation 0 ++ [])) 0 (-1) [] []
      (Scan.start (Tree.entryChars 0 entries)) := by
    rw [show Tree.entryChars 0 entries ++ (indentation 0 ++ []) = Tree.entryChars 0 entries from
      List.append_nil _]
    exact .place rfl (by simp) rfl
  have right : (-1 : Int) < (0 : Nat) := by decide
  obtain ⟨stop, ⟨rounds, bound, runs⟩, stands⟩ := entries_scan nonempty names
    (fun entry member => (each entry member).scans) le_rfl (by simp [Opens]) (.opens right) begins
  obtain ⟨found, read, lexemes⟩ := at_stop stands ((Tree.entryChars 0 entries).length - rounds)
  refine ⟨found, ?_, by simpa [Tree.lexemes] using lexemes⟩
  have enough : (Tree.entryChars 0 entries).length - rounds + 1 + rounds =
      (Tree.entryChars 0 entries).length + 1 := by
    simp only [Scan.start] at bound
    omega
  rw [← runs, enough] at read
  obtain ⟨x, tail, eq, isChar⟩ := entries_first nonempty names 0
  have noMark : x.toNat ≠ 0xFEFF := by
    have code := nameChar_code isChar
    omega
  have allowed : (x :: tail).all isAllowed = true := by
    rw [← eq]
    exact List.all_eq_true.mpr clean
  rw [written, tokens]
  rw [eq] at read
  simpa [eq, noMark, allowed] using read

end SemanticLayer.Yaml
