import SemanticLayer.Yaml.Node.Basic
import SemanticLayer.Proofs.Yaml.Scanning

/-! The tree that is read from the tokens of a tree is the tree itself, with a place for each of its
parts. Every reader leaves the tokens behind its own as they are, and needs fuel for no more than its
own tokens. -/
namespace SemanticLayer.Yaml

/-! ### Trees with places -/

mutual
/-- A node is a tree with places. -/
def Tree.ReadAs : Tree → Node → Prop
  | .scalar text, node => ∃ mark, node = .scalar mark none (styleOf text) text
  | .seq items, node => ∃ mark nodes, node = .seq mark none nodes ∧ Tree.ItemsReadAs items nodes
  | .map entries, node => ∃ mark pairs, node = .map mark none pairs ∧ Tree.EntriesReadAs entries pairs
/-- Nodes are the items of a list with places. -/
def Tree.ItemsReadAs : List Tree → List Node → Prop
  | [], nodes => nodes = []
  | item :: rest, nodes =>
    ∃ node others, nodes = node :: others ∧ Tree.ReadAs item node ∧ Tree.ItemsReadAs rest others
/-- Pairs of nodes are the entries of a record with places. -/
def Tree.EntriesReadAs : List (String × Tree) → List (Node × Node) → Prop
  | [], pairs => pairs = []
  | (key, value) :: rest, pairs =>
    ∃ mark node others, pairs = (.scalar mark none .plain key, node) :: others ∧
      Tree.ReadAs value node ∧ Tree.EntriesReadAs rest others
end

namespace Reading

/-! ### One node -/

/-- Whether a token starts the content of a node that is written without properties. -/
def startsContent : Lexeme → Bool
  | .scalar _ _ => true
  | .flowSequenceStart => true
  | .blockEntry => true
  | .blockMappingStart => true
  | _ => false

theorem lexemes_first (tree : Tree) :
    ∃ first later, tree.lexemes = first :: later ∧ startsContent first = true ∧
      (tree.isSeq = false → endsEntry first = false) := by
  cases tree with
  | scalar text => exact ⟨_, _, rfl, rfl, fun _ => rfl⟩
  | seq items =>
    cases items with
    | nil => exact ⟨_, _, rfl, rfl, fun isFlat => Bool.noConfusion isFlat⟩
    | cons item items => exact ⟨_, _, rfl, rfl, fun isFlat => Bool.noConfusion isFlat⟩
  | map entries => exact ⟨_, _, rfl, rfl, fun _ => rfl⟩

section Node
variable {fuel : Nat} {block indentless : Bool} {token : Token} {others : List Token}
  {anchors : List Anchor} {handles : List (String × String)} {text : String} {style : Style}
  {r : Reading}

theorem node_content (starts : startsContent token.lexeme = true) :
    node (fuel + 1) block indentless ⟨token :: others, anchors, handles⟩ =
      content fuel block indentless token.start none false ⟨token :: others, anchors, handles⟩ := by
  obtain ⟨lexeme, start, stop⟩ := token
  cases lexeme <;> first
    | exact Bool.noConfusion starts
    | simp only [node, properties, peek, List.headD_cons, bind, Except.bind, Option.isSome,
        Bool.or_self, Bool.false_eq_true, ↓reduceIte, pure, Except.pure]
  all_goals
    generalize content fuel block indentless start none false _ = result
    cases result <;> rfl

theorem node_scalar (is : token.lexeme = .scalar text style) :
    node (fuel + 2) block indentless ⟨token :: others, anchors, handles⟩ =
      .ok (.scalar token.start none style text, ⟨others, anchors, handles⟩) := by
  rw [node_content (by rw [is]; rfl)]
  simp [content, peek, is, skip, scalarTag]

theorem node_empty {close : Token} (opens : token.lexeme = .flowSequenceStart)
    (closes : close.lexeme = .flowSequenceEnd) :
    node (fuel + 3) block indentless ⟨token :: close :: others, anchors, handles⟩ =
      .ok (.seq token.start none [], ⟨others, anchors, handles⟩) := by
  rw [node_content (by rw [opens]; rfl)]
  simp [content, flowItems, peek, skip, opens, closes, bind, Except.bind, pure, Except.pure]

theorem node_items {items : List Node} (is : token.lexeme = .blockEntry)
    (read : indentlessItems fuel ⟨token :: others, anchors, handles⟩ = .ok (items, r)) :
    node (fuel + 2) block true ⟨token :: others, anchors, handles⟩ = .ok (.seq token.start none items, r) := by
  rw [node_content (by rw [is]; rfl)]
  simp [content, peek, is, read, bind, Except.bind, pure, Except.pure]

theorem node_entries {entries : List (Node × Node)} (is : token.lexeme = .blockMappingStart)
    (read : blockEntries fuel ⟨others, anchors, handles⟩ = .ok (entries, r)) :
    node (fuel + 2) true indentless ⟨token :: others, anchors, handles⟩ =
      .ok (.map token.start none entries, r) := by
  rw [node_content (by rw [is]; rfl)]
  simp [content, peek, skip, is, read, bind, Except.bind, pure, Except.pure]

end Node

/-! ### Items and entries -/

section Lists
variable {fuel : Nat} {token next stop : Token} {others : List Token} {anchors : List Anchor}
  {handles : List (String × String)} {r last : Reading} {result : Node}

theorem indentlessItems_cons {items : List Node} (dash : token.lexeme = .blockEntry)
    (going : endsEntry next.lexeme = false)
    (read : node fuel true false ⟨next :: others, anchors, handles⟩ = .ok (result, r))
    (further : indentlessItems fuel r = .ok (items, last)) :
    indentlessItems (fuel + 1) ⟨token :: next :: others, anchors, handles⟩ =
      .ok (result :: items, last) := by
  simp [indentlessItems, peek, skip, dash, going, read, further, bind, Except.bind, pure, Except.pure]

theorem indentlessItems_nil (ends : r.peek.lexeme ≠ .blockEntry) :
    indentlessItems (fuel + 1) r = .ok ([], r) := by
  unfold indentlessItems
  split
  · rename_i dash
    exact absurd dash ends
  · rfl

theorem blockEntries_nil (ends : stop.lexeme = .blockEnd) :
    blockEntries (fuel + 1) ⟨stop :: others, anchors, handles⟩ = .ok ([], ⟨others, anchors, handles⟩) := by
  simp [blockEntries, peek, skip, ends]

theorem blockEntries_cons {key scalar value : Token} {name : String} {entries : List (Node × Node)}
    (enough : 2 ≤ fuel) (isKey : key.lexeme = .key) (isName : scalar.lexeme = .scalar name .plain)
    (isValue : value.lexeme = .value) (starts : startsContent next.lexeme = true)
    (read : node fuel true true ⟨next :: others, anchors, handles⟩ = .ok (result, r))
    (further : blockEntries fuel r = .ok (entries, last)) :
    blockEntries (fuel + 1) ⟨key :: scalar :: value :: next :: others, anchors, handles⟩ =
      .ok ((.scalar scalar.start none .plain name, result) :: entries, last) := by
  have named : node fuel true true ⟨scalar :: value :: next :: others, anchors, handles⟩ =
      .ok (.scalar scalar.start none .plain name, ⟨value :: next :: others, anchors, handles⟩) := by
    obtain ⟨less, rfl⟩ := Nat.exists_eq_add_of_le' enough
    exact node_scalar isName
  obtain ⟨lexeme, start, stop⟩ := next
  cases lexeme <;> first
    | exact Bool.noConfusion starts
    | simp [blockEntries, peek, skip, isKey, isName, isValue, named, read, further, bind, Except.bind,
        pure, Except.pure]

end Lists

/-! ### Trees -/

/-- The tokens of a tree are read as the tree. A sequence ends where no further dash follows. -/
def Parses (tree : Tree) : Prop :=
  ∀ (fuel : Nat) (indentless : Bool) (found others : List Token) (anchors : List Anchor)
    (handles : List (String × String)),
    found.map (·.lexeme) = tree.lexemes →
    (tree.isSeq = true → indentless = true ∧ ∀ token ∈ others.head?, token.lexeme ≠ .blockEntry) →
    3 * found.length ≤ fuel →
    ∃ result, node fuel true indentless ⟨found ++ others, anchors, handles⟩ =
      .ok (result, ⟨others, anchors, handles⟩) ∧ tree.ReadAs result

section Trees
variable {fuel : Nat} {found others : List Token} {anchors : List Anchor}
  {handles : List (String × String)}

/-- Where the tokens of a tree come next, its first token does. -/
theorem first_token {tree : Tree} (lexemes : found.map (·.lexeme) = tree.lexemes) :
    ∃ token later, found = token :: later ∧ startsContent token.lexeme = true ∧
      (tree.isSeq = false → endsEntry token.lexeme = false) := by
  obtain ⟨first, rest, eq, starts, goes⟩ := lexemes_first tree
  rw [eq, List.map_eq_cons_iff] at lexemes
  obtain ⟨token, later, rfl, rfl, _⟩ := lexemes
  exact ⟨token, later, rfl, starts, goes⟩

theorem items_parse (fuel : Nat) {items : List Tree} (each : ∀ item ∈ items, Parses item)
    (flat : ∀ item ∈ items, item.isSeq = false) (lexemes : found.map (·.lexeme) = Tree.itemLexemes items)
    (ends : ∀ token ∈ others.head?, token.lexeme ≠ .blockEntry)
    (enough : 3 * found.length ≤ fuel + 2 ∧ 1 ≤ fuel) :
    ∃ nodes, indentlessItems fuel ⟨found ++ others, anchors, handles⟩ =
      .ok (nodes, ⟨others, anchors, handles⟩) ∧ Tree.ItemsReadAs items nodes := by
  induction items generalizing found fuel with
  | nil =>
    obtain rfl : found = [] := List.map_eq_nil_iff.mp lexemes
    obtain ⟨less, rfl⟩ := Nat.exists_eq_add_of_le' enough.2
    refine ⟨[], indentlessItems_nil ?_, rfl⟩
    cases others with
    | nil => simp [peek]
    | cons token others => exact ends token rfl
  | cons item items ih =>
    obtain ⟨itemParses, otherParses⟩ := List.forall_mem_cons.mp each
    obtain ⟨itemFlat, otherFlat⟩ := List.forall_mem_cons.mp flat
    obtain ⟨dash, later, rfl, isDash, lexemesLater⟩ := List.map_eq_cons_iff.mp lexemes
    obtain ⟨ofItem, ofOthers, rfl, lexemesItem, lexemesOthers⟩ := List.map_eq_append_iff.mp lexemesLater
    obtain ⟨less, rfl⟩ := Nat.exists_eq_add_of_le' enough.2
    simp only [List.length_cons, List.length_append] at enough
    have room : 1 ≤ ofItem.length := by
      obtain ⟨token, more, rfl, _⟩ := first_token lexemesItem
      simp
    obtain ⟨result, read, isItem⟩ := itemParses less false ofItem (ofOthers ++ others) anchors handles
      lexemesItem (fun isSeq => Bool.noConfusion (itemFlat.symm.trans isSeq)) (by omega)
    obtain ⟨nodes, further, areItems⟩ := ih less otherParses otherFlat lexemesOthers (by omega)
    obtain ⟨token, more, rfl, _, goes⟩ := first_token lexemesItem
    refine ⟨result :: nodes, ?_, result, nodes, rfl, isItem, areItems⟩
    simp only [List.cons_append, List.append_assoc] at read ⊢
    exact indentlessItems_cons isDash (goes itemFlat) read further

theorem entries_parse (fuel : Nat) {entries : List (String × Tree)} {stop : Token}
    (each : ∀ entry ∈ entries, Parses entry.2) (lexemes : found.map (·.lexeme) = Tree.entryLexemes entries)
    (ends : stop.lexeme = .blockEnd) (enough : 3 * found.length ≤ fuel + 2 ∧ 1 ≤ fuel) :
    ∃ pairs, blockEntries fuel ⟨found ++ stop :: others, anchors, handles⟩ =
      .ok (pairs, ⟨others, anchors, handles⟩) ∧ Tree.EntriesReadAs entries pairs := by
  induction entries generalizing found fuel with
  | nil =>
    obtain rfl : found = [] := List.map_eq_nil_iff.mp lexemes
    obtain ⟨less, rfl⟩ := Nat.exists_eq_add_of_le' enough.2
    exact ⟨[], blockEntries_nil ends, rfl⟩
  | cons entry entries ih =>
    obtain ⟨name, tree⟩ := entry
    obtain ⟨treeParses, otherParses⟩ := List.forall_mem_cons.mp each
    obtain ⟨key, _, rfl, isKey, lexemes⟩ := List.map_eq_cons_iff.mp lexemes
    obtain ⟨scalar, _, rfl, isName, lexemes⟩ := List.map_eq_cons_iff.mp lexemes
    obtain ⟨value, _, rfl, isValue, lexemes⟩ := List.map_eq_cons_iff.mp lexemes
    obtain ⟨ofTree, ofOthers, rfl, lexemesTree, lexemesOthers⟩ := List.map_eq_append_iff.mp lexemes
    obtain ⟨less, rfl⟩ := Nat.exists_eq_add_of_le' enough.2
    simp only [List.length_cons, List.length_append] at enough
    have noDash : ∀ token ∈ (ofOthers ++ stop :: others).head?, token.lexeme ≠ .blockEntry := by
      intro token first
      cases entries with
      | nil =>
        obtain rfl : ofOthers = [] := List.map_eq_nil_iff.mp lexemesOthers
        obtain rfl : stop = token := by simpa using first
        simp [ends]
      | cons entry entries =>
        obtain ⟨another, _, rfl, isAnother, _⟩ := List.map_eq_cons_iff.mp lexemesOthers
        obtain rfl : another = token := by simpa using first
        simp [isAnother]
    obtain ⟨result, read, isTree⟩ := treeParses less true ofTree (ofOthers ++ stop :: others) anchors
      handles lexemesTree (fun _ => ⟨rfl, noDash⟩) (by omega)
    obtain ⟨pairs, further, areEntries⟩ := ih less otherParses lexemesOthers (by omega)
    obtain ⟨token, more, rfl, starts, _⟩ := first_token lexemesTree
    refine ⟨(.scalar scalar.start none .plain name, result) :: pairs, ?_,
      scalar.start, result, pairs, rfl, isTree, areEntries⟩
    simp only [List.cons_append, List.append_assoc] at read ⊢
    exact blockEntries_cons (by omega) isKey isName isValue starts read further

theorem regular_parses {tree : Tree} (regular : tree.Regular) : Parses tree := by
  induction regular with
  | scalar text =>
    intro fuel indentless found others anchors handles lexemes _ enough
    obtain ⟨token, rfl, is⟩ := List.map_eq_singleton_iff.mp lexemes
    obtain ⟨less, rfl⟩ := Nat.exists_eq_add_of_le' (show 2 ≤ fuel by simp at enough; omega)
    exact ⟨_, node_scalar is, token.start, rfl⟩
  | @seq items each flat ih =>
    intro fuel indentless found others anchors handles lexemes ends enough
    obtain ⟨rfl, noDash⟩ := ends rfl
    by_cases empty : items = []
    · subst empty
      obtain ⟨token, _, rfl, opens, lexemes⟩ := List.map_eq_cons_iff.mp lexemes
      obtain ⟨close, rfl, closes⟩ := List.map_eq_singleton_iff.mp lexemes
      obtain ⟨less, rfl⟩ := Nat.exists_eq_add_of_le' (show 3 ≤ fuel by simp at enough; omega)
      exact ⟨_, node_empty opens closes, token.start, [], rfl, rfl⟩
    · rw [lexemes_items empty] at lexemes
      obtain ⟨item, items, rfl⟩ := List.exists_cons_of_ne_nil empty
      obtain ⟨token, later, rfl, isDash, _⟩ := List.map_eq_cons_iff.mp lexemes
      rw [List.length_cons] at enough
      obtain ⟨less, rfl⟩ := Nat.exists_eq_add_of_le' (show 2 ≤ fuel by omega)
      have room : 3 * (token :: later).length ≤ less + 2 ∧ 1 ≤ less := by
        rw [List.length_cons]
        omega
      obtain ⟨nodes, read, areItems⟩ := items_parse less ih flat lexemes noDash room
      exact ⟨_, node_items isDash read, token.start, nodes, rfl, areItems⟩
  | @map entries nonempty names each ih =>
    intro fuel indentless found others anchors handles lexemes _ enough
    obtain ⟨token, _, rfl, opens, lexemes⟩ := List.map_eq_cons_iff.mp lexemes
    obtain ⟨ofEntries, _, rfl, lexemesEntries, lexemes⟩ := List.map_eq_append_iff.mp lexemes
    obtain ⟨stop, rfl, closes⟩ := List.map_eq_singleton_iff.mp lexemes
    simp only [List.length_cons, List.length_append] at enough
    obtain ⟨less, rfl⟩ := Nat.exists_eq_add_of_le' (show 2 ≤ fuel by omega)
    obtain ⟨pairs, read, areEntries⟩ := entries_parse less ih lexemesEntries closes (by omega)
    refine ⟨.map token.start none pairs, ?_, token.start, pairs, rfl, areEntries⟩
    rw [List.cons_append, List.append_assoc]
    exact node_entries opens read

end Trees

/-- The text of a mapping is read as the mapping. -/
theorem read_render {entries : List (String × Tree)} (regular : (Tree.map entries).Regular) :
    ∃ node, Node.read (Tree.map entries).render = .ok node ∧ (Tree.map entries).ReadAs node := by
  obtain ⟨found, scanned, lexemes⟩ := tokens_render regular
  obtain ⟨ofTree, _, rfl, lexemesTree, lexemes⟩ := List.map_eq_append_iff.mp lexemes
  obtain ⟨stop, rfl, ends⟩ := List.map_eq_singleton_iff.mp lexemes
  obtain ⟨node, read, isTree⟩ := regular_parses regular (3 * (ofTree.length + 1) + 3) false ofTree [stop] []
    standardHandles lexemesTree (fun isSeq => Bool.noConfusion isSeq) (by omega)
  refine ⟨node, ?_, isTree⟩
  obtain ⟨token, more, rfl, opens, _⟩ := List.map_eq_cons_iff.mp lexemesTree
  have first : firstDocument (3 * ((token :: more).length + 1) + 3) ⟨token :: more ++ [stop], [], []⟩ =
      .ok (node, ⟨[stop], [], standardHandles⟩) := by
    rw [← read]
    simp [firstDocument, peek, opens]
  have length : (token :: more ++ [stop]).length = (token :: more).length + 1 := List.length_append
  have whole : document ⟨token :: more ++ [stop], [], []⟩ = .ok node := by
    simp only [document, length, first, bind, Except.bind]
    simp [peek, ends, isDocumentEnd, pure, Except.pure]
  rw [Node.read, scanned]
  exact whole

end Reading
end SemanticLayer.Yaml
