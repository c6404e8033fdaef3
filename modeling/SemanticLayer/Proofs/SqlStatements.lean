import SemanticLayer.Proofs.SqlScripts
import SemanticLayer.Proofs.WellFormed

/-! The statements of a script. A semicolon ends one, and comments and the blanks around a statement do
not belong to it. A script that verifies a definition is its heading, which is a comment, and one call
(`verify_one_call`). The names in the heading are not quoted, though: what follows a line break in one of
them is no longer in the comment, and a warehouse would run it (`verify_broken_name`). -/
namespace SemanticLayer.Sql

/-- Whether a piece is a blank between statements. -/
def Piece.isBlank : Piece → Bool
  | .char c => Text.isBlank c
  | .literal _ => false

/-- Whether a piece ends a statement. -/
def Piece.isEnd (p : Piece) : Bool := p == .char ';'

/-- Pieces without the blanks around them. -/
def trimmed (ps : List Piece) : List Piece := (ps.dropWhile Piece.isBlank).rdropWhile Piece.isBlank

/-- The statements that pieces make up; the last one need not be ended. -/
def grouped (ps : List Piece) : List (List Piece) :=
  ((ps.splitOnP Piece.isEnd).map trimmed).filter fun statement => !statement.isEmpty

/-- The statements of a script. -/
def statements (script : String) : List (List Piece) := grouped (pieces script.toList)

-- A semicolon in a comment or in a literal ends nothing.
example : statements "-- a;\nUSE b; CALL c('d;--', $$;$$)\n;" = ["USE b".toList.map .char,
    "CALL c(".toList.map .char ++
      [.literal "d;--".toList, .char ',', .char ' ', .literal [';'], .char ')']] := by
  cbv

section Grouping
variable {p : Piece} {ps rest : List Piece}

theorem trimmed_blank (blank : p.isBlank = true) : trimmed (p :: ps) = trimmed ps := by
  simp only [trimmed, List.dropWhile_cons, blank, if_true]

/-- Pieces that start and end with other than a blank are trimmed. -/
theorem trimmed_self {first last : Piece} (starts : ps.head? = some first) (ends : ps.getLast? = some last)
    (shown : first.isBlank = false ∧ last.isBlank = false) : trimmed ps = ps := by
  obtain ⟨others, rfl⟩ := List.getLast?_eq_some_iff.mp ends
  have opening : (others ++ [last]).dropWhile Piece.isBlank = others ++ [last] := by
    cases others with
    | nil => exact List.dropWhile_cons_of_neg (by simp [shown.2])
    | cons p others =>
      cases starts
      exact List.dropWhile_cons_of_neg (by simp [shown.1])
  rw [trimmed, opening]
  exact List.rdropWhile_concat_neg _ _ _ (by simp [shown.2])

theorem unended_chars {cs : List Char} (single : cs.all (· != ';') = true) :
    ∀ q ∈ cs.map Piece.char, q.isEnd = false := by
  intro q member
  obtain ⟨c, listed, rfl⟩ := List.mem_map.mp member
  simpa [Piece.isEnd] using List.all_eq_true.mp single c listed

theorem grouped_cons (unended : ∀ q ∈ ps, q.isEnd = false) (something : trimmed ps ≠ []) :
    grouped (ps ++ .char ';' :: rest) = trimmed ps :: grouped rest := by
  rw [grouped, List.splitOnP_append_cons_of_forall_mem unended _ rfl, List.map_cons,
    List.filter_cons_of_pos (by simpa using something)]
  rfl

end Grouping

/-! ### Calls -/

theorem Call.unended (call : Call) : ∀ p ∈ call.pieces, p.isEnd = false := by
  have ends : (Call.closing call.verifyOnly).all (· != ';') = true := by
    cases call.verifyOnly <;> rfl
  intro p member
  simp only [Call.pieces, List.mem_append, List.mem_cons] at member
  rcases member with opening | rfl | between | rfl | flagged | closing
  · exact unended_chars rfl p opening
  · rfl
  · exact unended_chars rfl p between
  · rfl
  · exact unended_chars rfl p flagged
  · exact unended_chars ends p closing

theorem Call.trimmed_pieces (call : Call) : trimmed call.pieces = call.pieces := by
  obtain ⟨schema, definition, verifyOnly⟩ := call
  have last : ((closing verifyOnly).map Piece.char).getLast? = some (.char ')') := by
    cases verifyOnly <;> rfl
  have ends : (Call.mk schema definition verifyOnly).pieces.getLast? = some (.char ')') := by
    simp [Call.pieces, List.getLast?_append, List.getLast?_cons, last]
  exact trimmed_self rfl ends ⟨rfl, rfl⟩

/-- After the blank that is left of a heading, a call is one statement. -/
theorem grouped_call (call : Call) (rest : List Piece) :
    grouped (.char '\n' :: (call.pieces ++ .char ';' :: rest)) = call.pieces :: grouped rest := by
  have unended : ∀ p ∈ Piece.char '\n' :: call.pieces, p.isEnd = false :=
    List.forall_mem_cons.mpr ⟨rfl, call.unended⟩
  have same : trimmed (.char '\n' :: call.pieces) = call.pieces :=
    (trimmed_blank rfl).trans call.trimmed_pieces
  have something : call.pieces ≠ [] := by simp [Call.pieces]
  rw [← List.cons_append, grouped_cons unended (same.symm ▸ something), same]

/-! ### Headings -/

section Headings
variable {cs line rest : List Char} {view : View}

/-- Of a comment, what follows its line is left. -/
theorem pieces_comment (cs : List Char) :
    pieces ('-' :: '-' :: cs) = pieces (cs.dropWhile (· ≠ '\n')) := by
  rw [pieces, if_pos ⟨rfl, rfl⟩, List.dropWhile_cons_of_pos (by decide)]

theorem pieces_line_comment (unbroken : '\n' ∉ line) (rest : List Char) :
    pieces ('-' :: '-' :: (line ++ '\n' :: rest)) = .char '\n' :: pieces rest := by
  have whole : ∀ c ∈ line, decide (c ≠ '\n') = true := by
    intro c member
    have other : c ≠ '\n' := fun same => unbroken (same ▸ member)
    simpa using other
  rw [pieces_comment, List.dropWhile_append_of_pos whole, List.dropWhile_cons_of_neg (by decide)]
  exact pieces_char (by decide) (by decide) nofun

theorem versionLabel_unbroken (version : Option Int) : '\n' ∉ (versionLabel version).toList := by
  have digits (n : Nat) : '\n' ∉ n.repr.toList := by
    intro member
    rw [Nat.toList_repr] at member
    exact absurd (Nat.isDigit_of_mem_toDigits (by decide) (by decide) member) (by decide)
  cases version with
  | none =>
    show '\n' ∉ "unversioned".toList
    decide
  | some n =>
    cases n with
    | ofNat n => exact digits n
    | negSucc n =>
      show '\n' ∉ ("-" ++ n.succ.repr).toList
      rw [String.toList_append, List.mem_append]
      rintro (sign | digit)
      · exact absurd sign (by decide)
      · exact digits _ digit

/-- What the heading of a script that verifies has behind the name of its view. -/
def headingEnd (version : Option Int) : List Char := (s!" (version {versionLabel version})").toList

theorem verifyScript_chars (view : View) (yaml : String) (version : Option Int) :
    (verifyScript view yaml version).toList = '-' :: '-' :: (" Verify semantic view ".toList ++
      view.qualifiedName.toList ++ headingEnd version ++ '\n' :: (createCall view yaml true).toList) := by
  have written : verifyScript view yaml version = "-- Verify semantic view " ++ view.qualifiedName ++
      " (version " ++ versionLabel version ++ ")\n" ++ createCall view yaml true := rfl
  have ended : headingEnd version = " (version ".toList ++ (versionLabel version).toList ++ [')'] := by
    show (" (version " ++ versionLabel version ++ ")").toList = _
    simp only [String.toList_append]
    rfl
  have opens : "-- Verify semantic view ".toList = '-' :: '-' :: " Verify semantic view ".toList := rfl
  have closes : ")\n".toList = [')', '\n'] := rfl
  rw [written, ended]
  simp only [String.toList_append, opens, closes, List.append_assoc, List.cons_append, List.nil_append]

theorem headingEnd_unbroken (version : Option Int) : '\n' ∉ headingEnd version := by
  show '\n' ∉ (" (version " ++ versionLabel version ++ ")").toList
  simp only [String.toList_append, List.mem_append, not_or]
  exact ⟨⟨by decide, versionLabel_unbroken version⟩, by decide⟩

theorem pieces_createCall (view : View) (yaml : String) (verifyOnly : Bool) :
    pieces (createCall view yaml verifyOnly).toList =
      (Call.creating view yaml verifyOnly).pieces ++ [.char ';', .char '\n'] := by
  have read := pieces_call view yaml verifyOnly []
  rwa [List.append_nil, pieces_nil] at read

/-- A script that verifies a definition is one call, if no name in its heading breaks the line. -/
theorem verify_statements (unbroken : '\n' ∉ view.qualifiedName.toList) (yaml : String)
    (version : Option Int) :
    statements (verifyScript view yaml version) = [(Call.creating view yaml true).pieces] := by
  have line : '\n' ∉ " Verify semantic view ".toList ++ view.qualifiedName.toList ++ headingEnd version := by
    simp only [List.mem_append, not_or]
    exact ⟨⟨by decide, unbroken⟩, headingEnd_unbroken version⟩
  rw [statements, verifyScript_chars, pieces_line_comment line, pieces_createCall, grouped_call]
  rfl

/-- What a name has behind a line break is read as statements. -/
theorem verify_broken_name (name : view.qualifiedName.toList = line ++ '\n' :: rest)
    (unbroken : '\n' ∉ line) (yaml : String) (version : Option Int) :
    statements (verifyScript view yaml version) = grouped (.char '\n' ::
      pieces (rest ++ headingEnd version ++ '\n' :: (createCall view yaml true).toList)) := by
  have start : '\n' ∉ " Verify semantic view ".toList ++ line := by
    simp only [List.mem_append, not_or]
    exact ⟨by decide, unbroken⟩
  have parted : " Verify semantic view ".toList ++ view.qualifiedName.toList ++ headingEnd version ++
        '\n' :: (createCall view yaml true).toList =
      (" Verify semantic view ".toList ++ line) ++ '\n' ::
        (rest ++ headingEnd version ++ '\n' :: (createCall view yaml true).toList) := by
    rw [name]
    simp only [List.append_assoc, List.cons_append]
  rw [statements, verifyScript_chars, parted, pieces_line_comment start]

/-- A name can bring a statement of its own, which is then run before the call: it starts behind a line
break, and the rest of the heading is made a comment again. -/
theorem verify_smuggled {statement : List Char}
    (name : view.qualifiedName.toList = line ++ '\n' :: (statement ++ ';' :: '-' :: '-' :: rest))
    (unbroken : '\n' ∉ line ∧ '\n' ∉ rest) (plain : quiet statement = true)
    (single : statement.all (· != ';') = true) (something : statement ≠ [])
    (whole : trimmed (statement.map .char) = statement.map .char) (yaml : String) (version : Option Int) :
    statements (verifyScript view yaml version) =
      [statement.map .char, (Call.creating view yaml true).pieces] := by
  have ended : quiet [';'] = true := rfl
  have tail : '\n' ∉ rest ++ headingEnd version := by
    rw [List.mem_append, not_or]
    exact ⟨unbroken.2, headingEnd_unbroken version⟩
  have unended : ∀ p ∈ Piece.char '\n' :: statement.map Piece.char, p.isEnd = false :=
    List.forall_mem_cons.mpr ⟨rfl, unended_chars single⟩
  have same : trimmed (.char '\n' :: statement.map Piece.char) = statement.map .char :=
    (trimmed_blank rfl).trans whole
  have shown : trimmed (.char '\n' :: statement.map Piece.char) ≠ [] := by
    rw [same]
    simpa using something
  have read : pieces (statement ++ ';' :: '-' :: '-' :: rest ++ headingEnd version ++
      '\n' :: (createCall view yaml true).toList) = statement.map Piece.char ++ .char ';' :: .char '\n' ::
        pieces (createCall view yaml true).toList := by
    simp only [List.append_assoc, List.cons_append]
    rw [pieces_quiet plain, ← List.singleton_append, pieces_quiet ended, ← List.append_assoc rest,
      pieces_line_comment tail]
    rfl
  rw [verify_broken_name name unbroken.1, read, ← List.cons_append, grouped_cons unended shown, same,
    pieces_createCall, grouped_call]
  rfl

end Headings

/-- The script that verifies the view of a document is one statement, which is the verifying call, if the
names of the view have no line breaks. -/
theorem verify_one_call : ∀ (files : FileTree) (source : Document.Source) (options : CompileOptions)
    (o : Ontology) (b : Bundle), Document.loadValid files source = .ok o →
    Compile.bundle o options = .ok b → ∃ view script, Compile.resolveView o options = .ok view ∧
      b.file? Compile.verifyPath = some ⟨Compile.verifyPath, script⟩ ∧
      ('\n' ∉ view.qualifiedName.toList →
        statements script = [(Call.creating view (Model.build o view).render true).pieces]) := by
  intro files source options o b _ compiled
  obtain ⟨view, resolved, _, verify, _⟩ := Compile.scripts_found compiled
  exact ⟨view, _, resolved, verify, fun unbroken => verify_statements unbroken _ _⟩

theorem loadValid_value (files : FileTree) (root : Json)
    (valid : (Document.validate root).isValid = true) :
    Document.loadValid files (.value root) = .ok (normalize root) :=
  Document.loadValid_ok.mpr ⟨root, rfl, valid, rfl⟩

theorem orders_verified : ∃ b script,
    Document.loadValid (.empty "/") (.value Document.orders) = .ok (normalize Document.orders) ∧
    Compile.bundle (normalize Document.orders) ⟨some "orders", none, none, some 3, ⟨0⟩⟩ = .ok b ∧
    b.file? Compile.verifyPath = some ⟨Compile.verifyPath, script⟩ ∧
    '\n' ∉ (View.qualifiedName ⟨"DB", "PUBLIC", "orders"⟩).toList ∧
    statements script = [(Call.creating ⟨"DB", "PUBLIC", "orders"⟩
      (Model.build (normalize Document.orders) ⟨"DB", "PUBLIC", "orders"⟩).render true).pieces] := by
  have loaded := loadValid_value (.empty "/") Document.orders (by decide)
  have resolved : Compile.resolveView (normalize Document.orders)
      ⟨some "orders", none, none, some 3, ⟨0⟩⟩ = .ok ⟨"DB", "PUBLIC", "orders"⟩ := by decide
  have unbroken : '\n' ∉ (View.qualifiedName ⟨"DB", "PUBLIC", "orders"⟩).toList := by decide
  obtain ⟨b, compiled⟩ := Compile.bundle_isOk resolved (by decide)
  obtain ⟨view, script, same, verify, one⟩ := verify_one_call _ _ _ _ b loaded compiled
  cases resolved.symm.trans same
  exact ⟨b, script, loaded, compiled, verify, unbroken, one unbroken⟩

/-- A document whose database has a statement in its name. -/
def droppingDocument : Json :=
  .obj [
    ("objects", .arr [.obj [("identifiers", .arr [.str "id"]), ("name", .str "Order"),
      ("properties", .arr [.obj [("name", .str "id"), ("type", .str "integer")]])]]),
    ("snowflake", .obj [("database", .str "DB\nDROP TABLE ORDERS;--"), ("schema", .str "PUBLIC")]),
    ("version", .str "1.0.0")]

/-- The view of that document. -/
def droppingView : View := ⟨"DB\nDROP TABLE ORDERS;--", "PUBLIC", "orders"⟩

/-- A valid document can have a script that drops a table before it verifies. -/
theorem verify_drops_table : ∃ b script,
    Document.loadValid (.empty "/") (.value droppingDocument) = .ok (normalize droppingDocument) ∧
    Compile.bundle (normalize droppingDocument) ⟨some "orders", none, none, none, ⟨0⟩⟩ = .ok b ∧
    Compile.resolveView (normalize droppingDocument) ⟨some "orders", none, none, none, ⟨0⟩⟩ =
      .ok droppingView ∧
    b.file? Compile.verifyPath = some ⟨Compile.verifyPath, script⟩ ∧
    statements script = ["DROP TABLE ORDERS".toList.map .char,
      (Call.creating droppingView (Model.build (normalize droppingDocument) droppingView).render
        true).pieces] := by
  have loaded := loadValid_value (.empty "/") droppingDocument (by decide)
  have resolved : Compile.resolveView (normalize droppingDocument) ⟨some "orders", none, none, none, ⟨0⟩⟩ =
      .ok droppingView := by decide
  obtain ⟨b, compiled⟩ := Compile.bundle_isOk resolved (by decide)
  obtain ⟨view, same, _, verify, _⟩ := Compile.scripts_found compiled
  cases resolved.symm.trans same
  have name : droppingView.qualifiedName.toList = "DB".toList ++ '\n' ::
      ("DROP TABLE ORDERS".toList ++ ';' :: '-' :: '-' :: ".PUBLIC.orders".toList) := rfl
  exact ⟨b, _, loaded, compiled, resolved, verify,
    verify_smuggled name (by decide) rfl rfl (by decide) rfl _ _⟩

end SemanticLayer.Sql
