import SemanticLayer.Promotion.Rollback
import SemanticLayer.Provider.Catalog
import SemanticLayer.Proofs.BundleContents

/-! SQL as a warehouse reads it. Literals are read from the front of a text, and what is outside of them
and of comments is kept character by character. Quoting is undone by reading whatever follows, so the
call in a script has its arguments as they were given (`pieces_call`); reading the quoted text of a
definition rests on the line feed at its end, which keeps a dollar sign of the definition apart from the
closing pair. Main statement: `definitions_carried`. -/
namespace SemanticLayer.Sql

/-! ### Literals -/

/-- A literal of which one more character is read. -/
def longer (c : Char) (read : Option (List Char × List Char)) : Option (List Char × List Char) :=
  read.map fun (text, behind) => (c :: text, behind)

/-- The text of a literal in single quotes and what follows it, the first quote being read. It ends at
the first quote that is not doubled; a backslash stands for the character behind it. -/
def readQuoted : List Char → Option (List Char × List Char)
  | '\\' :: c :: rest => longer c (readQuoted rest)
  | '\'' :: '\'' :: rest => longer '\'' (readQuoted rest)
  | '\'' :: rest => some ([], rest)
  | c :: rest => longer c (readQuoted rest)
  | [] => none

/-- The text of a literal between pairs of dollar signs and what follows it, the first pair being read.
It is taken as it stands. -/
def readDollars : List Char → Option (List Char × List Char)
  | '$' :: '$' :: rest => some ([], rest)
  | c :: rest => longer c (readDollars rest)
  | [] => none

/-- The text of the literal at the front of a text and what follows it. -/
def readLiteral : List Char → Option (List Char × List Char)
  | '\'' :: rest => readQuoted rest
  | '$' :: '$' :: rest => readDollars rest
  | _ => none

section Literals
variable {c : Char} {cs text rest : List Char}

theorem longer_shorter {read : Option (List Char × List Char)} {bound : Nat}
    (found : longer c read = some (text, rest))
    (shorter : ∀ inner, read = some (inner, rest) → rest.length < bound) : rest.length < bound := by
  obtain ⟨⟨inner, behind⟩, found, same⟩ := Option.map_eq_some_iff.mp found
  cases same
  exact shorter inner found

theorem readQuoted_shorter (read : readQuoted cs = some (text, rest)) : rest.length < cs.length := by
  fun_induction readQuoted cs generalizing text with
  | case1 c cs ih =>
    have shorter := longer_shorter read fun _ => ih
    simp only [List.length_cons]
    omega
  | case2 cs ih =>
    have shorter := longer_shorter read fun _ => ih
    simp only [List.length_cons]
    omega
  | case3 cs =>
    cases read
    simp
  | case4 c cs _ _ _ ih =>
    have shorter := longer_shorter read fun _ => ih
    simp only [List.length_cons]
    omega
  | case5 => cases read

theorem readDollars_shorter (read : readDollars cs = some (text, rest)) : rest.length < cs.length := by
  fun_induction readDollars cs generalizing text with
  | case1 cs =>
    cases read
    simp only [List.length_cons]
    omega
  | case2 c cs _ ih =>
    have shorter := longer_shorter read fun _ => ih
    simp only [List.length_cons]
    omega
  | case3 => cases read

theorem readLiteral_shorter (read : readLiteral cs = some (text, rest)) : rest.length < cs.length := by
  unfold readLiteral at read
  split at read
  · have shorter := readQuoted_shorter read
    simp only [List.length_cons]
    omega
  · have shorter := readDollars_shorter read
    simp only [List.length_cons]
    omega
  · cases read

/-- Doubling quotes adds no backslash and keeps those that are doubled already, so that one pass escapes a
text. -/
theorem escape_eq (cs : List Char) :
    escape cs = cs.flatMap fun c => if c = '\\' ∨ c = '\'' then [c, c] else [c] := by
  rw [escape, Text.replaceChar, Text.replaceChar, List.flatMap_assoc]
  refine List.flatMap_congr fun c _ => ?_
  by_cases backslash : c = '\\'
  · simp [backslash]
  · by_cases quote : c = '\'' <;> simp [backslash, quote]

theorem readQuoted_escape (cs : List Char) (ends : rest.head? ≠ some '\'') :
    readQuoted (escape cs ++ '\'' :: rest) = some (cs, rest) := by
  rw [escape_eq]
  induction cs with
  | nil =>
    cases rest with
    | nil => rfl
    | cons c rest =>
      have other : c ≠ '\'' := fun same => ends (congrArg some same)
      simp [readQuoted, other]
  | cons c cs ih =>
    rw [List.flatMap_cons, List.append_assoc]
    by_cases backslash : c = '\\'
    · subst backslash
      simp [readQuoted, ih, longer]
    · by_cases quote : c = '\''
      · subst quote
        simp [readQuoted, ih, longer]
      · simp [backslash, quote, readQuoted, ih, longer]

theorem readLiteral_quote (cs : List Char) (ends : rest.head? ≠ some '\'') :
    readLiteral (quoteChars cs ++ rest) = some (cs, rest) := by
  simpa [quoteChars, readLiteral] using readQuoted_escape cs ends

/-- Whether no two dollar signs stand together in a text, nor would if another text followed it. -/
def unpaired (cs : List Char) : Bool :=
  !Text.containsPart ['$', '$'] cs && cs.getLast? != some '$'

theorem unpaired_cons (apart : unpaired (c :: cs) = true) :
    unpaired cs = true ∧ ∀ rest, c = '$' → (cs ++ rest).head? ≠ some '$' := by
  simp only [unpaired, Text.containsPart, Bool.and_eq_true, Bool.not_eq_true', Bool.or_eq_false_iff,
    bne_iff_ne] at apart ⊢
  obtain ⟨⟨notHere, notLater⟩, ends⟩ := apart
  cases cs with
  | nil =>
    refine ⟨⟨rfl, nofun⟩, fun _ dollar => absurd ?_ ends⟩
    rw [dollar]
    rfl
  | cons d cs =>
    refine ⟨⟨notLater, by rwa [List.getLast?_cons_cons] at ends⟩, fun rest dollar next => ?_⟩
    obtain rfl : d = '$' := Option.some.inj next
    subst dollar
    simp at notHere

theorem readDollars_verbatim (apart : unpaired cs = true) (rest : List Char) :
    readDollars (cs ++ '$' :: '$' :: rest) = some (cs, rest) := by
  induction cs with
  | nil => rfl
  | cons c cs ih =>
    obtain ⟨further, alone⟩ := unpaired_cons apart
    have noPair : ∀ tail, c = '$' → cs ++ '$' :: '$' :: rest ≠ '$' :: tail := by
      intro tail dollar next
      exact alone ('$' :: '$' :: rest) dollar (by rw [next]; rfl)
    rw [List.cons_append, readDollars, ih further]
    · rfl
    · exact noPair

/-! ### Definitions -/

/-- A definition as it stands in a script, on lines of its own: behind a line feed, and before another one
unless it ends in one itself. -/
def ownLines (definition : String) : List Char :=
  '\n' :: definition.toList ++ if ['\n'] <:+ definition.toList then [] else ['\n']

theorem endLine_eq (cs : List Char) : endLine cs = cs ++ if ['\n'] <:+ cs then [] else ['\n'] := by
  have ends : cs.getLast? = some '\n' ↔ ['\n'] <:+ cs := by
    rw [List.getLast?_eq_some_iff]
    exact exists_congr fun _ => eq_comm
  unfold endLine
  by_cases ended : ['\n'] <:+ cs
  · rw [if_pos (ends.mpr ended), if_pos ended, List.append_nil]
  · rw [if_neg (mt ends.mp ended), if_neg ended]

theorem ownLines_eq (definition : String) : ownLines definition = '\n' :: endLine definition.toList := by
  rw [endLine_eq]
  rfl

theorem ownLines_last (definition : String) : (ownLines definition).getLast? = some '\n' := by
  unfold ownLines
  split
  · next ends =>
    obtain ⟨front, same⟩ := ends
    rw [List.append_nil, ← same, ← List.cons_append, List.getLast?_concat]
  · exact List.getLast?_concat

theorem readLiteral_block (definition : String) (ends : rest.head? ≠ some '\'') :
    readLiteral ((block definition).toList ++ rest) = some (ownLines definition, rest) := by
  unfold block
  dsimp only
  split
  · rw [String.toList_ofList, ownLines_eq]
    exact readLiteral_quote _ ends
  · rename_i noPair
    have apart : unpaired (ownLines definition) = true := by
      rw [unpaired, ownLines_last]
      simpa [ownLines_eq, Text.containsPart, List.isPrefixOf] using noPair
    simpa [readLiteral, ownLines_eq] using readDollars_verbatim apart rest

end Literals

/-! ### Scripts -/

/-- A piece of a script: a character, or a literal as a unit with the text that it stands for. -/
inductive Piece where
  | char (c : Char)
  | literal (text : List Char)
  deriving DecidableEq, Repr

/-- The pieces of a script outside of comments, which go from two hyphens to the end of the line. A
quote that is never closed opens no literal. -/
def pieces : List Char → List Piece
  | [] => []
  | c :: rest =>
    if c = '-' ∧ rest.head? = some '-' then pieces (rest.dropWhile (· ≠ '\n'))
    else match _read : readLiteral (c :: rest) with
      | some (text, behind) => .literal text :: pieces behind
      | none => .char c :: pieces rest
termination_by cs => cs.length
decreasing_by
  · exact Nat.lt_succ_of_le (List.length_dropWhile_le _ _)
  · exact readLiteral_shorter _read
  · exact Nat.lt_succ_self _

section Pieces
variable {c : Char} {cs text rest : List Char}

@[simp] theorem pieces_nil : pieces [] = [] := by rw [pieces]

theorem pieces_literal (read : readLiteral cs = some (text, rest)) :
    pieces cs = .literal text :: pieces rest := by
  cases cs with
  | nil => cases read
  | cons c cs =>
    have noComment : ¬ (c = '-' ∧ cs.head? = some '-') := by
      rintro ⟨rfl, _⟩
      simp [readLiteral] at read
    rw [pieces, if_neg noComment]
    split
    · rename_i found
      cases read.symm.trans found
      rfl
    · rename_i none
      cases read.symm.trans none

theorem pieces_char (noQuote : c ≠ '\'') (noComment : c ≠ '-')
    (noPair : c = '$' → rest.head? ≠ some '$') : pieces (c :: rest) = .char c :: pieces rest := by
  have noLiteral : readLiteral (c :: rest) = none := by
    unfold readLiteral
    split
    · rename_i same
      exact absurd (List.cons.inj same).1 noQuote
    · rename_i same
      obtain ⟨dollar, next⟩ := List.cons.inj same
      exact absurd (by rw [next]; rfl) (noPair dollar)
    · rfl
  rw [pieces, if_neg (fun comment => noComment comment.1)]
  split
  · rename_i found
    cases noLiteral.symm.trans found
  · rfl

/-- Whether nothing in a text opens a literal or a comment. -/
def quiet (cs : List Char) : Bool := unpaired cs && cs.all fun c => c != '\'' && c != '-'

theorem pieces_quiet (opensNone : quiet cs = true) (rest : List Char) :
    pieces (cs ++ rest) = cs.map .char ++ pieces rest := by
  induction cs with
  | nil => rfl
  | cons c cs ih =>
    simp only [quiet, Bool.and_eq_true, List.all_cons, bne_iff_ne] at opensNone ih
    obtain ⟨apart, ⟨noQuote, noComment⟩, others⟩ := opensNone
    obtain ⟨further, alone⟩ := unpaired_cons apart
    rw [List.cons_append, pieces_char noQuote noComment (alone rest), ih ⟨further, others⟩]
    rfl

end Pieces

/-! ### Calls -/

/-- The arguments of a call that creates a view, or only verifies it. -/
structure Call where
  schema : List Char
  definition : List Char
  verifyOnly : Bool
  deriving DecidableEq, Repr

namespace Call

/-- The text of a call before its first argument. -/
def opening : List Char := "CALL SYSTEM$CREATE_SEMANTIC_VIEW_FROM_YAML(\n  ".toList

/-- The text between the first two arguments. -/
def between : List Char := ",\n  ".toList

/-- The text from the second argument to the last. -/
def flagged : List Char := ",\n  verify_only => ".toList

/-- The last argument and the end of a call. -/
def closing (verifyOnly : Bool) : List Char := (if verifyOnly then "TRUE\n)" else "FALSE\n)").toList

/-- The pieces of a call. -/
def pieces (call : Call) : List Piece :=
  opening.map .char ++ .literal call.schema :: (between.map .char ++ .literal call.definition ::
    (flagged.map .char ++ (closing call.verifyOnly).map .char))

/-- The call that creates a view from a definition. -/
def creating (view : View) (definition : String) (verifyOnly : Bool) : Call :=
  ⟨s!"{view.database}.{view.schema}".toList, ownLines definition, verifyOnly⟩

theorem closing_quiet (verifyOnly : Bool) : quiet (closing verifyOnly) = true := by
  cases verifyOnly <;> rfl

theorem pieces_injective {call other : Call} {rest behind : List Piece}
    (same : call.pieces ++ rest = other.pieces ++ behind) : call = other := by
  obtain ⟨schema, definition, verifyOnly⟩ := call
  obtain ⟨schema', definition', verifyOnly'⟩ := other
  simp only [pieces, List.append_assoc, List.cons_append, List.append_cancel_left_eq, List.cons.injEq,
    Piece.literal.injEq] at same
  obtain ⟨sameSchema, sameDefinition, ends⟩ := same
  have sameFlag : verifyOnly = verifyOnly' := by
    cases verifyOnly <;> cases verifyOnly' <;> simp [closing] at ends ⊢
  rw [sameSchema, sameDefinition, sameFlag]

end Call

theorem createCall_chars (view : View) (definition : String) (verifyOnly : Bool) :
    (createCall view definition verifyOnly).toList = Call.opening ++
      (quoteChars view.qualifiedSchema.toList ++ (Call.between ++ ((block definition).toList ++
        (Call.flagged ++ (Call.closing verifyOnly ++ [';', '\n']))))) := by
  have written : createCall view definition verifyOnly =
      "CALL SYSTEM$CREATE_SEMANTIC_VIEW_FROM_YAML(\n  " ++ quote view.qualifiedSchema ++ ",\n" ++
        ("  " ++ block definition ++ ",\n  verify_only => " ++ (if verifyOnly then "TRUE" else "FALSE") ++
          "\n);\n") := rfl
  have chars (a b c d e f g h : String) : (a ++ b ++ c ++ (d ++ e ++ f ++ g ++ h)).toList =
      a.toList ++ (b.toList ++ (c.toList ++ d.toList ++ (e.toList ++ (f.toList ++
        (g.toList ++ h.toList))))) := by
    simp only [String.toList_append, List.append_assoc]
  have schema : (quote view.qualifiedSchema).toList = quoteChars view.qualifiedSchema.toList :=
    String.toList_ofList
  rw [written, chars, schema]
  cases verifyOnly <;> rfl

/-- A call is read with the arguments that were written. -/
theorem pieces_call (view : View) (definition : String) (verifyOnly : Bool) (rest : List Char) :
    pieces ((createCall view definition verifyOnly).toList ++ rest) =
      (Call.creating view definition verifyOnly).pieces ++ .char ';' :: .char '\n' :: pieces rest := by
  have opening : quiet Call.opening = true := rfl
  have between : quiet Call.between = true := rfl
  have flagged : quiet Call.flagged = true := rfl
  have ended : quiet [';', '\n'] = true := rfl
  -- Both literals are followed by a comma, so that no quote continues them.
  have schemaEnds (text : List Char) : (Call.between ++ text).head? ≠ some '\'' :=
    fun same => absurd (Option.some.inj same) (by decide)
  have definitionEnds (text : List Char) : (Call.flagged ++ text).head? ≠ some '\'' :=
    fun same => absurd (Option.some.inj same) (by decide)
  simp only [createCall_chars, List.append_assoc]
  rw [pieces_quiet opening, pieces_literal (readLiteral_quote _ (schemaEnds _)),
    pieces_quiet between, pieces_literal (readLiteral_block definition (definitionEnds _)),
    pieces_quiet flagged, pieces_quiet (Call.closing_quiet verifyOnly), pieces_quiet ended]
  simp only [Call.pieces, Call.creating, List.append_assoc, List.cons_append]
  rfl

/-! ### Scripts that carry a definition -/

/-- What follows a heading in a script is a call. -/
def Carries (script heading : String) (call : Call) : Prop :=
  ∃ text rest, script.toList = heading.toList ++ text ∧ pieces text = call.pieces ++ .char ';' :: rest

/-- The call that a script carries is determined by the script and its heading. -/
theorem Carries.unique {script heading : String} {call other : Call} (first : Carries script heading call)
    (second : Carries script heading other) : call = other := by
  obtain ⟨text, rest, written, read⟩ := first
  obtain ⟨text', rest', written', read'⟩ := second
  obtain rfl : text = text' := List.append_cancel_left (written.symm.trans written')
  exact Call.pieces_injective (read.symm.trans read')

theorem carries_call (heading : String) (view : View) (definition : String) (verifyOnly : Bool)
    (rest : String) : Carries (heading ++ createCall view definition verifyOnly ++ rest) heading
      (.creating view definition verifyOnly) := by
  refine ⟨(createCall view definition verifyOnly).toList ++ rest.toList, _, ?_, pieces_call ..⟩
  rw [String.toList_append, String.toList_append, List.append_assoc]

/-- A version in words. -/
def versionWords (version : Option Int) : String := (version.map toString).getD "unversioned"

theorem versionLabel_eq (version : Option Int) : versionLabel version = versionWords version := by
  cases version <;> rfl

/-- The name of a view with those of its database and schema. -/
def nameInFull (view : View) : String := s!"{view.database}.{view.schema}.{view.name}"

theorem qualifiedName_eq (view : View) : view.qualifiedName = nameInFull view := rfl

/-- The comment before the call that verifies a definition. -/
def verifyHeading (view : View) (version : Option Int) : String :=
  s!"-- Verify semantic view {nameInFull view} (version {versionWords version})\n"

/-- The comment before the call that deploys a definition. -/
def deployHeading (view : View) (version : Option Int) : String :=
  s!"-- Deploy semantic view {nameInFull view} (version {versionWords version})\n"

/-- What stands before the call that restores a definition: a comment, and the statement that drops the view. -/
def restoreHeading (view : View) : String :=
  s!"-- Roll back semantic view {nameInFull view} to the previously deployed definition\n" ++
    s!"DROP SEMANTIC VIEW IF EXISTS {nameInFull view};\n\n"

/-- What stands before the check in a script that drops a view: a comment, the statement, and what to expect. -/
def dropHeading (view : View) : String :=
  s!"-- Roll back semantic view {nameInFull view} (no previous definition exported)\n" ++
    s!"DROP SEMANTIC VIEW IF EXISTS {nameInFull view};\n\n" ++
    "-- Expect zero rows\n"

/-- The comment between the call that deploys a definition and the check. -/
def deployNote : String := "\n-- Post-deploy check: the view must exist\n"

section Written
variable (view : View) (definition : String) (version : Option Int)

theorem verifyScript_eq : verifyScript view definition version =
    verifyHeading view version ++ createCall view definition true := by
  unfold verifyScript verifyHeading
  rw [versionLabel_eq, qualifiedName_eq]

theorem deployScript_eq : deployScript view definition version =
    deployHeading view version ++ createCall view definition false ++ deployNote ++ existenceCheck view := by
  unfold deployScript deployHeading deployNote
  rw [versionLabel_eq, qualifiedName_eq]

theorem restoreScript_eq : restoreScript view definition =
    restoreHeading view ++ createCall view definition false ++ "\n" ++ existenceCheck view := by
  unfold restoreScript restoreHeading dropStatement
  rw [qualifiedName_eq]

theorem dropScript_eq : dropScript view = dropHeading view ++ existenceCheck view := by
  unfold dropScript dropHeading dropStatement
  rw [qualifiedName_eq]

end Written

theorem verify_carries (view : View) (definition : String) (version : Option Int) :
    Carries (verifyScript view definition version) (verifyHeading view version)
      (.creating view definition true) := by
  have carries := carries_call (verifyHeading view version) view definition true ""
  rwa [String.append_empty, ← verifyScript_eq] at carries

theorem deploy_carries (view : View) (definition : String) (version : Option Int) :
    Carries (deployScript view definition version) (deployHeading view version)
      (.creating view definition false) := by
  have carries := carries_call (deployHeading view version) view definition false
    (deployNote ++ existenceCheck view)
  rwa [← String.append_assoc, ← deployScript_eq] at carries

theorem restore_carries (view : View) (definition : String) :
    Carries (restoreScript view definition) (restoreHeading view) (.creating view definition false) := by
  have carries := carries_call (restoreHeading view) view definition false ("\n" ++ existenceCheck view)
  rwa [← String.append_assoc, ← restoreScript_eq] at carries

/-- Literals are read as the texts that were quoted, whatever follows them but a quote; a definition is read
behind a line feed, and with another one at its end if it does not end in one itself. So the two scripts of a
compilation carry its model, both the same one, as they do in its bundle; and the script of a rollback carries
the definition that was exported. -/
theorem definitions_carried :
    (∀ (definition : String) (rest : List Char), rest.head? ≠ some '\'' →
      readLiteral ((block definition).toList ++ rest) =
        some ('\n' :: definition.toList ++ (if ['\n'] <:+ definition.toList then [] else ['\n']), rest)) ∧
    (∀ (text : String) (rest : List Char), rest.head? ≠ some '\'' →
      readLiteral ((quote text).toList ++ rest) = some (text.toList, rest)) ∧
    (∀ (o : Ontology) (view : View) (version : Option Int) (c : Compiled),
      Compile.forView o view version = .ok c → c.yaml = (Model.build o view).render ∧
        Carries c.verifySql (verifyHeading view version) (.creating view c.yaml true) ∧
        Carries c.deploySql (deployHeading view version) (.creating view c.yaml false)) ∧
    (∀ (o : Ontology) (options : CompileOptions) (b : Bundle), Compile.bundle o options = .ok b →
      ∃ view yaml verify deploy, Compile.resolveView o options = .ok view ∧
        yaml = (Model.build o view).render ∧
        b.file? "semantic_model.yaml" = some ⟨"semantic_model.yaml", yaml⟩ ∧
        b.file? "verify.sql" = some ⟨"verify.sql", verify⟩ ∧
        b.file? "deploy.sql" = some ⟨"deploy.sql", deploy⟩ ∧
        Carries verify (verifyHeading view options.version) (.creating view yaml true) ∧
        Carries deploy (deployHeading view options.version) (.creating view yaml false)) ∧
    (∀ (view : View) (provider : Option Provider) (yaml : String),
      RollbackPlan.exported? view provider = some yaml →
      Carries (RollbackPlan.of view provider).sql (restoreHeading view) (.creating view yaml false)) := by
  refine ⟨fun definition rest ends => readLiteral_block definition ends, fun text rest ends => ?_,
    fun o view version c compiled => ?_, fun o options b compiled => ?_,
    fun view provider yaml exported => ?_⟩
  · rw [quote, String.toList_ofList]
    exact readLiteral_quote _ ends
  · obtain ⟨_, rfl⟩ := Compile.forView_ok.mp compiled
    exact ⟨rfl, verify_carries view _ _, deploy_carries view _ _⟩
  · obtain ⟨view, resolved, model, verify, deploy⟩ := Compile.scripts_found compiled
    exact ⟨view, _, _, _, resolved, rfl, model, verify, deploy, verify_carries view _ _,
      deploy_carries view _ _⟩
  · rw [RollbackPlan.of, exported]
    exact restore_carries view yaml

/-- A view in a schema of a name that is hard to quote. -/
def ordersView : View := ⟨"DB", "it's \\", "orders"⟩

/-- A definition that no pair of dollar signs can stand around. -/
def pricedDefinition : String := "price: in $$, isn't it? \\"

/-- An ontology of such orders. -/
def pricedOrders : Ontology where
  version := "1"
  name := "Sales"
  description := pricedDefinition
  objects := [⟨"Order", "$", [], [], none, none, none⟩]
  relationships := []
  metrics := []
  dimensions := []
  mapping := some ⟨"DB", "it's \\", none, []⟩

theorem priced_orders_carried :
    readLiteral ((block pricedDefinition).toList ++ [',']) =
      some ("\nprice: in $$, isn't it? \\\n".toList, [',']) ∧
    readLiteral ((quote ordersView.qualifiedSchema).toList ++ [',']) =
      some (ordersView.qualifiedSchema.toList, [',']) ∧
    (∃ c, Compile.forView pricedOrders ordersView (some 3) = .ok c ∧
      Carries c.verifySql (verifyHeading ordersView (some 3)) (.creating ordersView c.yaml true) ∧
      Carries c.deploySql (deployHeading ordersView (some 3)) (.creating ordersView c.yaml false)) ∧
    (∃ b, Compile.bundle pricedOrders ⟨some "orders", none, none, some 3, ⟨0⟩⟩ = .ok b ∧
      ∃ view yaml verify deploy,
        b.file? "verify.sql" = some ⟨"verify.sql", verify⟩ ∧
        b.file? "deploy.sql" = some ⟨"deploy.sql", deploy⟩ ∧
        Carries verify (verifyHeading view (some 3)) (.creating view yaml true) ∧
        Carries deploy (deployHeading view (some 3)) (.creating view yaml false)) ∧
    Carries (RollbackPlan.of ordersView
        (some (Catalog.empty.addView "db" "IT'S \\" "Orders" pricedDefinition).provider)).sql
      (restoreHeading ordersView) (.creating ordersView pricedDefinition false) := by
  obtain ⟨definitions, texts, compilations, bundles, rollbacks⟩ := definitions_carried
  have named : Text.allBlank ordersView.name = false := by decide
  refine ⟨?_, texts _ _ (by decide), ?_, ?_, rollbacks _ _ _ ?_⟩
  · have unended : ¬ ['\n'] <:+ pricedDefinition.toList := by decide
    rw [definitions _ _ (by decide), if_neg unended]
    rfl
  · obtain ⟨c, compiled⟩ := Compile.forView_isOk pricedOrders (some 3) named
    exact ⟨c, compiled, (compilations pricedOrders ordersView (some 3) c compiled).2⟩
  · have resolved : Compile.resolveView pricedOrders ⟨some "orders", none, none, some 3, ⟨0⟩⟩ =
        .ok ordersView := by decide
    obtain ⟨b, compiled⟩ := Compile.bundle_isOk resolved named
    obtain ⟨view, yaml, verify, deploy, _, _, _, verified, deployed, carried, carriedToo⟩ :=
      bundles _ _ b compiled
    exact ⟨b, compiled, view, yaml, verify, deploy, verified, deployed, carried, carriedToo⟩
  · have sameKey : Catalog.key ordersView.database ordersView.schema ordersView.name =
        Catalog.key "db" "IT'S \\" "Orders" := by decide
    simp [RollbackPlan.exported?, Catalog.provider, Catalog.addView, Catalog.empty, Catalog.answer,
      Keyed.insert, Keyed.get?, sameKey]

end SemanticLayer.Sql
