import SemanticLayer.Proofs.SqlScripts

/-! The check that a view is there. It lists the views whose names match a pattern, and looks for the exact name among
them. A pattern is read twice: first the literal, in which backslashes escape, and then what the literal stands for, in
which backslashes escape again. The pattern that is written for a name comes through both readings as that name and
nothing else (`matches_likePattern`). Main statement: `view_listed_exactly`. -/
namespace SemanticLayer.Sql

/-! ### Patterns -/

/-- What a place in a pattern stands for: a character, any one character, or any text. -/
inductive PatternPart where
  | char (c : Char)
  | one
  | any
  deriving DecidableEq, Repr

/-- The parts of a pattern. A backslash takes the character behind it as it is. -/
def readPattern : List Char → List PatternPart
  | '\\' :: c :: rest => .char c :: readPattern rest
  | '_' :: rest => .one :: readPattern rest
  | '%' :: rest => .any :: readPattern rest
  | c :: rest => .char c :: readPattern rest
  | [] => []

/-- Whether a text is made up of what the parts of a pattern stand for. -/
def fits : List PatternPart → List Char → Bool
  | [], text => text.isEmpty
  | .any :: parts, text => text.tails.any (fits parts)
  | .one :: parts, _ :: text => fits parts text
  | .char c :: parts, d :: text => c == d && fits parts text
  | _ :: _, [] => false

/-- Whether a pattern matches a text. -/
def matchesPattern (pattern text : List Char) : Bool := fits (readPattern pattern) text

theorem fits_chars (cs text : List Char) : fits (cs.map .char) text = true ↔ text = cs := by
  induction cs generalizing text with
  | nil => rw [List.map_nil, fits, List.isEmpty_iff]
  | cons c cs ih =>
    cases text with
    | nil => simp [fits]
    | cons d text =>
      rw [List.map_cons, fits, Bool.and_eq_true, beq_iff_eq, ih, List.cons.injEq]
      exact and_congr_left fun _ => eq_comm

/-- A character that is not escaped stands for itself. -/
theorem readPattern_plain {c : Char} (plain : ¬ (c = '\\' || c = '_' || c = '%') = true) (rest : List Char) :
    readPattern (c :: rest) = .char c :: readPattern rest := by
  simp only [Bool.or_eq_true, decide_eq_true_eq, not_or] at plain
  rw [readPattern]
  · exact fun _ _ backslash => absurd backslash plain.1.1
  · exact plain.1.2
  · exact plain.2

/-- Escaping a wildcard adds only backslashes, which come after those of the name are escaped; so one pass writes a
pattern. -/
theorem likePattern_chars (name : String) : (likePattern name).toList =
    name.toList.flatMap fun c => if c = '\\' || c = '_' || c = '%' then ['\\', c] else [c] := by
  unfold likePattern Text.replaceChar
  rw [String.toList_ofList, List.flatMap_assoc, List.flatMap_assoc]
  refine List.flatMap_congr fun c _ => ?_
  by_cases backslash : c = '\\'
  · simp [backslash]
  · by_cases one : c = '_'
    · simp [one]
    · by_cases any : c = '%' <;> simp [backslash, one, any]

theorem readPattern_likePattern (name : String) :
    readPattern (likePattern name).toList = name.toList.map .char := by
  rw [likePattern_chars]
  induction name.toList with
  | nil => rfl
  | cons c cs ih =>
    rw [List.flatMap_cons]
    split
    · rw [List.cons_append, List.singleton_append, readPattern, ih]
      rfl
    · next plain =>
      rw [List.singleton_append, readPattern_plain plain, ih]
      rfl

/-- The pattern for a name matches that name only. -/
theorem matches_likePattern (name : String) (text : List Char) :
    matchesPattern (likePattern name).toList text = true ↔ text = name.toList := by
  rw [matchesPattern, readPattern_likePattern, fits_chars]

-- As a pattern, a name can match others.
example : matchesPattern "sales_view".toList "sales-view".toList = true ∧
    matchesPattern (likePattern "sales_view").toList "sales-view".toList = false := by
  decide

/-! ### Checks -/

namespace Listing

/-- The text of a check before its first literal. -/
def opening : List Char := "SHOW SEMANTIC VIEWS LIKE ".toList

/-- The text between its two literals: the end of the listing, and the selection from it. -/
def between (view : View) : List Char :=
  " IN SCHEMA ".toList ++ (view.qualifiedSchema.toList ++ (";\n".toList ++
    "SELECT \"name\" FROM TABLE(RESULT_SCAN(LAST_QUERY_ID())) WHERE \"name\" = ".toList))

end Listing

/-- A script checks for a view: it lists what matches a pattern that only the name of the view matches, and looks for
that name in the list. -/
def ChecksFor (script : List Char) (view : View) : Prop :=
  ∃ listed pattern compared, script = Listing.opening ++ listed ∧
    readLiteral listed = some (pattern, Listing.between view ++ compared) ∧
    (∀ text, matchesPattern pattern text = true ↔ text = view.name.toList) ∧
    readLiteral compared = some (view.name.toList, [';', '\n'])

theorem existenceCheck_chars (view : View) : (existenceCheck view).toList = Listing.opening ++
    (quoteChars (likePattern view.name).toList ++ (Listing.between view ++
      (quoteChars view.name.toList ++ [';', '\n']))) := by
  have written : existenceCheck view = "SHOW SEMANTIC VIEWS LIKE " ++ quote (likePattern view.name) ++
      " IN SCHEMA " ++ (view.qualifiedSchema ++ ";\n") ++
      "SELECT \"name\" FROM TABLE(RESULT_SCAN(LAST_QUERY_ID())) WHERE \"name\" = " ++
      (quote view.name ++ ";\n") := rfl
  have chars (a b c d e f g h : String) : (a ++ b ++ c ++ (d ++ e) ++ f ++ (g ++ h)).toList =
      a.toList ++ (b.toList ++ ((c.toList ++ (d.toList ++ (e.toList ++ f.toList))) ++ (g.toList ++ h.toList))) := by
    simp only [String.toList_append, List.append_assoc]
  have quoted (s : String) : (quote s).toList = quoteChars s.toList := String.toList_ofList
  rw [written, chars, quoted, quoted]
  rfl

/-- The check for a view lists views with a pattern that matches the name of the view only and compares their names
with that name; and the scripts that deploy, restore and drop a view end in the check for it. -/
theorem view_listed_exactly (view : View) : ChecksFor (existenceCheck view).toList view ∧
    (∀ yaml version, (existenceCheck view).toList <:+ (deployScript view yaml version).toList) ∧
    (∀ yaml, (existenceCheck view).toList <:+ (restoreScript view yaml).toList) ∧
    (existenceCheck view).toList <:+ (dropScript view).toList := by
  have ends (script : String) : (existenceCheck view).toList <:+ (script ++ existenceCheck view).toList := by
    rw [String.toList_append]
    exact List.suffix_append _ _
  have checked : ChecksFor (existenceCheck view).toList view := by
    have behind : (Listing.between view ++ (quoteChars view.name.toList ++ [';', '\n'])).head? ≠ some '\'' :=
      fun same => absurd (Option.some.inj same) (by decide)
    have atEnd : [';', '\n'].head? ≠ some '\'' := by decide
    have pattern := readLiteral_quote (likePattern view.name).toList behind
    have name := readLiteral_quote view.name.toList atEnd
    exact ⟨_, _, _, existenceCheck_chars view, pattern, matches_likePattern view.name, name⟩
  refine ⟨checked, fun yaml version => ?_, fun yaml => ?_, ?_⟩
  · unfold deployScript
    exact ends _
  · unfold restoreScript
    exact ends _
  · unfold dropScript
    exact ends _

end SemanticLayer.Sql
