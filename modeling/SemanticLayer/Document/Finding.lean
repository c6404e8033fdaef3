import SemanticLayer.Json.Pointer
import SemanticLayer.Json.Record
import SemanticLayer.Json.Writer
/-!
What is wrong with a document: a message, the place that it is about, and the value found there if
that helps. A report is valid when it has no findings.
-/
namespace SemanticLayer.Document

open Json (Pointer)

/-- One fault of a document. -/
structure Finding where
  message : String
  path : String
  value : Option Json
  deriving Repr

/-- All faults of a document. -/
structure Report where
  isValid : Bool
  findings : List Finding
  deriving Repr

/-- A fault at a place where nothing is to be shown. -/
def finding (message : String) (place : Pointer) : Finding := ⟨message, place.render, none⟩

/-- A fault at a place, with a value. -/
def findingOf (message : String) (place : Pointer) (value : Json) : Finding :=
  ⟨message, place.render, some value⟩

/-- A fault at a place, with the name of the kind of value that stands there. -/
def findingOfKind (message : String) (place : Pointer) (value : Json) : Finding :=
  ⟨message, place.render, some (.str value.typeName)⟩

namespace Finding

/-- A fault on one line. -/
def render (f : Finding) : String :=
  s!"{f.message} (path: {f.path})" ++
    match f.value with
    | some v => s!" (value: {v.compact})"
    | none => ""

def toJson (f : Finding) : Json :=
  .obj [("message", .str f.message), ("path", .str f.path), ("value", f.value.getD .null)]

def ofJson? (v : Json) : Option Finding := do
  let r ← Json.Record.of? ["message", "path", "value"] v
  return {
    message := ← r.required "message" Json.str?
    path := ← r.required "path" Json.str?
    value := ← r.optional "value" (Json.orNull Json.any?) }

end Finding

namespace Report

/-- The report of the given findings. -/
def ofFindings (findings : List Finding) : Report := ⟨findings.isEmpty, findings⟩

/-- The findings, each on one line. -/
def messages (r : Report) : List String := r.findings.map Finding.render

def toJson (r : Report) : Json :=
  .obj [("is_valid", .bool r.isValid), ("errors", .arr (r.findings.map Finding.toJson))]

def ofJson? (v : Json) : Option Report := do
  let r ← Json.Record.of? ["is_valid", "errors"] v
  return {
    isValid := ← r.required "is_valid" Json.bool?
    findings := ← r.required "errors" (Json.listOf Finding.ofJson?) }

end Report
end SemanticLayer.Document
