import FluentThis.Json.Writing
import FluentThis.Report.Basic
/-!
The report as a JSON document: a list with one table for each entry.
-/

namespace FluentThis

namespace Entry

/-- The table of an entry. What an entry does not have is null. -/
def document (e : Entry) : Document :=
  .table [
    ("owner", .text e.owner),
    ("name", .text e.name),
    ("kind", .text e.kind.name),
    ("return_type", .ofText? e.returnType),
    ("return_qualifier", .ofText? (e.returnQualifier.map Qualifier.name)),
    ("receiver_qualifier", .ofText? (e.receiverQualifier.map Qualifier.name)),
    ("framework", .ofText? (e.generator.map Generator.name))]

end Entry

namespace Report

def document (r : Report) : Document := .list (r.entries.map Entry.document)

/-- The text of the report as JSON, with a line break at its end. -/
def json (r : Report) : String := String.ofList (Json.write .indented 0 r.document ++ ['\n'])

end Report

end FluentThis
