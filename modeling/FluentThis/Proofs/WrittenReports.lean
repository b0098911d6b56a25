import FluentThis.Proofs.WrittenDocuments
import FluentThis.Report.Json
/-!
Reports written as JSON and read again. Main statement: the text of a report is one document and a line break, it reads
back as a list with one table for each entry, whose fields hold what the entry holds, and no other report has this text.
-/

namespace FluentThis

theorem ExecutableKind.name_injective {k l : ExecutableKind} (h : k.name = l.name) : k = l := by
  cases k <;> cases l <;> simp_all [name]

theorem Generator.name_injective {g g' : Generator} (h : g.name = g'.name) : g = g' := by
  cases g <;> cases g' <;> simp_all [name]

/-- What stands for a text that may be missing. -/
def Node.ofText? : Option String → Node
  | some s => .text s
  | none => .null

theorem Node.ofText?_injective {s t : Option String} (h : ofText? s = ofText? t) : s = t := by
  cases s <;> cases t <;> simp_all [ofText?]

theorem Document.toNode_ofText? (s : Option String) : (ofText? s).toNode = Node.ofText? s := by
  cases s <;> rfl

namespace Entry

/-- What an entry reads back as: its seven fields in order, null where it has none. -/
def node (e : Entry) : Node :=
  .table [
    ("owner", .text e.owner),
    ("name", .text e.name),
    ("kind", .text e.kind.name),
    ("return_type", .ofText? e.returnType),
    ("return_qualifier", .ofText? (e.returnQualifier.map Qualifier.name)),
    ("receiver_qualifier", .ofText? (e.receiverQualifier.map Qualifier.name)),
    ("framework", .ofText? (e.generator.map Generator.name))] .closed

theorem toNode_document (e : Entry) : e.document.toNode = e.node := by
  simp only [document, node, Document.toNode, Document.toEntries, Document.toNode_ofText?]

theorem option_eq_of_map_name {α : Type} {name : α → String} (hname : ∀ {a b : α}, name a = name b → a = b)
    {x y : Option α} (h : Node.ofText? (x.map name) = Node.ofText? (y.map name)) : x = y :=
  Option.map_injective (fun _ _ => hname) (Node.ofText?_injective h)

/-- Each field tells its part of the entry. -/
theorem node_injective {e e' : Entry} (h : e.node = e'.node) : e = e' := by
  simp only [node, Node.table.injEq, List.cons.injEq, Prod.mk.injEq, Node.text.injEq, true_and, and_true] at h
  obtain ⟨howner, hname, hkind, htype, hreturn, hreceiver, hgenerator⟩ := h
  have hk := ExecutableKind.name_injective hkind
  have ht := Node.ofText?_injective htype
  have hq := option_eq_of_map_name Qualifier.name_injective hreturn
  have hr := option_eq_of_map_name Qualifier.name_injective hreceiver
  have hg := option_eq_of_map_name Generator.name_injective hgenerator
  cases e
  cases e'
  simp_all

theorem isReadable_document (e : Entry) {room : Nat} (hroom : 0 < room) : e.document.isReadable room = true := by
  have htext (s : Option String) (room : Nat) : (Document.ofText? s).isReadable room = true := by
    cases s <;> rfl
  simp [document, Document.isReadable, Document.entriesReadable, htext, hroom]

end Entry

namespace Report

theorem toNode_document (r : Report) : r.document.toNode = .list (r.entries.map Entry.node) .closed := by
  rw [document, Document.toNode, Document.toNodes_map]
  simp only [Entry.toNode_document]

theorem isReadable_document (r : Report) : r.document.isReadable Json.Reader.depthLimit = true := by
  have hentries : Document.allReadable (Json.Reader.depthLimit - 1) (r.entries.map Entry.document) = true :=
    Document.allReadable_map fun e _ => e.isReadable_document (by decide)
  rw [document, Document.isReadable, hentries]
  rfl

/-- A report with any number of entries and any texts in them is read back from its text without loss. The text is a
whole document with a line break after it, the document is the list of the entries in order, and the text belongs to
no other report. -/
theorem json_reads_back (r : Report) :
    let entries := Node.list (r.entries.map Entry.node) .closed
    (∃ document, r.json = document ++ "\n" ∧ Json.read document = ⟨entries, false⟩) ∧
      Json.read r.json = ⟨entries, false⟩ ∧
      ∀ r' : Report, r'.json = r.json ↔ r' = r := by
  intro entries
  have hread (r : Report) : Json.read r.json = ⟨.list (r.entries.map Entry.node) .closed, false⟩ := by
    have hspace : ∀ c ∈ ['\n'], Json.Token.isSpace c = true := by
      intro c hc
      rw [List.mem_singleton.1 hc]
      rfl
    rw [json, Json.read_write .indented _ r.isReadable_document ['\n'] hspace, toNode_document]
  refine ⟨⟨Json.render .indented r.document, ?_, ?_⟩, hread r, fun r' => ⟨fun h => ?_, fun h => h ▸ rfl⟩⟩
  · rw [json, Json.render, String.ofList_append]
  · rw [Json.read_render .indented _ r.isReadable_document, toNode_document]
  · have hsame := hread r'
    rw [h, hread r] at hsame
    simp only [Json.Reading.mk.injEq, Node.list.injEq, and_true] at hsame
    have hentries := (List.map_inj_right fun _ _ => Entry.node_injective).1 hsame
    cases r
    cases r'
    cases hentries
    rfl

end Report

end FluentThis
