import FluentThis.Command.Checking
import FluentThis.Program.Writing
import FluentThis.Proofs.WrittenDocuments
/-!
Programs written as JSON and read again. Every part of a source is decoded from the document that it is written as,
entries left out included. Main statement: the text of a source gives that source, so a program is made from the text
exactly as it is from the source.
-/

namespace FluentThis

namespace Schema

/-- An entry with a known key that did not come before sets its field. -/
theorem entries_cons {σ : Type} {fields seen : List String} {step : String → Node → σ → Except Fault σ} {k : String}
    {n : Node} {rest : List (String × Node)} {s s' : σ} (hk : k ∈ fields) (hseen : k ∉ seen)
    (hs : step k n s = .ok s') :
    entries fields step ((k, n) :: rest) seen s = entries fields step rest (k :: seen) s' := by
  rw [entries, if_pos hk, if_neg hseen, hs]
  rfl

/-- A field is set to a value that can be read. -/
theorem set_of_ok {σ α : Type} {a : Except Fault α} {x : α} (h : a = .ok x) (set : α → σ) :
    (do return set (← a) : Except Fault σ) = .ok (set x) := by
  rw [h]
  rfl

/-- A table whose entries can all be read is finished with what they set. -/
theorem record_table {σ α : Type} {format : DocumentFormat} {label : String} {fields : List String}
    {step : String → Node → σ → Except Fault σ} {finish : Bool → σ → Except Fault α} {start s : σ}
    {es : List (String × Node)} (hs : entries fields step es [] start = .ok s) :
    record format label fields step finish start (.table es .closed) = finish false s := by
  rw [record, hs]
  rfl

theorem mapM_map {α : Type} {f : Node → Except Fault α} {write : α → Node} {xs : List α}
    (h : ∀ x ∈ xs, f (write x) = .ok x) : (xs.map write).mapM f = .ok xs := by
  induction xs with
  | nil => rfl
  | cons x xs ih =>
      rw [List.map_cons, List.mapM_cons, h x List.mem_cons_self, ih fun y hy => h y (List.mem_cons_of_mem _ hy)]
      rfl

/-- A list whose members are decoded from what they are written as. -/
theorem list_document {α : Type} {f : Node → Except Fault α} {write : α → Document} {xs : List α}
    (h : ∀ x ∈ xs, f (write x).toNode = .ok x) : list f (Document.list (xs.map write)).toNode = .ok xs := by
  rw [Document.toNode, Document.toNodes_map, list, mapM_map h]
  rfl

end Schema

namespace Qualifier

theorem decode_name (format : DocumentFormat) (q : Qualifier) : decode format (.text q.name) = .ok q := by
  cases q <;> rfl

end Qualifier

namespace ExecutableKind

theorem decode_name (format : DocumentFormat) (k : ExecutableKind) : decode format (.text k.name) = .ok k := by
  cases k <;> rfl

end ExecutableKind

namespace TypeKind

theorem decode_name (format : DocumentFormat) (k : TypeKind) : decode format (.text k.name) = .ok k := by
  cases k <;> rfl

end TypeKind

namespace DeclaredAnnotation

theorem decode_document (a : DeclaredAnnotation) : decode a.document.toNode = .ok a := by
  cases a <;> rfl

theorem isReadable_document (a : DeclaredAnnotation) {room : Nat} (hroom : 0 < room) :
    a.document.isReadable room = true := by
  cases a with
  | named name => rfl
  | detailed name resolved => simp [document, Document.isReadable, Document.entriesReadable, hroom]

end DeclaredAnnotation

namespace DeclaredMethod

theorem decode_annotations (as : List DeclaredAnnotation) :
    Schema.list DeclaredAnnotation.decode (Document.list (as.map DeclaredAnnotation.document)).toNode = .ok as :=
  Schema.list_document fun a _ => DeclaredAnnotation.decode_document a

/-- A method is decoded from the table that it is written as. A qualifier that is not there keeps its default. -/
theorem decode_document (format : DocumentFormat) (m : DeclaredMethod) :
    decode format m.document.toNode = .ok m := by
  obtain ⟨name, kind, isStatic, returns, returnQualifier, annotations⟩ := m
  have hkind := ExecutableKind.decode_name format kind
  have hqualifier (q : Qualifier) : Schema.optional (Qualifier.decode format) (.text q.name) = .ok (some q) := by
    rw [Schema.optional, Qualifier.decode_name]
    · rfl
    · nofun
  have hannotations := decode_annotations annotations
  cases returnQualifier with
  | none =>
      refine Schema.record_table ?_
      refine (Schema.entries_cons (by decide) (by decide) rfl).trans ?_
      refine (Schema.entries_cons (by decide) (by decide) (Schema.set_of_ok hkind _)).trans ?_
      refine (Schema.entries_cons (by decide) (by decide) rfl).trans ?_
      refine (Schema.entries_cons (by decide) (by decide) rfl).trans ?_
      refine (Schema.entries_cons (by decide) (by decide) (Schema.set_of_ok hannotations _)).trans ?_
      rfl
  | some q =>
      refine Schema.record_table ?_
      refine (Schema.entries_cons (by decide) (by decide) rfl).trans ?_
      refine (Schema.entries_cons (by decide) (by decide) (Schema.set_of_ok hkind _)).trans ?_
      refine (Schema.entries_cons (by decide) (by decide) rfl).trans ?_
      refine (Schema.entries_cons (by decide) (by decide) rfl).trans ?_
      refine (Schema.entries_cons (by decide) (by decide) (Schema.set_of_ok (hqualifier q) _)).trans ?_
      refine (Schema.entries_cons (by decide) (by decide) (Schema.set_of_ok hannotations _)).trans ?_
      rfl

theorem isReadable_document (m : DeclaredMethod) {room : Nat} (hroom : 2 < room) :
    m.document.isReadable room = true := by
  have hannotations : Document.allReadable (room - 1 - 1) (m.annotations.map DeclaredAnnotation.document) = true :=
    Document.allReadable_map fun a _ => a.isReadable_document (by omega)
  have hopen : 0 < room ∧ 0 < room - 1 := by omega
  cases hq : m.returnQualifier <;>
    simp [document, entries, hq, Document.isReadable, Document.entriesReadable, hannotations, hopen]

end DeclaredMethod

namespace DeclaredType

/-- A type is decoded from the table that it is written as. A superclass that is not there keeps its default. -/
theorem decode_document (format : DocumentFormat) (t : DeclaredType) :
    decode format t.document.toNode = .ok t := by
  obtain ⟨name, kind, superclass, annotations, methods⟩ := t
  have hkind := TypeKind.decode_name format kind
  have hannotations := DeclaredMethod.decode_annotations annotations
  have hmethods : Schema.list (DeclaredMethod.decode format)
      (Document.list (methods.map DeclaredMethod.document)).toNode = .ok methods :=
    Schema.list_document fun m _ => m.decode_document format
  have hfinish (t : DeclaredType) : finish false (true, t) = .ok t := rfl
  cases superclass with
  | none =>
      refine (Schema.record_table ?_).trans (hfinish _)
      refine (Schema.entries_cons (by decide) (by decide) rfl).trans ?_
      refine (Schema.entries_cons (by decide) (by decide) (Schema.set_of_ok hkind _)).trans ?_
      refine (Schema.entries_cons (by decide) (by decide) (Schema.set_of_ok hannotations _)).trans ?_
      refine (Schema.entries_cons (by decide) (by decide) (Schema.set_of_ok hmethods _)).trans ?_
      rfl
  | some superclass =>
      refine (Schema.record_table ?_).trans (hfinish _)
      refine (Schema.entries_cons (by decide) (by decide) rfl).trans ?_
      refine (Schema.entries_cons (by decide) (by decide) (Schema.set_of_ok hkind _)).trans ?_
      refine (Schema.entries_cons (by decide) (by decide) rfl).trans ?_
      refine (Schema.entries_cons (by decide) (by decide) (Schema.set_of_ok hannotations _)).trans ?_
      refine (Schema.entries_cons (by decide) (by decide) (Schema.set_of_ok hmethods _)).trans ?_
      rfl

theorem isReadable_document (t : DeclaredType) {room : Nat} (hroom : 4 < room) :
    t.document.isReadable room = true := by
  have hannotations : Document.allReadable (room - 1 - 1) (t.annotations.map DeclaredAnnotation.document) = true :=
    Document.allReadable_map fun a _ => a.isReadable_document (by omega)
  have hmethods : Document.allReadable (room - 1 - 1) (t.methods.map DeclaredMethod.document) = true :=
    Document.allReadable_map fun m _ => m.isReadable_document (by omega)
  have hopen : 0 < room ∧ 0 < room - 1 := by omega
  cases hs : t.superclass <;>
    simp [document, entries, hs, Document.isReadable, Document.entriesReadable, hannotations, hmethods, hopen]

end DeclaredType

namespace Source

theorem decode_document (format : DocumentFormat) (s : Source) : decode format s.document.toNode = .ok s := by
  have htypes : Schema.list (DeclaredType.decode format)
      (Document.list (s.types.map DeclaredType.document)).toNode = .ok s.types :=
    Schema.list_document fun t _ => t.decode_document format
  refine Schema.record_table ?_
  exact (Schema.entries_cons (by decide) (by decide) (Schema.set_of_ok htypes _)).trans rfl

theorem isReadable_document (s : Source) : s.document.isReadable Json.Reader.depthLimit = true := by
  have htypes : Document.allReadable (Json.Reader.depthLimit - 1 - 1) (s.types.map DeclaredType.document) = true :=
    Document.allReadable_map fun t _ => t.isReadable_document (by decide)
  simp only [document, Document.isReadable, Document.entriesReadable, htypes]
  decide

/-- Whatever a source holds, its text as JSON gives the same source, on one line as well as with an item a line. What
is made of the text is therefore the program of the source, or its fault. -/
theorem ofJson_render (s : Source) (l : Json.Layout) :
    ofJson (Json.render l s.document) = .ok s ∧
      Program.ofJson (Json.render l s.document) = Program.ofSource s := by
  have hsource : ofJson (Json.render l s.document) = .ok s := by
    rw [ofJson, Json.read_render l _ s.isReadable_document, ofReading, decode_document]
    rfl
  exact ⟨hsource, by rw [Program.ofJson, hsource]⟩

end Source

end FluentThis
