import FluentThis.Json.Reading
import FluentThis.Proofs.WrittenIntegers
/-!
Documents written as JSON and read again. The reader meets the tokens of a written document in order, and each part of
it leaves the reader where its value has been put, whatever is open around it and whatever follows. Main statement: a
document that is not nested too deeply and whose integers 64 bits hold reads back from either layout.
-/

namespace FluentThis

namespace Document

mutual

/-- Whether a document reads back where at most `room` more lists and tables may be opened. -/
def isReadable (room : Nat) : Document → Bool
  | integer i => fits 64 i
  | list ds => 0 < room && allReadable (room - 1) ds
  | table es => 0 < room && entriesReadable (room - 1) es
  | _ => true

def allReadable (room : Nat) : List Document → Bool
  | [] => true
  | d :: ds => isReadable room d && allReadable room ds

def entriesReadable (room : Nat) : List (String × Document) → Bool
  | [] => true
  | (_, d) :: es => isReadable room d && entriesReadable room es

end

theorem allReadable_map {α : Type} {f : α → Document} {room : Nat} {xs : List α}
    (h : ∀ x ∈ xs, (f x).isReadable room = true) : allReadable room (xs.map f) = true := by
  induction xs with
  | nil => rfl
  | cons x xs ih =>
      rw [List.map_cons, allReadable, h x List.mem_cons_self]
      exact ih fun y hy => h y (List.mem_cons_of_mem _ hy)

theorem toNodes_map {α : Type} (f : α → Document) (xs : List α) :
    toNodes (xs.map f) = xs.map fun x => (f x).toNode := by
  induction xs with
  | nil => rfl
  | cons x xs ih => rw [List.map_cons, toNodes, ih, List.map_cons]

end Document

namespace Json

open Text (isDigit)

namespace Token

/-- A value that begins with neither a space nor a mark is one token. -/
theorem ofChars_scalar {c : Char} {r s : List Char} {n : Node} (hs : isSpace c = false) (hm : ofChar? c = none)
    (h : scalar? (c :: r) = some (n, s)) : ofChars (c :: r) = scalar n :: ofChars s := by
  rw [ofChars, if_neg (by simp [hs]), hm]
  simp only
  split
  · next n' s' hn =>
    rw [h] at hn
    cases hn
    rfl
  · next hn =>
    rw [h] at hn
    cases hn

/-- Spaces between tokens make no difference. -/
theorem ofChars_spaces {blank : List Char} (hb : ∀ c ∈ blank, isSpace c = true) (r : List Char) :
    ofChars (blank ++ r) = ofChars r := by
  induction blank with
  | nil => rfl
  | cons c cs ih =>
      rw [List.cons_append, ofChars_space (hb c List.mem_cons_self)]
      exact ih fun d hd => hb d (List.mem_cons_of_mem _ hd)

theorem ofChars_lineBreak (l : Layout) (depth : Nat) (r : List Char) :
    ofChars (l.lineBreak depth ++ r) = ofChars r := by
  refine ofChars_spaces (fun c hc => ?_) r
  cases l with
  | compact => cases hc
  | indented =>
      rw [Layout.lineBreak, List.mem_cons, List.mem_replicate] at hc
      rcases hc with rfl | ⟨_, rfl⟩ <;> rfl

theorem ofChars_colon (l : Layout) (r : List Char) : ofChars (l.colon ++ r) = colon :: ofChars r := by
  cases l with
  | compact => exact ofChars_mark rfl r
  | indented =>
      rw [Layout.colon, List.cons_append, ofChars_mark rfl]
      exact congrArg _ (ofChars_space rfl r)

theorem ofChars_writeText (s : String) (r : List Char) :
    ofChars (writeText s ++ r) = scalar (.text s) :: ofChars r := by
  rw [writeText, List.cons_append, List.cons_append, List.append_assoc]
  refine ofChars_scalar rfl rfl ?_
  rw [scalar?]
  simp [readText_writeText]

theorem ofChars_writeInteger {i : Int} (hi : fits 64 i = true) {r : List Char} (hr : EndsNumber r) :
    ofChars (writeInteger i ++ r) = scalar (.integer i) :: ofChars r := by
  have hread := read_writeInteger i hr
  obtain ⟨c, s, hcs, hc⟩ := head?_writeInteger i r
  rw [hcs] at hread ⊢
  have hplain : isSpace c = false ∧ ofChar? c = none ∧ c ≠ '"' ∧ keyword? (c :: s) = none := by
    have hne : ∀ d, isDigit d = false → d ≠ '-' → c ≠ d := by
      rintro d hd hminus rfl
      rcases hc with hc | hc
      · rw [hd] at hc
        cases hc
      · exact hminus hc
    refine ⟨?_, ?_, hne _ (by decide) (by decide), ?_⟩
    · simp [isSpace, hne ' ' (by decide) (by decide), hne '\n' (by decide) (by decide),
        hne '\t' (by decide) (by decide), hne '\r' (by decide) (by decide)]
    · unfold ofChar?
      split <;> first | rfl | exact absurd rfl (hne _ (by decide) (by decide))
    · unfold keyword?
      split <;> simp_all <;> exact absurd rfl (hne _ (by decide) (by decide))
  obtain ⟨hspace, hmark, hquote, hkeyword⟩ := hplain
  refine ofChars_scalar hspace hmark ?_
  unfold scalar?
  split
  · next hq =>
    cases hq
    exact absurd rfl hquote
  · rw [hkeyword, hread]
    simp [value?_numeralOf hi]

end Token

namespace Reader

/-- Where a value may stand. -/
def TakesValue (due : Due) : Prop := due = .value ∨ due = .itemOrEnd

theorem run_scalar {stack : List OpenNode} {due : Due} {root n : Node} {ts : List Token} (hdue : TakesValue due) :
    run ⟨stack, due, root⟩ (.scalar n :: ts) = run (put n stack) ts := by
  rcases hdue with rfl | rfl <;> rfl

theorem run_openList {stack : List OpenNode} {due : Due} {root : Node} {ts : List Token} (hdue : TakesValue due)
    (hroom : stack.length < depthLimit) :
    run ⟨stack, due, root⟩ (.openList :: ts) = run ⟨.list [] :: stack, .itemOrEnd, .cut⟩ ts := by
  rcases hdue with rfl | rfl <;> simp [run, step, value, enter, hroom]

theorem run_openTable {stack : List OpenNode} {due : Due} {root : Node} {ts : List Token} (hdue : TakesValue due)
    (hroom : stack.length < depthLimit) :
    run ⟨stack, due, root⟩ (.openTable :: ts) = run ⟨.table [] none :: stack, .keyOrEnd, .cut⟩ ts := by
  rcases hdue with rfl | rfl <;> simp [run, step, value, enter, hroom]

/-- A key and its colon, in front of the first entry of a table or of a later one. -/
theorem run_key {stack : List OpenNode} {entries : List (String × Node)} {due : Due} {k : String} {ts : List Token}
    (hdue : due = .key ∨ due = .keyOrEnd) :
    run ⟨.table entries none :: stack, due, .cut⟩ (.scalar (.text k) :: .colon :: ts) =
      run ⟨.table entries (some k) :: stack, .value, .cut⟩ ts := by
  rcases hdue with rfl | rfl <;> rfl

end Reader

open Token (ofChars)
open Reader (put run TakesValue)

theorem endsNumber_lineBreak (l : Layout) (depth : Nat) {r : List Char} (hr : EndsNumber r) :
    EndsNumber (l.lineBreak depth ++ r) := by
  cases l with
  | compact => exact hr
  | indented => exact endsNumber_cons rfl (by decide) (by decide) (by decide) _

/-- What is written after an item does not belong to a number in its place. -/
theorem endsNumber_writeItems (l : Layout) (depth : Nat) (ds : List Document) (r : List Char) :
    EndsNumber (writeItems l depth ds ++ (l.lineBreak depth ++ ']' :: r)) := by
  cases ds with
  | nil => exact endsNumber_lineBreak l depth (endsNumber_cons rfl (by decide) (by decide) (by decide) r)
  | cons d ds => exact endsNumber_cons rfl (by decide) (by decide) (by decide) _

/-- What is written after an entry does not belong to a number in its place. -/
theorem endsNumber_writeEntries (l : Layout) (depth : Nat) (es : List (String × Document)) (r : List Char) :
    EndsNumber (writeEntries l depth es ++ (l.lineBreak depth ++ '\x7d' :: r)) := by
  cases es with
  | nil => exact endsNumber_lineBreak l depth (endsNumber_cons rfl (by decide) (by decide) (by decide) r)
  | cons e es => exact endsNumber_cons rfl (by decide) (by decide) (by decide) _

mutual

/-- A written document is taken for its value, whatever is open around it. -/
theorem run_write (l : Layout) (depth : Nat) (d : Document) {room : Nat} {stack : List OpenNode} {due : Due}
    {root : Node} {r : List Char} (hd : d.isReadable room = true) (hdue : TakesValue due)
    (hroom : stack.length + room ≤ Reader.depthLimit) (hr : EndsNumber r) :
    run ⟨stack, due, root⟩ (ofChars (write l depth d ++ r)) = run (put d.toNode stack) (ofChars r) := by
  cases d with
  | null =>
      rw [write, Document.toNode, ← Reader.run_scalar hdue]
      exact congrArg _ (Token.ofChars_scalar rfl rfl rfl)
  | boolean b =>
      cases b <;>
        · rw [write, Document.toNode, ← Reader.run_scalar hdue]
          exact congrArg _ (Token.ofChars_scalar rfl rfl rfl)
  | integer i =>
      rw [Document.isReadable] at hd
      rw [write, Document.toNode, Token.ofChars_writeInteger hd hr, Reader.run_scalar hdue]
  | text s => rw [write, Document.toNode, Token.ofChars_writeText, Reader.run_scalar hdue]
  | list items =>
      rw [Document.isReadable, Bool.and_eq_true, decide_eq_true_eq] at hd
      obtain ⟨hpos, hitems⟩ := hd
      cases items with
      | nil =>
          rw [write, Document.toNode]
          simp only [List.cons_append, List.nil_append]
          rw [Token.ofChars_mark rfl, Token.ofChars_mark rfl, Reader.run_openList hdue (by omega)]
          rfl
      | cons d ds =>
          rw [Document.allReadable, Bool.and_eq_true] at hitems
          obtain ⟨hfirst, hrest⟩ := hitems
          rw [write]
          simp only [List.cons_append, List.append_assoc, List.nil_append]
          rw [Token.ofChars_mark rfl, Reader.run_openList hdue (by omega), Token.ofChars_lineBreak,
            run_write l (depth + 1) d hfirst (.inr rfl) (by simp only [List.length_cons]; omega)
              (endsNumber_writeItems l depth ds r)]
          exact run_writeItems l depth ds hrest (by omega)
  | table entries =>
      rw [Document.isReadable, Bool.and_eq_true, decide_eq_true_eq] at hd
      obtain ⟨hpos, hentries⟩ := hd
      cases entries with
      | nil =>
          rw [write, Document.toNode]
          simp only [List.cons_append, List.nil_append]
          rw [Token.ofChars_mark rfl, Token.ofChars_mark rfl, Reader.run_openTable hdue (by omega)]
          rfl
      | cons e es =>
          obtain ⟨k, d⟩ := e
          rw [Document.entriesReadable, Bool.and_eq_true] at hentries
          obtain ⟨hfirst, hrest⟩ := hentries
          rw [write]
          simp only [List.cons_append, List.append_assoc, List.nil_append]
          rw [Token.ofChars_mark rfl, Reader.run_openTable hdue (by omega), Token.ofChars_lineBreak,
            Token.ofChars_writeText, Token.ofChars_colon, Reader.run_key (.inr rfl),
            run_write l (depth + 1) d hfirst (.inl rfl) (by simp only [List.length_cons]; omega)
              (endsNumber_writeEntries l depth es r)]
          exact run_writeEntries l depth es hrest (by omega)

/-- The items of a list after the first one, up to its closing bracket. -/
theorem run_writeItems (l : Layout) (depth : Nat) (ds : List Document) {room : Nat} {stack : List OpenNode}
    {items : List Node} {r : List Char} (hd : Document.allReadable room ds = true)
    (hroom : stack.length + 1 + room ≤ Reader.depthLimit) :
    run ⟨.list items :: stack, .separator, .cut⟩
        (ofChars (writeItems l depth ds ++ (l.lineBreak depth ++ ']' :: r))) =
      run (put (.list (items.reverse ++ Document.toNodes ds) .closed) stack) (ofChars r) := by
  cases ds with
  | nil =>
      rw [writeItems, List.nil_append, Token.ofChars_lineBreak, Token.ofChars_mark rfl, Document.toNodes,
        List.append_nil]
      rfl
  | cons d ds =>
      rw [Document.allReadable, Bool.and_eq_true] at hd
      obtain ⟨hfirst, hrest⟩ := hd
      have hcomma (ts : List Token) : run ⟨.list items :: stack, .separator, .cut⟩ (.comma :: ts) =
          run ⟨.list items :: stack, .value, .cut⟩ ts := rfl
      rw [writeItems]
      simp only [List.cons_append, List.append_assoc]
      rw [Token.ofChars_mark rfl, hcomma, Token.ofChars_lineBreak,
        run_write l (depth + 1) d hfirst (.inl rfl) (by simp only [List.length_cons]; omega)
          (endsNumber_writeItems l depth ds r)]
      have hnext := @run_writeItems l depth ds room stack (d.toNode :: items) r hrest hroom
      rw [List.reverse_cons, List.append_assoc] at hnext
      exact hnext

/-- The entries of a table after the first one, up to its closing bracket. -/
theorem run_writeEntries (l : Layout) (depth : Nat) (es : List (String × Document)) {room : Nat}
    {stack : List OpenNode} {entries : List (String × Node)} {r : List Char}
    (hd : Document.entriesReadable room es = true) (hroom : stack.length + 1 + room ≤ Reader.depthLimit) :
    run ⟨.table entries none :: stack, .separator, .cut⟩
        (ofChars (writeEntries l depth es ++ (l.lineBreak depth ++ '\x7d' :: r))) =
      run (put (.table (entries.reverse ++ Document.toEntries es) .closed) stack) (ofChars r) := by
  cases es with
  | nil =>
      rw [writeEntries, List.nil_append, Token.ofChars_lineBreak, Token.ofChars_mark rfl, Document.toEntries,
        List.append_nil]
      rfl
  | cons e es =>
      obtain ⟨k, d⟩ := e
      rw [Document.entriesReadable, Bool.and_eq_true] at hd
      obtain ⟨hfirst, hrest⟩ := hd
      have hcomma (ts : List Token) : run ⟨.table entries none :: stack, .separator, .cut⟩ (.comma :: ts) =
          run ⟨.table entries none :: stack, .key, .cut⟩ ts := rfl
      rw [writeEntries]
      simp only [List.cons_append, List.append_assoc]
      rw [Token.ofChars_mark rfl, hcomma, Token.ofChars_lineBreak, Token.ofChars_writeText, Token.ofChars_colon,
        Reader.run_key (.inl rfl),
        run_write l (depth + 1) d hfirst (.inl rfl) (by simp only [List.length_cons]; omega)
          (endsNumber_writeEntries l depth es r)]
      have hnext := @run_writeEntries l depth es room stack ((k, d.toNode) :: entries) r hrest hroom
      rw [List.reverse_cons, List.append_assoc] at hnext
      exact hnext

end

/-- What is written as JSON reads back, also with spaces or line breaks after it. -/
theorem read_write (l : Layout) (d : Document) (hd : d.isReadable Reader.depthLimit = true) (blank : List Char)
    (hb : ∀ c ∈ blank, Token.isSpace c = true) :
    read (String.ofList (write l 0 d ++ blank)) = ⟨d.toNode, false⟩ := by
  have hends : EndsNumber blank := by
    cases blank with
    | nil => exact endsNumber_nil
    | cons c cs =>
        have hc := hb c List.mem_cons_self
        refine endsNumber_cons ?_ ?_ ?_ ?_ cs
        · unfold Token.isSpace at hc
          simp only [Bool.or_eq_true, beq_iff_eq] at hc
          rcases hc with ((rfl | rfl) | rfl) | rfl <;> rfl
        all_goals
          rintro rfl
          cases hc
  have hblank : ofChars blank = [] := by
    simpa [Token.ofChars_nil] using Token.ofChars_spaces hb []
  rw [read, String.toList_ofList, Reader.start,
    run_write l 0 d hd (.inl rfl) (by simp) hends, hblank]
  rfl

theorem read_render (l : Layout) (d : Document) (hd : d.isReadable Reader.depthLimit = true) :
    read (render l d) = ⟨d.toNode, false⟩ := by
  have hread := read_write l d hd [] (fun c hc => nomatch hc)
  rwa [List.append_nil] at hread

end Json

end FluentThis
