import FluentThis.Command.Checking
import FluentThis.Proofs.SettledTrees
/-!
Programs in the two formats. What a document says does not depend on the format that it is written in or on the order of
its keys, as long as records are tables and names of variants are texts, and 64 bits hold the integers in an annotation.
Main statement: from a JSON text and a TOML text that say one such document the same source is read and the same program
is made, or neither is a program.
-/

namespace FluentThis

theorem Schema.toOption_settled_then {α : Type} {F : DocumentFormat} {n : Node} {d : Document} (h : n.Holds F d)
    (a : Except Fault α) : (do settled n; a).toOption = if d.allIntegers F.settles then a.toOption else none := by
  have hsettled := settled_iff_of_holds n h
  split
  · next hfit =>
      rw [hsettled.2 hfit]
      rfl
  · next hfit =>
      cases hs : settled n with
      | error e => rfl
      | ok u => exact absurd (hsettled.1 hs) hfit

namespace Document

/-- In a table without repeated keys there is at most one value for a key. -/
theorem values_of_key {ds : List (String × Document)} (hk : (ds.map Prod.fst).Nodup) (key : String) :
    (ds.filter (·.1 = key)).map (·.2) = (ds.lookup key).toList := by
  induction ds with
  | nil => rfl
  | cons d ds ih =>
      obtain ⟨k, d⟩ := d
      rw [List.map_cons, List.nodup_cons] at hk
      by_cases h : k = key
      · subst h
        have hrest : ds.filter (·.1 = k) = [] := by
          rw [List.filter_eq_nil_iff]
          intro e he hek
          have hmem := List.mem_map_of_mem (f := Prod.fst) he
          rw [of_decide_eq_true hek] at hmem
          exact hk.1 hmem
        simp [hrest]
      · have hkey : (key == k) = false := beq_false_of_ne (Ne.symm h)
        rw [List.filter_cons_of_neg (by simpa using h), List.lookup_cons, hkey]
        exact ih hk.2

end Document

namespace Document

/-- If a document is a table, the formats agree on whether it can be read whatever it is. -/
def SettledAlike (F G : DocumentFormat) (d : Document) : Prop :=
  d.IsTable → d.allIntegers F.settles = d.allIntegers G.settles

end Document

namespace DeclaredAnnotation

variable {F : DocumentFormat}

/-- The annotation that a document stands for. -/
def ofDocument? : Document → Option DeclaredAnnotation
  | .text name => some (named name)
  | .table es =>
    match es.lookup "name", es.lookup "resolved" with
    | some (.text name), none => some (detailed name true)
    | some (.text name), some (.boolean resolved) => some (detailed name resolved)
    | _, _ => none
  | _ => none

/-- A key of a tree has the value that it has in the document, wherever it stands. -/
theorem valuesOf_of_holds {es : List (String × Node)} {ds ds' : List (String × Document)}
    (h : Node.HoldsEntries F es ds') (hp : ds'.Perm ds) (hk : (ds.map Prod.fst).Nodup) (key : String) :
    List.Forall₂ (Node.Holds F) (valuesOf key es) (ds.lookup key).toList := by
  have hvalues : List.Forall₂ (Node.Holds F) (valuesOf key es) ((ds'.filter (·.1 = key)).map (·.2)) := by
    rw [valuesOf, List.forall₂_map_left_iff, List.forall₂_map_right_iff]
    refine (List.rel_filter ?_ (Node.holdsEntries_iff_forall₂.1 h)).imp fun _ _ hed => hed.2
    intro e d hed
    simp only [hed.1]
  have hperm : ((ds'.filter (·.1 = key)).map (·.2)).Perm (ds.lookup key).toList := by
    rw [← Document.values_of_key hk]
    exact (hp.filter _).map _
  have hsame : (ds'.filter (·.1 = key)).map (·.2) = (ds.lookup key).toList := by
    cases hv : ds.lookup key with
    | none =>
        rw [hv] at hperm
        exact List.perm_nil.1 hperm
    | some d =>
        rw [hv] at hperm
        exact List.perm_singleton.1 hperm
  rwa [hsame] at hvalues

theorem detailed?_of_holds {es : List (String × Node)} {ds ds' : List (String × Document)}
    (h : Node.HoldsEntries F es ds') (hp : ds'.Perm ds) (hk : (ds.map Prod.fst).Nodup) :
    detailed? es = ofDocument? (.table ds) := by
  have hname := valuesOf_of_holds h hp hk "name"
  have hresolved := valuesOf_of_holds h hp hk "resolved"
  rw [detailed?, ofDocument?]
  revert hname hresolved
  generalize valuesOf "name" es = names, valuesOf "resolved" es = answers, ds.lookup "name" = name,
    ds.lookup "resolved" = answer
  intro hname hresolved
  cases name with
  | none =>
      cases hname
      rfl
  | some name =>
      obtain _ | ⟨hname, _ | _⟩ := hname
      cases hname with
      | text s =>
          cases answer with
          | none =>
              cases hresolved
              rfl
          | some answer =>
              obtain _ | ⟨hresolved, _ | _⟩ := hresolved
              cases hresolved with
              | integer taken => cases taken.isNumber <;> rfl
              | _ => rfl
      | integer taken => cases taken.isNumber <;> rfl
      | _ => rfl

/-- The annotation in a tree is that of the document, as far as the tree can be read at all. -/
theorem toOption_decode {n : Node} {d : Document} (h : n.Holds F d) :
    (decode n).toOption = if d.allIntegers F.settles then ofDocument? d else none := by
  refine (Schema.toOption_settled_then h _).trans ?_
  congr 1
  cases h with
  | @table es ds ds' entries order keys =>
      rw [← detailed?_of_holds entries order keys]
      dsimp only
      cases detailed? es <;> rfl
  | integer taken => cases taken.isNumber <;> rfl
  | _ => rfl

theorem agree (F G : DocumentFormat) : Schema.Agree F G (Document.SettledAlike F G) decode decode := by
  intro n m d hn hm hd
  rw [toOption_decode hn, toOption_decode hm]
  cases d with
  | table es => rw [hd ⟨es, rfl⟩]
  | text s => rfl
  | _ => simp [ofDocument?]

end DeclaredAnnotation

namespace Schema

/-- Two steps that set what they read can be taken in either order, if what they set can be. -/
theorem set_comm {α β σ : Type} {f g : σ → Except Fault σ} {a : Except Fault α} {b : Except Fault β}
    {setA : α → σ → σ} {setB : β → σ → σ} (hf : ∀ s, f s = do return setA (← a) s)
    (hg : ∀ s, g s = do return setB (← b) s) (hc : ∀ x y s, setB y (setA x s) = setA x (setB y s)) (s : σ) :
    ((f s).toOption.bind fun s => (g s).toOption) = (g s).toOption.bind fun s => (f s).toOption := by
  simp only [hf, hg]
  cases a with
  | error e => cases b <;> rfl
  | ok x =>
      cases b with
      | error e => rfl
      | ok y => exact congrArg some (hc x y s)

end Schema

namespace Document

/-- A document that may stand for a method. A record written as a list, or a variant written as a table, means
something in one format only. -/
structure SuitsMethod (d : Document) : Prop where
  noList : ¬d.IsList
  variants : ∀ e ∈ d.entries, e.1 = "kind" ∨ e.1 = "return_qualifier" → ¬e.2.IsTable

structure SuitsType (d : Document) : Prop where
  noList : ¬d.IsList
  variants : ∀ e ∈ d.entries, e.1 = "kind" → ¬e.2.IsTable
  methods : ∀ e ∈ d.entries, e.1 = "methods" → ∀ m ∈ e.2.items, m.SuitsMethod

structure SuitsProgram (d : Document) : Prop where
  noList : ¬d.IsList
  types : ∀ e ∈ d.entries, e.1 = "types" → ∀ t ∈ e.2.items, t.SuitsType

/-- The items of the list that a table has for a key. -/
def itemsOf (key : String) (d : Document) : List Document := (d.entries.filter (·.1 = key)).flatMap (·.2.items)

/-- The annotations of a type and of its methods. -/
def annotationsOfType (d : Document) : List Document :=
  d.itemsOf "annotations" ++ (d.itemsOf "methods").flatMap (itemsOf "annotations")

/-- The annotations in a program. -/
def annotations (d : Document) : List Document := (d.itemsOf "types").flatMap annotationsOfType

theorem mem_itemsOf {d i : Document} {e : String × Document} {key : String} (he : e ∈ d.entries) (hk : e.1 = key)
    (hi : i ∈ e.2.items) : i ∈ d.itemsOf key :=
  List.mem_flatMap.2 ⟨e, List.mem_filter.2 ⟨he, decide_eq_true hk⟩, hi⟩

end Document

namespace DeclaredMethod

theorem independent (F : DocumentFormat) : Schema.Independent fields (setField F) := by
  intro k hk k' hk' hne n n' s
  simp only [fields, List.mem_cons, List.not_mem_nil, or_false] at hk hk'
  rcases hk with rfl | rfl | rfl | rfl | rfl | rfl <;> rcases hk' with rfl | rfl | rfl | rfl | rfl | rfl
  all_goals
    first
    | exact absurd rfl hne
    | apply Schema.set_comm
      · exact fun _ => rfl
      · exact fun _ => rfl
      · exact fun _ _ _ => rfl

theorem agree_setField (F G S T : DocumentFormat) (k : String) (hk : k ∈ fields) (s : DeclaredMethod) :
    Schema.Agree F G
      (fun d => (k = "kind" ∨ k = "return_qualifier" → ¬d.IsTable) ∧
        (k = "annotations" → ∀ a ∈ d.items, a.SettledAlike F G))
      (fun n => setField S k n s) fun n => setField T k n s := by
  simp only [fields, List.mem_cons, List.not_mem_nil, or_false] at hk
  rcases hk with rfl | rfl | rfl | rfl | rfl | rfl
  · exact (Schema.agree_text _).map fun x => { s with name := x }
  · refine Schema.Agree.map ?_ fun x => { s with kind := x }
    exact (Schema.agree_variant S T _).imp fun d hd => hd.1 (.inl rfl)
  · exact (Schema.agree_flag _).map fun x => { s with isStatic := x }
  · exact (Schema.agree_text _).map fun x => { s with returns := x }
  · refine Schema.Agree.map ?_ fun x => { s with returnQualifier := x }
    exact (Schema.agree_variant S T _).optional.imp fun d hd => hd.1 (.inr rfl)
  · refine Schema.Agree.map ?_ fun x => { s with annotations := x }
    have hannotation := DeclaredAnnotation.agree F G
    exact hannotation.list.imp fun d hd => hd.2 rfl

theorem agree (F G S T : DocumentFormat) :
    Schema.Agree F G (fun d => d.SuitsMethod ∧ ∀ a ∈ d.itemsOf "annotations", a.SettledAlike F G)
      (decode S) (decode T) := by
  refine (Schema.agree_record (agree_setField F G S T) (independent S)).imp ?_
  intro d ⟨hd, hannotations⟩
  refine ⟨hd.noList, fun e he => ⟨hd.variants e he, fun hk a ha => hannotations a ?_⟩⟩
  exact Document.mem_itemsOf he hk ha

end DeclaredMethod

namespace DeclaredType

theorem independent (F : DocumentFormat) : Schema.Independent fields (setField F) := by
  intro k hk k' hk' hne n n' s
  simp only [fields, List.mem_cons, List.not_mem_nil, or_false] at hk hk'
  rcases hk with rfl | rfl | rfl | rfl | rfl <;> rcases hk' with rfl | rfl | rfl | rfl | rfl
  all_goals
    first
    | exact absurd rfl hne
    | apply Schema.set_comm
      · exact fun _ => rfl
      · exact fun _ => rfl
      · exact fun _ _ _ => rfl

theorem agree_setField (F G S T : DocumentFormat) (k : String) (hk : k ∈ fields) (s : Bool × DeclaredType) :
    Schema.Agree F G
      (fun d => (k = "kind" → ¬d.IsTable) ∧ (k = "annotations" → ∀ a ∈ d.items, a.SettledAlike F G) ∧
        (k = "methods" → ∀ m ∈ d.items, m.SuitsMethod ∧ ∀ a ∈ m.itemsOf "annotations", a.SettledAlike F G))
      (fun n => setField S k n s) fun n => setField T k n s := by
  simp only [fields, List.mem_cons, List.not_mem_nil, or_false] at hk
  rcases hk with rfl | rfl | rfl | rfl | rfl
  · exact (Schema.agree_text _).map fun x => (true, { s.2 with name := x })
  · refine Schema.Agree.map ?_ fun x => (s.1, { s.2 with kind := x })
    exact (Schema.agree_variant S T _).imp fun d hd => hd.1 rfl
  · exact (Schema.agree_text _).optional.map fun x => (s.1, { s.2 with superclass := x })
  · refine Schema.Agree.map ?_ fun x => (s.1, { s.2 with annotations := x })
    have hannotation := DeclaredAnnotation.agree F G
    exact hannotation.list.imp fun d hd => hd.2.1 rfl
  · refine Schema.Agree.map ?_ fun x => (s.1, { s.2 with methods := x })
    exact (DeclaredMethod.agree F G S T).list.imp fun d hd => hd.2.2 rfl

theorem agree (F G S T : DocumentFormat) :
    Schema.Agree F G (fun d => d.SuitsType ∧ ∀ a ∈ d.annotationsOfType, a.SettledAlike F G)
      (decode S) (decode T) := by
  refine (Schema.agree_record (agree_setField F G S T) (independent S)).imp ?_
  intro d ⟨hd, hannotations⟩
  refine ⟨hd.noList, fun e he => ⟨hd.variants e he, fun hk a ha => hannotations a ?_, fun hk m hm => ?_⟩⟩
  · exact List.mem_append_left _ (Document.mem_itemsOf he hk ha)
  · refine ⟨hd.methods e he hk m hm, fun a ha => hannotations a (List.mem_append_right _ ?_)⟩
    exact List.mem_flatMap.2 ⟨m, Document.mem_itemsOf he hk hm, ha⟩

end DeclaredType

namespace Source

theorem agree (F G S T : DocumentFormat) :
    Schema.Agree F G (fun d => d.SuitsProgram ∧ ∀ a ∈ d.annotations, a.SettledAlike F G) (decode S) (decode T) := by
  have hindependent : Schema.Independent ["types"] (setField S) := by
    intro k hk k' hk' hne
    rw [List.mem_singleton] at hk hk'
    exact absurd (hk.trans hk'.symm) hne
  have hsetField : ∀ k ∈ ["types"], ∀ s : Source, Schema.Agree F G
      (fun d => k = "types" → ∀ t ∈ d.items, t.SuitsType ∧ ∀ a ∈ t.annotationsOfType, a.SettledAlike F G)
      (fun n => setField S k n s) fun n => setField T k n s := by
    intro k hk s
    rw [List.mem_singleton] at hk
    refine Schema.Agree.map ?_ Source.mk
    exact (DeclaredType.agree F G S T).list.imp fun d hd => hd hk
  refine (Schema.agree_record hsetField hindependent).imp ?_
  intro d ⟨hd, hannotations⟩
  refine ⟨hd.noList, fun e he hk t ht => ⟨hd.types e he hk t ht, fun a ha => hannotations a ?_⟩⟩
  exact List.mem_flatMap.2 ⟨t, Document.mem_itemsOf he hk ht, ha⟩

theorem toOption_ofJson {json : String} (h : (Json.read json).trailing = false) :
    (ofJson json).toOption = (decode .json (Json.read json).root).toOption := by
  rw [ofJson, ofReading, h]
  cases decode .json (Json.read json).root <;> rfl

theorem toOption_ofToml {toml : String} {n : Node} (h : Toml.read toml = some n) :
    (ofToml toml).toOption = (decode .toml n).toOption := by
  rw [ofToml, h]

/-- A TOML text from which a program is read has no integer that 64 bits do not hold, if records are tables and names of
variants are texts. -/
theorem allIntegers_of_ofToml {toml : String} {n : Node} {d : Document} {source : Source}
    (hread : Toml.read toml = some n) (htoml : n.Holds .toml d) (hd : d.SuitsProgram)
    (h : ofToml toml = .ok source) : d.allIntegers (fits 64) = true := by
  rw [ofToml, hread] at h
  -- the tree could be one of a JSON text, too, and from such a tree a program is only read if it is settled
  have hsame := agree .toml .toml .toml .json htoml htoml ⟨hd, fun _ _ _ => rfl⟩
  rw [Schema.toOption_eq_some_iff.2 h] at hsame
  have hsettled := takesSettled (Schema.toOption_eq_some_iff.1 hsame.symm)
  exact (Schema.settled_iff_of_holds n htoml).1 hsettled

end Source

namespace Json

/-- Whether an integer is not beyond the largest float. -/
def hasInteger (i : Int) : Bool := (numeralOf i).value?.isSome

/-- What is read from a JSON text that says what a document says: a tree that holds the document. An integer beyond the
largest float cannot be read, and the tree of a document with such an integer is cut. -/
inductive Reading.Says (d : Document) : Reading → Prop where
  | whole {n : Node} (holds : n.Holds .json d) : Says d ⟨n, false⟩
  | cut {r : Reading} (beyond : d.allIntegers hasInteger = false) (cut : r.isWhole = false) : Says d r

end Json

namespace Program

theorem ofJson_eq_ok_iff {json : String} {p : Program} :
    ofJson json = .ok p ↔ ∃ source, Source.ofJson json = .ok source ∧ ofSource source = .ok p := by
  rw [ofJson]
  cases Source.ofJson json <;> simp

theorem ofToml_eq_ok_iff {toml : String} {p : Program} :
    ofToml toml = .ok p ↔ ∃ source, Source.ofToml toml = .ok source ∧ ofSource source = .ok p := by
  rw [ofToml]
  cases Source.ofToml toml <;> simp

/-- A JSON text and a TOML text that say one document give the same source and the same program, or neither of them gives
one. The keys may stand in a different order in each, and the integers may be of any size outside the tables of
annotations. -/
theorem formats_agree {json toml : String} {n : Node} {d : Document} (hjson : (Json.read json).Says d)
    (hread : Toml.read toml = some n) (htoml : n.Holds .toml d) (hd : d.SuitsProgram)
    (hfit : ∀ a ∈ d.annotations, a.IsTable → a.allIntegers (fits 64) = true) :
    (∀ source, Source.ofJson json = .ok source ↔ Source.ofToml toml = .ok source) ∧
      ((∃ p, ofJson json = .ok p) ↔ ∃ p, ofToml toml = .ok p) ∧ ∀ p, ofJson json = .ok p ↔ ofToml toml = .ok p := by
  have hsource (source : Source) : Source.ofJson json = .ok source ↔ Source.ofToml toml = .ok source := by
    generalize hr : Json.read json = r at hjson
    cases hjson with
    | @whole root holds =>
        have halike : ∀ a ∈ d.annotations, a.SettledAlike .json .toml := by
          intro a ha htable
          have hall := hfit a ha htable
          exact (Document.allIntegers_imp (fun _ _ => rfl) a hall).trans hall.symm
        have hsame := Source.agree .json .toml .json .toml holds htoml ⟨hd, halike⟩
        have hend : (Json.read json).trailing = false := by rw [hr]
        rw [← Schema.toOption_eq_some_iff, ← Schema.toOption_eq_some_iff, Source.toOption_ofJson hend, hr,
          Source.toOption_ofToml hread, hsame]
    | cut beyond cut =>
        constructor
        · intro hok
          have hwhole := Source.isWhole_of_ofJson hok
          rw [hr, cut] at hwhole
          cases hwhole
        · intro hok
          have hall := Source.allIntegers_of_ofToml hread htoml hd hok
          have hvalue (i : Int) (hi : fits 64 i = true) : Json.hasInteger i = true := by
            rw [Json.hasInteger, Json.value?_numeralOf hi]
            rfl
          rw [Document.allIntegers_imp hvalue d hall] at beyond
          cases beyond
  have hprogram (p : Program) : ofJson json = .ok p ↔ ofToml toml = .ok p := by
    simp only [ofJson_eq_ok_iff, ofToml_eq_ok_iff, hsource]
  exact ⟨hsource, by simp only [hprogram], hprogram⟩

/-- A program with one type, whose annotation has an entry that is ignored. -/
def marked (kind : String) (extra : Document) : Document :=
  .table [("types", .list [.table [("annotations", .list [.table [("extra", extra), ("name", .text "x")]]),
    ("kind", .text kind), ("name", .text "a.B")]])]

theorem suitsProgram_marked (kind : String) (extra : Document) : (marked kind extra).SuitsProgram := by
  refine ⟨fun ⟨_, h⟩ => (nomatch h), ?_⟩
  intro e he _ t ht
  obtain rfl := List.mem_singleton.1 he
  obtain rfl := List.mem_singleton.1 ht
  refine ⟨fun ⟨_, h⟩ => (nomatch h), ?_, ?_⟩ <;>
    simp [Document.entries, Document.IsTable]

/-- The tree of such a program, with the keys in the same order. -/
def markedTree (kind : String) (extra : Node) : Node :=
  .table [("types", .list [.table [("annotations", .list [.table [("extra", extra), ("name", .text "x")] .closed] .closed),
    ("kind", .text kind), ("name", .text "a.B")] .closed] .closed)] .closed

theorem holds_markedTree {F : DocumentFormat} {n : Node} {extra : Document} (h : n.Holds F extra) (kind : String) :
    (markedTree kind n).Holds F (marked kind extra) := by
  refine .table (.cons _ (.list (.cons ?_ .nil)) .nil) (.refl _) (by simp)
  refine .table (.cons _ (.list (.cons ?_ .nil)) (.cons _ (.text _) (.cons _ (.text _) .nil))) (.refl _) (by simp)
  exact .table (.cons _ h (.cons _ (.text _) .nil)) (.refl _) (by simp)

/-- An integer that 64 bits do not hold is ignored in an annotation in JSON but not in TOML. -/
theorem formats_differ_on_long_integer :
    let json := "\x7b\"types\":[\x7b\"annotations\":[\x7b\"extra\":18446744073709551616,\"name\":\"x\"\x7d]," ++
      "\"kind\":\"class\",\"name\":\"a.B\"\x7d]\x7d"
    let toml := "[[types]]\nname='a.B'\nkind='class'\n[[types.annotations]]\nname='x'\nextra=18446744073709551616"
    let d := marked "class" (.integer 18446744073709551616)
    (Json.read json).Says d ∧ (∃ n, Toml.read toml = some n ∧ n.Holds .toml d) ∧ d.SuitsProgram ∧
      (∃ source, Source.ofJson json = .ok source) ∧ ∀ source, Source.ofToml toml ≠ .ok source := by
  intro json toml d
  let rounded : Node := .float (.finite false 4503599627370496 12)
  have hjson : Json.read json = ⟨markedTree "class" rounded, false⟩ := by decide +kernel
  have htoml : Toml.read toml = some (markedTree "class" (.integer 18446744073709551616)) := by decide +kernel
  have hrounded : rounded.Holds .json (.integer 18446744073709551616) := by
    let x : Json.Numeral := ⟨false, Nat.toDigits 10 18446744073709551616, none, none⟩
    have hx : x.integer = 18446744073709551616 := by decide +kernel
    have hvalue : x.value? = some rounded := by decide +kernel
    exact .integer (hx ▸ .json rfl rfl hvalue)
  have hkept : Node.Holds .toml (.integer 18446744073709551616) (.integer 18446744073709551616) :=
    .integer (.toml 18446744073709551616)
  refine ⟨?_, ⟨_, htoml, holds_markedTree hkept _⟩, suitsProgram_marked _ _, ?_, ?_⟩
  · rw [hjson]
    exact .whole (holds_markedTree hrounded _)
  · exact ⟨⟨[{ name := "a.B", annotations := [.detailed "x" true] }]⟩, by rw [Source.ofJson, hjson]; rfl⟩
  · intro source hsource
    rw [Source.ofToml, htoml] at hsource
    cases hsource

theorem formats_agree_marked :
    let json := "\x7b\"types\":[\x7b\"name\":\"a.B\",\"kind\":\"interface\"," ++
      "\"annotations\":[\x7b\"name\":\"x\",\"extra\":[\"y\"]\x7d]\x7d]\x7d"
    let toml := "[[types]]\nname='a.B'\nkind='interface'\n[[types.annotations]]\nextra=['y']\nname='x'"
    let d := marked "interface" (.list [.text "y"])
    (Json.read json).Says d ∧ (∃ n, Toml.read toml = some n ∧ n.Holds .toml d) ∧ d.SuitsProgram ∧
      ∃ p, ofJson json = .ok p ∧ ofToml toml = .ok p := by
  intro json toml d
  have hjson : Json.read json = ⟨.table [("types", .list [.table [("name", .text "a.B"), ("kind", .text "interface"),
      ("annotations", .list [.table [("name", .text "x"), ("extra", .list [.text "y"] .closed)] .closed] .closed)]
      .closed] .closed)] .closed, false⟩ := by decide +kernel
  have hread : Toml.read toml = some (markedTree "interface" (.list [.text "y"] .closed)) := by decide +kernel
  have hextra {F : DocumentFormat} : Node.Holds F (.list [.text "y"] .closed) (.list [.text "y"]) :=
    .list (.cons (.text _) .nil)
  have hsaid : (Json.read json).Says d := by
    rw [hjson]
    -- the keys stand the other way round in this text
    refine .whole (.table (.cons _ (.list (.cons ?_ .nil)) .nil) (.refl _) (by decide))
    refine .table (.cons _ (.text _) (.cons _ (.text _) (.cons _ (.list (.cons ?_ .nil)) .nil)))
      (List.reverse_perm [_, _, _]) (by decide)
    exact .table (.cons _ (.text _) (.cons _ hextra .nil)) (List.reverse_perm [_, _]) (by decide)
  have hfit : ∀ a ∈ d.annotations, a.IsTable → a.allIntegers (fits 64) = true := by
    intro a ha _
    obtain rfl := List.mem_singleton.1 ha
    rfl
  let source : Source := ⟨[{ name := "a.B", kind := .interfaceType, annotations := [.detailed "x" true] }]⟩
  have hmade : ofJson json = .ok source.program := by
    rw [ofJson, Source.ofJson, hjson]
    rfl
  have hd := suitsProgram_marked "interface" (.list [.text "y"])
  obtain ⟨_, _, hagree⟩ := formats_agree hsaid hread (holds_markedTree hextra _) hd hfit
  exact ⟨hsaid, ⟨_, hread, holds_markedTree hextra _⟩, hd, _, hmade, (hagree _).1 hmade⟩

end Program

end FluentThis
