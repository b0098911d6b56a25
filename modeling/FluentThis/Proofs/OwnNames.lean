import FluentThis.Proofs.ReferenceForm
/-!
References to a type that repeat its declaration. A name is declared as it is, but in a reference the words for no value
and for the primitive types mean themselves, an angle bracket ends the name, and pairs of brackets at the end make
arrays. Main statement: the text under which a type is declared refers to that type exactly when its name is none of
these words, has no opening angle bracket in it and does not end in a pair of brackets; for these names, and for no
others, a method of a builder that returns the builder under its own text is recognized.
-/

namespace FluentThis

/-- A name that means the same in a reference as in a declaration. -/
structure IsReferable (name : String) : Prop where
  notVoid : name ≠ "void"
  notPrimitive : name ∉ Scope.primitives
  noArguments : '<' ∉ name.toList
  noArray : ¬['[', ']'] <:+ name.toList

namespace TypeReference

open Text

theorem ofChars_append_blanks {blanks : List Char} (h : IsBlanks blanks) (cs : List Char) :
    ofChars (cs ++ blanks) = ofChars cs := by
  have hpads := (PadsOnce.right h .nil cs).ofChars_eq
  rwa [List.append_nil, List.append_nil] at hpads

/-- The blanks around a reference do not count. -/
theorem ofChars_trimChars (cs : List Char) : ofChars (trimChars cs) = ofChars cs := by
  obtain ⟨before, after, hbefore, hafter, hparts⟩ := pads_trimChars cs
  conv => rhs; rw [hparts, ofChars_append_blanks hafter, ofChars_blanks_append hbefore]

theorem dimensions_ne_zero {cs : List Char} (h : ['[', ']'] <:+ cs) : (ofChars cs).dimensions ≠ 0 := by
  obtain ⟨front, rfl⟩ := h
  rw [ofChars_append_brackets rfl (.pair .nil), ofChars_eq, List.reverse_append]
  exact Nat.succ_ne_zero _

/-- A text that ends in no pair of brackets and in no blank is read up to its first angle bracket. -/
theorem IsBare.ofChars_eq {cs : List Char} (h : IsBare cs) : ofChars cs = ⟨leadingName cs, 0⟩ := by
  have hsplits : Splits cs cs [] := ⟨(List.append_nil cs).symm, h, .nil⟩
  exact hsplits.ofChars_eq

theorem isBare_of_trimmed {cs : List Char} (h : trimChars cs = cs) (hpair : ¬['[', ']'] <:+ cs) : IsBare cs := by
  refine ⟨?_, hpair⟩
  intro c hc
  rw [← h] at hc
  exact not_isBlank_of_getLast?_trimChars hc

/-- A trimmed text is read as a name without change if nothing in it has a meaning in references. -/
theorem ofChars_eq_self_iff {cs : List Char} (h : trimChars cs = cs) :
    ofChars cs = ⟨cs, 0⟩ ↔ '<' ∉ cs ∧ ¬['[', ']'] <:+ cs := by
  constructor
  · intro hself
    have hpair : ¬['[', ']'] <:+ cs := fun hpair => dimensions_ne_zero hpair (congrArg dimensions hself)
    have hbare := isBare_of_trimmed h hpair
    have hname : leadingName cs = cs := by
      rw [hbare.ofChars_eq] at hself
      exact congrArg base hself
    refine ⟨?_, hpair⟩
    rw [← hname]
    exact angle_not_mem_leadingName cs
  · rintro ⟨hangle, hpair⟩
    have hbare := isBare_of_trimmed h hpair
    rw [hbare.ofChars_eq, leadingName, takeWhile_of_angle_not_mem hangle, h]

end TypeReference

/-- A text refers to the name that it is when the blanks around it are left off, if that name is referable. -/
theorem refersTo_trim_iff {text : String} : RefersTo text (Text.trim text) ↔ IsReferable (Text.trim text) := by
  have hself := TypeReference.ofChars_eq_self_iff (Text.trimChars_trimChars text.toList)
  rw [TypeReference.ofChars_trimChars] at hself
  constructor
  · rintro ⟨hdimensions, hbase, hvoid, hprimitive⟩
    have hread : TypeReference.ofChars text.toList = ⟨Text.trimChars text.toList, 0⟩ := by
      have hchars := congrArg String.toList hbase
      rw [String.toList_ofList, Text.toList_trim] at hchars
      rw [← hchars, ← hdimensions]
    obtain ⟨hangle, hpair⟩ := hself.1 hread
    constructor
    case notVoid => exact hvoid
    case notPrimitive => exact hprimitive
    case noArguments => simpa using hangle
    case noArray => simpa using hpair
  · intro h
    have hread := hself.2 ⟨by simpa using h.noArguments, by simpa using h.noArray⟩
    rw [RefersTo, hread]
    exact ⟨rfl, rfl, h.notVoid, h.notPrimitive⟩

namespace Source

variable {s : Source} {t : DeclaredType} {id : ElementId}

theorem resolve_own_name_iff (hn : s.scope.names.Nodup) (ht : s.types[id.index]? = some t) :
    s.scope.resolve t.name = .declared id ↔ IsReferable t.trimmedName := by
  rw [resolve_eq_declared_iff_refersTo hn ht]
  exact refersTo_trim_iff

end Source

namespace Declaration

variable {s : Source} {d : Declaration} {gs : GeneratorSet} {e : Entry}

theorem returned_own_name_iff (hn : s.scope.names.Nodup) {t : DeclaredType} {id : ElementId}
    (ht : s.types[id.index]? = some t) (hkind : d.method.kind = .method) (htext : d.method.returns = t.name) :
    d.returned s = .declared id ↔ IsReferable t.trimmedName := by
  rw [returned, DeclaredMethod.returnIdentity, hkind]
  dsimp only
  rw [htext, Source.resolve_own_name_iff hn ht]

/-- A method of an annotated builder is recognized by AutoValue if it returns the builder, and otherwise by no
generator at all: Lombok too asks for the type of the method. -/
theorem Infers.generator_of_builder (h : d.Infers gs s e) (hactive : Generator.autoValue ∈ gs)
    (hinstance : d.isInstance = true) (htagged : Carried d.type.annotations autoValueBuilder) :
    (d.returned s = .declared d.owner → e.generator = some .autoValue) ∧
      (d.returned s ≠ .declared d.owner → e.generator = none) := by
  constructor
  · intro hreturned
    exact h.autoValue.2 ⟨hactive, hinstance, .own htagged hreturned⟩
  · intro hother
    cases hg : e.generator with
    | none => rfl
    | some g =>
        cases g with
        | autoValue =>
            obtain ⟨_, _, hbuilder⟩ := h.autoValue.1 hg
            cases hbuilder with
            | own _ hreturned => exact absurd hreturned hother
            | inherited huntagged => exact absurd htagged huntagged
        | lombok =>
            obtain ⟨_, _, _, hbuilder⟩ := h.lombok.1 hg
            exact absurd hbuilder.returned hother

end Declaration

namespace Program

/-- The text under which a type is declared, as a reference. Wherever in the program a method returns it, the signature
of the method returns that very type exactly when the name of the type is referable. If the type is an annotated builder
and AutoValue is active, a method of the type that is not static and returns this text is recognized by AutoValue when
the name is referable, and when it is not, by no generator. -/
theorem own_name_refers (s : Source) (p : Program) (hp : ofSource s = .ok p) (i : Nat) (t : DeclaredType)
    (ht : s.types[i]? = some t) :
    (∀ k d, s.declarations[k]? = some d → d.method.kind = .method → d.method.returns = t.name →
      ∃ signature returned, p.host.signature ⟨s.types.length + k⟩ = .ok signature ∧
        signature.returns = some returned ∧ (returned.identity = .declared ⟨i⟩ ↔ IsReferable t.trimmedName)) ∧
    ∀ gs, Generator.autoValue ∈ gs → Carried t.annotations autoValueBuilder →
      ∃ r, Report.ofHost gs p.host = .ok r ∧
        List.Forall₂ (fun d e => d.owner = ⟨i⟩ → d.isInstance = true → d.method.returns = t.name →
          (IsReferable t.trimmedName → e.generator = some .autoValue) ∧
            (¬IsReferable t.trimmedName → e.generator = none)) s.declarations r.entries := by
  have hn := nodup_of_ofSource hp
  rw [eq_program_of_ofSource hp]
  constructor
  · intro k d hd hkind htext
    refine ⟨_, (d.element s).returns, host_signature (Source.element?_declaration hd),
      ExecutableElement.returns_signature _ _, ?_⟩
    exact Declaration.returned_own_name_iff hn ht hkind htext
  · intro gs hactive htagged
    apply report_of_entries
    intro d hm id hd
    obtain ⟨e, he, hinfers⟩ := Declaration.infers_entry hm hd gs
    refine ⟨e, he, ?_⟩
    intro howner hinstance htext
    have htype := (Source.mem_declarations hm).1
    have hsame : d.type = t := by
      rw [howner, ht] at htype
      exact (Option.some.inj htype).symm
    have hkind : d.method.kind = .method := by
      simp only [Declaration.isInstance, Bool.and_eq_true, beq_iff_eq] at hinstance
      exact hinstance.1
    rw [← hsame] at htagged
    have hreferable : d.returned s = .declared ⟨i⟩ ↔ IsReferable t.trimmedName :=
      Declaration.returned_own_name_iff hn ht hkind htext
    obtain ⟨hself, hother⟩ := hinfers.generator_of_builder hactive hinstance htagged
    rw [howner] at hself hother
    rw [← hreferable]
    exact ⟨hself, hother⟩

/-- A builder with blanks around its name, and a type with arguments in its name. -/
def boxed : Source where
  types := [
    { name := " a.Box.Builder ", annotations := [.named autoValueBuilder]
      methods := [{ name := "set", returns := " a.Box.Builder " }, { name := "box", returns := "a.Box<T>" }] },
    { name := "a.Box<T>", methods := [{ name := "of", isStatic := true, returns := " a.Box.Builder " }] }]

theorem own_name_refers_boxed :
    ofSource boxed = .ok boxed.program ∧ IsReferable "a.Box.Builder" ∧ ¬IsReferable "a.Box<T>" ∧
      (∃ signature returned, boxed.program.host.signature ⟨4⟩ = .ok signature ∧ signature.returns = some returned ∧
        returned.identity = .declared ⟨0⟩) ∧
      (∃ signature returned, boxed.program.host.signature ⟨3⟩ = .ok signature ∧ signature.returns = some returned ∧
        returned.identity ≠ .declared ⟨1⟩) ∧
      ∃ r set others, Report.ofHost .all boxed.program.host = .ok r ∧ r.entries = set :: others ∧
        set.generator = some .autoValue := by
  have hp : ofSource boxed = .ok boxed.program := rfl
  have hbuilder : IsReferable "a.Box.Builder" := ⟨by decide, by decide, by decide, by decide⟩
  have hbox : ¬IsReferable "a.Box<T>" := fun h => h.noArguments (by decide)
  obtain ⟨hreturns, hreport⟩ := own_name_refers boxed boxed.program hp 0 _ rfl
  obtain ⟨hreturns', _⟩ := own_name_refers boxed boxed.program hp 1 _ rfl
  obtain ⟨of, returned, hof, hreturned, hself⟩ := hreturns 2 _ rfl rfl rfl
  obtain ⟨box, returned', hbox', hreturned', hother⟩ := hreturns' 1 _ rfl rfl rfl
  obtain ⟨r, hr, hentries⟩ := hreport .all rfl ⟨_, List.mem_cons_self, rfl⟩
  obtain ⟨set, others, hset, _, hlist⟩ := List.forall₂_cons_left_iff.1 hentries
  have hrecognized := (hset rfl rfl rfl).1 hbuilder
  exact ⟨hp, hbuilder, hbox, ⟨of, returned, hof, hreturned, hself.2 hbuilder⟩,
    ⟨box, returned', hbox', hreturned', fun h => hbox (hother.1 h)⟩, r, set, others, hr, hlist, hrecognized⟩

/-- Builders under the words for no value and for a primitive type, with a pair of brackets at the end of the name and
with arguments in it, each with a method that returns it under its own text. -/
def unreferable : Source where
  types := [
    { name := "void", annotations := [.named autoValueBuilder], methods := [{ name := "set", returns := "void" }] },
    { name := "int", annotations := [.named autoValueBuilder], methods := [{ name := "set", returns := "int" }] },
    { name := "a.Row[]", annotations := [.named autoValueBuilder]
      methods := [{ name := "set", returns := "a.Row[]" }] },
    { name := "a.Box<T>", annotations := [.named autoValueBuilder]
      methods := [{ name := "set", returns := "a.Box<T>" }] }]

/-- All of them are declared, but their own texts mean other types, and nothing is recognized. -/
theorem own_name_captured :
    ofSource unreferable = .ok unreferable.program ∧
      (∀ d ∈ unreferable.declarations, d.isInstance = true ∧ d.method.returns = d.type.name ∧
        d.type.annotations = [.named autoValueBuilder]) ∧
      unreferable.declarations.map (·.owner) = [⟨0⟩, ⟨1⟩, ⟨2⟩, ⟨3⟩] ∧
      unreferable.program.executableIds.map (fun id =>
        (unreferable.program.host.signature id).toOption.bind fun s => s.returns.map (·.identity)) =
        [some .void, some (.primitive "int"), some (.array (.external "a.Row")), some (.external "a.Box")] ∧
      (Report.ofHost .all unreferable.program.host).toOption.map (·.entries.map (·.generator)) =
        some [none, none, none, none] := by
  refine ⟨rfl, ?_, rfl, by decide, by decide⟩
  simp [Source.declarations, unreferable, Declaration.isInstance, List.zipIdx]

end Program

end FluentThis
