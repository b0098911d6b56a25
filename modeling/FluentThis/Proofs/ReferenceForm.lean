import FluentThis.Proofs.Padding
import FluentThis.Proofs.ProgramInference
import FluentThis.Proofs.Representation
/-!
The form of references. A text is a front part with pairs of brackets behind it, as many as can be told off its end,
and the front part has a name before its first angle bracket. Main statement: a reference means as many arrays as there
are pairs, made of what the name means by itself, and as it is displayed it means the same again.
-/

namespace FluentThis

namespace Text

theorem exists_trimRight (cs : List Char) : ∃ after, IsBlanks after ∧ cs = trimRight cs ++ after := by
  refine ⟨(cs.reverse.takeWhile isBlank).reverse, ?_, ?_⟩
  · intro c hc
    exact List.mem_takeWhile_imp (List.mem_reverse.1 hc)
  · rw [trimRight, ← List.reverse_append, List.takeWhile_append_dropWhile, List.reverse_reverse]

/-- What trimming takes away is blank. -/
theorem pads_trimChars (cs : List Char) : Pads (trimChars cs) cs := by
  obtain ⟨after, hafter, hparts⟩ := exists_trimRight (cs.dropWhile isBlank)
  refine ⟨cs.takeWhile isBlank, after, fun c hc => List.mem_takeWhile_imp hc, hafter, ?_⟩
  rw [List.append_assoc, trimChars, ← hparts, List.takeWhile_append_dropWhile]

theorem trimChars_trimChars (cs : List Char) : trimChars (trimChars cs) = trimChars cs :=
  (pads_trimChars cs).trimChars_eq.symm

theorem mem_of_mem_trimChars {c : Char} {cs : List Char} (h : c ∈ trimChars cs) : c ∈ cs := by
  obtain ⟨before, after, _, _, hparts⟩ := pads_trimChars cs
  rw [hparts]
  simp [h]

theorem not_isBlank_of_getLast?_trimChars {c : Char} {cs : List Char} (h : c ∈ (trimChars cs).getLast?) :
    ¬isBlank c = true := by
  rw [trimChars, trimRight, List.getLast?_reverse] at h
  have hhead := List.head?_dropWhile_not isBlank (cs.dropWhile isBlank).reverse
  rw [Option.mem_def.1 h] at hhead
  simpa using hhead

/-- A text that ends in no blank ends as it does when it is trimmed. -/
theorem trimChars_suffix {cs : List Char} (h : ∀ c ∈ cs.getLast?, ¬isBlank c = true) : trimChars cs <:+ cs := by
  obtain ⟨before, after, _, hafter, hparts⟩ := pads_trimChars cs
  cases hlast : after.getLast? with
  | none =>
      rw [List.getLast?_eq_none_iff] at hlast
      rw [hlast, List.append_nil] at hparts
      exact ⟨before, hparts.symm⟩
  | some c =>
      have hend : c ∈ cs.getLast? := by
        rw [hparts, List.getLast?_append, hlast]
        rfl
      exact absurd (hafter c (List.mem_of_getLast? hlast)) (h c hend)

end Text

namespace TypeReference

open Text

/-- No blank and no pair of brackets ends the text. -/
structure IsBare (cs : List Char) : Prop where
  blank : ∀ c ∈ cs.getLast?, ¬isBlank c = true
  pair : ¬['[', ']'] <:+ cs

/-- `front` is the text without the pairs of brackets at its end and the blanks around them, which are `brackets`. -/
structure Splits (cs front brackets : List Char) : Prop where
  parts : cs = front ++ brackets
  bare : IsBare front
  brackets : IsBrackets brackets

/-- The name with which a text begins: what stands before the first opening angle bracket, without the blanks around
it. -/
def leadingName (cs : List Char) : List Char := trimChars (cs.takeWhile (· != '<'))

/-- No pair of brackets ends the name in front of an angle bracket. There the brackets are a part of the name, but
where the name stands alone they make an array. -/
def IsRestorable (cs : List Char) : Prop := '<' ∈ cs → ¬['[', ']'] <:+ leadingName cs

instance (cs : List Char) : Decidable (IsRestorable cs) := inferInstanceAs (Decidable (_ → _))

theorem takeBrackets_of_bare {cs : List Char} (h : IsBare cs) : takeBrackets cs.reverse = (0, cs.reverse) := by
  cases hr : cs.reverse with
  | nil => rfl
  | cons c rest =>
      obtain rfl : cs = rest.reverse ++ [c] := by rw [← List.reverse_reverse cs, hr, List.reverse_cons]
      refine takeBrackets_other (h.blank c (by simp)) fun hc hhead => h.pair ?_
      obtain ⟨front, rfl⟩ := List.head?_eq_some_iff.1 hhead
      subst hc
      exact ⟨front.reverse, by simp⟩

/-- A text that splits is read part by part. -/
theorem Splits.ofChars_eq {cs front brackets : List Char} (h : Splits cs front brackets) :
    ofChars cs = ⟨leadingName front, brackets.count '['⟩ := by
  rw [h.parts, TypeReference.ofChars_eq, List.reverse_append, h.brackets.takeBrackets_append,
    takeBrackets_of_bare h.bare]
  simp [leadingName]

theorem IsBrackets.append {cs ds : List Char} (h : IsBrackets cs) (h' : IsBrackets ds) : IsBrackets (cs ++ ds) := by
  induction h with
  | nil => exact h'
  | blank hc _ ih => exact .blank hc ih
  | pair _ ih => exact .pair ih

/-- What is taken off the end of a text, which is given from right to left, are brackets, and what is left is bare. -/
theorem exists_of_takeBrackets (cs : List Char) :
    ∃ brackets, IsBrackets brackets ∧ cs = brackets.reverse ++ (takeBrackets cs).2 ∧
      IsBare (takeBrackets cs).2.reverse := by
  fun_induction takeBrackets cs with
  | case1 cs ih =>
      obtain ⟨brackets, hbrackets, hparts, hbare⟩ := ih
      refine ⟨brackets ++ ['[', ']'], hbrackets.append (.pair .nil), ?_, hbare⟩
      simpa using hparts
  | case2 c cs _ hc ih =>
      obtain ⟨brackets, hbrackets, hparts, hbare⟩ := ih
      refine ⟨brackets ++ [c], hbrackets.append (.blank hc .nil), ?_, hbare⟩
      simpa using hparts
  | case3 c cs hpair hc =>
      refine ⟨[], .nil, rfl, ?_, ?_⟩
      · simpa using hc
      · rintro ⟨front, hfront⟩
        have hreverse := congrArg List.reverse hfront
        rw [List.reverse_append, List.reverse_reverse] at hreverse
        cases hreverse
        exact hpair _ rfl rfl
  | case4 => exact ⟨[], .nil, rfl, by simp, by simp⟩

theorem exists_splits (cs : List Char) : ∃ front brackets, Splits cs front brackets := by
  obtain ⟨brackets, hbrackets, hparts, hbare⟩ := exists_of_takeBrackets cs.reverse
  refine ⟨_, brackets, ?_, hbare, hbrackets⟩
  have hreverse := congrArg List.reverse hparts
  rwa [List.reverse_reverse, List.reverse_append, List.reverse_reverse] at hreverse

theorem takeWhile_of_angle_not_mem {cs : List Char} (h : '<' ∉ cs) : cs.takeWhile (· != '<') = cs := by
  simpa using takeWhile_name_append h []

theorem angle_not_mem_leadingName (cs : List Char) : '<' ∉ leadingName cs := by
  intro hm
  simpa using List.mem_takeWhile_imp (mem_of_mem_trimChars hm)

/-- What follows an angle bracket has no part in the name. -/
theorem leadingName_append {cs : List Char} (h : '<' ∈ cs) (ds : List Char) :
    leadingName (cs ++ ds) = leadingName cs := by
  obtain ⟨name, rest, rfl, hname⟩ := List.eq_append_cons_of_mem h
  simp [leadingName, takeWhile_name_append hname]

theorem leadingName_leadingName (cs : List Char) : leadingName (leadingName cs) = leadingName cs := by
  rw [leadingName, takeWhile_of_angle_not_mem (angle_not_mem_leadingName cs), leadingName, trimChars_trimChars]

/-- Written alone, the name that a text begins with is not taken for an array. -/
theorem Splits.isBare_leadingName {cs front brackets : List Char} (h : Splits cs front brackets)
    (hr : IsRestorable cs) : IsBare (leadingName front) := by
  refine ⟨fun c hc => not_isBlank_of_getLast?_trimChars hc, ?_⟩
  by_cases hm : '<' ∈ front
  · have hangle : '<' ∈ cs := by
      rw [h.parts]
      exact List.mem_append_left _ hm
    have hsame : leadingName cs = leadingName front := by
      rw [h.parts]
      exact leadingName_append hm brackets
    rw [← hsame]
    exact hr hangle
  · intro hpair
    rw [leadingName, takeWhile_of_angle_not_mem hm] at hpair
    exact h.bare.pair (hpair.trans (trimChars_suffix h.bare.blank))

/-- The given number of pairs of brackets, without blanks. -/
def pairs (n : Nat) : List Char := (List.replicate n ['[', ']']).flatten

theorem isBrackets_pairs (n : Nat) : IsBrackets (pairs n) := by
  induction n with
  | zero => exact .nil
  | succ n ih => exact .pair ih

@[simp] theorem count_pairs (n : Nat) : (pairs n).count '[' = n := by
  induction n with
  | zero => rfl
  | succ n ih =>
      have hcons : pairs (n + 1) = '[' :: ']' :: pairs n := rfl
      rw [hcons, List.count_cons_self, List.count_cons_of_ne (by decide), ih]

theorem toList_display (r : TypeReference) : r.display.toList = r.base ++ pairs r.dimensions := by
  have hiterate (n : Nat) (s : String) : ((· ++ "[]")^[n] s).toList = s.toList ++ pairs n := by
    induction n with
    | zero => simp [pairs]
    | succ n ih =>
        have hpairs : pairs (n + 1) = pairs n ++ ['[', ']'] := by simp [pairs, List.replicate_succ']
        rw [Function.iterate_succ_apply', String.toList_append, ih, hpairs, List.append_assoc]
        rfl
  rw [display, hiterate, String.toList_ofList]

/-- A reference that is read as it is displayed is the same, unless brackets of the name become an array. -/
theorem ofChars_display {cs : List Char} (hr : IsRestorable cs) :
    ofChars (ofChars cs).display.toList = ofChars cs := by
  obtain ⟨front, brackets, h⟩ := exists_splits cs
  have hdisplay : Splits (ofChars cs).display.toList (leadingName front) (pairs (brackets.count '[')) := by
    refine ⟨?_, h.isBare_leadingName hr, isBrackets_pairs _⟩
    rw [toList_display, h.ofChars_eq]
  rw [hdisplay.ofChars_eq, h.ofChars_eq, leadingName_leadingName, count_pairs]

end TypeReference

open TypeReference

/-- What a name means in a program: a type of the program if one has the name, and a type from elsewhere if none has.
The words for no value and for the primitive types mean themselves in any program. -/
inductive Program.Names (p : Program) (name : String) : TypeIdentity → Prop where
  | void (word : name = "void") : Names p name .void
  | primitive (word : name ∈ Scope.primitives) : Names p name (.primitive name)
  | declared {id : ElementId} (free : name ≠ "void" ∧ name ∉ Scope.primitives) (found : p.type? name = some id) :
      Names p name (.declared id)
  | external (free : name ≠ "void" ∧ name ∉ Scope.primitives) (missing : p.type? name = none) :
      Names p name (.external name)

namespace Source

variable {s : Source}

theorem names_meaning (s : Source) (name : String) : s.program.Names name (s.scope.meaning name) := by
  unfold Scope.meaning
  split
  · next hvoid => exact .void hvoid
  · next hvoid =>
      split
      · next hprimitive => exact .primitive hprimitive
      · next hprimitive =>
          split
          · next id hfound => exact .declared ⟨hvoid, hprimitive⟩ (by rw [type?_program, hfound])
          · next hmissing => exact .external ⟨hvoid, hprimitive⟩ (by rw [type?_program, hmissing])

/-- A program calls each type by the name with which it is found. -/
theorem qualifiedName_of_find? {name : String} {id : ElementId} (hf : s.scope.find? name = some id) :
    s.program.host.qualifiedName id = name := by
  obtain ⟨t, ht, hname⟩ := type_of_find? hf
  rw [Program.host_qualifiedName ht, hname]

/-- Whatever names the types, the displayed type means what the reference means. -/
theorem resolve_display {nameOf : ElementId → String}
    (hname : ∀ name id, s.scope.find? name = some id → nameOf id = name) {text : String}
    (hr : IsRestorable text.toList) :
    s.scope.resolve ((s.scope.resolve text).display nameOf) = s.scope.resolve text := by
  rw [Scope.display_resolve hname, Scope.resolve, Scope.resolve, ofChars_display hr]

end Source

namespace Program

/-- What references mean in a program, and what becomes of them when they are displayed. Each text splits into a front
part and the pairs of brackets at its end, and means as many arrays, made of what the name in the front part means. As
it is displayed it means the same, unless brackets of the name come to its end. So does the type that the report gives
for a method whose reference is of this kind. -/
theorem resolve_restores {s : Source} {p : Program} (hp : ofSource s = .ok p) :
    (∀ text : String,
        (∃ front brackets, Splits text.toList front brackets) ∧
          (∀ front brackets, Splits text.toList front brackets →
            ∃ atom, p.Names (String.ofList (leadingName front)) atom ∧
              s.scope.resolve text = atom.arrays (brackets.count '[')) ∧
          (IsRestorable text.toList →
            s.scope.resolve ((s.scope.resolve text).display p.host.qualifiedName) = s.scope.resolve text)) ∧
      ∀ gs, ∃ r, Report.ofHost gs p.host = .ok r ∧
        List.Forall₂ (fun d e => d.method.kind = .method → IsRestorable d.method.returns.toList →
          ∃ text, e.returnType = some text ∧ s.scope.resolve text = s.scope.resolve d.method.returns)
          s.declarations r.entries := by
  rw [eq_program_of_ofSource hp]
  refine ⟨fun text => ⟨exists_splits _, ?_, ?_⟩, ?_⟩
  · intro front brackets h
    refine ⟨_, s.names_meaning _, ?_⟩
    rw [Scope.resolve, h.ofChars_eq]
  · exact Source.resolve_display fun _ _ hf => Source.qualifiedName_of_find? hf
  · intro gs
    refine report_of_entries fun d hm id hd => ?_
    obtain ⟨e, he, hinfers⟩ := Declaration.infers_entry hm hd gs
    refine ⟨e, he, fun hkind hr => ⟨_, hinfers.returnType, ?_⟩⟩
    have hreturned : d.returned s = s.scope.resolve d.method.returns := by
      rw [Declaration.returned, DeclaredMethod.returnIdentity, hkind]
    rw [hreturned]
    exact Source.resolve_display (fun _ _ hf => Source.typeName_of_find? hf) hr

/-- Brackets in front of the arguments belong to the name, but displayed they make an array. -/
example : nested.scope.resolve "a.Outer[]<T>" = .external "a.Outer[]" ∧
    nested.scope.resolve "a.Outer[]" = .array (.declared ⟨1⟩) ∧ ¬IsRestorable "a.Outer[]<T>".toList := by decide

/-- A reference with arguments, and with blanks around two pairs of brackets. -/
def nestedArrays : String := "a.Outer < int[] > [] [] "

theorem resolve_restores_nested :
    ofSource nested = .ok nested.program ∧
      Splits nestedArrays.toList "a.Outer < int[] >".toList " [] [] ".toList ∧
      (∃ atom, nested.program.Names "a.Outer" atom ∧ nested.scope.resolve nestedArrays = atom.arrays 2) ∧
      nested.scope.resolve nestedArrays = .array (.array (.declared ⟨1⟩)) ∧
      IsRestorable nestedArrays.toList ∧
      (nested.scope.resolve nestedArrays).display nested.program.host.qualifiedName = "a.Outer[][]" ∧
      nested.scope.resolve "a.Outer[][]" = nested.scope.resolve nestedArrays := by
  have hp : ofSource nested = .ok nested.program := rfl
  have hsplits : Splits nestedArrays.toList "a.Outer < int[] >".toList " [] [] ".toList :=
    ⟨by decide, ⟨by simp [Text.isBlank], by decide⟩, .blank rfl (.pair (.blank rfl (.pair (.blank rfl .nil))))⟩
  have hrestorable : IsRestorable nestedArrays.toList := by decide
  have hname : String.ofList (leadingName "a.Outer < int[] >".toList) = "a.Outer" := by decide
  have hdisplay : (nested.scope.resolve nestedArrays).display nested.program.host.qualifiedName = "a.Outer[][]" := by
    decide
  obtain ⟨htexts, _⟩ := resolve_restores hp
  obtain ⟨_, hsplit, hrestores⟩ := htexts nestedArrays
  have hatom := hsplit _ _ hsplits
  have hsame := hrestores hrestorable
  rw [hname] at hatom
  rw [hdisplay] at hsame
  exact ⟨hp, hsplits, hatom, by decide, hrestorable, hdisplay, hsame⟩

end Program

end FluentThis
