import FluentThis.Program.Building
import Mathlib.Data.List.Forall2
import Mathlib.Data.List.TakeWhile
import Mathlib.Logic.Relation
/-!
Blanks that do not count. They may stand at the ends of names, and in a reference also around each pair of brackets and
between the name and its generic arguments. Main statement: a source to which such blanks are added makes the same
program, or has the same fault.
-/

namespace FluentThis

namespace Text

def IsBlanks (cs : List Char) : Prop := ∀ c ∈ cs, isBlank c = true

instance (cs : List Char) : Decidable (IsBlanks cs) := decidable_of_iff (cs.all isBlank = true) List.all_eq_true

/-- `ds` is `cs` with blanks added at its ends. -/
def Pads (cs ds : List Char) : Prop := ∃ before after, IsBlanks before ∧ IsBlanks after ∧ ds = before ++ cs ++ after

theorem IsBlanks.reverse {cs : List Char} (h : IsBlanks cs) : IsBlanks cs.reverse :=
  fun c hc => h c (List.mem_reverse.1 hc)

theorem IsBlanks.append {cs ds : List Char} (h : IsBlanks cs) (h' : IsBlanks ds) : IsBlanks (cs ++ ds) := by
  intro c hc
  rcases List.mem_append.1 hc with hc | hc
  · exact h c hc
  · exact h' c hc

theorem IsBlanks.angle_not_mem {cs : List Char} (h : IsBlanks cs) : '<' ∉ cs := by
  intro hm
  have hblank := h _ hm
  revert hblank
  decide

theorem trimRight_append_blanks {blanks : List Char} (h : IsBlanks blanks) (cs : List Char) :
    trimRight (cs ++ blanks) = trimRight cs := by
  rw [trimRight, trimRight, List.reverse_append, List.dropWhile_append_of_pos h.reverse]

theorem trimChars_blanks_append {blanks : List Char} (h : IsBlanks blanks) (cs : List Char) :
    trimChars (blanks ++ cs) = trimChars cs := by
  rw [trimChars, trimChars, List.dropWhile_append_of_pos h]

theorem trimChars_append_blanks {blanks : List Char} (h : IsBlanks blanks) (cs : List Char) :
    trimChars (cs ++ blanks) = trimChars cs := by
  rw [trimChars, trimChars, List.dropWhile_append]
  split
  · next hnil =>
      rw [List.isEmpty_iff.1 hnil, List.dropWhile_eq_nil_iff.2 h]
  · exact trimRight_append_blanks h _

theorem Pads.trimChars_eq {cs ds : List Char} (h : Pads cs ds) : trimChars ds = trimChars cs := by
  obtain ⟨before, after, hbefore, hafter, rfl⟩ := h
  rw [trimChars_append_blanks hafter, trimChars_blanks_append hbefore]

theorem Pads.trim_eq {s s' : String} (h : Pads s.toList s'.toList) : trim s' = trim s := by
  rw [trim, trim, h.trimChars_eq]

end Text

namespace TypeReference

open Text

/-- The end of a reference: pairs of brackets with blanks around them. -/
inductive IsBrackets : List Char → Prop where
  | nil : IsBrackets []
  | blank {c : Char} {cs : List Char} (hc : isBlank c = true) (rest : IsBrackets cs) : IsBrackets (c :: cs)
  | pair {cs : List Char} (rest : IsBrackets cs) : IsBrackets ('[' :: ']' :: cs)

/-- Blanks are added at one place of a reference: at the left end, where only pairs of brackets and blanks follow,
or between the name and the first opening angle bracket. -/
inductive PadsOnce : List Char → List Char → Prop where
  | left {blanks : List Char} (h : IsBlanks blanks) (cs : List Char) : PadsOnce cs (blanks ++ cs)
  | right {blanks rest : List Char} (h : IsBlanks blanks) (brackets : IsBrackets rest) (cs : List Char) :
      PadsOnce (cs ++ rest) (cs ++ blanks ++ rest)
  | angle {blanks name gap : List Char} (h : IsBlanks blanks) (hname : '<' ∉ name) (hgap : IsBlanks gap)
      (arguments : List Char) : PadsOnce (name ++ gap ++ '<' :: arguments) (name ++ blanks ++ gap ++ '<' :: arguments)

/-- Blanks are added at any number of places of a reference. -/
def Pads : List Char → List Char → Prop := Relation.ReflTransGen PadsOnce

theorem ofChars_eq (cs : List Char) :
    ofChars cs =
      ⟨trimChars ((takeBrackets cs.reverse).2.reverse.takeWhile (· != '<')), (takeBrackets cs.reverse).1⟩ := rfl

theorem takeBrackets_pair (cs : List Char) :
    takeBrackets (']' :: '[' :: cs) = ((takeBrackets cs).1 + 1, (takeBrackets cs).2) := rfl

/-- Where no pair of brackets ends, only a blank is passed over. -/
theorem takeBrackets_cons {c : Char} {cs : List Char} (hpair : c = ']' → cs.head? ≠ some '[') :
    takeBrackets (c :: cs) = if isBlank c then takeBrackets cs else (0, c :: cs) := by
  conv => lhs; unfold takeBrackets
  split
  · next heq =>
      cases heq
      exact absurd rfl (hpair rfl)
  · next heq =>
      cases heq
      rfl
  · next heq => cases heq

theorem takeBrackets_blank {c : Char} (hc : isBlank c = true) (cs : List Char) :
    takeBrackets (c :: cs) = takeBrackets cs := by
  rw [takeBrackets_cons, if_pos hc]
  intro he
  subst he
  exact absurd hc (by decide)

theorem takeBrackets_other {c : Char} {cs : List Char} (hc : ¬isBlank c = true)
    (hpair : c = ']' → cs.head? ≠ some '[') : takeBrackets (c :: cs) = (0, c :: cs) := by
  rw [takeBrackets_cons hpair, if_neg hc]

theorem takeBrackets_blanks_append {blanks : List Char} (h : IsBlanks blanks) (cs : List Char) :
    takeBrackets (blanks ++ cs) = takeBrackets cs := by
  induction blanks with
  | nil => rfl
  | cons c blanks ih =>
      rw [List.cons_append, takeBrackets_blank (h c List.mem_cons_self), ih fun d hd => h d (List.mem_cons_of_mem _ hd)]

/-- The brackets at the end are counted, and the rest is read as if they were not there. -/
theorem IsBrackets.takeBrackets_append {cs : List Char} (h : IsBrackets cs) (rest : List Char) :
    takeBrackets (cs.reverse ++ rest) = ((takeBrackets rest).1 + cs.count '[', (takeBrackets rest).2) := by
  induction h generalizing rest with
  | nil => rfl
  | @blank c cs hc _ ih =>
      have hne : c ≠ '[' := by
        rintro rfl
        exact absurd hc (by decide)
      rw [List.reverse_cons, List.append_assoc, ih, List.singleton_append, takeBrackets_blank hc,
        List.count_cons_of_ne hne]
  | @pair cs _ ih =>
      have hreverse : ('[' :: ']' :: cs).reverse ++ rest = cs.reverse ++ ']' :: '[' :: rest := by simp
      rw [hreverse, ih, takeBrackets_pair, List.count_cons_self, List.count_cons_of_ne (by decide)]
      simp only [Prod.mk.injEq, and_true]
      omega

/-- Blanks behind a text are left where they are, or are dropped with all of it. -/
theorem takeBrackets_append_blanks {blanks : List Char} (h : IsBlanks blanks) (cs : List Char) :
    ∃ gap, IsBlanks gap ∧ takeBrackets (cs ++ blanks) = ((takeBrackets cs).1, (takeBrackets cs).2 ++ gap) := by
  fun_induction takeBrackets cs with
  | case1 cs ih =>
      obtain ⟨gap, hgap, heq⟩ := ih
      refine ⟨gap, hgap, ?_⟩
      rw [List.cons_append, List.cons_append, takeBrackets_pair, heq]
  | case2 c cs _ hc ih =>
      rw [List.cons_append, takeBrackets_blank hc]
      exact ih
  | case3 c cs hpair hc =>
      refine ⟨blanks, h, takeBrackets_other hc fun he hhead => ?_⟩
      cases cs with
      | nil => exact absurd (h '[' (List.mem_of_mem_head? hhead)) (by decide)
      | cons d cs =>
          cases hhead
          exact hpair cs he rfl
  | case4 =>
      refine ⟨[], by simp [IsBlanks], ?_⟩
      have hall := takeBrackets_blanks_append h []
      rw [List.append_nil] at hall
      rw [List.nil_append, hall]
      rfl

/-- Brackets are looked for no further than to an angle bracket. -/
theorem takeBrackets_angle (cs : List Char) :
    ∃ n front, ∀ rest, takeBrackets (cs ++ '<' :: rest) = (n, front ++ '<' :: rest) := by
  fun_induction takeBrackets cs with
  | case1 cs ih =>
      obtain ⟨n, front, heq⟩ := ih
      refine ⟨n + 1, front, fun rest => ?_⟩
      rw [List.cons_append, List.cons_append, takeBrackets_pair, heq]
  | case2 c cs _ hc ih =>
      obtain ⟨n, front, heq⟩ := ih
      refine ⟨n, front, fun rest => ?_⟩
      rw [List.cons_append, takeBrackets_blank hc, heq]
  | case3 c cs hpair hc =>
      refine ⟨0, c :: cs, fun rest => takeBrackets_other hc fun he hhead => ?_⟩
      cases cs with
      | nil => cases hhead
      | cons d cs =>
          cases hhead
          exact hpair cs he rfl
  | case4 => exact ⟨0, [], fun rest => rfl⟩

theorem takeWhile_name_append {name : List Char} (h : '<' ∉ name) (rest : List Char) :
    (name ++ rest).takeWhile (· != '<') = name ++ rest.takeWhile (· != '<') := by
  apply List.takeWhile_append_of_pos
  intro c hc
  rw [bne_iff_ne]
  rintro rfl
  exact h hc

theorem ofChars_blanks_append {blanks : List Char} (h : IsBlanks blanks) (cs : List Char) :
    ofChars (blanks ++ cs) = ofChars cs := by
  obtain ⟨gap, hgap, heq⟩ := takeBrackets_append_blanks h.reverse cs.reverse
  rw [ofChars_eq, ofChars_eq, List.reverse_append, heq]
  rw [List.reverse_append, takeWhile_name_append hgap.reverse.angle_not_mem, trimChars_blanks_append hgap.reverse]

theorem ofChars_append_brackets {cs ds rest : List Char} (h : takeBrackets ds.reverse = takeBrackets cs.reverse)
    (hrest : IsBrackets rest) : ofChars (ds ++ rest) = ofChars (cs ++ rest) := by
  rw [ofChars_eq, ofChars_eq, List.reverse_append, List.reverse_append, hrest.takeBrackets_append,
    hrest.takeBrackets_append, h]

/-- The name in front of the arguments is read without the blanks at its ends, whatever brackets follow. -/
theorem ofChars_angle {cs ds : List Char} (hcs : '<' ∉ cs) (hds : '<' ∉ ds) (h : trimChars ds = trimChars cs)
    (arguments : List Char) : ofChars (ds ++ '<' :: arguments) = ofChars (cs ++ '<' :: arguments) := by
  obtain ⟨n, front, heq⟩ := takeBrackets_angle arguments.reverse
  have hname {name : List Char} (hm : '<' ∉ name) : ofChars (name ++ '<' :: arguments) = ⟨trimChars name, n⟩ := by
    have hreverse : (name ++ '<' :: arguments).reverse = arguments.reverse ++ '<' :: name.reverse := by simp
    rw [ofChars_eq, hreverse, heq]
    simp [takeWhile_name_append hm]
  rw [hname hcs, hname hds, h]

theorem PadsOnce.ofChars_eq {cs ds : List Char} (h : PadsOnce cs ds) : ofChars ds = ofChars cs := by
  cases h with
  | left hb cs => exact ofChars_blanks_append hb cs
  | @right blanks rest hb hrest cs =>
      apply ofChars_append_brackets _ hrest
      rw [List.reverse_append, takeBrackets_blanks_append hb.reverse]
  | @angle blanks name gap hb hname hgap arguments =>
      have hb' := hb.append hgap
      apply ofChars_angle
      · simp [hname, hgap.angle_not_mem]
      · simp [hname, hb.angle_not_mem, hgap.angle_not_mem]
      · rw [List.append_assoc, trimChars_append_blanks hb', trimChars_append_blanks hgap]

/-- Each blank that is added leaves a reference what it is, and so do all of them. -/
theorem Pads.ofChars_eq {cs ds : List Char} (h : Pads cs ds) : ofChars ds = ofChars cs := by
  induction h with
  | refl => rfl
  | tail _ hstep ih => rw [hstep.ofChars_eq, ih]

end TypeReference

theorem Scope.resolve_of_pads {scope : Scope} {text text' : String}
    (h : TypeReference.Pads text.toList text'.toList) : scope.resolve text' = scope.resolve text := by
  rw [resolve, resolve, h.ofChars_eq]

theorem Scope.resolve_getD_of_pads {scope : Scope} {text text' : Option String}
    (h : Option.Rel (fun text text' => TypeReference.Pads text.toList text'.toList) text text') (default : String) :
    scope.resolve (text'.getD default) = scope.resolve (text.getD default) := by
  cases h with
  | none => rfl
  | some htext => exact resolve_of_pads htext

/-- `m'` is `m` with blanks added to its name and to the type that it returns. -/
structure DeclaredMethod.Pads (m m' : DeclaredMethod) : Prop where
  name : Text.Pads m.name.toList m'.name.toList
  kind : m'.kind = m.kind
  isStatic : m'.isStatic = m.isStatic
  returns : TypeReference.Pads m.returns.toList m'.returns.toList
  returnQualifier : m'.returnQualifier = m.returnQualifier
  annotations : m'.annotations = m.annotations

/-- `t'` is `t` with blanks added to its name, to its superclass and in its methods. -/
structure DeclaredType.Pads (t t' : DeclaredType) : Prop where
  name : Text.Pads t.name.toList t'.name.toList
  kind : t'.kind = t.kind
  superclass : Option.Rel (fun text text' => TypeReference.Pads text.toList text'.toList) t.superclass t'.superclass
  annotations : t'.annotations = t.annotations
  methods : List.Forall₂ DeclaredMethod.Pads t.methods t'.methods

/-- `s'` is `s` with blanks added in its types. -/
def Source.Pads (s s' : Source) : Prop := List.Forall₂ DeclaredType.Pads s.types s'.types

/-- What depends on no blank is the same for the members of both lists. -/
theorem map_eq_of_forall₂ {α β : Type} {R : α → α → Prop} {f : α → β} {xs ys : List α} (h : List.Forall₂ R xs ys)
    (hf : ∀ x y, R x y → f y = f x) : ys.map f = xs.map f := by
  induction h with
  | nil => rfl
  | cons hxy _ ih => rw [List.map_cons, List.map_cons, hf _ _ hxy, ih]

theorem findSome?_eq_of_forall₂ {α β : Type} {R : α → α → Prop} {f : α → Option β} {xs ys : List α}
    (h : List.Forall₂ R xs ys) (hf : ∀ x y, R x y → f y = f x) : ys.findSome? f = xs.findSome? f := by
  induction h with
  | nil => rfl
  | cons hxy _ ih => rw [List.findSome?_cons, List.findSome?_cons, hf _ _ hxy, ih]

namespace DeclaredMethod.Pads

variable {m m' : DeclaredMethod} (h : m.Pads m')

include h

theorem elementName_eq : m'.elementName = m.elementName := by
  rw [elementName, elementName, h.kind, h.name.trim_eq]

theorem fault?_eq (owner : String) : m'.fault? owner = m.fault? owner := by
  rw [fault?, fault?, h.kind, h.isStatic, h.elementName_eq]

theorem element_eq (scope : Scope) (owner : ElementId) (ownerName : String) :
    m'.element scope owner ownerName = m.element scope owner ownerName := by
  have hreturns : m'.returnIdentity scope owner = m.returnIdentity scope owner := by
    rw [returnIdentity, returnIdentity, h.kind, Scope.resolve_of_pads h.returns]
  rw [element, element, h.elementName_eq, h.kind, h.isStatic, hreturns, h.returnQualifier, h.annotations]

end DeclaredMethod.Pads

namespace DeclaredType.Pads

variable {t t' : DeclaredType} (h : t.Pads t')

include h

theorem trimmedName_eq : t'.trimmedName = t.trimmedName := h.name.trim_eq

theorem superclassIn_eq (scope : Scope) : t'.superclassIn scope = t.superclassIn scope := by
  rw [superclassIn, superclassIn, h.kind, Scope.resolve_getD_of_pads h.superclass]

theorem superclassFault?_eq (scope : Scope) : t'.superclassFault? scope = t.superclassFault? scope := by
  have hsome {text text' : Option String} {R : String → String → Prop} (hrel : Option.Rel R text text') :
      text'.isSome = text.isSome := by
    cases hrel <;> rfl
  rw [superclassFault?, superclassFault?, h.kind, h.trimmedName_eq, h.superclassIn_eq, hsome h.superclass]

theorem methodFault?_eq : t'.methodFault? = t.methodFault? := by
  rw [methodFault?, methodFault?, h.trimmedName_eq]
  exact findSome?_eq_of_forall₂ h.methods fun m m' hm => hm.fault?_eq _

theorem element_eq (scope : Scope) : t'.element scope = t.element scope := by
  rw [element, element, h.trimmedName_eq, h.kind, h.superclassIn_eq, h.annotations]

theorem executables_eq (scope : Scope) : (t'.executables scope · ) = (t.executables scope ·) := by
  funext id
  rw [executables, executables, h.trimmedName_eq]
  exact map_eq_of_forall₂ h.methods fun m m' hm => hm.element_eq scope id _

end DeclaredType.Pads

namespace Source.Pads

variable {s s' : Source} (h : s.Pads s')

include h

theorem scope_eq : s'.scope = s.scope := by
  rw [scope, scope, map_eq_of_forall₂ h fun t t' ht => ht.trimmedName_eq]

theorem fault?_eq : s'.fault? = s.fault? := by
  have hsuper : s'.types.findSome? (·.superclassFault? s.scope) = s.types.findSome? (·.superclassFault? s.scope) :=
    findSome?_eq_of_forall₂ h fun t t' ht => ht.superclassFault?_eq _
  have hmethods : s'.types.findSome? DeclaredType.methodFault? = s.types.findSome? DeclaredType.methodFault? :=
    findSome?_eq_of_forall₂ h fun t t' ht => ht.methodFault?_eq
  simp only [fault?, h.scope_eq, hsuper, hmethods]

/-- The executables of each type are a function of its number, and it is these functions that are the same. -/
theorem executables_eq :
    (s'.types.zipIdx.flatMap fun (t, i) => t.executables s.scope ⟨i⟩) =
      s.types.zipIdx.flatMap fun (t, i) => t.executables s.scope ⟨i⟩ := by
  have hall : s'.types.map (fun t id => t.executables s.scope id) =
      s.types.map (fun t id => t.executables s.scope id) :=
    map_eq_of_forall₂ h fun t t' ht => ht.executables_eq _
  have hlist (types : List DeclaredType) : (types.zipIdx.flatMap fun (t, i) => t.executables s.scope ⟨i⟩) =
      (types.map fun t id => t.executables s.scope id).zipIdx.flatMap fun (f, i) => f ⟨i⟩ := by
    rw [List.zipIdx_map, List.flatMap_map]
    rfl
  rw [hlist, hlist, hall]

theorem program_eq : s'.program = s.program := by
  have htypes : s'.types.map (·.element s.scope) = s.types.map (·.element s.scope) :=
    map_eq_of_forall₂ h fun t t' ht => ht.element_eq _
  simp only [program, h.scope_eq, htypes, h.executables_eq]

end Source.Pads

namespace Program

/-- Blanks do not count. With blanks added to the names of types and methods and in references, a source has the same
fault, or it makes the same program, so that every question about the program has the same answer. -/
theorem ofSource_of_pads {s s' : Source} (h : s.Pads s') : ofSource s' = ofSource s := by
  rw [ofSource, ofSource, h.fault?_eq, h.program_eq]

/-- A class that extends another one and returns arrays of itself. -/
def tight : Source where
  types := [
    { name := "a.List", superclass := some "a.Base<T>", methods := [{ name := "all", returns := "a.List[][]" }] },
    { name := "a.Base" }]

/-- The same class with blanks wherever they do not count. -/
def loose : Source where
  types := [
    { name := "\t a.List\u3000", superclass := some "\na.Base <T>"
      methods := [{ name := " all", returns := "a.List [] []" }] },
    { name := "a.Base" }]

theorem ofSource_of_pads_loose :
    tight.Pads loose ∧ ofSource tight = .ok tight.program ∧ ofSource loose = .ok tight.program := by
  have hspace : Text.IsBlanks [' '] := by decide
  have hsuper : TypeReference.Pads "a.Base<T>".toList "\na.Base <T>".toList := by
    have hangle : TypeReference.PadsOnce "a.Base<T>".toList "a.Base <T>".toList :=
      @TypeReference.PadsOnce.angle [' '] "a.Base".toList [] hspace (by decide) (by decide) "T>".toList
    have hleft : TypeReference.PadsOnce "a.Base <T>".toList "\na.Base <T>".toList :=
      @TypeReference.PadsOnce.left ['\n'] (by decide) "a.Base <T>".toList
    exact (Relation.ReflTransGen.single hangle).tail hleft
  have hreturns : TypeReference.Pads "a.List[][]".toList "a.List [] []".toList := by
    have hinner : TypeReference.PadsOnce "a.List[][]".toList "a.List[] []".toList :=
      @TypeReference.PadsOnce.right [' '] "[]".toList hspace (.pair .nil) "a.List[]".toList
    have houter : TypeReference.PadsOnce "a.List[] []".toList "a.List [] []".toList :=
      @TypeReference.PadsOnce.right [' '] "[] []".toList hspace (.pair (.blank rfl (.pair .nil))) "a.List".toList
    exact (Relation.ReflTransGen.single hinner).tail houter
  have hlist : DeclaredType.Pads tight.types[0] loose.types[0] :=
    ⟨⟨['\t', ' '], ['\u3000'], by decide, by decide, rfl⟩, rfl, .some hsuper, rfl,
      .cons ⟨⟨[' '], [], hspace, by decide, rfl⟩, rfl, rfl, hreturns, rfl, rfl⟩ .nil⟩
  have hbase : DeclaredType.Pads tight.types[1] loose.types[1] :=
    ⟨⟨[], [], by decide, by decide, rfl⟩, rfl, .none, rfl, .nil⟩
  have hpads : tight.Pads loose := .cons hlist (.cons hbase .nil)
  have hp : ofSource tight = .ok tight.program := rfl
  exact ⟨hpads, hp, (ofSource_of_pads hpads).trans hp⟩

end Program

end FluentThis
