import FluentThis.Inference
import FluentThis.Program.Building
import Mathlib.Data.List.Forall2
/-!
The elements of a built program, told by the source it is built from. The number of a type is its position among the
types; the executables follow in the order of the declarations of methods, type by type.
-/

namespace FluentThis

/-- A declaration of a method together with the type around it, which is the one with the number `owner`. -/
structure Declaration where
  owner : ElementId
  type : DeclaredType
  method : DeclaredMethod

/-- Whether one of the declared annotations has the given name, resolved or not. -/
def Carried (annotations : List DeclaredAnnotation) (name : String) : Prop :=
  ∃ a ∈ annotations, a.annotation.name = name

namespace Declaration

/-- What a declaration returns: a constructor the type around it, a method what its reference means. -/
def returned (s : Source) (d : Declaration) : TypeIdentity := d.method.returnIdentity s.scope d.owner

/-- Whether the method is called on a receiver. -/
def isInstance (d : Declaration) : Bool := d.method.kind == .method && !d.method.isStatic

/-- The element of a declaration. -/
def element (s : Source) (d : Declaration) : ExecutableElement :=
  d.method.element s.scope d.owner d.type.trimmedName

end Declaration

namespace Source

/-- The declarations of methods in the order of their elements. -/
def declarations (s : Source) : List Declaration :=
  s.types.zipIdx.flatMap fun (t, i) => t.methods.map fun m => ⟨⟨i⟩, t, m⟩

/-- The name of the type with the given number. -/
def typeName (s : Source) (id : ElementId) : String :=
  ((s.types[id.index]?).map DeclaredType.trimmedName).getD ""

theorem mem_declarations {s : Source} {d : Declaration} (hd : d ∈ s.declarations) :
    s.types[d.owner.index]? = some d.type ∧ d.method ∈ d.type.methods := by
  simp only [declarations, List.mem_flatMap, List.mem_map] at hd
  obtain ⟨⟨t, i⟩, ht, m, hm, rfl⟩ := hd
  exact ⟨(List.mem_zipIdx_iff_getElem? ..).1 ht, hm⟩

/-- What does not depend on the numbers of the types can be read off the types one after the other. -/
theorem map_declarations {α : Type} (s : Source) (f : DeclaredType → DeclaredMethod → α) :
    s.declarations.map (fun d => f d.type d.method) = s.types.flatMap fun t => t.methods.map (f t) := by
  have hz : s.types.flatMap (fun t => t.methods.map (f t)) =
      (s.types.zipIdx.map Prod.fst).flatMap fun t => t.methods.map (f t) := by rw [List.zipIdx_map_fst]
  rw [hz, List.flatMap_map, declarations, List.map_flatMap]
  simp only [List.map_map, Function.comp_def]

theorem program_executables (s : Source) : s.program.executables = s.declarations.map (·.element s) := by
  simp only [program, declarations, List.map_flatMap, List.map_map, Function.comp_def]
  rfl

theorem length_program_types (s : Source) : s.program.types.length = s.types.length := by
  simp [program]

theorem element?_type {s : Source} {id : ElementId} {t : DeclaredType} (ht : s.types[id.index]? = some t) :
    s.program.element? id = some (.type (t.element s.scope)) := by
  simp [Program.element?, program, ht]

/-- The numbers of the executables follow those of the types. -/
theorem element?_declaration {s : Source} {i : Nat} {d : Declaration} (hd : s.declarations[i]? = some d) :
    s.program.element? ⟨s.types.length + i⟩ = some (.executable (d.element s)) := by
  have htypes : s.program.types[s.types.length + i]? = none := by
    rw [List.getElem?_eq_none_iff, length_program_types]
    exact Nat.le_add_right _ _
  simp only [Program.element?, htypes, length_program_types, Nat.add_sub_cancel_left, program_executables]
  simp [hd]

/-- The numbers of the executables are those of the declarations, one by one. -/
theorem forall₂_executableIds (s : Source) :
    List.Forall₂ (fun id d => s.program.element? id = some (.executable (d.element s)))
      s.program.executableIds s.declarations := by
  rw [List.forall₂_iff_get]
  refine ⟨by simp [Program.executableIds, program_executables], ?_⟩
  intro i hi hd
  have hid : s.program.executableIds.get ⟨i, hi⟩ = ⟨s.types.length + i⟩ := by
    simp [Program.executableIds, length_program_types]
  rw [hid]
  exact element?_declaration (List.getElem?_eq_getElem hd)

end Source

namespace TypeIdentity

/-- Whether a type is that of an element of the program or an array made of it. -/
def Mentions (id : ElementId) : TypeIdentity → Prop
  | array component => component.Mentions id
  | declared id' => id' = id
  | _ => False

@[simp] theorem mentions_declared {id id' : ElementId} : (declared id').Mentions id ↔ id' = id := Iff.rfl

@[simp] theorem mentions_arrays {id : ElementId} (t : TypeIdentity) (n : Nat) :
    (t.arrays n).Mentions id ↔ t.Mentions id := by
  induction n with
  | zero => rfl
  | succ n ih => exact ih

/-- The name of a type depends on the names of the elements that it mentions. -/
theorem display_congr {f g : ElementId → String} {t : TypeIdentity} (h : ∀ id, t.Mentions id → f id = g id) :
    t.display f = t.display g := by
  induction t with
  | array component ih => rw [display, display, ih h]
  | declared id => exact h id rfl
  | _ => rfl

end TypeIdentity

namespace Scope

theorem lt_of_find? {scope : Scope} {name : String} {id : ElementId} (h : scope.find? name = some id) :
    id.index < scope.names.length :=
  (List.getElem?_eq_some_iff.1 (getElem?_of_find? h)).1

/-- A reference can only mean types of the scope. -/
theorem lt_of_mentions_resolve {scope : Scope} {text : String} {id : ElementId}
    (h : (scope.resolve text).Mentions id) : id.index < scope.names.length := by
  simp only [resolve, TypeIdentity.mentions_arrays, meaning] at h
  split at h
  · cases h
  · split at h
    · cases h
    · split at h
      · rename_i id' hf
        rw [← show id' = id from h]
        exact lt_of_find? hf
      · cases h

end Scope

namespace Source

theorem length_scope_names (s : Source) : s.scope.names.length = s.types.length := by
  simp [scope]

/-- A reference can only mean types that are declared. -/
theorem type_of_resolve {s : Source} {text : String} {id : ElementId} (h : (s.scope.resolve text).Mentions id) :
    ∃ t, s.types[id.index]? = some t := by
  have hlt := Scope.lt_of_mentions_resolve h
  rw [length_scope_names] at hlt
  exact ⟨s.types[id.index], List.getElem?_eq_getElem hlt⟩

theorem type_of_returned {s : Source} {d : Declaration} (hd : d ∈ s.declarations) {id : ElementId}
    (h : (d.returned s).Mentions id) : ∃ t, s.types[id.index]? = some t := by
  cases hk : d.method.kind with
  | constructor =>
      rw [Declaration.returned, DeclaredMethod.returnIdentity, hk] at h
      cases h
      exact ⟨d.type, (mem_declarations hd).1⟩
  | method =>
      rw [Declaration.returned, DeclaredMethod.returnIdentity, hk] at h
      exact type_of_resolve h

end Source

/-- Only a class has a declared type for a superclass, and its reference means that type. -/
theorem DeclaredType.superclassIn_eq_declared_iff {scope : Scope} {t : DeclaredType} {id : ElementId} :
    t.superclassIn scope = .declared id ↔
      t.kind = .classType ∧ scope.resolve (t.superclass.getD rootClass) = .declared id := by
  cases hk : t.kind <;> simp [superclassIn, hk]

namespace Program

theorem eq_program_of_ofSource {s : Source} {p : Program} (hp : ofSource s = .ok p) : p = s.program := by
  unfold ofSource at hp
  split at hp
  · cases hp
  · cases hp
    rfl

variable {s : Source} {id : ElementId}

section

variable {t : DeclaredType} (ht : s.types[id.index]? = some t)

include ht

theorem host_qualifiedName : s.program.host.qualifiedName id = t.trimmedName := by
  simp [host, Source.element?_type ht, Element.qualifiedName, DeclaredType.element]

theorem host_simpleName : s.program.host.simpleName id = String.ofList (Name.simple t.trimmedName.toList) := by
  simp [host, Source.element?_type ht, Element.simpleName, DeclaredType.element]

theorem host_superclass : s.program.host.superclass id = t.superclassIn s.scope := by
  simp [host, Source.element?_type ht, Element.superclass, DeclaredType.element]

theorem host_carries_type (name : String) :
    s.program.host.carries id name = true ↔ Carried t.annotations name := by
  simp [Host.carries, host, Source.element?_type ht, Element.annotations, DeclaredType.element, Carried]

end

section

variable {d : Declaration} (hd : s.program.element? id = some (.executable (d.element s)))

include hd

theorem host_carries_executable (name : String) :
    s.program.host.carries id name = true ↔ Carried d.method.annotations name := by
  simp [Host.carries, host, hd, Element.annotations, Declaration.element, DeclaredMethod.element, Carried]

theorem host_signature : s.program.host.signature id = .ok ((d.element s).signature id) := by
  simp [host, signature, hd]

end

/-- The names that reports give to what a declaration returns are those of the source. -/
theorem display_returned {d : Declaration} (hd : d ∈ s.declarations) :
    (d.returned s).display s.program.host.qualifiedName = (d.returned s).display s.typeName := by
  apply TypeIdentity.display_congr
  intro id hm
  obtain ⟨t, ht⟩ := Source.type_of_returned hd hm
  rw [host_qualifiedName ht, Source.typeName, ht]
  rfl

end Program

namespace ExecutableElement

variable (e : ExecutableElement) (id : ElementId)

@[simp] theorem element_signature : (e.signature id).element = id := by
  unfold signature
  split <;> rfl

@[simp] theorem enclosing_signature : (e.signature id).enclosing = e.owner := by
  unfold signature
  split <;> rfl

@[simp] theorem returns_signature : (e.signature id).returns = some e.returns := by
  unfold signature
  split <;> rfl

@[simp] theorem kind_signature : (e.signature id).kind = e.kind := by
  unfold signature
  split <;> simp_all [Signature.constructor, Signature.method, Signature.staticMethod, Signature.withReturns]

theorem receiver_signature :
    (e.signature id).receiver =
      if e.kind == .method && !e.isStatic then some { identity := .declared e.owner } else none := by
  unfold signature
  split <;> simp_all [Signature.constructor, Signature.method, Signature.staticMethod, Signature.withReturns]

/-- The candidates for recognition are the methods that are called on a receiver. -/
theorem isCandidate_signature : (e.signature id).isCandidate = (e.kind == .method && !e.isStatic) := by
  rw [Signature.isCandidate, receiver_signature, kind_signature]
  cases e.kind <;> cases e.isStatic <;> rfl

end ExecutableElement

/-- A constructor has the name of all constructors, as its signature has. -/
theorem Declaration.name_signature (s : Source) (d : Declaration) (id : ElementId) :
    ((d.element s).signature id).name = d.method.elementName := by
  unfold ExecutableElement.signature
  split
  · rename_i hk
    have hk' : d.method.kind = .constructor := hk
    simp [Signature.constructor, Signature.withReturns, DeclaredMethod.elementName, hk']
  · rfl
  · rfl

end FluentThis
