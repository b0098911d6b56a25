import FluentThis.Proofs.ReferenceForm
/-!
Generic arguments in references. They may stand behind any part of a dotted name, but a name is read no further than to
the first of them. Main statement: a reference means what it means without its arguments exactly when none stand in
front of the last part of the name.
-/

namespace FluentThis

namespace Text

theorem trimChars_of_not_blank {cs : List Char} (h : ∀ c ∈ cs, ¬isBlank c = true) : trimChars cs = cs := by
  obtain ⟨before, after, hbefore, hafter, hparts⟩ := pads_trimChars cs
  have hnil {blanks : List Char} (hblanks : IsBlanks blanks) (hsub : ∀ c ∈ blanks, c ∈ cs) : blanks = [] :=
    List.eq_nil_iff_forall_not_mem.2 fun c hc => h c (hsub c hc) (hblanks c hc)
  have hbefore' : before = [] := hnil hbefore fun c hc => by rw [hparts]; simp [hc]
  have hafter' : after = [] := hnil hafter fun c hc => by rw [hparts]; simp [hc]
  rw [hbefore', hafter', List.nil_append, List.append_nil] at hparts
  exact hparts.symm

end Text

namespace TypeReference

open Text

/-- A text in which each opening angle bracket is closed by one of its own. -/
inductive Balanced : List Char → Prop where
  | nil : Balanced []
  | other {c : Char} {cs : List Char} (opening : c ≠ '<') (closing : c ≠ '>') (rest : Balanced cs) : Balanced (c :: cs)
  | group {cs ds : List Char} (inner : Balanced cs) (rest : Balanced ds) : Balanced ('<' :: (cs ++ '>' :: ds))

/-- A text without all that stands between angle brackets and without these, from a place inside as many of them as
`depth` tells. -/
def dropArguments (depth : Nat) : List Char → List Char
  | [] => []
  | c :: cs =>
    if c = '<' then dropArguments (depth + 1) cs
    else if depth = 0 then c :: dropArguments depth cs
    else if c = '>' then dropArguments (depth - 1) cs
    else dropArguments depth cs

/-- A part of a dotted name and the arguments behind it. -/
structure Segment where
  name : List Char
  arguments : Option (List Char)
  plain : ∀ c ∈ name, ¬isBlank c = true ∧ c ∉ ['.', '<', '>', '[', ']']
  balanced : ∀ cs ∈ arguments, Balanced cs

/-- A reference as it is written: the parts of the name with their arguments, and pairs of brackets. -/
structure Dotted where
  segments : List Segment
  brackets : List Char
  isBrackets : IsBrackets brackets

namespace Segment

def chars (g : Segment) : List Char :=
  match g.arguments with
  | some cs => g.name ++ '<' :: (cs ++ ['>'])
  | none => g.name

/-- The same part of the name without arguments. -/
def erased (g : Segment) : Segment := { g with arguments := none, balanced := nofun }

/-- The parts of a name with dots between them. -/
def join (gs : List Segment) : List Char := ['.'].intercalate (gs.map chars)

variable {g g' : Segment} {gs : List Segment}

theorem chars_of_some {cs : List Char} (h : g.arguments = some cs) : g.chars = g.name ++ '<' :: (cs ++ ['>']) := by
  rw [chars, h]

theorem chars_of_none (h : g.arguments = none) : g.chars = g.name := by
  rw [chars, h]

@[simp] theorem chars_erased (g : Segment) : g.erased.chars = g.name := rfl

@[simp] theorem join_nil : join [] = [] := rfl

@[simp] theorem join_singleton (g : Segment) : join [g] = g.chars := List.intercalate_singleton

@[simp] theorem join_cons_cons (g g' : Segment) (gs : List Segment) :
    join (g :: g' :: gs) = g.chars ++ '.' :: join (g' :: gs) := by
  simp only [join, List.map_cons, List.intercalate_cons_cons, List.append_assoc, List.singleton_append]

theorem angle_not_mem_name (g : Segment) : '<' ∉ g.name :=
  fun hm => (g.plain _ hm).2 (by decide)

end Segment

namespace Dotted

def chars (r : Dotted) : List Char := Segment.join r.segments ++ r.brackets

/-- The same reference without any arguments. -/
def erased (r : Dotted) : Dotted := { r with segments := r.segments.map Segment.erased }

end Dotted

theorem Balanced.of_not_mem {cs : List Char} (hopening : '<' ∉ cs) (hclosing : '>' ∉ cs) : Balanced cs := by
  induction cs with
  | nil => exact .nil
  | cons c cs ih =>
      rw [List.mem_cons, not_or] at hopening hclosing
      exact .other (Ne.symm hopening.1) (Ne.symm hclosing.1) (ih hopening.2 hclosing.2)

@[simp] theorem dropArguments_nil (depth : Nat) : dropArguments depth [] = [] := rfl

@[simp] theorem dropArguments_open (depth : Nat) (cs : List Char) :
    dropArguments depth ('<' :: cs) = dropArguments (depth + 1) cs := by
  rw [dropArguments, if_pos rfl]

@[simp] theorem dropArguments_close (depth : Nat) (cs : List Char) :
    dropArguments (depth + 1) ('>' :: cs) = dropArguments depth cs := by
  rw [dropArguments, if_neg (by decide), if_neg (Nat.succ_ne_zero depth), if_pos rfl, Nat.add_sub_cancel]

theorem dropArguments_inside {c : Char} (hopening : c ≠ '<') (hclosing : c ≠ '>') (depth : Nat) (cs : List Char) :
    dropArguments (depth + 1) (c :: cs) = dropArguments (depth + 1) cs := by
  rw [dropArguments, if_neg hopening, if_neg (Nat.succ_ne_zero depth), if_neg hclosing]

theorem dropArguments_outside {c : Char} (hopening : c ≠ '<') (cs : List Char) :
    dropArguments 0 (c :: cs) = c :: dropArguments 0 cs := by
  rw [dropArguments, if_neg hopening, if_pos rfl]

/-- Inside angle brackets a balanced text is passed over, with all the groups in it. -/
theorem Balanced.dropArguments_append {cs : List Char} (h : Balanced cs) (depth : Nat) (rest : List Char) :
    dropArguments (depth + 1) (cs ++ rest) = dropArguments (depth + 1) rest := by
  induction h generalizing depth rest with
  | nil => rfl
  | other opening closing _ ih => rw [List.cons_append, dropArguments_inside opening closing, ih]
  | @group cs ds _ _ ihinner ihrest =>
      rw [List.cons_append, dropArguments_open, List.append_assoc, ihinner, List.cons_append, dropArguments_close,
        ihrest]

theorem dropArguments_append {cs : List Char} (h : '<' ∉ cs) (rest : List Char) :
    dropArguments 0 (cs ++ rest) = cs ++ dropArguments 0 rest := by
  induction cs with
  | nil => rfl
  | cons c cs ih =>
      rw [List.mem_cons, not_or] at h
      rw [List.cons_append, dropArguments_outside (Ne.symm h.1), ih h.2, List.cons_append]

theorem dropArguments_segment (g : Segment) (rest : List Char) :
    dropArguments 0 (g.chars ++ rest) = g.name ++ dropArguments 0 rest := by
  cases ha : g.arguments with
  | none => rw [Segment.chars_of_none ha, dropArguments_append g.angle_not_mem_name]
  | some cs =>
      have hgroup : dropArguments 0 ('<' :: (cs ++ '>' :: rest)) = dropArguments 0 rest := by
        rw [dropArguments_open, (g.balanced cs ha).dropArguments_append, dropArguments_close]
      rw [Segment.chars_of_some ha, List.append_assoc, dropArguments_append g.angle_not_mem_name, List.cons_append,
        List.append_assoc, List.singleton_append, hgroup]

theorem dropArguments_join (gs : List Segment) (rest : List Char) :
    dropArguments 0 (Segment.join gs ++ rest) = Segment.join (gs.map Segment.erased) ++ dropArguments 0 rest := by
  induction gs with
  | nil => rfl
  | cons g gs ih =>
      cases gs with
      | nil => simp [dropArguments_segment]
      | cons g' gs =>
          rw [List.map_cons, List.map_cons, Segment.join_cons_cons, Segment.join_cons_cons, List.append_assoc,
            dropArguments_segment, List.cons_append, dropArguments_outside (by decide), ih, Segment.chars_erased,
            List.append_assoc, List.cons_append, List.map_cons]

theorem IsBrackets.angle_not_mem {cs : List Char} (h : IsBrackets cs) : '<' ∉ cs := by
  induction h with
  | nil => simp
  | blank hc _ ih =>
      rw [List.mem_cons, not_or]
      refine ⟨?_, ih⟩
      rintro rfl
      exact absurd hc (by decide)
  | pair _ ih => simp [ih]

/-- Dropping all that stands between angle brackets from a reference leaves the reference without arguments. -/
theorem dropArguments_chars (r : Dotted) : dropArguments 0 r.chars = r.erased.chars := by
  have hbrackets : dropArguments 0 r.brackets = r.brackets := by
    simpa using dropArguments_append r.isBrackets.angle_not_mem []
  rw [Dotted.chars, dropArguments_join, hbrackets, Dotted.chars, Dotted.erased]

theorem IsBare.of_getLast? {cs : List Char} (h : ∀ c ∈ cs.getLast?, ¬isBlank c = true ∧ c ≠ ']') : IsBare cs := by
  refine ⟨fun c hc => (h c hc).1, ?_⟩
  rintro ⟨front, rfl⟩
  exact (h ']' (by simp)).2 rfl

namespace Segment

theorem getLast?_chars (g : Segment) : ∀ c ∈ g.chars.getLast?, ¬isBlank c = true ∧ c ≠ ']' := by
  intro c hc
  cases ha : g.arguments with
  | none =>
      rw [chars_of_none ha] at hc
      obtain ⟨hblank, hmark⟩ := g.plain c (List.mem_of_getLast? hc)
      exact ⟨hblank, fun he => hmark (by simp [he])⟩
  | some cs =>
      rw [chars_of_some ha] at hc
      obtain rfl : '>' = c := by simpa [List.getLast?_append, List.getLast?_cons] using hc
      decide

theorem getLast?_join (gs : List Segment) : ∀ c ∈ (join gs).getLast?, ¬isBlank c = true ∧ c ≠ ']' := by
  induction gs with
  | nil => simp
  | cons g gs ih =>
      cases gs with
      | nil => simpa using g.getLast?_chars
      | cons g' gs =>
          intro c hc
          rw [join_cons_cons, List.getLast?_append, List.getLast?_cons] at hc
          cases hlast : (join (g' :: gs)).getLast? with
          | none =>
              obtain rfl : '.' = c := by simpa [hlast] using hc
              decide
          | some d =>
              obtain rfl : d = c := by simpa [hlast] using hc
              exact ih d hlast

/-- A name as far as it is read: to the first arguments that stand behind one of its parts. -/
def readName (gs : List Segment) : List Char := (join gs).takeWhile (· != '<')

@[simp] theorem readName_nil : readName [] = [] := rfl

@[simp] theorem readName_singleton (g : Segment) : readName [g] = g.name := by
  rw [readName, join_singleton]
  cases ha : g.arguments with
  | none => rw [chars_of_none ha, takeWhile_of_angle_not_mem g.angle_not_mem_name]
  | some cs => simp [chars_of_some ha, takeWhile_name_append g.angle_not_mem_name]

theorem readName_of_none (h : g.arguments = none) (g' : Segment) (gs : List Segment) :
    readName (g :: g' :: gs) = g.name ++ '.' :: readName (g' :: gs) := by
  rw [readName, join_cons_cons, chars_of_none h, takeWhile_name_append g.angle_not_mem_name,
    List.takeWhile_cons_of_pos (by decide), readName]

theorem readName_of_some {cs : List Char} (h : g.arguments = some cs) (g' : Segment) (gs : List Segment) :
    readName (g :: g' :: gs) = g.name := by
  rw [readName, join_cons_cons, chars_of_some h, List.append_assoc, takeWhile_name_append g.angle_not_mem_name,
    List.cons_append, List.takeWhile_cons_of_neg (by decide), List.append_nil]

/-- A name is read to its end when no arguments stand in front of its last part, and then only. -/
theorem readName_eq_iff (gs : List Segment) :
    readName gs = join (gs.map erased) ↔ ∀ g ∈ gs.dropLast, g.arguments = none := by
  induction gs with
  | nil => simp
  | cons g gs ih =>
      cases gs with
      | nil => simp
      | cons g' gs =>
          rw [List.dropLast_cons_cons, List.forall_mem_cons, ← ih, List.map_cons, List.map_cons, join_cons_cons,
            chars_erased]
          cases ha : g.arguments with
          | none => simp [readName_of_none ha]
          | some cs => simp [readName_of_some ha]

theorem not_isBlank_of_mem_readName (gs : List Segment) : ∀ c ∈ readName gs, ¬isBlank c = true := by
  induction gs with
  | nil => simp
  | cons g gs ih =>
      have hname (c : Char) (hc : c ∈ g.name) : ¬isBlank c = true := (g.plain c hc).1
      cases gs with
      | nil =>
          rw [readName_singleton]
          exact hname
      | cons g' gs =>
          cases ha : g.arguments with
          | some cs =>
              rw [readName_of_some ha]
              exact hname
          | none =>
              rw [readName_of_none ha]
              intro c hc
              rcases List.mem_append.1 hc with hc | hc
              · exact hname c hc
              · rcases List.mem_cons.1 hc with rfl | hc
                · decide
                · exact ih c hc

theorem leadingName_join (gs : List Segment) : leadingName (join gs) = readName gs :=
  trimChars_of_not_blank (not_isBlank_of_mem_readName gs)

end Segment

namespace Dotted

/-- Of a dotted reference the name is read up to the first arguments, and all pairs of brackets. -/
theorem ofChars_chars (r : Dotted) : ofChars r.chars = ⟨Segment.readName r.segments, r.brackets.count '['⟩ := by
  have hsplits : Splits r.chars (Segment.join r.segments) r.brackets :=
    ⟨rfl, .of_getLast? (Segment.getLast?_join _), r.isBrackets⟩
  rw [hsplits.ofChars_eq, Segment.leadingName_join]

theorem ofChars_erased_chars (r : Dotted) :
    ofChars r.erased.chars = ⟨Segment.join (r.segments.map Segment.erased), r.brackets.count '['⟩ := by
  have herased : Segment.readName r.erased.segments = Segment.join (r.erased.segments.map Segment.erased) := by
    refine (Segment.readName_eq_iff _).2 fun g hg => ?_
    obtain ⟨g', _, rfl⟩ := List.mem_map.1 ((List.dropLast_sublist _).subset hg)
    rfl
  have hagain : r.erased.segments.map Segment.erased = r.segments.map Segment.erased := by
    simp [erased, Segment.erased]
  rw [ofChars_chars, herased, hagain]
  rfl

end Dotted

end TypeReference

namespace TypeIdentity

theorem arrays_injective {t t' : TypeIdentity} (n : Nat) (h : t.arrays n = t'.arrays n) : t = t' := by
  induction n with
  | zero => exact h
  | succ n ih => exact ih (array.inj h)

end TypeIdentity

namespace Scope

variable {scope : Scope}

/-- Different names mean different types. -/
theorem meaning_injective {name name' : String} (h : scope.meaning name = scope.meaning name') : name = name' := by
  have hname (name : String) (id : ElementId) (hf : scope.find? name = some id) :
      (fun id : ElementId => (scope.names[id.index]?).getD "") id = name := by
    simp [getElem?_of_find? hf]
  have hdisplay := congrArg (TypeIdentity.display fun id : ElementId => (scope.names[id.index]?).getD "") h
  rwa [display_meaning hname, display_meaning hname] at hdisplay

open TypeReference

/-- A dotted reference means as many arrays as it has pairs of brackets, made of what its name means as far as it is
read. That is the same with all its arguments dropped exactly when none of them stand in front of the last part of the
name, whatever types there are. -/
theorem resolve_dotted (scope : Scope) (r : Dotted) :
    scope.resolve (String.ofList r.chars) =
        (scope.meaning (String.ofList (Segment.readName r.segments))).arrays (r.brackets.count '[') ∧
      (scope.resolve (String.ofList r.chars) = scope.resolve (String.ofList (dropArguments 0 r.chars)) ↔
        ∀ g ∈ r.segments.dropLast, g.arguments = none) := by
  have hwritten : scope.resolve (String.ofList r.chars) =
      (scope.meaning (String.ofList (Segment.readName r.segments))).arrays (r.brackets.count '[') := by
    rw [resolve, String.toList_ofList, r.ofChars_chars]
  have hdropped : scope.resolve (String.ofList (dropArguments 0 r.chars)) =
      (scope.meaning (String.ofList (Segment.join (r.segments.map Segment.erased)))).arrays (r.brackets.count '[') := by
    rw [dropArguments_chars, resolve, String.toList_ofList, r.ofChars_erased_chars]
  refine ⟨hwritten, ?_⟩
  rw [hwritten, hdropped, ← Segment.readName_eq_iff]
  constructor
  · intro h
    exact String.ofList_injective (meaning_injective (TypeIdentity.arrays_injective _ h))
  · intro h
    rw [h]

end Scope

namespace Program

open TypeReference Text

/-- A builder with a method that returns a type inside it, and this type. -/
def inner : Source where
  types := [
    { name := "a.Outer", annotations := [.named autoValueBuilder]
      methods := [{ name := "inner", returns := "a.Outer<T>.Inner" }] },
    { name := "a.Outer.Inner" }]

/-- Arguments behind the last part of a name, with brackets and other arguments in them. -/
def innerArrays : Dotted where
  segments := [
    ⟨"a".toList, none, by simp [isBlank], nofun⟩, ⟨"Outer".toList, none, by simp [isBlank], nofun⟩,
    ⟨"Inner".toList, some "B<int[]>".toList, by simp [isBlank], fun
      | _, rfl => .other (by decide) (by decide)
          (@Balanced.group "int[]".toList [] (.of_not_mem (by decide) (by decide)) .nil)⟩]
  brackets := "[] []".toList
  isBrackets := .pair (.blank rfl (.pair .nil))

theorem resolve_dotted_innerArrays :
    String.ofList innerArrays.chars = "a.Outer.Inner<B<int[]>>[] []" ∧
      String.ofList (dropArguments 0 innerArrays.chars) = "a.Outer.Inner[] []" ∧
      (∀ g ∈ innerArrays.segments.dropLast, g.arguments = none) ∧
      inner.scope.resolve "a.Outer.Inner<B<int[]>>[] []" = .array (.array (.declared ⟨1⟩)) ∧
      inner.scope.resolve "a.Outer.Inner<B<int[]>>[] []" = inner.scope.resolve "a.Outer.Inner[] []" := by
  have hwritten : String.ofList innerArrays.chars = "a.Outer.Inner<B<int[]>>[] []" := by decide
  have hdropped : String.ofList (dropArguments 0 innerArrays.chars) = "a.Outer.Inner[] []" := by decide
  have hlast : ∀ g ∈ innerArrays.segments.dropLast, g.arguments = none := by decide
  have hsame := (Scope.resolve_dotted inner.scope innerArrays).2.2 hlast
  rw [hwritten, hdropped] at hsame
  exact ⟨hwritten, hdropped, hlast, by decide, hsame⟩

/-- Arguments behind the name of the builder, in the reference that the method returns. -/
def innerOfBuilder : Dotted where
  segments := [
    ⟨"a".toList, none, by simp [isBlank], nofun⟩,
    ⟨"Outer".toList, some "T".toList, by simp [isBlank], fun | _, rfl => .of_not_mem (by decide) (by decide)⟩,
    ⟨"Inner".toList, none, by simp [isBlank], nofun⟩]
  brackets := []
  isBrackets := .nil

/-- The type inside the builder is taken for the builder, so the method is taken for one that returns its receiver. -/
theorem resolve_mistakes_inner :
    String.ofList innerOfBuilder.chars = "a.Outer<T>.Inner" ∧
      String.ofList (dropArguments 0 innerOfBuilder.chars) = "a.Outer.Inner" ∧
      ofSource inner = .ok inner.program ∧
      inner.scope.resolve "a.Outer<T>.Inner" = .declared ⟨0⟩ ∧ inner.scope.resolve "a.Outer.Inner" = .declared ⟨1⟩ ∧
      inner.scope.resolve (String.ofList innerOfBuilder.chars) ≠
        inner.scope.resolve (String.ofList (dropArguments 0 innerOfBuilder.chars)) ∧
      (Report.ofHost .all inner.program.host).toOption.map (·.entries.map fun e => (e.returnType, e.generator)) =
        some [(some "a.Outer", some .autoValue)] := by
  have hwritten : String.ofList innerOfBuilder.chars = "a.Outer<T>.Inner" := by decide
  have hdropped : String.ofList (dropArguments 0 innerOfBuilder.chars) = "a.Outer.Inner" := by decide
  have houter : inner.scope.resolve "a.Outer<T>.Inner" = .declared ⟨0⟩ := by decide
  have hinner : inner.scope.resolve "a.Outer.Inner" = .declared ⟨1⟩ := by decide
  refine ⟨hwritten, hdropped, rfl, houter, hinner, ?_, rfl⟩
  rw [hwritten, hdropped, houter, hinner]
  decide

end Program

end FluentThis
