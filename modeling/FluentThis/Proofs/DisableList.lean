import FluentThis.Generator.Basic
import FluentThis.Proofs.SeparatedTexts
import FluentThis.Proofs.Traversal
import Mathlib
/-!
Lists of disabled generators. A part of a list names a generator by its name in ASCII letters of either case; texts are
compared in capitals, but those of a character beyond ASCII do not fit into these names. Main statement: a list is
read exactly when each of its parts names a generator, the generators that no part names stay active, and otherwise the
first part that names none is the failure.
-/

namespace FluentThis

namespace Text

/-- An ASCII text in capitals. -/
theorem capitals_of_ascii {cs : List Char} (hcs : ∀ c ∈ cs, c.toNat < 128) : capitals cs = cs.map Char.toUpper := by
  induction cs with
  | nil => rfl
  | cons c cs ih =>
      obtain ⟨hc, hrest⟩ := List.forall_mem_cons.1 hcs
      rw [capitals, List.flatMap_cons, capital_of_ascii hc, List.map_cons, ← ih hrest]
      rfl

theorem toLower_lt_of_ascii {c : Char} (hc : c.toLower.toNat < 128) : c.toNat < 128 := by
  by_cases hupper : c.isUpper = true
  · simp only [Char.isUpper, decide_eq_true_eq, UInt32.le_iff_toNat_le] at hupper
    exact Nat.lt_of_le_of_lt hupper.2 (by decide)
  · rwa [Char.toLower_eq_of_not_isUpper hupper] at hc

end Text

namespace Generator

/-- Whether a part of a list names a generator: without the blanks at its ends it is the name of the generator, up to
the case of ASCII letters. -/
def IsNamedBy (g : Generator) (part : String) : Prop :=
  (Text.trim part).toList.map Char.toLower = g.name.toList.map Char.toLower

instance (g : Generator) (part : String) : Decidable (g.IsNamedBy part) := inferInstanceAs (Decidable (_ = _))

theorem IsNamedBy.unique {g g' : Generator} {part : String} (h : g.IsNamedBy part) (h' : g'.IsNamedBy part) :
    g = g' := by
  have hname : g.name.toList.map Char.toLower = g'.name.toList.map Char.toLower := h.symm.trans h'
  cases g <;> cases g' <;> first | rfl | exact absurd hname (by decide)

/-- No character beyond ASCII has a place in the name of a generator, in whatever case it is written. -/
theorem IsNamedBy.ascii {g : Generator} {part : String} (h : g.IsNamedBy part) :
    ∀ c ∈ (Text.trim part).toList, c.toNat < 128 := by
  have hname : (g.name.toList.map Char.toLower).all (fun x => x.toNat < 128) = true := by
    cases g <;> decide
  simp only [List.all_eq_true, decide_eq_true_eq] at hname
  intro c hc
  apply Text.toLower_lt_of_ascii
  apply hname
  rw [← h]
  exact List.mem_map_of_mem hc

/-- The capitals of a character beyond ASCII have something in them that is in none of these names. -/
theorem ascii_of_capitals {g : Generator} {cs : List Char} (h : Text.capitals cs = g.optionName.toList) :
    ∀ c ∈ cs, c.toNat < 128 := by
  have hname : g.optionName.toList.all (fun x => x.toNat < 128 ∧ x ∉ ['F', 'I', 'S']) = true := by
    cases g <;> decide
  simp only [List.all_eq_true, decide_eq_true_eq] at hname
  intro c hc
  by_contra hbeyond
  obtain ⟨x, hx, hforeign⟩ := Text.exists_mem_capital (Nat.le_of_not_lt hbeyond)
  have hmem : x ∈ g.optionName.toList := h ▸ List.mem_flatMap.2 ⟨c, hc, hx⟩
  obtain ⟨hascii, hletter⟩ := hname x hmem
  rcases hforeign with hlarge | hfis
  · exact absurd hascii (Nat.not_lt.2 hlarge)
  · exact hletter hfis

theorem optionName_eq_capitals_iff {g : Generator} {part : String} :
    g.optionName.toList = Text.capitals (Text.trimChars part.toList) ↔ g.IsNamedBy part := by
  have hlower : g.optionName.toList.map Char.toLower = g.name.toList.map Char.toLower := by
    cases g <;> decide
  have hupper : g.name.toList.map Char.toUpper = g.optionName.toList := by
    cases g <;> decide
  rw [IsNamedBy, Text.toList_trim]
  constructor
  · intro h
    have hcs := ascii_of_capitals h.symm
    rw [Text.capitals_of_ascii hcs] at h
    rw [← hlower, h, List.map_map]
    exact List.map_congr_left fun c _ => (Char.toLower_toUpper_eq_toLower c).symm
  · intro h
    have hcs : ∀ c ∈ Text.trimChars part.toList, c.toNat < 128 := by
      have hnamed : g.IsNamedBy part := by rwa [IsNamedBy, Text.toList_trim]
      have hascii := hnamed.ascii
      rwa [Text.toList_trim] at hascii
    have hmap := congrArg (List.map Char.toUpper) h
    simp only [List.map_map, Function.comp_def, Char.toUpper_toLower_eq_toUpper] at hmap
    rw [Text.capitals_of_ascii hcs, ← hupper, hmap]

theorem named?_eq_some_iff {g : Generator} {part : String} : named? part = some g ↔ g.IsNamedBy part := by
  unfold named?
  constructor
  · intro h
    have hg := List.find?_some h
    rw [decide_eq_true_eq] at hg
    exact optionName_eq_capitals_iff.1 hg
  · intro h
    cases hf : all.find? fun g => g.optionName.toList = Text.capitals (Text.trimChars part.toList) with
    | none =>
        have hnot := List.find?_eq_none.1 hf g (mem_all g)
        rw [decide_eq_true_eq] at hnot
        exact absurd (optionName_eq_capitals_iff.2 h) hnot
    | some g' =>
        have hg' := List.find?_some hf
        rw [decide_eq_true_eq] at hg'
        rw [(optionName_eq_capitals_iff.1 hg').unique h]

theorem named?_eq_none_iff {part : String} : named? part = none ↔ ∀ g, ¬IsNamedBy g part := by
  simp only [Option.eq_none_iff_forall_ne_some, ne_eq, named?_eq_some_iff]

theorem ofText_eq_ok_iff {g : Generator} {part : String} : ofText part = .ok g ↔ g.IsNamedBy part := by
  rw [← named?_eq_some_iff, ofText]
  cases named? part <;> simp

theorem ofText_eq_error_iff {part : String} {e : Failure} :
    ofText part = .error e ↔ (∀ g, ¬IsNamedBy g part) ∧ e = .unknownGenerator (Text.trim part) := by
  rw [← named?_eq_none_iff, ofText]
  cases named? part <;> simp [eq_comm]

end Generator

namespace GeneratorSet

theorem mem_foldl_erase {gs : GeneratorSet} {named : List Generator} {g : Generator} :
    g ∈ named.foldl erase gs ↔ g ∈ gs ∧ g ∉ named := by
  induction named generalizing gs with
  | nil => simp
  | cons g' named ih => rw [List.foldl_cons, ih, mem_erase, List.mem_cons, not_or, and_assoc]

/-- The parts are read one after the other, and then the generators that they name are taken away. -/
theorem eraseAll_eq (gs : GeneratorSet) (parts : List String) :
    gs.eraseAll parts = (parts.mapM Generator.ofText).map (·.foldl erase gs) := by
  induction parts generalizing gs with
  | nil => rfl
  | cons part parts ih =>
      rw [eraseAll, Traversal.mapM_cons_eq]
      cases Generator.ofText part with
      | error e => rfl
      | ok g =>
          simp only [ih]
          cases parts.mapM Generator.ofText <;> rfl

theorem eraseAll_eq_error_iff {gs : GeneratorSet} {parts : List String} {e : Failure} :
    gs.eraseAll parts = .error e ↔
      ∃ start part rest, parts = start ++ part :: rest ∧ (∀ p ∈ start, ∃ g, Generator.IsNamedBy g p) ∧
        (∀ g, ¬Generator.IsNamedBy g part) ∧ e = .unknownGenerator (Text.trim part) := by
  have hread : gs.eraseAll parts = .error e ↔ parts.mapM Generator.ofText = .error e := by
    rw [eraseAll_eq]
    cases parts.mapM Generator.ofText <;> simp [Except.map]
  rw [hread, Traversal.mapM_eq_error_iff]
  simp only [Generator.ofText_eq_ok_iff, Generator.ofText_eq_error_iff]

/-- What is read from parts that all name a generator is what they name. -/
theorem named_of_forall₂ {parts : List String} {named : List Generator}
    (h : List.Forall₂ (fun part g => Generator.IsNamedBy g part) parts named) :
    (∀ part ∈ parts, ∃ g, Generator.IsNamedBy g part) ∧ ∀ g, g ∈ named ↔ ∃ part ∈ parts, g.IsNamedBy part := by
  induction h with
  | nil => simp
  | @cons part g parts named hg _ ih =>
      obtain ⟨hall, hmem⟩ := ih
      refine ⟨List.forall_mem_cons.2 ⟨⟨g, hg⟩, hall⟩, fun g' => ?_⟩
      have hhead : g' = g ↔ g'.IsNamedBy part := ⟨fun he => he ▸ hg, fun hg' => hg'.unique hg⟩
      rw [List.mem_cons, List.exists_mem_cons_iff, hhead, hmem]

/-- Every part names a generator where all are read, and those that are named are taken away. -/
theorem named_of_eraseAll {gs gs' : GeneratorSet} {parts : List String} (h : gs.eraseAll parts = .ok gs') :
    (∀ part ∈ parts, ∃ g, Generator.IsNamedBy g part) ∧
      ∀ g, g ∈ gs' ↔ g ∈ gs ∧ ∀ part ∈ parts, ¬g.IsNamedBy part := by
  rw [eraseAll_eq] at h
  cases hread : parts.mapM Generator.ofText with
  | error e =>
      rw [hread] at h
      cases h
  | ok named =>
      rw [hread] at h
      cases h
      have hnames := Traversal.mapM_eq_ok_iff.1 hread
      simp only [Generator.ofText_eq_ok_iff] at hnames
      obtain ⟨hall, hmem⟩ := named_of_forall₂ hnames
      refine ⟨hall, fun g => ?_⟩
      rw [mem_foldl_erase, hmem]
      simp only [not_exists, not_and]

theorem separates_parts (list : String) :
    Text.Separates ',' list.toList ((parts list).map String.toList) := by
  rw [Text.separates_iff, parts, List.map_map]
  exact (List.map_congr_left fun part _ => String.toList_ofList).trans (List.map_id _)

/-- The active generators are listed in the order of all generators. -/
theorem toList_eq_filter {gs : GeneratorSet} {p : Generator → Prop} [DecidablePred p] (h : ∀ g, g ∈ gs ↔ p g) :
    gs.toList = [.autoValue, .lombok].filter p := by
  apply List.filter_congr
  intro g _
  rw [← Bool.coe_iff_coe, decide_eq_true_iff]
  exact h g

/-- Lists of disabled generators are read exactly. A list is taken apart at every comma. It is read if and only if each
part names a generator, and then the generators that no part names stay active, in the order of all generators.
Otherwise the failure is the first part that names none, without the blanks around it and with its letters as they are
written. -/
theorem disabling_list (list : String) :
    Text.Separates ',' list.toList ((parts list).map String.toList) ∧
      (∀ g part, Generator.IsNamedBy g part → ∀ c ∈ (Text.trim part).toList, c.toNat < 128) ∧
      ((∃ gs, disabling (some list) = .ok gs) ↔ ∀ part ∈ parts list, ∃ g, Generator.IsNamedBy g part) ∧
      (∀ gs, disabling (some list) = .ok gs →
        (∀ g, g ∈ gs ↔ ∀ part ∈ parts list, ¬g.IsNamedBy part) ∧
          gs.toList = [.autoValue, .lombok].filter fun g => ∀ part ∈ parts list, ¬g.IsNamedBy part) ∧
      ∀ e, disabling (some list) = .error e ↔
        ∃ start part rest, parts list = start ++ part :: rest ∧ (∀ p ∈ start, ∃ g, Generator.IsNamedBy g p) ∧
          (∀ g, ¬Generator.IsNamedBy g part) ∧ e = .unknownGenerator (Text.trim part) ∧
          e.message = "Unrecognized framework in disableFrameworkSupport: " ++ Text.trim part := by
  have herror (e : Failure) : disabling (some list) = .error e ↔ _ := eraseAll_eq_error_iff
  refine ⟨separates_parts list, fun g part h => h.ascii, ⟨?_, ?_⟩, ?_, ?_⟩
  · rintro ⟨gs, hgs⟩
    exact (named_of_eraseAll hgs).1
  · intro hall
    cases hd : disabling (some list) with
    | ok gs => exact ⟨gs, rfl⟩
    | error e =>
        obtain ⟨start, part, rest, hparts, _, hpart, _⟩ := (herror e).1 hd
        obtain ⟨g, hg⟩ := hall part (by simp [hparts])
        exact absurd hg (hpart g)
  · intro gs hgs
    have hactive (g : Generator) : g ∈ gs ↔ ∀ part ∈ parts list, ¬g.IsNamedBy part := by
      rw [(named_of_eraseAll hgs).2, and_iff_right (mem_all g)]
    exact ⟨hactive, toList_eq_filter hactive⟩
  · intro e
    rw [herror]
    constructor
    · rintro ⟨start, part, rest, hparts, hstart, hpart, rfl⟩
      exact ⟨start, part, rest, hparts, hstart, hpart, rfl, rfl⟩
    · rintro ⟨start, part, rest, hparts, hstart, hpart, he, _⟩
      exact ⟨start, part, rest, hparts, hstart, hpart, he⟩

example : (disabling (some "lombok\u3000,\tLomBoK")).toOption.map toList = some [.autoValue] := by decide

/-- The Kelvin sign has the small letter k, but it is a capital by itself. -/
example : disabling (some "lombok, LOMBO\u212A ,,") = .error (.unknownGenerator "LOMBO\u212A") := rfl

end GeneratorSet

end FluentThis
