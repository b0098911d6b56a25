import FluentThis.Proofs.SeparatedTexts
import FluentThis.Report.Listing
/-!
Listings without colors. The line of an entry is read from its end: behind its last two equality signs stand the
qualifiers and the generator, and what is in front of them is the executable, whatever its name looks like. Main
statement: a listing has one line for each entry and one that counts them, and two listings are the same exactly when
they tell the same of the same executables.
-/

namespace FluentThis

/-- What the listing tells about an entry. -/
@[ext]
structure Shown where
  executable : String
  returnQualifier : Option Qualifier
  receiverQualifier : Option Qualifier
  generator : Option Generator
  deriving DecidableEq, Repr

namespace Report

/-- The characters of what a listing says of its own accord: the labels, the generators and the counts. -/
def isWording (c : Char) : Bool := c.isAlphanum || [' ', '@', '-', '(', ')'].contains c

theorem not_mem_of_isWording {c : Char} {cs : List Char} (h : cs.all isWording = true) (hc : isWording c = false) :
    c ∉ cs := by
  intro hmem
  rw [List.all_eq_true.1 h c hmem] at hc
  cases hc

end Report

namespace Entry

def shown (e : Entry) : Shown := ⟨e.owner ++ "#" ++ e.name, e.returnQualifier, e.receiverQualifier, e.generator⟩

/-- A character that is neither in the owner of an entry nor in its name. -/
structure Lacks (e : Entry) (c : Char) : Prop where
  owner : c ∉ e.owner.toList
  name : c ∉ e.name.toList

instance (e : Entry) (c : Char) : Decidable (e.Lacks c) :=
  decidable_of_iff (c ∉ e.owner.toList ∧ c ∉ e.name.toList) ⟨fun h => ⟨h.1, h.2⟩, fun h => ⟨h.owner, h.name⟩⟩

theorem isWording_qualifierLabel (q : Option Qualifier) : (qualifierLabel q).all Report.isWording = true := by
  rcases q with _ | (_ | _ | _) <;> rfl

theorem isWording_source (e : Entry) : e.source.all Report.isWording = true := by
  unfold source
  rcases e.generator with _ | (_ | _) <;> rfl

theorem Lacks.target {e : Entry} {c : Char} (h : e.Lacks c) (hc : c ≠ '#') : c ∉ e.target := by
  rw [Entry.target, List.mem_append, List.mem_cons]
  rintro (howner | hmark | hname)
  · exact h.owner howner
  · exact hc hmark
  · exact h.name hname

/-- What is neither in the names of an entry nor in the wording is in no part of its line. -/
theorem Lacks.parts {e : Entry} {c : Char} (h : e.Lacks c) (hmark : c ≠ '#') (hc : Report.isWording c = false) :
    c ∉ e.target ∧ (∀ q, c ∉ qualifierLabel q) ∧ c ∉ e.source :=
  ⟨h.target hmark, fun q => Report.not_mem_of_isWording (isWording_qualifierLabel q) hc,
    Report.not_mem_of_isWording e.isWording_source hc⟩

theorem toList_executable (e : Entry) : e.shown.executable.toList = e.target := by
  simp [shown, target]

theorem qualifierLabel_injective {q r : Option Qualifier} (h : qualifierLabel q = qualifierLabel r) : q = r := by
  rcases q with _ | (_ | _ | _) <;> rcases r with _ | (_ | _ | _) <;> revert h <;> decide

theorem source_injective {e e' : Entry} (h : e.source = e'.source) : e.generator = e'.generator := by
  unfold source at h
  generalize e.generator = g at h ⊢
  generalize e'.generator = g' at h ⊢
  rcases g with _ | (_ | _) <;> rcases g' with _ | (_ | _) <;> revert h <;> decide

/-- What is said of the generator begins with a blank, if anything is. -/
theorem source_cases (e : Entry) : e.source = [] ∨ ∃ r, e.source = ' ' :: r := by
  unfold source
  rcases e.generator with _ | g
  · exact .inl rfl
  · exact .inr ⟨" (".toList ++ g.name.toList ++ ")".toList, by simp⟩

theorem blank_not_mem_qualifierLabel (q : Option Qualifier) : ' ' ∉ qualifierLabel q := by
  rcases q with _ | (_ | _ | _) <;> decide

theorem takeWhile_qualifierLabel_source (q : Option Qualifier) (e : Entry) :
    (qualifierLabel q ++ e.source).takeWhile (· ≠ ' ') = qualifierLabel q := by
  have hlabel : ∀ c ∈ qualifierLabel q, decide (c ≠ ' ') = true := by
    intro c hc
    refine decide_eq_true ?_
    rintro rfl
    exact blank_not_mem_qualifierLabel q hc
  rw [List.takeWhile_append_of_pos hlabel]
  rcases e.source_cases with hs | ⟨r, hs⟩
  · rw [hs, List.takeWhile_nil, List.append_nil]
  · rw [hs, List.takeWhile_cons_of_neg (by decide), List.append_nil]

/-- What follows the last equality sign tells the qualifier of the receiver and the generator. -/
theorem qualifierLabel_source_inj {q q' : Option Qualifier} {e e' : Entry}
    (h : qualifierLabel q ++ e.source = qualifierLabel q' ++ e'.source) : q = q' ∧ e.generator = e'.generator := by
  have hlabel := congrArg (List.takeWhile (· ≠ ' ')) h
  rw [takeWhile_qualifierLabel_source, takeWhile_qualifierLabel_source] at hlabel
  rw [hlabel] at h
  exact ⟨qualifierLabel_injective hlabel, source_injective (List.append_cancel_left h)⟩

/-- The line of an entry, cut at its last two equality signs. -/
theorem line_eq (e : Entry) (marks : Bool) :
    e.line false marks = (e.target ++ "  return".toList) ++ '=' :: (qualifierLabel e.returnQualifier ++
      " receiver".toList) ++ '=' :: (qualifierLabel e.receiverQualifier ++ e.source) := by
  have hreturn : "  return=".toList = "  return".toList ++ ['='] := by decide
  have hreceiver : " receiver=".toList = " receiver".toList ++ ['='] := by decide
  rw [line, Bool.false_and, if_neg Bool.false_ne_true, lineWith, hreturn, hreceiver]
  simp only [List.append_assoc, List.cons_append, List.nil_append]

theorem line_eq_iff {e e' : Entry} (marks marks' : Bool) :
    e.line false marks = e'.line false marks' ↔ e.shown = e'.shown := by
  have hequals : Report.isWording '=' = false := by decide
  constructor
  · intro h
    have htail (e : Entry) (q : Option Qualifier) : '=' ∉ qualifierLabel q ++ e.source := by
      rw [List.mem_append, not_or]
      exact ⟨Report.not_mem_of_isWording (isWording_qualifierLabel q) hequals,
        Report.not_mem_of_isWording (isWording_source e) hequals⟩
    have hmiddle (q : Option Qualifier) : '=' ∉ qualifierLabel q ++ " receiver".toList := by
      rw [List.mem_append, not_or]
      exact ⟨Report.not_mem_of_isWording (isWording_qualifierLabel q) hequals, by decide⟩
    rw [line_eq, line_eq] at h
    obtain ⟨hfront, hend⟩ := Text.append_cons_inj_of_last (htail e _) (htail e' _) h
    obtain ⟨hexecutable, hreturn⟩ := Text.append_cons_inj_of_last (hmiddle _) (hmiddle _) hfront
    obtain ⟨hreceiver, hgenerator⟩ := qualifierLabel_source_inj hend
    have htarget := List.append_cancel_right hexecutable
    rw [← toList_executable, ← toList_executable, String.toList_inj] at htarget
    have hlabel := qualifierLabel_injective (List.append_cancel_right hreturn)
    exact Shown.ext htarget hlabel hreceiver hgenerator
  · intro h
    have htarget : e.target = e'.target := by rw [← toList_executable, ← toList_executable, h]
    have hreturn : e.returnQualifier = e'.returnQualifier := congrArg Shown.returnQualifier h
    have hreceiver : e.receiverQualifier = e'.receiverQualifier := congrArg Shown.receiverQualifier h
    have hgenerator : e.generator = e'.generator := congrArg Shown.generator h
    rw [line_eq, line_eq, htarget, hreturn, hreceiver, source, source, hgenerator]

/-- A line does not break if the names in it do not. -/
theorem Lacks.line {e : Entry} (h : e.Lacks '\n') (marks : Bool) : '\n' ∉ e.line false marks := by
  obtain ⟨htarget, hlabel, hsource⟩ := h.parts (by decide) (by decide)
  rw [line_eq]
  simp only [List.mem_append, List.mem_cons, not_or]
  exact ⟨⟨⟨htarget, by decide⟩, by decide, hlabel _, by decide⟩, by decide, hlabel _, hsource⟩

theorem map_line_eq_iff {es es' : List Entry} (marks marks' : Bool) :
    es.map (·.line false marks) = es'.map (·.line false marks') ↔ es.map shown = es'.map shown := by
  induction es generalizing es' with
  | nil => cases es' <;> simp
  | cons e es ih =>
      cases es' with
      | nil => simp
      | cons e' es' => simp only [List.map_cons, List.cons.injEq, line_eq_iff, ih]

end Entry

namespace Report

theorem isWording_summary (r : Report) : r.summary.all isWording = true := by
  have hdigits (n : Nat) : (Nat.toDigits 10 n).all isWording = true := by
    rw [List.all_eq_true]
    intro c hc
    have hdigit := Nat.isDigit_of_mem_toDigits (by decide) (by decide) hc
    simp [isWording, Char.isAlphanum, hdigit]
  have hof : " of ".toList.all isWording = true := rfl
  have hrest : " executables return @This".toList.all isWording = true := rfl
  simp only [summary, List.all_append, hdigits, hof, hrest, Bool.and_self]

theorem summary_eq (r : Report) :
    r.summary = (toString (r.entries.countP (·.returnQualifier = some .receiver)) ++ " of " ++
      toString r.entries.length ++ " executables return @This").toList := by
  have hcount : r.returningThis = r.entries.countP (·.returnQualifier = some .receiver) := by
    apply List.countP_congr
    intro e _
    simp [Entry.returnsThis]
  have hdigits (n : Nat) : (toString n).toList = Nat.toDigits 10 n := String.toList_ofList
  rw [summary, hcount]
  simp only [String.toList_append, hdigits]

theorem summary_of_shown {r r' : Report} (h : r.entries.map Entry.shown = r'.entries.map Entry.shown) :
    r.summary = r'.summary := by
  have hcount (r : Report) : r.returningThis =
      (r.entries.map Entry.shown).countP (fun s => s.returnQualifier == some .receiver) := by
    rw [List.countP_map]
    rfl
  have hlength : r.entries.length = r'.entries.length := by
    simpa using congrArg List.length h
  rw [summary, summary, hcount, hcount, h, hlength]

theorem separates_listing {r : Report} (h : ∀ e ∈ r.entries, e.Lacks '\n') (marks : Bool) :
    Text.Separates '\n' (r.listing false marks).toList
      (r.entries.map (·.line false marks) ++ [r.summary, []]) := by
  have hlines : ∀ line ∈ r.entries.map (·.line false marks) ++ [r.summary], '\n' ∉ line := by
    intro line hline
    rcases List.mem_append.1 hline with hentry | hsummary
    · obtain ⟨e, he, rfl⟩ := List.mem_map.1 hentry
      exact (h e he).line marks
    · rw [List.mem_singleton.1 hsummary]
      exact not_mem_of_isWording r.isWording_summary (by decide)
  have hlisting : (r.listing false marks).toList =
      (r.entries.map (·.line false marks) ++ [r.summary]).flatMap (· ++ ['\n']) := by
    rw [listing, String.toList_ofList, listingChars, if_neg Bool.false_ne_true, List.flatMap_append,
      List.flatMap_map, List.flatMap_singleton, List.append_assoc]
  have hseparates := Text.separates_lines hlines
  rwa [← hlisting, List.append_assoc] at hseparates

/-- Two listings without colors are the same exactly when they tell the same of the same executables in the same order,
whatever the names of these look like, as long as no line break is in them. A listing has one line for each entry, in
order, and a last one with the number of executables that return `@This` and the number of all of them. -/
theorem listing_is_unambiguous {r r' : Report} (h : ∀ e ∈ r.entries, e.Lacks '\n')
    (h' : ∀ e ∈ r'.entries, e.Lacks '\n') (marks marks' : Bool) :
    (r.listing false marks = r'.listing false marks' ↔
        r.entries.map Entry.shown = r'.entries.map Entry.shown) ∧
      Text.Separates '\n' (r.listing false marks).toList
        (r.entries.map (·.line false marks) ++
          [(toString (r.entries.countP (·.returnQualifier = some .receiver)) ++ " of " ++
            toString r.entries.length ++ " executables return @This").toList, []]) := by
  have hparts := separates_listing h marks
  have hparts' := separates_listing h' marks'
  refine ⟨⟨fun hsame => ?_, fun hsame => ?_⟩, r.summary_eq ▸ hparts⟩
  · rw [hsame] at hparts
    have hlines := (Text.separates_iff.1 hparts).trans (Text.separates_iff.1 hparts').symm
    exact (Entry.map_line_eq_iff marks marks').1 (List.append_inj_left' hlines rfl)
  · have hlines := (Entry.map_line_eq_iff marks marks').2 hsame
    rw [hlines, summary_of_shown hsame] at hparts
    exact String.toList_inj.1 (hparts.joined.symm.trans hparts'.joined)

/-- A name that looks like what follows a name, and a mark between owner and name that occurs in both. -/
theorem listing_is_unambiguous_disguised :
    let disguised : Report :=
      ⟨[⟨"a#b", "c  return=@This receiver=-  (Lombok)", .method, some "int", none, none, none⟩]⟩
    let regrouped : Report :=
      ⟨[⟨"a", "b#c  return=@This receiver=-  (Lombok)", .constructor, none, none, none, none⟩]⟩
    let recognized : Report := ⟨[⟨"a#b", "c", .method, some "int", some .receiver, none, some .lombok⟩]⟩
    (∀ r ∈ [disguised, regrouped, recognized], ∀ e ∈ r.entries, e.Lacks '\n') ∧
      disguised.listing false true = regrouped.listing false true ∧
      disguised.listing false true ≠ recognized.listing false true ∧
      Text.Separates '\n' (disguised.listing false true).toList
        ["a#b#c  return=@This receiver=-  (Lombok)  return=- receiver=-".toList,
          "0 of 1 executables return @This".toList, []] := by
  intro disguised regrouped recognized
  have hlacks : ∀ r ∈ [disguised, regrouped, recognized], ∀ e ∈ r.entries, e.Lacks '\n' := by decide
  have hdisguised := hlacks disguised (by simp)
  obtain ⟨hsame, hlines⟩ := listing_is_unambiguous hdisguised (hlacks regrouped (by simp)) true true
  obtain ⟨hother, _⟩ := listing_is_unambiguous hdisguised (hlacks recognized (by simp)) true true
  refine ⟨hlacks, hsame.2 (by decide), fun h => absurd (hother.1 h) (by decide), ?_⟩
  rw [Text.separates_iff] at hlines ⊢
  rw [← hlines]
  decide

end Report

end FluentThis
