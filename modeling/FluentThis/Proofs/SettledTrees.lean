import FluentThis.Proofs.HeldDocuments
import FluentThis.Proofs.WrittenIntegers
import FluentThis.Schema.Program
/-!
Trees that can be read whatever they are. Nothing in such a tree is cut, and no number in it is too large. Main
statements: whether a tree is one of them shows in the integers of the document that it holds, and a program is read as
JSON only from such a tree, so only from a text that is well formed to its end.
-/

namespace FluentThis

namespace Document

mutual

/-- Whether every integer in a document has a property. -/
def allIntegers (p : Int → Bool) : Document → Bool
  | integer i => p i
  | list ds => itemsIntegers p ds
  | table es => entriesIntegers p es
  | _ => true

def itemsIntegers (p : Int → Bool) : List Document → Bool
  | [] => true
  | d :: ds => allIntegers p d && itemsIntegers p ds

def entriesIntegers (p : Int → Bool) : List (String × Document) → Bool
  | [] => true
  | (_, d) :: es => allIntegers p d && entriesIntegers p es

end

section

variable {p q : Int → Bool}

theorem entriesIntegers_eq_all (p : Int → Bool) (es : List (String × Document)) :
    entriesIntegers p es = es.all fun e => e.2.allIntegers p := by
  induction es with
  | nil => rfl
  | cons e es ih => rw [entriesIntegers, ih, List.all_cons]

mutual

theorem allIntegers_imp (h : ∀ i, p i = true → q i = true) (d : Document) (hd : d.allIntegers p = true) :
    d.allIntegers q = true := by
  cases d with
  | integer i => exact h i hd
  | list ds => exact itemsIntegers_imp h ds hd
  | table es => exact entriesIntegers_imp h es hd
  | _ => rfl

theorem itemsIntegers_imp (h : ∀ i, p i = true → q i = true) (ds : List Document) (hds : itemsIntegers p ds = true) :
    itemsIntegers q ds = true := by
  cases ds with
  | nil => rfl
  | cons d ds =>
      rw [itemsIntegers, Bool.and_eq_true] at hds ⊢
      exact ⟨allIntegers_imp h d hds.1, itemsIntegers_imp h ds hds.2⟩

theorem entriesIntegers_imp (h : ∀ i, p i = true → q i = true) (es : List (String × Document))
    (hes : entriesIntegers p es = true) : entriesIntegers q es = true := by
  cases es with
  | nil => rfl
  | cons e es =>
      rw [entriesIntegers, Bool.and_eq_true] at hes ⊢
      exact ⟨allIntegers_imp h e.2 hes.1, entriesIntegers_imp h es hes.2⟩

end

end

end Document

theorem fits_mono {a b : Nat} (h : a ≤ b) {i : Int} (hi : fits a i = true) : fits b i = true := by
  have hsigned : twoTo (a - 1) ≤ twoTo (b - 1) := Nat.pow_le_pow_right (by decide) (by omega)
  have hunsigned : twoTo a ≤ twoTo b := Nat.pow_le_pow_right (by decide) h
  simp only [fits, fitsSigned, fitsUnsigned, Bool.or_eq_true, Bool.and_eq_true, decide_eq_true_eq] at hi ⊢
  omega

namespace DocumentFormat

/-- Whether what a format takes an integer for can be read whatever it is. -/
def settles : DocumentFormat → Int → Bool
  | json, _ => true
  | toml, i => fits 64 i

theorem TakesInteger.settled_iff {F : DocumentFormat} {i : Int} {n : Node} (h : F.TakesInteger i n) :
    Schema.settled n = .ok () ↔ F.settles i = true := by
  cases h with
  | json whole plain value =>
      refine iff_of_true ?_ rfl
      obtain ⟨j, rfl, hfits⟩ | ⟨y, rfl⟩ := Json.Numeral.integer_or_float whole plain value
      · rw [Schema.settled, if_pos hfits]
      · rfl
  | toml i =>
      rw [settles, Toml.integerNode]
      by_cases hfits : fits 64 i = true
      · rw [if_pos (fits_mono (by decide) hfits), Schema.settled, if_pos hfits]
        exact iff_of_true rfl hfits
      · refine iff_of_false ?_ hfits
        split
        · rw [Schema.settled, if_neg hfits]
          exact nofun
        · exact nofun

end DocumentFormat

namespace Schema

theorem bind_eq_ok_iff {α β : Type} {a : Except Fault α} {f : α → Except Fault β} {y : β} :
    (a >>= f) = .ok y ↔ ∃ x, a = .ok x ∧ f x = .ok y := by
  cases a with
  | error e => simp [bind, Except.bind]
  | ok x => simp [bind, Except.bind]

theorem then_eq_ok_iff {a b : Except Fault Unit} : (do a; b) = .ok () ↔ a = .ok () ∧ b = .ok () := by
  rw [bind_eq_ok_iff]
  exact ⟨fun ⟨_, ha, hb⟩ => ⟨ha, hb⟩, fun ⟨ha, hb⟩ => ⟨_, ha, hb⟩⟩

theorem ended_eq_ok_iff {ending : Ending} : ended ending = .ok () ↔ ending = .closed := by
  cases ending <;> simp [ended]

theorem settled_list_iff {ns : List Node} {ending : Ending} :
    settled (.list ns ending) = .ok () ↔ settledItems ns = .ok () ∧ ending = .closed := by
  rw [settled, then_eq_ok_iff, ended_eq_ok_iff]

theorem settled_table_iff {es : List (String × Node)} {ending : Ending} :
    settled (.table es ending) = .ok () ↔ settledEntries es = .ok () ∧ ending = .closed := by
  rw [settled, then_eq_ok_iff, ended_eq_ok_iff]

theorem settledItems_cons_iff {n : Node} {ns : List Node} :
    settledItems (n :: ns) = .ok () ↔ settled n = .ok () ∧ settledItems ns = .ok () := by
  rw [settledItems, then_eq_ok_iff]

theorem settledEntries_cons_iff {k : String} {n : Node} {es : List (String × Node)} :
    settledEntries ((k, n) :: es) = .ok () ↔ settled n = .ok () ∧ settledEntries es = .ok () := by
  rw [settledEntries, then_eq_ok_iff]

section holds

variable {F : DocumentFormat}

mutual

/-- A tree that holds a document can be read whatever it is if that is so for each integer in it. -/
theorem settled_iff_of_holds (n : Node) {d : Document} (h : n.Holds F d) :
    settled n = .ok () ↔ d.allIntegers F.settles = true := by
  cases h with
  | boolean b => simp [settled, Document.allIntegers]
  | integer taken =>
      rw [Document.allIntegers]
      exact taken.settled_iff
  | text s => simp [settled, Document.allIntegers]
  | @list ns ds items =>
      rw [settled_list_iff, Document.allIntegers, ← settledItems_iff_of_holds ns items]
      exact and_iff_left rfl
  | @table es ds ds' entries order keys =>
      -- all entries of the document are settled in whichever order they stand in the tree
      rw [settled_table_iff, Document.allIntegers, Document.entriesIntegers_eq_all, ← order.all_eq,
        ← Document.entriesIntegers_eq_all, ← settledEntries_iff_of_holds es entries]
      exact and_iff_left rfl

theorem settledItems_iff_of_holds (ns : List Node) {ds : List Document} (h : Node.HoldsItems F ns ds) :
    settledItems ns = .ok () ↔ Document.itemsIntegers F.settles ds = true := by
  cases h with
  | nil => simp [settledItems, Document.itemsIntegers]
  | @cons n d ns ds first rest =>
      rw [settledItems_cons_iff, Document.itemsIntegers, Bool.and_eq_true, settled_iff_of_holds n first,
        settledItems_iff_of_holds ns rest]

theorem settledEntries_iff_of_holds (es : List (String × Node)) {ds : List (String × Document)}
    (h : Node.HoldsEntries F es ds) :
    settledEntries es = .ok () ↔ Document.entriesIntegers F.settles ds = true := by
  cases h with
  | nil => simp [settledEntries, Document.entriesIntegers]
  | @cons k n d es ds first rest =>
      rw [settledEntries_cons_iff, Document.entriesIntegers, Bool.and_eq_true, settled_iff_of_holds n first,
        settledEntries_iff_of_holds es rest]

end

end holds

mutual

theorem isWhole_of_settled (n : Node) (h : settled n = .ok ()) : n.isWhole = true := by
  cases n with
  | list ns ending =>
      obtain ⟨hitems, rfl⟩ := settled_list_iff.1 h
      simp [Node.isWhole, allWhole_of_settled ns hitems]
  | table es ending =>
      obtain ⟨hentries, rfl⟩ := settled_table_iff.1 h
      simp [Node.isWhole, entriesWhole_of_settled es hentries]
  | cut => cases h
  | _ => rfl

theorem allWhole_of_settled (ns : List Node) (h : settledItems ns = .ok ()) : Node.allWhole ns = true := by
  cases ns with
  | nil => rfl
  | cons n ns =>
      obtain ⟨hfirst, hrest⟩ := settledItems_cons_iff.1 h
      simp [Node.allWhole, isWhole_of_settled n hfirst, allWhole_of_settled ns hrest]

theorem entriesWhole_of_settled (es : List (String × Node)) (h : settledEntries es = .ok ()) :
    Node.entriesWhole es = true := by
  cases es with
  | nil => rfl
  | cons e es =>
      obtain ⟨hfirst, hrest⟩ := settledEntries_cons_iff.1 h
      simp [Node.entriesWhole, isWhole_of_settled e.2 hfirst, entriesWhole_of_settled es hrest]

end

/-- What a decoder takes can be read whatever it is. -/
def TakesSettled {α : Type} (f : Node → Except Fault α) : Prop := ∀ ⦃n : Node⦄ ⦃a : α⦄, f n = .ok a → settled n = .ok ()

section decoders

variable {α β σ : Type} {f : Node → Except Fault α}

theorem TakesSettled.map (h : TakesSettled f) (set : α → β) : TakesSettled fun n => do return set (← f n) := by
  intro n b hb
  obtain ⟨a, ha, _⟩ := bind_eq_ok_iff.1 hb
  exact h ha

theorem takesSettled_text : TakesSettled text := by
  intro n s hs
  cases n <;> first | rfl | cases hs

theorem takesSettled_flag : TakesSettled flag := by
  intro n b hb
  cases n <;> first | rfl | cases hb

theorem TakesSettled.optional (h : TakesSettled f) : TakesSettled (optional f) := by
  intro n a ha
  have hthere : n ≠ .null → ∃ a, f n = .ok a := by
    intro hn
    have hmap : Schema.optional f n = (f n).map some := by
      cases n <;> first | rfl | exact absurd rfl hn
    rw [hmap] at ha
    cases hf : f n with
    | error e =>
        rw [hf] at ha
        cases ha
    | ok a => exact ⟨a, rfl⟩
  cases n with
  | null => rfl
  | _ =>
      obtain ⟨a, ha⟩ := hthere nofun
      exact h ha

theorem settled_of_unit {n : Node} {u : Unit} (h : unit .json n = .ok u) : settled n = .ok () := by
  cases n <;> first | rfl | cases h

theorem takesSettled_variant (variants : List (String × α)) : TakesSettled (variant .json variants) := by
  intro n a ha
  cases n with
  | text s => rfl
  | table es ending =>
      cases es with
      | nil => cases ha
      | cons e rest =>
          obtain ⟨k, n⟩ := e
          rw [variant] at ha
          obtain ⟨_, _, ha⟩ := bind_eq_ok_iff.1 ha
          obtain ⟨_, hunit, ha⟩ := bind_eq_ok_iff.1 ha
          have hn := settled_of_unit hunit
          cases rest with
          | nil =>
              obtain ⟨_, hended, _⟩ := bind_eq_ok_iff.1 ha
              exact settled_table_iff.2 ⟨settledEntries_cons_iff.2 ⟨hn, rfl⟩, ended_eq_ok_iff.1 hended⟩
          | cons e rest => cases ha
  | _ => cases ha

theorem TakesSettled.list (h : TakesSettled f) : TakesSettled (list f) := by
  have hitems : ∀ {ns : List Node} {as : List α}, ns.mapM f = .ok as → settledItems ns = .ok () := by
    intro ns
    induction ns with
    | nil => exact fun _ => rfl
    | cons n ns ih =>
        intro as has
        rw [List.mapM_cons] at has
        obtain ⟨a, ha, has⟩ := bind_eq_ok_iff.1 has
        obtain ⟨as, has, _⟩ := bind_eq_ok_iff.1 has
        exact settledItems_cons_iff.2 ⟨h ha, ih has⟩
  intro n as has
  cases n with
  | list ns ending =>
      obtain ⟨as, has, hrest⟩ := bind_eq_ok_iff.1 has
      obtain ⟨_, hended, _⟩ := bind_eq_ok_iff.1 hrest
      exact settled_list_iff.2 ⟨hitems has, ended_eq_ok_iff.1 hended⟩
  | _ => cases has

section records

variable {fields : List String} {step : String → Node → σ → Except Fault σ}

theorem settled_of_entries (hstep : ∀ k s, TakesSettled fun n => step k n s) {es : List (String × Node)}
    {seen : List String} {s s' : σ} (h : entries fields step es seen s = .ok s') : settledEntries es = .ok () := by
  induction es generalizing seen s with
  | nil => rfl
  | cons e es ih =>
      obtain ⟨k, n⟩ := e
      rw [entries] at h
      split at h
      · split at h
        · cases h
        · obtain ⟨s, hs, h⟩ := bind_eq_ok_iff.1 h
          exact settledEntries_cons_iff.2 ⟨hstep k _ hs, ih h⟩
      · cases h

/-- There is a field for each item of a list of which nothing is left over. -/
theorem settled_of_positions (hstep : ∀ k s, TakesSettled fun n => step k n s) {ns : List Node}
    {unfilled fields : List String} {s s' : σ} (h : positions step fields ns s = .ok (s', unfilled, [])) :
    settledItems ns = .ok () := by
  induction ns generalizing fields s with
  | nil => rfl
  | cons n ns ih =>
      cases fields with
      | nil => cases h
      | cons k fields =>
          rw [positions] at h
          obtain ⟨s, hs, h⟩ := bind_eq_ok_iff.1 h
          exact settledItems_cons_iff.2 ⟨hstep k _ hs, ih h⟩

theorem takesSettled_record (hstep : ∀ k s, TakesSettled fun n => step k n s) (label : String)
    (finish : Bool → σ → Except Fault α) (start : σ) :
    TakesSettled (record .json label fields step finish start) := by
  intro n a ha
  cases n with
  | table es ending =>
      obtain ⟨s, hs, ha⟩ := bind_eq_ok_iff.1 ha
      obtain ⟨_, hended, _⟩ := bind_eq_ok_iff.1 ha
      exact settled_table_iff.2 ⟨settled_of_entries hstep hs, ended_eq_ok_iff.1 hended⟩
  | list ns ending =>
      obtain ⟨⟨s, unfilled, extra⟩, hs, ha⟩ := bind_eq_ok_iff.1 ha
      dsimp only at ha
      cases extra with
      | nil =>
          -- the end of the list is looked at in any case, and once more if a field is missing
          have hended : ending = .closed := by
            split at ha
            · obtain ⟨_, _, ha⟩ := bind_eq_ok_iff.1 ha
              obtain ⟨_, hended, _⟩ := bind_eq_ok_iff.1 ha
              exact ended_eq_ok_iff.1 hended
            · obtain ⟨_, hended, _⟩ := bind_eq_ok_iff.1 ha
              exact ended_eq_ok_iff.1 hended
          exact settled_list_iff.2 ⟨settled_of_positions hstep hs, hended⟩
      | cons n extra =>
          split at ha
          · obtain ⟨_, _, ha⟩ := bind_eq_ok_iff.1 ha
            cases ha
          · obtain ⟨_, _, ha⟩ := bind_eq_ok_iff.1 ha
            obtain ⟨_, _, ha⟩ := bind_eq_ok_iff.1 ha
            cases ha
  | _ => cases ha

end records

end decoders

end Schema

theorem DeclaredAnnotation.takesSettled : Schema.TakesSettled decode := by
  intro n a ha
  obtain ⟨_, hsettled, _⟩ := Schema.bind_eq_ok_iff.1 ha
  exact hsettled

theorem DeclaredMethod.takesSettled : Schema.TakesSettled (decode .json) := by
  apply Schema.takesSettled_record
  intro k m
  unfold setField
  split
  · exact Schema.takesSettled_text.map _
  · exact (Schema.takesSettled_variant _).map _
  · exact Schema.takesSettled_flag.map _
  · exact Schema.takesSettled_text.map _
  · exact (Schema.takesSettled_variant _).optional.map _
  · exact DeclaredAnnotation.takesSettled.list.map _

theorem DeclaredType.takesSettled : Schema.TakesSettled (decode .json) := by
  apply Schema.takesSettled_record
  intro k t
  unfold setField
  split
  · exact Schema.takesSettled_text.map fun x => (true, { t.2 with name := x })
  · exact (Schema.takesSettled_variant _).map _
  · exact Schema.takesSettled_text.optional.map _
  · exact DeclaredAnnotation.takesSettled.list.map _
  · exact DeclaredMethod.takesSettled.list.map _

theorem Source.takesSettled : Schema.TakesSettled (decode .json) := by
  apply Schema.takesSettled_record
  intro k s
  exact DeclaredType.takesSettled.list.map _

/-- A program is read only from a JSON text that is well formed to its end. -/
theorem Source.isWhole_of_ofJson {json : String} {source : Source} (h : ofJson json = .ok source) :
    (Json.read json).isWhole = true := by
  obtain ⟨s, hs, hend⟩ := Schema.bind_eq_ok_iff.1 h
  rw [Json.Reading.isWhole, Schema.isWhole_of_settled _ (takesSettled hs)]
  cases htrailing : (Json.read json).trailing with
  | false => rfl
  | true =>
      rw [htrailing] at hend
      cases hend

end FluentThis
