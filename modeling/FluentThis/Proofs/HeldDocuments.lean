import FluentThis.Document.Basic
import FluentThis.Json.Number
import FluentThis.Schema.Decoder
import FluentThis.Toml.Scalar
import Mathlib.Data.List.Forall2
import Mathlib.Data.List.Nodup
import Mathlib.Data.List.Perm.Basic
/-!
Documents apart from how they are written. A tree holds a document if it has the same values in the same places, where
the formats have values of their own for integers; the entries of a table may stand in any order, and no key stands there
twice. Two decoders agree if they read the same from all trees that hold one document, or both read nothing. Main
statement: records agree whose fields do, since what each field sets does not depend on the others.
-/

namespace FluentThis

/-- The value of a written number as an integer, if it has no fraction and no exponent. -/
def Json.Numeral.integer (x : Numeral) : Int :=
  if x.negative then -(Text.natOfDigits x.whole : Int) else Text.natOfDigits x.whole

/-- What a format takes an integer for. To JSON it is a float if 64 bits do not hold it, and so is minus zero; TOML has no
value for an integer that 128 bits do not hold. -/
inductive DocumentFormat.TakesInteger : DocumentFormat → Int → Node → Prop where
  | json {x : Json.Numeral} {n : Node} (whole : x.fraction = none) (plain : x.exponent = none)
      (value : x.value? = some n) : TakesInteger .json x.integer n
  | toml (i : Int) : TakesInteger .toml i (Toml.integerNode i)

mutual

/-- A tree of a format holds a document of truth values, integers, texts, lists and tables without repeated keys. A tree
with anything else in it holds none. -/
inductive Node.Holds (F : DocumentFormat) : Node → Document → Prop where
  | boolean (b : Bool) : Holds F (.boolean b) (.boolean b)
  | integer {i : Int} {n : Node} (taken : F.TakesInteger i n) : Holds F n (.integer i)
  | text (s : String) : Holds F (.text s) (.text s)
  | list {ns : List Node} {ds : List Document} (items : HoldsItems F ns ds) : Holds F (.list ns .closed) (.list ds)
  | table {es : List (String × Node)} {ds ds' : List (String × Document)} (entries : HoldsEntries F es ds')
      (order : ds'.Perm ds) (keys : (ds.map Prod.fst).Nodup) : Holds F (.table es .closed) (.table ds)

inductive Node.HoldsItems (F : DocumentFormat) : List Node → List Document → Prop where
  | nil : HoldsItems F [] []
  | cons {n : Node} {d : Document} {ns : List Node} {ds : List Document} (first : Holds F n d)
      (rest : HoldsItems F ns ds) : HoldsItems F (n :: ns) (d :: ds)

inductive Node.HoldsEntries (F : DocumentFormat) : List (String × Node) → List (String × Document) → Prop where
  | nil : HoldsEntries F [] []
  | cons (k : String) {n : Node} {d : Document} {es : List (String × Node)} {ds : List (String × Document)}
      (first : Holds F n d) (rest : HoldsEntries F es ds) : HoldsEntries F ((k, n) :: es) ((k, d) :: ds)

end

namespace Document

/-- The items of a list; there are none in any other document. -/
def items : Document → List Document
  | list ds => ds
  | _ => []

/-- The entries of a table; there are none in any other document. -/
def entries : Document → List (String × Document)
  | table es => es
  | _ => []

def IsList (d : Document) : Prop := ∃ ds, d = list ds

def IsTable (d : Document) : Prop := ∃ es, d = table es

end Document

namespace Node

inductive IsNumber : Node → Prop where
  | integer (i : Int) : IsNumber (.integer i)
  | hugeInteger : IsNumber .hugeInteger
  | float (x : Binary64) : IsNumber (.float x)

variable {F : DocumentFormat}

theorem holdsEntries_iff_forall₂ {es : List (String × Node)} {ds : List (String × Document)} :
    HoldsEntries F es ds ↔ List.Forall₂ (fun e d => e.1 = d.1 ∧ e.2.Holds F d.2) es ds := by
  refine ⟨fun h => ?_, fun h => ?_⟩
  · induction es generalizing ds with
    | nil =>
        cases h
        exact .nil
    | cons e es ih =>
        cases h with
        | cons k first rest => exact .cons ⟨rfl, first⟩ (ih rest)
  · induction h with
    | nil => exact .nil
    | @cons e d es ds first _ ih =>
        obtain ⟨k, n⟩ := e
        obtain ⟨_, d⟩ := d
        obtain ⟨rfl, hd⟩ := first
        exact .cons k hd ih

theorem HoldsEntries.map_fst {es : List (String × Node)} {ds : List (String × Document)} (h : HoldsEntries F es ds) :
    es.map Prod.fst = ds.map Prod.fst := by
  have hkeys := (holdsEntries_iff_forall₂.1 h).imp fun _ _ hd => hd.1
  rw [← List.forall₂_eq_eq_eq, List.forall₂_map_left_iff, List.forall₂_map_right_iff]
  exact hkeys

/-- Entries can be put into any order in which a document may have them. -/
theorem HoldsEntries.reorder {es : List (String × Node)} {ds ds' : List (String × Document)}
    (h : HoldsEntries F es ds) (hp : ds.Perm ds') : ∃ es', es.Perm es' ∧ HoldsEntries F es' ds' := by
  have hcomp : Relation.Comp (List.Forall₂ fun (e : String × Node) (d : String × Document) =>
      e.1 = d.1 ∧ e.2.Holds F d.2) List.Perm es ds' := ⟨ds, holdsEntries_iff_forall₂.1 h, hp⟩
  rw [List.forall₂_comp_perm_eq_perm_comp_forall₂] at hcomp
  obtain ⟨es', hes, hds⟩ := hcomp
  exact ⟨es', hes, holdsEntries_iff_forall₂.2 hds⟩

end Node

/-- An integer in a JSON text is one that 64 bits hold, or a float. -/
theorem Json.Numeral.integer_or_float {x : Numeral} {n : Node} (whole : x.fraction = none) (plain : x.exponent = none)
    (h : x.value? = some n) : (∃ i, n = .integer i ∧ fits 64 i = true) ∨ ∃ y, n = .float y := by
  rw [value?, whole, plain] at h
  dsimp only at h
  split at h
  · next hfits =>
      rw [Bool.and_eq_true] at hfits
      cases h
      exact .inl ⟨_, rfl, by simp [fits, hfits.2]⟩
  · split at h
    · next hfits =>
        rw [Bool.and_eq_true] at hfits
        cases h
        exact .inl ⟨_, rfl, by simp [fits, hfits.2]⟩
    · obtain ⟨y, _, rfl⟩ := Option.map_eq_some_iff.1 h
      exact .inr ⟨y, rfl⟩

theorem DocumentFormat.TakesInteger.isNumber {F : DocumentFormat} {i : Int} {n : Node} (h : F.TakesInteger i n) :
    n.IsNumber := by
  cases h with
  | json whole plain value =>
      obtain ⟨j, rfl, _⟩ | ⟨y, rfl⟩ := Json.Numeral.integer_or_float whole plain value
      · exact .integer j
      · exact .float y
  | toml i =>
      unfold Toml.integerNode
      split
      · exact .integer i
      · exact .hugeInteger

namespace Schema

variable {α β σ : Type}

theorem toOption_bind (a : Except Fault α) (f : α → Except Fault β) :
    (a >>= f).toOption = a.toOption.bind fun x => (f x).toOption := by
  cases a <;> rfl

theorem toOption_eq_some_iff {a : Except Fault α} {x : α} : a.toOption = some x ↔ a = .ok x := by
  cases a <;> simp [Except.toOption]

/-- Two decoders read the same from all trees of two formats that hold one document with the property `P`, or both read
nothing. -/
def Agree (F G : DocumentFormat) (P : Document → Prop) (f g : Node → Except Fault α) : Prop :=
  ∀ ⦃n m : Node⦄ ⦃d : Document⦄, n.Holds F d → m.Holds G d → P d → (f n).toOption = (g m).toOption

section decoders

variable {F G : DocumentFormat}

theorem Agree.imp {P Q : Document → Prop} {f g : Node → Except Fault α} (h : Agree F G P f g) (hQ : ∀ d, Q d → P d) :
    Agree F G Q f g :=
  fun _ _ _ hn hm hd => h hn hm (hQ _ hd)

/-- What is made of the values in the same way agrees. -/
theorem Agree.map {P : Document → Prop} {f g : Node → Except Fault α} (h : Agree F G P f g) (set : α → β) :
    Agree F G P (fun n => do return set (← f n)) (fun n => do return set (← g n)) := by
  intro n m d hn hm hd
  rw [toOption_bind, toOption_bind, h hn hm hd]

/-- A decoder that takes no number, as none of those here does. -/
def RefusesNumbers (f : Node → Except Fault α) : Prop := ∀ ⦃n : Node⦄, n.IsNumber → (f n).toOption = none

theorem RefusesNumbers.eq {f g : Node → Except Fault α} (hf : RefusesNumbers f) (hg : RefusesNumbers g) {i : Int}
    {n m : Node} (hn : F.TakesInteger i n) (hm : G.TakesInteger i m) : (f n).toOption = (g m).toOption := by
  rw [hf hn.isNumber, hg hm.isNumber]

theorem refusesNumbers_text : RefusesNumbers text := by
  rintro n (_ | _ | _) <;> rfl

theorem refusesNumbers_flag : RefusesNumbers flag := by
  rintro n (_ | _ | _) <;> rfl

theorem refusesNumbers_variant (S : DocumentFormat) (variants : List (String × α)) :
    RefusesNumbers (variant S variants) := by
  rintro n (_ | _ | _) <;> cases S <;> rfl

theorem refusesNumbers_list (f : Node → Except Fault α) : RefusesNumbers (list f) := by
  rintro n (_ | _ | _) <;> rfl

theorem refusesNumbers_record (S : DocumentFormat) (label : String) (fields : List String)
    (step : String → Node → σ → Except Fault σ) (finish : Bool → σ → Except Fault α) (start : σ) :
    RefusesNumbers (record S label fields step finish start) := by
  rintro n (_ | _ | _) <;> rfl

theorem agree_text (P : Document → Prop) : Agree F G P text text := by
  intro n m d hn hm _
  cases hn with
  | integer hi =>
      cases hm with
      | integer hi' => exact refusesNumbers_text.eq refusesNumbers_text hi hi'
  | _ =>
      cases hm
      rfl

theorem agree_flag (P : Document → Prop) : Agree F G P flag flag := by
  intro n m d hn hm _
  cases hn with
  | integer hi =>
      cases hm with
      | integer hi' => exact refusesNumbers_flag.eq refusesNumbers_flag hi hi'
  | _ =>
      cases hm
      rfl

theorem Agree.optional {P : Document → Prop} {f g : Node → Except Fault α} (h : Agree F G P f g) :
    Agree F G P (optional f) (optional g) := by
  have hmap (a : Except Fault α) : (a.map some).toOption = a.toOption.map some := by
    cases a <;> rfl
  have hthere {F : DocumentFormat} {n : Node} {d : Document} (hn : n.Holds F d) (f : Node → Except Fault α) :
      Schema.optional f n = (f n).map some := by
    cases hn with
    | integer hi => cases hi.isNumber <;> rfl
    | _ => rfl
  intro n m d hn hm hd
  rw [hthere hn, hthere hm, hmap, hmap, h hn hm hd]

/-- The formats read the name of a variant alike. They differ where it is written as a table. -/
theorem agree_variant (S T : DocumentFormat) (variants : List (String × α)) :
    Agree F G (fun d => ¬d.IsTable) (variant S variants) (variant T variants) := by
  intro n m d hn hm hd
  cases hn with
  | table entries order keys => exact absurd ⟨_, rfl⟩ hd
  | text s =>
      cases hm
      rfl
  | integer hi =>
      cases hm with
      | integer hi' => exact (refusesNumbers_variant S variants).eq (refusesNumbers_variant T variants) hi hi'
  | _ =>
      cases hm
      cases S <;> cases T <;> rfl

theorem Agree.list {P : Document → Prop} {f g : Node → Except Fault α} (h : Agree F G P f g) :
    Agree F G (fun d => ∀ i ∈ d.items, P i) (list f) (list g) := by
  have hitems : ∀ {ds : List Document} {ns ms : List Node}, Node.HoldsItems F ns ds → Node.HoldsItems G ms ds →
      (∀ i ∈ ds, P i) → (ns.mapM f).toOption = (ms.mapM g).toOption := by
    intro ds
    induction ds with
    | nil =>
        intro ns ms hns hms _
        cases hns
        cases hms
        rfl
    | cons d ds ih =>
        intro ns ms hns hms hP
        cases hns with
        | cons hn hns =>
            cases hms with
            | cons hm hms =>
                simp only [List.mapM_cons, toOption_bind, h hn hm (hP d List.mem_cons_self),
                  ih hns hms fun i hi => hP i (List.mem_cons_of_mem _ hi)]
  intro n m d hn hm hP
  cases hn with
  | list hns =>
      cases hm with
      | list hms =>
          rw [Schema.list, Schema.list, toOption_bind, toOption_bind, hitems hns hms hP]
  | integer hi =>
      cases hm with
      | integer hi' => exact (refusesNumbers_list f).eq (refusesNumbers_list g) hi hi'
  | _ =>
      cases hm
      rfl

end decoders

/-- Setting one field of a record does not depend on whether another one has been set. -/
def Independent (fields : List String) (step : String → Node → σ → Except Fault σ) : Prop :=
  ∀ k ∈ fields, ∀ k' ∈ fields, k ≠ k' → ∀ n n' s,
    ((step k n s).toOption.bind fun s => (step k' n' s).toOption) =
      (step k' n' s).toOption.bind fun s => (step k n s).toOption

/-- The next entry of a table whose keys differ, where `none` stands for a record that cannot be read. -/
def takeEntry (fields : List String) (step : String → Node → σ → Except Fault σ) (s : Option σ) (e : String × Node) :
    Option σ :=
  s.bind fun s => if e.1 ∈ fields then (step e.1 e.2 s).toOption else none

section records

variable {F G : DocumentFormat} {fields : List String} {f g : String → Node → σ → Except Fault σ}

theorem foldl_takeEntry_none (es : List (String × Node)) : es.foldl (takeEntry fields f) none = none := by
  induction es with
  | nil => rfl
  | cons e es ih => exact ih

/-- Where no key stands twice, entries are read one after the other. -/
theorem toOption_entries {es : List (String × Node)} {seen : List String} (s : σ)
    (hk : (es.map Prod.fst).Nodup) (hseen : ∀ k ∈ es.map Prod.fst, k ∉ seen) :
    (entries fields f es seen s).toOption = es.foldl (takeEntry fields f) (some s) := by
  induction es generalizing seen s with
  | nil => rfl
  | cons e es ih =>
      obtain ⟨k, n⟩ := e
      rw [List.map_cons, List.nodup_cons] at hk
      have hnew : k ∉ seen := hseen k List.mem_cons_self
      rw [entries, List.foldl_cons, if_neg hnew]
      by_cases hknown : k ∈ fields
      · have htake : takeEntry fields f (some s) (k, n) = (f k n s).toOption := by
          rw [takeEntry, Option.bind_some, if_pos hknown]
        rw [if_pos hknown, toOption_bind, htake]
        cases f k n s with
        | error e => exact (foldl_takeEntry_none es).symm
        | ok s' =>
            refine ih s' hk.2 fun k' hk' => ?_
            rw [List.mem_cons, not_or]
            refine ⟨?_, hseen k' (List.mem_cons_of_mem _ hk')⟩
            rintro rfl
            exact hk.1 hk'
      · have htake : takeEntry fields f (some s) (k, n) = none := by
          rw [takeEntry, Option.bind_some, if_neg hknown]
        rw [if_neg hknown, htake, foldl_takeEntry_none]
        rfl

/-- The order of the entries makes no difference to what they set. -/
theorem foldl_takeEntry_perm (hi : Independent fields f) {es es' : List (String × Node)} (hp : es.Perm es')
    (hk : (es.map Prod.fst).Nodup) (s : Option σ) :
    es.foldl (takeEntry fields f) s = es'.foldl (takeEntry fields f) s := by
  refine hp.foldl_eq' (fun x hx y hy s => ?_) s
  by_cases hxy : x.1 = y.1
  · rw [List.inj_on_of_nodup_map hk hx hy hxy]
  · cases s with
    | none => rfl
    | some s =>
        simp only [takeEntry, Option.bind_some]
        by_cases hxf : x.1 ∈ fields
        · by_cases hyf : y.1 ∈ fields
          · simp only [hxf, hyf, if_true]
            exact hi x.1 hxf y.1 hyf hxy x.2 y.2 s
          · simp [hyf]
        · simp [hxf]

theorem foldl_takeEntry_congr {P : String → Document → Prop}
    (hfg : ∀ k ∈ fields, ∀ s, Agree F G (P k) (fun n => f k n s) fun n => g k n s) {ds : List (String × Document)}
    {es es' : List (String × Node)} (he : Node.HoldsEntries F es ds) (he' : Node.HoldsEntries G es' ds)
    (hP : ∀ d ∈ ds, P d.1 d.2) (s : Option σ) :
    es.foldl (takeEntry fields f) s = es'.foldl (takeEntry fields g) s := by
  induction ds generalizing es es' s with
  | nil =>
      cases he
      cases he'
      rfl
  | cons d ds ih =>
      cases he with
      | @cons k n _ _ _ hn he =>
          cases he' with
          | @cons _ m _ _ _ hm he' =>
              have hfirst : takeEntry fields f s (k, n) = takeEntry fields g s (k, m) := by
                cases s with
                | none => rfl
                | some s =>
                    simp only [takeEntry, Option.bind_some]
                    split
                    · next hk => exact hfg k hk s hn hm (hP _ List.mem_cons_self)
                    · rfl
              rw [List.foldl_cons, List.foldl_cons, hfirst]
              exact ih he he' (fun d hd => hP d (List.mem_cons_of_mem _ hd)) _

/-- Records agree whose fields do. The formats differ where a record is written as a list. -/
theorem agree_record {P : String → Document → Prop} {S T : DocumentFormat} {label : String}
    {finish : Bool → σ → Except Fault α} {start : σ}
    (hfg : ∀ k ∈ fields, ∀ s, Agree F G (P k) (fun n => f k n s) fun n => g k n s) (hi : Independent fields f) :
    Agree F G (fun d => ¬d.IsList ∧ ∀ e ∈ d.entries, P e.1 e.2)
      (record S label fields f finish start) (record T label fields g finish start) := by
  intro n m d hn hm hd
  obtain ⟨hlist, hP⟩ := hd
  cases hn with
  | list items => exact absurd ⟨_, rfl⟩ hlist
  | @table es ds ds₁ hes horder hkeys =>
      cases hm with
      | @table fs _ ds₂ hfs horder' _ =>
          -- the entries of one tree are put into the order of the other, and then read side by side
          obtain ⟨es', hes', hheld⟩ := hes.reorder (horder.trans horder'.symm)
          have hkes : (es.map Prod.fst).Nodup := by
            rw [hes.map_fst]
            exact (horder.map _).nodup_iff.2 hkeys
          have hkfs : (fs.map Prod.fst).Nodup := by
            rw [hfs.map_fst]
            exact (horder'.map _).nodup_iff.2 hkeys
          have hsame : es.foldl (takeEntry fields f) (some start) = fs.foldl (takeEntry fields g) (some start) :=
            calc
              es.foldl (takeEntry fields f) (some start) = es'.foldl (takeEntry fields f) (some start) :=
                foldl_takeEntry_perm hi hes' hkes _
              _ = fs.foldl (takeEntry fields g) (some start) :=
                foldl_takeEntry_congr hfg hheld hfs (fun d hd => hP d (horder'.subset hd)) _
          rw [record, record, toOption_bind, toOption_bind,
            toOption_entries start hkes fun _ _ => List.not_mem_nil,
            toOption_entries start hkfs fun _ _ => List.not_mem_nil, hsame]
  | integer hi =>
      cases hm with
      | integer hi' =>
          exact (refusesNumbers_record S label fields f finish start).eq
            (refusesNumbers_record T label fields g finish start) hi hi'
  | _ =>
      cases hm
      rfl

end records

end Schema

end FluentThis
