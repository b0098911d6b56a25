import FluentThis.Json.Number
import FluentThis.Json.Text
/-!
The tokens of a JSON text. A text that is no sequence of tokens gives those in front of the first place that cannot
be read, and then the token `bad`.
-/

namespace FluentThis.Json

/-- A bracket, a separator, a whole value, or a place that cannot be read. -/
inductive Token where
  | scalar (value : Node)
  | openList
  | closeList
  | openTable
  | closeTable
  | comma
  | colon
  | bad
  deriving Repr

namespace Token

/-- The characters that may stand between tokens. -/
def isSpace (c : Char) : Bool := c == ' ' || c == '\n' || c == '\t' || c == '\r'

/-- The tokens of one fixed character. -/
def ofChar? : Char → Option Token
  | '[' => some openList
  | ']' => some closeList
  | '{' => some openTable
  | '}' => some closeTable
  | ',' => some comma
  | ':' => some colon
  | _ => none

def keyword? : List Char → Option (Node × List Char)
  | 't' :: 'r' :: 'u' :: 'e' :: r => some (.boolean true, r)
  | 'f' :: 'a' :: 'l' :: 's' :: 'e' :: r => some (.boolean false, r)
  | 'n' :: 'u' :: 'l' :: 'l' :: r => some (.null, r)
  | _ => none

/-- A text, a named value or a number at the start of `cs`. -/
def scalar? (cs : List Char) : Option (Node × List Char) :=
  match cs with
  | '"' :: r => (readText r).map fun (t, r) => (.text (String.ofList t), r)
  | _ =>
    match keyword? cs with
    | some found => some found
    | none => (Numeral.read cs).bind fun (x, r) => x.value?.map (·, r)

theorem length_keyword?_lt {cs r : List Char} {n : Node} (h : keyword? cs = some (n, r)) :
    r.length < cs.length := by
  unfold keyword? at h
  split at h <;> simp at h <;> simp [← h.2] <;> omega

theorem length_scalar?_lt {cs r : List Char} {n : Node} (h : scalar? cs = some (n, r)) :
    r.length < cs.length := by
  unfold scalar? at h
  split at h
  · obtain ⟨⟨t, s⟩, ht, h⟩ := Option.map_eq_some_iff.1 h
    have := length_readText_lt ht
    simp only [Prod.mk.injEq] at h
    simp only [← h.2, List.length_cons]
    omega
  · split at h
    · next found hk =>
      simp only [Option.some.injEq] at h
      exact length_keyword?_lt (h ▸ hk)
    · obtain ⟨⟨x, s⟩, hx, h⟩ := Option.bind_eq_some_iff.1 h
      obtain ⟨_, _, h⟩ := Option.map_eq_some_iff.1 h
      have := Numeral.length_read_lt hx
      simp only [Prod.mk.injEq] at h
      simpa [← h.2] using this

def ofChars (cs : List Char) : List Token :=
  match cs with
  | [] => []
  | c :: r =>
    if isSpace c then ofChars r
    else
      match ofChar? c with
      | some t => t :: ofChars r
      | none =>
        match h : scalar? (c :: r) with
        | some (n, s) =>
          have : s.length < r.length + 1 := length_scalar?_lt h
          scalar n :: ofChars s
        | none => [bad]
termination_by cs.length

theorem ofChars_nil : ofChars [] = [] := by rw [ofChars]

theorem ofChars_space {c : Char} (h : isSpace c = true) (r : List Char) : ofChars (c :: r) = ofChars r := by
  rw [ofChars, if_pos h]

theorem ofChars_mark {c : Char} {t : Token} (h : ofChar? c = some t) (r : List Char) :
    ofChars (c :: r) = t :: ofChars r := by
  have hs : isSpace c = false := by
    unfold ofChar? at h
    split at h <;> simp_all [isSpace]
  rw [ofChars, if_neg (by simp [hs]), h]

end Token

end FluentThis.Json
