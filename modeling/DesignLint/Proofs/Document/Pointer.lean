import DesignLint.Proofs.Document.Path
import DesignLint.Proofs.Index.Walk
import Mathlib.Data.Option.Basic
import Std.Data.String.ToNat

/-! # JSON pointers -/

namespace DesignLint.Json

/-! ## Following a pointer -/

/-- A token with its escapes undone: `~1` stands for a slash and `~0` for a tilde. -/
def unescaped : List Char → List Char
  | '~' :: '1' :: rest => '/' :: unescaped rest
  | '~' :: '0' :: rest => '~' :: unescaped rest
  | c :: rest => c :: unescaped rest
  | [] => []

/-- The tokens of a pointer. A text that is not empty and starts with no slash is no pointer. -/
def tokens? (pointer : String) : Option (List String) :=
  match pointer.toList.splitOn '/' with
  | [] :: tokens => some (tokens.map fun t => String.ofList (unescaped t))
  | _ => none

/-- The place that a token names, in digits and without leading zeros. -/
def placeOf? (token : String) : Option Nat := token.toNat?.filter fun i => toString i = token

def named? (v : Json) (token : String) : Option Json :=
  match v with
  | obj fields => Keyed.get? fields token
  | arr items => (placeOf? token).bind fun i => items[i]?
  | _ => none

def follow? (v : Json) : List String → Option Json
  | [] => some v
  | token :: rest => (v.named? token).bind fun w => follow? w rest

def resolve? (v : Json) (pointer : String) : Option Json := (tokens? pointer).bind v.follow?

/-! ## Tokens of a pointer -/

theorem unescaped_eq_self {l : List Char} (h : '~' ∉ l) : unescaped l = l := by
  induction l with
  | nil => rfl
  | cons c rest ih =>
    have hc : c ≠ '~' := fun hc => h (hc ▸ List.mem_cons_self)
    have hrest := ih fun hrest => h (List.mem_cons_of_mem _ hrest)
    rw [unescaped, hrest] <;> simp [hc]

def IsPlain (token : String) : Prop := '/' ∉ token.toList ∧ '~' ∉ token.toList

def ofTokens (tokens : List String) : String :=
  String.ofList (tokens.flatMap fun t => '/' :: t.toList)

theorem intercalate_nil_cons (l : List (List Char)) :
    ['/'].intercalate ([] :: l) = l.flatMap fun t => '/' :: t := by
  have hcons : ∀ t rest, ['/'].intercalate (t :: rest) = t ++ rest.flatMap fun u => '/' :: u := by
    intro t rest
    induction rest generalizing t with
    | nil => simp [List.intercalate]
    | cons u rest ih => simpa [List.intercalate] using ih u
  exact hcons [] l

theorem tokens?_ofTokens {tokens : List String} (h : ∀ t ∈ tokens, IsPlain t) :
    tokens? (ofTokens tokens) = some tokens := by
  have hsplit : (ofTokens tokens).toList.splitOn '/' = [] :: tokens.map String.toList := by
    have htext : (ofTokens tokens).toList = ['/'].intercalate ([] :: tokens.map String.toList) := by
      rw [intercalate_nil_cons, ofTokens, String.toList_ofList, List.flatMap_map]
    rw [htext]
    refine List.splitOn_intercalate _ ?_ (List.cons_ne_nil _ _)
    simpa using fun t ht => (h t ht).1
  rw [tokens?, hsplit, Option.some.injEq, List.map_map]
  refine (List.map_congr_left fun t ht => ?_).trans (List.map_id tokens)
  rw [Function.comp_apply, unescaped_eq_self (h t ht).2, String.ofList_toList, id_eq]

/-! ## Pointers of paths -/

def tokensBelow (steps : List Nat) : List String := steps.flatMap fun j => ["layers", toString j]

def tokensTo : List Nat → List String
  | [] => []
  | i :: steps => "pages" :: toString i :: tokensBelow steps

theorem tokensBelow_cons (j : Nat) (steps : List Nat) :
    tokensBelow (j :: steps) = "layers" :: toString j :: tokensBelow steps := rfl

theorem ofTokens_cons (t : String) (tokens : List String) :
    ofTokens (t :: tokens) = "/" ++ t ++ ofTokens tokens := by
  apply String.toList_injective
  simp [ofTokens]

theorem pointerBelow_eq (base : String) (steps : List Nat) :
    pointerBelow base steps = base ++ ofTokens (tokensBelow steps) := by
  induction steps generalizing base with
  | nil => simp [pointerBelow, tokensBelow, ofTokens]
  | cons j rest ih =>
    rw [pointerBelow, List.foldl_cons, ← pointerBelow, ih, tokensBelow_cons, ofTokens_cons,
      ofTokens_cons]
    simp only [String.append_assoc]
    rfl

theorem pointerTo_eq {path : List Nat} (h : path ≠ []) :
    pointerTo path = ofTokens (tokensTo path) := by
  cases path with
  | nil => exact absurd rfl h
  | cons i steps =>
    rw [pointerTo, pointerFrom, pointerBelow_eq, tokensTo, ofTokens_cons, ofTokens_cons]
    simp only [String.append_assoc]
    rfl

theorem isDigit_of_mem_toString {i : Nat} {c : Char} (hc : c ∈ (toString i).toList) :
    c.isDigit = true := by
  rw [Nat.toString_eq_repr, Nat.repr, String.toList_ofList] at hc
  exact Nat.isDigit_of_mem_toDigits (by decide) (by decide) hc

theorem isPlain_toString (i : Nat) : IsPlain (toString i) :=
  ⟨fun h => absurd (isDigit_of_mem_toString h) (by decide),
    fun h => absurd (isDigit_of_mem_toString h) (by decide)⟩

theorem isPlain_of_mem_tokensTo {path : List Nat} : ∀ t ∈ tokensTo path, IsPlain t := by
  have hpages : IsPlain "pages" := ⟨by decide, by decide⟩
  have hlayers : IsPlain "layers" := ⟨by decide, by decide⟩
  intro t ht
  cases path with
  | nil => cases ht
  | cons i steps =>
    simp only [tokensTo, tokensBelow, List.mem_cons, List.mem_flatMap, List.not_mem_nil,
      or_false] at ht
    rcases ht with rfl | rfl | ⟨j, -, rfl | rfl⟩
    · exact hpages
    · exact isPlain_toString i
    · exact hlayers
    · exact isPlain_toString j

theorem tokens?_pointerTo {path : List Nat} (h : path ≠ []) :
    tokens? (pointerTo path) = some (tokensTo path) := by
  rw [pointerTo_eq h, tokens?_ofTokens isPlain_of_mem_tokensTo]

/-! ## Pointers of different paths -/

theorem tokensBelow_injective : Function.Injective tokensBelow := by
  intro l
  induction l with
  | nil =>
    rintro (_ | ⟨j, m⟩) h
    · rfl
    · cases h
  | cons i l ih =>
    rintro (_ | ⟨j, m⟩) h
    · cases h
    · simp only [tokensBelow_cons, List.cons.injEq, true_and] at h
      rw [Nat.repr_injective h.1, ih h.2]

theorem tokensTo_injective : Function.Injective tokensTo := by
  rintro (_ | ⟨i, l⟩) (_ | ⟨j, m⟩) h
  · rfl
  · cases h
  · cases h
  · simp only [tokensTo, List.cons.injEq, true_and] at h
    rw [Nat.repr_injective h.1, tokensBelow_injective h.2]

theorem eq_of_pointerTo {p q : List Nat} (hp : p ≠ []) (hq : q ≠ [])
    (h : pointerTo p = pointerTo q) : p = q := by
  have htokens := tokens?_pointerTo hp
  rw [h, tokens?_pointerTo hq, Option.some.injEq] at htokens
  exact tokensTo_injective htokens.symm

/-! ## Where pointers lead -/

theorem placeOf?_toString (i : Nat) : placeOf? (toString i) = some i := by
  have hread : (toString i).toNat? = some i := Nat.toNat?_repr i
  rw [placeOf?, hread]
  simp

theorem follow?_of_itemsUnder {v w : Json} {key : String} {i : Nat} {rest : List String}
    (h : (v.itemsUnder key)[i]? = some w) :
    v.follow? (key :: toString i :: rest) = w.follow? rest := by
  have hplace := placeOf?_toString i
  unfold itemsUnder field? at h
  split at h
  · rename_i items hitems
    cases v with
    | obj fields =>
      simp only at hitems
      simp only [follow?, named?, hitems, Option.bind_some, hplace, h]
    | _ => cases hitems
  · cases h

theorem follow?_tokensBelow {v w : Json} {steps : List Nat} (h : v.layerBelow? steps = some w) :
    v.follow? (tokensBelow steps) = some w := by
  induction steps generalizing v with
  | nil => exact h
  | cons j rest ih =>
    obtain ⟨u, hu, h⟩ := Option.bind_eq_some_iff.mp h
    rw [tokensBelow_cons, follow?_of_itemsUnder hu]
    exact ih h

/-- The pointer to a path leads to the value at that path. -/
theorem resolve?_pointerTo {v w : Json} {path : List Nat} (h : v.layerAt? path = some w) :
    v.resolve? (pointerTo path) = some w := by
  cases path with
  | nil => cases h
  | cons i steps =>
    obtain ⟨u, hu, h⟩ := Option.bind_eq_some_iff.mp h
    rw [resolve?, tokens?_pointerTo (List.cons_ne_nil _ _), Option.bind_some, tokensTo,
      follow?_of_itemsUnder hu]
    exact follow?_tokensBelow h

end DesignLint.Json
