import DesignLint.Json.Reader
import DesignLint.Proofs.Outcome

/-! # Faults of the reader -/

namespace DesignLint.Json

/-- Digits that stand in a text one after the other, too many for a number. -/
structure IsLongRun (text run : List Char) : Prop where
  inside : run <:+: text
  digits : ∀ c ∈ run, c.isDigit = true
  long : Number.digitLimit < run.length

namespace Reader

def Fault.IsBroken (f : Fault) : Prop := ∃ cause offset, f = .broken cause offset

/-- The fault is about the form of a text, or about a number in it with too many digits. -/
inductive Fault.IsFoundedIn (s : List Char) : Fault → Prop
  | broken (cause : Cause) (offset : Nat) : IsFoundedIn s (.broken cause offset)
  | digits {run : List Char} (h : IsLongRun s run) : IsFoundedIn s (.digits run.length)

/-- What is read of a text leaves an end of it, or a fault that is founded there. -/
inductive StaysIn {α : Type} (s : List Char) : Except Fault (α × Cursor) → Prop
  | leaves {a : α} {next : Cursor} (h : next.rest <:+ s) : StaysIn s (.ok (a, next))
  | fails {f : Fault} (h : f.IsFoundedIn s) : StaysIn s (.error f)

variable {α β : Type} {c next : Cursor} {s t read : List Char} {f : Fault}
  {start offset skipped fuel : Nat}

theorem Fault.IsFoundedIn.of_suffix (h : f.IsFoundedIn s) (hs : s <:+ t) : f.IsFoundedIn t := by
  cases h with
  | broken cause offset => exact .broken cause offset
  | digits h => exact .digits ⟨h.inside.trans hs.isInfix, h.digits, h.long⟩

namespace StaysIn

variable {r : Except Fault (α × Cursor)}

theorem broken (cause : Cause) (offset : Nat) :
    StaysIn s (.error (.broken cause offset) : Except Fault (α × Cursor)) :=
  .fails (.broken cause offset)

theorem of_suffix (h : StaysIn s r) (hs : s <:+ t) : StaysIn t r := by
  cases h with
  | leaves h => exact .leaves (h.trans hs)
  | fails h => exact .fails (h.of_suffix hs)

theorem map (h : StaysIn s r) (g : α → β) : StaysIn s (r.map fun e => (g e.1, e.2)) := by
  cases h with
  | leaves h => exact .leaves h
  | fails h => exact .fails h

end StaysIn

theorem Cursor.rest_skip_suffix (c : Cursor) (n : Nat) : (c.skip n).rest <:+ c.rest :=
  List.drop_suffix n c.rest

theorem Cursor.rest_skipBlanks_suffix (c : Cursor) : c.skipBlanks.rest <:+ c.rest :=
  c.rest_skip_suffix _

theorem Cursor.rest_inside_suffix {d : Char} (h : c.rest = d :: s) (offset : Nat) :
    (skipBlanks ⟨offset, s⟩).rest <:+ c.rest := by
  rw [h]
  exact (rest_skipBlanks_suffix _).trans (List.suffix_cons d s)

/-! ## Texts -/

theorem isBroken_of_codeEscape (h : codeEscape offset s = .error f) :
    f.IsBroken := by
  unfold codeEscape at h
  repeat' split at h
  all_goals cases h
  all_goals exact ⟨_, _, rfl⟩

theorem isBroken_of_escape (h : escape start offset s = .error f) : f.IsBroken := by
  unfold escape at h
  split at h
  case h_10 => exact isBroken_of_codeEscape (Outcome.map_eq_error_iff.mp h)
  all_goals cases h
  all_goals exact ⟨_, _, rfl⟩

theorem staysIn_textFrom (start offset skipped : Nat) (read s : List Char) :
    StaysIn s (textFrom start offset skipped read s) := by
  induction s generalizing offset skipped read with
  | nil => cases skipped <;> exact .broken _ _
  | cons c rest ih =>
    have hrest : rest <:+ c :: rest := List.suffix_cons c rest
    cases skipped with
    | succ n => exact (ih _ _ _).of_suffix hrest
    | zero =>
      rw [textFrom]
      split
      · exact .leaves hrest
      · split
        · split
          · rename_i hescape
            obtain ⟨cause, place, rfl⟩ := isBroken_of_escape hescape
            exact .broken cause place
          · exact (ih _ _ _).of_suffix hrest
        · split
          · exact .broken _ _
          · exact (ih _ _ _).of_suffix hrest

/-! ## Numbers and words -/

theorem wholeDigits_starts (s : List Char) : wholeDigits s <+: s := by
  unfold wholeDigits
  split
  · exact ⟨_, rfl⟩
  · exact List.takeWhile_prefix _

theorem isDigit_of_mem_wholeDigits {d : Char} (h : d ∈ wholeDigits s) : d.isDigit = true := by
  unfold wholeDigits at h
  split at h
  · rw [List.mem_singleton.mp h]
    rfl
  · exact List.all_eq_true.mp List.all_takeWhile d h

theorem staysIn_number (c : Cursor) : StaysIn c.rest (number c) := by
  unfold number
  extract_lets negative s before after fraction fractionLength power next
  have hs : s <:+ c.rest := by
    unfold s
    split
    · exact List.drop_suffix _ _
    · exact List.suffix_rfl
  have hnext : next.rest <:+ c.rest := c.rest_skip_suffix _
  split
  · exact .broken _ _
  · split
    · split
      · rename_i hlimit
        exact .fails (.digits ⟨(wholeDigits_starts s).isInfix.trans hs.isInfix,
          fun d => isDigit_of_mem_wholeDigits, hlimit⟩)
      · exact .leaves hnext
    · exact .leaves hnext

theorem rest_suffix_of_word? {v : Json} (h : word? c = some (v, next)) : next.rest <:+ c.rest := by
  obtain ⟨w, -, heq⟩ := Option.map_eq_some_iff.mp h
  cases heq
  exact c.rest_skip_suffix _

/-! ## Values -/

structure StaysAt (fuel : Nat) : Prop where
  value : ∀ c, StaysIn c.rest (value fuel c)
  items : ∀ c read, StaysIn c.rest (items fuel c read)
  members : ∀ c read, StaysIn c.rest (members fuel c read)

theorem staysIn_value (ih : StaysAt fuel) (c : Cursor) : StaysIn c.rest (value (fuel + 1) c) := by
  rw [value]
  split
  · exact .broken _ _
  · rename_i rest hrest
    rw [hrest]
    exact ((staysIn_textFrom _ _ _ _ _).of_suffix (List.suffix_cons _ _)).map _
  · rename_i rest hrest
    extract_lets inside
    have hinside : inside.rest <:+ c.rest := Cursor.rest_inside_suffix hrest _
    split
    · exact .leaves ((inside.rest_skip_suffix 1).trans hinside)
    · exact ((ih.items _ _).of_suffix hinside).map _
  · rename_i rest hrest
    extract_lets inside
    have hinside : inside.rest <:+ c.rest := Cursor.rest_inside_suffix hrest _
    split
    · exact .leaves ((inside.rest_skip_suffix 1).trans hinside)
    · exact ((ih.members _ _).of_suffix hinside).map _
  · split
    · rename_i hword
      exact .leaves (rest_suffix_of_word? hword)
    · exact staysIn_number c

theorem staysIn_items {read : List Json} (ih : StaysAt fuel) (c : Cursor) :
    StaysIn c.rest (items (fuel + 1) c read) := by
  rw [items]
  have hvalue := ih.value c
  split
  · rename_i f hf
    rw [hf] at hvalue
    cases hvalue with
    | fails h => exact .fails h
  · rename_i v after hv
    rw [hv] at hvalue
    cases hvalue with
    | leaves hafter =>
      extract_lets next
      have hnext : next.rest <:+ c.rest := after.rest_skipBlanks_suffix.trans hafter
      have hskip : (next.skip 1).rest <:+ c.rest := (next.rest_skip_suffix 1).trans hnext
      split
      · exact .leaves hskip
      · exact (ih.items _ _).of_suffix ((Cursor.rest_skipBlanks_suffix _).trans hskip)
      · exact .broken _ _

theorem staysIn_members {read : Keyed Json} (ih : StaysAt fuel) (c : Cursor) :
    StaysIn c.rest (members (fuel + 1) c read) := by
  rw [members]
  split
  · rename_i rest hrest
    have htext := (staysIn_textFrom c.offset (c.offset + 1) 0 [] rest).of_suffix
      (List.suffix_cons '"' rest)
    rw [← hrest] at htext
    split
    · rename_i f hf
      rw [hf] at htext
      cases htext with
      | fails h => exact .fails h
    · rename_i k after hk
      rw [hk] at htext
      cases htext with
      | leaves hafter =>
        extract_lets colon
        have hcolon : (colon.skip 1).skipBlanks.rest <:+ c.rest :=
          (Cursor.rest_skipBlanks_suffix _).trans ((colon.rest_skip_suffix 1).trans
            (after.rest_skipBlanks_suffix.trans hafter))
        split
        · have hvalue := (ih.value (colon.skip 1).skipBlanks).of_suffix hcolon
          split
          · rename_i f hf
            rw [hf] at hvalue
            cases hvalue with
            | fails h => exact .fails h
          · rename_i v last hv
            rw [hv] at hvalue
            cases hvalue with
            | leaves hlast =>
              extract_lets next
              have hskip : (next.skip 1).rest <:+ c.rest :=
                (next.rest_skip_suffix 1).trans (last.rest_skipBlanks_suffix.trans hlast)
              split
              · exact .leaves hskip
              · exact (ih.members _ _).of_suffix ((Cursor.rest_skipBlanks_suffix _).trans hskip)
              · exact .broken _ _
        · exact .broken _ _
  · exact .broken _ _

theorem staysAt (fuel : Nat) : StaysAt fuel := by
  induction fuel with
  | zero => exact ⟨fun c => .broken _ _, fun c read => .broken _ _, fun c read => .broken _ _⟩
  | succ fuel ih =>
    -- Each of the three calls the others with less fuel, so they are settled together.
    exact ⟨staysIn_value ih, fun c _ => staysIn_items ih c, fun c _ => staysIn_members ih c⟩

theorem isFoundedIn_of_whole (h : whole s = .error f) : f.IsFoundedIn s := by
  have hvalue := ((staysAt (2 * s.length + 2)).value (Cursor.skipBlanks ⟨0, s⟩)).of_suffix
    (Cursor.rest_skipBlanks_suffix _)
  unfold whole at h
  split at h
  · rename_i hf
    cases h
    rw [hf] at hvalue
    cases hvalue with
    | fails h => exact h
  · extract_lets last at h
    split at h
    · cases h
    · cases h
      exact .broken _ _

end Reader

variable {text : List Char} {n : Nat}

/-- Only a long run of digits in a text makes it unreadable without being broken. -/
theorem exists_isLongRun_of_readPlain (h : readPlain text = .error (.digits n)) :
    ∃ run, IsLongRun text run ∧ run.length = n := by
  unfold readPlain at h
  split at h
  · cases h
  · cases h
  · rename_i hwhole
    cases h
    cases Reader.isFoundedIn_of_whole hwhole with
    | digits hrun => exact ⟨_, hrun, rfl⟩

theorem exists_isLongRun_of_read (h : read text = .error (.digits n)) :
    ∃ run, IsLongRun text run ∧ run.length = n := by
  unfold read at h
  split at h
  · cases h
  · exact exists_isLongRun_of_readPlain h

theorem digitLimit_lt_of_readPlain (h : readPlain text = .error (.digits n)) :
    Number.digitLimit < n := by
  obtain ⟨run, hrun, rfl⟩ := exists_isLongRun_of_readPlain h
  exact hrun.long

theorem digitLimit_lt_of_read (h : read text = .error (.digits n)) : Number.digitLimit < n := by
  obtain ⟨run, hrun, rfl⟩ := exists_isLongRun_of_read h
  exact hrun.long

end DesignLint.Json
