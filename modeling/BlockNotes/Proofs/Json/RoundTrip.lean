import BlockNotes.Json.Value

/-!
# Reading back what was written

Writing a value and reading it again are two passes each, and they are undone
one by one.

*Tokens.*  Scanning finds one token after another.  What is written for a token is
found as this token, whatever stands behind it (`JsonToken.scan?_write`).  Only a
number can be continued by what follows; numbers are left out.

*Values.*  The machine that puts tokens together takes in the tokens of a value as
if the value came in one step (`JsonValue.foldlM_tokens`).  It refuses a value only
if too much is open at once, which is a matter of its depth.
-/

namespace BlockNotes

namespace JsonToken

/-! ## Strings -/

/-- A hexadecimal digit has the value that it was made from. -/
theorem hexValue?_hexDigit : ∀ n < 16, hexValue? (hexDigit n) = some n := by decide

/-- The code of a control character fits into two hexadecimal digits. -/
theorem hex4?_control {c : Char} (h : c.toNat < 0x20) :
    hex4? '0' '0' (hexDigit (c.toNat / 16)) (hexDigit (c.toNat % 16)) = some c.toNat := by
  have hzero : hexValue? '0' = some 0 := by decide
  have hhigh := hexValue?_hexDigit (c.toNat / 16) (by omega)
  have hlow := hexValue?_hexDigit (c.toNat % 16) (by omega)
  simp only [hex4?, hzero, hhigh, hlow, Option.bind_eq_bind, Option.bind_some, Option.some.injEq]
  omega

/-- A character that stands for another one after a backslash is read as that. -/
theorem scanString?_backslash {e c : Char} (h : unescape? e = some c) (rest : Text) :
    scanString? ('\\' :: e :: rest) = cons c (scanString? rest) := by
  rw [scanString?]
  · rw [h]
  · rintro _ _ _ _ _ rfl _
    cases h

/-- A character is read back from the way it stands in a string. -/
theorem scanString?_escape (c : Char) (rest : Text) :
    scanString? (escape c ++ rest) = cons c (scanString? rest) := by
  unfold escape
  split
  next h => subst h; exact scanString?_backslash rfl rest
  split
  next h => subst h; exact scanString?_backslash rfl rest
  split
  next h => subst h; exact scanString?_backslash rfl rest
  split
  next h => subst h; exact scanString?_backslash rfl rest
  split
  next h => subst h; exact scanString?_backslash rfl rest
  split
  next h => subst h; exact scanString?_backslash rfl rest
  split
  next h => subst h; exact scanString?_backslash rfl rest
  split
  next h =>
    have hbelow : c.toNat < 0xd800 ∨ 0xdfff < c.toNat := .inl (by omega)
    simp only [List.cons_append, List.nil_append, scanString?, hex4?_control h, if_pos hbelow,
      Char.ofNat_toNat]
  next hquote hslash _ _ _ _ _ hplain =>
    rw [List.singleton_append, scanString?, if_neg hplain]
    · exact fun h _ => hslash h
    · exact hquote
    · exact fun _ _ _ _ _ h _ => hslash h
    · exact fun _ _ h _ => hslash h

/-- A string is read back up to its closing quote. -/
theorem scanString?_flatMap_escape (t rest : Text) :
    scanString? (t.flatMap escape ++ '"' :: rest) = some (t, rest) := by
  induction t with
  | nil => rfl
  | cons c t ih =>
    rw [List.flatMap_cons, List.append_assoc, scanString?_escape, ih]
    rfl

/-! ## Tokens -/

/-- A token is read back from what is written for it. -/
theorem scan?_write {t : JsonToken} (ht : t ≠ .number) (rest : Text) :
    scan? (t.write ++ rest) = (scan? rest).map (t :: ·) := by
  cases t with
  | number => exact absurd rfl ht
  | bool b => cases b <;> simp [write, scan?]
  | null => simp [write, scan?]
  | string s =>
    have hscan := scanString?_flatMap_escape s rest
    simp only [write, List.cons_append, List.append_assoc, List.nil_append]
    have hsign : ofSign? '"' = none := rfl
    rw [scan?, if_neg (by decide), hsign]
    · dsimp only
      rw [if_pos rfl]
      split
      next h => rw [hscan] at h; cases h
      next h => rw [hscan] at h; cases h; rfl
    · exact fun _ h => absurd h (by decide)
    · exact fun _ h => absurd h (by decide)
    · exact fun _ h => absurd h (by decide)
  | _ => simp [write, scan?, isSpace, ofSign?]

/-- Tokens are read back from what is written for them. -/
theorem scan?_flatMap_write {ts : List JsonToken} (hts : .number ∉ ts) :
    scan? (ts.flatMap write) = some ts := by
  induction ts with
  | nil => rw [List.flatMap_nil, scan?]
  | cons t ts ih =>
    rw [List.mem_cons, not_or] at hts
    rw [List.flatMap_cons, scan?_write (Ne.symm hts.1), ih hts.2]
    rfl

end JsonToken

namespace JsonValue

/-! ## Depth -/

mutual

/-- How many arrays and objects are open at once while the value is read. -/
def depth : JsonValue → Nat
  | .array items => itemsDepth items + 1
  | .object fields => fieldsDepth fields + 1
  | _ => 0

/-- The largest depth of items. -/
def itemsDepth : List JsonValue → Nat
  | [] => 0
  | v :: rest => max v.depth (itemsDepth rest)

/-- The largest depth of the values of fields. -/
def fieldsDepth : List JsonField → Nat
  | [] => 0
  | ⟨_, v⟩ :: rest => max v.depth (fieldsDepth rest)

end

/-! ## Values -/

open Reader

/-- The tokens of a value do not begin with the end of an array. -/
theorem foldlM_tokens_valueOrEnd (v : JsonValue) (stack : List OpenValue) :
    v.tokens.foldlM step? ⟨stack, .valueOrEnd⟩ = v.tokens.foldlM step? ⟨stack, .value⟩ := by
  cases v <;> rfl

mutual

/-- The machine takes in the tokens of a value as if the value came in one step. -/
theorem foldlM_tokens (v : JsonValue) (stack : List OpenValue)
    (h : stack.length + v.depth ≤ maxOpen) :
    v.tokens.foldlM step? ⟨stack, .value⟩ = some (complete stack v) := by
  match v with
  | .null => rfl
  | .bool b => rfl
  | .number => rfl
  | .string t => rfl
  | .array items =>
    rw [depth] at h
    have hroom : stack.length < maxOpen := by omega
    have henter : step? ⟨stack, .value⟩ .openArray = some ⟨.array [] :: stack, .valueOrEnd⟩ :=
      if_pos hroom
    rw [tokens, List.foldlM_cons, henter]
    match items with
    | [] => rfl
    | v :: rest =>
      rw [itemsDepth] at h
      have hfirst := foldlM_tokens v (.array [] :: stack) (by simp only [List.length_cons]; omega)
      have hrest := foldlM_itemTokens rest [v] stack (by omega)
      simp only [Option.bind_eq_bind, Option.bind_some, itemTokens, if_true, List.nil_append,
        List.foldlM_append, foldlM_tokens_valueOrEnd, hfirst]
      exact hrest
  | .object fields =>
    rw [depth] at h
    have hroom : stack.length < maxOpen := by omega
    have henter : step? ⟨stack, .value⟩ .openObject = some ⟨.object [] [] :: stack, .nameOrEnd⟩ :=
      if_pos hroom
    rw [tokens, List.foldlM_cons, henter]
    match fields with
    | [] => rfl
    | ⟨name, v⟩ :: rest =>
      rw [fieldsDepth] at h
      have hfirst := foldlM_tokens v (.object [] name :: stack)
        (by simp only [List.length_cons]; omega)
      have hrest := foldlM_fieldTokens rest [⟨name, v⟩] stack (by omega)
      have hname : step? ⟨.object [] [] :: stack, .nameOrEnd⟩ (.string name) =
          some ⟨.object [] name :: stack, .colon⟩ := rfl
      have hcolon : step? ⟨.object [] name :: stack, .colon⟩ .colon =
          some ⟨.object [] name :: stack, .value⟩ := rfl
      simp only [Option.bind_eq_bind, Option.bind_some, fieldTokens, if_true, List.nil_append,
        List.cons_append, List.foldlM_cons, List.foldlM_append, hname, hcolon, hfirst]
      exact hrest

/-- Behind an item the machine takes in the other items and closes the array. -/
theorem foldlM_itemTokens (items done : List JsonValue) (stack : List OpenValue)
    (h : stack.length + 1 + itemsDepth items ≤ maxOpen) :
    (itemTokens false items).foldlM step? ⟨.array done :: stack, .commaOrEnd⟩ =
      some (complete stack (.array (done.reverse ++ items))) := by
  match items with
  | [] => rw [List.append_nil]; rfl
  | v :: rest =>
    rw [itemsDepth] at h
    have hfirst := foldlM_tokens v (.array done :: stack) (by simp only [List.length_cons]; omega)
    have hrest := foldlM_itemTokens rest (v :: done) stack (by omega)
    have hcomma : step? ⟨.array done :: stack, .commaOrEnd⟩ .comma =
        some ⟨.array done :: stack, .value⟩ := rfl
    simp only [itemTokens, Bool.false_eq_true, if_false, List.cons_append, List.nil_append,
      List.foldlM_cons, List.foldlM_append, hcomma, Option.bind_eq_bind, Option.bind_some, hfirst]
    rw [List.reverse_cons, List.append_assoc, List.singleton_append] at hrest
    exact hrest

/-- Behind a field the machine takes in the other fields and closes the object. -/
theorem foldlM_fieldTokens (fields done : List JsonField) (stack : List OpenValue)
    (h : stack.length + 1 + fieldsDepth fields ≤ maxOpen) :
    (fieldTokens false fields).foldlM step? ⟨.object done [] :: stack, .commaOrEnd⟩ =
      some (complete stack (.object (done.reverse ++ fields))) := by
  match fields with
  | [] => rw [List.append_nil]; rfl
  | ⟨name, v⟩ :: rest =>
    rw [fieldsDepth] at h
    have hfirst := foldlM_tokens v (.object done name :: stack)
      (by simp only [List.length_cons]; omega)
    have hrest := foldlM_fieldTokens rest (⟨name, v⟩ :: done) stack (by omega)
    have hcomma : step? ⟨.object done [] :: stack, .commaOrEnd⟩ .comma =
        some ⟨.object done [] :: stack, .name⟩ := rfl
    have hname : step? ⟨.object done [] :: stack, .name⟩ (.string name) =
        some ⟨.object done name :: stack, .colon⟩ := rfl
    have hcolon : step? ⟨.object done name :: stack, .colon⟩ .colon =
        some ⟨.object done name :: stack, .value⟩ := rfl
    simp only [fieldTokens, Bool.false_eq_true, if_false, List.cons_append, List.nil_append,
      List.foldlM_cons, List.foldlM_append, hcomma, hname, hcolon, Option.bind_eq_bind,
      Option.bind_some, hfirst]
    rw [List.reverse_cons, List.append_assoc, List.singleton_append] at hrest
    exact hrest

end

/-- Where no item has a number, their tokens have none. -/
theorem number_notMem_itemTokens {items : List JsonValue} (h : ∀ v ∈ items, .number ∉ v.tokens)
    (first : Bool) : .number ∉ itemTokens first items := by
  induction items generalizing first with
  | nil => simp [itemTokens]
  | cons v rest ih =>
    rw [List.forall_mem_cons] at h
    have hrest := ih h.2 false
    cases first <;> simp [itemTokens, h.1, hrest]

/-- Where no value of a field has a number, the tokens of the fields have none. -/
theorem number_notMem_fieldTokens {fields : List JsonField}
    (h : ∀ f ∈ fields, .number ∉ f.value.tokens) (first : Bool) :
    .number ∉ fieldTokens first fields := by
  induction fields generalizing first with
  | nil => simp [fieldTokens]
  | cons f rest ih =>
    obtain ⟨name, v⟩ := f
    rw [List.forall_mem_cons] at h
    have hv : JsonToken.number ∉ v.tokens := h.1
    have hrest := ih h.2 false
    cases first <;> simp [fieldTokens, hv, hrest]

/-- A value is read back from its tokens. -/
theorem ofTokens?_tokens {v : JsonValue} (h : v.depth ≤ maxOpen) : ofTokens? v.tokens = some v := by
  have hread := foldlM_tokens v [] (by simpa using h)
  rw [ofTokens?, hread]
  rfl

/-- A value without numbers is read back from the text that is written for it. -/
theorem ofText?_write {v : JsonValue} (hnumber : .number ∉ v.tokens) (h : v.depth ≤ maxOpen) :
    ofText? v.write = some v := by
  rw [ofText?, write, JsonToken.scan?_flatMap_write hnumber, Option.bind_some, ofTokens?_tokens h]

end JsonValue

end BlockNotes
