/-
# BrowserScript.Proofs.Value.JsonText -- a value is known by its text

Different values have different texts. The law that carries this has the following text in it:
**two texts that begin with values and agree have the same value at the beginning and the same
rest**, so that the parts of a list or a record can be taken off one by one. A string ends at
the first quote that is not escaped, and what is escaped can be told from what is not; a number
ends where its sign, digits and point end, which is why the rest must not go on with one of
these; a list goes on with a comma or a new line, and so does a record.
-/
import Mathlib
import BrowserScript.Value.Json

namespace BrowserScript.Value

/-! ## Characters of a string -/

/-- What a hexadecimal digit is worth. -/
def hexValue (c : Char) : Nat :=
  if c.isDigit then c.toNat - '0'.toNat else c.toNat - 'a'.toNat + 10

theorem hexValue_hexDigit : ∀ n < 16, hexValue (hexDigit n) = n := by decide

/-- The character that is meant by the one after a backslash. -/
def ofShortForm (c : Char) : Char :=
  if c = 'n' then '\n' else if c = 'r' then '\r' else if c = 't' then '\t'
  else if c = 'b' then '\x08' else if c = 'f' then '\x0c' else c

/-- The first character that is meant in a string, and what comes after it. -/
def firstChar? : List Char → Option (Char × List Char)
  | '\\' :: 'u' :: '0' :: '0' :: high :: low :: cs =>
    some (Char.ofNat (16 * hexValue high + hexValue low), cs)
  | '\\' :: c :: cs => some (ofShortForm c, cs)
  | c :: cs => some (c, cs)
  | [] => none

theorem firstChar?_of_ne {c : Char} (h : c ≠ '\\') (cs : List Char) :
    firstChar? (c :: cs) = some (c, cs) := by
  unfold firstChar?
  split
  · rename_i heq
    exact absurd (List.cons.inj heq).1 h
  · rename_i heq
    exact absurd (List.cons.inj heq).1 h
  · rename_i heq
    obtain ⟨rfl, rfl⟩ := List.cons.inj heq
    rfl
  · rename_i heq
    exact absurd heq (List.cons_ne_nil c cs)

/-- **A written character can be read**, whatever comes after it. -/
theorem firstChar?_jsonChar (c : Char) (cs : List Char) :
    firstChar? (jsonChar c ++ cs) = some (c, cs) := by
  unfold jsonChar
  split_ifs with hquote hbackslash hn hr ht hb hf hcontrol
  · rw [hquote]; rfl
  · rw [hbackslash]; rfl
  · rw [hn]; rfl
  · rw [hr]; rfl
  · rw [ht]; rfl
  · rw [hb]; rfl
  · rw [hf]; rfl
  · -- the two digits are those of the number of the character
    have hhigh := hexValue_hexDigit (c.toNat / 16) (by omega)
    have hlow := hexValue_hexDigit (c.toNat % 16) (by omega)
    simp only [List.cons_append, List.nil_append, firstChar?, hhigh, hlow, Nat.div_add_mod,
      Char.ofNat_toNat]
  · exact firstChar?_of_ne hbackslash cs

/-- No written character begins with a quote. -/
theorem head?_jsonChar_ne (c : Char) (cs : List Char) : (jsonChar c ++ cs).head? ≠ some '"' := by
  unfold jsonChar
  split_ifs with hquote <;> simp_all

/-- **A quoted text ends at the first quote that is not escaped**, for any way of escaping in
which a written character can be read and none begins with a quote. -/
theorem quoted_append_inj {write : Char → List Char} {first? : List Char → Option (Char × List Char)}
    (hfirst : ∀ c cs, first? (write c ++ cs) = some (c, cs))
    (hquote : ∀ c cs, (write c ++ cs).head? ≠ some '"') {cs ds r r' : List Char}
    (h : cs.flatMap write ++ '"' :: r = ds.flatMap write ++ '"' :: r') : cs = ds ∧ r = r' := by
  induction cs generalizing ds with
  | nil =>
      cases ds with
      | nil => exact ⟨rfl, (List.cons.inj h).2⟩
      | cons d ds =>
          rw [List.flatMap_cons, List.append_assoc] at h
          exact absurd (congrArg List.head? h.symm) (hquote d _)
  | cons c cs ih =>
      rw [List.flatMap_cons, List.append_assoc] at h
      cases ds with
      | nil => exact absurd (congrArg List.head? h) (hquote c _)
      | cons d ds =>
          rw [List.flatMap_cons, List.append_assoc] at h
          have hread := congrArg first? h
          rw [hfirst, hfirst, Option.some.injEq, Prod.mk.injEq] at hread
          obtain ⟨rfl, hrest⟩ := ih hread.2
          exact ⟨by rw [hread.1], hrest⟩

theorem toList_jsonString (s : String) :
    (jsonString s).toList = '"' :: (s.toList.flatMap jsonChar ++ ['"']) := by
  simp [jsonString]

theorem jsonString_append_inj {s t : String} {r r' : List Char}
    (h : (jsonString s).toList ++ r = (jsonString t).toList ++ r') : s = t ∧ r = r' := by
  rw [toList_jsonString, toList_jsonString, List.cons_append, List.cons_append,
    List.append_assoc, List.append_assoc] at h
  obtain ⟨hchars, hrest⟩ :=
    quoted_append_inj firstChar?_jsonChar head?_jsonChar_ne (List.cons.inj h).2
  exact ⟨String.toList_inj.1 hchars, hrest⟩

/-! ## Numbers -/

/-- The text does not go on with a digit. -/
def NoDigit (cs : List Char) : Prop :=
  ∀ c, cs.head? = some c → c.isDigit = false

theorem toList_toString_isDigit (n : Nat) : ∀ c ∈ (toString n).toList, c.isDigit = true := by
  intro c hc
  rw [Nat.toString_eq_repr, Nat.toList_repr] at hc
  exact Nat.isDigit_of_mem_toDigits (by decide) (by decide) hc

theorem takeWhile_digits (n : Nat) {r : List Char} (h : NoDigit r) :
    ((toString n).toList ++ r).takeWhile Char.isDigit = (toString n).toList := by
  rw [List.takeWhile_append_of_pos (toList_toString_isDigit n)]
  cases r with
  | nil => simp
  | cons c cs => simp [h c rfl]

/-- **A natural number ends where its digits end.** -/
theorem digits_append_inj {m n : Nat} {r r' : List Char} (hr : NoDigit r) (hr' : NoDigit r')
    (h : (toString m).toList ++ r = (toString n).toList ++ r') : m = n ∧ r = r' := by
  have hdigits := congrArg (List.takeWhile Char.isDigit) h
  rw [takeWhile_digits m hr, takeWhile_digits n hr'] at hdigits
  rw [hdigits] at h
  exact ⟨Nat.repr_injective (String.toList_inj.1 hdigits), List.append_cancel_left h⟩

/-- The first character of a natural number is a digit. -/
theorem exists_toString_eq_cons (n : Nat) :
    ∃ c cs, (toString n).toList = c :: cs ∧ c.isDigit = true := by
  obtain ⟨c, cs, hcs⟩ := List.exists_cons_of_ne_nil (@Nat.toDigits_ne_nil n 10)
  have htext : (toString n).toList = c :: cs := by
    rw [Nat.toString_eq_repr, Nat.toList_repr, hcs]
  exact ⟨c, cs, htext, toList_toString_isDigit n c (by rw [htext]; exact List.mem_cons_self)⟩

/-- Whether a character can stand in a number. -/
def isNumeral (c : Char) : Bool :=
  c.isDigit || c == '-' || c == '.'

/-- The text does not go on with a character of a number. -/
def EndsNumber (cs : List Char) : Prop :=
  ∀ c, cs.head? = some c → isNumeral c = false

theorem endsNumber_nil : EndsNumber [] := by
  intro c hc
  simp at hc

theorem toList_render (d : Decimal) :
    d.render.toList = (if d.isNegative then ['-'] else []) ++
      ((toString d.whole).toList ++ Decimal.fractionChars d.fraction) := by
  cases h : d.isNegative <;> simp [Decimal.render, h]

theorem isDigit_digitChar : ∀ d : Fin 10, d.val.digitChar.isDigit = true := by decide

theorem isNumeral_of_mem_fraction {digits : List (Fin 10)} {c : Char}
    (h : c ∈ Decimal.fractionChars digits) : isNumeral c = true := by
  unfold Decimal.fractionChars at h
  split at h
  · exact absurd h List.not_mem_nil
  · obtain rfl | hc := List.mem_cons.1 h
    · rfl
    · obtain ⟨d, _, rfl⟩ := List.mem_map.1 hc
      simp [isNumeral, isDigit_digitChar d]

theorem isNumeral_of_mem_render (d : Decimal) : ∀ c ∈ d.render.toList, isNumeral c = true := by
  intro c hc
  rw [toList_render, List.mem_append, List.mem_append] at hc
  rcases hc with hsign | hwhole | hfraction
  · cases hneg : d.isNegative <;> simp [hneg] at hsign
    rw [hsign]
    rfl
  · simp [isNumeral, toList_toString_isDigit _ c hwhole]
  · exact isNumeral_of_mem_fraction hfraction

theorem takeWhile_number (d : Decimal) {r : List Char} (h : EndsNumber r) :
    (d.render.toList ++ r).takeWhile isNumeral = d.render.toList := by
  rw [List.takeWhile_append_of_pos (isNumeral_of_mem_render d)]
  cases r with
  | nil => simp
  | cons c cs => simp [h c rfl]

/-- What stands behind the whole part begins with the point, if there is anything. -/
theorem noDigit_fraction (digits : List (Fin 10)) : NoDigit (Decimal.fractionChars digits) := by
  intro c hc
  unfold Decimal.fractionChars at hc
  split at hc
  · simp at hc
  · obtain rfl := Option.some.inj hc
    decide

theorem fractionChars_inj {ds es : List (Fin 10)}
    (h : Decimal.fractionChars ds = Decimal.fractionChars es) : ds = es := by
  have hdigit : Function.Injective fun d : Fin 10 => d.val.digitChar := by decide
  cases ds with
  | nil =>
      cases es with
      | nil => rfl
      | cons e es => exact absurd h.symm (List.cons_ne_nil _ _)
  | cons d ds =>
      cases es with
      | nil => exact absurd h (List.cons_ne_nil _ _)
      | cons e es => exact List.map_injective_iff.2 hdigit (List.cons.inj h).2

/-- **A number is known by its digits**, its sign and its point. -/
theorem decimal_render_inj {d e : Decimal} (h : d.render.toList = e.render.toList) : d = e := by
  have hparts : ∀ {m n : Nat} {ds es : List (Fin 10)},
      (toString m).toList ++ Decimal.fractionChars ds =
        (toString n).toList ++ Decimal.fractionChars es → m = n ∧ ds = es := by
    intro m n ds es heq
    obtain ⟨hwhole, hfraction⟩ := digits_append_inj (noDigit_fraction ds) (noDigit_fraction es) heq
    exact ⟨hwhole, fractionChars_inj hfraction⟩
  -- a sign cannot be taken for the first digit of a number without one
  have hsign : ∀ (cs : List Char) (n : Nat) (ds : List (Fin 10)),
      '-' :: cs ≠ (toString n).toList ++ Decimal.fractionChars ds := by
    intro cs n ds heq
    obtain ⟨c, rest, hrest, hdigit⟩ := exists_toString_eq_cons n
    rw [hrest, List.cons_append] at heq
    rw [← (List.cons.inj heq).1] at hdigit
    exact absurd hdigit (by decide)
  obtain ⟨neg, m, ds⟩ := d
  obtain ⟨neg', n, es⟩ := e
  rw [toList_render, toList_render] at h
  cases neg with
  | false =>
      cases neg' with
      | false =>
          obtain ⟨rfl, rfl⟩ := hparts h
          rfl
      | true => exact absurd h.symm (hsign _ _ _)
  | true =>
      cases neg' with
      | false => exact absurd h (hsign _ _ _)
      | true =>
          obtain ⟨rfl, rfl⟩ := hparts (List.cons.inj h).2
          rfl

/-- **A number ends where its characters end.** -/
theorem number_append_inj {d e : Decimal} {r r' : List Char} (hr : EndsNumber r)
    (hr' : EndsNumber r') (h : d.render.toList ++ r = e.render.toList ++ r') : d = e ∧ r = r' := by
  have hchars := congrArg (List.takeWhile isNumeral) h
  rw [takeWhile_number d hr, takeWhile_number e hr'] at hchars
  rw [hchars] at h
  exact ⟨decimal_render_inj hchars, List.append_cancel_left h⟩

/-! ## Kinds of values -/

/-- What kind of value it is. -/
inductive Kind where
  | null
  | bool
  | number
  | text
  | list
  | record
  deriving DecidableEq

/-- The kind of a value. -/
def kind : Value → Kind
  | .null => .null
  | .bool _ => .bool
  | .number _ => .number
  | .text _ => .text
  | .list _ => .list
  | .record _ => .record

/-- The kind of the value whose text begins with a character. -/
def Kind.ofFirst (c : Char) : Kind :=
  if c.isDigit || c = '-' then .number else if c = '"' then .text else if c = '[' then .list
  else if c = '\x7b' then .record else if c = 'n' then .null else .bool

/-- **The first character of its text tells the kind of a value.** -/
theorem head?_toJsonAt (depth : Nat) (v : Value) :
    (toJsonAt depth v).toList.head?.map Kind.ofFirst = some v.kind := by
  cases v with
  | null => rw [toJsonAt]; rfl
  | bool b => cases b <;> rw [toJsonAt] <;> rfl
  | number n =>
      obtain ⟨c, cs, hcs, hdigit⟩ := exists_toString_eq_cons n.whole
      rw [toJsonAt, toList_render, hcs]
      cases n.isNegative <;> simp [Kind.ofFirst, hdigit, kind]
  | text s => rw [toJsonAt, toList_jsonString]; rfl
  | list items => cases items <;> simp [toJsonAt, Kind.ofFirst, kind]
  | record members => cases members <;> simp [toJsonAt, Kind.ofFirst, kind]

theorem kind_eq_of_append {depth : Nat} {v w : Value} {r r' : List Char}
    (h : (toJsonAt depth v).toList ++ r = (toJsonAt depth w).toList ++ r') : v.kind = w.kind := by
  have hfirst := congrArg (fun cs => cs.head?.map Kind.ofFirst) h
  have hv := head?_toJsonAt depth v
  have hw := head?_toJsonAt depth w
  rw [Option.map_eq_some_iff] at hv hw
  obtain ⟨c, hc, hkind⟩ := hv
  obtain ⟨d, hd, hkind'⟩ := hw
  simp only [List.head?_append, hc, hd, Option.some_or, Option.map_some, hkind, hkind',
    Option.some.injEq] at hfirst
  exact hfirst

/-! ## Layout -/

theorem toList_jsonBreak (depth : Nat) :
    (jsonBreak depth).toList = '\n' :: List.replicate (2 * depth) ' ' := by
  simp [jsonBreak]

/-- A list that is not empty, and the text after it. -/
theorem toList_list_cons (depth : Nat) (v : Value) (vs : List Value) (r : List Char) :
    (toJsonAt depth (.list (v :: vs))).toList ++ r =
      '[' :: ((jsonBreak (depth + 1)).toList ++ ((toJsonAt (depth + 1) v).toList ++
        ((jsonItems (depth + 1) vs).toList ++
          '\n' :: (List.replicate (2 * depth) ' ' ++ ']' :: r)))) := by
  simp [toJsonAt, toList_jsonBreak]

/-- A record that is not empty, and the text after it. -/
theorem toList_record_cons (depth : Nat) (key : String) (v : Value) (ms : List (String × Value))
    (r : List Char) :
    (toJsonAt depth (.record ((key, v) :: ms))).toList ++ r =
      '\x7b' :: ((jsonBreak (depth + 1)).toList ++ ((jsonString key).toList ++ (": ".toList ++
        ((toJsonAt (depth + 1) v).toList ++ ((jsonMembers (depth + 1) ms).toList ++
          '\n' :: (List.replicate (2 * depth) ' ' ++ '\x7d' :: r)))))) := by
  simp [toJsonAt, toList_jsonBreak]

theorem toList_items_cons (depth : Nat) (v : Value) (vs : List Value) (r : List Char) :
    (jsonItems depth (v :: vs)).toList ++ r =
      ',' :: ((jsonBreak depth).toList ++ ((toJsonAt depth v).toList ++
        ((jsonItems depth vs).toList ++ r))) := by
  simp [jsonItems]

theorem toList_members_cons (depth : Nat) (key : String) (v : Value) (ms : List (String × Value))
    (r : List Char) :
    (jsonMembers depth ((key, v) :: ms)).toList ++ r =
      ',' :: ((jsonBreak depth).toList ++ ((jsonString key).toList ++ (": ".toList ++
        ((toJsonAt depth v).toList ++ ((jsonMembers depth ms).toList ++ r))))) := by
  simp [jsonMembers]

/-- An empty list is closed where another has a new line, and so is an empty record. -/
theorem list_nil_append_ne (depth : Nat) (v : Value) (vs : List Value) (r r' : List Char) :
    (toJsonAt depth (.list [])).toList ++ r ≠ (toJsonAt depth (.list (v :: vs))).toList ++ r' := by
  rw [toList_list_cons, toList_jsonBreak]
  simp [toJsonAt]

theorem record_nil_append_ne (depth : Nat) (m : String × Value) (ms : List (String × Value))
    (r r' : List Char) :
    (toJsonAt depth (.record [])).toList ++ r ≠
      (toJsonAt depth (.record (m :: ms))).toList ++ r' := by
  rw [toList_record_cons, toList_jsonBreak]
  simp [toJsonAt]

/-- Where no item is left there is a new line in place of the comma. -/
theorem items_nil_append_ne (depth : Nat) (v : Value) (vs : List Value) (r r' : List Char) :
    (jsonItems depth []).toList ++ '\n' :: r ≠ (jsonItems depth (v :: vs)).toList ++ r' := by
  rw [toList_items_cons]
  simp [jsonItems]

theorem members_nil_append_ne (depth : Nat) (m : String × Value) (ms : List (String × Value))
    (r r' : List Char) :
    (jsonMembers depth []).toList ++ '\n' :: r ≠ (jsonMembers depth (m :: ms)).toList ++ r' := by
  rw [toList_members_cons]
  simp [jsonMembers]

/-- What comes after an item or a member is a comma or a new line. -/
theorem endsNumber_items (depth : Nat) (vs : List Value) (r : List Char) :
    EndsNumber ((jsonItems depth vs).toList ++ '\n' :: r) := by
  intro c hc
  cases vs with
  | nil =>
      obtain rfl := Option.some.inj hc
      decide
  | cons v vs =>
      rw [toList_items_cons] at hc
      obtain rfl := Option.some.inj hc
      decide

theorem endsNumber_members (depth : Nat) (ms : List (String × Value)) (r : List Char) :
    EndsNumber ((jsonMembers depth ms).toList ++ '\n' :: r) := by
  intro c hc
  cases ms with
  | nil =>
      obtain rfl := Option.some.inj hc
      decide
  | cons m ms =>
      rw [toList_members_cons] at hc
      obtain rfl := Option.some.inj hc
      decide

mutual

/-- **Texts that begin with values and agree have the same value at the beginning**, and the
same rest. -/
theorem toJsonAt_append_inj (v w : Value) (depth : Nat) {r r' : List Char} (hr : EndsNumber r)
    (hr' : EndsNumber r') (h : (toJsonAt depth v).toList ++ r = (toJsonAt depth w).toList ++ r') :
    v = w ∧ r = r' := by
  have hkind := kind_eq_of_append h
  cases v with
  | null =>
      cases w with
      | null => exact ⟨rfl, List.append_cancel_left h⟩
      | _ => exact absurd hkind nofun
  | bool b =>
      cases w with
      | bool b' =>
          cases b <;> cases b' <;> simp [toJsonAt] at h <;> exact ⟨rfl, h⟩
      | _ => exact absurd hkind nofun
  | number m =>
      cases w with
      | number n =>
          rw [toJsonAt, toJsonAt] at h
          obtain ⟨rfl, hrest⟩ := number_append_inj hr hr' h
          exact ⟨rfl, hrest⟩
      | _ => exact absurd hkind nofun
  | text s =>
      cases w with
      | text t =>
          rw [toJsonAt, toJsonAt] at h
          obtain ⟨rfl, hrest⟩ := jsonString_append_inj h
          exact ⟨rfl, hrest⟩
      | _ => exact absurd hkind nofun
  | list items =>
      cases w with
      | list items' =>
          cases items with
          | nil =>
              cases items' with
              | nil => exact ⟨rfl, List.append_cancel_left h⟩
              | cons w ws => exact absurd h (list_nil_append_ne depth w ws _ _)
          | cons v vs =>
              cases items' with
              | nil => exact absurd h.symm (list_nil_append_ne depth v vs _ _)
              | cons w ws =>
                  rw [toList_list_cons, toList_list_cons] at h
                  obtain ⟨rfl, hitems⟩ := toJsonAt_append_inj v w (depth + 1)
                    (endsNumber_items _ vs _) (endsNumber_items _ ws _)
                    (List.append_cancel_left (List.cons.inj h).2)
                  obtain ⟨rfl, hrest⟩ := jsonItems_append_inj vs ws (depth + 1) hitems
                  exact ⟨rfl, (List.cons.inj (List.append_cancel_left hrest)).2⟩
      | _ => exact absurd hkind nofun
  | record members =>
      cases w with
      | record members' =>
          cases members with
          | nil =>
              cases members' with
              | nil => exact ⟨rfl, List.append_cancel_left h⟩
              | cons m' ms' => exact absurd h (record_nil_append_ne depth m' ms' _ _)
          | cons m ms =>
              cases members' with
              | nil => exact absurd h.symm (record_nil_append_ne depth m ms _ _)
              | cons m' ms' =>
                  obtain ⟨key, v⟩ := m
                  obtain ⟨key', v'⟩ := m'
                  rw [toList_record_cons, toList_record_cons] at h
                  obtain ⟨rfl, hvalue⟩ :=
                    jsonString_append_inj (List.append_cancel_left (List.cons.inj h).2)
                  obtain ⟨rfl, hmembers⟩ := toJsonAt_append_inj v v' (depth + 1)
                    (endsNumber_members _ ms _) (endsNumber_members _ ms' _)
                    (List.append_cancel_left hvalue)
                  obtain ⟨rfl, hrest⟩ := jsonMembers_append_inj ms ms' (depth + 1) hmembers
                  exact ⟨rfl, (List.cons.inj (List.append_cancel_left hrest)).2⟩
      | _ => exact absurd hkind nofun

/-- The items after the first end where no comma follows. -/
theorem jsonItems_append_inj (vs ws : List Value) (depth : Nat) {r r' : List Char}
    (h : (jsonItems depth vs).toList ++ '\n' :: r = (jsonItems depth ws).toList ++ '\n' :: r') :
    vs = ws ∧ r = r' := by
  cases vs with
  | nil =>
      cases ws with
      | nil => exact ⟨rfl, (List.cons.inj (List.append_cancel_left h)).2⟩
      | cons w ws => exact absurd h (items_nil_append_ne depth w ws _ _)
  | cons v vs =>
      cases ws with
      | nil => exact absurd h.symm (items_nil_append_ne depth v vs _ _)
      | cons w ws =>
          rw [toList_items_cons, toList_items_cons] at h
          obtain ⟨rfl, hitems⟩ := toJsonAt_append_inj v w depth (endsNumber_items _ vs _)
            (endsNumber_items _ ws _) (List.append_cancel_left (List.cons.inj h).2)
          obtain ⟨rfl, hrest⟩ := jsonItems_append_inj vs ws depth hitems
          exact ⟨rfl, hrest⟩

theorem jsonMembers_append_inj (ms ms' : List (String × Value)) (depth : Nat) {r r' : List Char}
    (h : (jsonMembers depth ms).toList ++ '\n' :: r =
      (jsonMembers depth ms').toList ++ '\n' :: r') : ms = ms' ∧ r = r' := by
  cases ms with
  | nil =>
      cases ms' with
      | nil => exact ⟨rfl, (List.cons.inj (List.append_cancel_left h)).2⟩
      | cons m' ms' => exact absurd h (members_nil_append_ne depth m' ms' _ _)
  | cons m ms =>
      cases ms' with
      | nil => exact absurd h.symm (members_nil_append_ne depth m ms _ _)
      | cons m' ms' =>
          obtain ⟨key, v⟩ := m
          obtain ⟨key', v'⟩ := m'
          rw [toList_members_cons, toList_members_cons] at h
          obtain ⟨rfl, hvalue⟩ :=
            jsonString_append_inj (List.append_cancel_left (List.cons.inj h).2)
          obtain ⟨rfl, hmembers⟩ := toJsonAt_append_inj v v' depth (endsNumber_members _ ms _)
            (endsNumber_members _ ms' _) (List.append_cancel_left hvalue)
          obtain ⟨rfl, hrest⟩ := jsonMembers_append_inj ms ms' depth hmembers
          exact ⟨rfl, hrest⟩

end

/-- **A value is known by its text.** -/
theorem toJson_inj {v w : Value} : v.toJson = w.toJson ↔ v = w := by
  constructor
  · intro h
    have hchars : (toJsonAt 0 v).toList ++ [] = (toJsonAt 0 w).toList ++ [] := by
      rw [List.append_nil, List.append_nil]
      exact congrArg String.toList h
    exact (toJsonAt_append_inj v w 0 endsNumber_nil endsNumber_nil hchars).1
  · rintro rfl
    rfl

end BrowserScript.Value
