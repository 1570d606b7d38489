/-
# BrowserScript.Proofs.Selector.Encodings -- the data that describe a selector

A selector can be given as data in several ways: as a record or as a list, with or without the
fallbacks when there are none, with the name of the strategy or a record of that name. **Each
selector in it chooses for itself**, at every depth. `Describes` says which data describe a
selector without saying how they are read: the members of a record may stand in any order, each
of the three known ones once, with any others between them.

Of a reader it is enough to know that it `Accepts` the shapes one level at a time; then it reads
every selector from all data that describe it. The reading of this library is such a reader, and
it accepts nothing else.
-/
import BrowserScript.Encoding

namespace BrowserScript

/-! ## Names and members -/

namespace Value

/-- The value names a case: it is the name, or a record with that name alone, which is null. -/
inductive NamesCase : Value → String → Prop
  | text (name : String) : NamesCase (.text name) name
  | record (name : String) : NamesCase (.record [(name, .null)]) name

theorem caseName?_eq_some_iff {v : Value} {name : String} :
    v.caseName? = some name ↔ NamesCase v name := by
  constructor
  · intro h
    unfold caseName? at h
    split at h
    · obtain rfl := Option.some.inj h
      exact .text _
    · obtain rfl := Option.some.inj h
      exact .record _
    · exact absurd h (Option.some_ne_none name).symm
  · rintro (_ | _) <;> rfl

/-- The values of the members with a name, in order. -/
def named (members : List (String × Value)) (name : String) : List Value :=
  (members.filter fun m => m.1 = name).map Prod.snd

@[simp] theorem named_nil (name : String) : named [] name = [] := rfl

@[simp] theorem named_cons (name key : String) (v : Value) (members : List (String × Value)) :
    named ((key, v) :: members) name =
      if key = name then v :: named members name else named members name := by
  by_cases h : key = name <;> simp [named, h]

/-- The first of them is found under the name. -/
theorem head?_named (members : List (String × Value)) (name : String) :
    (named members name).head? = members.lookup name := by
  induction members with
  | nil => rfl
  | cons m members ih =>
      obtain ⟨key, v⟩ := m
      by_cases h : key = name
      · simp [h]
      · rw [named_cons, if_neg h, ih, List.lookup_cons, beq_false_of_ne (Ne.symm h)]

end Value

open Value (named NamesCase)

theorem Strategy.ofValue?_eq_some_iff {v : Value} {s : Strategy} :
    Strategy.ofValue? v = some s ↔ NamesCase v s.name := by
  rw [Strategy.ofValue?, Option.bind_eq_some_iff]
  simp only [Value.caseName?_eq_some_iff, Strategy.ofName?_eq_some_iff, exists_eq_right']

namespace Selector

theorem textOf?_eq_some_iff {v : Value} {s : String} : textOf? v = some s ↔ v = .text s := by
  cases v <;> simp [textOf?]

theorem fallbacksOf?_eq_some_iff {v : Value} {ss : List Selector} :
    fallbacksOf? v = some ss ↔ ∃ items, v = .list items ∧ ofValues? items = some ss := by
  cases v <;> simp [fallbacksOf?]

/-- Selectors are read from a list of values one by one. -/
theorem ofValues?_eq_some_iff {vs : List Value} {ss : List Selector} :
    ofValues? vs = some ss ↔ vs.map ofValue? = ss.map some := by
  induction vs generalizing ss with
  | nil => cases ss <;> simp [ofValues?]
  | cons v vs ih =>
      simp only [ofValues?, Option.bind_eq_bind, Option.bind_eq_some_iff, Option.pure_def,
        Option.some.injEq]
      cases ss with
      | nil => simp
      | cons s ss => simp [ih]

/-! ## Which data describe a selector -/

/-- The data of a selector have these parts: the data of the strategy, the text, and the data
of the fallbacks. Where the fallbacks are left out there are no data of any. -/
inductive HasParts : Value → Value → String → List Value → Prop
  | pair (v : Value) (text : String) : HasParts (.list [v, .text text]) v text []
  | triple (v : Value) (text : String) (items : List Value) :
      HasParts (.list [v, .text text, .list items]) v text items
  | short {members : List (String × Value)} {v : Value} {text : String}
      (strategy : named members "strategy" = [v]) (value : named members "value" = [.text text])
      (fallbacks : named members "fallbacks" = []) : HasParts (.record members) v text []
  | full {members : List (String × Value)} {v : Value} {text : String} {items : List Value}
      (strategy : named members "strategy" = [v]) (value : named members "value" = [.text text])
      (fallbacks : named members "fallbacks" = [.list items]) :
      HasParts (.record members) v text items

mutual

/-- The data describe the selector. -/
inductive Describes : Value → Selector → Prop
  | node {v strategy : Value} {items : List Value} {l : Locator} {fallbacks : List Selector}
      (parts : HasParts v strategy l.value items) (name : NamesCase strategy l.strategy.name)
      (others : DescribeAll items fallbacks) : Describes v ⟨l, fallbacks⟩

/-- The data describe the selectors, each its own, in order. -/
inductive DescribeAll : List Value → List Selector → Prop
  | nil : DescribeAll [] []
  | cons {v : Value} {vs : List Value} {s : Selector} {ss : List Selector}
      (first : Describes v s) (others : DescribeAll vs ss) : DescribeAll (v :: vs) (s :: ss)

end

theorem describes_iff {v : Value} {l : Locator} {fallbacks : List Selector} :
    Describes v ⟨l, fallbacks⟩ ↔ ∃ strategy items, HasParts v strategy l.value items ∧
      NamesCase strategy l.strategy.name ∧ DescribeAll items fallbacks := by
  constructor
  · rintro ⟨parts, name, others⟩
    exact ⟨_, _, parts, name, others⟩
  · rintro ⟨strategy, items, parts, name, others⟩
    exact .node parts name others

/-! ## Reading one record -/

section Draft

variable {key : String} {v : Value} {members : List (String × Value)}
  {strategy : Option Strategy} {value : Option String} {fallbacks : Option (List Selector)}

/-- A strategy is read from its member, and there must be no other of this name. -/
theorem draftOf?_cons_strategy :
    draftOf? (("strategy", v) :: members) = some ⟨strategy, value, fallbacks⟩ ↔
      ∃ s, strategy = some s ∧ Strategy.ofValue? v = some s ∧
        draftOf? members = some ⟨none, value, fallbacks⟩ := by
  simp only [draftOf?, Option.bind_eq_bind, Option.bind_eq_some_iff, Option.pure_def, if_true]
  constructor
  · rintro ⟨⟨before, _, _⟩, hmembers, s, hs, h⟩
    cases before with
    | some t => exact absurd h (by simp)
    | none =>
        simp only [Option.isSome_none, Bool.false_eq_true, if_false, Option.some.injEq,
          Draft.mk.injEq] at h
        obtain ⟨rfl, rfl, rfl⟩ := h
        exact ⟨s, rfl, hs, hmembers⟩
  · rintro ⟨s, rfl, hs, hmembers⟩
    exact ⟨_, hmembers, s, hs, rfl⟩

theorem draftOf?_cons_value :
    draftOf? (("value", v) :: members) = some ⟨strategy, value, fallbacks⟩ ↔
      ∃ text, value = some text ∧ textOf? v = some text ∧
        draftOf? members = some ⟨strategy, none, fallbacks⟩ := by
  simp only [draftOf?, Option.bind_eq_bind, Option.bind_eq_some_iff, Option.pure_def, if_true,
    if_neg (by decide : ¬ "value" = "strategy")]
  constructor
  · rintro ⟨⟨_, before, _⟩, hmembers, text, htext, h⟩
    cases before with
    | some t => exact absurd h (by simp)
    | none =>
        simp only [Option.isSome_none, Bool.false_eq_true, if_false, Option.some.injEq,
          Draft.mk.injEq] at h
        obtain ⟨rfl, rfl, rfl⟩ := h
        exact ⟨text, rfl, htext, hmembers⟩
  · rintro ⟨text, rfl, htext, hmembers⟩
    exact ⟨_, hmembers, text, htext, rfl⟩

theorem draftOf?_cons_fallbacks :
    draftOf? (("fallbacks", v) :: members) = some ⟨strategy, value, fallbacks⟩ ↔
      ∃ ss, fallbacks = some ss ∧ fallbacksOf? v = some ss ∧
        draftOf? members = some ⟨strategy, value, none⟩ := by
  simp only [draftOf?, Option.bind_eq_bind, Option.bind_eq_some_iff, Option.pure_def, if_true,
    if_neg (by decide : ¬ "fallbacks" = "strategy"), if_neg (by decide : ¬ "fallbacks" = "value")]
  constructor
  · rintro ⟨⟨_, _, before⟩, hmembers, ss, hss, h⟩
    cases before with
    | some t => exact absurd h (by simp)
    | none =>
        simp only [Option.isSome_none, Bool.false_eq_true, if_false, Option.some.injEq,
          Draft.mk.injEq] at h
        obtain ⟨rfl, rfl, rfl⟩ := h
        exact ⟨ss, rfl, hss, hmembers⟩
  · rintro ⟨ss, rfl, hss, hmembers⟩
    exact ⟨_, hmembers, ss, hss, rfl⟩

/-- A member with another name is ignored. -/
theorem draftOf?_cons_other (hstrategy : key ≠ "strategy") (hvalue : key ≠ "value")
    (hfallbacks : key ≠ "fallbacks") : draftOf? ((key, v) :: members) = draftOf? members := by
  simp [draftOf?, hstrategy, hvalue, hfallbacks]

/-- **Each known name has at most one member**, which is read by itself; the order of the
members and those with other names do not matter. -/
theorem draftOf?_eq_some_iff :
    draftOf? members = some ⟨strategy, value, fallbacks⟩ ↔
      (named members "strategy").map Strategy.ofValue? = strategy.toList.map some ∧
      (named members "value").map textOf? = value.toList.map some ∧
      (named members "fallbacks").map fallbacksOf? = fallbacks.toList.map some := by
  induction members generalizing strategy value fallbacks with
  | nil => cases strategy <;> cases value <;> cases fallbacks <;> simp [draftOf?]
  | cons m members ih =>
      obtain ⟨key, v⟩ := m
      by_cases hstrategy : key = "strategy"
      · subst hstrategy
        rw [draftOf?_cons_strategy]
        cases strategy <;> simp [ih, and_assoc]
      · by_cases hvalue : key = "value"
        · subst hvalue
          rw [draftOf?_cons_value]
          cases value <;> simp [ih, and_assoc, and_left_comm]
        · by_cases hfallbacks : key = "fallbacks"
          · subst hfallbacks
            rw [draftOf?_cons_fallbacks]
            cases fallbacks <;> simp [ih, and_left_comm]
          · rw [draftOf?_cons_other hstrategy hvalue hfallbacks, ih]
            simp [hstrategy, hvalue, hfallbacks]

end Draft

/-- A record has the parts of a selector when it can be read member by member. -/
theorem ofValue?_record_iff {members : List (String × Value)} {l : Locator}
    {fallbacks : List Selector} :
    ofValue? (.record members) = some ⟨l, fallbacks⟩ ↔
      ∃ strategy items, HasParts (.record members) strategy l.value items ∧
        NamesCase strategy l.strategy.name ∧ ofValues? items = some fallbacks := by
  obtain ⟨strategy, text⟩ := l
  rw [ofValue?, Option.bind_eq_some_iff]
  constructor
  · rintro ⟨⟨strategy?, value?, fallbacks?⟩, hdraft, hcomplete⟩
    simp only [Draft.complete?, Option.bind_eq_bind, Option.bind_eq_some_iff, Option.pure_def,
      Option.some.injEq, mk.injEq, Locator.mk.injEq] at hcomplete
    obtain ⟨_, rfl, _, rfl, ⟨rfl, rfl⟩, rfl⟩ := hcomplete
    obtain ⟨hstrategy, hvalue, hfallbacks⟩ := draftOf?_eq_some_iff.1 hdraft
    obtain ⟨v, hv, hname⟩ := List.map_eq_singleton_iff.1 hstrategy
    obtain ⟨w, hw, htext⟩ := List.map_eq_singleton_iff.1 hvalue
    rw [Strategy.ofValue?_eq_some_iff] at hname
    obtain rfl := textOf?_eq_some_iff.1 htext
    cases fallbacks? with
    | none => exact ⟨v, [], .short hv hw (List.map_eq_nil_iff.1 hfallbacks), hname, rfl⟩
    | some ss =>
        obtain ⟨x, hx, hread⟩ := List.map_eq_singleton_iff.1 hfallbacks
        obtain ⟨items, rfl, hitems⟩ := fallbacksOf?_eq_some_iff.1 hread
        exact ⟨v, items, .full hv hw hx, hname, hitems⟩
  · rintro ⟨v, items, hparts, hname, hitems⟩
    rw [← Strategy.ofValue?_eq_some_iff] at hname
    cases hparts with
    | short hv hw hx =>
        refine ⟨⟨some strategy, some text, none⟩, draftOf?_eq_some_iff.2 ?_, ?_⟩
        · rw [hv, hw, hx]
          exact ⟨by simpa using hname, rfl, rfl⟩
        · obtain rfl := Option.some.inj hitems
          rfl
    | full hv hw hx =>
        refine ⟨⟨some strategy, some text, some fallbacks⟩, draftOf?_eq_some_iff.2 ?_, rfl⟩
        rw [hv, hw, hx]
        exact ⟨by simpa using hname, rfl, by simpa [fallbacksOf?] using hitems⟩

/-- **A selector is read from its parts**, in whichever way the data give them. -/
theorem ofValue?_iff_hasParts {v : Value} {l : Locator} {fallbacks : List Selector} :
    ofValue? v = some ⟨l, fallbacks⟩ ↔
      ∃ strategy items, HasParts v strategy l.value items ∧
        NamesCase strategy l.strategy.name ∧ ofValues? items = some fallbacks := by
  constructor
  · intro h
    unfold ofValue? at h
    split at h
    · simp only [Option.bind_eq_bind, Option.bind_eq_some_iff, Option.pure_def,
        Option.some.injEq, Strategy.ofValue?_eq_some_iff, textOf?_eq_some_iff] at h
      obtain ⟨_, hname, text, rfl, ⟨⟩⟩ := h
      exact ⟨_, [], .pair _ text, hname, rfl⟩
    · simp only [Option.bind_eq_bind, Option.bind_eq_some_iff, Option.pure_def,
        Option.some.injEq, Strategy.ofValue?_eq_some_iff, textOf?_eq_some_iff,
        fallbacksOf?_eq_some_iff] at h
      obtain ⟨_, hname, text, rfl, _, ⟨items, rfl, hitems⟩, ⟨⟩⟩ := h
      exact ⟨_, items, .triple _ text items, hname, hitems⟩
    · rename_i members
      exact ofValue?_record_iff.1 (by rw [ofValue?]; exact h)
    · exact absurd h (Option.some_ne_none _).symm
  · rintro ⟨strategy, items, hparts, hname, hitems⟩
    cases hparts with
    | pair _ _ =>
        obtain rfl := Option.some.inj hitems
        rw [← Strategy.ofValue?_eq_some_iff] at hname
        simp [ofValue?, hname, textOf?]
    | triple _ _ _ =>
        rw [← Strategy.ofValue?_eq_some_iff] at hname
        simp [ofValue?, hname, textOf?, fallbacksOf?, hitems]
    | short hv hw hx => exact ofValue?_record_iff.2 ⟨_, _, .short hv hw hx, hname, hitems⟩
    | full hv hw hx => exact ofValue?_record_iff.2 ⟨_, _, .full hv hw hx, hname, hitems⟩

/-! ## Reading at every depth -/

mutual

/-- **Data are read as a selector exactly when they describe it.** -/
theorem ofValue?_eq_some_iff : ∀ (s : Selector) (v : Value), ofValue? v = some s ↔ Describes v s
  | ⟨l, fallbacks⟩, v => by
      simp only [ofValue?_iff_hasParts, describes_iff, ofValues?_iff_describeAll fallbacks]

theorem ofValues?_iff_describeAll : ∀ (ss : List Selector) (vs : List Value),
    ofValues? vs = some ss ↔ DescribeAll vs ss
  | [], vs => by
      rw [ofValues?_eq_some_iff, List.map_nil, List.map_eq_nil_iff]
      constructor
      · rintro rfl
        exact .nil
      · rintro ⟨⟩
        rfl
  | s :: ss, vs => by
      cases vs with
      | nil => exact iff_of_false (by simp [ofValues?]) nofun
      | cons v vs =>
          rw [ofValues?_eq_some_iff, List.map_cons, List.map_cons, List.cons.injEq,
            ← ofValues?_eq_some_iff, ofValue?_eq_some_iff s v, ofValues?_iff_describeAll ss vs]
          constructor
          · rintro ⟨hfirst, hothers⟩
            exact .cons hfirst hothers
          · intro h
            cases h with
            | cons hfirst hothers => exact ⟨hfirst, hothers⟩

end

/-! ## What is written -/

mutual

/-- What is written for a selector describes it. -/
theorem describes_toValue : ∀ s : Selector, Describes s.toValue s
  | ⟨l, fallbacks⟩ => by
      rw [toValue]
      exact .node (.full rfl rfl rfl) (.text _) (describeAll_toValues fallbacks)

theorem describeAll_toValues : ∀ ss : List Selector, DescribeAll (toValues ss) ss
  | [] => by
      rw [toValues]
      exact .nil
  | s :: ss => by
      rw [toValues]
      exact .cons (describes_toValue s) (describeAll_toValues ss)

end

/-- **What is written is read back.** -/
theorem ofValue?_toValue (s : Selector) : ofValue? s.toValue = some s :=
  (ofValue?_eq_some_iff s _).2 (describes_toValue s)

/-! ## Any reader -/

section Reader

variable {read : Value → Option Selector} {readStrategy : Value → Option Strategy}

/-- **What is known of a reader of selectors**: a law for each shape that it accepts, at one
level, with the strategy read by a reader of its own. Nothing is said of what is refused. -/
structure Accepts (read : Value → Option Selector) (readStrategy : Value → Option Strategy) :
    Prop where
  /-- A strategy is accepted by its name. -/
  name (s : Strategy) : readStrategy (.text s.name) = some s
  /-- And as a record with this name alone, which is null. -/
  case (s : Strategy) : readStrategy (.record [(s.name, .null)]) = some s
  /-- A list of two has no fallbacks. -/
  pair {v : Value} {s : Strategy} (text : String) (strategy : readStrategy v = some s) :
    read (.list [v, .text text]) = some (plain ⟨s, text⟩)
  /-- A list of three has those that its last item lists. -/
  triple {v : Value} {s : Strategy} {items : List Value} {fallbacks : List Selector}
    (text : String) (strategy : readStrategy v = some s)
    (others : items.map read = fallbacks.map some) :
    read (.list [v, .text text, .list items]) = some ⟨⟨s, text⟩, fallbacks⟩
  /-- A record may leave the fallbacks out. -/
  short {members : List (String × Value)} {v : Value} {s : Strategy} {text : String}
    (first : named members "strategy" = [v]) (second : named members "value" = [.text text])
    (third : named members "fallbacks" = []) (strategy : readStrategy v = some s) :
    read (.record members) = some (plain ⟨s, text⟩)
  /-- Or it lists them. Members with other names do not matter. -/
  full {members : List (String × Value)} {v : Value} {s : Strategy} {text : String}
    {items : List Value} {fallbacks : List Selector}
    (first : named members "strategy" = [v]) (second : named members "value" = [.text text])
    (third : named members "fallbacks" = [.list items]) (strategy : readStrategy v = some s)
    (others : items.map read = fallbacks.map some) :
    read (.record members) = some ⟨⟨s, text⟩, fallbacks⟩

namespace Accepts

/-- The strategy is read from whatever names it. -/
theorem readStrategy_of_namesCase (h : Accepts read readStrategy) {v : Value} {s : Strategy}
    (hname : NamesCase v s.name) : readStrategy v = some s := by
  generalize htext : s.name = text at hname
  cases hname with
  | text _ => rw [← htext]; exact h.name s
  | record _ => rw [← htext]; exact h.case s

/-- One level of a selector is read from its parts, once the fallbacks are. -/
theorem read_of_hasParts (h : Accepts read readStrategy) {v strategy : Value} {l : Locator}
    {items : List Value} {fallbacks : List Selector} (hparts : HasParts v strategy l.value items)
    (hname : NamesCase strategy l.strategy.name) (hothers : items.map read = fallbacks.map some) :
    read v = some ⟨l, fallbacks⟩ := by
  have hstrategy := h.readStrategy_of_namesCase hname
  have hnone : items = [] → fallbacks = [] := by
    rintro rfl
    exact List.map_eq_nil_iff.1 hothers.symm
  obtain ⟨kind, text⟩ := l
  cases hparts with
  | pair _ _ =>
      rw [hnone rfl]
      exact h.pair text hstrategy
  | triple _ _ _ => exact h.triple text hstrategy hothers
  | short first second third =>
      rw [hnone rfl]
      exact h.short first second third hstrategy
  | full first second third => exact h.full first second third hstrategy hothers

mutual

/-- **A selector is read from all data that describe it**, by induction on the selector. -/
theorem read_of_describes (h : Accepts read readStrategy) :
    ∀ (s : Selector) {v : Value}, Describes v s → read v = some s
  | ⟨_, fallbacks⟩, _, hv => by
      obtain ⟨_, _, hparts, hname, hothers⟩ := describes_iff.1 hv
      exact h.read_of_hasParts hparts hname (h.map_read_of_describeAll fallbacks hothers)

theorem map_read_of_describeAll (h : Accepts read readStrategy) :
    ∀ (ss : List Selector) {vs : List Value}, DescribeAll vs ss → vs.map read = ss.map some
  | [], _, hvs => by
      cases hvs with
      | nil => rfl
  | s :: ss, _, hvs => by
      cases hvs with
      | cons first others =>
          rw [List.map_cons, List.map_cons, h.read_of_describes s first,
            h.map_read_of_describeAll ss others]

end

end Accepts

/-- **A selector survives every way of giving it**, whichever is chosen at each of its levels:
a reader that accepts the shapes reads it from all data that describe it, and what is written
for it is among them. -/
theorem reading_any_encoding (h : Accepts read readStrategy) (s : Selector) :
    (∀ v, Describes v s → read v = some s) ∧ Describes s.toValue s ∧ read s.toValue = some s :=
  ⟨fun _ hv => h.read_of_describes s hv, describes_toValue s,
    h.read_of_describes s (describes_toValue s)⟩

end Reader

/-- The reading of this library accepts the shapes. -/
theorem accepts_ofValue? : Accepts ofValue? Strategy.ofValue? where
  name _ := Strategy.ofValue?_eq_some_iff.2 (.text _)
  case _ := Strategy.ofValue?_eq_some_iff.2 (.record _)
  pair text strategy :=
    ofValue?_iff_hasParts.2 ⟨_, _, .pair _ text, Strategy.ofValue?_eq_some_iff.1 strategy, rfl⟩
  triple text strategy others :=
    ofValue?_iff_hasParts.2 ⟨_, _, .triple _ text _, Strategy.ofValue?_eq_some_iff.1 strategy,
      ofValues?_eq_some_iff.2 others⟩
  short first second third strategy :=
    ofValue?_iff_hasParts.2 ⟨_, _, .short first second third,
      Strategy.ofValue?_eq_some_iff.1 strategy, rfl⟩
  full first second third strategy others :=
    ofValue?_iff_hasParts.2 ⟨_, _, .full first second third,
      Strategy.ofValue?_eq_some_iff.1 strategy, ofValues?_eq_some_iff.2 others⟩

/-- A record whose members stand in another order, with two that are not known, and a list for
its fallback, which has a record for one. -/
def strangeData : Value :=
  .record [("rank", .number ⟨true, 1, []⟩), ("value", .text "#a"), ("strategy", .text "css"),
    ("weight", .number ⟨false, 0, [5]⟩),
    ("fallbacks", .list [.list [.record [("text", .null)], .text "A",
      .list [.record [("strategy", .text "role"), ("value", .text "b")],
        .list [.text "xpath", .text "//c"]]]])]

/-- They are read as the selector that they describe, and so is what is written for it. -/
theorem reading_any_encoding_strange :
    Accepts ofValue? Strategy.ofValue? ∧
      ofValue? strangeData =
        some ⟨⟨.css, "#a"⟩, [⟨⟨.text, "A"⟩, [plain ⟨.role, "b"⟩, plain ⟨.xpath, "//c"⟩]⟩]⟩ ∧
      ofValue? (toValue ⟨⟨.css, "#a"⟩, [⟨⟨.text, "A"⟩, [plain ⟨.role, "b"⟩,
          plain ⟨.xpath, "//c"⟩]⟩]⟩) =
        some ⟨⟨.css, "#a"⟩, [⟨⟨.text, "A"⟩, [plain ⟨.role, "b"⟩, plain ⟨.xpath, "//c"⟩]⟩]⟩ := by
  have hinner : DescribeAll
      [.record [("strategy", .text "role"), ("value", .text "b")], .list [.text "xpath", .text "//c"]]
      [plain ⟨.role, "b"⟩, plain ⟨.xpath, "//c"⟩] :=
    .cons (.node (.short rfl rfl rfl) (.text _) .nil)
      (.cons (.node (.pair _ _) (.text _) .nil) .nil)
  have hdata : Describes strangeData ⟨⟨.css, "#a"⟩, [⟨⟨.text, "A"⟩, [plain ⟨.role, "b"⟩,
      plain ⟨.xpath, "//c"⟩]⟩]⟩ :=
    .node (.full rfl rfl rfl) (.text _)
      (.cons (.node (.triple _ _ _) (.record _) hinner) .nil)
  obtain ⟨hread, -, hwritten⟩ := reading_any_encoding accepts_ofValue?
    ⟨⟨.css, "#a"⟩, [⟨⟨.text, "A"⟩, [plain ⟨.role, "b"⟩, plain ⟨.xpath, "//c"⟩]⟩]⟩
  exact ⟨accepts_ofValue?, hread _ hdata, hwritten⟩

end Selector

end BrowserScript
