/-
# BrowserScript.Proofs.Script.Policies -- one script under both policies

A reading under `abort` stops at the first fault, a reading under `skip` goes on to the
end. **The strict outcome is a function of the lenient one**: the script itself if it
collected no error, and the first of its errors otherwise. The errors are collected in
the order of their lines, and no line has two, so that the first of them is the one with
the smallest number among all lines that fail.
-/
import Mathlib
import BrowserScript.Proofs.Script.Reading

namespace BrowserScript.Script

/-! ## The strict outcome of a lenient one -/

/-- The script itself if it has no error, and otherwise the first of its errors. -/
def strict (s : Script) : Except LineError Script :=
  match s.errors with
  | [] => .ok s
  | e :: _ => .error e

@[simp] theorem strict_consStep (step : Step) (s : Script) :
    strict (consStep step s) = (strict s).map (consStep step) := by
  obtain ⟨steps, errors⟩ := s
  cases errors with
  | nil => rfl
  | cons e errors => rfl

theorem strict_eq_ok_iff {s t : Script} : strict s = .ok t ↔ s.errors = [] ∧ t = s := by
  obtain ⟨steps, errors⟩ := s
  cases errors with
  | nil => simp [strict, eq_comm]
  | cons e errors => simp [strict]

theorem strict_eq_error_iff {s : Script} {e : LineError} :
    strict s = .error e ↔ s.errors.head? = some e := by
  obtain ⟨steps, errors⟩ := s
  cases errors with
  | nil => simp [strict]
  | cons e errors => simp [strict]

/-- **What `abort` yields is the strict outcome of what `skip` yields.** -/
theorem ofLines_abort (line : Nat) (texts : List String) :
    ofLines .abort line texts = (ofLines .skip line texts).bind strict := by
  induction texts generalizing line with
  | nil => rfl
  | cons text texts ih =>
      obtain ⟨s, hs⟩ : ∃ s, ofLines .skip (line + 1) texts = .ok s := ⟨_, ofLines_skip _ _⟩
      have hrest : ofLines .abort (line + 1) texts = strict s := by
        rw [ih, hs]
        rfl
      cases h : Command.ofLine text line with
      | error e =>
          -- `abort` stops here, `skip` puts the error before those of the further lines
          simp only [ofLines, h, hs, Except.map, Except.bind]
          rfl
      | ok command =>
          cases command with
          | none => simp only [ofLines, h, hs, hrest, Except.bind]
          | some c =>
              simp only [ofLines, h, hs, hrest, Except.map, Except.bind, strict_consStep]

/-! ## The errors in their order -/

/-- A line of the source fails, with this error. -/
def FailsWith (source : String) (e : LineError) : Prop :=
  ∃ k text, (lines source)[k]? = some text ∧ Command.ofLine text (k + 1) = .error e

/-- The errors of the lines of a script, the first of which is line 1. -/
theorem mem_errors_iff {source : String} {e : LineError} :
    e ∈ ((lines source).zipIdx 1).filterMap errorAt ↔ FailsWith source e := by
  simp only [List.mem_filterMap, errorAt_eq_some_iff, mem_zipIdx_one_iff]
  constructor
  · rintro ⟨⟨text, line⟩, ⟨k, htext, hnumber⟩, he⟩
    refine ⟨k, text, htext, ?_⟩
    rwa [← hnumber]
  · rintro ⟨k, text, htext, he⟩
    exact ⟨(text, k + 1), ⟨k, htext, rfl⟩, he⟩

/-- The numbers of lines ascend. -/
theorem pairwise_zipIdx (line : Nat) (texts : List String) :
    (texts.zipIdx line).Pairwise (fun p q => p.2 < q.2) := by
  have h := List.pairwise_lt_range' (s := line) (n := texts.length)
  rwa [← List.zipIdx_map_snd, List.pairwise_map] at h

/-- What is made of lines keeps their order, when it bears the number of its line. -/
theorem pairwise_filterMap_zipIdx {α : Type} {f : String × Nat → Option α} {number : α → Nat}
    (h : ∀ p a, f p = some a → number a = p.2) (line : Nat) (texts : List String) :
    ((texts.zipIdx line).filterMap f).Pairwise (fun a b => number a < number b) := by
  rw [List.pairwise_filterMap]
  refine (pairwise_zipIdx line texts).imp fun {p q} hlt a ha b hb => ?_
  rwa [h p a ha, h q b hb]

/-- **Errors are in the order of their lines**, and no line has two. -/
theorem pairwise_errors (line : Nat) (texts : List String) :
    ((texts.zipIdx line).filterMap errorAt).Pairwise (fun e e' => e.line < e'.line) :=
  pairwise_filterMap_zipIdx
    (fun _ _ he => (Command.ofLine_eq_error_iff.1 (errorAt_eq_some_iff.1 he)).1) line texts

/-- The head of a list of errors in the order of their lines is on the least line. -/
theorem head?_eq_some_iff_least {errors : List LineError}
    (h : errors.Pairwise fun e e' => e.line < e'.line) {e : LineError} :
    errors.head? = some e ↔ e ∈ errors ∧ ∀ e' ∈ errors, e.line ≤ e'.line := by
  cases errors with
  | nil => simp
  | cons first others =>
      have hfirst : ∀ e' ∈ others, first.line < e'.line := (List.pairwise_cons.1 h).1
      constructor
      · rintro ⟨⟩
        refine ⟨List.mem_cons_self, fun e' he' => ?_⟩
        rcases List.mem_cons.1 he' with rfl | hother
        · exact le_refl _
        · exact (hfirst e' hother).le
      · rintro ⟨hmem, hleast⟩
        rcases List.mem_cons.1 hmem with rfl | hother
        · rfl
        · exact absurd (hleast first List.mem_cons_self) (hfirst e hother).not_ge

/-! ## Both policies -/

/-- **A script has an outcome under `skip`, which decides that under `abort`.** The latter is
the same script if no error was collected, and otherwise the first error, which is the one
of the failing line with the smallest number. -/
theorem parse_policies (source : String) :
    ∃ s, parse source .skip = .ok s ∧
      (∀ t, parse source .abort = .ok t ↔ s.errors = [] ∧ t = s) ∧
      (∀ e, parse source .abort = .error e ↔ s.errors.head? = some e) ∧
      ∀ e, s.errors.head? = some e ↔
        FailsWith source e ∧ ∀ e', FailsWith source e' → e.line ≤ e'.line := by
  have hskip := ofLines_skip 1 (lines source)
  have habort := ofLines_abort 1 (lines source)
  rw [hskip] at habort
  refine ⟨_, hskip, fun t => ?_, fun e => ?_, fun e => ?_⟩
  · rw [parse, habort]
    exact strict_eq_ok_iff
  · rw [parse, habort]
    exact strict_eq_error_iff
  · rw [head?_eq_some_iff_least (pairwise_errors _ _)]
    simp only [mem_errors_iff]

/-- In this script the second and the third line fail, and `abort` reports the second. -/
theorem parse_policies_click :
    FailsWith "go_back\nclick\nfill css=#a\n" ⟨3, .missingParameter .fill "value"⟩ ∧
      parse "go_back\nclick\nfill css=#a\n" .abort = .error ⟨2, .missingSelector .click⟩ ∧
      ∀ e, FailsWith "go_back\nclick\nfill css=#a\n" e → 2 ≤ e.line := by
  obtain ⟨s, hs, _, herror, hfirst⟩ := parse_policies "go_back\nclick\nfill css=#a\n"
  have hskip : parse "go_back\nclick\nfill css=#a\n" .skip =
      .ok ⟨[⟨1, ⟨.goBack, .ofList [], none⟩⟩],
        [⟨2, .missingSelector .click⟩, ⟨3, .missingParameter .fill "value"⟩]⟩ := by cbv
  obtain rfl := Except.ok.inj (hs.symm.trans hskip)
  have hthird : FailsWith "go_back\nclick\nfill css=#a\n"
      ⟨3, .missingParameter .fill "value"⟩ := ⟨2, "fill css=#a", by decide, by cbv⟩
  exact ⟨hthird, (herror _).2 rfl, ((hfirst _).1 rfl).2⟩

end BrowserScript.Script
