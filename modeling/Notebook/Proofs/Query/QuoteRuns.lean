import Mathlib.Algebra.Group.Nat.Even
import Notebook.Proofs.Query.Tokens
import Notebook.Proofs.Text.Runs

/-! # Runs of quotes

A text as given by the user is cut into its maximal runs of quotes. Reading and writing literals works on each
run alone: writing doubles its length, and reading a literal leniently halves it, rounding up.
-/

namespace Notebook

/-! ## Runs -/

/-- The pieces of a text: every maximal run of quotes, and every other character alone. -/
def quoteRuns (t : Text) : List Text := t.splitBy fun a b => a = quoteMark && b = quoteMark

/-- The text with `f k` quotes for every maximal run of `k`. -/
def perRun (f : Nat → Nat) (t : Text) : Text :=
  (quoteRuns t).flatMap fun run => if quoteMark ∈ run then List.replicate (f run.length) quoteMark else run

theorem quoteRuns_other {c : Char} (hc : c ≠ quoteMark) (t : Text) : quoteRuns (c :: t) = [c] :: quoteRuns t :=
  Text.runs_other (p := (· = quoteMark)) (by simpa using hc) t

theorem quoteRuns_run {k : Nat} (hk : 0 < k) {t : Text} (ht : t.head? ≠ some quoteMark) :
    quoteRuns (List.replicate k quoteMark ++ t) = List.replicate k quoteMark :: quoteRuns t := by
  refine Text.runs_run (p := (· = quoteMark)) (List.ne_nil_of_length_pos (by simpa using hk)) (by simp) ?_
  rintro c hc
  exact decide_eq_false fun h => ht (h ▸ hc)

@[elab_as_elim]
theorem runInduction {P : Text → Prop} (nil : P []) (other : ∀ c t, c ≠ quoteMark → P t → P (c :: t))
    (run : ∀ k t, 0 < k → t.head? ≠ some quoteMark → P t → P (List.replicate k quoteMark ++ t)) (t : Text) : P t := by
  induction t using Text.runInduction (p := (· = quoteMark)) with
  | nil => exact nil
  | other c t hc ih => exact other c t (by simpa using hc) ih
  | run quotes t hne hall ht ih =>
    rw [List.eq_replicate_of_mem fun c hc => of_decide_eq_true (hall c hc)]
    refine run quotes.length t (List.length_pos_iff.2 hne) (fun h => ?_) ih
    simpa using ht quoteMark h

/-! ## Texts changed run by run -/

section

variable (f g : Nat → Nat)

theorem perRun_nil : perRun f [] = [] := rfl

theorem perRun_other {c : Char} (hc : c ≠ quoteMark) (t : Text) : perRun f (c :: t) = c :: perRun f t := by
  simp [perRun, quoteRuns_other hc, hc.symm]

theorem perRun_run {k : Nat} (hk : 0 < k) {t : Text} (ht : t.head? ≠ some quoteMark) :
    perRun f (List.replicate k quoteMark ++ t) = List.replicate (f k) quoteMark ++ perRun f t := by
  simp [perRun, quoteRuns_run hk ht, Nat.ne_of_gt hk]

theorem perRun_self (t : Text) : perRun (fun k => k) t = t := by
  induction t using runInduction with
  | nil => rfl
  | other c t hc ih => rw [perRun_other _ hc, ih]
  | run k t hk ht ih => rw [perRun_run _ hk ht, ih]

variable {f g}

section

variable (hf : ∀ k, 0 < k → 0 < f k)

include hf

theorem head?_perRun (t : Text) : (perRun f t).head? = t.head? := by
  induction t using runInduction with
  | nil => rfl
  | other c t hc ih => rw [perRun_other _ hc, List.head?_cons, List.head?_cons]
  | run k t hk ht ih =>
    have hne : f k ≠ 0 := Nat.ne_of_gt (hf k hk)
    simp [perRun_run _ hk ht, List.head?_replicate, hne, Nat.ne_of_gt hk]

/-- No run is lost and none meets another: those of the new text are as long as the change says. -/
theorem length_of_mem_quoteRuns_perRun (t : Text) :
    ∀ run ∈ quoteRuns (perRun f t), quoteMark ∈ run → ∃ k, run.length = f k := by
  induction t using runInduction with
  | nil => simp [perRun_nil, quoteRuns]
  | other c t hc ih =>
    rw [perRun_other _ hc, quoteRuns_other hc]
    intro run hrun hquote
    rcases List.mem_cons.1 hrun with rfl | hrun
    · exact absurd (List.mem_singleton.1 hquote).symm hc
    · exact ih run hrun hquote
  | run k t hk ht ih =>
    have hnext : (perRun f t).head? ≠ some quoteMark := by rwa [head?_perRun hf]
    rw [perRun_run _ hk ht, quoteRuns_run (hf k hk) hnext]
    intro run hrun hquote
    rcases List.mem_cons.1 hrun with rfl | hrun
    · exact ⟨k, List.length_replicate⟩
    · exact ih run hrun hquote

theorem perRun_perRun (t : Text) : perRun g (perRun f t) = perRun (fun k => g (f k)) t := by
  induction t using runInduction with
  | nil => rfl
  | other c t hc ih => rw [perRun_other _ hc, perRun_other _ hc, perRun_other _ hc, ih]
  | run k t hk ht ih =>
    have hnext : (perRun f t).head? ≠ some quoteMark := by rwa [head?_perRun hf]
    rw [perRun_run _ hk ht, perRun_run _ (hf k hk) hnext, perRun_run _ hk ht, ih]

end

end

/-! ## Writing and reading, run by run -/

theorem doubled_run (k : Nat) : (List.replicate k quoteMark).flatMap doubledChar = List.replicate (2 * k) quoteMark := by
  induction k with
  | zero => rfl
  | succ k ih =>
    rw [List.replicate_succ, List.flatMap_cons, ih, doubledChar, if_pos rfl, Nat.mul_succ, Nat.add_comm,
      List.replicate_add]
    rfl

theorem doubled_eq (t : Text) : t.flatMap doubledChar = perRun (fun k => 2 * k) t := by
  induction t using runInduction with
  | nil => rfl
  | other c t hc ih => rw [perRun_other _ hc, List.flatMap_cons, ih, doubledChar, if_neg hc, List.singleton_append]
  | run k t hk ht ih => rw [perRun_run _ hk ht, List.flatMap_append, ih, doubled_run]

theorem halved_other {c : Char} (hc : c ≠ quoteMark) (t : Text) : halved (c :: t) = c :: halved t := by
  cases t with
  | nil => rfl
  | cons d t => simp [halved, hc]

theorem halved_run (k : Nat) {t : Text} (ht : t.head? ≠ some quoteMark) :
    halved (List.replicate k quoteMark ++ t) = List.replicate ((k + 1) / 2) quoteMark ++ halved t := by
  induction k using Nat.twoStepInduction with
  | zero => rfl
  | one =>
    cases t with
    | nil => rfl
    | cons d t =>
      have hd : d ≠ quoteMark := by simpa using ht
      simp [halved, hd]
  | more k ih _ =>
    have hhalf : (k + 2 + 1) / 2 = (k + 1) / 2 + 1 := by omega
    rw [hhalf, List.replicate_succ, List.replicate_succ, List.replicate_succ, List.cons_append, List.cons_append,
      List.cons_append, halved, if_pos (by simp), ih]

theorem halved_eq (t : Text) : halved t = perRun (fun k => (k + 1) / 2) t := by
  induction t using runInduction with
  | nil => rfl
  | other c t hc ih => rw [perRun_other _ hc, halved_other hc, ih]
  | run k t hk ht ih => rw [perRun_run _ hk ht, halved_run k ht, ih]

theorem halved_doubled (t : Text) : halved (t.flatMap doubledChar) = t := by
  have hhalf : (fun k => (2 * k + 1) / 2) = fun k => k := by
    funext k
    omega
  rw [doubled_eq, halved_eq, perRun_perRun (by omega), hhalf, perRun_self]

/-! ## Texts as given by the user -/

theorem isWrapped_iff {v : Text} : isWrapped v = true ↔ ∃ core, v = quoteMark :: core ++ [quoteMark] := by
  simp only [isWrapped, Bool.and_eq_true, decide_eq_true_eq]
  constructor
  · rintro ⟨⟨hlength, hfirst⟩, hlast⟩
    obtain ⟨rest, rfl⟩ := List.head?_eq_some_iff.1 hfirst
    obtain ⟨core, hcore⟩ := List.getLast?_eq_some_iff.1 hlast
    rcases core with _ | ⟨c, core⟩
    · simp_all
    · obtain ⟨rfl, rfl⟩ := List.cons.inj hcore
      exact ⟨core, rfl⟩
  · rintro ⟨core, rfl⟩
    rw [List.getLast?_concat]
    simp

theorem meant_wrapped (core : Text) : meant (quoteMark :: core ++ [quoteMark]) = perRun (fun k => (k + 1) / 2) core := by
  have hwrapped : isWrapped (quoteMark :: core ++ [quoteMark]) = true := isWrapped_iff.2 ⟨core, rfl⟩
  rw [meant, if_pos hwrapped, List.cons_append, List.drop_one, List.tail_cons, List.dropLast_concat, halved_eq]

theorem meant_unwrapped {v : Text} (h : ∀ core, v ≠ quoteMark :: core ++ [quoteMark]) : meant v = v := by
  have hunwrapped : ¬ isWrapped v = true := fun hw => by
    obtain ⟨core, hcore⟩ := isWrapped_iff.1 hw
    exact h core hcore
  rw [meant, if_neg hunwrapped]

theorem doubled_meant_wrapped (core : Text) :
    (meant (quoteMark :: core ++ [quoteMark])).flatMap doubledChar =
      perRun (fun k => if k % 2 = 1 then k + 1 else k) core := by
  have hround : (fun k => 2 * ((k + 1) / 2)) = fun k => if k % 2 = 1 then k + 1 else k := by
    funext k
    split <;> omega
  rw [meant_wrapped, doubled_eq, perRun_perRun (by omega), hround]

theorem escapeLiteral_literalOf (t : Text) : escapeLiteral (literalOf t) = literalOf t := by
  have hmeant : meant (literalOf t) = t := by
    rw [literalOf, meant_wrapped, ← halved_eq, halved_doubled]
  rw [escapeLiteral, hmeant]

/-- What a text is escaped to stands between two quotes, with runs of even length only in between, and is read
whole as one literal: it denotes the text, or the inside of a text that came in quotes, with its runs halved. -/
theorem escapeLiteral_is_one_literal (v : Text) :
    ∃ inside value, escapeLiteral v = quoteMark :: inside ++ [quoteMark] ∧
      (∀ run ∈ quoteRuns inside, quoteMark ∈ run → Even run.length) ∧
      (∀ rest : Text, rest.head? ≠ some quoteMark →
        readToken? (escapeLiteral v ++ rest) = some (.literal value, rest)) ∧
      ((∀ core, v ≠ quoteMark :: core ++ [quoteMark]) → value = v) ∧
      (∀ core, v = quoteMark :: core ++ [quoteMark] → value = perRun (fun k => (k + 1) / 2) core ∧
        inside = perRun (fun k => if k % 2 = 1 then k + 1 else k) core) ∧
      escapeLiteral (escapeLiteral v) = escapeLiteral v := by
  refine ⟨(meant v).flatMap doubledChar, meant v, rfl, ?_, ?_, meant_unwrapped, ?_, ?_⟩
  · rw [doubled_eq]
    intro run hrun hquote
    obtain ⟨k, hk⟩ := length_of_mem_quoteRuns_perRun (by omega) (meant v) run hrun hquote
    rw [hk]
    exact ⟨k, Nat.two_mul k⟩
  · intro rest hrest
    exact readToken?_literalOf (meant v) hrest
  · rintro core rfl
    exact ⟨meant_wrapped core, doubled_meant_wrapped core⟩
  · exact escapeLiteral_literalOf (meant v)

theorem escapeLiteral_is_one_literal_inQuotes_and_plain :
    readToken? (escapeLiteral "\x27a\x27\x27\x27b\x27".toList ++ " INTERSECT".toList) =
        some (.literal "a\x27\x27b".toList, " INTERSECT".toList) ∧
      readToken? (escapeLiteral "O\x27Brien\x27".toList) = some (.literal "O\x27Brien\x27".toList, []) := by
  obtain ⟨_, _, _, _, hread, _, hcore, _⟩ := escapeLiteral_is_one_literal "\x27a\x27\x27\x27b\x27".toList
  obtain ⟨_, _, _, _, hreadPlain, hplain, _, _⟩ := escapeLiteral_is_one_literal "O\x27Brien\x27".toList
  constructor
  · rw [hread _ (by decide), (hcore "a\x27\x27\x27b".toList (by decide)).1]
    decide
  · have hunwrapped : ∀ core, "O\x27Brien\x27".toList ≠ quoteMark :: core ++ [quoteMark] := fun core h => by
      have hwrapped := isWrapped_iff.2 ⟨core, h⟩
      revert hwrapped
      decide
    have hwhole := hreadPlain [] (by decide)
    rwa [List.append_nil, hplain hunwrapped] at hwhole

end Notebook
